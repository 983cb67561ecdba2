import Signoff.Proofs.Analysis.Scenarios

/-!
# What a keyword does

The pattern of a line takes a keyword by case folding, and what is then done is looked up by the
letters of ASCII, with a branch for every other word.  So a keyword has its own branch if it has
neither a long s nor a Kelvin sign, and the branch for other words if it has one of them, in all
kinds of lines (`branch_of_keyword`).
-/

namespace Signoff

open Text Number

/-! ## Figures of slack -/

inductive SlackName
  | worst
  | total
  | violations
deriving DecidableEq

namespace SlackName

def word : SlackName → List Char
  | worst => "wns".toList
  | total => "tns".toList
  | violations => "nvp".toList

end SlackName

namespace Slack

variable {s : Slack} {item : List Char × List Char}

/-- Sets the figure of a name. -/
def put (s : Slack) (name : SlackName) (figure : List Char) : Slack :=
  match name with
  | .worst => { s with worst := readReal? figure }
  | .total => { s with total := readReal? figure }
  | .violations => { s with violations := readCount? figure }

theorem set_eq_put {name : SlackName} (h : folded item.1 = name.word) :
    s.set item = s.put (if Plain item.1 then name else .violations) item.2 := by
  have hwns : IsKeyword "wns".toList := by decide
  have htns : IsKeyword "tns".toList := by decide
  unfold set
  simp only [sameLetters_iff hwns, sameLetters_iff htns, h]
  -- a word that is not plain fails both comparisons
  by_cases hplain : Plain item.1
  · simp only [hplain, true_and, if_true]
    cases name <;> rfl
  · simp only [hplain, false_and, if_false]
    rfl

theorem exists_name_of_mem_items {line : List Char} (h : item ∈ items line) :
    ∃ name : SlackName, folded item.1 = name.word := by
  obtain ⟨-, name, hmem, hfolded⟩ := folded_of_mem_items h
  simp only [names, List.mem_cons, List.not_mem_nil, or_false] at hmem
  rcases hmem with rfl | rfl | rfl
  · exact ⟨.worst, hfolded⟩
  · exact ⟨.total, hfolded⟩
  · exact ⟨.violations, hfolded⟩

end Slack

theorem Scenario.ofWord_eq {word : List Char} {s : Scenario} (h : folded word = s.word) :
    ofWord word = if Plain word then s else hold := by
  have hsetup : IsKeyword "setup".toList := by decide
  unfold ofWord
  simp only [sameLetters_iff hsetup, h]
  by_cases hplain : Plain word
  · simp only [hplain, true_and, if_true]
    cases s <;> rfl
  · simp only [hplain, false_and, if_false]

/-! ## Units of latency and skew -/

inductive ClockUnit
  | picoseconds
  | nanoseconds
deriving DecidableEq

namespace ClockUnit

def word : ClockUnit → List Char
  | picoseconds => "ps".toList
  | nanoseconds => "ns".toList

/-- A value of the unit in picoseconds. -/
def scale : ClockUnit → Binary64 → Binary64
  | picoseconds => id
  | nanoseconds => (·.mul (Binary64.ofNat 1000))

end ClockUnit

namespace ClockTree

theorem exists_unit_of_quantity? {name : String} {before : Option Char} {cs : List Char}
    {figure word : List Char} (h : quantity? name before cs = some (figure, some word)) :
    ∃ unit : ClockUnit, folded word = unit.word := by
  unfold quantity? at h
  split at h
  next =>
    obtain ⟨⟨taken, more⟩, -, h⟩ := Option.bind_eq_some_iff.mp h
    obtain ⟨behind, -, h⟩ := Option.bind_eq_some_iff.mp h
    obtain ⟨⟨digits, left⟩, -, h⟩ := Option.bind_eq_some_iff.mp h
    obtain ⟨-, hunit⟩ := Prod.mk.inj (Option.some.inj h)
    obtain ⟨⟨written, rest⟩, hwritten, rfl⟩ := Option.map_eq_some_iff.mp hunit
    obtain ⟨-, hfolded⟩ := folded_of_firstKeyword? (by decide) hwritten
    simp only [List.mem_cons, List.not_mem_nil, or_false] at hfolded
    rcases hfolded with hfolded | hfolded
    · exact ⟨.picoseconds, hfolded⟩
    · exact ⟨.nanoseconds, hfolded⟩
  next => exact nomatch h

theorem inPicoseconds?_eq {figure word : List Char} {unit : ClockUnit}
    (h : folded word = unit.word) : inPicoseconds? (figure, some word) =
      (readReal? figure).map (if Plain word then unit else .picoseconds).scale := by
  have hns : IsKeyword "ns".toList := by decide
  unfold inPicoseconds?
  dsimp only
  cases readReal? figure with
  | none => rfl
  | some value =>
    simp only [sameLetters_iff hns, h, Option.bind_eq_bind, Option.bind_some, Option.map_some]
    by_cases hplain : Plain word
    · simp only [hplain, true_and, if_true]
      cases unit <;> rfl
    · simp only [hplain, false_and, if_false]
      rfl

end ClockTree

/-! ## Outcomes of attempts -/

namespace AttemptTally

/-- The outcomes that count as a success. -/
def goodWords : List String := ["success", "succeeded", "ok", "passed"]

/-- Counts an attempt. -/
def enter (t : AttemptTally) (success : Bool) (line : List Char) : AttemptTally where
  succeeded := if success then t.succeeded + 1 else t.succeeded
  failed := if success then t.failed else t.failed + 1
  latest := some (String.ofList (trim line))

theorem isSuccess_iff {word : List Char} :
    isSuccess word = true ↔ Plain word ∧ ∃ good ∈ goodWords, folded word = good.toList := by
  have hgood : ∀ good ∈ goodWords, IsKeyword good.toList := by decide
  unfold isSuccess
  rw [List.any_eq_true]
  constructor
  · rintro ⟨good, hmem, hsame⟩
    obtain ⟨hplain, hfolded⟩ := (sameLetters_iff (hgood good hmem)).mp hsame
    exact ⟨hplain, good, hmem, hfolded⟩
  · rintro ⟨hplain, good, hmem, hfolded⟩
    exact ⟨good, hmem, (sameLetters_iff (hgood good hmem)).mpr ⟨hplain, hfolded⟩⟩

theorem readLine_eq_enter {t : AttemptTally} {line word : List Char}
    (h : outcomeWord? line = some word) : t.readLine line = t.enter (isSuccess word) line := by
  unfold readLine enter
  rw [h]
  dsimp only
  cases isSuccess word <;> rfl

theorem folded_of_outcomeWord? {line word : List Char} (h : outcomeWord? line = some word) :
    ∃ outcome ∈ outcomeWords, folded word = outcome.toList := by
  obtain ⟨before, place, -, hattempt⟩ := exists_of_firstFrom? h
  unfold attempt? at hattempt
  split at hattempt
  next =>
    obtain ⟨⟨release, more⟩, -, hattempt⟩ := Option.bind_eq_some_iff.mp hattempt
    obtain ⟨behind, -, hattempt⟩ := Option.bind_eq_some_iff.mp hattempt
    obtain ⟨⟨attempt, left⟩, -, hattempt⟩ := Option.bind_eq_some_iff.mp hattempt
    obtain ⟨before', place', -, houtcome⟩ := exists_of_firstFrom? hattempt
    unfold outcome? at houtcome
    split at houtcome
    next c rest =>
      split at houtcome
      · obtain ⟨⟨written, tail⟩, hwhole, rfl⟩ := Option.map_eq_some_iff.mp houtcome
        exact (folded_of_wholeKeyword? (by decide) hwhole).2
      · exact nomatch houtcome
    next => exact nomatch houtcome
  next => exact nomatch hattempt

end AttemptTally

/-! ## Keywords -/

/-- What is done with a keyword of a scenario header, of a figure of slack, of a rule, of a unit of
time or of the outcome of an attempt.  It is what stands for the keyword that the word is folded
to, if the word has only letters of ASCII; else it is what is done with all other words. -/
theorem branch_of_keyword (line : List Char) :
    (∀ word, Scenario.headerWord? line = some word →
      ∃ s : Scenario, folded word = s.word ∧
        Scenario.ofHeader? line = some (if Plain word then s else .hold)) ∧
    (∀ item ∈ Slack.items line,
      ∃ name : SlackName, folded item.1 = name.word ∧
        ∀ s : Slack, s.set item = s.put (if Plain item.1 then name else .violations) item.2) ∧
    (∀ entry, RuleCounts.entry? line = some entry →
      ∃ rule : PhysicalRule, folded entry.1 = rule.word ∧
        ∀ (counts : RuleCounts) (r : PhysicalRule), (counts.set entry).count r =
          if r = (if Plain entry.1 then rule else .antenna) then RuleCounts.countOf entry.2
          else counts.count r) ∧
    (∀ name figure word,
      firstFrom? (ClockTree.quantity? name) none line = some (figure, some word) →
      ∃ unit : ClockUnit, folded word = unit.word ∧
        ClockTree.find? name line =
          (readReal? figure).map (if Plain word then unit else .picoseconds).scale) ∧
    (∀ word, AttemptTally.outcomeWord? line = some word →
      ∃ outcome ∈ AttemptTally.outcomeWords, folded word = outcome.toList ∧
        ∀ t : AttemptTally,
          t.readLine line = t.enter (Plain word ∧ outcome ∈ AttemptTally.goodWords) line) := by
  refine ⟨fun word h => ?_, fun item h => ?_, fun entry h => ?_, fun name figure word h => ?_,
    fun word h => ?_⟩
  -- each reader gives a word that is folded to one of its keywords
  · obtain ⟨-, s, hs⟩ := Scenario.folded_of_headerWord? h
    refine ⟨s, hs, ?_⟩
    rw [Scenario.ofHeader?, h, Option.map_some, Scenario.ofWord_eq hs]
  · obtain ⟨name, hname⟩ := Slack.exists_name_of_mem_items h
    exact ⟨name, hname, fun s => Slack.set_eq_put hname⟩
  · obtain ⟨⟨rule, hrule⟩, -⟩ := RuleCounts.entry?_eq_some h
    exact ⟨rule, hrule, fun counts r => RuleCounts.count_set hrule r⟩
  · obtain ⟨before, place, -, hquantity⟩ := exists_of_firstFrom? h
    obtain ⟨unit, hunit⟩ := ClockTree.exists_unit_of_quantity? hquantity
    refine ⟨unit, hunit, ?_⟩
    rw [ClockTree.find?, h, Option.bind_some, ClockTree.inPicoseconds?_eq hunit]
  · obtain ⟨outcome, hmem, houtcome⟩ := AttemptTally.folded_of_outcomeWord? h
    refine ⟨outcome, hmem, houtcome, fun t => ?_⟩
    have hsuccess : AttemptTally.isSuccess word =
        decide (Plain word ∧ outcome ∈ AttemptTally.goodWords) := by
      rw [Bool.eq_iff_iff, AttemptTally.isSuccess_iff, houtcome, decide_eq_true_iff]
      simp only [String.toList_inj, exists_eq_right']
    rw [AttemptTally.readLine_eq_enter h, hsuccess]

/-- One line of each kind, whose keyword has a capital letter. -/
theorem branch_of_keyword_capitals :
    Scenario.ofHeader? "Scenario: Setup".toList = some .setup ∧
    (∃ item ∈ Slack.items "WNS=-0.5".toList, ∀ s : Slack, s.set item = s.put .worst item.2) ∧
    (∃ entry, RuleCounts.entry? "LVS: 6".toList = some entry ∧
      ∀ counts : RuleCounts, (counts.set entry).lvs = some 6) ∧
    ClockTree.find? "latency" "Clock core Latency: 2 NS".toList =
      (readReal? "2".toList).map ClockUnit.nanoseconds.scale ∧
    ∀ t : AttemptTally,
      (t.readLine "Release attempt 1: OK".toList).succeeded = t.succeeded + 1 := by
  refine ⟨?_, ⟨("WNS".toList, "-0.5".toList), by decide +kernel, fun s => ?_⟩,
    ⟨("LVS".toList, "6".toList), by decide +kernel, fun counts => ?_⟩, ?_, fun t => ?_⟩
  · obtain ⟨hheader, -⟩ := branch_of_keyword "Scenario: Setup".toList
    obtain ⟨s, hs, hset⟩ := hheader "Setup".toList (by decide +kernel)
    cases s with
    | setup => exact hset
    | hold => exact absurd hs (by decide)
  · obtain ⟨-, hitem, -⟩ := branch_of_keyword "WNS=-0.5".toList
    obtain ⟨name, hname, hset⟩ := hitem ("WNS".toList, "-0.5".toList) (by decide +kernel)
    cases name with
    | worst => exact hset s
    | total => exact absurd hname (by decide)
    | violations => exact absurd hname (by decide)
  · obtain ⟨-, -, hrule, -⟩ := branch_of_keyword "LVS: 6".toList
    obtain ⟨rule, hname, hset⟩ := hrule ("LVS".toList, "6".toList) (by decide +kernel)
    cases rule with
    | lvs =>
      have hcount := hset counts .lvs
      rw [if_pos (by decide)] at hcount
      exact hcount.trans (by decide +kernel)
    | drc => exact absurd hname (by decide)
    | antenna => exact absurd hname (by decide)
  · obtain ⟨-, -, -, hunit, -⟩ := branch_of_keyword "Clock core Latency: 2 NS".toList
    obtain ⟨unit, hname, hfind⟩ := hunit "latency" "2".toList "NS".toList (by decide +kernel)
    cases unit with
    | nanoseconds => exact hfind
    | picoseconds => exact absurd hname (by decide)
  · obtain ⟨-, -, -, -, houtcome⟩ := branch_of_keyword "Release attempt 1: OK".toList
    obtain ⟨outcome, -, hname, hline⟩ := houtcome "OK".toList (by decide +kernel)
    obtain rfl : outcome = "ok" := String.toList_inj.mp (hname.symm.trans (by decide))
    rw [hline]
    rfl

/-- Words with a long s or a Kelvin sign are found as keywords, and then have the branch of
others. -/
theorem other_branch_of_keyword :
    (∃ word, Scenario.headerWord? "\u017fetup".toList = some word ∧
      folded word = Scenario.setup.word ∧
      Scenario.ofHeader? "\u017fetup".toList = some .hold) ∧
    (∃ item ∈ Slack.items "wn\u017f: 3".toList, folded item.1 = SlackName.worst.word ∧
      Slack.empty.set item = ⟨none, none, some 3⟩) ∧
    (∃ entry, RuleCounts.entry? "LV\u017f: 6".toList = some entry ∧
      folded entry.1 = PhysicalRule.lvs.word ∧
      RuleCounts.empty.set entry = ⟨none, none, some 6⟩) ∧
    (∃ word, firstFrom? (ClockTree.quantity? "latency") none "latency: 2 n\u017f".toList =
        some ("2".toList, some word) ∧ folded word = ClockUnit.nanoseconds.word ∧
      ClockTree.find? "latency" "latency: 2 n\u017f".toList = readReal? "2".toList) ∧
    ∃ word, AttemptTally.outcomeWord? "release attempt: o\u212a".toList = some word ∧
      folded word = "ok".toList ∧
      (AttemptTally.empty.readLine "release attempt: o\u212a".toList).failed = 1 := by
  refine ⟨⟨"\u017fetup".toList, ?_, ?_, ?_⟩,
    ⟨("wn\u017f".toList, "3".toList), ?_, ?_, ?_⟩,
    ⟨("LV\u017f".toList, "6".toList), ?_, ?_, ?_⟩, ⟨"n\u017f".toList, ?_, ?_, ?_⟩,
    ⟨"o\u212a".toList, ?_, ?_, ?_⟩⟩ <;> decide +kernel

end Signoff
