import Signoff.Proofs.Analysis.Scenarios
import Signoff.Proofs.Analysis.SlackFigures

/-!
# Items of slack on one line

A comma stands between the groups of a figure and between items. It goes on with a figure only if
a digit follows it, and what follows it between items is a blank, another comma or the letter that
a name starts with. So every item of a line is read, with its whole figure and nothing else
(`items_text`), and each name has the number of its last item (`figures_read_whole`).
-/

namespace Signoff

open Text Number

/-! ## Characters between items -/

/-- A comma or a blank. -/
def isGap (c : Char) : Bool := isBlank c || c == ','

theorem not_isWordChar_of_isBlank {c : Char} (h : isBlank c = true) : isWordChar c = false := by
  have hnone : ∀ n ∈ blankCodes, isWordChar (Char.ofNat n) = false := by decide +kernel
  have hc := hnone c.toNat (mem_blankCodes h)
  rwa [Char.ofNat_toNat] at hc

theorem not_isWordChar_of_isMark {c : Char} (h : isMark c = true) : isWordChar c = false := by
  simp only [isMark, Bool.or_eq_true, beq_iff_eq] at h
  rcases h with rfl | rfl <;> decide

theorem not_isWordChar_of_isGap {c : Char} (h : isGap c = true) : isWordChar c = false := by
  simp only [isGap, Bool.or_eq_true, beq_iff_eq] at h
  rcases h with h | rfl
  · exact not_isWordChar_of_isBlank h
  · decide

theorem not_isBlank_of_isWordChar {c : Char} (h : isWordChar c = true) : isBlank c = false := by
  by_contra hblank
  rw [Bool.not_eq_false] at hblank
  rw [not_isWordChar_of_isBlank hblank] at h
  exact Bool.false_ne_true h

theorem not_isDecimalDigit_of_isGap {c : Char} (h : isGap c = true) : isDecimalDigit c = false := by
  simp only [isGap, Bool.or_eq_true, beq_iff_eq] at h
  rcases h with h | rfl
  · by_contra hdigit
    rw [Bool.not_eq_false] at hdigit
    have hfigure : isFigureChar c = true := by rw [isFigureChar, hdigit, Bool.true_or]
    rw [not_isBlank_of_isFigureChar hfigure] at h
    exact Bool.false_ne_true h
  · decide

theorem ne_point_of_isGap {c : Char} (h : isGap c = true) : c ≠ '.' := by
  rintro rfl
  exact absurd h (by decide)

/-- A letter of a name is no digit in any script. -/
theorem not_isDecimalDigit_of_toLower {c : Char} (h : isDecimalDigit c.toLower = false) :
    isDecimalDigit c = false := by
  apply of_toLower (p := fun c => isDecimalDigit c = false) _ h
  intro hcapital
  rw [Bool.eq_false_iff]
  intro hdigit
  simp only [isDecimalDigit, Char.isDigit, Bool.or_eq_true, Bool.and_eq_true,
    decide_eq_true_eq] at hdigit
  rcases hdigit with ⟨-, hhigh⟩ | ⟨hlow, -⟩
  · have hhigh : c.toNat ≤ 57 := hhigh
    omega
  · omega

theorem endsFigure_of_gap {gap rest : List Char} (hgap : ∀ c ∈ gap, isGap c = true)
    (hrest : ∀ c, rest.head? = some c → isDecimalDigit c = false)
    (hnil : gap = [] → rest = []) : SlackFigure.EndsFigure (gap ++ rest) := by
  cases gap with
  | nil =>
    rw [hnil rfl]
    exact ⟨nofun, nofun, nofun⟩
  | cons g gap =>
    have hg := hgap g List.mem_cons_self
    constructor
    · intro c hc
      obtain rfl := Option.some.inj hc
      exact not_isDecimalDigit_of_isGap hg
    · intro hpoint
      exact ne_point_of_isGap hg (Option.some.inj hpoint)
    · -- behind the comma the gap goes on, or the rest starts
      intro c more heq
      have hbehind : gap ++ rest = c :: more := (List.cons.inj heq).2
      cases gap with
      | nil => exact hrest c (by rw [← List.nil_append rest, hbehind]; rfl)
      | cons d gap =>
        obtain rfl := (List.cons.inj hbehind).1
        exact not_isDecimalDigit_of_isGap (hgap d (by simp))

namespace Slack

/-! ## Places where no item starts -/

variable {before : Option Char} {rest word : List Char}

theorem item?_of_letter {c : Char} (hw : foldsTo 'w' c = false) (ht : foldsTo 't' c = false)
    (hn : foldsTo 'n' c = false) (before : Option Char) (rest : List Char) :
    item? before (c :: rest) = none := by
  have hname : firstKeyword? (["wns", "tns", "nvp"].map String.toList) (c :: rest) = none := by
    show List.findSome? (keyword? · (c :: rest)) ['w' :: _, 't' :: _, 'n' :: _] = none
    simp only [List.findSome?_cons, keyword?_of_not_foldsTo hw, keyword?_of_not_foldsTo ht,
      keyword?_of_not_foldsTo hn, List.findSome?_nil]
  unfold item?
  rw [hname]
  exact ite_self none

theorem item?_of_not_isWordChar {c : Char} (h : isWordChar c = false) (before : Option Char)
    (rest : List Char) : item? before (c :: rest) = none := by
  have hfold : ∀ k : Char, k.isAlphanum = true → k ≠ 's' → k ≠ 'k' → foldsTo k c = false := by
    intro k hk hs hkelvin
    by_contra hfold
    have hlower : c.toLower = k := by simpa [foldsTo, hs, hkelvin] using hfold
    have hletter : c.isAlphanum = true := isAlphanum_of_toLower (hlower ▸ hk)
    rw [isWordChar, hletter] at h
    exact Bool.false_ne_true h.symm
  exact item?_of_letter (hfold 'w' (by decide) (by decide) (by decide))
    (hfold 't' (by decide) (by decide) (by decide))
    (hfold 'n' (by decide) (by decide) (by decide)) before rest

/-- Characters outside of words are passed over, and an item may follow them. -/
theorem allFrom_gap (before : Option Char) (h : ∀ c ∈ word, isWordChar c = false)
    (hbefore : word = [] → before.any isWordChar = false) (rest : List Char) :
    ∃ b : Option Char, b.any isWordChar = false ∧
      allFrom item? 0 before (word ++ rest) = allFrom item? 0 b rest := by
  refine ⟨word.getLast?.or before, ?_,
    allFrom_quiet (fun c hc b more => item?_of_not_isWordChar (h c hc) b more) before rest⟩
  cases hlast : word.getLast? with
  | none => exact hbefore (List.getLast?_eq_none_iff.mp hlast)
  | some c => exact h c (List.mem_of_getLast? hlast)

/-- No item starts inside a word. -/
theorem allFrom_inside {b : Char} (hb : isWordChar b = true)
    (h : ∀ c ∈ word, isWordChar c = true) (rest : List Char) :
    ∃ b' : Option Char, allFrom item? 0 (some b) (word ++ rest) = allFrom item? 0 b' rest := by
  induction word generalizing b with
  | nil => exact ⟨some b, rfl⟩
  | cons c word ih =>
    have hc := h c List.mem_cons_self
    have hnone : item? (some b) (c :: (word ++ rest)) = none := by
      have hinside : isBoundary (some b) (some c) = false := by
        show (isWordChar b != isWordChar c) = false
        rw [hb, hc]
        rfl
      unfold item?
      rw [List.head?_cons, hinside]
      rfl
    obtain ⟨b', hb'⟩ := ih hc fun d hd => h d (List.mem_cons_of_mem _ hd)
    exact ⟨b', (allFrom_cons_none hnone).trans hb'⟩

/-- A word of the header is passed over. -/
theorem allFrom_word {k : Char} {ks : List Char} (h : lower word = k :: ks)
    (hks : (k :: ks).all Char.isAlphanum = true) (hk : k ∉ ['w', 't', 'n'])
    (before : Option Char) (rest : List Char) :
    ∃ b : Option Char, allFrom item? 0 before (word ++ rest) = allFrom item? 0 b rest := by
  cases word with
  | nil => exact nomatch h
  | cons c word =>
    obtain ⟨hletter, -⟩ := List.cons.inj h
    have halphanum : c.toLower.isAlphanum = true := hletter ▸ (List.all_eq_true.mp hks k (by simp))
    simp only [List.mem_cons, List.not_mem_nil, or_false, not_or] at hk
    have hfold : ∀ l : Char, k ≠ l → foldsTo l c = false := by
      intro l hl
      rw [foldsTo_eq halphanum, hletter]
      exact beq_eq_false_iff_ne.mpr hl
    have hword := isWordChar_of_lower h hks
    have hnone := item?_of_letter (hfold 'w' hk.1) (hfold 't' hk.2.1) (hfold 'n' hk.2.2) before
      (word ++ rest)
    obtain ⟨b, hb⟩ := allFrom_inside (hword c List.mem_cons_self)
      (fun d hd => hword d (List.mem_cons_of_mem _ hd)) rest
    exact ⟨b, (allFrom_cons_none hnone).trans hb⟩

end Slack

/-! ## Items -/

/-- A name in any letter case, a colon or equal sign, a figure, and commas and blanks behind it. -/
structure SlackItem where
  name : List Char
  mark : PrintedMark
  value : SlackFigure
  gap : List Char
  named : ∃ n ∈ Slack.names, lower name = n.toList := by decide
  counted : lower name = "nvp".toList → value.IsCount := by decide
  gap_all : gap.all isGap = true := by decide

namespace SlackItem

variable (i : SlackItem) {rest : List Char} {before : Option Char}

/-- The item without what stands behind it. -/
def core : List Char := i.name ++ (i.mark.text ++ i.value.text)

def text : List Char := i.core ++ i.gap

/-- The name and the figure as they are printed. -/
def entry : List Char × List Char := (i.name, i.value.text)

theorem gap_plain : ∀ c ∈ i.gap, isGap c = true := List.all_eq_true.mp i.gap_all

theorem isWordChar_of_mem_name : ∀ c ∈ i.name, isWordChar c = true := by
  obtain ⟨n, hn, hname⟩ := i.named
  have hletters : ∀ n ∈ Slack.names, n.toList.all Char.isAlphanum = true := by decide
  exact isWordChar_of_lower hname (hletters n hn)

theorem exists_cons_name : ∃ c more, i.name = c :: more ∧ c.toLower ∈ ['w', 't', 'n'] := by
  obtain ⟨n, hn, hname⟩ := i.named
  have hfirst : ∀ n ∈ Slack.names, ∃ k ks, n.toList = k :: ks ∧ k ∈ ['w', 't', 'n'] := by
    intro n hn
    simp only [Slack.names, List.mem_cons, List.not_mem_nil, or_false] at hn
    rcases hn with rfl | rfl | rfl
    · exact ⟨'w', "ns".toList, rfl, by decide⟩
    · exact ⟨'t', "ns".toList, rfl, by decide⟩
    · exact ⟨'n', "vp".toList, rfl, by decide⟩
  obtain ⟨k, ks, hcons, hk⟩ := hfirst n hn
  rw [hcons] at hname
  cases hi : i.name with
  | nil =>
    rw [hi] at hname
    exact absurd hname (List.cons_ne_nil k ks).symm
  | cons c more =>
    rw [hi] at hname
    obtain ⟨rfl, -⟩ := List.cons.inj hname
    exact ⟨c, more, rfl, hk⟩

theorem firstKeyword?_name (rest : List Char) :
    firstKeyword? (["wns", "tns", "nvp"].map String.toList) (i.name ++ rest) =
      some (i.name, rest) := by
  obtain ⟨n, hn, hname⟩ := i.named
  have hown := keyword?_append_of_lower hname rest
  show List.findSome? (keyword? · (i.name ++ rest)) ["wns".toList, "tns".toList, "nvp".toList] = _
  simp only [Slack.names, List.mem_cons, List.not_mem_nil, or_false] at hn
  rcases hn with rfl | rfl | rfl
  · simp only [List.findSome?_cons, hown]
  · have hwns : keyword? "wns".toList (i.name ++ rest) = none :=
      keyword?_of_other_word hname (by decide) (by decide) (by decide) rest
    simp only [List.findSome?_cons, hwns, hown]
  · have hwns : keyword? "wns".toList (i.name ++ rest) = none :=
      keyword?_of_other_word hname (by decide) (by decide) (by decide) rest
    have htns : keyword? "tns".toList (i.name ++ rest) = none :=
      keyword?_of_other_word hname (by decide) (by decide) (by decide) rest
    simp only [List.findSome?_cons, hwns, htns, hown]

theorem startsPlain_value (rest : List Char) : StartsPlain (i.value.text ++ rest) :=
  startsPlain_append i.value.text_ne_nil (fun _ hc => SlackFigure.not_isBlank_of_mem_text hc) rest

/-- An item is read where a word may start, whatever ends its figure. -/
theorem item?_core (hbefore : before.any isWordChar = false)
    (hrest : SlackFigure.EndsFigure rest) :
    Slack.item? before (i.core ++ rest) = some (i.entry, rest) := by
  obtain ⟨c, more, hname, -⟩ := i.exists_cons_name
  have hc : isWordChar c = true := i.isWordChar_of_mem_name c (hname ▸ List.mem_cons_self)
  have hboundary : isBoundary before (i.core ++ rest).head? = true := by
    unfold core
    rw [hname]
    show (before.any isWordChar != isWordChar c) = true
    rw [hbefore, hc]
    rfl
  have htext : i.core ++ rest = i.name ++ (i.mark.text ++ (i.value.text ++ rest)) := by
    simp only [core, List.append_assoc]
  unfold Slack.item?
  rw [if_pos hboundary, htext, firstKeyword?_name]
  show (afterMark? (i.mark.text ++ (i.value.text ++ rest))).bind _ = _
  rw [i.mark.afterMark?_text (i.startsPlain_value rest), Option.bind_some]
  show (Slack.figure? (i.value.text ++ rest)).bind _ = _
  rw [i.value.figure?_text hrest]
  rfl

variable {items : List SlackItem}

theorem not_isDecimalDigit_of_head? {c : Char} (h : (items.flatMap text).head? = some c) :
    isDecimalDigit c = false := by
  cases items with
  | nil => exact nomatch h
  | cons i items =>
    obtain ⟨d, more, hname, hletter⟩ := i.exists_cons_name
    rw [List.flatMap_cons, text, core, hname] at h
    obtain rfl := Option.some.inj h
    simp only [List.mem_cons, List.not_mem_nil, or_false] at hletter
    apply not_isDecimalDigit_of_toLower
    rcases hletter with hletter | hletter | hletter <;> rw [hletter] <;> decide

/-- Every item is read, with the whole figure, if something stands between two of them. -/
theorem allFrom_items (hbefore : before.any isWordChar = false)
    (hsep : ∀ i ∈ items.dropLast, i.gap ≠ []) :
    allFrom Slack.item? 0 before (items.flatMap text) = items.map entry := by
  -- what stands behind an item has to end its figure and to leave a place where a name may start
  induction items generalizing before with
  | nil => cases before <;> rfl
  | cons i items ih =>
    have hmore : i.gap = [] → items = [] := by
      intro hgap
      cases items with
      | nil => rfl
      | cons j items => exact absurd hgap (hsep i List.mem_cons_self)
    have hends : SlackFigure.EndsFigure (i.gap ++ items.flatMap text) := by
      apply endsFigure_of_gap i.gap_plain
      · intro c hc
        exact not_isDecimalDigit_of_head? hc
      · intro hgap
        rw [hmore hgap, List.flatMap_nil]
    have hcore : i.core ≠ [] := by
      obtain ⟨c, more, hname, -⟩ := i.exists_cons_name
      rw [core, hname]
      exact List.cons_ne_nil _ _
    rw [List.flatMap_cons, text, List.append_assoc,
      allFrom_taken (i.item?_core hbefore hends) hcore, List.map_cons]
    apply congrArg (i.entry :: ·)
    by_cases hgap : i.gap = []
    · rw [hgap, hmore hgap]
      rfl
    · obtain ⟨b, hb, hall⟩ := Slack.allFrom_gap i.core.getLast?
        (fun c hc => not_isWordChar_of_isGap (i.gap_plain c hc)) (absurd · hgap)
        (items.flatMap text)
      rw [hall]
      apply ih hb
      intro j hj
      apply hsep j
      cases items with
      | nil => exact nomatch hj
      | cons k items => exact List.mem_cons_of_mem _ hj

end SlackItem

/-! ## Headers -/

/-- The word `scenario` in any letter case, with what may stand between it and setup or hold. -/
structure ScenarioLabel where
  word : List Char
  tail : List Char
  word_eq : lower word = "scenario".toList
  tail_eq : isBlankText tail = true ∨ ∃ m : PrintedMark, tail = m.text

/-- A header in front of the items of a line. -/
structure ScenarioHeader where
  indent : List Char
  label : Option ScenarioLabel
  word : List Char
  scenario : Scenario
  gap : List Char
  indent_all : isBlankText indent = true := by decide
  word_eq : lower word = scenario.word := by decide
  gap_ne_nil : gap ≠ [] := by decide
  gap_all : gap.all (fun c => isGap c || isMark c) = true := by decide

namespace ScenarioLabel

variable (l : ScenarioLabel)

theorem word_ne_nil : l.word ≠ [] := by
  intro hnil
  have hword := l.word_eq
  rw [hnil] at hword
  exact nomatch hword

theorem isWordChar_of_mem_word : ∀ c ∈ l.word, isWordChar c = true :=
  isWordChar_of_lower l.word_eq (by decide)

theorem not_isWordChar_of_mem_tail : ∀ c ∈ l.tail, isWordChar c = false := by
  intro c hc
  rcases l.tail_eq with hblank | ⟨m, hmark⟩
  · exact not_isWordChar_of_isBlank (List.all_eq_true.mp hblank c hc)
  · rcases m.isBlank_or_isMark c (hmark ▸ hc) with hblank | hc
    · exact not_isWordChar_of_isBlank hblank
    · exact not_isWordChar_of_isMark hc

end ScenarioLabel

namespace ScenarioHeader

variable (h : ScenarioHeader)

def labelText : List Char := (h.label.map fun l => l.word ++ l.tail).getD []

def text : List Char := h.indent ++ (h.labelText ++ (h.word ++ h.gap))

theorem indent_blank : ∀ c ∈ h.indent, isBlank c = true := List.all_eq_true.mp h.indent_all

theorem not_isWordChar_of_mem_gap : ∀ c ∈ h.gap, isWordChar c = false := by
  intro c hc
  have hplain := List.all_eq_true.mp h.gap_all c hc
  rw [Bool.or_eq_true] at hplain
  rcases hplain with hgap | hmark
  · exact not_isWordChar_of_isGap hgap
  · exact not_isWordChar_of_isMark hmark

theorem isWordChar_of_mem_word : ∀ c ∈ h.word, isWordChar c = true :=
  isWordChar_of_lower h.word_eq (by cases h.scenario <;> decide)

theorem word_ne_nil : h.word ≠ [] := by
  intro hnil
  have hword := h.word_eq
  rw [hnil] at hword
  cases hs : h.scenario <;> rw [hs] at hword <;> exact nomatch hword

theorem exists_cons_word : ∃ c more, h.word = c :: more ∧ isWordChar c = true := by
  obtain ⟨c, more, hword⟩ := List.exists_cons_of_ne_nil h.word_ne_nil
  exact ⟨c, more, hword, h.isWordChar_of_mem_word c (hword ▸ List.mem_cons_self)⟩

/-- The word of the header is read up to what stands behind it. -/
theorem wholeKeyword?_word (rest : List Char) :
    wholeKeyword? ["setup", "hold"] (h.word ++ (h.gap ++ rest)) =
      some (h.word, h.gap ++ rest) := by
  obtain ⟨g, gap, hgap⟩ := List.exists_cons_of_ne_nil h.gap_ne_nil
  have hboundary : isBoundary h.word.getLast? (h.gap ++ rest).head? = true := by
    have hnot := h.not_isWordChar_of_mem_gap g (hgap ▸ List.mem_cons_self)
    cases hlast : h.word.getLast? with
    | none =>
      exact absurd (List.getLast?_eq_none_iff.mp hlast) h.word_ne_nil
    | some c =>
      have hc := h.isWordChar_of_mem_word c (List.mem_of_getLast? hlast)
      rw [hgap]
      show (isWordChar c != isWordChar g) = true
      rw [hc, hnot]
      rfl
  have hown := keyword?_append_of_lower h.word_eq (h.gap ++ rest)
  have htaken : (some (h.word, h.gap ++ rest)).filter
      (fun p : List Char × List Char => isBoundary p.1.getLast? p.2.head?) =
        some (h.word, h.gap ++ rest) := by
    rw [Option.filter_some, if_pos hboundary]
  have hlower := h.word_eq
  unfold wholeKeyword?
  show List.findSome? _ ["setup".toList, "hold".toList] = _
  cases hs : h.scenario with
  | setup =>
    rw [hs] at hown
    show List.findSome? _ [Scenario.word .setup, _] = _
    rw [List.findSome?_cons, hown, htaken]
  | hold =>
    rw [hs] at hown hlower
    have hsetup : keyword? "setup".toList (h.word ++ (h.gap ++ rest)) = none :=
      keyword?_of_other_word hlower (by decide) (by decide) (by decide) _
    show List.findSome? _ [_, Scenario.word .hold] = _
    rw [List.findSome?_cons, hsetup]
    show List.findSome? _ [Scenario.word .hold] = _
    rw [List.findSome?_cons, hown, htaken]

/-- What stands in front of the word is skipped. -/
theorem headerWord?_text (rest : List Char) :
    Scenario.headerWord? (h.text ++ rest) = some h.word := by
  have hplain : StartsPlain (h.word ++ (h.gap ++ rest)) :=
    startsPlain_append h.word_ne_nil
      (fun c hc => not_isBlank_of_isWordChar (h.isWordChar_of_mem_word c hc)) _
  have hlower := h.word_eq
  have htext : h.text ++ rest = h.indent ++ (h.labelText ++ (h.word ++ (h.gap ++ rest))) := by
    simp only [text, List.append_assoc]
  unfold Scenario.headerWord?
  rw [htext, labelText]
  cases h.label with
  | none =>
    have hnone : keyword? "scenario".toList (h.word ++ (h.gap ++ rest)) = none := by
      cases hs : h.scenario <;> rw [hs] at hlower <;>
        exact keyword?_of_other_word hlower (by decide) (by decide) (by decide) _
    rw [Option.map_none, Option.getD_none, List.nil_append, trimStart_append h.indent_blank hplain]
    dsimp only
    rw [hnone]
    show ((wholeKeyword? _ (h.word ++ (h.gap ++ rest))).map _) = _
    rw [h.wholeKeyword?_word]
    rfl
  | some l =>
    have hscenario := keyword?_append_of_lower l.word_eq (l.tail ++ (h.word ++ (h.gap ++ rest)))
    have hskip : skipMark (l.tail ++ (h.word ++ (h.gap ++ rest))) = h.word ++ (h.gap ++ rest) := by
      rcases l.tail_eq with hblank | ⟨m, hmark⟩
      · apply skipMark_blanks (List.all_eq_true.mp hblank) hplain
        intro c hc
        by_contra hmark
        rw [Bool.not_eq_false] at hmark
        obtain ⟨d, more, hword, hd⟩ := h.exists_cons_word
        rw [hword] at hc
        obtain rfl := Option.some.inj hc
        rw [not_isWordChar_of_isMark hmark] at hd
        exact Bool.false_ne_true hd
      · rw [hmark, m.skipMark_text hplain]
    have hstart : StartsPlain (l.word ++ (l.tail ++ (h.word ++ (h.gap ++ rest)))) :=
      startsPlain_append l.word_ne_nil
        (fun c hc => not_isBlank_of_isWordChar (l.isWordChar_of_mem_word c hc)) _
    rw [Option.map_some, Option.getD_some, List.append_assoc,
      trimStart_append h.indent_blank hstart]
    dsimp only
    rw [hscenario]
    show ((wholeKeyword? _ (skipMark _)).map _) = _
    rw [hskip, h.wholeKeyword?_word]
    rfl

/-- No item starts in a header. -/
theorem allFrom_text (rest : List Char) : ∃ b : Option Char, b.any isWordChar = false ∧
    allFrom Slack.item? 0 none (h.text ++ rest) = allFrom Slack.item? 0 b rest := by
  have htext : h.text ++ rest = h.indent ++ (h.labelText ++ (h.word ++ (h.gap ++ rest))) := by
    simp only [text, List.append_assoc]
  obtain ⟨b₁, -, hindent⟩ := Slack.allFrom_gap none
    (fun c hc => not_isWordChar_of_isBlank (h.indent_blank c hc)) (fun _ => rfl)
    (h.labelText ++ (h.word ++ (h.gap ++ rest)))
  obtain ⟨b₂, hlabel⟩ : ∃ b, allFrom Slack.item? 0 b₁ (h.labelText ++ (h.word ++ (h.gap ++ rest))) =
      allFrom Slack.item? 0 b (h.word ++ (h.gap ++ rest)) := by
    unfold labelText
    cases h.label with
    | none => exact ⟨b₁, rfl⟩
    | some l =>
      obtain ⟨b, hb⟩ := Slack.allFrom_word l.word_eq (by decide) (by decide) b₁
        (l.tail ++ (h.word ++ (h.gap ++ rest)))
      have htail := allFrom_quiet (fun c hc b more =>
        Slack.item?_of_not_isWordChar (l.not_isWordChar_of_mem_tail c hc) b more) b
        (h.word ++ (h.gap ++ rest))
      rw [Option.map_some, Option.getD_some, List.append_assoc]
      exact ⟨_, hb.trans htail⟩
  obtain ⟨k, ks, hcons, hletters, hk⟩ : ∃ k ks, h.scenario.word = k :: ks ∧
      (k :: ks).all Char.isAlphanum = true ∧ k ∉ ['w', 't', 'n'] := by
    cases h.scenario with
    | setup => exact ⟨'s', "etup".toList, rfl, by decide, by decide⟩
    | hold => exact ⟨'h', "old".toList, rfl, by decide, by decide⟩
  obtain ⟨b₃, hword⟩ := Slack.allFrom_word (h.word_eq.trans hcons) hletters hk b₂ (h.gap ++ rest)
  obtain ⟨b₄, hb₄, hgap⟩ := Slack.allFrom_gap b₃ h.not_isWordChar_of_mem_gap
    (absurd · h.gap_ne_nil) rest
  exact ⟨b₄, hb₄, htext ▸ hindent.trans (hlabel.trans (hword.trans hgap))⟩

end ScenarioHeader

/-! ## Lines -/

/-- What stands in front of the items: commas and blanks, or a header. -/
inductive SlackLead
  | margin (gap : List Char) (plain : gap.all isGap = true := by decide)
  | header (h : ScenarioHeader)

namespace SlackLead

def text : SlackLead → List Char
  | margin gap _ => gap
  | header h => h.text

def scenario? : SlackLead → Option Scenario
  | margin _ _ => none
  | header h => some h.scenario

end SlackLead

/-- A line of items with commas and blanks between them, and perhaps a header in front. -/
structure SlackLine where
  lead : SlackLead
  items : List SlackItem
  separated : ∀ i ∈ items.dropLast, i.gap ≠ [] := by decide

namespace SlackLine

variable (line : SlackLine)

def text : List Char := line.lead.text ++ line.items.flatMap SlackItem.text

theorem items_text : Slack.items line.text = line.items.map SlackItem.entry := by
  unfold Slack.items text
  cases line.lead with
  | margin gap hgap =>
    obtain ⟨b, hb, hall⟩ := Slack.allFrom_gap none
      (fun c hc => not_isWordChar_of_isGap (List.all_eq_true.mp hgap c hc)) (fun _ => rfl)
      (line.items.flatMap SlackItem.text)
    exact hall.trans (SlackItem.allFrom_items hb line.separated)
  | header h =>
    obtain ⟨b, hb, hall⟩ := h.allFrom_text (line.items.flatMap SlackItem.text)
    exact hall.trans (SlackItem.allFrom_items hb line.separated)

/-- A text that starts with neither an `s` nor an `h` has no word of a scenario in front. -/
theorem headerWord?_of_letter {cs : List Char} (h : ∀ c, (trimStart cs).head? = some c →
    foldsTo 's' c = false ∧ foldsTo 'h' c = false) : Scenario.headerWord? cs = none := by
  unfold Scenario.headerWord?
  cases hcs : trimStart cs with
  | nil => rfl
  | cons c inner =>
    obtain ⟨hs, hh⟩ := h c (by rw [hcs]; rfl)
    have hscenario : keyword? "scenario".toList (c :: inner) = none :=
      keyword?_of_not_foldsTo hs "cenario".toList inner
    have hsetup : keyword? "setup".toList (c :: inner) = none :=
      keyword?_of_not_foldsTo hs "etup".toList inner
    have hhold : keyword? "hold".toList (c :: inner) = none :=
      keyword?_of_not_foldsTo hh "old".toList inner
    dsimp only
    rw [hscenario]
    unfold wholeKeyword?
    simp only [List.map_cons, List.map_nil, List.findSome?_cons, hsetup, hhold, Option.filter_none,
      List.findSome?_nil, Option.map_none]

theorem head?_margin {gap : List Char} (hgap : ∀ c ∈ gap, isGap c = true)
    {items : List SlackItem} {c : Char}
    (h : (trimStart (gap ++ items.flatMap SlackItem.text)).head? = some c) :
    foldsTo 's' c = false ∧ foldsTo 'h' c = false := by
  induction gap with
  | nil =>
    cases items with
    | nil => exact nomatch h
    | cons i items =>
      obtain ⟨d, more, hname, hletter⟩ := i.exists_cons_name
      have hword := i.isWordChar_of_mem_name d (hname ▸ List.mem_cons_self)
      rw [List.nil_append, List.flatMap_cons, SlackItem.text, SlackItem.core, hname,
        List.cons_append, List.cons_append, List.cons_append,
        trimStart_cons_of_not_blank (not_isBlank_of_isWordChar hword)] at h
      obtain rfl := Option.some.inj h
      have hother : d.toLower.isAlphanum = true ∧ (d.toLower == 's') = false ∧
          (d.toLower == 'h') = false := by
        simp only [List.mem_cons, List.not_mem_nil, or_false] at hletter
        rcases hletter with hletter | hletter | hletter <;> rw [hletter] <;> decide
      obtain ⟨halphanum, hs, hh⟩ := hother
      exact ⟨(foldsTo_eq halphanum).trans hs, (foldsTo_eq halphanum).trans hh⟩
  | cons g gap ih =>
    by_cases hblank : isBlank g = true
    · rw [List.cons_append, trimStart_cons_of_blank hblank] at h
      exact ih (fun c hc => hgap c (List.mem_cons_of_mem _ hc)) h
    · rw [Bool.not_eq_true] at hblank
      have hg := hgap g List.mem_cons_self
      rw [isGap, hblank, Bool.false_or, beq_iff_eq] at hg
      rw [List.cons_append, trimStart_cons_of_not_blank hblank, hg] at h
      obtain rfl := Option.some.inj h
      decide

/-- Only a header in front of the items is taken for one. -/
theorem ofHeader?_text : Scenario.ofHeader? line.text = line.lead.scenario? := by
  unfold Scenario.ofHeader? text
  cases line.lead with
  | margin gap hgap =>
    show (Scenario.headerWord? (gap ++ _)).map _ = none
    rw [headerWord?_of_letter fun c hc => head?_margin (List.all_eq_true.mp hgap) hc]
    rfl
  | header h =>
    show (Scenario.headerWord? (h.text ++ _)).map _ = some h.scenario
    rw [h.headerWord?_text, Option.map_some]
    exact congrArg some ((Scenario.ofWord_eq_iff h.word_eq h.scenario).mpr rfl)

/-! ### Bodies -/

/-- The figure of the last item with a name. -/
def last? (name : String) : Option SlackFigure :=
  (line.items.filter fun i => lower i.name == name.toList).getLast?.map (·.value)

/-- The last number of each name, or that of the slack if the line has none. -/
def onto (s : Slack) : Slack where
  worst := ((line.last? "wns").map SlackFigure.real).or s.worst
  total := ((line.last? "tns").map SlackFigure.real).or s.total
  violations := ((line.last? "nvp").map SlackFigure.count).or s.violations

theorem lastFigure?_entries (name : String) :
    Slack.lastFigure? name (line.items.map SlackItem.entry) =
      (line.last? name).map SlackFigure.text := by
  unfold Slack.lastFigure? last?
  rw [List.filter_map, List.getLast?_map, Option.map_map, Option.map_map]
  rfl

theorem isCount_of_last? {f : SlackFigure} (h : line.last? "nvp" = some f) : f.IsCount := by
  obtain ⟨i, hi, rfl⟩ := Option.map_eq_some_iff.mp h
  have hname := List.of_mem_filter (List.mem_of_getLast? hi)
  exact i.counted (beq_iff_eq.mp hname)

theorem onto_entries (s : Slack) : s.onto (line.items.map SlackItem.entry) = line.onto s := by
  have hreal : ∀ (f : Option SlackFigure) (old : Option Binary64),
      (f.map SlackFigure.text).elim old readReal? = (f.map SlackFigure.real).or old := by
    intro f old
    cases f with
    | none => rfl
    | some f => exact f.readReal?_text
  have hcount : ((line.last? "nvp").map SlackFigure.text).elim s.violations readCount? =
      ((line.last? "nvp").map SlackFigure.count).or s.violations := by
    cases hlast : line.last? "nvp" with
    | none => rfl
    | some f => exact (line.isCount_of_last? hlast).readCount?_text
  unfold Slack.onto onto
  rw [lastFigure?_entries, lastFigure?_entries, lastFigure?_entries, hreal, hreal, hcount]

theorem readLine_text (s : Slack) : s.readLine line.text = line.onto s := by
  unfold Slack.readLine
  rw [items_text, Slack.foldl_set_onto, onto_entries]
  intro item hitem
  obtain ⟨i, -, rfl⟩ := List.mem_map.mp hitem
  exact i.named

end SlackLine

namespace SlackPair

/-- The scenario of the last header. -/
def scenario? (body : List Char) : Option Scenario :=
  ((lines body).filterMap Scenario.ofHeader?).getLast?

theorem readLine_eq (state : Option Scenario × SlackPair) (line : List Char) :
    readLine state line = ((Scenario.ofHeader? line).or state.1,
      ((Scenario.ofHeader? line).or state.1).elim state.2
        fun s => state.2.update s (Slack.readLine · line)) := by
  obtain ⟨scenario, p⟩ := state
  unfold readLine
  cases Scenario.ofHeader? line with
  | some s => rfl
  | none => cases scenario <;> rfl

theorem scenario_foldl (ls : List (List Char)) :
    (ls.foldl readLine (none, empty)).1 = (ls.filterMap Scenario.ofHeader?).getLast? := by
  induction ls using List.reverseRecOn with
  | nil => rfl
  | append_singleton front line ih =>
    rw [List.foldl_append, List.foldl_cons, List.foldl_nil, getLast?_filterMap_concat, ← ih,
      readLine_eq]

/-- Lines without items change no figure, whatever headers are among them. -/
theorem foldl_without_items {ls : List (List Char)} (h : ∀ line ∈ ls, Slack.items line = [])
    (state : Option Scenario × SlackPair) : (ls.foldl readLine state).2 = state.2 := by
  induction ls generalizing state with
  | nil => rfl
  | cons line ls ih =>
    have hsame : (readLine state line).2 = state.2 := by
      rw [readLine_eq]
      unfold Slack.readLine
      rw [h line List.mem_cons_self]
      cases (Scenario.ofHeader? line).or state.1 with
      | none => rfl
      | some s => cases s <;> rfl
    rw [List.foldl_cons, ih fun l hl => h l (List.mem_cons_of_mem _ hl), hsame]

/-- A line of items is put on the scenario of the last header up to it. -/
theorem get_read_of_line {line : SlackLine} {ahead body : List Char} {rest : List (List Char)}
    {s : Scenario} (hbody : lines body = lines ahead ++ line.text :: rest)
    (hrest : ∀ l ∈ rest, Slack.items l = [])
    (hs : line.lead.scenario?.or (scenario? ahead) = some s) (t : Scenario) :
    (read body).get t =
      if s = t then line.onto ((read ahead).get t) else (read ahead).get t := by
  have hscenario : ((lines ahead).foldl readLine (none, empty)).1 = scenario? ahead :=
    scenario_foldl (lines ahead)
  unfold read
  rw [hbody, List.foldl_append, List.foldl_cons, foldl_without_items hrest, readLine_eq,
    line.ofHeader?_text, hscenario, hs]
  show (SlackPair.update _ s (Slack.readLine · line.text)).get t = _
  rw [get_update]
  simp only [line.readLine_text]

end SlackPair

/-- Slack figures are read whole. On a line of items, behind a header or indented by commas and
blanks, every item is read with its name and its whole figure, whatever its neighbours; the text of
a figure without commas and plus sign is read as the number it shows. In a body with such a line
under a header, each name of the line has the number of its last item there, and nothing else
changes. -/
theorem figures_read_whole (line : SlackLine) :
    Slack.items line.text = line.items.map (fun i => (i.name, i.value.text)) ∧
    (∀ i ∈ line.items,
      (i.value.text.dropWhile (· == '+')).filter (· != ',') = i.value.plain ∧
      Binary64.read? i.value.plain = some i.value.real ∧
      (lower i.name = "nvp".toList → readUInt64? i.value.plain = some i.value.count)) ∧
    ∀ (ahead body : List Char) (rest : List (List Char)) (s : Scenario),
      lines body = lines ahead ++ line.text :: rest → (∀ l ∈ rest, Slack.items l = []) →
      line.lead.scenario?.or (SlackPair.scenario? ahead) = some s →
      ∀ t, (SlackPair.read body).get t =
        if s = t then line.onto ((SlackPair.read ahead).get t) else (SlackPair.read ahead).get t := by
  refine ⟨line.items_text, ?_, ?_⟩
  · intro i _
    exact ⟨i.value.plain_eq, i.value.read?_plain, fun hname => (i.counted hname).readUInt64?_plain⟩
  · intro ahead body rest s hbody hrest hs t
    exact SlackPair.get_read_of_line hbody hrest hs t

/-- Four items behind a header, the last of them with the name of the first; commas stand between
groups of digits and between items. -/
theorem figures_read_whole_behind_header :
    let body := "hold wns = 1\nSETUP: WNS=-0.2,TNS=-1,204.5, nvp: 3,000,wns =+12,345.25".toList
    SlackPair.read body =
      ⟨⟨Binary64.read? "12345.25".toList, Binary64.read? "-1204.5".toList, some 3000⟩,
        ⟨Binary64.read? "1".toList, none, none⟩⟩ := by
  intro body
  let worst : SlackItem :=
    .mk "WNS".toList (.mk [] '=' []) (.mk ['-'] ['0'] [] ['2']) [',']
  let total : SlackItem :=
    .mk "TNS".toList (.mk [] '=' []) (.mk ['-'] ['1'] ["204".toList] ['5']) ", ".toList
  let violations : SlackItem :=
    .mk "nvp".toList (.mk [] ':' [' ']) (.mk [] ['3'] ["000".toList] []) [',']
  let again : SlackItem :=
    .mk "wns".toList (.mk [' '] '=' []) (.mk ['+'] "12".toList ["345".toList] "25".toList) []
  let header : ScenarioHeader := .mk [] none "SETUP".toList .setup ": ".toList
  let line : SlackLine := .mk (.header header) [worst, total, violations, again]
  obtain ⟨-, -, hread⟩ := figures_read_whole line
  have hline := hread "hold wns = 1".toList body [] .setup (by decide +kernel)
    (fun _ hl => absurd hl List.not_mem_nil) rfl
  apply SlackPair.ext_get
  intro t
  rw [hline t]
  cases t with
  | setup => decide +kernel
  | hold => decide +kernel

end Signoff
