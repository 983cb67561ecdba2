import Signoff.Proofs.Analysis.Findings
import Signoff.Proofs.Text.Scan

/-!
# Sections that pass by their counts

A count that was not reported is taken for zero, and so is one that cannot be read: in a section of
physical verification the last line about each rule decides, and the section passes if none of these
lines shows a number from 1 to 2 ^ 64 - 1.  A line with findings that are not waived counts for
nothing if it shows a larger number (`passed_by_counts`).

So a section passes with counts that are too large, and with one for a rule that is spelled with the
long s (`large_counts_pass`).
-/

namespace Signoff

open Text

namespace Text

/-! ## Figures in ASCII digits -/

/-- The figure is a number in ASCII digits, with commas at any place. -/
structure Shows (figure : List Char) (n : Nat) : Prop where
  chars : ∀ c ∈ figure, c.isDigit = true ∨ c = ','
  digit : ∃ c ∈ figure, c.isDigit = true
  value : ofDigits (figure.filter (· != ',')) = n

variable {figure : List Char} {n : Nat}

instance : Decidable (Shows figure n) :=
  decidable_of_iff (figure.all (fun c => c.isDigit || c == ',') = true ∧
      figure.any Char.isDigit = true ∧ ofDigits (figure.filter (· != ',')) = n)
    ⟨fun ⟨hchars, hdigit, hvalue⟩ =>
      ⟨by simpa using hchars, by simpa using hdigit, hvalue⟩,
    fun h => ⟨by simpa using h.chars, by simpa using h.digit, h.value⟩⟩

/-- The code points of blanks. -/
def blankCodes : List Nat :=
  List.range' 9 5 ++ [0x20, 0x85, 0xA0, 0x1680] ++ List.range' 0x2000 11 ++
    [0x2028, 0x2029, 0x202F, 0x205F, 0x3000]

theorem mem_blankCodes {c : Char} (h : isBlank c = true) : c.toNat ∈ blankCodes := by
  simp only [isBlank, Bool.or_eq_true, Bool.and_eq_true, decide_eq_true_eq, beq_iff_eq] at h
  simp only [blankCodes, List.mem_append, List.mem_range'_1, List.mem_cons, List.not_mem_nil,
    or_false]
  omega

theorem not_isBlank_of_isFigureChar {c : Char} (h : isFigureChar c = true) :
    isBlank c = false := by
  by_contra hblank
  rw [Bool.not_eq_false] at hblank
  have hnone : ∀ n ∈ blankCodes,
      ¬ (48 ≤ n ∧ n ≤ 57) ∧ inRanges decimalDigits n = false ∧ n ≠ 44 := by decide
  obtain ⟨hascii, hdigit, hcomma⟩ := hnone c.toNat (mem_blankCodes hblank)
  simp only [isFigureChar, isDecimalDigit, Char.isDigit, Bool.or_eq_true, Bool.and_eq_true,
    decide_eq_true_eq, beq_iff_eq] at h
  rcases h with (⟨hlow, hhigh⟩ | ⟨-, hrange⟩) | rfl
  · exact hascii ⟨hlow, hhigh⟩
  · rw [hdigit] at hrange
    exact Bool.false_ne_true hrange
  · exact hcomma rfl

theorem readUInt64?_of_digits {cs : List Char} (h : ∀ c ∈ cs, c.isDigit = true) (hne : cs ≠ []) :
    readUInt64? cs = if ofDigits cs < 2 ^ 64 then some (UInt64.ofNat (ofDigits cs)) else none := by
  have hplus : ∀ rest, cs ≠ '+' :: rest := by
    rintro rest rfl
    exact absurd (h '+' List.mem_cons_self) (by decide)
  have hread : readNat? cs = some (ofDigits cs) := by
    have hempty : cs.isEmpty = false := by rwa [List.isEmpty_eq_false_iff]
    unfold readNat?
    rw [hempty, List.all_eq_true.mpr h]
    rfl
  unfold readUInt64? readBelow?
  dsimp only
  split
  next rest => exact absurd rfl (hplus rest)
  next =>
    rw [hread, Option.filter_some]
    have hsize : UInt64.size = 2 ^ 64 := rfl
    rw [hsize]
    by_cases hlt : ofDigits cs < 2 ^ 64
    · rw [if_pos hlt, if_pos (decide_eq_true hlt)]
      rfl
    · rw [if_neg hlt, if_neg (by simpa using hlt)]
      rfl

/-- A number that takes more than 64 bits is not read. -/
theorem readCount?_of_shows (h : Shows figure n) :
    readCount? figure = if n < 2 ^ 64 then some (UInt64.ofNat n) else none := by
  have hplain : ∀ c ∈ figure, isBlank c = false := by
    intro c hc
    apply not_isBlank_of_isFigureChar
    rcases h.chars c hc with hdigit | rfl
    · rw [isFigureChar, isDecimalDigit_of_isDigit hdigit]
      rfl
    · rfl
  have hdigits : ∀ c ∈ figure.filter (· != ','), c.isDigit = true := by
    intro c hc
    obtain ⟨hmem, hcomma⟩ := List.mem_filter.mp hc
    exact (h.chars c hmem).resolve_right (by simpa using hcomma)
  have hsome : figure.filter (· != ',') ≠ [] := by
    obtain ⟨c, hc, hdigit⟩ := h.digit
    have hcomma : c ≠ ',' := by
      rintro rfl
      exact absurd hdigit (by decide)
    exact List.ne_nil_of_mem (List.mem_filter.mpr ⟨hc, by simpa using hcomma⟩)
  unfold readCount?
  rw [trim_of_plain hplain, readUInt64?_of_digits hdigits hsome, h.value]

theorem shows_of_readCount? {m : UInt64} (hfigure : ∀ c ∈ figure, isFigureChar c = true)
    (h : readCount? figure = some m) : Shows figure m.toNat := by
  have hplus : ∀ rest, figure.filter (· != ',') ≠ '+' :: rest := by
    intro rest heq
    have hmem : '+' ∈ figure.filter (· != ',') := heq ▸ List.mem_cons_self
    exact absurd (hfigure '+' (List.mem_of_mem_filter hmem)) (by decide)
  unfold readCount? readUInt64? readBelow? at h
  rw [trim_of_plain fun c hc => not_isBlank_of_isFigureChar (hfigure c hc)] at h
  dsimp only at h
  split at h
  next rest heq => exact absurd heq (hplus rest)
  next =>
    obtain ⟨k, hk, rfl⟩ := Option.map_eq_some_iff.mp h
    obtain ⟨hread, hlt⟩ := Option.filter_eq_some_iff.mp hk
    unfold readNat? at hread
    split at hread
    · exact nomatch hread
    next hdigits =>
      simp only [Bool.or_eq_true, not_or, Bool.not_eq_true, Bool.not_eq_false', List.all_eq_true,
        List.isEmpty_eq_false_iff] at hdigits
      obtain ⟨hsome, hall⟩ := hdigits
      refine ⟨fun c hc => ?_, ?_, ?_⟩
      · by_cases hcomma : c = ','
        · exact .inr hcomma
        · exact .inl (hall c (List.mem_filter.mpr ⟨hc, by simpa using hcomma⟩))
      · obtain ⟨c, hc⟩ := List.exists_mem_of_ne_nil _ hsome
        exact ⟨c, List.mem_of_mem_filter hc, hall c hc⟩
      · rw [Option.some.inj hread, UInt64.toNat_ofNat_of_lt' (by simpa using hlt)]

end Text

/-! ## Words of a rule -/

/-- What violations are counted of. -/
inductive PhysicalRule
  | drc
  | lvs
  | antenna
deriving DecidableEq

namespace PhysicalRule

def word : PhysicalRule → List Char
  | drc => "drc".toList
  | lvs => "lvs".toList
  | antenna => "antenna".toList

/-- The pattern of a line takes the word for the rule's. -/
def isNamed (rule : PhysicalRule) (written : List Char) : Bool :=
  keyword? rule.word written == some (written, [])

theorem word_injective {r s : PhysicalRule} (h : r.word = s.word) : r = s := by
  cases r <;> cases s <;> first | rfl | exact absurd h (by decide)

theorem isKeyword_word (rule : PhysicalRule) : IsKeyword rule.word := by cases rule <;> decide

theorem k_not_mem_word (rule : PhysicalRule) : 'k' ∉ rule.word := by cases rule <;> decide

/-- A pattern takes a word for that of one rule at most. -/
theorem isNamed_iff (rule : PhysicalRule) {r : PhysicalRule} {written : List Char}
    (h : folded written = r.word) : rule.isNamed written = true ↔ rule = r := by
  rw [isNamed, beq_iff_eq, keyword?_eq_some_iff rule.isKeyword_word, List.append_nil, h,
    and_iff_right rfl]
  exact ⟨fun hword => (word_injective hword).symm, fun hrule => congrArg word hrule.symm⟩

end PhysicalRule

namespace RuleCounts

variable {body : List Char} {rule : PhysicalRule}

def count (counts : RuleCounts) : PhysicalRule → Option UInt64
  | .drc => counts.drc
  | .lvs => counts.lvs
  | .antenna => counts.antenna

def entries (body : List Char) : List (List Char × List Char) := (lines body).filterMap entry?

/-- The figure in the last line about a rule. -/
def lastFigure? (rule : PhysicalRule) (body : List Char) : Option (List Char) :=
  ((entries body).filter fun entry => rule.isNamed entry.1).getLast?.map (·.2)

/-- No rule is spelled with the long s. -/
def IsPlain (body : List Char) : Prop := ∀ entry ∈ entries body, longS ∉ entry.1

instance : Decidable (IsPlain body) :=
  inferInstanceAs (Decidable (∀ entry ∈ entries body, longS ∉ entry.1))

theorem entry?_eq_some {line : List Char} {entry : List Char × List Char}
    (h : entry? line = some entry) :
    (∃ rule : PhysicalRule, folded entry.1 = rule.word) ∧
      (lower entry.2 = "clean".toList ∨ ∀ c ∈ entry.2, isFigureChar c = true) := by
  unfold entry? at h
  obtain ⟨⟨written, behind⟩, hwhole, h⟩ := Option.bind_eq_some_iff.mp h
  obtain ⟨rest, -, h⟩ := Option.bind_eq_some_iff.mp h
  have hword : ∃ rule : PhysicalRule, folded written = rule.word := by
    obtain ⟨-, key, hkey, hfolded⟩ := folded_of_wholeKeyword? (by decide) hwhole
    simp only [List.mem_cons, List.not_mem_nil, or_false] at hkey
    rcases hkey with rfl | rfl | rfl
    · exact ⟨.drc, hfolded⟩
    · exact ⟨.lvs, hfolded⟩
    · exact ⟨.antenna, hfolded⟩
  dsimp only at h
  split at h
  next clean more hclean =>
    obtain rfl := Option.some.inj h
    obtain ⟨-, hfolded⟩ := (keyword?_eq_some_iff (by decide)).mp hclean
    exact ⟨hword, .inl (lower_of_folded hfolded (by decide) fun hs => absurd hs (by decide))⟩
  next =>
    obtain ⟨⟨figure, more⟩, hrun, h⟩ := Option.bind_eq_some_iff.mp h
    obtain rfl := Option.some.inj h
    exact ⟨hword, .inr (run?_eq hrun).2⟩

/-- A count is taken for the rule of the word, or for antenna rules if the word has a letter that
is not of ASCII. -/
theorem count_set {counts : RuleCounts} {written figure : List Char} {r : PhysicalRule}
    (h : folded written = r.word) (rule : PhysicalRule) :
    (counts.set (written, figure)).count rule =
      if rule = (if Plain written then r else .antenna) then countOf figure
      else counts.count rule := by
  have hsame : ∀ ks, IsKeyword ks →
      sameLetters written ks = (decide (Plain written) && r.word == ks) := by
    intro ks hks
    rw [Bool.eq_iff_iff, sameLetters_iff hks, h]
    simp
  unfold set
  simp only [hsame _ (by decide : IsKeyword "drc".toList),
    hsame _ (by decide : IsKeyword "lvs".toList)]
  by_cases hplain : Plain written
  · rw [if_pos hplain, decide_eq_true hplain]
    cases r <;> cases rule <;> rfl
  · rw [if_neg hplain, decide_eq_false hplain]
    cases rule <;> rfl

/-- Each rule has the figure of its last line. -/
theorem count_foldl {found : List (List Char × List Char)}
    (h : ∀ entry ∈ found, longS ∉ entry.1 ∧ ∃ r : PhysicalRule, folded entry.1 = r.word)
    (rule : PhysicalRule) :
    (found.foldl set empty).count rule =
      ((found.filter fun entry => rule.isNamed entry.1).getLast?.map (·.2)).bind countOf := by
  induction found using List.reverseRecOn with
  | nil => cases rule <;> rfl
  | append_singleton front entry ih =>
    obtain ⟨written, figure⟩ := entry
    have hfront := ih fun e he => h e (List.mem_append_left _ he)
    obtain ⟨hs, r, hr⟩ := h (written, figure) (List.mem_append_right _ List.mem_cons_self)
    have hnamed := rule.isNamed_iff hr
    have hplain : Plain written := plain_of_folded hr r.k_not_mem_word fun _ => hs
    rw [List.foldl_append, List.foldl_cons, List.foldl_nil, count_set hr, if_pos hplain, hfront,
      getLast?_filter_concat]
    by_cases hrule : rule = r
    · rw [if_pos hrule, if_pos (hnamed.mpr hrule)]
      rfl
    · rw [if_neg hrule, if_neg fun h => hrule (hnamed.mp h)]

theorem count_read (h : IsPlain body) (rule : PhysicalRule) :
    (read body).count rule = (lastFigure? rule body).bind countOf := by
  refine count_foldl (fun entry hentry => ?_) rule
  obtain ⟨line, -, hline⟩ := List.mem_filterMap.mp hentry
  obtain ⟨⟨r, hword⟩, -⟩ := entry?_eq_some hline
  exact ⟨h entry hentry, r, hword⟩

/-- A figure gives a count other than zero exactly if it shows one that can be read. -/
theorem countOf_ne_zero_iff {figure : List Char}
    (h : lower figure = "clean".toList ∨ ∀ c ∈ figure, isFigureChar c = true) :
    (countOf figure).getD 0 ≠ 0 ↔ ∃ n, Shows figure n ∧ n ≠ 0 ∧ n < 2 ^ 64 := by
  by_cases hclean : lower figure = "clean".toList
  · have hzero : countOf figure = some 0 := by
      rw [countOf, sameLetters, hclean]
      rfl
    rw [hzero]
    refine ⟨fun hne => absurd rfl hne, ?_⟩
    rintro ⟨n, hshows, -⟩
    -- what shows a number has no letters
    have hc : 'c' ∈ lower figure := hclean ▸ List.mem_cons_self
    obtain ⟨c, hmem, hlower⟩ := List.mem_map.mp hc
    rcases hshows.chars c hmem with hdigit | rfl
    · have hcode : ¬ (65 ≤ c.toNat ∧ c.toNat ≤ 90) := by
        simp only [Char.isDigit, Bool.and_eq_true, decide_eq_true_eq] at hdigit
        have hhigh : c.toNat ≤ 57 := hdigit.2
        omega
      rw [toLower_eq_self hcode] at hlower
      rw [hlower] at hdigit
      exact absurd hdigit (by decide)
    · exact absurd hlower (by decide)
  · have hread : countOf figure = readCount? figure := by
      have hsame : ¬ sameLetters figure "clean".toList = true := fun hsame =>
        hclean (beq_iff_eq.mp hsame)
      rw [countOf, if_neg hsame]
    rw [hread]
    constructor
    · intro hne
      cases hm : readCount? figure with
      | none =>
        rw [hm] at hne
        exact absurd rfl hne
      | some m =>
        rw [hm, Option.getD_some] at hne
        have hnat : m.toNat ≠ 0 := fun hzero => hne (UInt64.toNat_inj.mp hzero)
        exact ⟨m.toNat, shows_of_readCount? (h.resolve_left hclean) hm, hnat, m.toNat_lt⟩
    · rintro ⟨n, hshows, hne, hlt⟩ hzero
      rw [readCount?_of_shows hshows, if_pos hlt, Option.getD_some] at hzero
      have hnat := congrArg UInt64.toNat hzero
      rw [UInt64.toNat_ofNat_of_lt' hlt] at hnat
      exact hne hnat

theorem figure_of_lastFigure? {figure : List Char} (h : lastFigure? rule body = some figure) :
    lower figure = "clean".toList ∨ ∀ c ∈ figure, isFigureChar c = true := by
  obtain ⟨entry, hentry, rfl⟩ := Option.map_eq_some_iff.mp h
  have hmem := List.mem_of_mem_filter (List.mem_of_getLast? hentry)
  obtain ⟨line, -, hline⟩ := List.mem_filterMap.mp hmem
  exact (entry?_eq_some hline).2

/-- A count is taken for zero unless the last line shows another one that can be read. -/
theorem getD_count_read (h : IsPlain body) (rule : PhysicalRule) :
    ((read body).count rule).getD 0 = 0 ↔
      ∀ figure n, lastFigure? rule body = some figure → Shows figure n → n = 0 ∨ 2 ^ 64 ≤ n := by
  rw [count_read h]
  cases hlast : lastFigure? rule body with
  | none => exact ⟨fun _ figure n hfigure => (nomatch hfigure), fun _ => rfl⟩
  | some figure =>
    rw [Option.bind_some, ← not_iff_not, ← ne_eq,
      countOf_ne_zero_iff (figure_of_lastFigure? hlast)]
    constructor
    · rintro ⟨n, hshows, hne, hlt⟩ hall
      rcases hall figure n rfl hshows with hzero | hlarge
      · exact hne hzero
      · omega
    · intro hnot
      by_contra hnone
      refine hnot fun f n hf hshows => ?_
      obtain rfl := Option.some.inj hf
      by_contra hmiddle
      rw [not_or, Nat.not_le] at hmiddle
      exact hnone ⟨n, hshows, hmiddle⟩

theorem status_eq_passed_iff (counts : RuleCounts) :
    counts.status = .passed ↔ ∀ rule, (counts.count rule).getD 0 = 0 := by
  unfold status statusOf
  constructor
  · intro h
    split at h
    next hzero =>
      simp only [Bool.and_eq_true, decide_eq_true_eq] at hzero
      obtain ⟨⟨hdrc, hlvs⟩, hantenna⟩ := hzero
      intro rule
      cases rule with
      | drc => exact hdrc
      | lvs => exact hlvs
      | antenna => exact hantenna
    next => split at h <;> exact nomatch h
  · intro h
    have hdrc : counts.drc.getD 0 = 0 := h .drc
    have hlvs : counts.lvs.getD 0 = 0 := h .lvs
    have hantenna : counts.antenna.getD 0 = 0 := h .antenna
    rw [hdrc, hlvs, hantenna]
    rfl

theorem isEmpty_eq_false_iff (counts : RuleCounts) :
    counts.isEmpty = false ↔ ∃ rule, (counts.count rule).isSome = true := by
  unfold isEmpty
  constructor
  · intro h
    by_contra hnone
    have hall : ∀ rule, counts.count rule = none := fun rule =>
      Option.not_isSome_iff_eq_none.mp fun hsome => hnone ⟨rule, hsome⟩
    have hdrc : counts.drc = none := hall .drc
    have hlvs : counts.lvs = none := hall .lvs
    have hantenna : counts.antenna = none := hall .antenna
    rw [hdrc, hlvs, hantenna] at h
    exact nomatch h
  · rintro ⟨rule, hsome⟩
    cases rule with
    | drc =>
      have hdrc : counts.drc.isSome = true := hsome
      simp [Option.isNone_eq_false_iff.mpr hdrc]
    | lvs =>
      have hlvs : counts.lvs.isSome = true := hsome
      simp [Option.isNone_eq_false_iff.mpr hlvs]
    | antenna =>
      have hantenna : counts.antenna.isSome = true := hsome
      simp [Option.isNone_eq_false_iff.mpr hantenna]

end RuleCounts

namespace FindingLines

variable {s : FindingLines} {line figure : List Char} {n : Nat}

/-- The figure in the last line with findings that are not waived. -/
def lastNonWaived? (body : List Char) : Option (List Char) :=
  ((lines body).filterMap nonWaivedFigure?).getLast?

def nonWaivedCount? (line : List Char) : Option UInt64 := (nonWaivedFigure? line).bind readCount?

theorem nonWaived_of_lastNonWaived? {body : List Char} (h : lastNonWaived? body = some figure)
    (hshows : Shows figure n) (hlt : n < 2 ^ 64) :
    ((lines body).foldl readLine empty).nonWaived = some (.ofNat n) := by
  obtain ⟨front, hfront⟩ := List.getLast?_eq_some_iff.mp h
  have hread : readCount? figure = some (.ofNat n) := by
    rw [readCount?_of_shows hshows, if_pos hlt]
  have hcounts : (lines body).filterMap nonWaivedCount? =
      ((lines body).filterMap nonWaivedFigure?).filterMap readCount? :=
    List.filterMap_filterMap.symm
  rw [foldl_readLine]
  show ((lines body).filterMap nonWaivedCount?).getLast? = _
  rw [hcounts, hfront, List.filterMap_append, List.filterMap_cons_some hread, List.filterMap_nil,
    List.getLast?_concat]

theorem readLine_of_large (h : nonWaivedFigure? line = some figure) (hshows : Shows figure n)
    (hlarge : 2 ^ 64 ≤ n) : readLine s line = s := by
  have hline : FindingFigure.nonWaived.figure? line = some figure := h
  have hread : FindingFigure.nonWaived.count? line = none := by
    rw [FindingFigure.count?, hline, Option.bind_some, readCount?_of_shows hshows,
      if_neg (by omega)]
  have hother : ∀ f : FindingFigure, f ≠ .nonWaived → f.count? line = none := by
    intro f hf
    rw [FindingFigure.count?, figure?_eq_none_of_ne hline hf]
    rfl
  rw [readLine_eq, hread, hother .total (by decide), hother .waived (by decide),
    checker?_eq_none_of_figure? hline]
  simp

end FindingLines

namespace FindingCounts

variable {body : List Char} {counts : FindingCounts}

theorem nonWaived_of_read? {m : UInt64} (h : read? body = some counts)
    (hm : ((lines body).foldl FindingLines.readLine FindingLines.empty).nonWaived = some m) :
    counts.nonWaived = m := by
  unfold read? at h
  dsimp only at h
  split at h
  · exact nomatch h
  · obtain rfl := Option.some.inj h
    dsimp only
    rw [hm, Option.getD_some]

theorem statusOf_ne_passed {m : UInt64} (h : m ≠ 0) : statusOf m ≠ .passed := by
  unfold statusOf
  rw [if_neg h]
  split
  · exact nofun
  · exact nofun

/-- A line that shows too many findings counts for nothing. -/
theorem read?_of_large {front rest : List (List Char)} {line figure : List Char} {n : Nat}
    {body' : List Char} (hbody : lines body = front ++ line :: rest)
    (h : FindingLines.nonWaivedFigure? line = some figure) (hshows : Shows figure n)
    (hlarge : 2 ^ 64 ≤ n) (hrest : lines body' = front ++ rest) : read? body = read? body' := by
  unfold read?
  rw [hbody, hrest, List.foldl_append, List.foldl_append, List.foldl_cons,
    FindingLines.readLine_of_large h hshows hlarge]

end FindingCounts

namespace Domain

variable {output : String} {body : List Char}

theorem classify_eq_of_body? {d : Domain} (h : Section.body? d output.toList = some body) :
    d.classify output = (Verdict.ofBody? d body).getD (Verdict.noData d) := by
  unfold classify
  rw [h]

/-- A section of physical verification passes if a count was read and none is taken for another
number than zero. -/
theorem physical_passed_iff (h : Section.body? .physical output.toList = some body) :
    (Domain.physical.classify output).status = .passed ↔
      (∃ rule, ((RuleCounts.read body).count rule).isSome = true) ∧
        ∀ rule, ((RuleCounts.read body).count rule).getD 0 = 0 := by
  rw [classify_eq_of_body? h, ← RuleCounts.isEmpty_eq_false_iff, ← RuleCounts.status_eq_passed_iff]
  unfold Verdict.ofBody?
  dsimp only
  cases (RuleCounts.read body).isEmpty with
  | true => exact ⟨fun hstatus => (nomatch hstatus), fun hboth => (nomatch hboth.1)⟩
  | false => exact ⟨fun hstatus => ⟨rfl, hstatus⟩, fun hboth => hboth.2⟩

theorem gateLevel_not_passed (h : Section.body? .gateLevel output.toList = some body)
    {figure : List Char} {n : Nat} (hlast : FindingLines.lastNonWaived? body = some figure)
    (hshows : Shows figure n) (hne : n ≠ 0) (hlt : n < 2 ^ 64) :
    (Domain.gateLevel.classify output).status ≠ .passed := by
  have hcount := FindingLines.nonWaived_of_lastNonWaived? hlast hshows hlt
  rw [classify_eq_of_body? h]
  unfold Verdict.ofBody?
  dsimp only
  cases hread : FindingCounts.read? body with
  | none => exact nofun
  | some counts =>
    have hsome : UInt64.ofNat n ≠ 0 := by
      intro hzero
      have hnat := congrArg UInt64.toNat hzero
      rw [UInt64.toNat_ofNat_of_lt' hlt] at hnat
      exact hne hnat
    rw [← FindingCounts.nonWaived_of_read? hread hcount] at hsome
    exact FindingCounts.statusOf_ne_passed hsome

/-- A section of physical verification passes if it has a count and the last line about each rule,
in plain letters, shows no number but zero or one that takes more than 64 bits. A gate-level check
does not pass if the last line of findings that are not waived shows any other number; such a line
counts for nothing if its number takes more than 64 bits. -/
theorem passed_by_counts (output : String) :
    (∀ body, Section.body? .physical output.toList = some body → RuleCounts.IsPlain body →
      ((Domain.physical.classify output).status = .passed ↔
        (∃ rule, ((RuleCounts.lastFigure? rule body).bind RuleCounts.countOf).isSome = true) ∧
          ∀ rule figure n, RuleCounts.lastFigure? rule body = some figure → Shows figure n →
            n = 0 ∨ 2 ^ 64 ≤ n)) ∧
    ∀ body, Section.body? .gateLevel output.toList = some body →
      (∀ figure n, FindingLines.lastNonWaived? body = some figure → Shows figure n → n ≠ 0 →
        n < 2 ^ 64 → (Domain.gateLevel.classify output).status ≠ .passed) ∧
      ∀ front line rest figure n body', lines body = front ++ line :: rest →
        FindingLines.nonWaivedFigure? line = some figure → Shows figure n → 2 ^ 64 ≤ n →
          lines body' = front ++ rest → FindingCounts.read? body = FindingCounts.read? body' := by
  refine ⟨fun body hbody hplain => ?_, fun body hbody => ⟨?_, ?_⟩⟩
  · rw [physical_passed_iff hbody]
    refine and_congr (exists_congr fun rule => ?_)
      (forall_congr' fun rule => RuleCounts.getD_count_read hplain rule)
    rw [RuleCounts.count_read hplain]
  · intro figure n hlast hshows hne hlt
    exact gateLevel_not_passed hbody hlast hshows hne hlt
  · intro front line rest figure n body' hlines hline hshows hlarge hrest
    exact FindingCounts.read?_of_large hlines hline hshows hlarge hrest

/-- Two sections with counts that are not zero; one line of the second shows too large a number. -/
theorem passed_by_counts_two_sections :
    let output := "===== PV =====\nDRC: 1,204\nLVS: CLEAN\n" ++
      "===== GLC =====\nNon-waived: 18446744073709551616\nNon-waived: 3\n"
    (Domain.physical.classify output).status ≠ .passed ∧
      (Domain.gateLevel.classify output).status ≠ .passed ∧
      FindingCounts.read? "Non-waived: 18446744073709551616\nNon-waived: 3".toList =
        FindingCounts.read? "Non-waived: 3".toList := by
  intro output
  obtain ⟨hphysical, hgate⟩ := passed_by_counts output
  have hbody : Section.body? .gateLevel output.toList =
      some "Non-waived: 18446744073709551616\nNon-waived: 3".toList := by decide +kernel
  obtain ⟨hcount, hlarge⟩ := hgate _ hbody
  refine ⟨fun hpassed => ?_, ?_, ?_⟩
  · have hpassed := (hphysical "DRC: 1,204\nLVS: CLEAN".toList (by decide +kernel)
      (by decide +kernel)).mp hpassed
    exact absurd (hpassed.2 .drc "1,204".toList 1204 (by decide +kernel)
      (by decide +kernel)) (by decide)
  · exact hcount "3".toList 3 (by decide +kernel) (by decide +kernel) (by decide) (by decide)
  · exact hlarge [] "Non-waived: 18446744073709551616".toList ["Non-waived: 3".toList]
      "18446744073709551616".toList 18446744073709551616 _ (by decide +kernel) (by decide +kernel)
      (by decide +kernel) (by decide) (by decide +kernel)

/-- Numbers of more than 64 bits pass in both domains, and so does a count for a rule with the
long s, which the line behind it replaces. -/
theorem large_counts_pass :
    (∃ output body figure, Section.body? .physical output.toList = some body ∧
      RuleCounts.lastFigure? .drc body = some figure ∧ Shows figure (2 ^ 64) ∧
        (Domain.physical.classify output).status = .passed) ∧
    (∃ output body figure, Section.body? .gateLevel output.toList = some body ∧
      FindingLines.lastNonWaived? body = some figure ∧ Shows figure (2 ^ 64) ∧
        (Domain.gateLevel.classify output).status = .passed) ∧
    ∃ output body figure, Section.body? .physical output.toList = some body ∧
      RuleCounts.lastFigure? .lvs body = some figure ∧ Shows figure 6 ∧
        (Domain.physical.classify output).status = .passed := by
  have hlarge : Shows "18446744073709551616".toList (2 ^ 64) := by decide +kernel
  refine ⟨⟨"===== PV =====\nDRC violations: 18446744073709551616\nLVS: 0\nAntenna: 0\n",
      "DRC violations: 18446744073709551616\nLVS: 0\nAntenna: 0".toList, _, by decide +kernel,
      by decide +kernel, hlarge, by decide +kernel⟩,
    ⟨"===== GLC =====\nTotal errors: 0\nNon-waived: 18446744073709551616\n",
      "Total errors: 0\nNon-waived: 18446744073709551616".toList, _, by decide +kernel,
      by decide +kernel, hlarge, by decide +kernel⟩,
    ⟨"===== PV =====\nLV\u017f: 6\nAntenna: 0\n", "LV\u017f: 6\nAntenna: 0".toList, "6".toList,
      by decide +kernel, by decide +kernel, by decide +kernel, by decide +kernel⟩⟩

end Domain

end Signoff
