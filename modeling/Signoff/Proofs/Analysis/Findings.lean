import Mathlib.Data.List.Induction
import Signoff.Proofs.Analysis

/-!
# Summaries of findings

Four patterns are tried on a line one after the other, but their keywords start with different
letters, so a line that one of them takes a number from has none for another. Hence every figure is
that of its last line with a readable number, and the checkers are those of all lines
(`readLine_eq`, `foldl_readLine`).

Equal counts are ordered by name, so the order of the checkers is total: any rearrangement of their
lines gives the same summary (`summary_of_figures`).
-/

namespace Signoff

open Text

/-! ## The last of a list -/

section

variable {α β : Type} (front : List α) (a : α)

theorem getLast?_filter_concat (p : α → Bool) :
    ((front ++ [a]).filter p).getLast? = if p a then some a else (front.filter p).getLast? := by
  rw [List.getLast?_filter, List.getLast?_filter, List.reverse_concat, List.find?_cons]
  cases p a <;> rfl

theorem getLast?_filterMap_concat (f : α → Option β) :
    ((front ++ [a]).filterMap f).getLast? = (f a).or (front.filterMap f).getLast? := by
  rw [List.getLast?_filterMap, List.getLast?_filterMap, List.reverse_concat, List.findSome?_cons]
  cases f a <;> rfl

end

/-! ## Lines -/

/-- What the figures of a summary count. -/
inductive FindingFigure
  | total
  | waived
  | nonWaived
deriving DecidableEq

namespace FindingFigure

open FindingLines

def figure? : FindingFigure → List Char → Option (List Char)
  | total => totalFigure?
  | waived => waivedFigure?
  | nonWaived => nonWaivedFigure?

def count? (f : FindingFigure) (line : List Char) : Option UInt64 := (f.figure? line).bind readCount?

/-- What the last line with a readable number counts. -/
def last? (f : FindingFigure) (body : List Char) : Option UInt64 :=
  ((lines body).filterMap f.count?).getLast?

/-- The letters that a line with the figure starts with. -/
def initials : FindingFigure → List Char
  | total => ['t']
  | waived => ['w']
  | nonWaived => ['n', 'u']

end FindingFigure

namespace FindingLines

variable {s : FindingLines} {line figure : List Char} {f g : FindingFigure}

def initial? (line : List Char) : Option Char := (trimStart line).head?.map Char.toLower

/-- Only for `s` and `k` is there another character that a keyword may start with. -/
theorem initial?_of_keyword? {k : Char} {ks : List Char} {found : List Char × List Char}
    (hs : k ≠ 's') (hk : k ≠ 'k') (h : keyword? (k :: ks) (trimStart line) = some found) :
    initial? line = some k := by
  unfold initial?
  cases hinner : trimStart line with
  | nil =>
    rw [hinner] at h
    exact absurd h.symm (Option.some_ne_none found)
  | cons c cs =>
    rw [hinner, keyword?] at h
    have hfold : foldsTo k c = true := by
      by_contra hnot
      rw [if_neg hnot] at h
      exact Option.some_ne_none found h.symm
    have hletter : c.toLower = k := by simpa [foldsTo, hs, hk] using hfold
    rw [List.head?_cons, Option.map_some, hletter]

theorem initial?_of_figure? (h : f.figure? line = some figure) :
    ∃ c ∈ f.initials, initial? line = some c := by
  cases f with
  | total =>
    obtain ⟨found, hfound, -⟩ := Option.bind_eq_some_iff.mp h
    exact ⟨'t', List.mem_cons_self, initial?_of_keyword? (by decide) (by decide) hfound⟩
  | waived =>
    obtain ⟨found, hfound, -⟩ := Option.bind_eq_some_iff.mp h
    exact ⟨'w', List.mem_cons_self, initial?_of_keyword? (by decide) (by decide) hfound⟩
  | nonWaived =>
    obtain ⟨rest, hrest, -⟩ := Option.bind_eq_some_iff.mp h
    cases hnon : afterNonWaived? (trimStart line) with
    | some behind =>
      obtain ⟨found, hfound, -⟩ := Option.bind_eq_some_iff.mp hnon
      exact ⟨'n', by decide, initial?_of_keyword? (by decide) (by decide) hfound⟩
    | none =>
      rw [hnon] at hrest
      obtain ⟨found, hfound, -⟩ := Option.map_eq_some_iff.mp hrest
      exact ⟨'u', by decide, initial?_of_keyword? (by decide) (by decide) hfound⟩

theorem initial?_of_checkerLine {entry : List Char × List Char}
    (h : checkerEntry? line = some entry) : initial? line = some 'c' := by
  obtain ⟨found, hfound, -⟩ := Option.bind_eq_some_iff.mp h
  exact initial?_of_keyword? (by decide) (by decide) hfound

/-- At most one figure is taken from a line. -/
theorem figure?_eq_none_of_ne (h : f.figure? line = some figure) (hne : g ≠ f) :
    g.figure? line = none := by
  obtain ⟨c, hc, hline⟩ := initial?_of_figure? h
  cases hg : g.figure? line with
  | none => rfl
  | some other =>
    obtain ⟨d, hd, hother⟩ := initial?_of_figure? hg
    rw [hline] at hother
    obtain rfl := Option.some.inj hother
    cases f <;> cases g <;> simp_all [FindingFigure.initials]

theorem checker?_eq_none_of_figure? (h : f.figure? line = some figure) : checker? line = none := by
  obtain ⟨c, hc, hline⟩ := initial?_of_figure? h
  cases hentry : checkerEntry? line with
  | none =>
    unfold checker?
    rw [hentry]
    rfl
  | some entry =>
    rw [initial?_of_checkerLine hentry] at hline
    obtain rfl := Option.some.inj hline
    cases f <;> exact absurd hc (by decide)

theorem exists_figure?_of_count? {n : UInt64} (h : f.count? line = some n) :
    ∃ figure, f.figure? line = some figure := by
  obtain ⟨figure, hfigure, -⟩ := Option.bind_eq_some_iff.mp h
  exact ⟨figure, hfigure⟩

theorem count?_eq_none_of_ne {n : UInt64} (h : f.count? line = some n) (hne : g ≠ f) :
    g.count? line = none := by
  obtain ⟨figure, hfigure⟩ := exists_figure?_of_count? h
  rw [FindingFigure.count?, figure?_eq_none_of_ne hfigure hne]
  rfl

theorem checker?_eq_none_of_count? {n : UInt64} (h : f.count? line = some n) :
    checker? line = none := by
  obtain ⟨figure, hfigure⟩ := exists_figure?_of_count? h
  exact checker?_eq_none_of_figure? hfigure

/-- What is read of a line does not depend on the order in which the patterns are tried. -/
theorem readLine_eq (s : FindingLines) (line : List Char) :
    readLine s line =
      { total := (FindingFigure.total.count? line).or s.total
        waived := (FindingFigure.waived.count? line).or s.waived
        nonWaived := (FindingFigure.nonWaived.count? line).or s.nonWaived
        checkers := s.checkers ++ (checker? line).toList } := by
  have hreaders : (nonWaivedFigure? line).bind readCount? = FindingFigure.nonWaived.count? line ∧
      (waivedFigure? line).bind readCount? = FindingFigure.waived.count? line ∧
      (totalFigure? line).bind readCount? = FindingFigure.total.count? line := ⟨rfl, rfl, rfl⟩
  unfold readLine
  rw [hreaders.1, hreaders.2.1, hreaders.2.2]
  cases hnon : FindingFigure.nonWaived.count? line with
  | some n =>
    rw [count?_eq_none_of_ne hnon (by decide), count?_eq_none_of_ne hnon (by decide),
      checker?_eq_none_of_count? hnon]
    simp
  | none =>
    cases hwaived : FindingFigure.waived.count? line with
    | some n =>
      rw [count?_eq_none_of_ne hwaived (by decide), checker?_eq_none_of_count? hwaived]
      simp
    | none =>
      cases htotal : FindingFigure.total.count? line with
      | some n =>
        rw [checker?_eq_none_of_count? htotal]
        simp
      | none => cases checker? line <;> simp

/-! ## Bodies -/

/-- Each figure is that of the last line where it can be read. -/
theorem foldl_readLine (ls : List (List Char)) :
    ls.foldl readLine empty =
      { total := (ls.filterMap FindingFigure.total.count?).getLast?
        waived := (ls.filterMap FindingFigure.waived.count?).getLast?
        nonWaived := (ls.filterMap FindingFigure.nonWaived.count?).getLast?
        checkers := ls.filterMap checker? } := by
  induction ls using List.reverseRecOn with
  | nil => rfl
  | append_singleton front line ih =>
    have hchecker : [line].filterMap checker? = (checker? line).toList := by
      cases hline : checker? line with
      | none => rw [List.filterMap_cons_none hline, List.filterMap_nil, Option.toList_none]
      | some c => rw [List.filterMap_cons_some hline, List.filterMap_nil, Option.toList_some]
    rw [List.foldl_append, List.foldl_cons, List.foldl_nil, ih, readLine_eq,
      getLast?_filterMap_concat, getLast?_filterMap_concat, getLast?_filterMap_concat,
      List.filterMap_append, hchecker]

end FindingLines

namespace FindingCounts

open FindingLines

variable {a b c : CheckerCount} {body : List Char} {counts : FindingCounts}

/-! ## The order of the checkers -/

/-- More findings come first; of equally many, the smaller name. -/
def InOrder (a b : CheckerCount) : Prop :=
  b.count < a.count ∨ a.count = b.count ∧ a.checker ≤ b.checker

theorem isAhead_iff : isAhead a b = true ↔ InOrder a b := by
  unfold isAhead InOrder
  rw [Bool.or_eq_true, Bool.and_eq_true, decide_eq_true_eq, beq_iff_eq, decide_eq_true_eq]

theorem InOrder.trans (hab : InOrder a b) (hbc : InOrder b c) : InOrder a c := by
  rcases hab with hab | ⟨hab, hname⟩
  · rcases hbc with hbc | ⟨hbc, -⟩
    · exact .inl (UInt64.lt_trans hbc hab)
    · exact .inl (hbc ▸ hab)
  · rcases hbc with hbc | ⟨hbc, hnext⟩
    · exact .inl (hab ▸ hbc)
    · exact .inr ⟨hab.trans hbc, String.le_trans hname hnext⟩

theorem inOrder_total (a b : CheckerCount) : InOrder a b ∨ InOrder b a := by
  by_cases hlt : b.count < a.count
  · exact .inl (.inl hlt)
  by_cases hgt : a.count < b.count
  · exact .inr (.inl hgt)
  have heq : a.count = b.count := UInt64.le_antisymm (UInt64.not_lt.mp hlt) (UInt64.not_lt.mp hgt)
  rcases String.le_total a.checker b.checker with hname | hname
  · exact .inl (.inr ⟨heq, hname⟩)
  · exact .inr (.inr ⟨heq.symm, hname⟩)

theorem InOrder.antisymm (hab : InOrder a b) (hba : InOrder b a) : a = b := by
  have hcount : a.count = b.count := by
    rcases hab with hab | hab
    · rcases hba with hba | hba
      · exact absurd hba (UInt64.lt_asymm hab)
      · exact hba.1.symm
    · exact hab.1
  have hirrefl : ¬ b.count < b.count := UInt64.lt_irrefl _
  rw [InOrder, hcount] at hab hba
  have hname := (hab.resolve_left hirrefl).2
  have hname' := (hba.resolve_left hirrefl).2
  cases a
  cases b
  exact congrArg₂ CheckerCount.mk (String.le_antisymm hname hname') hcount

theorem pairwise_sorted (checkers : List CheckerCount) :
    (checkers.mergeSort isAhead).Pairwise InOrder := by
  have hsorted : (checkers.mergeSort isAhead).Pairwise fun a b => isAhead a b = true := by
    apply List.pairwise_mergeSort
    · intro a b c hab hbc
      rw [isAhead_iff] at hab hbc ⊢
      exact hab.trans hbc
    · intro a b
      rw [Bool.or_eq_true, isAhead_iff, isAhead_iff]
      exact inOrder_total a b
  exact hsorted.imp isAhead_iff.mp

/-- The order has no ties, so the sorted list depends on the checkers only. -/
theorem sorted_eq_of_perm {checkers others : List CheckerCount} (h : others.Perm checkers) :
    others.mergeSort isAhead = checkers.mergeSort isAhead := by
  have hperm := (List.mergeSort_perm others isAhead).trans
    (h.trans (List.mergeSort_perm checkers isAhead).symm)
  exact hperm.eq_of_pairwise (fun a b _ _ hab hba => hab.antisymm hba)
    (pairwise_sorted others) (pairwise_sorted checkers)

/-! ## Summaries -/

/-- The checkers of all lines where one can be read. -/
def checkers (body : List Char) : List CheckerCount := (lines body).filterMap checker?

/-- A figure of a body, zero if there is none. -/
def figure (f : FindingFigure) (body : List Char) : Nat :=
  ((f.last? body).map UInt64.toNat).getD 0

/-- What the figures and the checkers of a body come to; the difference of natural numbers is not
below zero. -/
structure Summarises (body : List Char) (counts : FindingCounts) : Prop where
  waived : counts.waived.toNat = figure .waived body
  nonWaived : counts.nonWaived.toNat =
    ((FindingFigure.nonWaived.last? body).map UInt64.toNat).getD
      (figure .total body - figure .waived body)
  total : ∀ n, FindingFigure.total.last? body = some n → counts.total = n
  total_of_none : FindingFigure.total.last? body = none →
    counts.waived.toNat + counts.nonWaived.toNat < 2 ^ 64 →
      counts.total.toNat = counts.waived.toNat + counts.nonWaived.toNat
  topCheckers : ∃ sorted : List CheckerCount, sorted.Perm (checkers body) ∧
    sorted.Pairwise InOrder ∧
      counts.topCheckers = sorted.take (min 5 (checkers body).length) ∧
        ∀ kept ∈ counts.topCheckers, ∀ other ∈ sorted.drop (min 5 (checkers body).length),
          InOrder kept other

theorem foldl_lines (body : List Char) :
    (lines body).foldl readLine empty =
      ⟨FindingFigure.total.last? body, FindingFigure.waived.last? body,
        FindingFigure.nonWaived.last? body, checkers body⟩ :=
  foldl_readLine (lines body)

theorem read?_eq_none_iff : read? body = none ↔ ∀ f : FindingFigure, f.last? body = none := by
  unfold read?
  rw [foldl_lines]
  dsimp only
  constructor
  · intro h f
    split at h
    next hnone =>
      simp only [Bool.and_eq_true, Option.isNone_iff_eq_none] at hnone
      cases f with
      | total => exact hnone.1.1
      | waived => exact hnone.1.2
      | nonWaived => exact hnone.2
    next => exact nomatch h
  · intro h
    rw [h .total, h .waived, h .nonWaived]
    rfl

theorem figure_eq (f : FindingFigure) (body : List Char) :
    figure f body = ((f.last? body).getD 0).toNat := by
  unfold figure
  cases f.last? body <;> rfl

/-- The difference of two counts is cut off at zero. -/
theorem toNat_cutOff (m n : UInt64) : (if n ≤ m then m - n else 0).toNat = m.toNat - n.toNat := by
  by_cases h : n ≤ m
  · rw [if_pos h, UInt64.toNat_sub_of_le m n h]
  · have hlt : m.toNat < n.toNat := UInt64.lt_iff_toNat_lt.mp (UInt64.not_le.mp h)
    have hzero : (0 : UInt64).toNat = 0 := rfl
    rw [if_neg h, hzero]
    omega

theorem summarises_of_read? (h : read? body = some counts) : Summarises body counts := by
  unfold read? at h
  rw [foldl_lines] at h
  dsimp only at h
  split at h
  · exact nomatch h
  obtain rfl := Option.some.inj h
  constructor
  · exact (figure_eq .waived body).symm
  · dsimp only
    rw [figure_eq, figure_eq, ← toNat_cutOff]
    cases FindingFigure.nonWaived.last? body <;> rfl
  · intro n htotal
    dsimp only
    rw [htotal, Option.getD_some]
  · intro hnone hsum
    dsimp only at hsum ⊢
    rw [hnone, Option.getD_none, UInt64.toNat_add, ← hnone]
    exact Nat.mod_eq_of_lt hsum
  · have hperm := List.mergeSort_perm (checkers body) isAhead
    have hsorted := pairwise_sorted (checkers body)
    have htake : ((checkers body).mergeSort isAhead).take keptCheckers =
        ((checkers body).mergeSort isAhead).take (min 5 (checkers body).length) := by
      rw [← hperm.length_eq, ← List.take_take, List.take_length]
      rfl
    refine ⟨_, hperm, hsorted, htake, ?_⟩
    intro kept hkept other hother
    -- the kept checkers stand in front of the others
    rw [htake] at hkept
    rw [← List.take_append_drop (min 5 (checkers body).length)
      ((checkers body).mergeSort isAhead), List.pairwise_append] at hsorted
    exact hsorted.2.2 kept hkept other hother

/-- A figure has no part in the lines with checkers. -/
theorem filterMap_count?_eq (f : FindingFigure) (ls : List (List Char)) :
    ls.filterMap f.count? = (ls.filter fun line => (checker? line).isNone).filterMap f.count? := by
  induction ls with
  | nil => rfl
  | cons line ls ih =>
    cases hchecker : checker? line with
    | none =>
      rw [List.filter_cons_of_pos (by rw [hchecker]; rfl), List.filterMap_cons, ih,
        List.filterMap_cons]
    | some c =>
      have hcount : f.count? line = none := by
        by_contra hsome
        obtain ⟨n, hn⟩ := Option.ne_none_iff_exists'.mp hsome
        rw [checker?_eq_none_of_count? hn] at hchecker
        exact nomatch hchecker
      rw [List.filter_cons_of_neg (by rw [hchecker]; exact Bool.false_ne_true),
        List.filterMap_cons_none hcount, ih]

theorem read?_eq_of_perm {body' : List Char} (hperm : (lines body').Perm (lines body))
    (hothers : (lines body').filter (fun line => (checker? line).isNone) =
      (lines body).filter fun line => (checker? line).isNone) : read? body' = read? body := by
  have hlast : ∀ f : FindingFigure, f.last? body' = f.last? body := by
    intro f
    unfold FindingFigure.last?
    rw [filterMap_count?_eq, hothers, ← filterMap_count?_eq]
  have hcheckers : (checkers body').Perm (checkers body) := hperm.filterMap checker?
  unfold read?
  rw [foldl_lines, foldl_lines, hlast, hlast, hlast]
  dsimp only
  rw [sorted_eq_of_perm hcheckers]

/-- There is a summary exactly if the lines have a readable total, waived or non-waived figure, and
it is what these figures and the checkers come to. The lines with checkers may stand in any order,
and anywhere between the others. -/
theorem summary_of_figures (body : List Char) :
    (read? body = none ↔ ∀ f : FindingFigure, f.last? body = none) ∧
    (∀ counts, read? body = some counts → Summarises body counts) ∧
    ∀ body', (lines body').Perm (lines body) →
      (lines body').filter (fun line => (checker? line).isNone) =
        (lines body).filter (fun line => (checker? line).isNone) →
      read? body' = read? body :=
  ⟨read?_eq_none_iff, fun _ h => summarises_of_read? h,
    fun _ hperm hothers => read?_eq_of_perm hperm hothers⟩

/-- Two checkers with as many findings, in either order; findings that are not waived are not
reported, and a total that cannot be read does not replace the one in front of it. -/
theorem summary_of_figures_tied :
    let body := "Total errors: 120\nWaived: 1,00\nTotal: 18446744073709551616\n".toList ++
      "Checker b: 8\nChecker a: 8".toList
    let body' := "Checker a: 8\nTotal errors: 120\nWaived: 1,00\n".toList ++
      "Checker b: 8\nTotal: 18446744073709551616".toList
    ∃ counts, read? body = some counts ∧ read? body' = some counts ∧ counts.nonWaived.toNat = 20 := by
  intro body body'
  obtain ⟨hnone, hsome, hperm⟩ := summary_of_figures body
  have hread : read? body ≠ none := by
    rw [Ne, hnone]
    exact fun hall => absurd (hall .total) (by decide +kernel)
  obtain ⟨counts, hcounts⟩ := Option.ne_none_iff_exists'.mp hread
  have hsame := hperm body' (by decide +kernel) (by decide +kernel)
  exact ⟨counts, hcounts, hsame.trans hcounts,
    (hsome counts hcounts).nonWaived.trans (by decide +kernel)⟩

end FindingCounts

end Signoff
