import Signoff.Proofs.Analysis.Counts

/-!
# The worst clock

The verdict on clock trees rests on the last of the clocks with the highest latency: no clock has a
higher one, and no status that the latency of a clock would give is more severe than the verdict.
So the verdict does not depend on the order of the lines, and one more line does not make it better
(`worst_clock_decides`).

Latencies are ordered by rank, which differs from the order by value in one place: a negative zero
lies below zero.
-/

namespace Signoff

open Text Number

/-! ## The order of latencies -/

namespace Number.Binary64

variable {x y z : Binary64}

theorem le_iff : x.le y = true ↔ x.isNaN = false ∧ y.isNaN = false ∧ x.place ≤ y.place := by
  simp [le, and_assoc]

theorem lt_iff : x.lt y = true ↔ x.isNaN = false ∧ y.isNaN = false ∧ x.place < y.place := by
  simp [lt, and_assoc]

theorem rank_injective (h : x.rank = y.rank) : x = y := by
  obtain ⟨negative, position⟩ := x
  obtain ⟨negative', position'⟩ := y
  unfold rank at h
  dsimp only at h
  -- numbers of different signs have ranks of different signs
  cases negative <;> cases negative' <;>
    simp only [Bool.false_eq_true, if_false, if_true] at h
  · rw [Int.ofNat_inj.mp h]
  · omega
  · omega
  · rw [show position = position' by omega]

theorem le_of_rank_le (hx : x.isNaN = false) (hy : y.isNaN = false) (h : x.rank ≤ y.rank) :
    x.le y = true := by
  rw [le_iff]
  refine ⟨hx, hy, ?_⟩
  obtain ⟨negative, position⟩ := x
  obtain ⟨negative', position'⟩ := y
  unfold rank at h
  unfold place
  cases negative <;> cases negative' <;>
    simp only [Bool.false_eq_true, if_false, if_true] at h ⊢ <;> omega

/-- A lower rank is a lower value but for the two zeros. -/
theorem lt_of_rank_lt (hx : x.isNaN = false) (hy : y.isNaN = false) (h : x.rank < y.rank) :
    x.lt y = true ∨ x = ⟨true, 0⟩ ∧ y = zero := by
  by_cases hlt : x.place < y.place
  · exact .inl (lt_iff.mpr ⟨hx, hy, hlt⟩)
  · right
    obtain ⟨negative, position⟩ := x
    obtain ⟨negative', position'⟩ := y
    unfold rank at h
    unfold place at hlt
    dsimp only at h hlt
    cases negative <;> cases negative' <;>
      simp only [Bool.false_eq_true, if_false, if_true] at h hlt
    · omega
    · omega
    · rw [show position = 0 by omega, show position' = 0 by omega]
      exact ⟨rfl, rfl⟩
    · omega

end Number.Binary64

/-! ## The worst of a list -/

namespace ClockTree

variable {clocks : List ClockTree} {worst : ClockTree}

theorem worst?_concat (front : List ClockTree) (c : ClockTree) :
    worst? (front ++ [c]) = match worst? front with
      | none => some c
      | some b => if b.latency.rank ≤ c.latency.rank then some c else some b := by
  unfold worst?
  exact List.foldl_append

theorem worst?_eq_none_iff : worst? clocks = none ↔ clocks = [] := by
  constructor
  · intro h
    cases clocks using List.reverseRecOn with
    | nil => rfl
    | append_singleton front c =>
      rw [worst?_concat] at h
      split at h
      · exact nomatch h
      · split at h <;> exact nomatch h
  · rintro rfl
    rfl

/-- The worst clock is the last one with the highest rank. -/
theorem exists_split_of_worst? (h : worst? clocks = some worst) :
    ∃ front rest, clocks = front ++ worst :: rest ∧
      (∀ c ∈ front, c.latency.rank ≤ worst.latency.rank) ∧
      ∀ c ∈ rest, c.latency.rank < worst.latency.rank := by
  -- by one more clock at the end, which is worst itself or leaves the worst one as it is
  induction clocks using List.reverseRecOn generalizing worst with
  | nil => exact nomatch h
  | append_singleton init c ih =>
    rw [worst?_concat] at h
    cases hinit : worst? init with
    | none =>
      rw [hinit] at h
      obtain rfl := Option.some.inj h
      rw [worst?_eq_none_iff.mp hinit]
      exact ⟨[], [], rfl, nofun, nofun⟩
    | some b =>
      rw [hinit] at h
      obtain ⟨front, rest, rfl, hfront, hrest⟩ := ih hinit
      dsimp only at h
      by_cases hle : b.latency.rank ≤ c.latency.rank
      · rw [if_pos hle] at h
        obtain rfl := Option.some.inj h
        refine ⟨front ++ b :: rest, [], rfl, fun d hd => ?_, nofun⟩
        rcases List.mem_append.mp hd with hd | hd
        · exact (hfront d hd).trans hle
        · rcases List.mem_cons.mp hd with rfl | hd
          · exact hle
          · exact (hrest d hd).le.trans hle
      · rw [if_neg hle] at h
        obtain rfl := Option.some.inj h
        refine ⟨front, rest ++ [c], by simp, hfront, fun d hd => ?_⟩
        rcases List.mem_append.mp hd with hd | hd
        · exact hrest d hd
        · rw [List.mem_singleton.mp hd]
          omega

theorem rank_le_of_worst? (h : worst? clocks = some worst) :
    ∀ c ∈ clocks, c.latency.rank ≤ worst.latency.rank := by
  obtain ⟨front, rest, rfl, hfront, hrest⟩ := exists_split_of_worst? h
  intro c hc
  rcases List.mem_append.mp hc with hc | hc
  · exact hfront c hc
  · rcases List.mem_cons.mp hc with rfl | hc
    · exact Int.le_refl _
    · exact (hrest c hc).le

/-- The highest latency is the same in every order. -/
theorem latency_eq_of_perm {others : List ClockTree} {worst' : ClockTree}
    (hperm : others.Perm clocks) (h : worst? clocks = some worst)
    (h' : worst? others = some worst') : worst'.latency = worst.latency := by
  apply Binary64.rank_injective
  apply Int.le_antisymm
  · exact rank_le_of_worst? h worst' (hperm.mem_iff.mp (mem_of_worst? h'))
  · exact rank_le_of_worst? h' worst (hperm.mem_iff.mpr (mem_of_worst? h))

/-! ## Latencies that are read -/

theorem readUnsignedDecimal?_le_infinity {cs : List Char} {position : Nat}
    (h : readUnsignedDecimal? cs = some position) : position ≤ Binary64.infinity := by
  unfold readUnsignedDecimal? at h
  dsimp only at h
  split at h <;>
    · split at h
      · exact nomatch h
      · obtain ⟨e, -, rfl⟩ := Option.map_eq_some_iff.mp h
        exact nearestDecimal_le_infinity _ _

theorem isNaN_of_readReal? {cs : List Char} {x : Binary64} (hcs : IsFigureText cs)
    (h : readReal? cs = some x) : x.isNaN = false := by
  unfold readReal? at h
  have htext : IsFigureText (((trim cs).dropWhile (· == '+')).filter (· != ',')) := fun c hc =>
    hcs c ((infix_trim cs).subset ((List.dropWhile_suffix _).subset (List.mem_of_mem_filter hc)))
  rw [read?_of_figureText htext] at h
  obtain ⟨position, hposition, rfl⟩ := Option.map_eq_some_iff.mp h
  exact decide_eq_false (Nat.not_lt.mpr (readUnsignedDecimal?_le_infinity hposition))

theorem isNaN_of_inPicoseconds? {quantity : List Char × Option (List Char)} {x : Binary64}
    (htext : IsFigureText quantity.1) (h : inPicoseconds? quantity = some x) :
    x.isNaN = false := by
  obtain ⟨value, hvalue, hx⟩ := Option.bind_eq_some_iff.mp h
  have hnumber := isNaN_of_readReal? htext hvalue
  have hthousand : (Binary64.ofNat 1000).isFinite = true :=
    (Binary64.within_ofNat (by decide : 1000 ≤ 2 ^ 10)).isFinite (by decide)
  have hpositive : (Binary64.ofNat 1000).position ≠ 0 := by
    have hone := Binary64.le_position_ofNat (by decide : 1 ≤ 1000)
    have hbinade : 0 < Binary64.binade := by decide
    omega
  split at hx
  · split at hx
    · exact Option.some.inj hx ▸ Binary64.isNaN_mul hnumber hthousand hpositive
    · exact Option.some.inj hx ▸ hnumber
  · exact Option.some.inj hx ▸ hnumber

theorem isNaN_readAll {body : List Char} {c : ClockTree} (h : c ∈ readAll body) :
    c.latency.isNaN = false := by
  obtain ⟨line, -, hread⟩ := List.mem_filterMap.mp h
  obtain ⟨name, -, hread⟩ := Option.bind_eq_some_iff.mp hread
  obtain ⟨latency, hlatency, hread⟩ := Option.bind_eq_some_iff.mp hread
  obtain rfl := Option.some.inj hread
  obtain ⟨quantity, hquantity, htext, -⟩ := exists_of_find? hlatency
  exact isNaN_of_inPicoseconds? htext hquantity

end ClockTree

/-! ## Severity -/

/-- Both statuses are verdicts, and the first is not the more severe one. -/
def Status.AtMost (s t : Status) : Prop :=
  ∃ m n, s.severity? = some m ∧ t.severity? = some n ∧ m ≤ n

namespace ClockReport

/-- A higher latency gives no better status. -/
theorem statusOf_atMost {x y : Binary64} (h : x.le y = true) :
    (statusOf x).AtMost (statusOf y) := by
  obtain ⟨hx, hy, hplace⟩ := Binary64.le_iff.mp h
  have hpass : y.le passLimit = true → x.le passLimit = true := by
    rw [Binary64.le_iff, Binary64.le_iff]
    exact fun ⟨_, hlimit, hle⟩ => ⟨hx, hlimit, hplace.trans hle⟩
  have hfail : y.lt failLimit = true → x.lt failLimit = true := by
    rw [Binary64.lt_iff, Binary64.lt_iff]
    exact fun ⟨_, hlimit, hlt⟩ => ⟨hx, hlimit, lt_of_le_of_lt hplace hlt⟩
  unfold statusOf
  by_cases hx1 : x.le passLimit = true
  · rw [if_pos hx1]
    split
    · exact ⟨0, 0, rfl, rfl, by decide⟩
    · split
      · exact ⟨0, 1, rfl, rfl, by decide⟩
      · exact ⟨0, 4, rfl, rfl, by decide⟩
  · rw [if_neg hx1, if_neg (mt hpass hx1)]
    by_cases hx2 : x.lt failLimit = true
    · rw [if_pos hx2]
      split
      · exact ⟨1, 1, rfl, rfl, by decide⟩
      · exact ⟨1, 4, rfl, rfl, by decide⟩
    · rw [if_neg hx2, if_neg (mt hfail hx2)]
      exact ⟨4, 4, rfl, rfl, by decide⟩

/-- The worst clock of the report is the last one with the highest latency. A clock behind it has a
lower one, unless both are zeros and that of the clock behind is negative. -/
structure NamesWorst (r : ClockReport) : Prop where
  highest : ∀ c ∈ r.clocks, c.latency.le r.worstLatency = true
  last : ∃ front worst rest, r.clocks = front ++ worst :: rest ∧
    worst.latency = r.worstLatency ∧ worst.name = r.worstClock ∧
    ∀ c ∈ rest, c.latency ≠ r.worstLatency ∧ (c.latency.lt r.worstLatency = true ∨
      c.latency = ⟨true, 0⟩ ∧ r.worstLatency = Binary64.zero)

theorem namesWorst_of_worst? {clocks : List ClockTree} {worst : ClockTree}
    (hnumber : ∀ c ∈ clocks, c.latency.isNaN = false)
    (h : ClockTree.worst? clocks = some worst) :
    NamesWorst ⟨clocks, worst.latency, worst.name⟩ where
  highest c hc := by
    apply Binary64.le_of_rank_le (hnumber c hc) (hnumber worst (ClockTree.mem_of_worst? h))
    exact ClockTree.rank_le_of_worst? h c hc
  last := by
    obtain ⟨front, rest, rfl, -, hrest⟩ := ClockTree.exists_split_of_worst? h
    refine ⟨front, worst, rest, rfl, rfl, rfl, fun c hc => ⟨fun heq => ?_, ?_⟩⟩
    · have hlt := hrest c hc
      rw [heq] at hlt
      exact Int.lt_irrefl _ hlt
    · apply Binary64.lt_of_rank_lt (hnumber c _) (hnumber worst _) (hrest c hc)
      · exact List.mem_append_right _ (List.mem_cons_of_mem _ hc)
      · exact List.mem_append_right _ List.mem_cons_self

end ClockReport

/-! ## The verdict -/

namespace Domain

open ClockTree ClockReport

variable {output : String} {body : List Char}

theorem classify_clock {worst : ClockTree} (hbody : Section.body? .clock output.toList = some body)
    (h : worst? (readAll body) = some worst) :
    (clock.classify output).status = statusOf worst.latency ∧
      (clock.classify output).figures = .clock ⟨readAll body, worst.latency, worst.name⟩ := by
  rw [classify_eq_of_body? hbody]
  unfold Verdict.ofBody? ofClocks?
  dsimp only
  rw [h]
  exact ⟨rfl, rfl⟩

/-- A section with the clocks of another one, and perhaps more, is not judged to be better. -/
theorem classify_clock_atMost {output' : String} {body' : List Char}
    (hbody : Section.body? .clock output.toList = some body)
    (hbody' : Section.body? .clock output'.toList = some body') (hclocks : readAll body ≠ [])
    (hsub : readAll body ⊆ readAll body') :
    (clock.classify output).status.AtMost (clock.classify output').status := by
  obtain ⟨worst, hworst⟩ := Option.ne_none_iff_exists'.mp (mt worst?_eq_none_iff.mp hclocks)
  have hmem := hsub (mem_of_worst? hworst)
  have hclocks' : worst? (readAll body') ≠ none :=
    mt worst?_eq_none_iff.mp (List.ne_nil_of_mem hmem)
  obtain ⟨worst', hworst'⟩ := Option.ne_none_iff_exists'.mp hclocks'
  rw [(classify_clock hbody hworst).1, (classify_clock hbody' hworst').1]
  apply statusOf_atMost
  exact (namesWorst_of_worst? (fun _ => isNaN_readAll) hworst').highest worst hmem

/-- The worst clock decides. In a section with clocks, the report names the last clock with the
highest latency, and the verdict is the most severe of the statuses that the latencies give. So it
is the same for every order of the lines, and one more line at any place gives no better one. -/
theorem worst_clock_decides (hbody : Section.body? .clock output.toList = some body)
    (hclocks : readAll body ≠ []) :
    (∃ r, (clock.classify output).figures = .clock r ∧ r.clocks = readAll body ∧ r.NamesWorst ∧
      (clock.classify output).status = statusOf r.worstLatency) ∧
    (∃ c ∈ readAll body, (clock.classify output).status = statusOf c.latency) ∧
    (∀ c ∈ readAll body, (statusOf c.latency).AtMost (clock.classify output).status) ∧
    (∀ output' body', Section.body? .clock output'.toList = some body' →
      (lines body').Perm (lines body) →
        (clock.classify output').status = (clock.classify output).status) ∧
    ∀ output' body' line, Section.body? .clock output'.toList = some body' →
      (lines body').Perm (line :: lines body) →
        (clock.classify output).status.AtMost (clock.classify output').status := by
  obtain ⟨worst, hworst⟩ := Option.ne_none_iff_exists'.mp (mt worst?_eq_none_iff.mp hclocks)
  obtain ⟨hstatus, hfigures⟩ := classify_clock hbody hworst
  have hnames := namesWorst_of_worst? (fun _ => isNaN_readAll) hworst
  refine ⟨⟨_, hfigures, rfl, hnames, hstatus⟩, ⟨worst, mem_of_worst? hworst, hstatus⟩, ?_, ?_, ?_⟩
  · intro c hc
    rw [hstatus]
    exact statusOf_atMost (hnames.highest c hc)
  · intro output' body' hbody' hlines
    have hperm : (readAll body').Perm (readAll body) := hlines.filterMap readLine?
    have hclocks' : worst? (readAll body') ≠ none := by
      rw [ne_eq, worst?_eq_none_iff]
      exact fun h => hclocks (h ▸ hperm).nil_eq.symm
    obtain ⟨worst', hworst'⟩ := Option.ne_none_iff_exists'.mp hclocks'
    rw [hstatus, (classify_clock hbody' hworst').1, latency_eq_of_perm hperm hworst hworst']
  · intro output' body' line hbody' hlines
    apply classify_clock_atMost hbody hbody' hclocks
    -- the clocks of the other lines are there, whether the line has a clock or not
    intro c hc
    obtain ⟨other, hother, hread⟩ := List.mem_filterMap.mp hc
    exact List.mem_filterMap.mpr
      ⟨other, hlines.mem_iff.mpr (List.mem_cons_of_mem line hother), hread⟩

/-- Two clocks share the highest latency, spelled in different units. -/
theorem worst_clock_decides_tie :
    let output := "===== CTS =====\nClock a latency: 0.5 ns\nClock b latency: 300\n" ++
      "skew: 1 ps\nClock c latency: 500 ps\nClock d latency: 40\n"
    let longer := "===== CLOCK =====\nClock c latency: 500 ps\nClock a latency: 0.5 ns\n" ++
      "Clock b latency: 300\nClock d latency: 40\nskew: 1 ps\nClock e latency: 580\n"
    (∃ r, (clock.classify output).figures = .clock r ∧ r.NamesWorst ∧ r.worstClock = "c") ∧
      (clock.classify output).status.AtMost (clock.classify longer).status := by
  intro output longer
  have hbody : Section.body? .clock output.toList = some ("Clock a latency: 0.5 ns\n" ++
      "Clock b latency: 300\nskew: 1 ps\nClock c latency: 500 ps\nClock d latency: 40").toList := by
    decide +kernel
  obtain ⟨⟨r, hfigures, -, hnames, -⟩, -, -, -, hmore⟩ :=
    worst_clock_decides hbody (by decide +kernel)
  have hname : (match (clock.classify output).figures with
      | .clock r => r.worstClock
      | _ => "") = "c" := by decide +kernel
  rw [hfigures] at hname
  refine ⟨⟨r, hfigures, hnames, hname⟩, ?_⟩
  exact hmore longer ("Clock c latency: 500 ps\nClock a latency: 0.5 ns\nClock b latency: 300\n" ++
    "Clock d latency: 40\nskew: 1 ps\nClock e latency: 580").toList
    "Clock e latency: 580".toList (by decide +kernel) (by decide +kernel)

end Domain

end Signoff
