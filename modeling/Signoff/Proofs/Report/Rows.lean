import Mathlib.Algebra.BigOperators.Group.List.Basic
import Mathlib.Algebra.GroupWithZero.Nat
import Mathlib.Data.List.Nodup
import Signoff.Proofs.Grouping
import Signoff.Proofs.Ledger
import Signoff.Report.Basic

/-!
# The rows of a report

Grouping moves the rows of the units around and loses none (`rows_perm`), and a row holds what the
ledger has for its unit (`get?_results_rowOf`).  So what stops the release can be counted over units
and domains, without the groups (`length_blocking`).

The groups are a partition of the units, in the order of their places, and neither the order of the
units nor that of the results shows in them (`rows_partition_units`).
-/

namespace Signoff

namespace ByDomain

variable {α : Type}

/-- Entering what a function gives for some domains leaves the other domains alone. -/
theorem get?_foldl_set (f : Domain → Option α) (ds : List Domain) (m : ByDomain α) (d : Domain) :
    ((ds.filterMap fun e => (f e).map fun a => (e, a)).foldl
      (fun m e => m.set e.1 e.2) m).get? d =
      if d ∈ ds then (f d).or (m.get? d) else m.get? d := by
  induction ds generalizing m with
  | nil => rfl
  | cons e ds ih =>
    by_cases hde : e = d
    · subst hde
      cases he : f e with
      | none => simp [he, ih]
      | some a => simp [he, ih, get?_set]
    · cases he : f e with
      | none => simp [he, ih, Ne.symm hde]
      | some a => simp [he, ih, get?_set, hde, Ne.symm hde]

theorem get?_ofList (f : Domain → Option α) (ds : List Domain) (d : Domain) :
    (ofList (ds.filterMap fun e => (f e).map fun a => (e, a))).get? d =
      if d ∈ ds then f d else none := by
  have hempty : (empty : ByDomain α).get? d = none := by cases d <;> rfl
  unfold ofList
  rw [get?_foldl_set, hempty, Option.or_none]

end ByDomain

namespace Domain

end Domain

/-- A row tells of a unit. -/
structure UnitRow.TellsOf (row : UnitRow) (u : DesignUnit) : Prop where
  index : row.index = u.index
  name : row.name = u.name
  workarea : row.workarea = u.workarea
  rtlTag : row.rtlTag = u.rtlTag
  releaseDate : row.releaseDate = u.releaseDate
  releaseUser : row.releaseUser = u.releaseUser

namespace Report

/-- The rows of a report, group by group. -/
def rows (r : Report) : List UnitRow := r.chiplets.flatMap (·.units)

/-! ## Grouping -/

theorem addRow_perm (chiplet : String) (row : UnitRow) (gs : List ChipletGroup) :
    ((addRow chiplet row gs).flatMap (·.units)).Perm (row :: gs.flatMap (·.units)) := by
  induction gs with
  | nil => exact .refl _
  | cons g gs ih =>
    rw [addRow]
    split
    -- the row goes to the end of its group, in front of the later ones
    · rw [List.flatMap_cons, List.flatMap_cons, List.append_assoc, List.singleton_append]
      exact List.perm_middle
    · rw [List.flatMap_cons, List.flatMap_cons]
      exact (ih.append_left g.units).trans List.perm_middle

theorem foldl_addRow_perm (row : DesignUnit → UnitRow) (units : List DesignUnit)
    (gs : List ChipletGroup) :
    ((units.foldl (fun gs u => addRow u.chiplet (row u) gs) gs).flatMap (·.units)).Perm
      (units.map row ++ gs.flatMap (·.units)) := by
  induction units generalizing gs with
  | nil => exact .refl _
  | cons u units ih =>
    rw [List.foldl_cons, List.map_cons, List.cons_append]
    exact ((ih _).trans ((addRow_perm _ _ _).append_left _)).trans List.perm_middle

variable {units : List DesignUnit} {domains : List Domain} {ledger : Ledger} {dryRun : Bool}
  {runId : RunId} {generatedAt : Time.Instant}

theorem inOrder_perm (units : List DesignUnit) : (inOrder units).Perm units :=
  List.mergeSort_perm _ _

theorem rows_perm :
    (build units domains ledger dryRun runId generatedAt).rows.Perm
      (units.map (rowOf domains ledger)) := by
  have hgrouped := foldl_addRow_perm (rowOf domains ledger) (inOrder units) []
  rw [List.flatMap_nil, List.append_nil] at hgrouped
  exact hgrouped.trans ((inOrder_perm units).map _)

theorem get?_results_rowOf (d : Domain) (u : DesignUnit) :
    (rowOf domains ledger u).results.get? d =
      if d ∈ domains then ledger.get? ⟨d, u.index⟩ else none :=
  ByDomain.get?_ofList (fun e => ledger.get? ⟨e, u.index⟩) domains d

/-- The result that the ledger has for a unit stops the release. -/
def stops (ledger : Ledger) (u : DesignUnit) (d : Domain) : Bool :=
  (ledger.get? ⟨d, u.index⟩).any (·.status.isBlocking)

section Order

variable (hunits : (units.map (·.index)).Nodup)

include hunits

-- sorting keeps the places distinct, so the order that it gives is strict
theorem pairwise_inOrder : (inOrder units).Pairwise fun u v => u.index < v.index := by
  have hsorted : (inOrder units).Pairwise fun u v => decide (u.index ≤ v.index) = true := by
    apply List.pairwise_mergeSort
    · intro u v w huv hvw
      rw [decide_eq_true_eq] at huv hvw ⊢
      exact UInt64.le_trans huv hvw
    · intro u v
      rw [Bool.or_eq_true, decide_eq_true_eq, decide_eq_true_eq]
      exact UInt64.le_total u.index v.index
  have hnodup : (inOrder units).Pairwise fun u v => u.index ≠ v.index :=
    List.pairwise_map.mp (((inOrder_perm units).map _).nodup_iff.mpr hunits)
  refine (hsorted.and hnodup).imp ?_
  intro u v h
  exact UInt64.lt_of_le_of_ne (of_decide_eq_true h.1) h.2

theorem inOrder_eq_of_perm {others : List DesignUnit} (h : others.Perm units) :
    inOrder others = inOrder units := by
  have hothers : (others.map (·.index)).Nodup := (h.map _).nodup_iff.mpr hunits
  have hperm := (inOrder_perm others).trans (h.trans (inOrder_perm units).symm)
  refine hperm.eq_of_pairwise ?_ (pairwise_inOrder hothers) (pairwise_inOrder hunits)
  intro u v _ _ huv hvu
  exact absurd hvu (UInt64.lt_asymm huv)

end Order

/-! ## Groups -/

theorem map_addRow (chiplet : String) (row : UnitRow) (gs : List ChipletGroup) :
    (addRow chiplet row gs).map (fun g => (g.chiplet, g.units)) =
      Grouping.place chiplet row (gs.map fun g => (g.chiplet, g.units)) := by
  induction gs with
  | nil => rfl
  | cons g gs ih =>
    rw [addRow, List.map_cons, Grouping.place]
    by_cases hg : g.chiplet = chiplet
    · rw [if_pos hg, if_pos (beq_iff_eq.mpr hg)]
      rfl
    · rw [if_neg hg, if_neg (fun h => hg (eq_of_beq h)), List.map_cons, ih]

theorem groupByChiplet_eq (units : List DesignUnit) (domains : List Domain) (ledger : Ledger) :
    groupByChiplet units domains ledger =
      ((inOrder units).map (·.chiplet)).eraseDups.map fun c =>
        ⟨c, ((inOrder units).filter (·.chiplet == c)).map (rowOf domains ledger)⟩ := by
  -- in any state of the fold, a group is its chiplet with its rows
  have hfold : ∀ (us : List DesignUnit) (gs : List ChipletGroup),
      (us.foldl (fun gs u => addRow u.chiplet (rowOf domains ledger u) gs) gs).map
        (fun g => (g.chiplet, g.units)) =
      us.foldl (fun gs u => Grouping.place u.chiplet (rowOf domains ledger u) gs)
        (gs.map fun g => (g.chiplet, g.units)) := by
    intro us
    induction us with
    | nil => exact fun gs => rfl
    | cons u us ih =>
      intro gs
      rw [List.foldl_cons, List.foldl_cons, ih, map_addRow]
  have hclasses := (hfold (inOrder units) []).trans
    (Grouping.foldl_place (·.chiplet) (rowOf domains ledger) (inOrder units))
  have hgroups := congrArg (List.map fun p : String × List UnitRow => ChipletGroup.mk p.1 p.2)
    hclasses
  unfold Grouping.classes at hgroups
  rw [List.map_map, List.map_map] at hgroups
  exact (List.map_id _).symm.trans hgroups

theorem mem_groupByChiplet_iff {g : ChipletGroup} :
    g ∈ groupByChiplet units domains ledger ↔
      (∃ u ∈ units, u.chiplet = g.chiplet) ∧
        g.units = ((inOrder units).filter (·.chiplet == g.chiplet)).map (rowOf domains ledger) := by
  rw [groupByChiplet_eq, List.mem_map]
  constructor
  · rintro ⟨c, hc, rfl⟩
    obtain ⟨u, hu, hchiplet⟩ := List.mem_map.mp (List.mem_eraseDups.mp hc)
    exact ⟨⟨u, (inOrder_perm units).mem_iff.mp hu, hchiplet⟩, rfl⟩
  · rintro ⟨⟨u, hu, hchiplet⟩, hrows⟩
    refine ⟨g.chiplet, ?_, by rw [← hrows]⟩
    rw [List.mem_eraseDups, ← hchiplet]
    exact List.mem_map_of_mem ((inOrder_perm units).mem_iff.mpr hu)

theorem mem_units_iff {g : ChipletGroup} (hg : g ∈ groupByChiplet units domains ledger)
    {row : UnitRow} :
    row ∈ g.units ↔ ∃ u ∈ units, u.chiplet = g.chiplet ∧ row = rowOf domains ledger u := by
  rw [(mem_groupByChiplet_iff.mp hg).2, List.mem_map]
  constructor
  · rintro ⟨u, hu, rfl⟩
    obtain ⟨hmem, hchiplet⟩ := List.mem_filter.mp hu
    exact ⟨u, (inOrder_perm units).mem_iff.mp hmem, eq_of_beq hchiplet, rfl⟩
  · rintro ⟨u, hu, hchiplet, rfl⟩
    exact ⟨u, List.mem_filter.mpr ⟨(inOrder_perm units).mem_iff.mpr hu, beq_iff_eq.mpr hchiplet⟩,
      rfl⟩

theorem tellsOf_rowOf (domains : List Domain) (ledger : Ledger) (u : DesignUnit) :
    (rowOf domains ledger u).TellsOf u := ⟨rfl, rfl, rfl, rfl, rfl, rfl⟩

theorem group_eq_of_chiplet_eq {g h : ChipletGroup}
    (hg : g ∈ groupByChiplet units domains ledger) (hh : h ∈ groupByChiplet units domains ledger)
    (hchiplet : g.chiplet = h.chiplet) : g = h := by
  have hg := (mem_groupByChiplet_iff.mp hg).2
  have hh := (mem_groupByChiplet_iff.mp hh).2
  rw [hchiplet, ← hh] at hg
  cases g
  cases h
  exact congrArg₂ ChipletGroup.mk hchiplet hg

/-- The groups divide the units by chiplet. -/
structure Divides (groups : List ChipletGroup) (units : List DesignUnit) : Prop where
  /-- Each unit has one row, in one group. -/
  placed : ∀ u ∈ units, ∃! place : ChipletGroup × UnitRow,
    place.1 ∈ groups ∧ place.2 ∈ place.1.units ∧ place.2.TellsOf u
  /-- The rows of a group are those of units of its chiplet. -/
  owned : ∀ g ∈ groups, ∀ row ∈ g.units, ∃ u ∈ units, u.chiplet = g.chiplet ∧ row.TellsOf u
  nonempty : ∀ g ∈ groups, g.units ≠ []
  nodup_chiplet : (groups.map (·.chiplet)).Nodup
  /-- The lowest place in a group is lower than all places in the groups behind it. -/
  inOrder : groups.Pairwise fun g h => ∃ row ∈ g.units, ∀ other ∈ h.units, row.index < other.index
  rows_inOrder : ∀ g ∈ groups, g.units.Pairwise fun row other => row.index < other.index

section Divides

variable (hunits : (units.map (·.index)).Nodup)

include hunits

theorem existsUnique_place {u : DesignUnit} (hu : u ∈ units) :
    ∃! place : ChipletGroup × UnitRow, place.1 ∈ groupByChiplet units domains ledger ∧
      place.2 ∈ place.1.units ∧ place.2.TellsOf u := by
  let g : ChipletGroup := ⟨u.chiplet,
    ((inOrder units).filter (·.chiplet == u.chiplet)).map (rowOf domains ledger)⟩
  have hg : g ∈ groupByChiplet units domains ledger :=
    mem_groupByChiplet_iff.mpr ⟨⟨u, hu, rfl⟩, rfl⟩
  refine ⟨(g, rowOf domains ledger u), ⟨hg, (mem_units_iff hg).mpr ⟨u, hu, rfl, rfl⟩,
    tellsOf_rowOf domains ledger u⟩, ?_⟩
  rintro ⟨h, row⟩ ⟨hh, hrow, htells⟩
  obtain ⟨v, hv, hchiplet, rfl⟩ := (mem_units_iff hh).mp hrow
  -- the place of the row is that of one unit only
  obtain rfl : v = u := List.inj_on_of_nodup_map hunits hv hu htells.index
  exact congrArg (·, rowOf domains ledger v) (group_eq_of_chiplet_eq hh hg hchiplet.symm)

/-- A group comes before another one if its lowest place does. -/
theorem pairwise_groupByChiplet :
    (groupByChiplet units domains ledger).Pairwise fun g h =>
      ∃ row ∈ g.units, ∀ other ∈ h.units, row.index < other.index := by
  rw [groupByChiplet_eq, List.pairwise_map]
  refine (pairwise_eraseDups (·.chiplet) (pairwise_inOrder hunits)).imp ?_
  rintro c d ⟨u, hu, rfl, hbehind⟩
  refine ⟨rowOf domains ledger u, List.mem_map_of_mem
    (List.mem_filter.mpr ⟨hu, beq_self_eq_true _⟩), fun other hother => ?_⟩
  obtain ⟨v, hv, rfl⟩ := List.mem_map.mp hother
  obtain ⟨hv, hchiplet⟩ := List.mem_filter.mp hv
  exact hbehind v hv (eq_of_beq hchiplet)

theorem divides_groupByChiplet : Divides (groupByChiplet units domains ledger) units where
  placed := fun u hu => existsUnique_place hunits hu
  owned := by
    intro g hg row hrow
    obtain ⟨u, hu, hchiplet, rfl⟩ := (mem_units_iff hg).mp hrow
    exact ⟨u, hu, hchiplet, tellsOf_rowOf domains ledger u⟩
  nonempty := by
    intro g hg
    obtain ⟨u, hu, hchiplet⟩ := (mem_groupByChiplet_iff.mp hg).1
    exact List.ne_nil_of_mem ((mem_units_iff hg).mpr ⟨u, hu, hchiplet, rfl⟩)
  nodup_chiplet := by
    rw [groupByChiplet_eq, List.map_map]
    exact (List.map_id _).symm ▸ nodup_eraseDups _
  inOrder := pairwise_groupByChiplet hunits
  rows_inOrder := by
    intro g hg
    rw [(mem_groupByChiplet_iff.mp hg).2, List.pairwise_map]
    exact (pairwise_inOrder hunits).filter _

end Divides

theorem results_of_group {g : ChipletGroup} (hg : g ∈ groupByChiplet units domains ledger)
    {row : UnitRow} (hrow : row ∈ g.units) (d : Domain) :
    row.results.get? d = if d ∈ domains then ledger.get? ⟨d, row.index⟩ else none := by
  obtain ⟨u, -, -, rfl⟩ := (mem_units_iff hg).mp hrow
  exact get?_results_rowOf d u

/-- The groups of a report are a partition of the units with the results that were entered, and the
order in which units and results come shows neither in the groups nor in the summaries. -/
theorem rows_partition_units {units : List DesignUnit} (hunits : (units.map (·.index)).Nodup)
    (domains : List Domain) {results : List (JobKey × JobResult)}
    (hresults : (results.map (·.1)).Nodup) :
    let groups := groupByChiplet units domains (Ledger.ofResults results)
    Divides groups units ∧
    (∀ g ∈ groups, ∀ row ∈ g.units, ∀ d r,
      row.results.get? d = some r ↔ d ∈ domains ∧ (⟨d, row.index⟩, r) ∈ results) ∧
    ∀ units' results', units'.Perm units → results'.Perm results →
      groupByChiplet units' domains (Ledger.ofResults results') = groups ∧
      ∀ d, summarize units' (Ledger.ofResults results') d =
        summarize units (Ledger.ofResults results) d := by
  refine ⟨divides_groupByChiplet hunits, fun g hg row hrow d r => ?_, ?_⟩
  · rw [results_of_group hg hrow]
    by_cases hd : d ∈ domains
    · rw [if_pos hd, Ledger.get?_ofResults_eq_some_iff hresults]
      exact (and_iff_right hd).symm
    · rw [if_neg hd]
      exact iff_of_false (fun h => nomatch h) fun h => hd h.1
  · intro units' results' hperm hperm'
    have horder := inOrder_eq_of_perm hunits hperm
    have hledger := Ledger.ofResults_perm hresults hperm'
    unfold groupByChiplet summarize
    rw [horder, hledger]
    exact ⟨rfl, fun d => rfl⟩

end Report

namespace Sample

def unitAt (index : UInt64) (chiplet name : String) : DesignUnit :=
  { index := index
    name := name
    chiplet := chiplet
    workarea := ⟨"wa"⟩
    rtlTag := none
    releaseTypes := []
    releaseDate := ""
    releaseUser := "" }

/-- Units of two chiplets, out of order. -/
def shuffledUnits : List DesignUnit :=
  [unitAt 4 "core0" "fpu", unitAt 1 "io0" "phy", unitAt 0 "core0" "alu"]

def resultOf (status : Status) : JobResult := ⟨status, "", .none, none, 1⟩

def shuffledResults : List (JobKey × JobResult) :=
  [(⟨.timing, 1⟩, resultOf .failed), (⟨.timing, 4⟩, resultOf .passed),
    (⟨.formal, 0⟩, resultOf .warn)]

end Sample

namespace Report

/-- The chiplet of the unit with the lowest place comes first, and the result of a domain that is
not listed is left out. -/
theorem rows_partition_units_two_chiplets :
    let groups := groupByChiplet Sample.shuffledUnits [.timing]
      (Ledger.ofResults Sample.shuffledResults)
    groups.map (fun g => (g.chiplet, g.units.map (·.name))) =
      [("core0", ["alu", "fpu"]), ("io0", ["phy"])] ∧
    Divides groups Sample.shuffledUnits ∧
    (∀ g ∈ groups, ∀ row ∈ g.units, ∀ r, row.results.get? .formal ≠ some r) ∧
    groupByChiplet Sample.shuffledUnits.reverse [.timing]
      (Ledger.ofResults Sample.shuffledResults.reverse) = groups := by
  have hunits : (Sample.shuffledUnits.map (·.index)).Nodup := by decide
  have hresults : (Sample.shuffledResults.map (·.1)).Nodup := by decide
  obtain ⟨hdivides, hrows, horder⟩ := rows_partition_units hunits [.timing] hresults
  refine ⟨?_, hdivides, fun g hg row hrow r h => ?_,
    (horder _ _ (List.reverse_perm _) (List.reverse_perm _)).1⟩
  · -- units that are in order already stay as they are
    have hsorted : inOrder Sample.shuffledUnits.reverse = Sample.shuffledUnits.reverse :=
      List.mergeSort_of_pairwise (by decide)
    have hunitsInOrder : inOrder Sample.shuffledUnits = Sample.shuffledUnits.reverse :=
      (inOrder_eq_of_perm hunits (List.reverse_perm _)).symm.trans hsorted
    unfold groupByChiplet
    rw [hunitsInOrder]
    decide +kernel
  · have hlisted := ((hrows g hg row hrow .formal r).mp h).1
    exact absurd hlisted (by decide)

end Report

end Signoff
