import Mathlib.Data.List.Infix
import Signoff.Artifacts
import Signoff.Proofs.Catalog
import Signoff.Proofs.Grouping

/-!
# The numbers of units

Units are numbered in the order in which their chiplets and names first appear in the catalog
(`map_identity_selectRelease`). So neither the release, nor rows at the end, nor a filter changes
the number of a unit, or the job and the files that go by it (`numbers_stable`).
-/

namespace Signoff

/-- What a unit is known by, beside the release. -/
def DesignUnit.identity (u : DesignUnit) : UInt64 × String × String := (u.index, u.chiplet, u.name)

namespace Catalog

/-! ## Groups -/

def Row.owner (r : Row) : String × String := (r.chiplet, r.name)

namespace Group

def owner (g : Group) : String × String := g.first.owner

/-- All rows are of one unit. -/
def OfOneUnit (g : Group) : Prop := ∀ r ∈ g.rows, r.owner = g.owner

theorem holds_iff (g : Group) (r : Row) : g.holds r = true ↔ r.owner = g.owner := by
  unfold holds owner Row.owner
  rw [Bool.and_eq_true, beq_iff_eq, beq_iff_eq, Prod.mk.injEq]
  tauto

end Group

theorem groups_concat (rows : List Row) (r : Row) :
    groups (rows ++ [r]) = addRow r (groups rows) := List.foldl_concat ..

theorem map_addRow (r : Row) (gs : List Group) :
    (addRow r gs).map (fun g => (g.owner, g.rows)) =
      Grouping.place r.owner r (gs.map fun g => (g.owner, g.rows)) := by
  induction gs with
  | nil => rfl
  | cons g gs ih =>
    rw [addRow, List.map_cons, Grouping.place]
    by_cases hg : g.holds r = true
    · have howner : (g.owner == r.owner) = true := beq_iff_eq.mpr ((g.holds_iff r).mp hg).symm
      rw [if_pos hg, if_pos howner]
      rfl
    · have hother : ¬ (g.owner == r.owner) = true := fun heq =>
        hg ((g.holds_iff r).mpr (eq_of_beq heq).symm)
      rw [if_neg hg, if_neg hother, List.map_cons, ih]

/-- The groups are those of the rows by chiplet and name. -/
theorem map_groups (rows : List Row) :
    (groups rows).map (fun g => (g.owner, g.rows)) = Grouping.classes Row.owner id rows := by
  induction rows using List.reverseRecOn with
  | nil => rfl
  | append_singleton rows r ih =>
    rw [groups_concat, map_addRow, ih]
    exact Grouping.place_classes Row.owner id rows r

theorem map_owner_groups (rows : List Row) :
    (groups rows).map Group.owner = (rows.map Row.owner).eraseDups := by
  have howners := congrArg (List.map Prod.fst) (map_groups rows)
  unfold Grouping.classes at howners
  rw [List.map_map, List.map_map] at howners
  exact howners.trans (List.map_id _)

theorem rows_of_mem_groups {rows : List Row} {g : Group} (h : g ∈ groups rows) :
    g.rows = rows.filter (·.owner == g.owner) := by
  have hmem : (g.owner, g.rows) ∈ Grouping.classes Row.owner id rows := by
    rw [← map_groups]
    exact List.mem_map_of_mem h
  obtain ⟨owner, -, heq⟩ := List.mem_map.mp hmem
  obtain ⟨rfl, hrows⟩ := Prod.mk.inj heq
  rw [← hrows, List.map_id]

theorem ofOneUnit_groups (rows : List Row) : ∀ g ∈ groups rows, g.OfOneUnit := by
  intro g hg r hr
  rw [rows_of_mem_groups hg] at hr
  exact eq_of_beq (List.mem_filter.mp hr).2

/-! ## Numbers -/

/-- The chiplets and names that appear in the rows, numbered in this order. -/
def numbered (rows : List Row) : List (UInt64 × String × String) :=
  (rows.map Row.owner).eraseDups.zipIdx.map fun (owner, i) => (UInt64.ofNat i, owner)

/-- The release decides which row stands for a unit, and never its number, chiplet or name. -/
theorem map_identity_selectRelease (rows : List Row) (requested : Option String) :
    (selectRelease rows requested).map DesignUnit.identity = numbered rows := by
  unfold numbered selectRelease
  rw [← map_owner_groups, List.zipIdx_map, List.map_map, List.map_map]
  apply List.map_congr_left
  rintro ⟨g, i⟩ hg
  have howner : (g.choose requested).owner = g.owner :=
    ofOneUnit_groups rows g (List.fst_mem_of_mem_zipIdx hg) _ (choose_mem_rows g requested)
  exact congrArg (fun owner => (UInt64.ofNat i, owner)) howner

theorem numbered_append (rows extra : List Row) : numbered rows <+: numbered (rows ++ extra) := by
  unfold numbered
  rw [List.map_append, List.eraseDups_append, List.zipIdx_append, List.map_append]
  exact List.prefix_append _ _

theorem map_owner_numbered (rows : List Row) :
    (numbered rows).map Prod.snd = (rows.map Row.owner).eraseDups := by
  unfold numbered
  rw [List.map_map]
  exact List.zipIdx_map_fst 0 _

theorem nodup_owner_numbered (rows : List Row) : ((numbered rows).map Prod.snd).Nodup := by
  rw [map_owner_numbered]
  exact nodup_eraseDups _

theorem map_index_selectRelease (rows : List Row) (requested : Option String) :
    (selectRelease rows requested).map (·.index) =
      (List.range (selectRelease rows requested).length).map UInt64.ofNat := by
  unfold selectRelease
  rw [List.map_map, List.length_map, List.length_zipIdx, List.range_eq_range',
    ← List.zipIdx_map_snd, List.map_map]
  rfl

/-- Units of one chiplet with one name have one number, whatever release and filter keep them and
whatever rows are added behind the others. -/
theorem index_eq_of_owner_eq {rows extra : List Row} {r₁ r₂ : Option String} {u v : DesignUnit}
    (hu : u ∈ selectRelease rows r₁) (hv : v ∈ selectRelease (rows ++ extra) r₂)
    (hchiplet : u.chiplet = v.chiplet) (hname : u.name = v.name) : u.index = v.index := by
  have hu : u.identity ∈ numbered (rows ++ extra) := by
    apply (numbered_append rows extra).subset
    rw [← map_identity_selectRelease rows r₁]
    exact List.mem_map_of_mem hu
  have hv : v.identity ∈ numbered (rows ++ extra) := by
    rw [← map_identity_selectRelease (rows ++ extra) r₂]
    exact List.mem_map_of_mem hv
  have howner : u.identity.2 = v.identity.2 := Prod.ext hchiplet hname
  have hsame := List.inj_on_of_nodup_map (nodup_owner_numbered (rows ++ extra)) hu hv howner
  exact congrArg Prod.fst hsame

/-- What a unit of a catalog is known by does not change with the release, with rows at the end or
with a filter: the numbers go from zero on, and a unit that two filters keep, each in its own
selection, has the same jobs and the same files. -/
theorem numbers_stable (rows extra : List Row) (r₁ r₂ : Option String) :
    (selectRelease rows r₁).map DesignUnit.identity <+:
      (selectRelease (rows ++ extra) r₂).map DesignUnit.identity ∧
    (selectRelease rows r₁).map (·.index) =
      (List.range (selectRelease rows r₁).length).map UInt64.ofNat ∧
    (rows.length ≤ UInt64.size → (selectRelease rows r₁).map (·.index.toNat) =
      List.range (selectRelease rows r₁).length) ∧
    ∀ f g : UnitFilter,
      (f.apply (selectRelease rows r₁)).Sublist (selectRelease rows r₁) ∧
      ∀ u ∈ f.apply (selectRelease rows r₁), ∀ v ∈ g.apply (selectRelease (rows ++ extra) r₂),
        u.chiplet = v.chiplet → u.name = v.name → ∀ (d : Domain) (l : Layout),
          (Job.mk d u).key = (Job.mk d v).key ∧ l.rawPath ⟨d, u⟩ = l.rawPath ⟨d, v⟩ ∧
          l.recordPath ⟨d, u⟩ = l.recordPath ⟨d, v⟩ := by
  refine ⟨?_, map_index_selectRelease rows r₁, ?_, ?_⟩
  · rw [map_identity_selectRelease, map_identity_selectRelease]
    exact numbered_append rows extra
  · intro hlength
    have hgroups : (selectRelease rows r₁).length ≤ rows.length := by
      unfold selectRelease
      rw [List.length_map, List.length_zipIdx]
      exact (groups_spec rows).2
    have hindex := congrArg (List.map UInt64.toNat) (map_index_selectRelease rows r₁)
    rw [List.map_map, List.map_map] at hindex
    refine hindex.trans ((List.map_congr_left ?_).trans (List.map_id _))
    intro i hi
    have hi := List.mem_range.mp hi
    exact UInt64.toNat_ofNat_of_lt' (by omega)
  · intro f g
    refine ⟨List.filter_sublist, ?_⟩
    intro u hu v hv hchiplet hname d l
    have hindex := index_eq_of_owner_eq (List.mem_of_mem_filter hu) (List.mem_of_mem_filter hv)
      hchiplet hname
    have hstem : (Job.mk d u).stem = (Job.mk d v).stem := by
      unfold Job.stem
      rw [hindex, hname]
    unfold Job.key Layout.rawPath Layout.recordPath
    rw [hindex, hstem]
    exact ⟨rfl, rfl, rfl⟩

end Catalog

namespace Sample

def release (name chiplet workarea : String) (flags : List String) : Catalog.Row :=
  { name := name
    chiplet := chiplet
    workarea := ⟨workarea⟩
    rtlTag := none
    releaseTypes := flags
    releaseDate := "2024-05-01"
    releaseUser := "jdoe" }

/-- The rows of one unit stand on both sides of another one. -/
def scatteredRows : List Catalog.Row :=
  [release "phy" "io0" "wa/phy" ["default"], release "alu" "core0" "wa/alu" ["default"],
    release "phy" "io0" "wa/phy2" ["eco"]]

def addedRows : List Catalog.Row :=
  [release "fpu" "core0" "wa/fpu" [], release "alu" "core0" "wa/alu_pd" ["pd"]]

end Sample

namespace Catalog

/-- Kept by its chiplet from one release and by its name from another, a unit has other folders and
the same files. -/
theorem numbers_stable_two_filters :
    (selectRelease Sample.scatteredRows none).map (·.index.toNat) = [0, 1] ∧
    ∃ u ∈ UnitFilter.apply ⟨["core0"], none⟩ (selectRelease Sample.scatteredRows none),
    ∃ v ∈ UnitFilter.apply ⟨[], some "ALU"⟩
        (selectRelease (Sample.scatteredRows ++ Sample.addedRows) (some "pd")),
      u.workarea ≠ v.workarea ∧ ∀ (d : Domain) (l : Layout),
        (Job.mk d u).key = (Job.mk d v).key ∧ l.rawPath ⟨d, u⟩ = l.rawPath ⟨d, v⟩ ∧
        l.recordPath ⟨d, u⟩ = l.recordPath ⟨d, v⟩ := by
  obtain ⟨-, -, hcount, hfilters⟩ :=
    numbers_stable Sample.scatteredRows Sample.addedRows none (some "pd")
  obtain ⟨-, hsame⟩ := hfilters ⟨["core0"], none⟩ ⟨[], some "ALU"⟩
  have hu : (Sample.release "alu" "core0" "wa/alu" ["default"]).toUnit 1 ∈
      UnitFilter.apply ⟨["core0"], none⟩ (selectRelease Sample.scatteredRows none) := by
    decide +kernel
  have hv : (Sample.release "alu" "core0" "wa/alu_pd" ["pd"]).toUnit 1 ∈
      UnitFilter.apply ⟨[], some "ALU"⟩
        (selectRelease (Sample.scatteredRows ++ Sample.addedRows) (some "pd")) := by
    decide +kernel
  have hlength : Sample.scatteredRows.length ≤ UInt64.size := by decide
  exact ⟨hcount hlength, _, hu, _, hv, by decide, hsame _ hu _ hv rfl rfl⟩

end Catalog

end Signoff
