import Signoff.Proofs.Catalog.Numbering

/-!
# The row that stands for a unit

Selecting a release gives one unit for each chiplet and name, and the unit is one row of the catalog
as it stands there: the first one with the requested flag, else the first one with the flag
`default`, else the first one (`one_row_per_unit`).
-/

namespace Signoff

open Text

def DesignUnit.owner (u : DesignUnit) : String × String := (u.chiplet, u.name)

namespace Catalog

/-- One of the row's flags is the given one, up to the case of ASCII letters. -/
def Row.Carries (r : Row) (flag : String) : Prop :=
  ∃ f ∈ r.releaseTypes, lower f.toList = lower flag.toList

instance (r : Row) (flag : String) : Decidable (r.Carries flag) :=
  inferInstanceAs (Decidable (∃ f ∈ r.releaseTypes, _))

/-- The first row with a property. -/
def IsFirst (p : Row → Prop) (rows : List Row) (r : Row) : Prop :=
  ∃ before after, rows = before ++ r :: after ∧ p r ∧ ∀ s ∈ before, ¬ p s

/-- No row of the unit carries the flag. -/
def Lacks (rows : List Row) (owner : String × String) (flag : String) : Prop :=
  ∀ r ∈ rows, r.owner = owner → ¬ r.Carries flag

instance (rows : List Row) (owner : String × String) (flag : String) :
    Decidable (Lacks rows owner flag) :=
  inferInstanceAs (Decidable (∀ r ∈ rows, _))

/-- The row that is taken for a unit. -/
inductive StandsFor (rows : List Row) (requested : Option String) (owner : String × String)
    (r : Row) : Prop
  | requested (flag : String) (hflag : requested = some flag)
      (hfirst : IsFirst (fun s => s.owner = owner ∧ s.Carries flag) rows r)
  | default (hlacks : ∀ flag, requested = some flag → Lacks rows owner flag)
      (hfirst : IsFirst (fun s => s.owner = owner ∧ s.Carries "default") rows r)
  | first (hlacks : ∀ flag, requested = some flag → Lacks rows owner flag)
      (hdefault : Lacks rows owner "default") (hfirst : IsFirst (fun s => s.owner = owner) rows r)

theorem hasFlag_iff (r : Row) (flag : String) :
    hasFlag r.releaseTypes flag = true ↔ r.Carries flag := by
  unfold hasFlag Row.Carries sameLetters
  simp only [List.any_eq_true, beq_iff_eq]

theorem isFirst_of_find? {p : Row → Prop} {q : Row → Bool} (hpq : ∀ s, q s = true ↔ p s)
    {rows : List Row} {r : Row} (h : rows.find? q = some r) : IsFirst p rows r := by
  obtain ⟨hr, before, after, hrows, hbefore⟩ := List.find?_eq_some_iff_append.mp h
  refine ⟨before, after, hrows, (hpq r).mp hr, fun s hs hp => ?_⟩
  have hnot := hbefore s hs
  rw [(hpq s).mpr hp] at hnot
  exact absurd hnot (by decide)

section Groups

variable {rows : List Row} {g : Group} (hg : g ∈ groups rows)

include hg

-- the rows of a group are in the order of the catalog
theorem isFirst_of_flagged {flag : String} {r : Row}
    (h : g.rows.find? (fun s => hasFlag s.releaseTypes flag) = some r) :
    IsFirst (fun s => s.owner = g.owner ∧ s.Carries flag) rows r := by
  rw [rows_of_mem_groups hg, List.find?_filter] at h
  apply isFirst_of_find? _ h
  intro s
  rw [Bool.decide_and, Bool.and_eq_true, decide_eq_true_eq, decide_eq_true_eq, beq_iff_eq,
    hasFlag_iff]

theorem lacks_iff {flag : String} :
    g.rows.find? (fun s => hasFlag s.releaseTypes flag) = none ↔ Lacks rows g.owner flag := by
  rw [rows_of_mem_groups hg, List.find?_filter, List.find?_eq_none]
  refine forall₂_congr fun s _ => ?_
  rw [Bool.decide_and, Bool.and_eq_true, decide_eq_true_eq, decide_eq_true_eq, beq_iff_eq,
    hasFlag_iff, not_and]

theorem isFirst_first : IsFirst (fun s => s.owner = g.owner) rows g.first := by
  have hhead : (rows.filter (·.owner == g.owner)).head? = some g.first := by
    rw [← rows_of_mem_groups hg]
    rfl
  rw [List.head?_filter] at hhead
  exact isFirst_of_find? (fun s => beq_iff_eq) hhead

theorem standsFor_choose (requested : Option String) :
    StandsFor rows requested g.owner (g.choose requested) := by
  unfold Group.choose
  dsimp only
  rw [Option.orElse_eq_orElse, Option.orElse_eq_or]
  -- the request is looked for in the first place, and a missing one leaves the other two
  have hrest (hlacks : ∀ flag, requested = some flag → Lacks rows g.owner flag) :
      StandsFor rows requested g.owner
        ((g.rows.find? fun r => hasFlag r.releaseTypes "default").getD g.first) := by
    cases hdefault : g.rows.find? fun r => hasFlag r.releaseTypes "default" with
    | some r => exact .default hlacks (isFirst_of_flagged hg hdefault)
    | none => exact .first hlacks ((lacks_iff hg).mp hdefault) (isFirst_first hg)
  cases requested with
  | none => exact hrest fun flag h => nomatch h
  | some flag =>
    rw [Option.bind_some]
    cases hflag : g.rows.find? fun r => hasFlag r.releaseTypes flag with
    | some r => exact .requested flag rfl (isFirst_of_flagged hg hflag)
    | none =>
      apply hrest
      intro other hother
      rw [← Option.some.inj hother]
      exact (lacks_iff hg).mp hflag

theorem lacks_eq_true_iff {flag : String} : g.lacks flag = true ↔ Lacks rows g.owner flag := by
  rw [← lacks_iff hg, List.find?_eq_none]
  unfold Group.lacks
  simp only [Bool.not_eq_true', List.any_eq_false]

theorem owner_choose (requested : Option String) : (g.choose requested).owner = g.owner :=
  ofOneUnit_groups rows g hg _ (choose_mem_rows g requested)

end Groups

theorem map_owner_selectRelease (rows : List Row) (requested : Option String) :
    (selectRelease rows requested).map DesignUnit.owner = (rows.map Row.owner).eraseDups := by
  have howners := congrArg (List.map Prod.snd) (map_identity_selectRelease rows requested)
  rw [List.map_map, map_owner_numbered] at howners
  exact howners

theorem exists_group_of_getElem? {rows : List Row} {requested : Option String} {i : Nat}
    {u : DesignUnit} (h : (selectRelease rows requested)[i]? = some u) :
    ∃ g ∈ groups rows, u = (g.choose requested).toUnit i := by
  unfold selectRelease at h
  rw [List.getElem?_map, List.getElem?_zipIdx, Option.map_map, Nat.zero_add] at h
  obtain ⟨g, hg, hu⟩ := Option.map_eq_some_iff.mp h
  exact ⟨g, List.mem_of_getElem? hg, hu.symm⟩

theorem fallbacks_eq_filter (rows : List Row) (requested : Option String) :
    fallbacks rows requested =
      ((selectRelease rows requested).filter fun u =>
        ∃ flag ∈ requested, Lacks rows u.owner flag).map (·.name) := by
  cases requested with
  | none =>
    have hnone : (selectRelease rows none).filter
        (fun u => ∃ flag ∈ (none : Option String), Lacks rows u.owner flag) = [] := by
      rw [List.filter_eq_nil_iff]
      intro u hu
      simp
    rw [hnone]
    rfl
  | some flag =>
    unfold fallbacks selectRelease
    dsimp only
    -- both sides run over the groups with their numbers, which the warnings do not show
    conv_lhs => rw [← List.zipIdx_map_fst 0 (groups rows)]
    rw [List.filter_map, List.filter_map, List.map_map, List.map_map]
    have hsame : ∀ e ∈ (groups rows).zipIdx,
        ((fun g => g.lacks flag) ∘ Prod.fst) e = ((fun u : DesignUnit =>
          decide (∃ f ∈ some flag, Lacks rows u.owner f)) ∘
            fun e : Group × Nat => (e.1.choose (some flag)).toUnit e.2) e := by
      rintro ⟨g, i⟩ he
      have hg := List.fst_mem_of_mem_zipIdx he
      have howner : ((g.choose (some flag)).toUnit i).owner = g.owner :=
        owner_choose hg (some flag)
      change g.lacks flag = decide (∃ f ∈ some flag, Lacks rows _ f)
      rw [howner, Bool.eq_iff_iff, lacks_eq_true_iff hg, decide_eq_true_eq]
      simp
    rw [List.filter_congr hsame]
    apply List.map_congr_left
    rintro ⟨g, i⟩ he
    have hg := List.fst_mem_of_mem_zipIdx (List.mem_of_mem_filter he)
    exact congrArg Prod.snd (owner_choose hg (some flag)).symm

/-- Each chiplet and name of the catalog has one unit, in the order of first appearance; the unit is
the row that stands for it; and the warnings name the units that have no row of the requested
release. -/
theorem one_row_per_unit (rows : List Row) (requested : Option String) :
    (selectRelease rows requested).map DesignUnit.owner = (rows.map Row.owner).eraseDups ∧
    (∀ i u, (selectRelease rows requested)[i]? = some u →
      ∃ row, StandsFor rows requested u.owner row ∧ u = row.toUnit i) ∧
    fallbacks rows requested =
      ((selectRelease rows requested).filter fun u =>
        ∃ flag ∈ requested, Lacks rows u.owner flag).map (·.name) := by
  refine ⟨map_owner_selectRelease rows requested, ?_, fallbacks_eq_filter rows requested⟩
  intro i u hu
  obtain ⟨g, hg, rfl⟩ := exists_group_of_getElem? hu
  have howner : ((g.choose requested).toUnit i).owner = g.owner := owner_choose hg requested
  refine ⟨g.choose requested, ?_, rfl⟩
  rw [howner]
  exact standsFor_choose hg requested

end Catalog

end Signoff
