import Mathlib.Data.List.Infix
import Signoff.Catalog
import Signoff.Proofs.Text.Runs
import Signoff.Run.Basic

/-!
# Units from a catalog

The units of a plan that were selected from a catalog have places of their own (`nodup_index`), and
their names are fields of a line: there are no blanks around them and no line feeds in them
(`IsField`).
-/

namespace Signoff

open Text

namespace Catalog

/-- A name as it stands in a catalog. -/
structure IsField (name : String) : Prop where
  trimmed : trim name.toList = name.toList
  nonempty : name.toList ≠ []
  feed : '\n' ∉ name.toList

/-! ## Rows -/

/-- The fields of a line are trimmed and lie in one line. -/
theorem isField_of_mem_dataLines {delimiter : Char} {text : List Char}
    {entry : Nat × List (List Char)} (h : entry ∈ dataLines delimiter text) :
    ∀ field ∈ entry.2, trim field = field ∧ '\n' ∉ field := by
  obtain ⟨⟨line, i⟩, hline, hentry⟩ := List.mem_filterMap.mp h
  dsimp only at hentry
  split at hentry
  · cases hentry
  · rw [← Option.some.inj hentry]
    intro field hfield
    obtain ⟨piece, hpiece, rfl⟩ := List.mem_map.mp hfield
    refine ⟨trim_trim piece, fun hc => ?_⟩
    have hpart := (infix_trim piece).trans ((infix_of_mem_splitOn hpiece).trans (infix_trim line))
    exact feed_not_mem_lines (List.fst_mem_of_mem_zipIdx hline) (hpart.subset hc)

theorem mem_of_mem_withoutHeading {entry : Nat × List (List Char)}
    {entries : List (Nat × List (List Char))} (h : entry ∈ withoutHeading entries) :
    entry ∈ entries := by
  cases entries with
  | nil => exact h
  | cons first rest =>
    rw [withoutHeading] at h
    split at h
    · exact List.mem_cons_of_mem _ h
    · exact h

/-- A row that is read has a name in its first field. -/
theorem isField_of_readRow {line : Nat} {fields : List (List Char)} {row : Row}
    (hfields : ∀ field ∈ fields, trim field = field ∧ '\n' ∉ field)
    (h : readRow line fields = .ok row) : IsField row.name := by
  unfold readRow at h
  split at h
  · cases h
  next hlength =>
    split at h
    · cases h
    next hempty =>
      rw [← Except.ok.inj h]
      dsimp only
      -- there are enough fields, and the first of them is not empty
      cases fields with
      | nil => exact absurd (by decide) hlength
      | cons first rest =>
        obtain ⟨htrim, hfeed⟩ := hfields first List.mem_cons_self
        have hne : first ≠ [] := by
          rintro rfl
          simp [emptyField?, requiredFields] at hempty
        rw [List.getD_cons_zero]
        exact ⟨by rwa [String.toList_ofList], by rwa [String.toList_ofList],
          by rwa [String.toList_ofList]⟩

theorem forall_of_mapM_eq_ok {ε α β : Type} {f : α → Except ε β} {as : List α} {bs : List β}
    (h : as.mapM f = .ok bs) : ∀ b ∈ bs, ∃ a ∈ as, f a = .ok b := by
  induction as generalizing bs with
  | nil =>
    rw [List.mapM_nil] at h
    rw [← Except.ok.inj h]
    exact fun b hb => absurd hb List.not_mem_nil
  | cons a as ih =>
    rw [List.mapM_cons] at h
    cases ha : f a with
    | error e =>
      rw [ha] at h
      cases h
    | ok first =>
      rw [ha] at h
      cases has : as.mapM f with
      | error e =>
        rw [has] at h
        cases h
      | ok rest =>
        rw [has] at h
        rw [← Except.ok.inj h]
        intro b hb
        rcases List.mem_cons.mp hb with rfl | hb
        · exact ⟨a, List.mem_cons_self, ha⟩
        · obtain ⟨a', ha', hb'⟩ := ih has b hb
          exact ⟨a', List.mem_cons_of_mem _ ha', hb'⟩

theorem isField_of_readRows {text : String} {delimiter : Char} {rows : List Row}
    (h : readRows text delimiter = .ok rows) : ∀ row ∈ rows, IsField row.name := by
  intro row hrow
  obtain ⟨entry, hentry, hread⟩ := forall_of_mapM_eq_ok h row hrow
  exact isField_of_readRow (isField_of_mem_dataLines (mem_of_mem_withoutHeading hentry)) hread

/-! ## Groups -/

theorem mem_rows_of_addRow {row : Row} {gs : List Group} {g : Group} (h : g ∈ addRow row gs) :
    ∀ r ∈ g.rows, r = row ∨ ∃ g' ∈ gs, r ∈ g'.rows := by
  induction gs with
  | nil =>
    rw [addRow, List.mem_singleton] at h
    subst h
    exact fun r hr => Or.inl (List.mem_singleton.mp hr)
  | cons g' gs ih =>
    rw [addRow] at h
    intro r hr
    split at h
    · rcases List.mem_cons.mp h with rfl | h
      -- the row goes behind the others of its group
      · unfold Group.rows at hr
        rw [← List.cons_append, List.mem_append, List.mem_singleton] at hr
        exact hr.symm.imp_right fun hr => ⟨g', List.mem_cons_self, hr⟩
      · exact Or.inr ⟨g, List.mem_cons_of_mem _ h, hr⟩
    · rcases List.mem_cons.mp h with rfl | h
      · exact Or.inr ⟨g, List.mem_cons_self, hr⟩
      · exact (ih h r hr).imp_right fun ⟨g'', hg'', hr'⟩ => ⟨g'', List.mem_cons_of_mem _ hg'', hr'⟩

theorem length_addRow_le (row : Row) (gs : List Group) :
    (addRow row gs).length ≤ gs.length + 1 := by
  induction gs with
  | nil => exact Nat.le_refl _
  | cons g gs ih =>
    rw [addRow]
    split
    · exact Nat.le_succ _
    · rw [List.length_cons, List.length_cons]
      omega

/-- Groups are made of the rows, and there are no more groups than rows. -/
theorem groups_spec (rows : List Row) :
    (∀ g ∈ groups rows, ∀ r ∈ g.rows, r ∈ rows) ∧ (groups rows).length ≤ rows.length := by
  have hfold : ∀ (rs : List Row) (gs : List Group),
      (∀ g ∈ rs.foldl (fun gs r => addRow r gs) gs, ∀ r ∈ g.rows,
        r ∈ rs ∨ ∃ g' ∈ gs, r ∈ g'.rows) ∧
      (rs.foldl (fun gs r => addRow r gs) gs).length ≤ rs.length + gs.length := by
    intro rs
    induction rs with
    | nil => exact fun gs => ⟨fun g hg r hr => Or.inr ⟨g, hg, hr⟩, by simp⟩
    | cons row rs ih =>
      intro gs
      rw [List.foldl_cons]
      obtain ⟨hmem, hlength⟩ := ih (addRow row gs)
      refine ⟨fun g hg r hr => ?_, ?_⟩
      · rcases hmem g hg r hr with hr | ⟨g', hg', hr⟩
        · exact Or.inl (List.mem_cons_of_mem _ hr)
        · rcases mem_rows_of_addRow hg' r hr with rfl | hr
          · exact Or.inl List.mem_cons_self
          · exact Or.inr hr
      · have := length_addRow_le row gs
        rw [List.length_cons]
        omega
  obtain ⟨hmem, hlength⟩ := hfold rows []
  refine ⟨fun g hg r hr => ?_, hlength⟩
  exact (hmem g hg r hr).resolve_right fun ⟨g', hg', _⟩ => absurd hg' List.not_mem_nil

/-- The chosen row is one of the group. -/
theorem choose_mem_rows (g : Group) (requested : Option String) : g.choose requested ∈ g.rows := by
  have hflagged : ∀ flag row, g.rows.find? (fun r => hasFlag r.releaseTypes flag) = some row →
      row ∈ g.rows := fun flag row h => List.mem_of_find?_eq_some h
  unfold Group.choose
  dsimp only
  cases hchosen : (requested.bind (fun flag =>
      g.rows.find? fun r => hasFlag r.releaseTypes flag) <|>
      g.rows.find? fun r => hasFlag r.releaseTypes "default") with
  | none => exact List.mem_cons_self
  | some row =>
    rw [Option.getD_some]
    rw [Option.orElse_eq_orElse, Option.orElse_eq_or, Option.or_eq_some_iff] at hchosen
    rcases hchosen with h | ⟨-, h⟩
    · obtain ⟨flag, -, hrow⟩ := Option.bind_eq_some_iff.mp h
      exact hflagged flag row hrow
    · exact hflagged _ row h

/-! ## Selected units -/

theorem selectRelease_spec {rows : List Row} (hlength : rows.length ≤ UInt64.size)
    (requested : Option String) :
    ((selectRelease rows requested).map (·.index)).Nodup ∧
      ∀ u ∈ selectRelease rows requested, ∃ row ∈ rows, u.name = row.name := by
  obtain ⟨hmem, hgroups⟩ := groups_spec rows
  refine ⟨?_, fun u hu => ?_⟩
  · -- the units are numbered, and the numbers are small enough to stay different
    have hindex : (selectRelease rows requested).map (·.index) =
        (List.range (groups rows).length).map UInt64.ofNat := by
      unfold selectRelease
      rw [List.map_map, List.range_eq_range', ← List.zipIdx_map_snd, List.map_map]
      rfl
    rw [hindex]
    refine List.Nodup.map_on (fun i hi k hk heq => ?_) List.nodup_range
    have hnat := congrArg UInt64.toNat heq
    have hi := List.mem_range.mp hi
    have hk := List.mem_range.mp hk
    rwa [UInt64.toNat_ofNat_of_lt' (by omega), UInt64.toNat_ofNat_of_lt' (by omega)] at hnat
  · obtain ⟨⟨g, i⟩, hg, rfl⟩ := List.mem_map.mp hu
    exact ⟨_, hmem g (List.fst_mem_of_mem_zipIdx hg) _ (choose_mem_rows g requested), rfl⟩

end Catalog

/-- The units of the plan were selected from a catalog. A catalog in memory has no more rows than
there are numbers for them. -/
def Plan.IsSelected (plan : Plan) : Prop :=
  ∃ text delimiter rows requested filter, Catalog.readRows text delimiter = .ok rows ∧
    rows.length ≤ UInt64.size ∧
    plan.units = UnitFilter.apply filter (Catalog.selectRelease rows requested)

namespace Plan.IsSelected

variable {plan : Plan}

theorem nodup_index (h : plan.IsSelected) : (plan.units.map (·.index)).Nodup := by
  obtain ⟨text, delimiter, rows, requested, filter, -, hlength, hunits⟩ := h
  rw [hunits]
  exact (Catalog.selectRelease_spec hlength requested).1.sublist
    (List.Sublist.map _ List.filter_sublist)

theorem isField (h : plan.IsSelected) : ∀ u ∈ plan.units, Catalog.IsField u.name := by
  obtain ⟨text, delimiter, rows, requested, filter, hread, hlength, hunits⟩ := h
  intro u hu
  rw [hunits] at hu
  obtain ⟨row, hrow, hname⟩ :=
    (Catalog.selectRelease_spec hlength requested).2 u (List.mem_of_mem_filter hu)
  rw [hname]
  exact Catalog.isField_of_readRows hread row hrow

end Plan.IsSelected

end Signoff
