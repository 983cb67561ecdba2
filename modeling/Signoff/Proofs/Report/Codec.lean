import Signoff.Proofs.Figures
import Signoff.Proofs.RunId
import Signoff.Proofs.Record
import Signoff.Proofs.Report.Rows
import Signoff.Proofs.Time
import Signoff.Report.Codec

/-!
# Reading reports back

A report in which all real numbers are finite is read back from its document (`read?_write`). The
text of a document stands for what it was written from whether or not the numbers are finite
(`read?_write_eq`), so this is a matter of the fields alone. The figures of a result that is read
are finite, and so are the shares of a report; so a report survives being written exactly if its
numbers are finite (`read?_write_iff`).
-/

namespace Signoff

open Json Number

/-! ## Results -/

theorem Domain.ofJson?_ofText (d : Domain) : Domain.ofJson? (ofText d.name) = some d := by
  show Domain.ofName? d.name = some d
  exact d.ofName?_name

theorem JobResult.ofJson?_toJson {r : JobResult} (h : r.figures.IsFinite) :
    ofJson? r.toJson = some r := by
  have hstatus : (name? (ofText r.status.name)).bind Status.ofName? = some r.status :=
    r.status.ofName?_name
  have hdetails : text? (ofText r.details) = some r.details := rfl
  have hraw : may? text? (some (ofOption (fun p : Path => ofText p.text) r.raw)) =
      some (r.raw.map (·.text)) := by cases r.raw <;> rfl
  have hback : (r.raw.map (·.text)).map Path.mk = r.raw := by cases r.raw <;> rfl
  unfold ofJson? toJson figuresOf?
  rw [fields?_ofMembers (by rfl) (by decide)]
  simp only [List.map_cons, List.map_nil, Option.bind_eq_bind, Option.bind_some, need?_some,
    hstatus, hdetails, Figures.ofJson?_toJson h, hraw, uint32?_ofNat]
  rw [hback]
  rfl

theorem JobResult.isSpelled_toJson (r : JobResult) : r.toJson.IsSpelled := by
  refine isSpelled_ofMembers ?_
  simp [isSpelled_ofOption, Figures.isSpelled_toJson]

namespace ByDomain

variable {α : Type}

theorem mem_toList {m : ByDomain α} {d : Domain} {a : α} :
    (d, a) ∈ m.toList ↔ m.get? d = some a := by
  simp [toList, Domain.mem_all]

theorem ext_get? {m m' : ByDomain α} (h : ∀ d, m.get? d = m'.get? d) : m = m' := by
  obtain ⟨a, b, c, d, e, f⟩ := m
  obtain ⟨a', b', c', d', e', f'⟩ := m'
  have hformal : a = a' := h .formal
  have htiming : b = b' := h .timing
  have hphysical : c = c' := h .physical
  have hclock : d = d' := h .clock
  have hrelease : e = e' := h .release
  have hgateLevel : f = f' := h .gateLevel
  subst hformal htiming hphysical hclock hrelease hgateLevel
  rfl

/-- The values with their domains make the same map again. -/
theorem ofList_toList (m : ByDomain α) : ofList m.toList = m := by
  refine ext_get? fun d => ?_
  unfold toList
  rw [get?_ofList, if_pos (Domain.mem_all d)]

end ByDomain

namespace UnitRow

theorem mapM_readResult {entries : List (Domain × JobResult)}
    (h : ∀ e ∈ entries, e.2.figures.IsFinite) :
    (entries.map fun e => ((some e.1.name, e.2.toJson) : Option String × Json)).mapM
      (fun (key, value) => do
        let d ← key.bind Domain.ofName?
        let r ← JobResult.ofJson? value
        return (d, r)) = some entries := by
  induction entries with
  | nil => rfl
  | cons e entries ih =>
    rw [List.map_cons, List.mapM_cons, ih fun e' he' => h e' (List.mem_cons_of_mem e he')]
    simp [JobResult.ofJson?_toJson (h e List.mem_cons_self)]

theorem readResults?_resultsJson {results : ByDomain JobResult}
    (h : ∀ d r, results.get? d = some r → r.figures.IsFinite) :
    readResults? (resultsJson results) = some results := by
  have hfinite : ∀ e ∈ results.toList, e.2.figures.IsFinite := fun e he =>
    h e.1 e.2 (ByDomain.mem_toList.mp he)
  have hentries := mapM_readResult hfinite
  unfold resultsJson ofMembers readResults?
  simp only [List.map_map, Function.comp_def, Option.bind_eq_bind] at hentries ⊢
  rw [hentries, Option.bind_some, ByDomain.ofList_toList]
  rfl

theorem isSpelled_resultsJson (results : ByDomain JobResult) :
    (resultsJson results).IsSpelled := by
  refine isSpelled_ofMembers fun m hm => ?_
  obtain ⟨e, -, rfl⟩ := List.mem_map.mp hm
  exact e.2.isSpelled_toJson

/-- The figures in a row are finite. -/
def IsFinite (u : UnitRow) : Prop := ∀ d r, u.results.get? d = some r → r.figures.IsFinite

theorem ofJson?_toJson {u : UnitRow} (h : u.IsFinite) : ofJson? u.toJson = some u := by
  have htext : ∀ s, text? (ofText s) = some s := fun _ => rfl
  have htag : may? text? (some (ofOption ofText u.rtlTag)) = some u.rtlTag :=
    may?_ofOption (fun _ _ => rfl) rfl
  unfold ofJson? toJson
  rw [fields?_ofMembers (by rfl) (by decide)]
  simp only [List.map_cons, List.map_nil, Option.bind_eq_bind, Option.bind_some, need?_some,
    uint64?_ofNat, htext, htag, readResults?_resultsJson h]
  rfl

theorem isSpelled_toJson (u : UnitRow) : u.toJson.IsSpelled := by
  refine isSpelled_ofMembers ?_
  simp [isSpelled_ofOption, isSpelled_resultsJson]

end UnitRow

/-! ## Groups and summaries -/

theorem ChipletGroup.ofJson?_toJson {g : ChipletGroup} (h : ∀ u ∈ g.units, u.IsFinite) :
    ofJson? g.toJson = some g := by
  have hchiplet : text? (ofText g.chiplet) = some g.chiplet := rfl
  have hunits := @listOf?_map _ UnitRow.toJson UnitRow.ofJson? g.units
    fun u hu => UnitRow.ofJson?_toJson (h u hu)
  unfold ofJson? toJson
  rw [fields?_ofMembers (by rfl) (by decide)]
  simp only [List.map_cons, List.map_nil, Option.bind_eq_bind, Option.bind_some, need?_some,
    hchiplet, hunits]
  rfl

theorem ChipletGroup.isSpelled_toJson (g : ChipletGroup) : g.toJson.IsSpelled := by
  refine isSpelled_ofMembers ?_
  simp [isSpelled_array, UnitRow.isSpelled_toJson]

theorem StatusShare.ofJson?_toJson {s : StatusShare} (h : s.percent.isFinite = true) :
    ofJson? s.toJson = some s := by
  have hstatus : (name? (ofText s.status.name)).bind Status.ofName? = some s.status :=
    s.status.ofName?_name
  unfold ofJson? toJson
  rw [fields?_ofMembers (by rfl) (by decide)]
  simp only [List.map_cons, List.map_nil, Option.bind_eq_bind, Option.bind_some, need?_some,
    hstatus, uint64?_ofNat, real?_ofReal h]
  rfl

theorem StatusShare.isSpelled_toJson (s : StatusShare) : s.toJson.IsSpelled := by
  refine isSpelled_ofMembers ?_
  simp

theorem DomainSummary.ofJson?_toJson {s : DomainSummary}
    (h : ∀ share ∈ s.shares, share.percent.isFinite = true) : ofJson? s.toJson = some s := by
  have hshares := @listOf?_map _ StatusShare.toJson StatusShare.ofJson? s.shares
    fun share hs => StatusShare.ofJson?_toJson (h share hs)
  unfold ofJson? toJson
  rw [fields?_ofMembers (by rfl) (by decide)]
  simp only [List.map_cons, List.map_nil, Option.bind_eq_bind, Option.bind_some, need?_some,
    Domain.ofJson?_ofText, uint64?_ofNat, hshares]
  rfl

theorem DomainSummary.isSpelled_toJson (s : DomainSummary) : s.toJson.IsSpelled := by
  refine isSpelled_ofMembers ?_
  simp [isSpelled_array, StatusShare.isSpelled_toJson]

/-! ## Reports -/

namespace Report

/-- All real numbers are finite: the percentages and those in figures. -/
structure IsFinite (r : Report) : Prop where
  percents : ∀ s ∈ r.summaries, ∀ share ∈ s.shares, share.percent.isFinite = true
  figures : ∀ u ∈ r.rows, u.IsFinite

theorem ofJson?_toJson {r : Report} (h : r.IsFinite) (ht : r.generatedAt.IsExact) :
    ofJson? r.toJson = some r := by
  have htext : ∀ s, text? (ofText s) = some s := fun _ => rfl
  have hdryRun : bool? (.bool r.dryRun) = some r.dryRun := rfl
  have hdomains := @listOf?_map _ (fun d : Domain => ofText d.name) Domain.ofJson? r.domains
    fun d _ => d.ofJson?_ofText
  have hsummaries := @listOf?_map _ DomainSummary.toJson DomainSummary.ofJson? r.summaries
    fun s hs => DomainSummary.ofJson?_toJson (h.percents s hs)
  have hchiplets := @listOf?_map _ ChipletGroup.toJson ChipletGroup.ofJson? r.chiplets
    fun g hg => ChipletGroup.ofJson?_toJson fun u hu =>
      h.figures u (List.mem_flatMap.mpr ⟨g, hg, hu⟩)
  unfold ofJson? toJson
  rw [fields?_ofMembers (by rfl) (by decide)]
  simp only [List.map_cons, List.map_nil, Option.bind_eq_bind, Option.bind_some, need?_some,
    htext, RunId.read?_write, Time.readLoose?_writeZulu ht, hdryRun, hdomains, hsummaries,
    hchiplets]
  rfl

theorem isSpelled_toJson (r : Report) : r.toJson.IsSpelled := by
  have hdryRun : (Json.bool r.dryRun).IsSpelled := trivial
  have hdomains : (Json.array (r.domains.map fun d => ofText d.name)).IsSpelled :=
    isSpelled_array r.domains fun d => isSpelled_ofText d.name
  refine isSpelled_ofMembers ?_
  simp [hdryRun, hdomains, isSpelled_array, DomainSummary.isSpelled_toJson,
    ChipletGroup.isSpelled_toJson]

/-- The text of a report is read as the document that it was written from. -/
theorem read?_write_eq (r : Report) : read? r.write = ofJson? r.toJson := by
  rw [read?, write, read?_pretty r.isSpelled_toJson, Option.bind_some]

/-- A report of finite numbers is read back as it was written. -/
theorem read?_write {r : Report} (h : r.IsFinite) (ht : r.generatedAt.IsExact) :
    read? r.write = some r := by
  rw [read?_write_eq, ofJson?_toJson h ht]

end Report

/-! ## Reports that are read are finite -/

theorem JobResult.isFinite_of_ofJson? {j : Json} {r : JobResult} (h : ofJson? j = some r) :
    r.figures.IsFinite := by
  unfold ofJson? at h
  obtain ⟨fields, -, h⟩ := Option.bind_eq_some_iff.mp h
  split at h
  next status details figuresField raw attempts =>
    simp only [Option.bind_eq_bind, Option.bind_eq_some_iff, Option.pure_def,
      Option.some.injEq] at h
    obtain ⟨status, -, details, -, figures, hfigures, raw, -, attempts, -, rfl⟩ := h
    cases figuresField with
    | none =>
      cases hfigures
      trivial
    | some field => exact Figures.isFinite_of_ofJson? hfigures
  next => exact nomatch h

namespace ByDomain

variable {α : Type}

theorem mem_or_get?_of_foldl {entries : List (Domain × α)} {m : ByDomain α} {d : Domain} {a : α}
    (h : (entries.foldl (fun m (d, a) => m.set d a) m).get? d = some a) :
    (d, a) ∈ entries ∨ m.get? d = some a := by
  induction entries generalizing m with
  | nil => exact .inr h
  | cons e entries ih =>
    rcases ih h with hmem | hset
    · exact .inl (List.mem_cons_of_mem _ hmem)
    · rw [get?_set] at hset
      split at hset
      next hd =>
        obtain rfl := Option.some.inj hset
        exact .inl (hd ▸ List.mem_cons_self)
      next => exact .inr hset

/-- A value in a map made from a list is in the list. -/
theorem mem_of_get?_ofList {entries : List (Domain × α)} {d : Domain} {a : α}
    (h : (ofList entries).get? d = some a) : (d, a) ∈ entries := by
  rcases mem_or_get?_of_foldl h with hmem | hempty
  · exact hmem
  · cases d <;> cases hempty

end ByDomain

namespace UnitRow

theorem isFinite_of_readResults? {j : Json} {results : ByDomain JobResult}
    (h : readResults? j = some results) : ∀ d r, results.get? d = some r → r.figures.IsFinite := by
  unfold readResults? at h
  split at h
  next members =>
    obtain ⟨entries, hentries, hof⟩ := Option.bind_eq_some_iff.mp h
    obtain rfl := Option.some.inj hof
    clear h hof
    intro d r hr
    have hmem := ByDomain.mem_of_get?_ofList hr
    clear hr
    induction members generalizing entries with
    | nil =>
      cases hentries
      exact nomatch hmem
    | cons m members ih =>
      rw [List.mapM_cons] at hentries
      simp only [Option.bind_eq_bind, Option.bind_eq_some_iff, Option.pure_def,
        Option.some.injEq] at hentries
      obtain ⟨e, ⟨d', -, r', hr', rfl⟩, rest, hrest, rfl⟩ := hentries
      rcases List.mem_cons.mp hmem with heq | hmem
      · obtain ⟨-, rfl⟩ := Prod.mk.inj heq
        exact JobResult.isFinite_of_ofJson? hr'
      · exact ih rest hrest hmem
  next => exact nomatch h

theorem isFinite_of_ofJson? {j : Json} {u : UnitRow} (h : ofJson? j = some u) : u.IsFinite := by
  unfold ofJson? at h
  obtain ⟨fields, -, h⟩ := Option.bind_eq_some_iff.mp h
  split at h
  · simp only [Option.bind_eq_bind, Option.bind_eq_some_iff, Option.pure_def,
      Option.some.injEq] at h
    obtain ⟨_, -, _, -, _, -, _, -, _, -, _, -, results, hresults, rfl⟩ := h
    obtain ⟨j', -, hj'⟩ := Option.bind_eq_some_iff.mp hresults
    exact isFinite_of_readResults? hj'
  · exact nomatch h

end UnitRow

theorem ChipletGroup.isFinite_of_ofJson? {j : Json} {g : ChipletGroup} (h : ofJson? j = some g) :
    ∀ u ∈ g.units, u.IsFinite := by
  unfold ofJson? at h
  obtain ⟨fields, -, h⟩ := Option.bind_eq_some_iff.mp h
  split at h
  · simp only [Option.bind_eq_bind, Option.bind_eq_some_iff, Option.pure_def,
      Option.some.injEq] at h
    obtain ⟨chiplet, -, units, hunits, rfl⟩ := h
    exact of_listOf? (fun _ _ => UnitRow.isFinite_of_ofJson?) hunits
  · exact nomatch h

theorem StatusShare.isFinite_of_ofJson? {j : Json} {s : StatusShare} (h : ofJson? j = some s) :
    s.percent.isFinite = true := by
  unfold ofJson? at h
  obtain ⟨fields, -, h⟩ := Option.bind_eq_some_iff.mp h
  split at h
  · simp only [Option.bind_eq_bind, Option.bind_eq_some_iff, Option.pure_def,
      Option.some.injEq] at h
    obtain ⟨status, -, count, -, percent, hpercent, rfl⟩ := h
    exact isFinite_of_need? hpercent
  · exact nomatch h

theorem DomainSummary.isFinite_of_ofJson? {j : Json} {s : DomainSummary}
    (h : ofJson? j = some s) : ∀ share ∈ s.shares, share.percent.isFinite = true := by
  unfold ofJson? at h
  obtain ⟨fields, -, h⟩ := Option.bind_eq_some_iff.mp h
  split at h
  · simp only [Option.bind_eq_bind, Option.bind_eq_some_iff, Option.pure_def,
      Option.some.injEq] at h
    obtain ⟨domain, -, total, -, shares, hshares, rfl⟩ := h
    exact of_listOf? (fun _ _ => StatusShare.isFinite_of_ofJson?) hshares
  · exact nomatch h

namespace Report

theorem isFinite_of_ofJson? {j : Json} {r : Report} (h : ofJson? j = some r) : r.IsFinite := by
  unfold ofJson? at h
  obtain ⟨fields, -, h⟩ := Option.bind_eq_some_iff.mp h
  split at h
  · simp only [Option.bind_eq_bind, Option.bind_eq_some_iff, Option.pure_def,
      Option.some.injEq] at h
    obtain ⟨_, -, _, -, _, -, _, -, _, -, _, -, summaries, hsummaries, chiplets, hchiplets, rfl⟩ := h
    have hgroups := of_listOf? (fun _ _ => ChipletGroup.isFinite_of_ofJson?) hchiplets
    refine ⟨of_listOf? (fun _ _ => DomainSummary.isFinite_of_ofJson?) hsummaries, fun u hu => ?_⟩
    obtain ⟨g, hg, hu⟩ := List.mem_flatMap.mp hu
    exact hgroups g hg u hu
  · exact nomatch h

/-- A report survives being written exactly if its numbers are finite. -/
theorem read?_write_iff {r : Report} (ht : r.generatedAt.IsExact) :
    read? r.write = some r ↔ r.IsFinite :=
  ⟨fun h => isFinite_of_ofJson? ((read?_write_eq r).symm.trans h), fun h => read?_write h ht⟩

end Report

end Signoff
