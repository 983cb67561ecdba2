import Signoff.Proofs.Run.Solo

/-!
# What a run depends on

The folders at a point of a run are those from before and those of the domains that were begun, so
what a domain's survey finds (`resumed_iff`) and how its jobs go on (`onCourse_of_follows`) depend
on the plan and the files that the run found, and on no order of steps.
-/

namespace Signoff

open Workspace Deed

namespace Bench

variable {σ : Type}

/-- The folders there are when a domain of the plan is about to begin. -/
def FoldersBefore (b : Bench σ) (w : Workspace) (plan : Plan) (d : Domain) (q : Place) : Prop :=
  w.item? q = some .folder ∨ ∃ e ∈ plan.domains.takeWhile (· != d), q ∈ b.layout.folders e

/-- The folders there are while the jobs of a domain of the plan are executed. -/
def FoldersOf (b : Bench σ) (w : Workspace) (plan : Plan) (d : Domain) (q : Place) : Prop :=
  b.FoldersBefore w plan d q ∨ q ∈ b.layout.folders d

/-- The working folder of a job is there when its task starts. -/
def IsPresent (b : Bench σ) (w : Workspace) (plan : Plan) (j : Job) : Prop :=
  LeadsIn (b.FoldersOf w plan j.domain) j.unit.workarea ∧
    b.FoldersOf w plan j.domain j.unit.workarea.place

/-- The result of an earlier run stands for a job: the log names its unit, and its record reads as
the result. -/
def Reuses (b : Bench σ) (w : Workspace) (plan : Plan) (done : CompletionLog.Completions)
    (j : Job) (r : JobResult) : Prop :=
  ∃ entry text, done.lookup? j.key = some entry ∧ entry.unitName = j.unit.name ∧
    LeadsIn (b.FoldersBefore w plan j.domain) (b.layout.recordPath j) ∧
    w.contentAt (b.layout.recordPath j).place = some text.toUTF8 ∧
    Record.decodeFile text = .ok r

variable {b : Bench σ} {w v : Workspace} {plan : Plan} {done : CompletionLog.Completions}

theorem cached?_iff {l : Layout} {j : Job} {r : JobResult} :
    Record.cached? w l j = some r ↔
      ∃ text, w.readText (l.recordPath j) = .ok text ∧ Record.decodeFile text = .ok r := by
  unfold Record.cached? Record.load
  cases w.readText (l.recordPath j) with
  | error fault => simp [Except.toOption]
  | ok text => cases hdecode : Record.decodeFile text <;> simp [Except.toOption, hdecode]

/-- A result can be reused if the log names the unit of the job, and the record is one. -/
theorem reusable?_eq_some_iff {l : Layout} {j : Job} {r : JobResult} :
    Survey.reusable? w l done j = some r ↔
      ∃ entry, done.lookup? j.key = some entry ∧ entry.unitName = j.unit.name ∧
        Record.cached? w l j = some r := by
  unfold Survey.reusable?
  cases done.lookup? j.key with
  | none => simp
  | some entry =>
    dsimp only
    by_cases hname : entry.unitName = j.unit.name
    · rw [if_pos hname]
      simp [hname]
    · rw [if_neg hname]
      simp [hname]

theorem reusable?_iff {j : Job} {r : JobResult}
    (hfolders : ∀ q, v.item? q = some .folder ↔ b.FoldersBefore w plan j.domain q)
    (hrecord : v.contentAt (b.layout.recordPath j).place =
      w.contentAt (b.layout.recordPath j).place) :
    Survey.reusable? v b.layout done j = some r ↔ b.Reuses w plan done j r := by
  -- what can be read depends on the folders and on the record alone
  have hread : ∀ text, v.readText (b.layout.recordPath j) = .ok text ↔
      LeadsIn (b.FoldersBefore w plan j.domain) (b.layout.recordPath j) ∧
        w.contentAt (b.layout.recordPath j).place = some text.toUTF8 := by
    intro text
    rw [readText_eq_ok_iff, leads_iff hfolders, hrecord]
  unfold Reuses
  simp only [reusable?_eq_some_iff, cached?_iff, hread, exists_and_left, and_assoc]

end Bench

namespace Progress

variable {σ : Type} {b : Bench σ} {plan : Plan} {done : CompletionLog.Completions}
  {ds : List Deed} {p : Progress σ} {scene : Scene σ} {place : Place} {base : ByteArray}

theorem takeWhile_domains {before after : List Domain} {d : Domain}
    (hdom : plan.domains.Nodup) (h : plan.domains = before ++ d :: after) :
    plan.domains.takeWhile (· != d) = before := by
  rw [h] at hdom ⊢
  have hnot : ∀ e ∈ before, (e != d) = true := by
    intro e he
    rw [bne_iff_ne]
    rintro rfl
    exact (List.nodup_append.mp hdom).2.2 e he e List.mem_cons_self rfl
  rw [List.takeWhile_append_of_pos hnot]
  simp

/-- The folders when no domain is in hand and one is next. -/
theorem folders_before (hdom : plan.domains.Nodup)
    (h : Follows b plan done (start plan scene) ds p)
    (hh : Housed b scene.files place base ds p) (hf : p.failure = none) (ha : p.active = none)
    {d : Domain} {rest : List Domain} (hp : p.pending = d :: rest) (q : Place) :
    p.scene.files.item? q = some .folder ↔ b.FoldersBefore scene.files plan d q := by
  have hdomains := (orderly_of_follows h).domains hf
  rw [ha, hp] at hdomains
  have hbefore : plan.domains.takeWhile (· != d) = p.closed.map (·.1) :=
    takeWhile_domains hdom hdomains
  unfold Bench.FoldersBefore
  rw [hbefore]
  -- the domains that were begun are the closed ones, which stand in front
  have hbegan : ∀ e, .began e ∈ ds ↔ e ∈ p.closed.map (·.1) := by
    intro e
    rw [began_iff h hf, ha]
    simp
  constructor
  · intro hq
    exact (hh.made q hq).imp_right fun ⟨e, he, hmem⟩ => ⟨e, (hbegan e).mp he, hmem⟩
  · rintro (hq | ⟨e, he, hmem⟩)
    · exact hh.kept q hq
    · exact hh.prepared hf e ((hbegan e).mpr he) q hmem

theorem folders_of (hdom : plan.domains.Nodup) (h : Follows b plan done (start plan scene) ds p)
    (hh : Housed b scene.files place base ds p) (hf : p.failure = none) {a : Active}
    (ha : p.active = some a) (q : Place) :
    p.scene.files.item? q = some .folder ↔ b.FoldersOf scene.files plan a.domain q := by
  have hdomains := (orderly_of_follows h).domains hf
  rw [ha] at hdomains
  have hbefore : plan.domains.takeWhile (· != a.domain) = p.closed.map (·.1) :=
    takeWhile_domains hdom hdomains
  unfold Bench.FoldersOf Bench.FoldersBefore
  rw [hbefore]
  have hbegan : ∀ e, .began e ∈ ds ↔ e ∈ p.closed.map (·.1) ∨ e = a.domain := by
    intro e
    rw [began_iff h hf, ha]
    simp
  constructor
  · intro hq
    rcases hh.made q hq with hq | ⟨e, he, hmem⟩
    · exact Or.inl (Or.inl hq)
    · rcases (hbegan e).mp he with he | rfl
      · exact Or.inl (Or.inr ⟨e, he, hmem⟩)
      · exact Or.inr hmem
  · rintro ((hq | ⟨e, he, hmem⟩) | hmem)
    · exact hh.kept q hq
    · exact hh.prepared hf e ((hbegan e).mpr (Or.inl he)) q hmem
    · exact hh.prepared hf a.domain ((hbegan _).mpr (Or.inr rfl)) q hmem

/-! ## What surveys find -/

/-- A job that was not launched has the record that it had when the run began. -/
theorem record_of_not_launched (hidx : (plan.units.map (·.index)).Nodup)
    (hc : Courses plan ds p) (hh : Housed b scene.files place base ds p)
    (hapart : ApartFrom b plan place) {j : Job} (hd : j.domain ∈ plan.domains)
    (hj : j ∈ jobsOf plan.units j.domain) (hl : .launched j ∉ ds) :
    p.scene.files.contentAt (b.layout.recordPath j).place =
      scene.files.contentAt (b.layout.recordPath j).place := by
  refine hh.elsewhere _ (fun heq => hapart _ hd j hj (Or.inr heq.symm)) fun i hi hfile => hl ?_
  have hkey : i.key = j.key := Layout.key_of_jobFile hfile (Or.inr rfl)
  have himem := hc.member i (mem_takes.mpr (Or.inl hi))
  rw [eq_of_key hidx (mem_jobsOf.mp hj).2 himem.2 hkey.symm]
  exact hi

theorem resumed_iff (hidx : (plan.units.map (·.index)).Nodup) (hdom : plan.domains.Nodup)
    (hw : scene.files.Sound) (hk : scene.log.Keeps scene.files place base)
    (hapart : ApartFrom b plan place) (h : Follows b plan done (start plan scene) ds p)
    (j : Job) (r : JobResult) :
    .resumed j r ∈ ds ↔ .began j.domain ∈ ds ∧ j ∈ jobsOf plan.units j.domain ∧
      b.Reuses scene.files plan done j r := by
  refine h.induct (motive := fun ds _ => .resumed j r ∈ ds ↔ .began j.domain ∈ ds ∧
    j ∈ jobsOf plan.units j.domain ∧ b.Reuses scene.files plan done j r) (by simp) ?_
  intro ds es p q hfol hf hm ih
  have hh := housed_of_follows hidx hdom hw hk hapart hfol
  have hc := courses_of_follows hidx hdom hfol
  have ho := orderly_of_follows hfol
  -- steps that begin no domain resume nothing
  have hquiet : (.resumed j r ∉ es ∧ .began j.domain ∉ es) →
      (.resumed j r ∈ ds ++ es ↔ .began j.domain ∈ ds ++ es ∧
        j ∈ jobsOf plan.units j.domain ∧ b.Reuses scene.files plan done j r) := by
    rintro ⟨hres, hbegan⟩
    rw [List.mem_append, List.mem_append, or_iff_left hres, or_iff_left hbegan]
    exact ih
  have hsurvey : ∀ {d : Domain} {rest : List Domain}, p.active = none → p.pending = d :: rest →
      (.resumed j r ∈ es ↔ j ∈ jobsOf plan.units d ∧
        Survey.reusable? p.scene.files b.layout done j = some r) →
      (.began j.domain ∈ es ↔ j.domain = d) →
      (.resumed j r ∈ ds ++ es ↔ .began j.domain ∈ ds ++ es ∧
        j ∈ jobsOf plan.units j.domain ∧ b.Reuses scene.files plan done j r) := by
    intro d rest ha hp hres hbegan
    -- a domain is begun once
    have hnew : .began d ∉ ds := by
      rw [began_iff hfol hf, ha]
      intro hmem
      have hdomains := ho.domains hf
      rw [ha, hp] at hdomains
      have := takeWhile_domains hdom hdomains
      rcases hmem with hmem | hmem
      · rw [← this] at hmem
        exact absurd (List.mem_takeWhile_imp hmem) (by simp)
      · simp at hmem
    rw [List.mem_append, hres, ih, List.mem_append, hbegan]
    by_cases hjd : j.domain = d
    · subst hjd
      -- no job of the domain was launched yet, so the records are those from the start
      have hreuse : j ∈ jobsOf plan.units j.domain →
          (Survey.reusable? p.scene.files b.layout done j = some r ↔
            b.Reuses scene.files plan done j r) := by
        intro hj
        refine Bench.reusable?_iff (folders_before hdom hfol hh hf ha hp) ?_
        refine record_of_not_launched hidx hc hh hapart (ho.mem_domains_of_pending hf hp) hj ?_
        intro hl
        refine hc.unseen j (mem_takes.mpr (Or.inl hl)) ?_
        rw [hp]
        exact List.mem_cons_self
      simp only [hnew, false_and, false_or, or_true, true_and]
      exact and_congr_right hreuse
    · have hnot : j ∉ jobsOf plan.units d := fun hj => hjd (mem_jobsOf.mp hj).1
      simp [hnot, hjd]
  cases hm with
  | begins ha hp hs hprep | stumbles ha hp hs hprep =>
    subst hs
    refine hsurvey ha hp (Survey.resumed_mem_deeds.trans Survey.mem_take_resumed) ?_
    rw [Survey.mem_deeds]
    simp
  | advances ha hr hstep =>
    refine hquiet ⟨fun hmem => ?_, fun hmem => ?_⟩
    · rw [← mem_resumptions, hstep.enters_nothing.2.2] at hmem
      simp at hmem
    · exact hstep.began_not_mem _ hmem
  | launches | collects | breaks | closes => exact hquiet ⟨by simp, by simp⟩

/-! ## How jobs go on -/

theorem onCourse_of_follows {answer : Job → UInt32 → ToolAnswer} {present : Job → Bool}
    (hidx : (plan.units.map (·.index)).Nodup) (hdom : plan.domains.Nodup)
    (hw : scene.files.Sound) (hk : scene.log.Keeps scene.files place base)
    (hapart : ApartFrom b plan place) (hanswers : b.tool.Answers answer)
    (hpresent : ∀ j, present j = true ↔ b.IsPresent scene.files plan j)
    (h : Follows b plan done (start plan scene) ds p) :
    Traced plan (b.OnCourse answer present scene.files) ds p := by
  refine traced_of_follows hidx hdom hw hk hapart Bench.isLocal_onCourse
    (fun d _ j _ => Bench.onCourse_fresh j) ?_ h
  intro ds es p a n j stage next s hfol hf ha hr hmove hon
  have hh := housed_of_follows hidx hdom hw hk hapart hfol
  have ho := orderly_of_follows hfol
  have hj := (ho.account a ha).mem_jobsOf_of_running (List.mem_of_getElem? hr)
  have hdomain := (mem_jobsOf.mp hj).1
  -- whether the working folder is there depends on the domain, not on the other tasks
  have hfolders := folders_of hdom hfol hh hf ha
  refine hmove.onCourse hanswers hh.sound hh.keeps (hapart _ (ho.mem_domains hf ha) j hj) ?_ ?_ hon
  · rw [hdomain]
    exact hh.prepared hf _ (began_of_active hfol hf ha)
  · rw [Bool.eq_iff_iff, isFolder_iff_of hfolders, hpresent, Bench.IsPresent, hdomain]

end Progress

end Signoff
