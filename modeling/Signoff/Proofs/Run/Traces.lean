import Signoff.Proofs.Run.Courses
import Signoff.Proofs.Run.Frame

/-!
# The files of a run and of its jobs

A run whose log is none of its jobs' files keeps every line of the log (`housed_of_follows`).

A property of the files and the stage of one job holds all along a run if the steps of the job's
own task keep it: no other task touches these files, and the log is none of them.
-/

namespace Signoff

open Workspace Deed

/-- A job of the plan is known by its key. -/
theorem eq_of_key {units : List DesignUnit} (hidx : (units.map (·.index)).Nodup) {i j : Job}
    (hi : i.unit ∈ units) (hj : j.unit ∈ units) (hk : i.key = j.key) : i = j := by
  obtain ⟨d, u⟩ := i
  obtain ⟨e, v⟩ := j
  have hd : d = e := congrArg JobKey.domain hk
  have hu : u = v := List.inj_on_of_nodup_map hidx hi hj (congrArg JobKey.index hk)
  rw [hd, hu]

namespace Progress

variable {σ : Type} {b : Bench σ} {plan : Plan} {done : CompletionLog.Completions}
  {ds es : List Deed} {p q : Progress σ} {place : Place} {base : ByteArray}

/-! ## Runs with a log apart from their files -/

/-- The place is apart from the files of the plan's jobs. -/
def ApartFrom (b : Bench σ) (plan : Plan) (place : Place) : Prop :=
  ∀ d ∈ plan.domains, ∀ j ∈ jobsOf plan.units d, ¬ b.layout.JobFile j place

/-- What a run has made of the workspace `w` in which its log was opened. -/
structure Housed (b : Bench σ) (w : Workspace) (place : Place) (base : ByteArray)
    (ds : List Deed) (p : Progress σ) : Prop where
  sound : p.scene.files.Sound
  keeps : p.scene.log.Keeps p.scene.files place (base ++ (logText ds).toUTF8)
  kept : ∀ q, w.item? q = some .folder → p.scene.files.item? q = some .folder
  made : ∀ q, p.scene.files.item? q = some .folder →
    w.item? q = some .folder ∨ ∃ d, .began d ∈ ds ∧ q ∈ b.layout.folders d
  prepared : p.failure = none → ∀ d, .began d ∈ ds →
    ∀ q ∈ b.layout.folders d, p.scene.files.item? q = some .folder
  elsewhere : ∀ q, q ≠ place → (∀ j, .launched j ∈ ds → ¬ b.layout.JobFile j q) →
    p.scene.files.contentAt q = w.contentAt q

theorem housed_of_follows {scene : Scene σ} (hidx : (plan.units.map (·.index)).Nodup)
    (hdom : plan.domains.Nodup) (hw : scene.files.Sound)
    (hk : scene.log.Keeps scene.files place base) (hapart : ApartFrom b plan place)
    (h : Follows b plan done (start plan scene) ds p) :
    Housed b scene.files place base ds p := by
  have hframed := framed_of_follows hw hk h
  -- only jobs of the plan are launched, and the log is none of their files
  have hjobs : ∀ j, .launched j ∈ ds → ¬ b.layout.JobFile j place := by
    intro j hj
    have hmember := (courses_of_follows hidx hdom h).member j (mem_takes.mpr (Or.inl hj))
    exact hapart _ hmember.1 j (mem_jobsOf.mpr ⟨rfl, hmember.2⟩)
  exact ⟨hframed.sound, hframed.keeps hjobs, hframed.kept, hframed.made, hframed.prepared,
    fun q => hframed.contentAt_eq⟩

/-! ## Files of a job along its task -/

/-- The property depends on the content of the given files of a job, and on folders that are
there. -/
def IsLocalTo (own : Job → Place → Prop) (P : Workspace → Job → Stage → Prop) : Prop :=
  ∀ w w' j stage, (∀ q, own j q → w'.contentAt q = w.contentAt q) →
    (∀ q, w.item? q = some .folder → w'.item? q = some .folder) → P w j stage → P w' j stage

/-- The property depends on the content of the job's own files, and on folders that are there. -/
def IsLocal (b : Bench σ) (P : Workspace → Job → Stage → Prop) : Prop :=
  IsLocalTo b.layout.JobFile P

/-- The property holds of the jobs of the plan: of those not launched, of those that run, and of
those whose completion was logged, even if the run has failed since. -/
structure Traced (plan : Plan) (P : Workspace → Job → Stage → Prop) (ds : List Deed)
    (p : Progress σ) : Prop where
  waiting : ∀ d ∈ plan.domains, ∀ j ∈ jobsOf plan.units d, .launched j ∉ ds →
    P p.scene.files j .fresh
  running : ∀ j stage, (j, stage) ∈ p.tasks → P p.scene.files j stage
  logged : ∀ j r t, .logged j r t ∈ ds → P p.scene.files j (.finished r)

variable {P : Workspace → Job → Stage → Prop} {own : Job → Place → Prop}

/-- A step that touches no file of a job and leaves the tasks as they are. -/
theorem Traced.idle (h : Traced plan P ds p)
    (hkeep : ∀ j stage, P p.scene.files j stage → P q.scene.files j stage)
    (htasks : ∀ j stage, (j, stage) ∈ q.tasks → (j, stage) ∈ p.tasks)
    (hes : ∀ j r t, .logged j r t ∉ es) : Traced plan P (ds ++ es) q where
  waiting d hd j hj hl :=
    hkeep _ _ (h.waiting d hd j hj fun hmem => hl (List.mem_append_left _ hmem))
  running j stage hj := hkeep _ _ (h.running j stage (htasks j stage hj))
  logged j r t hj :=
    hkeep _ _ (h.logged j r t ((List.mem_append.mp hj).resolve_right (hes j r t)))

/-- A job that was logged is not the one of a task that can still take a step. -/
theorem key_ne_of_logged (hc : Courses plan ds p) (hf : p.failure = none) {a : Active} {n : Nat}
    {i j : Job} {stage : Stage} {r : JobResult} {t : Time.Instant} (ha : p.active = some a)
    (hr : a.running[n]? = some (j, stage)) (hstage : stage ≠ .finished r)
    (hi : .logged i r t ∈ ds) : i.key ≠ j.key := by
  have htasks : p.tasks = a.running := tasks_of_active ha
  have hnodup := hc.nodup_placed hf
  rw [List.map_append, List.nodup_append, List.map_append, List.nodup_append, htasks] at hnodup
  obtain ⟨hlt, hget⟩ := List.getElem?_eq_some_iff.mp hr
  have hmem : (j, stage) ∈ a.running := List.mem_of_getElem? hr
  intro hk
  -- a logged job was collected, or its task is finished and not the one that steps
  rcases hc.settled hf i r t hi with hcol | hrun
  · refine hnodup.1.2.2 j.key (List.mem_map_of_mem (List.mem_map_of_mem hmem)) i.key ?_ hk.symm
    exact List.mem_map_of_mem (List.mem_map_of_mem (f := (·.1)) (mem_collections.mpr hcol))
  · rw [htasks] at hrun
    have hinj := List.inj_on_of_nodup_map (f := fun e : Job × Stage => e.1.key)
      (by simpa [List.map_map, Function.comp_def] using hnodup.1.1) hrun hmem hk
    rw [Prod.mk.injEq] at hinj
    exact hstage hinj.2.symm

section Advance

variable {a : Active} {n : Nat} {j : Job} {stage next : Stage} {scene : Scene σ}

/-- A step of a task leaves the files of every other job of the plan alone. -/
theorem keep_of_key_ne (hlocal : IsLocalTo own P) (hown : ∀ i q, own i q → b.layout.JobFile i q)
    (hapart : ∀ d ∈ plan.domains, ∀ i ∈ jobsOf plan.units d, ¬ own i place)
    (hreach : b.Reach place j es p.scene scene) {i : Job} {s : Stage}
    (hd : i.domain ∈ plan.domains) (hi : i.unit ∈ plan.units) (hne : i.key ≠ j.key)
    (hP : P p.scene.files i s) : P scene.files i s := by
  refine hlocal _ _ _ _ (fun q hq => contentAt_congr ?_) (fun q => (hreach.folders q).mpr) hP
  refine hreach.elsewhere q ?_ fun hj => hne (Layout.key_of_jobFile (hown i q hq) hj)
  rintro rfl
  exact hapart i.domain hd i (mem_jobsOf.mpr ⟨rfl, hi⟩) hq

/-- A step of a task moves the property of its job on and keeps those of the others. -/
theorem Traced.advances (h : Traced plan P ds p) (hlocal : IsLocalTo own P)
    (hown : ∀ i q, own i q → b.layout.JobFile i q)
    (hapart : ∀ d ∈ plan.domains, ∀ i ∈ jobsOf plan.units d, ¬ own i place)
    (ho : Orderly b plan ds p) (hc : Courses plan ds p)
    (hidx : (plan.units.map (·.index)).Nodup) (hf : p.failure = none) (ha : p.active = some a)
    (hr : a.running[n]? = some (j, stage)) (hstep : b.TaskMove p.scene j stage es next scene)
    (hreach : b.Reach place j es p.scene scene) (hnext : P scene.files j next) :
    Traced plan P (ds ++ es)
      { p with scene, active := some { a with running := a.running.set n (j, next) } } := by
  have htasks : p.tasks = a.running := tasks_of_active ha
  have hlaunched := launched_of_running ho ha hr
  have hj := hc.member j (mem_takes.mpr (Or.inl hlaunched))
  -- the jobs with other keys keep their files
  have hkeep : ∀ {i s}, i ∈ takes ds → i.key ≠ j.key → P p.scene.files i s →
      P scene.files i s := fun hi hne hP =>
    keep_of_key_ne hlocal hown hapart hreach (hc.member _ hi).1 (hc.member _ hi).2 hne hP
  refine ⟨fun d hd i hi hl => ?_, fun i s hi => ?_, fun i r t hi => ?_⟩
  · have hi' := mem_jobsOf.mp hi
    have hold : .launched i ∉ ds := fun hmem => hl (List.mem_append_left _ hmem)
    refine keep_of_key_ne hlocal hown hapart hreach (hi'.1 ▸ hd) hi'.2 (fun hk => hold ?_)
      (h.waiting d hd i hi hold)
    rw [eq_of_key hidx hi'.2 hj.2 hk]
    exact hlaunched
  · obtain ⟨m, hm, hget⟩ := List.mem_iff_getElem.mp hi
    simp only [tasks, Option.map_some, Option.getD_some, List.length_set] at hm hget
    by_cases hmn : n = m
    · subst hmn
      rw [List.getElem_set_self, Prod.mk.injEq] at hget
      rw [← hget.1, ← hget.2]
      exact hnext
    · rw [List.getElem_set_ne hmn] at hget
      have hmem : (i, s) ∈ p.tasks := by
        rw [htasks, ← hget]
        exact List.getElem_mem hm
      refine hkeep (hc.mem_takes_of_task hf hmem) (fun hk => hmn ?_) (h.running i s hmem)
      -- tasks of two places have different keys
      have hnodup := hc.nodup_placed hf
      rw [List.map_append, List.nodup_append, List.map_append, List.nodup_append, htasks,
        List.map_map] at hnodup
      obtain ⟨hlt, hgetn⟩ := List.getElem?_eq_some_iff.mp hr
      have hinj := List.nodup_iff_injective_getElem.mp hnodup.1.1
      have heq := @hinj ⟨n, by simpa using hlt⟩ ⟨m, by simpa using hm⟩
        (by simp [hgetn, hget, hk])
      exact Fin.mk.inj heq
  -- an old line is another job's; a new one is that of the job itself
  · rcases List.mem_append.mp hi with hold | hnew
    · have hmem : i ∈ takes ds := by
        rcases hc.settled hf i r t hold with hcol | hrun
        · exact hc.mem_takes_of_collected hf hcol
        · exact hc.mem_takes_of_task hf hrun
      refine hkeep hmem ?_ (h.logged i r t hold)
      exact key_ne_of_logged hc hf ha hr (hstep.not_finished r) hold
    · obtain ⟨rfl, rfl⟩ := hstep.logs_own.2.1 i r t hnew
      exact hnext

end Advance

/-- Whatever the order of the steps, the given files and the stage of each job are as the steps of
its own task leave them, if the log is none of these files. -/
theorem traced_of_own {scene : Scene σ} (hidx : (plan.units.map (·.index)).Nodup)
    (hdom : plan.domains.Nodup) (hw : scene.files.Sound)
    (hk : scene.log.Keeps scene.files place base) (hlocal : IsLocalTo own P)
    (hown : ∀ i q, own i q → b.layout.JobFile i q)
    (hapart : ∀ d ∈ plan.domains, ∀ i ∈ jobsOf plan.units d, ¬ own i place)
    (hfresh : ∀ d ∈ plan.domains, ∀ j ∈ jobsOf plan.units d, P scene.files j .fresh)
    (hstep : ∀ {ds es : List Deed} {p : Progress σ} {a : Active} {n : Nat} {j : Job}
      {stage next : Stage} {s : Scene σ}, Follows b plan done (start plan scene) ds p →
      p.failure = none → p.active = some a → a.running[n]? = some (j, stage) →
      b.TaskMove p.scene j stage es next s → P p.scene.files j stage → P s.files j next)
    (h : Follows b plan done (start plan scene) ds p) : Traced plan P ds p := by
  refine h.induct (motive := fun ds p => Traced plan P ds p) ⟨fun d hd j hj _ => hfresh d hd j hj,
    fun j stage hj => by simp [tasks, start] at hj, fun j r t hj => by simp at hj⟩ ?_
  intro ds es p q hfol hf hm ih
  have hc := courses_of_follows hidx hdom hfol
  have ho := orderly_of_follows hfol
  -- preparing a domain only adds folders
  have hwide : ∀ {trouble : Trouble} {d : Domain} {result : Except Error Unit} {w' : Workspace},
      prepare b trouble p.scene.files d = (result, w') → ∀ j stage, P p.scene.files j stage →
      P w' j stage := fun hprep j stage =>
    hlocal _ _ _ _ (fun q _ => (prepare_eq hprep).1.contentAt_eq q)
      fun q hq => (prepare_eq hprep).1.keeps q _ hq
  -- only two steps move a task: launching gives a waiting job its stage, advancing changes it
  cases hm with
  | begins ha hp hs hprep =>
    exact ih.idle (hwide hprep) (fun j stage hj => by simp [tasks] at hj) (by simp)
  | stumbles ha hp hs hprep =>
    exact ih.idle (hwide hprep) (fun j stage hj => by simp [tasks, ha] at hj) (by simp)
  | @launches a j rest ha hq hr =>
    have hjob : j ∈ jobsOf plan.units a.domain := by
      rw [(ho.account a ha).jobs.mem_iff, hq]
      simp
    have hnew : .launched j ∉ ds := fun hmem =>
      hc.key_ne_of_queue ho hidx ha (hq ▸ List.mem_cons_self)
        (mem_takes.mpr (Or.inl hmem)) rfl
    refine ⟨fun d hd i hi hl => ih.waiting d hd i hi fun hmem => hl (List.mem_append_left _ hmem),
      fun i stage hi => ?_, fun i r t hi => ih.logged i r t (by simpa using hi)⟩
    simp only [launch, tasks, Option.map_some, Option.getD_some, List.mem_append,
      List.mem_singleton, Prod.mk.injEq] at hi
    rcases hi with hi | ⟨rfl, rfl⟩
    · exact ih.running i stage (by simpa [tasks, ha] using hi)
    · exact ih.waiting _ (ho.mem_domains hf ha) i hjob hnew
  | @advances a n j stage next s es ha hr hmove =>
    have hreach := reach_of_task ho (framed_of_follows hw hk hfol) hf (began_of_active hfol hf ha)
      ha hr hmove
    refine ih.advances hlocal hown hapart ho hc hidx hf ha hr hmove hreach
      (hstep hfol hf ha hr hmove ?_)
    exact ih.running j stage (by simpa [tasks, ha] using List.mem_of_getElem? hr)
  | collects ha hr =>
    refine ih.idle (fun _ _ => id) (fun j stage hj => ?_) (by simp)
    simp only [tasks, Option.map_some, Option.getD_some] at hj
    simpa [tasks, ha] using List.mem_of_mem_eraseIdx hj
  | breaks ha hr =>
    exact ih.idle (fun _ _ => id) (fun j stage hj => by simp [tasks] at hj) (by simp)
  | closes ha hq hr =>
    exact ih.idle (fun _ _ => id) (fun j stage hj => by simp [tasks, closeDomain] at hj) (by simp)

/-- The same for the files of jobs altogether. -/
theorem traced_of_follows {scene : Scene σ} (hidx : (plan.units.map (·.index)).Nodup)
    (hdom : plan.domains.Nodup) (hw : scene.files.Sound)
    (hk : scene.log.Keeps scene.files place base) (hapart : ApartFrom b plan place)
    (hlocal : IsLocal b P)
    (hfresh : ∀ d ∈ plan.domains, ∀ j ∈ jobsOf plan.units d, P scene.files j .fresh)
    (hstep : ∀ {ds es : List Deed} {p : Progress σ} {a : Active} {n : Nat} {j : Job}
      {stage next : Stage} {s : Scene σ}, Follows b plan done (start plan scene) ds p →
      p.failure = none → p.active = some a → a.running[n]? = some (j, stage) →
      b.TaskMove p.scene j stage es next s → P p.scene.files j stage → P s.files j next)
    (h : Follows b plan done (start plan scene) ds p) : Traced plan P ds p :=
  traced_of_own hidx hdom hw hk hlocal (fun _ _ hq => hq) hapart hfresh hstep h

end Progress

end Signoff
