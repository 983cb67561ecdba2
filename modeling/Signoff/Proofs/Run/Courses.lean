import Signoff.Proofs.Run.Jobs

/-!
# The course of each job

In the run of a plan with distinct domains and places, each job is taken up once: it is resumed, or
it is launched, logged when its task finishes, and collected.  `Courses` ties what was done to where
the tasks are and to what the ledger holds, wherever the run gets to.
-/

namespace Signoff

/-! ## Jobs that were taken up -/

namespace Deed

def taken? : Deed → Option Job
  | launched j => some j
  | resumed j _ => some j
  | _ => none

/-- The jobs that were launched or resumed, in order. -/
def takes (ds : List Deed) : List Job := ds.filterMap taken?

@[simp] theorem takes_append (ds es : List Deed) : takes (ds ++ es) = takes ds ++ takes es :=
  List.filterMap_append

theorem mem_takes {ds : List Deed} {j : Job} :
    j ∈ takes ds ↔ launched j ∈ ds ∨ ∃ r, resumed j r ∈ ds := by
  unfold takes
  rw [List.mem_filterMap]
  constructor
  · rintro ⟨d, hd, h⟩
    cases d with
    | launched i =>
      have hi : i = j := by simpa [taken?] using h
      exact Or.inl (hi ▸ hd)
    | resumed i r =>
      have hi : i = j := by simpa [taken?] using h
      exact Or.inr ⟨r, hi ▸ hd⟩
    | _ => simp [taken?] at h
  · rintro (h | ⟨r, h⟩)
    · exact ⟨_, h, rfl⟩
    · exact ⟨_, h, rfl⟩

theorem takes_perm (ds : List Deed) :
    (takes ds).Perm (launches ds ++ (resumptions ds).map (·.1)) := by
  induction ds with
  | nil => exact .nil
  | cons d ds ih =>
    have hcons : ∀ {α : Type} (f : Deed → Option α),
        (d :: ds).filterMap f = (f d).toList ++ ds.filterMap f := fun f => by
      cases h : f d <;> simp [h]
    unfold takes launches resumptions at ih ⊢
    rw [hcons, hcons, hcons]
    cases d with
    | launched j => simpa [taken?, launched?, resumed?] using ih
    | resumed j r =>
      simp only [taken?, launched?, resumed?, Option.toList_some, Option.toList_none,
        List.nil_append, List.map_cons, List.singleton_append]
      -- launched jobs are listed first, so a resumed one moves behind them
      exact (ih.cons j).trans List.perm_middle.symm
    | _ => simpa [taken?, launched?, resumed?] using ih

end Deed

open Deed

/-! ## What a survey enters -/

namespace Survey

theorem takes_resumed (s : Survey) :
    takes (s.resumed.map fun (j, r) => Deed.resumed j r) = s.resumed.map (·.1) := by
  unfold takes
  rw [List.filterMap_map]
  have h : (taken? ∘ fun (j, r) => Deed.resumed j r) = some ∘ fun e : Job × JobResult => e.1 := by
    funext ⟨j, r⟩; rfl
  rw [h, List.filterMap_eq_map]

theorem nodup_resumed {w : Workspace} {l : Layout} {done : CompletionLog.Completions}
    {units : List DesignUnit} (hidx : (units.map (·.index)).Nodup) (d : Domain) :
    (((take w l done units d).resumed.map (·.1)).map (·.key)).Nodup := by
  -- the resumed jobs are jobs of the domain, in their order
  rw [take_resumed_map]
  exact (nodup_jobsOf hidx d).sublist (List.Sublist.map _ List.filter_sublist)

/-- Results of jobs that the ledger does not know are entered as they are. -/
theorem get?_enter (s : Survey) {l : Ledger} (hnodup : ((s.resumed.map (·.1)).map (·.key)).Nodup)
    (hnew : ∀ e ∈ s.resumed, l.get? e.1.key = none) (k : JobKey) (r : JobResult) :
    (s.enter l).get? k = some r ↔
      l.get? k = some r ∨ ∃ j, (j, r) ∈ s.resumed ∧ j.key = k := by
  unfold enter
  generalize s.resumed = entries at hnodup hnew ⊢
  induction entries generalizing l with
  | nil => simp
  | cons e es ih =>
    rw [List.map_cons, List.map_cons, List.nodup_cons] at hnodup
    have hhead : l.get? e.1.key = none := hnew e (by simp)
    rw [List.foldl_cons, ih hnodup.2]
    · rw [Ledger.get?_enter, hhead, Option.getD_none]
      constructor
      · rintro (h | ⟨j, hj, rfl⟩)
        · split at h
          next hk => exact Or.inr ⟨e.1, by simpa using Or.inl (by rw [← Option.some.inj h]), hk⟩
          next => exact Or.inl h
        · exact Or.inr ⟨j, List.mem_cons_of_mem _ hj, rfl⟩
      · rintro (h | ⟨j, hj, rfl⟩)
        · have hk : e.1.key ≠ k := by
            rintro rfl
            simp [hhead] at h
          exact Or.inl (by rw [if_neg hk]; exact h)
        · rcases List.mem_cons.mp hj with rfl | hj
          · exact Or.inl (by rw [if_pos rfl])
          · exact Or.inr ⟨j, hj, rfl⟩
    -- the keys differ, so entering this result leaves the others unknown
    · intro f hf
      have hne : e.1.key ≠ f.1.key := fun h =>
        hnodup.1 (h ▸ List.mem_map_of_mem (List.mem_map_of_mem hf))
      rw [Ledger.get?_enter, if_neg hne]
      exact hnew f (List.mem_cons_of_mem _ hf)

end Survey

namespace Bench

variable {σ : Type} {b : Bench σ} {s s' : Scene σ} {j : Job} {stage next : Stage}
  {es : List Deed}

/-- A task takes up no job; it logs its own when it finishes, and only then. -/
theorem TaskMove.logs_own (h : b.TaskMove s j stage es next s') :
    takes es = [] ∧
      (∀ i r t, .logged i r t ∈ es → i = j ∧ next = .finished r) ∧
      (∀ r, next = .finished r → ∃ t, .logged j r t ∈ es) := by
  cases h with
  | @logs r log files hrec =>
    refine ⟨rfl, fun i r' t hi => ?_, fun r' hr => ⟨b.clock s.readings, ?_⟩⟩
    · simp only [List.mem_singleton, Deed.logged.injEq] at hi
      obtain ⟨rfl, rfl, -⟩ := hi
      exact ⟨rfl, rfl⟩
    · simp only [Stage.finished.injEq] at hr
      simp [hr]
  | _ =>
    refine ⟨rfl, fun i r t hi => ?_, fun r hr => ?_⟩
    · simp at hi
    · simp at hr

/-- A task that is over takes no step. -/
theorem TaskMove.not_finished (h : b.TaskMove s j stage es next s') (r : JobResult) :
    stage ≠ .finished r := by
  cases h <;> simp

end Bench

namespace Progress

variable {σ : Type}

/-- The tasks that run. -/
def tasks (p : Progress σ) : List (Job × Stage) := (p.active.map Active.running).getD []

theorem tasks_of_active {p : Progress σ} {a : Active} (h : p.active = some a) : p.tasks = a.running := by
  unfold tasks
  rw [h]
  rfl

theorem tasks_of_idle {p : Progress σ} (h : p.active = none) : p.tasks = [] := by
  unfold tasks
  rw [h]
  rfl

/-- What was done agrees with where the tasks are and with the ledger. -/
structure Courses (plan : Plan) (ds : List Deed) (p : Progress σ) : Prop where
  unseen : ∀ j ∈ takes ds, j.domain ∉ p.pending
  member : ∀ j ∈ takes ds, j.domain ∈ plan.domains ∧ j.unit ∈ plan.units
  current : ∀ a, p.active = some a →
    ∀ j ∈ takes ds, j.domain = a.domain → j ∈ takes (Deed.current ds)
  keys : ((takes ds).map (·.key)).Nodup
  placed : p.failure = none →
    (launches ds).Perm (p.tasks.map (·.1) ++ (collections ds).map (·.1))
  entered : ∀ k r, p.ledger.get? k = some r ↔
    ∃ j, j.key = k ∧ (.collected j r ∈ ds ∨ .resumed j r ∈ ds)
  logged : ∀ j r, .collected j r ∈ ds ∨ (j, .finished r) ∈ p.tasks → ∃ t, .logged j r t ∈ ds
  settled : p.failure = none → ∀ j r t, .logged j r t ∈ ds →
    .collected j r ∈ ds ∨ (j, .finished r) ∈ p.tasks

namespace Courses

variable {b : Bench σ} {plan : Plan} {done : CompletionLog.Completions} {ds es : List Deed}
  {p q : Progress σ}

theorem start (plan : Plan) (scene : Scene σ) : Courses plan [] (Progress.start plan scene) where
  unseen j hj := by simp [takes] at hj
  member j hj := by simp [takes] at hj
  current a ha := by simp [Progress.start] at ha
  keys := List.nodup_nil
  placed _ := by simp [launches, collections, tasks, Progress.start]
  entered k r := by simp [Progress.start]
  logged j r h := by simp [tasks, Progress.start] at h
  settled _ j r t h := by simp at h

/-- A job with the key of a job that was taken up is that job. -/
theorem eq_of_key (h : Courses plan ds p) {i j : Job} (hi : i ∈ takes ds) (hj : j ∈ takes ds)
    (hk : i.key = j.key) : i = j :=
  List.inj_on_of_nodup_map h.keys hi hj hk

theorem mem_takes_of_task (h : Courses plan ds p) (hf : p.failure = none) {j : Job}
    {stage : Stage} (hj : (j, stage) ∈ p.tasks) : j ∈ takes ds := by
  refine mem_takes.mpr (Or.inl (mem_launches.mp ?_))
  rw [(h.placed hf).mem_iff, List.mem_append]
  exact Or.inl (List.mem_map_of_mem hj)

theorem mem_takes_of_collected (h : Courses plan ds p) (hf : p.failure = none) {j : Job}
    {r : JobResult} (hj : .collected j r ∈ ds) : j ∈ takes ds := by
  refine mem_takes.mpr (Or.inl (mem_launches.mp ?_))
  rw [(h.placed hf).mem_iff, List.mem_append]
  exact Or.inr (List.mem_map.mpr ⟨(j, r), mem_collections.mpr hj, rfl⟩)

/-- The tasks and the executed jobs are all different, and none was resumed. -/
theorem nodup_placed (h : Courses plan ds p) (hf : p.failure = none) :
    (((p.tasks.map (·.1) ++ (collections ds).map (·.1)) ++
      (resumptions ds).map (·.1)).map (·.key)).Nodup := by
  have hperm := ((takes_perm ds).trans ((h.placed hf).append_right _)).map Job.key
  exact hperm.nodup_iff.mp h.keys

/-- A task whose job has the key of an executed job cannot be. -/
theorem not_entered_of_task (h : Courses plan ds p) (hf : p.failure = none) {j : Job}
    {stage : Stage} (hj : (j, stage) ∈ p.tasks) : p.ledger.get? j.key = none := by
  -- a result would be that of an executed or a resumed job with the key of a running one
  have hnodup := h.nodup_placed hf
  rw [List.append_assoc, List.map_append, List.nodup_append] at hnodup
  cases hget : p.ledger.get? j.key with
  | none => rfl
  | some r =>
    obtain ⟨i, hik, hi⟩ := (h.entered j.key r).mp hget
    refine absurd hik.symm (hnodup.2.2 j.key ?_ i.key ?_)
    · exact List.mem_map_of_mem (List.mem_map_of_mem hj)
    · rw [List.map_append, List.mem_append]
      rcases hi with hi | hi
      · exact Or.inl (List.mem_map_of_mem
          (List.mem_map_of_mem (f := (·.1)) (mem_collections.mpr hi)))
      · exact Or.inr (List.mem_map_of_mem
          (List.mem_map_of_mem (f := (·.1)) (mem_resumptions.mpr hi)))

/-- No job of a domain that is still to be begun was taken up. -/
theorem domain_ne_of_pending (h : Courses plan ds p) {d : Domain} {rest : List Domain}
    (hp : p.pending = d :: rest) {j : Job} (hj : j ∈ takes ds) : j.domain ≠ d := by
  rintro rfl
  exact h.unseen j hj (by rw [hp]; exact List.mem_cons_self)

/-- The ledger has no result of a domain that is still to be begun. -/
theorem not_entered_of_pending (h : Courses plan ds p) (hf : p.failure = none) {d : Domain}
    {rest : List Domain} (hp : p.pending = d :: rest) {j : Job} (hj : j.domain = d) :
    p.ledger.get? j.key = none := by
  cases hget : p.ledger.get? j.key with
  | none => rfl
  | some r =>
    obtain ⟨i, hkey, hi⟩ := (h.entered j.key r).mp hget
    have hmem : i ∈ takes ds := by
      rcases hi with hi | hi
      · exact h.mem_takes_of_collected hf hi
      · exact mem_takes.mpr (Or.inr ⟨r, hi⟩)
    have hdomain : i.domain = j.domain := congrArg JobKey.domain hkey
    exact absurd (hdomain.trans hj) (h.domain_ne_of_pending hp hmem)

section Begins

variable {d : Domain} {rest : List Domain} {w : Workspace}

/-- Beginning a domain collects nothing. -/
theorem collected_of_begins {s : Survey} {j : Job} {r : JobResult}
    (hj : .collected j r ∈ ds ++ .began d :: s.resumed.map fun (j, r) => .resumed j r) :
    .collected j r ∈ ds := by
  rcases List.mem_append.mp hj with hj | hj
  · exact hj
  · obtain heq | ⟨_, _, -, heq⟩ := Survey.mem_deeds.mp hj <;> simp at heq

theorem mem_takes_of_begins {s : Survey} {j : Job} :
    j ∈ takes (ds ++ .began d :: s.resumed.map fun (j, r) => .resumed j r) ↔
      j ∈ takes ds ∨ ∃ r, (j, r) ∈ s.resumed := by
  have htakes : takes (Deed.began d :: s.resumed.map fun (j, r) => .resumed j r) =
      s.resumed.map (·.1) := s.takes_resumed
  rw [takes_append, htakes, List.mem_append, List.mem_map]
  simp

/-- The ledger holds what it held, and the results that the survey found. -/
theorem entered_of_begins (h : Courses plan ds p) (hf : p.failure = none)
    (hidx : (plan.units.map (·.index)).Nodup) (hp : p.pending = d :: rest) (k : JobKey)
    (r : JobResult) :
    ((Survey.take w b.layout done plan.units d).enter p.ledger).get? k = some r ↔
      ∃ j, j.key = k ∧ (.collected j r ∈ ds ++ .began d :: (Survey.take w b.layout done plan.units
          d).resumed.map (fun (j, r) => Deed.resumed j r) ∨
        .resumed j r ∈ ds ++ .began d :: (Survey.take w b.layout done plan.units
          d).resumed.map fun (j, r) => Deed.resumed j r) := by
  have hunknown : ∀ e ∈ (Survey.take w b.layout done plan.units d).resumed,
      p.ledger.get? e.1.key = none := fun e he =>
    h.not_entered_of_pending hf hp (mem_jobsOf.mp (Survey.mem_take_resumed.mp he).1).1
  rw [Survey.get?_enter _ (Survey.nodup_resumed hidx d) hunknown, h.entered]
  constructor
  · rintro (⟨j, hk, hj⟩ | ⟨j, hj, hk⟩)
    · exact ⟨j, hk, hj.imp (List.mem_append_left _) (List.mem_append_left _)⟩
    · exact ⟨j, hk, Or.inr (List.mem_append_right _ (Survey.resumed_mem_deeds.mpr hj))⟩
  · rintro ⟨j, hk, hj | hj⟩
    · exact Or.inl ⟨j, hk, Or.inl (collected_of_begins hj)⟩
    · rcases List.mem_append.mp hj with hj | hj
      · exact Or.inl ⟨j, hk, Or.inr hj⟩
      · exact Or.inr ⟨j, Survey.resumed_mem_deeds.mp hj, hk⟩

/-- What the survey of a new domain finds was not taken up before. -/
theorem begins (h : Courses plan ds p) (ho : Orderly b plan ds p) (hf : p.failure = none)
    (hidx : (plan.units.map (·.index)).Nodup) (hdom : plan.domains.Nodup)
    (ha : p.active = none) (hp : p.pending = d :: rest)
    (hq : q.ledger = (Survey.take w b.layout done plan.units d).enter p.ledger)
    (hpend : q.pending = rest) (htasks : q.tasks = [])
    (hact : ∀ a, q.active = some a → a.domain = d) :
    Courses plan (ds ++ .began d :: (Survey.take w b.layout done plan.units d).resumed.map
      fun (j, r) => .resumed j r) q := by
  set s := Survey.take w b.layout done plan.units d
  have hidle : p.tasks = [] := tasks_of_idle ha
  have hjob : ∀ {j r}, (j, r) ∈ s.resumed → j.domain = d ∧ j.unit ∈ plan.units := fun hj =>
    mem_jobsOf.mp (Survey.mem_take_resumed.mp hj).1
  refine ⟨fun j hj => ?_, fun j hj => ?_, fun a ha' j hj hja => ?_, ?_, fun _ => ?_,
    fun k r => ?_, fun j r hj => ?_, fun _ j r t hj => ?_⟩
  · rw [hpend]
    rcases mem_takes_of_begins.mp hj with hj | ⟨r, hj⟩
    · have hunseen := h.unseen j hj
      rw [hp, List.mem_cons, not_or] at hunseen
      exact hunseen.2
    · rw [(hjob hj).1]
      exact ho.not_mem_rest hf hdom hp
  · rcases mem_takes_of_begins.mp hj with hj | ⟨r, hj⟩
    · exact h.member j hj
    · exact ⟨(hjob hj).1 ▸ ho.mem_domains_of_pending hf hp, (hjob hj).2⟩
  · rw [current_append_began _ _ _ (Survey.isBegan_of_mem_resumed s), s.takes_resumed]
    rcases mem_takes_of_begins.mp hj with hj | ⟨r, hj⟩
    · exact absurd (hja.trans (hact a ha')) (h.domain_ne_of_pending hp hj)
    · exact List.mem_map_of_mem (f := (·.1)) hj
  · -- a key names its domain, so new jobs and old ones differ
    have htakes : takes (Deed.began d :: s.resumed.map fun (j, r) => .resumed j r) =
        s.resumed.map (·.1) := s.takes_resumed
    rw [takes_append, htakes, List.map_append, List.nodup_append]
    refine ⟨h.keys, Survey.nodup_resumed hidx d, ?_⟩
    rintro k hk k' hk' rfl
    obtain ⟨j, hj, rfl⟩ := List.mem_map.mp hk
    obtain ⟨i, hi, hik⟩ := List.mem_map.mp hk'
    obtain ⟨e, he, rfl⟩ := List.mem_map.mp hi
    have hdomain : e.1.domain = j.domain := congrArg JobKey.domain hik
    exact h.domain_ne_of_pending hp hj (hdomain.symm.trans (hjob (r := e.2) he).1)
  · have hplaced := h.placed hf
    have hlau : launches (Deed.began d :: s.resumed.map fun (j, r) => .resumed j r) = [] :=
      s.launches_of_resumed
    have hcolls : collections (Deed.began d :: s.resumed.map fun (j, r) => .resumed j r) = [] :=
      s.collections_of_resumed
    rw [launches_append, collections_append, hlau, hcolls, htasks]
    rw [hidle] at hplaced
    simpa using hplaced
  · rw [hq]
    exact h.entered_of_begins hf hidx hp k r
  · rw [htasks] at hj
    simp only [List.not_mem_nil, or_false] at hj
    obtain ⟨t, ht⟩ := h.logged j r (Or.inl (collected_of_begins hj))
    exact ⟨t, List.mem_append_left _ ht⟩
  · rw [htasks]
    rcases List.mem_append.mp hj with hj | hj
    · rcases h.settled hf j r t hj with hc | hc
      · exact Or.inl (List.mem_append_left _ hc)
      · simp [hidle] at hc
    · rw [← mem_completions, s.completions_of_deeds] at hj
      simp at hj

end Begins

/-- A job that waits was not taken up: those that were taken up for its domain run, were executed
or were resumed. -/
theorem key_ne_of_queue (h : Courses plan ds p) (ho : Orderly b plan ds p)
    (hidx : (plan.units.map (·.index)).Nodup) {a : Active} {i j : Job} (ha : p.active = some a)
    (hj : j ∈ a.queue) (hi : i ∈ takes ds) : i.key ≠ j.key := by
  have hacc := ho.account a ha
  have hdom : j.domain = a.domain := by
    have hmem : j ∈ jobsOf plan.units a.domain := by
      rw [hacc.jobs.mem_iff]
      exact List.mem_append_left _ hj
    exact (mem_jobsOf.mp hmem).1
  intro hk
  -- a job with the same key would belong to this domain and be accounted for twice
  have hcur := h.current a ha i hi ((congrArg JobKey.domain hk).trans hdom)
  have hnodup := nodup_jobsOf hidx a.domain
  rw [(hacc.jobs.map Job.key).nodup_iff, List.map_append, List.nodup_append] at hnodup
  refine hnodup.2.2 j.key (List.mem_map_of_mem hj) i.key (List.mem_map_of_mem ?_) hk.symm
  rw [(takes_perm _).mem_iff, List.mem_append, hacc.launched.mem_iff, List.mem_append] at hcur
  simpa [or_assoc] using hcur

/-- The next job of the queue is launched. -/
theorem launches (h : Courses plan ds p) (ho : Orderly b plan ds p) (hf : p.failure = none)
    (hidx : (plan.units.map (·.index)).Nodup) (hdom : plan.domains.Nodup) {a : Active} {j : Job}
    {rest : List Job} (ha : p.active = some a) (hq : a.queue = j :: rest) :
    Courses plan (ds ++ [.launched j]) (p.launch a j rest) := by
  have hacc := ho.account a ha
  have hj : j ∈ jobsOf plan.units a.domain := by
    rw [hacc.jobs.mem_iff, hq]
    simp
  have htasks : p.tasks = a.running := tasks_of_active ha
  have htasks' : (p.launch a j rest).tasks = a.running ++ [(j, .fresh)] := rfl
  have htakes : takes (ds ++ [.launched j]) = takes ds ++ [j] := by
    rw [takes_append]
    rfl
  have hcur : Deed.current (ds ++ [.launched j]) = Deed.current ds ++ [.launched j] :=
    current_append _ _ (by simp [isBegan])
  -- what waits was not taken up, so the launched job is new
  have hfresh : ∀ i ∈ takes ds, i.key ≠ j.key := fun i =>
    h.key_ne_of_queue ho hidx ha (hq ▸ List.mem_cons_self)
  refine ⟨fun i hi => ?_, fun i hi => ?_, fun a' ha' i hi hd => ?_, ?_, fun _ => ?_,
    fun k r => ?_, fun i r hi => ?_, fun _ i r t hi => ?_⟩
  · rw [htakes, List.mem_append, List.mem_singleton] at hi
    rcases hi with hi | rfl
    · exact h.unseen i hi
    · intro hmem
      have hpend : a.domain ∈ p.pending := (mem_jobsOf.mp hj).1 ▸ hmem
      exact ho.not_mem_pending hf hdom ha hpend
  · rw [htakes, List.mem_append, List.mem_singleton] at hi
    rcases hi with hi | rfl
    · exact h.member i hi
    · exact ⟨(mem_jobsOf.mp hj).1 ▸ ho.mem_domains hf ha, (mem_jobsOf.mp hj).2⟩
  · have hdom : a'.domain = a.domain := by
      simp only [launch, Option.some.injEq] at ha'
      rw [← ha']
    rw [hcur, takes_append, List.mem_append]
    rw [htakes, List.mem_append] at hi
    exact hi.imp (fun hi => h.current a ha i hi (hd.trans hdom)) id
  · rw [htakes, List.map_append, List.nodup_append]
    refine ⟨h.keys, by simp, ?_⟩
    rintro k hk k' hk' rfl
    obtain ⟨i, hi, rfl⟩ := List.mem_map.mp hk
    exact hfresh i hi (by simpa using hk')
  · have hplaced := h.placed hf
    rw [htasks] at hplaced
    have hcol : collections (ds ++ [.launched j]) = collections ds := by
      simp [collections, collected?]
    have hlau : Deed.launches (ds ++ [.launched j]) = Deed.launches ds ++ [j] := by
      simp [Deed.launches, launched?]
    rw [hcol, hlau, htasks', List.map_append, List.append_assoc]
    refine (hplaced.append_right [j]).trans ?_
    rw [List.append_assoc]
    exact List.Perm.append_left _ List.perm_append_comm
  · have hledger : (p.launch a j rest).ledger = p.ledger := rfl
    rw [hledger, h.entered]
    simp
  · rw [htasks', List.mem_append] at hi
    have hold : .collected i r ∈ ds ∨ (i, .finished r) ∈ p.tasks := by
      rw [htasks]
      simpa using hi
    obtain ⟨t, ht⟩ := h.logged i r hold
    exact ⟨t, List.mem_append_left _ ht⟩
  · have hi' : .logged i r t ∈ ds := by simpa using hi
    rw [htasks', List.mem_append, List.mem_append]
    have hold := h.settled hf i r t hi'
    rw [htasks] at hold
    exact hold.imp Or.inl Or.inl

/-- A step of a task takes nothing up, and logs only its own job. -/
theorem advances (h : Courses plan ds p) (hf : p.failure = none) {a : Active} {place : Nat}
    {j : Job} {stage next : Stage} {scene : Scene σ} (ha : p.active = some a)
    (hr : a.running[place]? = some (j, stage))
    (hstep : b.TaskMove p.scene j stage es next scene) :
    Courses plan (ds ++ es)
      { p with scene, active := some { a with running := a.running.set place (j, next) } } := by
  set q : Progress σ :=
    { p with scene, active := some { a with running := a.running.set place (j, next) } }
  obtain ⟨htakes, hown, hfinish⟩ := hstep.logs_own
  obtain ⟨hlau, hcol, -⟩ := hstep.enters_nothing
  have htasks : p.tasks = a.running := tasks_of_active ha
  have htasks' : q.tasks = a.running.set place (j, next) := rfl
  obtain ⟨hlt, hget⟩ := List.getElem?_eq_some_iff.mp hr
  have hcollected : ∀ {i r}, .collected i r ∈ ds ++ es ↔ .collected i r ∈ ds := by
    intro i r
    rw [← mem_collections, ← mem_collections, collections_append, hcol, List.append_nil]
  -- of all tasks only the one at the place changes its stage
  have hset : ∀ {e}, e ∈ a.running.set place (j, next) → e = (j, next) ∨ e ∈ a.running :=
    fun he => (List.mem_or_eq_of_mem_set he).symm
  have hjobs : (a.running.set place (j, next)).map (·.1) = a.running.map (·.1) :=
    map_set_eq hr rfl
  refine ⟨fun i hi => ?_, fun i hi => ?_, fun a' ha' i hi hd => ?_, ?_, fun _ => ?_,
    fun k r => ?_, fun i r hi => ?_, fun _ i r t hi => ?_⟩
  · rw [takes_append, htakes, List.append_nil] at hi
    exact h.unseen i hi
  · rw [takes_append, htakes, List.append_nil] at hi
    exact h.member i hi
  · have hdom : a'.domain = a.domain := by
      simp only [q, Option.some.injEq] at ha'
      rw [← ha']
    rw [current_append _ _ fun e he => hstep.isBegan_of_mem he, takes_append, htakes,
      List.append_nil]
    rw [takes_append, htakes, List.append_nil] at hi
    exact h.current a ha i hi (hd.trans hdom)
  · rw [takes_append, htakes, List.append_nil]
    exact h.keys
  · rw [launches_append, collections_append, hlau, hcol, List.append_nil, List.append_nil,
      htasks', hjobs, ← htasks]
    exact h.placed hf
  · have hresumed : ∀ {i}, .resumed i r ∈ ds ++ es ↔ .resumed i r ∈ ds := by
      intro i
      rw [← mem_resumptions, ← mem_resumptions, resumptions_append, hstep.enters_nothing.2.2,
        List.append_nil]
    have hledger : q.ledger = p.ledger := rfl
    rw [hledger, h.entered]
    simp only [hcollected, hresumed]
  · rw [hcollected, htasks'] at hi
    have hcase : (.collected i r ∈ ds ∨ (i, .finished r) ∈ p.tasks) ∨
        (i, Stage.finished r) = (j, next) := by
      rcases hi with hi | hi
      · exact Or.inl (Or.inl hi)
      · rcases hset hi with heq | hi
        · exact Or.inr heq
        · exact Or.inl (Or.inr (htasks ▸ hi))
    rcases hcase with hold | heq
    · obtain ⟨t, ht⟩ := h.logged i r hold
      exact ⟨t, List.mem_append_left _ ht⟩
    · rw [Prod.mk.injEq] at heq
      obtain ⟨t, ht⟩ := hfinish r heq.2.symm
      exact ⟨t, List.mem_append_right _ (heq.1 ▸ ht)⟩
  · rw [hcollected, htasks']
    rcases List.mem_append.mp hi with hi | hi
    · refine (h.settled hf i r t hi).imp id fun hold => ?_
      rw [htasks] at hold
      -- a finished task takes no step, so it stands at another place
      obtain ⟨n, hn, hget'⟩ := List.mem_iff_getElem.mp hold
      have hne : place ≠ n := by
        rintro rfl
        rw [hget, Prod.mk.injEq] at hget'
        exact hstep.not_finished r hget'.2
      refine List.mem_iff_getElem.mpr ⟨n, by simpa using hn, ?_⟩
      rw [List.getElem_set_ne hne, hget']
    · obtain ⟨rfl, rfl⟩ := hown i r t hi
      exact Or.inr (List.mem_set hlt _)

/-- A job that is collected ran, was logged, and is new to the ledger. -/
theorem collects (h : Courses plan ds p) (hf : p.failure = none) {a : Active} {place : Nat}
    {j : Job} {r : JobResult} (ha : p.active = some a)
    (hr : a.running[place]? = some (j, .finished r)) :
    Courses plan (ds ++ [.collected j r])
      { p with
        ledger := p.ledger.enter j.key r
        active := some { a with
          running := a.running.eraseIdx place
          stats := { a.stats with executed := a.stats.executed + 1 } } } := by
  set q : Progress σ :=
    { p with
      ledger := p.ledger.enter j.key r
      active := some { a with
        running := a.running.eraseIdx place
        stats := { a.stats with executed := a.stats.executed + 1 } } }
  have htasks : p.tasks = a.running := tasks_of_active ha
  have htasks' : q.tasks = a.running.eraseIdx place := rfl
  have hmem : (j, Stage.finished r) ∈ p.tasks := htasks ▸ List.mem_of_getElem? hr
  have htakes : takes (ds ++ [.collected j r]) = takes ds := by
    rw [takes_append]
    exact List.append_nil _
  -- the task leaves its place
  have hperm : (a.running.map (·.1)).Perm (j :: (a.running.eraseIdx place).map (·.1)) :=
    (perm_eraseIdx hr).map (·.1)
  refine ⟨fun i hi => h.unseen i (htakes ▸ hi), fun i hi => h.member i (htakes ▸ hi),
    fun a' ha' i hi hd => ?_, by rw [htakes]; exact h.keys, fun _ => ?_, fun k r' => ?_,
    fun i r' hi => ?_, fun _ i r' t hi => ?_⟩
  · have hdom : a'.domain = a.domain := by
      simp only [q, Option.some.injEq] at ha'
      rw [← ha']
    rw [current_append _ _ (by simp [isBegan]), takes_append, List.mem_append]
    exact Or.inl (h.current a ha i (htakes ▸ hi) (hd.trans hdom))
  · have hplaced := h.placed hf
    have hcol : collections (ds ++ [.collected j r]) = collections ds ++ [(j, r)] := by
      simp [collections, collected?]
    have hlau : Deed.launches (ds ++ [.collected j r]) = Deed.launches ds := by
      simp [Deed.launches, launched?]
    rw [htasks] at hplaced
    rw [hcol, hlau, htasks', List.map_append, ← List.append_assoc]
    refine hplaced.trans ((hperm.append_right _).trans ?_)
    exact (List.perm_append_singleton j _).symm
  -- the write-once ledger takes the result because it has none for the job
  · have hnone := h.not_entered_of_task hf hmem
    rw [show q.ledger = p.ledger.enter j.key r from rfl, Ledger.get?_enter, hnone,
      Option.getD_none]
    simp only [List.mem_append, List.mem_singleton, Deed.collected.injEq, reduceCtorEq, or_false]
    by_cases hk : j.key = k
    · rw [if_pos hk, Option.some.injEq]
      constructor
      · rintro rfl
        exact ⟨j, hk, Or.inl (Or.inr ⟨rfl, rfl⟩)⟩
      · rintro ⟨i, hik, (hi | ⟨rfl, rfl⟩) | hi⟩
        · have := (h.entered k r').mpr ⟨i, hik, Or.inl hi⟩
          simp [← hk, hnone] at this
        · rfl
        · have := (h.entered k r').mpr ⟨i, hik, Or.inr hi⟩
          simp [← hk, hnone] at this
    · rw [if_neg hk, h.entered]
      constructor
      · rintro ⟨i, hik, hi⟩
        exact ⟨i, hik, hi.imp Or.inl id⟩
      · rintro ⟨i, hik, (hi | ⟨rfl, rfl⟩) | hi⟩
        · exact ⟨i, hik, Or.inl hi⟩
        · exact absurd hik hk
        · exact ⟨i, hik, Or.inr hi⟩
  · have hcase : .collected i r' ∈ ds ∨ (i, .finished r') ∈ p.tasks := by
      rw [htasks', List.mem_append, List.mem_singleton, Deed.collected.injEq] at hi
      rcases hi with (hi | ⟨rfl, rfl⟩) | hi
      · exact Or.inl hi
      · exact Or.inr hmem
      · exact Or.inr (htasks ▸ List.mem_of_mem_eraseIdx hi)
    obtain ⟨t, ht⟩ := h.logged i r' hcase
    exact ⟨t, List.mem_append_left _ ht⟩
  · have hi' : .logged i r' t ∈ ds := by simpa using hi
    rw [htasks', List.mem_append, List.mem_singleton, Deed.collected.injEq]
    rcases h.settled hf i r' t hi' with hold | hold
    · exact Or.inl (Or.inl hold)
    · rw [htasks] at hold
      obtain ⟨hlt, hget⟩ := List.getElem?_eq_some_iff.mp hr
      obtain ⟨n, hn, hget'⟩ := List.mem_iff_getElem.mp hold
      by_cases hne : n = place
      · subst hne
        rw [hget, Prod.mk.injEq, Stage.finished.injEq] at hget'
        exact Or.inl (Or.inr ⟨hget'.1.symm, hget'.2.symm⟩)
      · exact Or.inr (List.mem_eraseIdx_iff_getElem.mpr ⟨n, hn, hne, hget'⟩)

/-- Every step keeps the courses of the jobs. -/
theorem move (h : Courses plan ds p) (ho : Orderly b plan ds p) (hf : p.failure = none)
    (hidx : (plan.units.map (·.index)).Nodup) (hdom : plan.domains.Nodup)
    (hm : Move b plan done p es q) : Courses plan (ds ++ es) q := by
  cases hm with
  | begins ha hp hs hprep =>
    subst hs
    exact h.begins ho hf hidx hdom ha hp rfl rfl rfl fun a ha => by
      rw [Option.some.injEq] at ha
      rw [← ha]
  | stumbles ha hp hs hprep =>
    subst hs
    exact h.begins ho hf hidx hdom ha hp rfl rfl (by simp [tasks, ha]) fun a ha' => by
      simp [ha] at ha'
  | launches ha hq hw => exact h.launches ho hf hidx hdom ha hq
  | advances ha hr hstep => exact h.advances hf ha hr hstep
  | collects ha hr => exact h.collects hf ha hr
  | breaks ha hr =>
    rw [List.append_nil]
    exact ⟨h.unseen, h.member, fun a ha' => by simp at ha', h.keys, fun hfail => by simp at hfail,
      h.entered, fun j r hj => h.logged j r (hj.imp id fun hj => by simp [tasks] at hj),
      fun hfail => by simp at hfail⟩
  | closes ha hq hr =>
    rw [List.append_nil]
    have htasks : p.tasks = [] := by simp [tasks, ha, hr]
    refine ⟨h.unseen, h.member, fun a ha' => by simp [closeDomain] at ha', h.keys, fun _ => ?_,
      h.entered,
      fun j r hj => h.logged j r (hj.imp id fun hj => by simp [tasks, closeDomain] at hj),
      fun _ j r t hj => Or.inl ?_⟩
    · have hplaced := h.placed hf
      rw [htasks] at hplaced
      exact hplaced
    · rcases h.settled hf j r t hj with hc | hc
      · exact hc
      · simp [htasks] at hc

end Courses

theorem courses_of_follows {b : Bench σ} {plan : Plan} {done : CompletionLog.Completions}
    {ds : List Deed} {p : Progress σ} {scene : Scene σ}
    (hidx : (plan.units.map (·.index)).Nodup) (hdom : plan.domains.Nodup)
    (h : Follows b plan done (start plan scene) ds p) : Courses plan ds p :=
  h.induct (Courses.start plan scene) fun hq hf hm ih =>
    ih.move (orderly_of_follows hq) hf hidx hdom hm

end Progress

end Signoff
