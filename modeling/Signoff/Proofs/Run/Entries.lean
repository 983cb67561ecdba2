import Signoff.Proofs.Run.Courses
import Signoff.Proofs.Run.Frame

/-!
# What is entered was recorded and logged

A result in the ledger is that of a job which was resumed or executed (`source_of_follows`).  When
an executed job is entered, its record has been in its file and its line has been logged, in this
order (`booked_of_follows`).  Nothing is assumed about the plan or the place of the log, so either
may be gone at a later point.
-/

namespace Signoff

open Workspace Deed

/-! ## Where results come from -/

namespace Progress

variable {σ : Type} {b : Bench σ} {plan : Plan} {done : CompletionLog.Completions}
  {ds es : List Deed} {p₀ p q : Progress σ} {scene : Scene σ} {j : Job} {r : JobResult}

theorem source_of_follows (h : Follows b plan done (start plan scene) ds p) {k : JobKey}
    (hk : p.ledger.get? k = some r) :
    ∃ j, j.key = k ∧ (.collected j r ∈ ds ∨ .resumed j r ∈ ds) := by
  refine h.induct (motive := fun ds p => p.ledger.get? k = some r →
    ∃ j, j.key = k ∧ (.collected j r ∈ ds ∨ .resumed j r ∈ ds)) (fun h0 => ?_) ?_ hk
  · rw [start, Ledger.get?_empty] at h0
    cases h0
  intro ds es p q _ _ hm ih hq
  have hold : p.ledger.get? k = some r →
      ∃ j, j.key = k ∧ (.collected j r ∈ ds ++ es ∨ .resumed j r ∈ ds ++ es) := by
    intro hp
    obtain ⟨j, hj, hmem⟩ := ih hp
    exact ⟨j, hj, hmem.imp (List.mem_append_left _) (List.mem_append_left _)⟩
  have hsurvey : ∀ {s : Survey}, (s.enter p.ledger).get? k = some r →
      (∀ j, (j, r) ∈ s.resumed → .resumed j r ∈ es) →
      ∃ j, j.key = k ∧ (.collected j r ∈ ds ++ es ∨ .resumed j r ∈ ds ++ es) := by
    intro s hs hdeeds
    rcases s.source_of_enter hs with hp | ⟨j, hj, hmem⟩
    · exact hold hp
    · exact ⟨j, hj, Or.inr (List.mem_append_right _ (hdeeds j hmem))⟩
  -- only a survey and a collection enter results
  cases hm with
  | begins ha hp hs hprep => exact hsurvey hq fun j => Survey.resumed_mem_deeds.mpr
  | stumbles ha hp hs hprep => exact hsurvey hq fun j => Survey.resumed_mem_deeds.mpr
  | @collects a place i r' ha hr =>
    rw [Ledger.get?_enter] at hq
    split at hq
    next hik =>
      cases hp : p.ledger.get? i.key with
      | some r₀ =>
        rw [hp, Option.getD_some] at hq
        exact hold (by rw [← hik, hp, hq])
      | none =>
        rw [hp, Option.getD_none, Option.some.injEq] at hq
        exact ⟨i, hik, Or.inl (by rw [hq]; simp)⟩
    next => exact hold hq
  | launches => exact hold hq
  | advances => exact hold hq
  | breaks => exact hold hq
  | closes => exact hold hq

/-! ## Points on the way -/

/-- On the way to `p` there was a point at which the record of the result was in the file of the
job.  What was done behind it is as the predicate says. -/
def WasRecorded (b : Bench σ) (plan : Plan) (done : CompletionLog.Completions) (p₀ : Progress σ)
    (j : Job) (r : JobResult) (behind : List Deed → Prop) (ds : List Deed) (p : Progress σ) :
    Prop :=
  ∃ before after u, ds = before ++ after ∧ Follows b plan done p₀ before u ∧
    Follows b plan done u after p ∧
    u.scene.files.readText (b.layout.recordPath j) = .ok (Record.lineOf r) ∧ behind after

/-- What leads to one progress and on to the next one. -/
def Extends (b : Bench σ) (plan : Plan) (done : CompletionLog.Completions) (p : Progress σ)
    (es : List Deed) (q : Progress σ) : Prop :=
  ∀ {u after}, Follows b plan done u after p → Follows b plan done u (after ++ es) q

theorem WasRecorded.extend {behind behind' : List Deed → Prop}
    (h : WasRecorded b plan done p₀ j r behind ds p) (hs : Extends b plan done p es q)
    (hnext : ∀ after, behind after → behind' (after ++ es)) :
    WasRecorded b plan done p₀ j r behind' (ds ++ es) q := by
  obtain ⟨before, after, u, rfl, hbefore, hafter, hread, hbehind⟩ := h
  exact ⟨before, _, u, List.append_assoc _ _ _, hbefore, hs hafter, hread, hnext _ hbehind⟩

def IsLogged (j : Job) (r : JobResult) (ds : List Deed) : Prop := ∃ t, .logged j r t ∈ ds

/-- The job was logged and then entered. -/
def IsEntered (j : Job) (r : JobResult) (ds : List Deed) : Prop :=
  ∃ front back, ds = front ++ back ∧ IsLogged j r front ∧ .collected j r ∈ back

theorem IsLogged.append (h : IsLogged j r ds) : IsLogged j r (ds ++ es) := by
  obtain ⟨t, ht⟩ := h
  exact ⟨t, List.mem_append_left _ ht⟩

theorem IsEntered.append (h : IsEntered j r ds) : IsEntered j r (ds ++ es) := by
  obtain ⟨front, back, rfl, hlogged, hcollected⟩ := h
  exact ⟨front, back ++ es, List.append_assoc _ _ _, hlogged, List.mem_append_left _ hcollected⟩

/-- The books on the jobs whose tasks are past recording and on those that were entered. -/
structure Booked (b : Bench σ) (plan : Plan) (done : CompletionLog.Completions)
    (p₀ : Progress σ) (ds : List Deed) (p : Progress σ) : Prop where
  recorded : ∀ j r, (j, .recorded r) ∈ p.tasks →
    WasRecorded b plan done p₀ j r (fun _ => True) ds p
  finished : ∀ j r, (j, .finished r) ∈ p.tasks →
    WasRecorded b plan done p₀ j r (IsLogged j r) ds p
  entered : ∀ j r, .collected j r ∈ ds →
    WasRecorded b plan done p₀ j r (IsEntered j r) ds p

namespace Booked

/-- A step that takes no task further and enters nothing. -/
theorem idle (h : Booked b plan done p₀ ds p) (hs : Extends b plan done p es q)
    (htasks : ∀ j stage, (j, stage) ∈ q.tasks → stage = .fresh ∨ (j, stage) ∈ p.tasks)
    (hes : collections es = []) : Booked b plan done p₀ (ds ++ es) q where
  recorded j r hj :=
    (h.recorded j r ((htasks j _ hj).resolve_left (by simp))).extend hs fun _ => id
  finished j r hj :=
    (h.finished j r ((htasks j _ hj).resolve_left (by simp))).extend hs fun _ => IsLogged.append
  entered j r hj := by
    rw [← mem_collections, collections_append, hes, List.append_nil, mem_collections] at hj
    exact (h.entered j r hj).extend hs fun _ => IsEntered.append

/-- The task of a job takes a step: a new record can be read at once, and a new line is that of a
job with a record. -/
theorem advances {a : Active} {n : Nat} {i : Job} {stage next : Stage} {s : Scene σ}
    (h : Booked b plan done p₀ ds p) (hfol : Follows b plan done p₀ ds p)
    (ha : p.active = some a) (hr : a.running[n]? = some (i, stage)) (hw : p.scene.files.Sound)
    (hprep : ∀ q ∈ b.layout.folders i.domain, p.scene.files.item? q = some .folder)
    (hstep : b.TaskMove p.scene i stage es next s)
    (hs : Extends b plan done p es
      { p with scene := s, active := some { a with running := a.running.set n (i, next) } }) :
    Booked b plan done p₀ (ds ++ es)
      { p with scene := s, active := some { a with running := a.running.set n (i, next) } } := by
  set q : Progress σ :=
    { p with scene := s, active := some { a with running := a.running.set n (i, next) } } with hq
  have hi : (i, stage) ∈ p.tasks := by simpa [tasks, ha] using List.mem_of_getElem? hr
  have htasks : ∀ {e}, e ∈ q.tasks → e = (i, next) ∨ e ∈ p.tasks := by
    intro e he
    simp only [hq, tasks, Option.map_some, Option.getD_some] at he
    simpa [tasks, ha, or_comm] using List.mem_or_eq_of_mem_set he
  refine ⟨fun j r hj => ?_, fun j r hj => ?_, fun j r hj => ?_⟩
  · rcases htasks hj with heq | hold
    · rw [Prod.mk.injEq] at heq
      obtain ⟨rfl, hnext⟩ := heq
      -- only saving leads to this stage
      cases hstep with
      | records hsave =>
        obtain ⟨hleads, hstores⟩ := Record.save_eq_ok hw hprep hsave
        rw [Stage.recorded.injEq] at hnext
        rw [hnext]
        exact ⟨_, [], q, (List.append_nil _).symm, hs hfol, .refl,
          readText_eq_ok_iff.mpr ⟨hleads, hstores.contentAt_here⟩, trivial⟩
      | _ => cases hnext
    · exact (h.recorded j r hold).extend hs fun _ => id
  · rcases htasks hj with heq | hold
    · rw [Prod.mk.injEq] at heq
      obtain ⟨rfl, hnext⟩ := heq
      -- only logging leads to this stage
      cases hstep with
      | logs hlog =>
        rw [Stage.finished.injEq] at hnext
        rw [hnext]
        exact (h.recorded j _ hi).extend hs fun after _ =>
          ⟨_, List.mem_append_right after (List.mem_singleton_self _)⟩
      | _ => cases hnext
    · exact (h.finished j r hold).extend hs fun _ => IsLogged.append
  · rw [← mem_collections, collections_append, hstep.enters_nothing.2.1, List.append_nil,
      mem_collections] at hj
    exact (h.entered j r hj).extend hs fun _ => IsEntered.append

end Booked

theorem booked_of_follows {base : ByteArray} {place : Place} (hw : scene.files.Sound)
    (hk : scene.log.Keeps scene.files place base)
    (h : Follows b plan done (start plan scene) ds p) :
    Booked b plan done (start plan scene) ds p := by
  induction h with
  | refl => exact ⟨by simp [tasks, start], by simp [tasks, start], by simp⟩
  | @step ds p q c hfol hs ih =>
    have hm := move_of_step? hs
    have hf := failure_of_step? hs
    have hext : Extends b plan done p (p.deeds b plan done c) q := fun hu => .step hu hs
    generalize p.deeds b plan done c = es at hm hext ⊢
    -- a task is launched fresh, takes steps, and is entered when it has finished
    cases hm with
    | begins ha hp hsurvey hprep =>
      refine ih.idle hext (by simp [tasks]) ?_
      exact Survey.collections_of_resumed _
    | stumbles ha hp hsurvey hprep =>
      refine ih.idle hext (by simp [tasks, ha]) ?_
      exact Survey.collections_of_resumed _
    | @launches a j rest ha hq hr =>
      refine ih.idle hext (fun i stage hi => ?_) (by simp [collections, collected?])
      simp only [launch, tasks, Option.map_some, Option.getD_some, List.mem_append,
        List.mem_singleton, Prod.mk.injEq] at hi
      exact hi.symm.imp (·.2) fun hi => by simpa [tasks, ha] using hi
    | @advances a n j stage next s es ha hr hstep =>
      have hframed := framed_of_follows hw hk hfol
      have hprep := hframed.prepared_of_running (orderly_of_follows hfol) hf
        (began_of_active hfol hf ha) ha hr
      exact ih.advances hfol ha hr hframed.sound hprep hstep hext
    | @collects a n j r ha hr =>
      have hmem : ∀ i stage, (i, stage) ∈ a.running.eraseIdx n → (i, stage) ∈ p.tasks :=
        fun i stage hi => by simpa [tasks, ha] using List.mem_of_mem_eraseIdx hi
      have hfinished : (j, Stage.finished r) ∈ p.tasks := by
        simpa [tasks, ha] using List.mem_of_getElem? hr
      refine ⟨fun i r' hi => ?_, fun i r' hi => ?_, fun i r' hi => ?_⟩
      · exact (ih.recorded i r' (hmem i _ (by simpa [tasks] using hi))).extend hext fun _ => id
      · refine (ih.finished i r' (hmem i _ (by simpa [tasks] using hi))).extend hext fun _ => ?_
        exact IsLogged.append
      · rcases List.mem_append.mp hi with hold | hnew
        · exact (ih.entered i r' hold).extend hext fun _ => IsEntered.append
        · obtain ⟨rfl, rfl⟩ : i = j ∧ r' = r := by simpa using hnew
          exact (ih.finished i r' hfinished).extend hext fun after hlogged =>
            ⟨after, _, rfl, hlogged, List.mem_singleton_self _⟩
    | breaks ha hr => exact ih.idle hext (by simp [tasks]) rfl
    | closes ha hq hr => exact ih.idle hext (by simp [tasks, closeDomain]) rfl

end Progress

end Signoff
