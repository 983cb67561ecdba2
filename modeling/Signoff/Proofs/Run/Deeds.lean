import Mathlib.Algebra.BigOperators.Group.List.Basic
import Mathlib.Data.List.Perm.Subperm
import Mathlib.Data.Nat.SuccPred
import Signoff.Run.Execute

/-!
# Deeds of a run

What the steps of a run do for its jobs, in the order in which it happens.  `Progress.Follows`
keeps the list of deeds beside the progress that they lead to, so that a statement about every
order of steps can speak of what was launched, called, logged and collected on the way.

`Bench.TaskMove` and `Progress.Move` list what a step of a task and of a run can do, with its
guards; nothing below takes `advance?` or `step?` apart again.
-/

namespace Signoff

/-- What a step does for a domain or a job. -/
inductive Deed
  | began (d : Domain)
  | resumed (j : Job) (r : JobResult)
  | launched (j : Job)
  | called (j : Job) (attempt : UInt32)
  | logged (j : Job) (r : JobResult) (time : Time.Instant)
  | collected (j : Job) (r : JobResult)
deriving DecidableEq

namespace Deed

def isBegan : Deed → Bool
  | began _ => true
  | _ => false

def launched? : Deed → Option Job
  | launched j => some j
  | _ => none

def resumed? : Deed → Option (Job × JobResult)
  | resumed j r => some (j, r)
  | _ => none

def logged? : Deed → Option (Job × JobResult × Time.Instant)
  | logged j r time => some (j, r, time)
  | _ => none

def collected? : Deed → Option (Job × JobResult)
  | collected j r => some (j, r)
  | _ => none

/-- The jobs that were launched, in order. -/
def launches (ds : List Deed) : List Job := ds.filterMap launched?

/-- The jobs with the result of an earlier run. -/
def resumptions (ds : List Deed) : List (Job × JobResult) := ds.filterMap resumed?

/-- The jobs whose completion was logged, with the result and the time in the line. -/
def completions (ds : List Deed) : List (Job × JobResult × Time.Instant) := ds.filterMap logged?

/-- The jobs that were executed, with the results that were entered. -/
def collections (ds : List Deed) : List (Job × JobResult) := ds.filterMap collected?

/-- Adds a deed to those of the domain in hand. -/
def addCurrent (ds : List Deed) (d : Deed) : List Deed := if d.isBegan then [] else ds ++ [d]

/-- The deeds since the last domain was begun. -/
def current (ds : List Deed) : List Deed := ds.foldl addCurrent []

theorem foldl_addCurrent (ds es : List Deed) (h : ∀ e ∈ es, e.isBegan = false) :
    es.foldl addCurrent ds = ds ++ es := by
  induction es generalizing ds with
  | nil => simp
  | cons e es ih =>
    have he : e.isBegan = false := h e (by simp)
    rw [List.foldl_cons, ih _ fun e' he' => h e' (by simp [he'])]
    simp [addCurrent, he]

theorem current_append (ds es : List Deed) (h : ∀ e ∈ es, e.isBegan = false) :
    current (ds ++ es) = current ds ++ es := by
  unfold current
  rw [List.foldl_append, foldl_addCurrent _ _ h]

theorem current_append_began (ds es : List Deed) (d : Domain)
    (h : ∀ e ∈ es, e.isBegan = false) : current (ds ++ began d :: es) = es := by
  unfold current
  rw [List.foldl_append, List.foldl_cons, foldl_addCurrent _ _ h]
  simp [addCurrent, isBegan]

section Append

variable (ds es : List Deed)

@[simp] theorem launches_append : launches (ds ++ es) = launches ds ++ launches es :=
  List.filterMap_append

@[simp] theorem resumptions_append : resumptions (ds ++ es) = resumptions ds ++ resumptions es :=
  List.filterMap_append

@[simp] theorem completions_append : completions (ds ++ es) = completions ds ++ completions es :=
  List.filterMap_append

@[simp] theorem collections_append : collections (ds ++ es) = collections ds ++ collections es :=
  List.filterMap_append

end Append

/-- A deed of one kind is found by what it carries. -/
theorem mem_filterMap_iff {α : Type} {f : Deed → Option α} {g : α → Deed} {ds : List Deed}
    {a : α} (hg : f (g a) = some a) (hf : ∀ d, f d = some a → d = g a) :
    a ∈ ds.filterMap f ↔ g a ∈ ds := by
  rw [List.mem_filterMap]
  constructor
  · rintro ⟨d, hd, h⟩
    rw [← hf d h]
    exact hd
  · exact fun h => ⟨g a, h, hg⟩

section Mem

variable {ds : List Deed} {j : Job} {r : JobResult} {n : UInt32} {t : Time.Instant}

@[simp] theorem mem_launches : j ∈ launches ds ↔ launched j ∈ ds :=
  mem_filterMap_iff rfl fun d h => by cases d <;> simp_all [launched?]

@[simp] theorem mem_resumptions : (j, r) ∈ resumptions ds ↔ resumed j r ∈ ds :=
  mem_filterMap_iff (g := fun c : Job × JobResult => resumed c.1 c.2) rfl
    fun d h => by cases d <;> simp_all [resumed?]

@[simp] theorem mem_completions : (j, r, t) ∈ completions ds ↔ logged j r t ∈ ds :=
  mem_filterMap_iff (g := fun c : Job × JobResult × Time.Instant => logged c.1 c.2.1 c.2.2) rfl
    fun d h => by cases d <;> simp_all [logged?]

@[simp] theorem mem_collections : (j, r) ∈ collections ds ↔ collected j r ∈ ds :=
  mem_filterMap_iff (g := fun c : Job × JobResult => collected c.1 c.2) rfl
    fun d h => by cases d <;> simp_all [collected?]

end Mem

end Deed

/-! ## Tasks in their places -/

section Places

variable {α : Type} {l : List α} {n : Nat} {x : α}

theorem perm_eraseIdx (hr : l[n]? = some x) : l.Perm (x :: l.eraseIdx n) := by
  obtain ⟨hlt, rfl⟩ := List.getElem?_eq_some_iff.mp hr
  exact (List.getElem_cons_eraseIdx_perm hlt).symm

theorem perm_set (hr : l[n]? = some x) (y : α) : (l.set n y).Perm (y :: l.eraseIdx n) := by
  obtain ⟨hlt, -⟩ := List.getElem?_eq_some_iff.mp hr
  exact List.set_perm_cons_eraseIdx hlt y

end Places

namespace Bench

variable {σ : Type}

/-- The count of attempts does not wrap below the maximum. -/
theorem toNat_succ {attempt most : UInt32} (h : attempt < most) :
    (attempt + 1).toNat = attempt.toNat + 1 := by
  have hmost := most.toNat_lt
  rw [UInt32.lt_iff_toNat_lt] at h
  rw [UInt32.toNat_add, UInt32.toNat_one]
  omega

/-- What the next step of a task does. -/
def deedsOf (b : Bench σ) (trouble : Trouble) (s : Scene σ) (j : Job) : Stage → List Deed
  | .ready attempt => [.called j attempt]
  | .recorded r =>
    match trouble.writing with
    | some _ => []
    | none => [.logged j r (b.clock s.readings)]
  | _ => []

/-- What the step of a task can do. -/
inductive TaskMove (b : Bench σ) (s : Scene σ) (j : Job) :
    Stage → List Deed → Stage → Scene σ → Prop
  | misses : s.files.isFolder j.unit.workarea = false →
      TaskMove b s j .fresh [] (.resolved (JobResult.missing j.unit.workarea)) s
  | refuses : s.files.isFolder j.unit.workarea = true → b.retry.maxAttempts = 0 →
      TaskMove b s j .fresh []
        (.resolved (JobResult.exhausted 0 "" (some (b.layout.rawPath j)))) s
  | starts : s.files.isFolder j.unit.workarea = true → b.retry.maxAttempts ≠ 0 →
      TaskMove b s j .fresh [] (.ready 1) s
  | calls {attempt : UInt32} {i : Invocation} {tool : σ} :
      b.tool.call s.tool s.files j attempt (Request.ofJob j b.timeoutMillis) = (.answer i, tool) →
      TaskMove b s j (.ready attempt) [.called j attempt] (.answered attempt i)
        { s.count .invocations with tool }
  | collapses {attempt : UInt32} {tool : σ} :
      b.tool.call s.tool s.files j attempt (Request.ofJob j b.timeoutMillis) = (.collapse, tool) →
      TaskMove b s j (.ready attempt) [.called j attempt] (.broken .collapse)
        { s.count .invocations with tool }
  | failsToSave {attempt : UInt32} {i : Invocation} {error : RunError} :
      TaskMove b s j (.answered attempt i) [] (.broken error) s
  | accepts {attempt : UInt32} {i : Invocation} {files : Workspace} {v : Verdict} :
      s.files.writeText (b.layout.rawPath j) (i.savedOutput b.timeoutMillis attempt) =
        .ok files → i.judge j.domain b.timeoutMillis = .final v →
      TaskMove b s j (.answered attempt i) []
        (.resolved (JobResult.ofVerdict v (b.layout.rawPath j) attempt)) { s with files }
  | givesUp {attempt : UInt32} {i : Invocation} {files : Workspace} {cause : String} :
      s.files.writeText (b.layout.rawPath j) (i.savedOutput b.timeoutMillis attempt) =
        .ok files → i.judge j.domain b.timeoutMillis = .passing cause →
      ¬ attempt < b.retry.maxAttempts →
      TaskMove b s j (.answered attempt i) []
        (.resolved (JobResult.exhausted b.retry.maxAttempts cause (some (b.layout.rawPath j))))
        { s with files }
  | retries {attempt : UInt32} {i : Invocation} {files : Workspace} {cause : String} :
      s.files.writeText (b.layout.rawPath j) (i.savedOutput b.timeoutMillis attempt) =
        .ok files → i.judge j.domain b.timeoutMillis = .passing cause →
      attempt < b.retry.maxAttempts →
      TaskMove b s j (.answered attempt i) [] (.ready (attempt + 1))
        (((({ s with files } : Scene σ).count .retries).emit
          (.jobRetried j.key attempt cause)).wait b.retry.waitMillis)
  | records {refusals : Workspace.Refusals} {r : JobResult} {files : Workspace} :
      Record.save s.files refusals (b.layout.recordPath j) r = (.ok (), files) →
      TaskMove b s j (.resolved r) [] (.recorded r) { s with files }
  | failsToRecord {refusals : Workspace.Refusals} {r : JobResult} {files : Workspace}
      {error : Error} :
      Record.save s.files refusals (b.layout.recordPath j) r = (.error error, files) →
      TaskMove b s j (.resolved r) [] (.broken (.unrecorded (b.layout.recordPath j) error))
        { s with files }
  | logs {r : JobResult} {log : LogFile} {files : Workspace} :
      s.log.record s.files j.key j.unit.name (b.clock s.readings) = (log, files) →
      TaskMove b s j (.recorded r) [.logged j r (b.clock s.readings)] (.finished r)
        (({ s with log, files, readings := s.readings + 1 } : Scene σ).emit
          (.jobFinished j.key j.unit.name r.status r.attempts false))
  | failsToLog {r : JobResult} {error : RunError} :
      TaskMove b s j (.recorded r) [] (.broken error) s

variable {b : Bench σ} {trouble : Trouble} {s s' : Scene σ} {j : Job} {stage next : Stage}
  {es : List Deed}

theorem taskMove_of_startJob : TaskMove b s j .fresh [] (b.startJob s j) s := by
  unfold startJob
  cases hw : s.files.isFolder j.unit.workarea with
  | false => exact .misses hw
  | true =>
    by_cases hmax : b.retry.maxAttempts = 0
    · simp only [Bool.not_true, Bool.false_eq_true, if_false, hmax, if_true]
      exact .refuses hw hmax
    · simp only [Bool.not_true, Bool.false_eq_true, if_false, hmax]
      exact .starts hw hmax

theorem taskMove_of_saveOutput {attempt : UInt32} {i : Invocation}
    (h : b.saveOutput trouble s j attempt i = (next, s')) :
    TaskMove b s j (.answered attempt i) [] next s' := by
  unfold saveOutput at h
  dsimp only at h
  cases ht : trouble.writing with
  | some fault =>
    rw [ht, Prod.mk.injEq] at h
    rw [← h.1, ← h.2]
    exact .failsToSave
  | none =>
    rw [ht] at h
    dsimp only at h
    -- the output is written before it is judged, also if another attempt follows
    cases hw : s.files.writeText (b.layout.rawPath j)
        (i.savedOutput b.timeoutMillis attempt) with
    | error fault =>
      rw [hw, Prod.mk.injEq] at h
      rw [← h.1, ← h.2]
      exact .failsToSave
    | ok files =>
      rw [hw] at h
      unfold judgeAnswer RetryPolicy.decide at h
      dsimp only at h
      cases hj : i.judge j.domain b.timeoutMillis with
      | final v =>
        rw [hj, Prod.mk.injEq] at h
        rw [← h.1, ← h.2]
        exact .accepts hw hj
      | passing cause =>
        rw [hj] at h
        by_cases hlt : attempt < b.retry.maxAttempts
        · simp only [hlt, if_true, Prod.mk.injEq] at h
          rw [← h.1, ← h.2]
          exact .retries hw hj hlt
        · simp only [hlt, if_false, Prod.mk.injEq] at h
          rw [← h.1, ← h.2]
          exact .givesUp hw hj hlt

theorem taskMove_of_advance? (h : b.advance? trouble s j stage = some (next, s')) :
    TaskMove b s j stage (b.deedsOf trouble s j stage) next s' := by
  unfold advance? at h
  cases stage with
  | fresh =>
    rw [Option.some.injEq, Prod.mk.injEq] at h
    rw [← h.1, ← h.2]
    exact taskMove_of_startJob
  | ready attempt =>
    rw [Option.some.injEq] at h
    unfold callTool at h
    cases hc : b.tool.call s.tool s.files j attempt (Request.ofJob j b.timeoutMillis) with
    | mk answer tool =>
      have hc' : b.tool.call (s.count .invocations).tool (s.count .invocations).files j attempt
          (Request.ofJob j b.timeoutMillis) = (answer, tool) := hc
      dsimp only at h
      rw [hc'] at h
      cases answer with
      | answer i =>
        rw [Prod.mk.injEq] at h
        rw [← h.1, ← h.2]
        exact .calls hc
      | collapse =>
        rw [Prod.mk.injEq] at h
        rw [← h.1, ← h.2]
        exact .collapses hc
  | answered attempt i => exact taskMove_of_saveOutput (Option.some.inj h)
  | resolved r =>
    rw [Option.some.injEq] at h
    unfold recordResult at h
    dsimp only at h
    rcases hs : Record.save s.files trouble.saving (b.layout.recordPath j) r with
      ⟨error | ⟨⟨⟩⟩, files⟩
    · rw [hs, Prod.mk.injEq] at h
      rw [← h.1, ← h.2]
      exact .failsToRecord hs
    · rw [hs, Prod.mk.injEq] at h
      rw [← h.1, ← h.2]
      exact .records hs
  | recorded r =>
    rw [Option.some.injEq] at h
    unfold logCompletion at h
    unfold deedsOf
    cases ht : trouble.writing with
    | some fault =>
      rw [ht, Prod.mk.injEq] at h
      rw [← h.1, ← h.2]
      exact .failsToLog
    | none =>
      rw [ht] at h
      cases hl : s.log.record s.files j.key j.unit.name (b.clock s.readings) with
      | mk log files =>
        dsimp only at h
        rw [hl, Prod.mk.injEq] at h
        rw [← h.1, ← h.2]
        exact .logs hl
  | finished r => simp at h
  | broken e => simp at h

namespace TaskMove

theorem isBegan_of_mem (h : TaskMove b s j stage es next s') {e : Deed} (he : e ∈ es) :
    e.isBegan = false := by
  cases h <;> simp at he <;> subst he <;> rfl

/-- A task begins no domain. -/
theorem began_not_mem (h : TaskMove b s j stage es next s') (d : Domain) : .began d ∉ es := by
  intro hd
  cases h.isBegan_of_mem hd

/-- A task launches nothing and enters nothing into the ledger. -/
theorem enters_nothing (h : TaskMove b s j stage es next s') :
    Deed.launches es = [] ∧ Deed.collections es = [] ∧ Deed.resumptions es = [] := by
  cases h <;> exact ⟨rfl, rfl, rfl⟩

end TaskMove

end Bench

namespace Progress

variable {σ : Type}

/-- What a choice does, if it can be made. -/
def deeds (b : Bench σ) (plan : Plan) (done : CompletionLog.Completions) (p : Progress σ)
    (c : Choice) : List Deed :=
  match c, p.active, p.pending with
  | .beginDomain _, none, d :: _ =>
    .began d :: (Survey.take p.scene.files b.layout done plan.units d).resumed.map
      fun (j, r) => .resumed j r
  | .launch, some a, _ => a.queue.head?.toList.map .launched
  | .advance place trouble, some a, _ =>
    match a.running[place]? with
    | some (j, stage) => b.deedsOf trouble p.scene j stage
    | none => []
  | .collect place, some a, _ =>
    match a.running[place]? with
    | some (j, .finished r) => [.collected j r]
    | _ => []
  | _, _, _ => []

/-- What any number of steps leads to, with the deeds on the way. -/
inductive Follows (b : Bench σ) (plan : Plan) (done : CompletionLog.Completions)
    (p : Progress σ) : List Deed → Progress σ → Prop
  | refl : Follows b plan done p [] p
  | step {ds : List Deed} {q r : Progress σ} {c : Choice} : Follows b plan done p ds q →
      q.step? b plan done c = some r →
      Follows b plan done p (ds ++ q.deeds b plan done c) r

/-- What a step can do. -/
inductive Move (b : Bench σ) (plan : Plan) (done : CompletionLog.Completions) (p : Progress σ) :
    List Deed → Progress σ → Prop
  | begins {trouble : Trouble} {d : Domain} {rest : List Domain} {survey : Survey}
      {files : Workspace} : p.active = none → p.pending = d :: rest →
      survey = Survey.take p.scene.files b.layout done plan.units d →
      prepare b trouble p.scene.files d = (.ok (), files) →
      Move b plan done p (.began d :: survey.resumed.map fun (j, r) => .resumed j r)
        { p with
          scene := { p.scene with
            counters := survey.count p.scene.counters
            events := p.scene.events ++ survey.resumedEvents
            files }
          ledger := survey.enter p.ledger
          pending := rest
          active := some ⟨d, survey.queue, [], ⟨0, survey.resumed.length, 0⟩⟩ }
  | stumbles {trouble : Trouble} {d : Domain} {rest : List Domain} {survey : Survey}
      {error : Error} {files : Workspace} : p.active = none → p.pending = d :: rest →
      survey = Survey.take p.scene.files b.layout done plan.units d →
      prepare b trouble p.scene.files d = (.error error, files) →
      Move b plan done p (.began d :: survey.resumed.map fun (j, r) => .resumed j r)
        { p with
          scene := { p.scene with
            counters := survey.count p.scene.counters
            events := p.scene.events ++ survey.resumedEvents
            files }
          ledger := survey.enter p.ledger
          pending := rest
          failure := some (.preparation d error) }
  | launches {a : Active} {j : Job} {rest : List Job} : p.active = some a → a.queue = j :: rest →
      a.running.length < b.width → Move b plan done p [.launched j] (p.launch a j rest)
  | advances {a : Active} {place : Nat} {j : Job} {stage next : Stage} {scene : Scene σ}
      {es : List Deed} : p.active = some a → a.running[place]? = some (j, stage) →
      b.TaskMove p.scene j stage es next scene →
      Move b plan done p es
        { p with scene, active := some { a with running := a.running.set place (j, next) } }
  | collects {a : Active} {place : Nat} {j : Job} {r : JobResult} : p.active = some a →
      a.running[place]? = some (j, .finished r) →
      Move b plan done p [.collected j r]
        { p with
          ledger := p.ledger.enter j.key r
          active := some { a with
            running := a.running.eraseIdx place
            stats := { a.stats with executed := a.stats.executed + 1 } } }
  | breaks {a : Active} {place : Nat} {j : Job} {error : RunError} : p.active = some a →
      a.running[place]? = some (j, .broken error) →
      Move b plan done p [] { p with active := none, failure := some error }
  | closes {a : Active} : p.active = some a → a.queue = [] → a.running = [] →
      Move b plan done p [] (p.closeDomain plan a)

variable {b : Bench σ} {plan : Plan} {done : CompletionLog.Completions} {p q : Progress σ}

theorem failure_of_step? {c : Choice} (h : p.step? b plan done c = some q) : p.failure = none := by
  unfold step? at h
  cases hf : p.failure with
  | none => rfl
  | some error => simp [hf] at h

theorem move_of_step? {c : Choice} (h : p.step? b plan done c = some q) :
    Move b plan done p (p.deeds b plan done c) q := by
  have hf := failure_of_step? h
  simp only [step?, hf, Option.isSome_none, Bool.false_eq_true, if_false] at h
  split at h
  -- the folders of a domain are made after its survey, and may fail
  next trouble d rest ha hp =>
    simp only [deeds, ha, hp]
    simp only [Option.some.injEq] at h
    subst h
    unfold beginDomain
    dsimp only
    split
    next error files hprep => exact .stumbles ha hp rfl hprep
    next files hprep => exact .begins ha hp rfl hprep
  next a ha =>
    split at h
    · simp at h
    next j rest hq =>
      split at h
      next hw =>
        simp only [Option.some.injEq] at h
        subst h
        simp only [deeds, ha, hq, List.head?_cons, Option.toList_some, List.map_cons, List.map_nil]
        exact .launches ha hq hw
      · simp at h
  next place trouble a ha =>
    unfold advance? at h
    split at h
    · simp at h
    next j stage hr =>
      simp only [Option.map_eq_some_iff, Prod.exists] at h
      obtain ⟨next, scene, hstep, rfl⟩ := h
      simp only [deeds, ha, hr]
      exact .advances ha hr (Bench.taskMove_of_advance? hstep)
  next place a ha =>
    unfold collect? at h
    split at h
    next j r hr =>
      simp only [Option.some.injEq] at h
      subst h
      simp only [deeds, ha, hr]
      exact .collects ha hr
    -- a broken task ends the run when it is collected
    next j error hr =>
      simp only [Option.some.injEq] at h
      subst h
      simp only [deeds, ha, hr]
      exact .breaks ha hr
    · simp at h
  next a ha =>
    split at h
    next hempty =>
      simp only [Option.some.injEq] at h
      subst h
      simp only [Bool.and_eq_true, List.isEmpty_iff] at hempty
      simp only [deeds]
      exact .closes ha hempty.1 hempty.2
    · simp at h
  next => simp at h

/-- What holds at the start and is kept by every move holds wherever a run gets to. -/
theorem Follows.induct {motive : List Deed → Progress σ → Prop} {ds : List Deed}
    (h : Follows b plan done p ds q) (start : motive [] p)
    (move : ∀ {ds es : List Deed} {q r : Progress σ}, Follows b plan done p ds q →
      q.failure = none → Move b plan done q es r → motive ds q → motive (ds ++ es) r) :
    motive ds q := by
  induction h with
  | refl => exact start
  | step hf hs ih => exact move hf (failure_of_step? hs) (move_of_step? hs) ih

/-- The labelled steps lead where the steps lead. -/
theorem reaches_iff_follows : Reaches b plan done p q ↔ ∃ ds, Follows b plan done p ds q := by
  constructor
  · intro h
    induction h with
    | refl => exact ⟨[], .refl⟩
    | step _ hs ih =>
      obtain ⟨ds, hds⟩ := ih
      obtain ⟨c, hc⟩ := hs
      exact ⟨_, .step hds hc⟩
  · rintro ⟨ds, h⟩
    induction h with
    | refl => exact .refl p
    | step _ hs ih => exact .step ih ⟨_, hs⟩

end Progress

end Signoff
