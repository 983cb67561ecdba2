import Signoff.Proofs.Run.Counts
import Signoff.Proofs.Run.Sample

/-!
# The accounts of a run

The counters of a run, its statistics and what it tells of its jobs agree with the results of the
jobs (`run_accounts`): each call of an executed job is counted as one of its attempts, each attempt
but the last is a retry, and each result is told of once.
-/

namespace Signoff

open Deed Event

/-! ## What each job adds -/

namespace Stage

/-- How many calls a task made until it came here. -/
def callCount : Stage → Nat
  | fresh => 0
  | ready attempt => attempt.toNat - 1
  | answered attempt _ => attempt.toNat
  | resolved r => r.attempts.toNat
  | recorded r => r.attempts.toNat
  | finished r => r.attempts.toNat
  | broken _ => 0

def retryCount : Stage → Nat
  | fresh => 0
  | ready attempt => attempt.toNat - 1
  | answered attempt _ => attempt.toNat - 1
  | resolved r => r.attempts.toNat - 1
  | recorded r => r.attempts.toNat - 1
  | finished r => r.attempts.toNat - 1
  | broken _ => 0

end Stage

/-- The calls for a job, numbered. -/
def callsOf (j : Job) (stage : Stage) : List (Job × Nat) :=
  (List.range' 1 stage.callCount).map fun n => (j, n)

/-- The retries of a job, numbered. -/
def retriesOf (j : Job) (stage : Stage) : List (JobKey × Nat) :=
  (List.range' 1 stage.retryCount).map fun n => (j.key, n)

def endsOf (j : Job) : Stage → List Event
  | .finished r => [finishOf false (j, r)]
  | _ => []

namespace Bench

variable {σ : Type} {b : Bench σ} {s s' : Scene σ} {j : Job} {stage next : Stage}
  {es : List Deed}

/-- What the step of a task adds for its job, and what it tells of it. -/
inductive Adds (j : Job) : Stage → Stage → List Deed → List Event → Prop
  | nothing {stage next : Stage} : next.callCount = stage.callCount →
      next.retryCount = stage.retryCount → endsOf j next = endsOf j stage → Adds j stage next [] []
  | call {attempt : UInt32} {i : Invocation} : 0 < attempt.toNat →
      Adds j (.ready attempt) (.answered attempt i) [.called j attempt] []
  | retry {attempt : UInt32} {i : Invocation} {cause : String} : 0 < attempt.toNat →
      (attempt + 1).toNat = attempt.toNat + 1 →
      Adds j (.answered attempt i) (.ready (attempt + 1)) [] [.jobRetried j.key attempt cause]
  | ending {r : JobResult} {t : Time.Instant} :
      Adds j (.recorded r) (.finished r) [.logged j r t] [.finishOf false (j, r)]

theorem TaskMove.adds (h : b.TaskMove s j stage es next s')
    (hstage : stage.InBounds b.retry.maxAttempts) (hnext : ¬ next.IsBroken) :
    ∃ more, s'.events = s.events ++ more ∧ Adds j stage next es more := by
  have hquiet : next.callCount = stage.callCount → next.retryCount = stage.retryCount →
      endsOf j next = endsOf j stage →
      ∃ more, s.events = s.events ++ more ∧ Adds j stage next [] more := fun hc hr he =>
    ⟨[], (List.append_nil _).symm, .nothing hc hr he⟩
  cases h with
  | misses => exact hquiet rfl rfl rfl
  | refuses => exact hquiet rfl rfl rfl
  | starts => exact hquiet rfl rfl rfl
  | calls hcall => exact ⟨[], (List.append_nil _).symm, .call hstage.1⟩
  | collapses => exact absurd trivial hnext
  | failsToSave => exact absurd trivial hnext
  | accepts => exact hquiet rfl rfl rfl
  | @givesUp attempt i files cause hw hj hlt =>
    -- the last attempt that may be made is the one at hand
    have hlast : b.retry.maxAttempts.toNat = attempt.toNat := by
      rw [UInt32.lt_iff_toNat_lt] at hlt
      have hle := hstage.2
      omega
    exact hquiet hlast (congrArg (· - 1) hlast) rfl
  | @retries attempt i files cause hw hj hlt =>
    exact ⟨_, rfl, .retry hstage.1 (toNat_succ hlt)⟩
  | records => exact hquiet rfl rfl rfl
  | failsToRecord => exact absurd trivial hnext
  | logs hrec => exact ⟨_, rfl, .ending⟩
  | failsToLog => exact absurd trivial hnext

theorem map_numbers {α : Type} (f : Nat → α) {n : Nat} (hn : 0 < n) :
    (List.range' 1 n).map f = (List.range' 1 (n - 1)).map f ++ [f n] := by
  have hconcat : List.range' 1 n = List.range' 1 (n - 1) ++ [n] := by
    have h := @List.range'_1_concat 1 (n - 1)
    rwa [Nat.sub_add_cancel hn, Nat.add_sub_cancel' hn] at h
  rw [hconcat, List.map_append]
  rfl

theorem byTasks_launches : ByTasks b (fun j _ => [j]) (fun ds _ => launches ds) where
  append ds es _ _ := launches_append ds es
  begins _ s := s.launches_of_resumed
  launches _ := rfl
  advances h _ _ := by
    obtain ⟨more, hevents, -⟩ := h.counts
    refine ⟨more, hevents, ?_⟩
    rw [h.enters_nothing.1]
    rfl
  collects _ _ := rfl
  closes _ _ _ := rfl

theorem byTasks_calls : ByTasks b callsOf (fun ds _ => calls ds) where
  append ds es _ _ := calls_append ds es
  begins d s := s.calls_of_resumed d
  launches _ := rfl
  advances h hstage hnext := by
    obtain ⟨more, hevents, hadds⟩ := h.adds hstage hnext
    refine ⟨more, hevents, ?_⟩
    unfold callsOf
    cases hadds with
    | nothing hc hr he =>
      rw [hc]
      exact (List.append_nil _).symm
    | call hpos => exact map_numbers _ hpos
    | retry hpos hsucc =>
      rw [Stage.callCount, hsucc, Nat.add_sub_cancel]
      exact (List.append_nil _).symm
    | ending => exact (List.append_nil _).symm
  collects _ _ := rfl
  closes _ _ _ := rfl

theorem byTasks_retries : ByTasks b retriesOf (fun _ events => retries events) where
  append _ _ events more := retries_append events more
  begins _ s := s.retries_resumedEvents
  launches _ := rfl
  advances h hstage hnext := by
    obtain ⟨more, hevents, hadds⟩ := h.adds hstage hnext
    refine ⟨more, hevents, ?_⟩
    unfold retriesOf
    cases hadds with
    | nothing hc hr he =>
      rw [hr]
      exact (List.append_nil _).symm
    | call hpos => exact (List.append_nil _).symm
    | retry hpos hsucc =>
      rw [Stage.retryCount, hsucc, Nat.add_sub_cancel]
      exact map_numbers _ hpos
    | ending => exact (List.append_nil _).symm
  collects _ _ := rfl
  closes _ _ _ := rfl

theorem byTasks_ends : ByTasks b endsOf (fun _ events => events.filter (isEnd false)) where
  append _ _ events more := List.filter_append events more
  begins _ s := s.ended_resumedEvents
  launches _ := rfl
  advances h hstage hnext := by
    obtain ⟨more, hevents, hadds⟩ := h.adds hstage hnext
    refine ⟨more, hevents, ?_⟩
    cases hadds with
    | nothing hc hr he =>
      rw [he]
      exact (List.append_nil _).symm
    | call hpos => rfl
    | retry hpos hsucc => rfl
    | ending => rfl
  collects _ _ := rfl
  closes _ _ _ := rfl

end Bench

/-! ## The whole run -/

namespace Counter

/-- What a counter comes to for executed jobs and resumed ones, with their results. -/
def total (executed resumed : List (Job × JobResult)) : Counter → Nat
  | .jobsLaunched => executed.length
  | .invocations => (executed.map fun e => e.2.attempts.toNat).sum
  | .retries => (executed.map fun e => e.2.attempts.toNat - 1).sum
  | .resumed => resumed.length

end Counter

namespace Progress

variable {σ : Type} {b : Bench σ} {plan : Plan} {done : CompletionLog.Completions}
  {ds : List Deed} {p : Progress σ} {scene : Scene σ}

theorem intact_of_isComplete (hcomplete : p.isComplete = true) : p.Intact where
  going := failure_of_isComplete hcomplete
  whole := by
    rw [tasks_of_isComplete hcomplete]
    exact fun t ht => absurd ht List.not_mem_nil

/-- In the end all shares are those of the executed jobs. -/
theorem interleaved_of_complete {α : Type} {share : Job → Stage → List α}
    {seen : List Deed → List Event → List α} (hseen : ByTasks b share seen)
    (hstart : seen [] scene.events = []) (h : Follows b plan done (start plan scene) ds p)
    (hcomplete : p.isComplete = true) :
    Interleaved ((collections ds).map fun e => share e.1 (.finished e.2))
      (seen ds p.scene.events) := by
  have hshares := interleaved_of_follows hseen hstart h (intact_of_isComplete hcomplete)
  unfold shares at hshares
  rwa [tasks_of_isComplete hcomplete] at hshares

/-- The scene in which a run starts, with nothing told of jobs. -/
structure Quiet (scene : Scene σ) : Prop where
  retries : retries scene.events = []
  ended : scene.events.filter (isEnd false) = []
  taken : scene.events.filter (isEnd true) = []

/-- Once all is done, what was counted is what the results come to. -/
theorem tally_of_complete (hquiet : Quiet scene) (h : Follows b plan done (start plan scene) ds p)
    (hcomplete : p.isComplete = true) (k : Counter) :
    tally ds p.scene.events k = k.total (collections ds) (resumptions ds) := by
  cases k with
  | jobsLaunched =>
    have hall := interleaved_of_complete Bench.byTasks_launches rfl h hcomplete
    rw [tally, hall.length_eq]
    simp [Counter.total]
  | invocations =>
    have hall := interleaved_of_complete Bench.byTasks_calls rfl h hcomplete
    rw [tally, hall.length_eq]
    simp [Counter.total, callsOf, Stage.callCount]
  | retries =>
    have hall := interleaved_of_complete Bench.byTasks_retries hquiet.retries h hcomplete
    rw [tally, hall.length_eq]
    simp [Counter.total, retriesOf, Stage.retryCount]
  | resumed => rfl

/-- The end of each executed job is told of. -/
theorem ended_of_complete (hquiet : Quiet scene)
    (h : Follows b plan done (start plan scene) ds p) (hcomplete : p.isComplete = true) :
    (p.scene.events.filter (isEnd false)).Perm ((collections ds).map (finishOf false)) := by
  have hall := interleaved_of_complete Bench.byTasks_ends hquiet.ended h hcomplete
  have hflat : ((collections ds).map fun e => endsOf e.1 (.finished e.2)).flatten =
      (collections ds).map (finishOf false) := by
    induction collections ds with
    | nil => rfl
    | cons e es ih =>
      rw [List.map_cons, List.flatten_cons, ih]
      rfl
  rw [← hflat]
  exact hall.perm_flatten

/-- The retries of a job are told in turn, if no other executed job goes by its key. -/
theorem retries_of_key {told : List (JobKey × Nat)} {before after : List (Job × JobResult)}
    {e : Job × JobResult}
    (h : Interleaved ((before ++ e :: after).map fun e => retriesOf e.1 (.finished e.2)) told)
    (hother : ∀ f ∈ before ++ after, f.1.key ≠ e.1.key) :
    told.filter (·.1 == e.1.key) = retriesOf e.1 (.finished e.2) := by
  have hfilter : ∀ f : Job × JobResult, (retriesOf f.1 (.finished f.2)).filter (·.1 == e.1.key) =
      if f.1.key = e.1.key then retriesOf f.1 (.finished f.2) else [] := by
    intro f
    unfold retriesOf
    rw [List.filter_map]
    by_cases hkey : f.1.key = e.1.key
    · rw [if_pos hkey]
      exact congrArg _ (List.filter_eq_self.mpr fun n _ => beq_iff_eq.mpr hkey)
    · rw [if_neg hkey, List.map_eq_nil_iff]
      exact List.filter_eq_nil_iff.mpr fun n _ heq => hkey (beq_iff_eq.mp heq)
  have hfront : Interleaved
      ((e :: (before ++ after)).map fun f => retriesOf f.1 (.finished f.2)) told :=
    .perm (List.perm_middle.map _) h
  have hfront := hfront.filter (·.1 == e.1.key)
  rw [List.map_cons, List.map_cons, hfilter e, if_pos rfl] at hfront
  apply hfront.eq_of_others_nil
  intro l hl
  obtain ⟨m, hm, rfl⟩ := List.mem_map.mp hl
  obtain ⟨f, hf, rfl⟩ := List.mem_map.mp hm
  rw [hfilter f, if_neg (hother f hf)]

end Progress

/-- The counters, the statistics and the events of a run agree with the results of the jobs that
it executed and of those that it resumed. -/
structure RunResult.Accounts (r : RunResult) (calls : Nat)
    (executed resumed : List (Job × JobResult)) : Prop where
  counters : ∀ k, r.counters.get k = UInt64.ofNat (k.total executed resumed)
  executedCount : r.executedCount = executed.length
  resumedCount : r.resumedCount = resumed.length
  calls : calls = (executed.map fun e => e.2.attempts.toNat).sum
  ended : (r.events.filter (isEnd false)).Perm (executed.map (finishOf false))
  taken : (r.events.filter (isEnd true)).Perm (resumed.map (finishOf true))
  retried : Interleaved
    (executed.map fun e => (List.range' 1 (e.2.attempts.toNat - 1)).map fun n => (e.1.key, n))
    (retries r.events)
  numbered : ∀ before e after, executed = before ++ e :: after →
    (∀ f ∈ before ++ after, f.1.key ≠ e.1.key) →
    (retries r.events).filter (·.1 == e.1.key) =
      (List.range' 1 (e.2.attempts.toNat - 1)).map fun n => (e.1.key, n)

namespace Bench

variable {σ : Type} {b : Bench σ} {w : Workspace} {plan : Plan} {runId : RunId}
  {done : CompletionLog.Completions}

theorem accounts_of_conclude {report : Report} {size readings : Nat}
    {stats : List (Domain × DomainStats)} {counters : Counters} {events : List Event}
    {paths : Option (Path × Path)} {calls : Nat} {executed resumed : List (Job × JobResult)}
    (hcounters : ∀ k, counters.get k = UInt64.ofNat (k.total executed resumed))
    (hexecuted : (stats.map (·.2.executed)).sum = executed.length)
    (hresumed : (stats.map (·.2.resumed)).sum = resumed.length)
    (hcalls : calls = Counter.invocations.total executed resumed)
    (hended : (events.filter (isEnd false)).Perm (executed.map (finishOf false)))
    (htaken : events.filter (isEnd true) = resumed.map (finishOf true))
    (hretried : Interleaved (executed.map fun e => retriesOf e.1 (.finished e.2))
      (retries events)) :
    (b.conclude runId report size readings stats counters events paths).Accounts calls executed
      resumed := by
  have hevents : (b.conclude runId report size readings stats counters events paths).events =
      events ++ [.countersFlushed runId.write counters,
        .runFinished runId.write (millisBetween (b.clock 0) (b.clock readings)) size
          report.blocking.isEmpty] := rfl
  have hretries : retries (b.conclude runId report size readings stats counters events
      paths).events = retries events := by
    rw [hevents, retries_append]
    exact List.append_nil _
  constructor
  · exact hcounters
  · rw [← hexecuted, List.sum_eq_foldl]
    rfl
  · rw [← hresumed, List.sum_eq_foldl]
    rfl
  · exact hcalls
  · rw [hevents, List.filter_append]
    exact (List.append_nil _).symm ▸ hended
  · rw [hevents, List.filter_append, htaken]
    exact .of_eq (List.append_nil _)
  · rw [hretries]
    exact hretried
  · intro before e after hsplit hother
    rw [hretries]
    rw [hsplit] at hretried
    exact Progress.retries_of_key hretried hother

/-- The results that a dry run takes over. -/
def reusedBy (b : Bench σ) (w : Workspace) (plan : Plan) (done : CompletionLog.Completions)
    (ds : List Domain) : List (Job × JobResult) :=
  ds.flatMap fun d => (Survey.take w b.layout done plan.units d).resumed

/-- The state of a dry run agrees with the results that it has taken over. -/
structure Listing (state : Ledger × List (Domain × DomainStats) × Counters × List Event)
    (resumed : List (Job × JobResult)) : Prop where
  executedCount : (state.2.1.map (·.2.executed)).sum = 0
  resumedCount : (state.2.1.map (·.2.resumed)).sum = resumed.length
  counters : ∀ k, state.2.2.1.get k = UInt64.ofNat (k.total [] resumed)
  ended : state.2.2.2.filter (isEnd false) = []
  taken : state.2.2.2.filter (isEnd true) = resumed.map (finishOf true)
  retried : retries state.2.2.2 = []

theorem Listing.listDomain {state : Ledger × List (Domain × DomainStats) × Counters × List Event}
    {resumed : List (Job × JobResult)} (h : Listing state resumed) (d : Domain) :
    Listing (b.listDomain w plan done state d)
      (resumed ++ (Survey.take w b.layout done plan.units d).resumed) := by
  set survey := Survey.take w b.layout done plan.units d with hsurvey
  obtain ⟨hexecuted, hresumed, hcounters, hended, htaken, hretried⟩ := h
  obtain ⟨l, hevents⟩ : ∃ l, (b.listDomain w plan done state d).2.2.2 =
      state.2.2.2 ++ survey.resumedEvents ++ [summaryEvent plan.units l d] := ⟨_, rfl⟩
  constructor
  · simp [Bench.listDomain, hexecuted]
  · simp [Bench.listDomain, hresumed, ← hsurvey]
  · intro k
    show (survey.count state.2.2.1).get k = _
    cases k with
    | resumed =>
      rw [survey.get_count_resumed, hcounters, ← UInt64.ofNat_add, Counter.total, Counter.total,
        List.length_append]
    | _ =>
      rw [get_count_survey survey _ (by decide), hcounters]
      rfl
  · rw [hevents, List.filter_append, List.filter_append, hended, survey.ended_resumedEvents]
    rfl
  · rw [hevents, List.filter_append, List.filter_append, htaken, survey.taken_resumedEvents,
      List.map_append]
    exact List.append_nil _
  · rw [hevents, retries_append, retries_append, hretried, survey.retries_resumedEvents]
    rfl

theorem Listing.foldl {ds : List Domain}
    {state : Ledger × List (Domain × DomainStats) × Counters × List Event}
    {resumed : List (Job × JobResult)} (h : Listing state resumed) :
    Listing (ds.foldl (b.listDomain w plan done) state) (resumed ++ b.reusedBy w plan done ds) := by
  induction ds generalizing state resumed with
  | nil =>
    rw [reusedBy, List.flatMap_nil, List.append_nil]
    exact h
  | cons d ds ih =>
    rw [List.foldl_cons, reusedBy, List.flatMap_cons, ← List.append_assoc]
    exact ih (h.listDomain d)

theorem accounts_of_dryRun :
    (b.dryRun w plan runId done).Accounts 0 [] (b.reusedBy w plan done plan.domains) := by
  have hstart : Listing (Ledger.empty, [], Counters.zero, [b.startedEvent plan runId]) [] :=
    ⟨rfl, rfl, fun k => by cases k <;> rfl, rfl, rfl, rfl⟩
  have hend : Listing (plan.domains.foldl (b.listDomain w plan done)
      (Ledger.empty, [], Counters.zero, [b.startedEvent plan runId]))
      ([] ++ b.reusedBy w plan done plan.domains) := hstart.foldl
  rw [List.nil_append] at hend
  obtain ⟨hexecuted, hresumed, hcounters, hended, htaken, hretried⟩ := hend
  apply accounts_of_conclude hcounters hexecuted hresumed rfl (.of_eq hended) htaken
  rw [hretried]
  exact .none

section Opened

variable {tool : σ} {log : LogFile} {files : Workspace} {c : Counters} {ds : List Deed}
  {p : Progress σ}

/-- The counts of a run come on top of what the counters had when it was started. -/
theorem counters_of_complete (h : Progress.Follows b plan done
      (.start plan { b.openingScene plan runId files log tool with counters := c }) ds p)
    (hcomplete : p.isComplete = true) (k : Counter) :
    p.scene.counters.get k =
      c.get k + UInt64.ofNat (k.total (collections ds) (resumptions ds)) := by
  rw [Progress.counters_of_follows rfl h, Progress.tally_of_complete ⟨rfl, rfl, rfl⟩ h hcomplete]

theorem Finishes.accounts {r : RunResult} (h : b.Finishes w plan runId tool ds p r) :
    r.Accounts (calls ds).length (collections ds) (resumptions ds) := by
  obtain ⟨⟨-, done, log, files, -, -, hfollows⟩, hcomplete, hresult⟩ := h
  have hquiet : Progress.Quiet (b.openingScene plan runId files log tool) := ⟨rfl, rfl, rfl⟩
  have hidle : p.active = none := by
    simp only [Progress.isComplete, Bool.and_eq_true, Option.isNone_iff_eq_none] at hcomplete
    exact hcomplete.1.2
  have hcounters : ∀ k, p.scene.counters.get k =
      UInt64.ofNat (k.total (collections ds) (resumptions ds)) := by
    intro k
    have hzero : Counters.zero.get k = 0 := by cases k <;> rfl
    rw [counters_of_complete hfollows hcomplete, hzero, UInt64.zero_add]
  obtain ⟨hexecuted, hresumed⟩ :=
    Progress.counted_of_follows hfollows (Progress.failure_of_isComplete hcomplete)
  rw [hidle] at hexecuted hresumed
  have hcalls := Progress.tally_of_complete hquiet hfollows hcomplete .invocations
  have hended := Progress.ended_of_complete hquiet hfollows hcomplete
  have htaken := Progress.taken_of_follows hquiet.taken hfollows
  have hretried :=
    Progress.interleaved_of_complete byTasks_retries hquiet.retries hfollows hcomplete
  unfold finish at hresult
  dsimp only at hresult
  split at hresult
  · cases hresult
  · rw [← Except.ok.inj hresult]
    exact accounts_of_conclude hcounters hexecuted hresumed hcalls hended htaken hretried

end Opened

/-- The accounts of a run are right. One that is no dry run executes jobs, in any order of its
steps: its counters come to what the results come to, it calls the tool once for each attempt at an
executed job, it tells once of the result of each job, and of the retries of each job in turn. A
dry run makes no call and executes nothing. In a process with other runs before this one, the
counters have grown by the counts of the run. -/
theorem run_accounts (b : Bench σ) (w : Workspace) (plan : Plan) (runId : RunId) (tool : σ) :
    (∀ ds p r, b.Finishes w plan runId tool ds p r →
      r.Accounts (calls ds).length (collections ds) (resumptions ds) ∧
      (∀ f : σ → Nat, (∀ s w j n q, f (b.tool.call s w j n q).2 = f s + 1) →
        f p.scene.tool = f tool + (calls ds).length) ∧
      ((plan.units.map (·.index)).Nodup → plan.domains.Nodup →
        ∀ e ∈ collections ds, p.ledger.get? e.1.key = some e.2)) ∧
    (∀ r, plan.dryRun = true → (b.run w plan runId tool).result = .ok r →
      (b.run w plan runId tool).tool = tool ∧
      ∃ done, completions w plan = .ok done ∧
        r.Accounts 0 [] (b.reusedBy w plan done plan.domains)) ∧
    ∀ c done log files ds p,
      Progress.Follows b plan done
        (.start plan { b.openingScene plan runId files log tool with counters := c }) ds p →
      p.isComplete = true →
      (∀ k, (c.get k).toNat + k.total (collections ds) (resumptions ds) < UInt64.size) →
      ∀ k, (p.scene.counters.since c).get k =
        UInt64.ofNat (k.total (collections ds) (resumptions ds)) := by
  refine ⟨?_, ?_, ?_⟩
  · intro ds p r h
    obtain ⟨-, done, log, files, -, -, hfollows⟩ := h.1
    refine ⟨h.accounts, fun f hf => Progress.tool_of_follows hf hfollows, ?_⟩
    intro hidx hdom e he
    have hentered := (Progress.courses_of_follows hidx hdom hfollows).entered e.1.key e.2
    exact hentered.mpr ⟨e.1, rfl, .inl (mem_collections.mp he)⟩
  · intro r hdry h
    unfold run at h ⊢
    cases hdone : completions w plan with
    | error error =>
      rw [hdone] at h
      exact nomatch h
    | ok done =>
      rw [hdone] at h
      dsimp only at h ⊢
      rw [if_pos hdry] at h ⊢
      refine ⟨rfl, done, rfl, ?_⟩
      rw [← Except.ok.inj h]
      exact accounts_of_dryRun
  · intro c done log files ds p hfollows hcomplete hroom k
    have hget : (p.scene.counters.since c).get k =
        Counters.difference (p.scene.counters.get k) (c.get k) := by cases k <;> rfl
    rw [hget, counters_of_complete hfollows hcomplete, Counters.difference_add (hroom k)]

/-- Two jobs with two attempts each, and a dry run of the same plan. -/
theorem run_accounts_two_attempts :
    (∃ ds p r,
      (Sample.bench 1 Sample.late).Finishes .empty (Sample.plan none) Sample.runId () ds p r ∧
      r.executedCount = 2 ∧ (∀ k, r.counters.get k = (⟨2, 4, 2, 0⟩ : Counters).get k) ∧
      (∀ k, (p.scene.counters.since .zero).get k = (⟨2, 4, 2, 0⟩ : Counters).get k) ∧
      (p.ledger.get? Sample.job.key).map (·.attempts) = some 2 ∧
      (retries r.events).filter (·.1 == Sample.job.key) = [(Sample.job.key, 1)]) ∧
    ∃ r, ((Sample.bench 1 Sample.late).run .empty { Sample.plan none with dryRun := true }
        Sample.runId ()).result = .ok r ∧
      r.executedCount = 0 ∧ r.counters.get .invocations = 0 := by
  constructor
  · let result (name : String) := JobResult.ofVerdict (Verdict.noData .timing)
      ⟨"o/raw/timing/" ++ name ++ ".log"⟩ 2
    let executed :=
      [(Sample.job, result "00000_a"), (⟨.timing, Sample.unit 1 "b"⟩, result "00001_b")]
    obtain ⟨ds, p, r, hfinishes, htest⟩ := @exists_finishes Unit
      (Sample.bench 1 Sample.late) .empty (Sample.plan none) Sample.runId () Sample.twiceInTurn
      (fun ds _ => collections ds == executed && resumptions ds == []) (by decide +kernel)
    obtain ⟨hexecuted, hresumed⟩ : collections ds = executed ∧ resumptions ds = [] := by
      simpa using htest
    obtain ⟨hall, -, hsince⟩ :=
      run_accounts (Sample.bench 1 Sample.late) .empty (Sample.plan none) Sample.runId ()
    obtain ⟨haccounts, -, hledger⟩ := hall ds p r hfinishes
    obtain ⟨-, done, log, files, -, -, hfollows⟩ := hfinishes.1
    have hcounts := hsince .zero done log files ds p hfollows hfinishes.2.1
    rw [hexecuted, hresumed] at haccounts hcounts
    refine ⟨ds, p, r, hfinishes, haccounts.executedCount, ?_, ?_, ?_, ?_⟩
    · intro k
      rw [haccounts.counters k]
      cases k <;> decide +kernel
    · intro k
      rw [hcounts (by intro k; cases k <;> decide +kernel) k]
      cases k <;> decide +kernel
    · have hentered := hledger (by decide) (by decide) (Sample.job, result "00000_a")
        (by rw [hexecuted]; exact List.mem_cons_self)
      rw [hentered]
      rfl
    · exact haccounts.numbered [] _ _ rfl (by decide +kernel)
  · obtain ⟨r, hr⟩ := exists_eq_ok (x := ((Sample.bench 1 Sample.late).run .empty
      { Sample.plan none with dryRun := true } Sample.runId ()).result) (by decide +kernel)
    obtain ⟨-, done, -, haccounts⟩ := (run_accounts (Sample.bench 1 Sample.late) .empty
      { Sample.plan none with dryRun := true } Sample.runId ()).2.1 r rfl hr
    exact ⟨r, hr, haccounts.executedCount, haccounts.counters .invocations⟩

end Bench

end Signoff
