import Signoff.Proofs.Run.DryRun
import Signoff.Proofs.Run.Shares

/-!
# What a run counts

Each step moves the counters by what it does and tells (`Progress.Move.counts`), so the counters of
a run count its deeds and its events, on top of what they had (`counters_of_follows`). The
statistics of the domains count the jobs that were executed and those that were resumed
(`counted_of_follows`).
-/

namespace Signoff

/-! ## What is counted -/

namespace Deed

/-- The job that the tool is called for, and the number of the attempt. -/
def called? : Deed → Option (Job × Nat)
  | called j attempt => some (j, attempt.toNat)
  | _ => none

def calls (ds : List Deed) : List (Job × Nat) := ds.filterMap called?

@[simp] theorem calls_append (ds es : List Deed) : calls (ds ++ es) = calls ds ++ calls es :=
  List.filterMap_append

end Deed

namespace Event

/-- The job that is tried again, and the number of the attempt that failed. -/
def retried? : Event → Option (JobKey × Nat)
  | jobRetried key attempt _ => some (key, attempt.toNat)
  | _ => none

def retries (events : List Event) : List (JobKey × Nat) := events.filterMap retried?

@[simp] theorem retries_append (events more : List Event) :
    retries (events ++ more) = retries events ++ retries more := List.filterMap_append

def isEnd (resumed : Bool) : Event → Bool
  | jobFinished _ _ _ _ again => again == resumed
  | _ => false

/-- What is told of a job that has its result. -/
def finishOf (resumed : Bool) (e : Job × JobResult) : Event :=
  .jobFinished e.1.key e.1.unit.name e.2.status e.2.attempts resumed

end Event

open Deed Event

/-- What is counted when these things are done and told. -/
def tally (ds : List Deed) (events : List Event) : Counter → Nat
  | .jobsLaunched => (launches ds).length
  | .invocations => (calls ds).length
  | .retries => (retries events).length
  | .resumed => (resumptions ds).length

theorem tally_append (ds es : List Deed) (events more : List Event) (k : Counter) :
    tally (ds ++ es) (events ++ more) k = tally ds events k + tally es more k := by
  cases k <;> simp [tally]

namespace Counters

theorem get_of_zero (c : Counters) {k : Counter} {n : Nat} (h : n = 0) :
    c.get k = c.get k + UInt64.ofNat n := by
  subst h
  exact (UInt64.add_zero _).symm

theorem get_count_of (c : Counters) {l k : Counter} {n : Nat} (h : n = if l = k then 1 else 0) :
    (c.count l).get k = c.get k + UInt64.ofNat n := by
  rw [get_count, h]
  by_cases hlk : l = k
  · rw [if_pos hlk, if_pos hlk]
    rfl
  · rw [if_neg hlk, if_neg hlk]
    exact (UInt64.add_zero _).symm

/-- What was counted since a snapshot, as long as the counters do not overflow. -/
theorem difference_add {c : UInt64} {n : Nat} (h : c.toNat + n < UInt64.size) :
    difference (c + UInt64.ofNat n) c = UInt64.ofNat n := by
  have hn : (UInt64.ofNat n).toNat = n := UInt64.toNat_ofNat_of_lt' (by omega)
  have hsum : (c + UInt64.ofNat n).toNat = c.toNat + n := by
    rw [UInt64.toNat_add, hn]
    exact Nat.mod_eq_of_lt h
  have hle : c ≤ c + UInt64.ofNat n := by
    rw [UInt64.le_iff_toNat_le, hsum]
    omega
  unfold difference
  rw [if_pos hle, UInt64.add_comm, UInt64.add_sub_cancel]

end Counters

namespace Survey

theorem calls_of_resumed (s : Survey) (d : Domain) :
    calls (.began d :: s.resumed.map fun (j, r) => .resumed j r) = [] := by
  refine List.filterMap_eq_nil_iff.mpr fun e he => ?_
  obtain rfl | ⟨j, r, -, rfl⟩ := mem_deeds.mp he <;> rfl

theorem resumedEvents_eq (s : Survey) : s.resumedEvents = s.resumed.map (finishOf true) := rfl

theorem retries_resumedEvents (s : Survey) : retries s.resumedEvents = [] := by
  rw [resumedEvents_eq, retries, List.filterMap_map]
  exact List.filterMap_eq_nil_iff.mpr fun e _ => rfl

theorem ended_resumedEvents (s : Survey) : s.resumedEvents.filter (isEnd false) = [] := by
  rw [resumedEvents_eq, List.filter_map]
  exact List.map_eq_nil_iff.mpr (List.filter_eq_nil_iff.mpr fun e _ => Bool.false_ne_true)

theorem taken_resumedEvents (s : Survey) :
    s.resumedEvents.filter (isEnd true) = s.resumed.map (finishOf true) := by
  rw [resumedEvents_eq, List.filter_map]
  exact congrArg _ (List.filter_eq_self.mpr fun e _ => rfl)

theorem get_count_resumed (s : Survey) (c : Counters) :
    (s.count c).get .resumed = c.get .resumed + UInt64.ofNat s.resumed.length := by
  unfold count
  induction s.resumed generalizing c with
  | nil => exact c.get_of_zero rfl
  | cons e es ih =>
    have hone : (c.count .resumed).get .resumed = c.get .resumed + UInt64.ofNat 1 :=
      c.get_count_of (if_pos rfl).symm
    rw [List.foldl_cons, ih, hone, UInt64.add_assoc, ← UInt64.ofNat_add, Nat.add_comm,
      List.length_cons]

/-- A survey counts what it takes over. -/
theorem get_count (s : Survey) (d : Domain) (c : Counters) (k : Counter) :
    (s.count c).get k = c.get k + UInt64.ofNat
      (tally (.began d :: s.resumed.map fun (j, r) => .resumed j r) s.resumedEvents k) := by
  have hlaunches : launches (Deed.began d :: s.resumed.map fun (j, r) => .resumed j r) = [] :=
    s.launches_of_resumed
  have hresumed : resumptions (Deed.began d :: s.resumed.map fun (j, r) => .resumed j r) =
      s.resumed := s.resumptions_of_resumed
  cases k with
  | resumed =>
    rw [get_count_resumed, tally, hresumed]
  | jobsLaunched =>
    rw [Bench.get_count_survey s c (by decide), tally, hlaunches]
    exact c.get_of_zero rfl
  | invocations =>
    rw [Bench.get_count_survey s c (by decide), tally, calls_of_resumed]
    exact c.get_of_zero rfl
  | retries =>
    rw [Bench.get_count_survey s c (by decide), tally, retries_resumedEvents]
    exact c.get_of_zero rfl

end Survey

/-! ## Steps -/

namespace Bench

variable {σ : Type} {b : Bench σ} {s s' : Scene σ} {j : Job} {stage next : Stage}
  {es : List Deed}

/-- What the step of a task counts and tells, and of what is told, that a result was taken over is
none. -/
theorem TaskMove.counts (h : b.TaskMove s j stage es next s') :
    ∃ more, s'.events = s.events ++ more ∧ more.filter (isEnd true) = [] ∧
      ∀ k, s'.counters.get k = s.counters.get k + UInt64.ofNat (tally es more k) := by
  have hquiet : ∃ more, s.events = s.events ++ more ∧ more.filter (isEnd true) = [] ∧
      ∀ k, s.counters.get k = s.counters.get k + UInt64.ofNat (tally [] more k) :=
    ⟨[], (List.append_nil _).symm, rfl, fun k => s.counters.get_of_zero (by cases k <;> rfl)⟩
  cases h with
  | calls hcall =>
    exact ⟨[], (List.append_nil _).symm, rfl,
      fun k => s.counters.get_count_of (by cases k <;> rfl)⟩
  | collapses hcall =>
    exact ⟨[], (List.append_nil _).symm, rfl,
      fun k => s.counters.get_count_of (by cases k <;> rfl)⟩
  | @retries attempt i files cause hw hj hlt =>
    exact ⟨[.jobRetried j.key attempt cause], rfl, rfl,
      fun k => s.counters.get_count_of (by cases k <;> rfl)⟩
  | @logs r log files hrec =>
    exact ⟨[.jobFinished j.key j.unit.name r.status r.attempts false], rfl, rfl,
      fun k => s.counters.get_of_zero (by cases k <;> rfl)⟩
  | _ => exact hquiet

/-- A tool that counts its calls counts those of the task. -/
theorem TaskMove.tool_calls {f : σ → Nat}
    (hf : ∀ s w j n q, f (b.tool.call s w j n q).2 = f s + 1)
    (h : b.TaskMove s j stage es next s') : f s'.tool = f s.tool + (Deed.calls es).length := by
  cases h with
  | @calls attempt i tool hcall =>
    have hone := hf s.tool s.files j attempt (Request.ofJob j b.timeoutMillis)
    rw [hcall] at hone
    exact hone
  | @collapses attempt tool hcall =>
    have hone := hf s.tool s.files j attempt (Request.ofJob j b.timeoutMillis)
    rw [hcall] at hone
    exact hone
  | _ => rfl

end Bench

namespace Progress

variable {σ : Type} {b : Bench σ} {plan : Plan} {done : CompletionLog.Completions}
  {ds es : List Deed} {p q : Progress σ} {scene : Scene σ}

theorem Move.counts (h : Move b plan done p es q) :
    ∃ more, q.scene.events = p.scene.events ++ more ∧
      more.filter (isEnd true) = (resumptions es).map (finishOf true) ∧
      ∀ k, q.scene.counters.get k = p.scene.counters.get k + UInt64.ofNat (tally es more k) := by
  cases h with
  | @begins trouble d rest survey files ha hp hs hprep =>
    have hresumed : resumptions (Deed.began d :: survey.resumed.map fun (j, r) => .resumed j r) =
      survey.resumed := survey.resumptions_of_resumed
    rw [hresumed]
    exact ⟨survey.resumedEvents, rfl, survey.taken_resumedEvents, survey.get_count d _⟩
  | @stumbles trouble d rest survey error files ha hp hs hprep =>
    have hresumed : resumptions (Deed.began d :: survey.resumed.map fun (j, r) => .resumed j r) =
      survey.resumed := survey.resumptions_of_resumed
    rw [hresumed]
    exact ⟨survey.resumedEvents, rfl, survey.taken_resumedEvents, survey.get_count d _⟩
  | launches ha hq hw =>
    exact ⟨[], (List.append_nil _).symm, rfl,
      fun k => p.scene.counters.get_count_of (by cases k <;> rfl)⟩
  | advances ha hrun hstep =>
    obtain ⟨more, hevents, htaken, hcounts⟩ := hstep.counts
    rw [hstep.enters_nothing.2.2]
    exact ⟨more, hevents, htaken, hcounts⟩
  | @closes a ha hq hrun =>
    exact ⟨[summaryEvent plan.units p.ledger a.domain], rfl, rfl,
      fun k => p.scene.counters.get_of_zero (by cases k <;> rfl)⟩
  | _ =>
    exact ⟨[], (List.append_nil _).symm, rfl,
      fun k => p.scene.counters.get_of_zero (by cases k <;> rfl)⟩

/-- The counters count the deeds of a run and what it tells, on top of what they had. -/
theorem counters_of_follows (hquiet : retries scene.events = [])
    (h : Follows b plan done (start plan scene) ds p) (k : Counter) :
    p.scene.counters.get k =
      scene.counters.get k + UInt64.ofNat (tally ds p.scene.events k) := by
  apply h.induct
  · have hnone : tally [] (start plan scene).scene.events k = 0 := by
      show tally [] scene.events k = 0
      cases k with
      | retries => rw [tally, hquiet, List.length_nil]
      | _ => rfl
    exact scene.counters.get_of_zero hnone
  · intro ds es q r _ _ hm ih
    obtain ⟨more, hevents, -, hcounts⟩ := hm.counts
    rw [hcounts, ih, hevents, tally_append, UInt64.ofNat_add, UInt64.add_assoc]

theorem taken_of_follows (hquiet : scene.events.filter (isEnd true) = [])
    (h : Follows b plan done (start plan scene) ds p) :
    p.scene.events.filter (isEnd true) = (resumptions ds).map (finishOf true) := by
  apply h.induct
  · exact hquiet
  · intro ds es q r _ _ hm ih
    obtain ⟨more, hevents, htaken, -⟩ := hm.counts
    rw [hevents, List.filter_append, ih, htaken, resumptions_append, List.map_append]

theorem tool_of_follows {f : σ → Nat} (hf : ∀ s w j n q, f (b.tool.call s w j n q).2 = f s + 1)
    (h : Follows b plan done (start plan scene) ds p) :
    f p.scene.tool = f scene.tool + (calls ds).length := by
  apply h.induct
  · rfl
  · intro ds es q r _ _ hm ih
    rw [calls_append, List.length_append, ← Nat.add_assoc, ← ih]
    cases hm with
    | begins ha hp hs hprep => rw [Survey.calls_of_resumed]; rfl
    | stumbles ha hp hs hprep => rw [Survey.calls_of_resumed]; rfl
    | advances ha hrun hstep => exact hstep.tool_calls hf
    | _ => rfl

/-- The statistics of the closed domains and of the one in hand. -/
structure Counted (ds : List Deed) (p : Progress σ) : Prop where
  executed : (p.closed.map (·.2.executed)).sum + (p.active.map (·.stats.executed)).getD 0 =
    (collections ds).length
  resumed : (p.closed.map (·.2.resumed)).sum + (p.active.map (·.stats.resumed)).getD 0 =
    (resumptions ds).length

theorem counted_of_follows (h : Follows b plan done (start plan scene) ds p)
    (hf : p.failure = none) : Counted ds p := by
  revert hf
  apply h.induct
  · exact fun _ => ⟨rfl, rfl⟩
  · intro ds es q r _ hf hm ih hr
    obtain ⟨hexecuted, hresumed⟩ := ih hf
    cases hm with
    | @begins trouble d rest survey files ha hp hs hprep =>
      have hcolls : collections (Deed.began d :: survey.resumed.map fun (j, r) => .resumed j r) =
        [] := survey.collections_of_resumed
      have hres : resumptions (Deed.began d :: survey.resumed.map fun (j, r) => .resumed j r) =
        survey.resumed := survey.resumptions_of_resumed
      rw [ha] at hexecuted hresumed
      constructor
      · rw [collections_append, hcolls, List.append_nil]
        exact hexecuted
      · rw [resumptions_append, hres, List.length_append, ← hresumed]
        rfl
    | stumbles ha hp hs hprep => exact nomatch hr
    | @launches a j rest ha hq hw =>
      have hnone : collections [Deed.launched j] = [] ∧ resumptions [Deed.launched j] = [] :=
        ⟨rfl, rfl⟩
      rw [ha] at hexecuted hresumed
      exact ⟨by rwa [collections_append, hnone.1, List.append_nil],
        by rwa [resumptions_append, hnone.2, List.append_nil]⟩
    | @advances a place j stage next scene es ha hrun hstep =>
      obtain ⟨-, hcolls, hres⟩ := hstep.enters_nothing
      rw [ha] at hexecuted hresumed
      exact ⟨by rwa [collections_append, hcolls, List.append_nil],
        by rwa [resumptions_append, hres, List.append_nil]⟩
    | @collects a place j result ha hrun =>
      have hnone : resumptions [Deed.collected j result] = [] := rfl
      rw [ha] at hexecuted hresumed
      constructor
      · rw [collections_append, List.length_append, ← hexecuted]
        rfl
      · rwa [resumptions_append, hnone, List.append_nil]
    | breaks ha hrun => exact nomatch hr
    | @closes a ha hq hrun =>
      rw [ha] at hexecuted hresumed
      rw [List.append_nil]
      constructor
      · rw [← hexecuted]
        simp [closeDomain]
      · rw [← hresumed]
        simp [closeDomain]

end Progress

end Signoff
