import Signoff.Proofs.Run.Jobs
import Signoff.Proofs.Run.Sample
import Signoff.Proofs.Run.Termination

/-!
# Scheduling is safe and complete

The run of a plan whose units have places of their own, over every order of its steps: how many
jobs run, where the jobs of the domain in hand are, that each is launched at most once and only
after the domains before it, that every run ends, and what the ledger holds then.  A dry run, which
takes no steps, accounts for the same jobs.
-/

namespace Signoff

namespace Progress

open Deed

variable {σ : Type} {b : Bench σ} {plan : Plan} {done : CompletionLog.Completions}
  {ds : List Deed} {p q : Progress σ}

/-! ## The domain in hand -/

theorem nodup_of_keys {jobs : List Job} (h : (jobs.map (·.key)).Nodup) : jobs.Nodup :=
  List.Nodup.of_map _ h

/-- The jobs that were launched for the domain are among its jobs, each once. -/
theorem nodup_launches {a : Active} {l : Ledger} {cur : List Deed}
    (h : a.Account b.width plan.units cur l) (hidx : (plan.units.map (·.index)).Nodup) :
    (launches cur).Nodup := by
  have hjobs := nodup_of_keys (nodup_jobsOf hidx a.domain)
  rw [h.jobs.nodup_iff] at hjobs
  rw [h.launched.nodup_iff]
  -- launched jobs run or were executed, and these are parts of the account
  refine (List.nodup_append.mp hjobs).2.1.sublist ?_
  exact List.Sublist.append_left (List.sublist_append_left _ _) _

/-- A job is launched by a step of its own domain, with all earlier domains closed. -/
theorem launched_in_turn (h : Orderly b plan ds p) {c : Choice}
    (hs : p.step? b plan done c = some q) {j : Job}
    (hj : .launched j ∈ p.deeds b plan done c) :
    plan.domains = p.closed.map (·.1) ++ j.domain :: p.pending ∧
      ∀ d ∈ p.closed.map (·.1), ∀ i ∈ jobsOf plan.units d, p.ledger.contains i.key = true := by
  have hf := failure_of_step? hs
  have hmove := move_of_step? hs
  cases hd : p.deeds b plan done c with
  | nil => simp [hd] at hj
  | cons e es =>
    rw [hd] at hj hmove
    -- only a launch launches
    cases hmove with
    | begins ha hp hsurvey hprep =>
      have := (List.mem_map.mp ((List.mem_cons.mp hj).resolve_left (by simp)))
      obtain ⟨⟨i, r⟩, -, hne⟩ := this
      simp at hne
    | stumbles ha hp hsurvey hprep =>
      have := (List.mem_map.mp ((List.mem_cons.mp hj).resolve_left (by simp)))
      obtain ⟨⟨i, r⟩, -, hne⟩ := this
      simp at hne
    | @launches a i rest ha hq hw =>
      have hij : j = i := by simpa using hj
      subst hij
      have hmem : j ∈ jobsOf plan.units a.domain := by
        rw [(h.account a ha).jobs.mem_iff, hq]
        simp
      rw [(mem_jobsOf.mp hmem).1]
      exact ⟨by rw [h.domains hf, ha]; rfl, h.stored⟩
    | advances ha hr hstep =>
      have hnone := hstep.enters_nothing.1
      rw [← mem_launches, hnone] at hj
      simp at hj
    | collects ha hr => simp at hj

/-! ## The domains that are closed -/

/-- A ledger of jobs of the plan has exactly one result for each unit of a domain all of whose
jobs are in it. -/
theorem perm_of_keys {l : Ledger} {domains : List Domain} (ho : l.Ordered)
    (hk : ∀ k, l.contains k = true → ∃ d ∈ domains, ∃ j ∈ jobsOf plan.units d, j.key = k)
    (hidx : (plan.units.map (·.index)).Nodup) {d : Domain}
    (hd : ∀ j ∈ jobsOf plan.units d, l.contains j.key = true) :
    ((l.ofDomain d).map (·.1)).Perm (plan.units.map fun u => ⟨d, u.index⟩) := by
  have hkeys : (plan.units.map fun u => JobKey.mk d u.index) =
      (jobsOf plan.units d).map (·.key) := by
    simp [jobsOf, Job.key]
  rw [hkeys]
  -- the keys of the domain in the ledger are those of its jobs, neither more nor fewer
  refine ho.ofDomain_perm (nodup_jobsOf hidx d) fun k => ⟨fun hmem => ?_, fun hmem => ?_⟩
  · obtain ⟨j, hj, rfl⟩ := List.mem_map.mp hmem
    exact ⟨(mem_jobsOf.mp hj).1, hd j hj⟩
  · obtain ⟨d', -, j, hj, rfl⟩ := hk k hmem.2
    have hdom : d' = d := (mem_jobsOf.mp hj).1.symm.trans hmem.1
    exact List.mem_map.mpr ⟨j, hdom ▸ hj, rfl⟩

/-- A run that can take no further step has failed or has closed every domain. -/
theorem isComplete_of_stuck (hf : p.failure = none) (hstuck : ∀ q, ¬ Step b plan done p q) :
    p.isComplete = true := by
  by_contra hc
  -- otherwise the schedule itself would have a step to choose
  obtain ⟨q, hq⟩ : ∃ q, p.step? b plan done (p.choose b) = some q :=
    exists_step hf (Bool.eq_false_iff.mpr hc)
  exact hstuck q ⟨_, hq⟩

theorem closed_of_isComplete (h : Orderly b plan ds p) (hc : p.isComplete = true) :
    p.closed.map (·.1) = plan.domains := by
  simp only [isComplete, Bool.and_eq_true, Option.isNone_iff_eq_none, List.isEmpty_iff] at hc
  obtain ⟨⟨hf, ha⟩, hp⟩ := hc
  rw [h.domains hf, ha, hp]
  simp

end Progress

/-! ## Dry runs -/

namespace Bench

variable {σ : Type} {b : Bench σ} {w : Workspace} {plan : Plan} {done : CompletionLog.Completions}

/-- What a dry run has found out about the domains that it went through. -/
structure Listed (plan : Plan) (ds : List Domain) (l : Ledger)
    (stats : List (Domain × DomainStats)) : Prop where
  domains : stats.map (·.1) = ds
  stored : ∀ d ∈ ds, ∀ j ∈ jobsOf plan.units d, l.contains j.key = true
  keys : ∀ k, l.contains k = true → ∃ d ∈ ds, ∃ j ∈ jobsOf plan.units d, j.key = k
  stats : ∀ e ∈ stats, e.2.executed + e.2.resumed + e.2.skipped = plan.units.length
  ordered : l.Ordered

theorem listed_empty : Listed plan [] Ledger.empty [] where
  domains := rfl
  stored d hd := by simp at hd
  keys k hk := by simp [Ledger.contains] at hk
  stats e he := by simp at he
  ordered := Ledger.ordered_empty

/-- Listing one more domain. -/
theorem Listed.listDomain {ds : List Domain} {l : Ledger} {stats : List (Domain × DomainStats)}
    (h : Listed plan ds l stats) (d : Domain) (counters : Counters) (events : List Event) :
    let next := b.listDomain w plan done (l, stats, counters, events) d
    Listed plan (ds ++ [d]) next.1 next.2.1 := by
  intro next
  have hperm := Survey.take_perm w b.layout done plan.units d
  have hcontains : ∀ k, next.1.contains k = true ↔
      (∃ j ∈ jobsOf plan.units d, j.key = k) ∨ l.contains k = true := by
    intro k
    simp only [next, Bench.listDomain, Ledger.contains_foldl, Survey.contains_enter, hperm.mem_iff,
      List.mem_append, List.mem_map]
    constructor
    · rintro (⟨j, hj, rfl⟩ | ⟨e, he, rfl⟩ | hk)
      · exact Or.inl ⟨j, Or.inl hj, rfl⟩
      · exact Or.inl ⟨e.1, Or.inr ⟨e, he, rfl⟩, rfl⟩
      · exact Or.inr hk
    · rintro (⟨j, hj | ⟨e, he, rfl⟩, rfl⟩ | hk)
      · exact Or.inl ⟨j, hj, rfl⟩
      · exact Or.inr (Or.inl ⟨e, he, rfl⟩)
      · exact Or.inr (Or.inr hk)
  refine ⟨?_, fun d' hd' j hj => ?_, fun k hk => ?_, fun e he => ?_, ?_⟩
  · simp [next, Bench.listDomain, h.domains]
  · rw [hcontains]
    rcases List.mem_append.mp hd' with hd' | hd'
    · exact Or.inr (h.stored d' hd' j hj)
    · rw [List.mem_singleton] at hd'
      exact Or.inl ⟨j, hd' ▸ hj, rfl⟩
  · rcases (hcontains k).mp hk with hj | hk
    · exact ⟨d, by simp, hj⟩
    · obtain ⟨d', hd', hj⟩ := h.keys k hk
      exact ⟨d', by simp [hd'], hj⟩
  · simp only [next, Bench.listDomain, List.mem_append, List.mem_singleton] at he
    rcases he with he | rfl
    · exact h.stats e he
    · have hlen := hperm.length_eq
      simp only [jobsOf, List.length_map, List.length_append] at hlen
      dsimp only
      omega
  · exact (Survey.ordered_enter _ h.ordered).foldl _ _ _

/-- Listing all the domains of a plan. -/
theorem Listed.foldl (ds : List Domain)
    {state : Ledger × List (Domain × DomainStats) × Counters × List Event} {before : List Domain}
    (h : Listed plan before state.1 state.2.1) :
    let last := ds.foldl (b.listDomain w plan done) state
    Listed plan (before ++ ds) last.1 last.2.1 := by
  -- the domains listed so far move from the list to those before
  induction ds generalizing before state with
  | nil => simpa using h
  | cons d ds ih =>
    obtain ⟨l, stats, counters, events⟩ := state
    have hnext := ih (@Listed.listDomain σ b w plan done before l stats h d counters events)
    rw [List.append_assoc, List.singleton_append] at hnext
    exact hnext

theorem dryRun_listed (runId : RunId) :
    ∃ l, (b.dryRun w plan runId done).report =
        Report.build plan.units plan.domains l true runId (b.clock 1) ∧
      Listed plan plan.domains l (b.dryRun w plan runId done).stats := by
  have hlast := @Listed.foldl σ b w plan done plan.domains
    (Ledger.empty, [], Counters.zero, [b.startedEvent plan runId]) [] listed_empty
  exact ⟨_, rfl, hlast⟩

end Bench

/-! ## The run of a plan -/

namespace Progress

open Deed

variable {σ : Type}

/-- Scheduling is safe and complete, for any number of slots, any completions of an earlier run and
any order of steps.  Wherever a run gets to, the jobs that run fit into the slots, and those that
wait, run, were executed or were resumed make up the domain; a job is launched once, and after the
domains before its own are stored.  No run goes on for ever; one that stops without a failure has
one result for each unit of each domain, and a dry run has, too. -/
theorem scheduling (b : Bench σ) (plan : Plan) (done : CompletionLog.Completions)
    (scene : Scene σ) (hidx : (plan.units.map (·.index)).Nodup) :
    (∀ ds p, Follows b plan done (start plan scene) ds p →
      (∀ a, p.active = some a →
        a.running.length ≤ max b.slots 1 ∧
        (jobsOf plan.units a.domain).Nodup ∧
        (jobsOf plan.units a.domain).Perm (a.queue ++ (a.running.map (·.1) ++
          ((collections (current ds)).map (·.1) ++ (resumptions (current ds)).map (·.1)))) ∧
        (launches (current ds)).Nodup ∧
        (launches (current ds)).Perm
          (a.running.map (·.1) ++ (collections (current ds)).map (·.1))) ∧
      (∀ c q, p.step? b plan done c = some q → ∀ j, .launched j ∈ p.deeds b plan done c →
        plan.domains = p.closed.map (·.1) ++ j.domain :: p.pending ∧
        ∀ d ∈ p.closed.map (·.1), ∀ i ∈ jobsOf plan.units d, p.ledger.contains i.key = true) ∧
      (∀ e ∈ p.closed,
        ((p.ledger.ofDomain e.1).map (·.1)).Perm (plan.units.map fun u => ⟨e.1, u.index⟩) ∧
        e.2.executed + e.2.resumed + e.2.skipped = plan.units.length) ∧
      ((∀ q, ¬ Step b plan done p q) → p.failure = none →
        p.isComplete = true ∧ p.closed.map (·.1) = plan.domains)) ∧
    (∀ f : ℕ → Progress σ, f 0 = start plan scene →
      ∃ n < fuelFor b plan, ¬ Step b plan done (f n) (f (n + 1))) ∧
    (∀ w runId, ∃ l, (b.dryRun w plan runId done).report =
        Report.build plan.units plan.domains l true runId (b.clock 1) ∧
      (b.dryRun w plan runId done).stats.map (·.1) = plan.domains ∧
      ∀ e ∈ (b.dryRun w plan runId done).stats,
        ((l.ofDomain e.1).map (·.1)).Perm (plan.units.map fun u => ⟨e.1, u.index⟩) ∧
        e.2.executed + e.2.resumed + e.2.skipped = plan.units.length) := by
  refine ⟨fun ds p h => ?_, exists_not_step scene, fun w runId => ?_⟩
  · have ho := orderly_of_follows h
    refine ⟨fun a ha => ?_, fun c q hs j hj => launched_in_turn ho hs hj, fun e he => ?_,
      fun hstuck hf => ?_⟩
    · have hacc := ho.account a ha
      refine ⟨?_, nodup_of_keys (nodup_jobsOf hidx a.domain), hacc.jobs,
        nodup_launches hacc hidx, hacc.launched⟩
      rw [← b.width_eq_max]
      exact hacc.room
    · exact ⟨perm_of_keys ho.ordered ho.keys hidx (ho.stored e.1 (List.mem_map_of_mem he)),
        ho.stats e he⟩
    · have hc := isComplete_of_stuck hf hstuck
      exact ⟨hc, closed_of_isComplete ho hc⟩
  · obtain ⟨l, hreport, hl⟩ := @Bench.dryRun_listed σ b w plan done runId
    refine ⟨l, hreport, hl.domains, fun e he => ⟨?_, hl.stats e he⟩⟩
    have hd : e.1 ∈ plan.domains := hl.domains ▸ List.mem_map_of_mem he
    exact perm_of_keys hl.ordered hl.keys hidx (hl.stored e.1 hd)

/-- A small plan is run to its end with two slots. -/
theorem scheduling_two_units :
    ∃ ds p, Follows (Sample.bench 2 Sample.silent) (Sample.plan none) .empty
        (start (Sample.plan none) (Sample.scene 2 Sample.silent)) ds p ∧
      p.isComplete = true ∧ ∃ e ∈ p.closed, e.1 = .timing ∧
        ((p.ledger.ofDomain e.1).map (·.1)).Perm [⟨e.1, 0⟩, ⟨e.1, 1⟩] ∧
        e.2.executed + e.2.resumed + e.2.skipped = 2 := by
  obtain ⟨⟨ds, hfollows⟩, hend⟩ := @runToEnd_settled Unit (Sample.bench 2 Sample.silent)
    (Sample.plan none) .empty (Sample.scene 2 Sample.silent)
  have hsafe := (scheduling (Sample.bench 2 Sample.silent) (Sample.plan none) .empty
    (Sample.scene 2 Sample.silent) (by decide)).1 ds _ hfollows
  have hclosed : (runToEnd (Sample.bench 2 Sample.silent) (Sample.plan none) .empty
      (Sample.scene 2 Sample.silent)).closed = [(.timing, ⟨2, 0, 0⟩)] := by decide +kernel
  refine ⟨ds, _, hfollows, hend (by decide +kernel), (.timing, ⟨2, 0, 0⟩), ?_, rfl,
    hsafe.2.2.1 _ ?_⟩
  all_goals
    rw [hclosed]
    exact List.mem_singleton_self _

end Progress

end Signoff
