import Signoff.Proofs.Run.Scheduling
import Signoff.Proofs.Run.Agreement
import Signoff.Proofs.Run.Standing

/-!
# Dry runs

A dry run calls no tool and writes nothing (`run_of_dryRun`), and enters one result for each job
(`get?_dryLedger`).  That is the result which any other run from the same files would reuse for the
job, and tells of the jobs that such a run would execute that they were not run
(`dry_run_foretells`).
-/

namespace Signoff

open Workspace Deed

def Plan.forReal (plan : Plan) : Plan := { plan with dryRun := false }

namespace Bench

variable {σ : Type} {b : Bench σ} {w : Workspace} {plan : Plan} {runId : RunId}
  {done : CompletionLog.Completions}

/-! ## What is entered -/

def dryLedger (b : Bench σ) (w : Workspace) (plan : Plan) (done : CompletionLog.Completions) :
    Ledger :=
  plan.domains.foldl (listed b.layout w plan done) Ledger.empty

/-- Listing a domain enters for each of its jobs the result that can be reused, or that it was not
run. -/
theorem source_of_listed {l : Layout} {ledger : Ledger} {d : Domain} {k : JobKey} {r : JobResult}
    (h : (listed l w plan done ledger d).get? k = some r) :
    ledger.get? k = some r ∨ ∃ j ∈ jobsOf plan.units d, j.key = k ∧
      (Survey.reusable? w l done j).getD JobResult.notRun = r := by
  unfold listed at h
  dsimp only at h
  rcases Ledger.source_of_foldl _ _ h with hsurvey | ⟨j, hj, hk, hr⟩
  · rcases Survey.source_of_enter _ hsurvey with hold | ⟨j, hk, hj⟩
    · exact Or.inl hold
    · rw [Survey.mem_take_resumed] at hj
      refine Or.inr ⟨j, hj.1, hk, ?_⟩
      rw [hj.2, Option.getD_some]
  · rw [Survey.take_queue, List.mem_filter] at hj
    have hnone : Survey.reusable? w l done j = none := by simpa using hj.2
    refine Or.inr ⟨j, hj.1, hk, ?_⟩
    rw [hnone, Option.getD_none]
    exact hr

theorem source_of_foldl_listed {l : Layout} {domains : List Domain} {ledger : Ledger} {k : JobKey}
    {r : JobResult} (h : (domains.foldl (listed l w plan done) ledger).get? k = some r) :
    ledger.get? k = some r ∨ ∃ d ∈ domains, ∃ j ∈ jobsOf plan.units d, j.key = k ∧
      (Survey.reusable? w l done j).getD JobResult.notRun = r := by
  induction domains generalizing ledger with
  | nil => exact Or.inl h
  | cons d domains ih =>
    rw [List.foldl_cons] at h
    rcases ih h with hlisted | ⟨e, he, hj⟩
    · apply (source_of_listed hlisted).imp_right
      intro hj
      exact ⟨d, List.mem_cons_self, hj⟩
    · exact Or.inr ⟨e, List.mem_cons_of_mem _ he, hj⟩

theorem dryLedger_listed : ∃ stats, Listed plan plan.domains (b.dryLedger w plan done) stats := by
  have hlast := @Listed.foldl σ b w plan done plan.domains
    (Ledger.empty, [], Counters.zero, []) [] listed_empty
  dsimp only at hlast
  rw [foldl_listDomain] at hlast
  exact ⟨_, hlast⟩

/-- Of units with places of their own, a dry run enters what can be reused for the job itself. -/
theorem get?_dryLedger (hidx : (plan.units.map (·.index)).Nodup) {d : Domain}
    (hd : d ∈ plan.domains) {j : Job} (hj : j ∈ jobsOf plan.units d) :
    (b.dryLedger w plan done).get? j.key =
      some ((Survey.reusable? w b.layout done j).getD JobResult.notRun) := by
  obtain ⟨stats, hlisted⟩ := @dryLedger_listed σ b w plan done
  have hthere := hlisted.stored d hd j hj
  unfold Ledger.contains at hthere
  obtain ⟨r, hr⟩ := Option.isSome_iff_exists.mp hthere
  rw [hr]
  rcases source_of_foldl_listed hr with hempty | ⟨e, he, i, hi, hkey, rfl⟩
  · cases hempty
  · rw [eq_of_key hidx (mem_jobsOf.mp hi).2 (mem_jobsOf.mp hj).2 hkey]

/-! ## What is counted -/

theorem get_count_survey (s : Survey) (counters : Counters) {c : Counter} (hc : c ≠ .resumed) :
    (s.count counters).get c = counters.get c := by
  unfold Survey.count
  induction s.resumed generalizing counters with
  | nil => rfl
  | cons e es ih => rw [List.foldl_cons, ih, Counters.get_count, if_neg hc.symm]

/-- A dry run counts nothing but the results that it takes over. -/
theorem get_counters_dryRun {c : Counter} (hc : c ≠ .resumed) :
    (b.dryRun w plan runId done).counters.get c = 0 := by
  have hfold : ∀ (ds : List Domain)
      (state : Ledger × List (Domain × DomainStats) × Counters × List Event),
      (ds.foldl (b.listDomain w plan done) state).2.2.1.get c = state.2.2.1.get c := by
    intro ds
    induction ds with
    | nil => exact fun _ => rfl
    | cons d ds ih =>
      intro state
      rw [List.foldl_cons, ih]
      exact get_count_survey _ _ hc
  show (plan.domains.foldl (b.listDomain w plan done) (Ledger.empty, [], Counters.zero,
    [b.startedEvent plan runId])).2.2.1.get c = 0
  rw [hfold]
  cases c <;> rfl

/-! ## What a dry run tells -/

/-- The ledger tells of the jobs of a domain what the deeds are: of a job that is reused, the result
on record, and of all others that they were not run. -/
def Foretells (b : Bench σ) (w : Workspace) (plan : Plan) (ledger : Ledger) (ds : List Deed)
    (d : Domain) : Prop :=
  ∀ j ∈ jobsOf plan.units d,
    (∀ r, Reused ds j r → Record.cached? w b.layout j = some r ∧ ledger.get? j.key = some r) ∧
    ((∀ r, ¬ Reused ds j r) → ledger.get? j.key = some JobResult.notRun)

/-- A dry run calls no tool, as it comes to the same with every other one, and leaves all files as
they are.  It enters one result for each unit of each domain, and these foretell every domain that
a run which is no dry run begins on the same files.  The units need indices of their own, the files
have to lie in folders, and the path of the output folder may not go through a missing folder that
it leaves again. -/
theorem dry_run_foretells {tool : σ} {result : RunResult} (hdry : plan.dryRun = true)
    (hw : w.Sound) (htree : w.IsTree) (hroot : b.layout.RootStands w)
    (hidx : (plan.units.map (·.index)).Nodup)
    (h : (b.run w plan runId tool).result = .ok result) :
    (∀ (other : Tool σ) (state : σ), ({ b with tool := other } : Bench σ).run w plan runId state =
      { b.run w plan runId tool with tool := state }) ∧
    (∀ c, c ≠ .resumed → result.counters.get c = 0) ∧
    (b.run w plan runId tool).files = w ∧
    ∃ done, completions w plan = .ok done ∧
      result.report = Report.build plan.units plan.domains (b.dryLedger w plan done) true runId
        (b.clock 1) ∧
      (∀ d ∈ plan.domains, (((b.dryLedger w plan done).ofDomain d).map (·.1)).Perm
        (plan.units.map fun u => ⟨d, u.index⟩)) ∧
      (∀ k, (b.dryLedger w plan done).contains k = true → k.domain ∈ plan.domains) ∧
      ∀ runId' tool' ds p, b.Attains w plan.forReal runId' tool' ds p →
        ∀ d, .began d ∈ ds → b.Foretells w plan (b.dryLedger w plan done) ds d := by
  have hresult : ∀ (other : Tool σ) (state : σ) (done : CompletionLog.Completions),
      completions w plan = .ok done →
      ({ b with tool := other } : Bench σ).run w plan runId state =
        ⟨.ok (b.dryRun w plan runId done), w, state, 0⟩ := by
    intro other state done hdone
    unfold run
    rw [hdone]
    show (if plan.dryRun then _ else _) = _
    rw [if_pos hdry]
    rfl
  obtain ⟨hfiles, done, hdone, hreport⟩ := run_of_dryRun hdry h
  have hrun := hresult b.tool tool done hdone
  have hdryRun : result = b.dryRun w plan runId done := by
    have heq : (b.run w plan runId tool).result = .ok (b.dryRun w plan runId done) := by
      rw [hrun]
    rw [heq] at h
    exact (Except.ok.inj h).symm
  obtain ⟨stats, hlisted⟩ := @dryLedger_listed σ b w plan done
  refine ⟨fun other state => ?_, fun c hc => ?_, hfiles, done, hdone, ?_, fun d hd => ?_,
    fun k hk => ?_, fun runId' tool' ds p hattains d hd j hj => ?_⟩
  · rw [hresult other state done hdone, hrun]
  · rw [hdryRun]
    exact get_counters_dryRun hc
  · rw [hreport, report_of_dryRun]
    rfl
  · exact Progress.perm_of_keys hlisted.ordered hlisted.keys hidx (hlisted.stored d hd)
  · obtain ⟨d, hd, j, hj, rfl⟩ := hlisted.keys k hk
    have hdomain := (mem_jobsOf.mp hj).1
    show j.domain ∈ plan.domains
    rw [hdomain]
    exact hd
  · have hmem : d ∈ plan.domains := hattains.mem_domains hd
    have hreused := fun r => hattains.reused_iff hw htree hroot hidx hdone hd hj r
    rw [get?_dryLedger hidx hmem hj]
    refine ⟨fun r hr => ?_, fun hnone => ?_⟩
    · have hstands := (hreused r).mp hr
      obtain ⟨entry, -, -, hcached⟩ := reusable?_eq_some_iff.mp hstands
      exact ⟨hcached, by rw [hstands, Option.getD_some]⟩
    · cases hstands : Survey.reusable? w b.layout done j with
      | none => rfl
      | some r => exact absurd ((hreused r).mpr hstands) (hnone r)

end Bench

/-! ## A small log -/

namespace Sample

/-- The result of the first job in its record. -/
def recorded : JobResult := ⟨.passed, "", .none, none, 1⟩

/-- The files of a run that has executed the first of two jobs. -/
def left : Workspace where
  items := [(["o"], .folder), (["o", "results"], .folder), (["o", "results", "timing"], .folder),
    (["o", "results", "timing", "00000_a.result"], .file 0 "PASSED|1|||\n".toUTF8),
    (["o", "state.log"], .file 1 "TIMING|0|a|2024-01-01T00:00:00+00:00\n".toUTF8)]
  nextNumber := 2

def noted : CompletionLog.Completions := ⟨[(⟨.timing, 0⟩, ⟨"a", ⟨1704067200, 0⟩⟩)]⟩

/-- A dry run that goes on with the log. -/
def rehearsal : Plan := { plan (some ⟨"o/state.log"⟩) with dryRun := true }

theorem isTree_left : left.IsTree := by
  apply isTree_of_items
  intro e he
  simp only [left, List.mem_cons, List.not_mem_nil, or_false] at he
  rcases he with rfl | rfl | rfl | rfl | rfl <;> rfl

theorem sound_left : left.Sound := by
  apply sound_of_items
  · intro e he n c hc
    simp only [left, List.mem_cons, List.not_mem_nil, or_false] at he
    rcases he with rfl | rfl | rfl | rfl | rfl <;> cases hc <;> decide
  · intro e he f hf n c d hc hd
    simp only [left, List.mem_cons, List.not_mem_nil, or_false] at he hf
    rcases he with rfl | rfl | rfl | rfl | rfl <;> cases hc <;>
      rcases hf with rfl | rfl | rfl | rfl | rfl <;> cases hd <;> rfl

end Sample

namespace Bench

/-- A dry run on what a run left foretells that the first job is reused and the second one is
executed. -/
theorem dry_run_foretells_two_jobs :
    Sample.left.Sound ∧ Sample.left.IsTree ∧
      (Sample.bench 1 Sample.silent).layout.RootStands Sample.left ∧
      ∃ result ds p,
        ((Sample.bench 1 Sample.silent).run Sample.left Sample.rehearsal Sample.runId ()).result =
          .ok result ∧
        ((Sample.bench 1 Sample.silent).run Sample.left Sample.rehearsal Sample.runId ()).files =
          Sample.left ∧
        (Sample.bench 1 Sample.silent).Attains Sample.left Sample.rehearsal.forReal Sample.runId ()
          ds p ∧
        Reused ds Sample.job Sample.recorded ∧
        .launched ⟨.timing, Sample.unit 1 "b"⟩ ∈ ds ∧
        (Sample.bench 1 Sample.silent).Foretells Sample.left Sample.rehearsal
          ((Sample.bench 1 Sample.silent).dryLedger Sample.left Sample.rehearsal Sample.noted)
          ds .timing := by
  have hroot : (Sample.bench 1 Sample.silent).layout.RootStands Sample.left := by
    have hpre : ∀ q ∈ (Sample.bench 1 Sample.silent).layout.root.trail,
        q <+: (Sample.bench 1 Sample.silent).layout.root.place := by decide
    exact fun q hq => Or.inl (hpre q hq)
  have hnoted : completions Sample.left Sample.rehearsal = .ok Sample.noted := by decide +kernel
  obtain ⟨result, hresult⟩ := exists_eq_ok (show ((Sample.bench 1 Sample.silent).run Sample.left
    Sample.rehearsal Sample.runId ()).result.toOption.isSome = true by decide +kernel)
  obtain ⟨ds, p, hattains, htest⟩ := @exists_attains Unit (Sample.bench 1 Sample.silent)
    Sample.left Sample.rehearsal.forReal Sample.runId () [.beginDomain noTrouble, .launch]
    (fun ds _ => decide (.began .timing ∈ ds ∧ .resumed Sample.job Sample.recorded ∈ ds ∧
      .launched Sample.job ∉ ds ∧ .launched ⟨.timing, Sample.unit 1 "b"⟩ ∈ ds))
    (by decide +kernel)
  obtain ⟨hbegan, hresumed, hnot, hlaunched⟩ := of_decide_eq_true htest
  obtain ⟨-, -, hfiles, done, hdone, -, -, -, htold⟩ := dry_run_foretells rfl Sample.sound_left
    Sample.isTree_left hroot (by decide) hresult
  obtain rfl : done = Sample.noted := Except.ok.inj (hdone.symm.trans hnoted)
  exact ⟨Sample.sound_left, Sample.isTree_left, hroot, result, ds, p, hresult, hfiles, hattains,
    ⟨hresumed, hnot⟩, hlaunched, htold _ _ _ _ hattains _ hbegan⟩

/-! ## What a dry run cannot know -/

/-- A run that is no dry run comes to its end, and what the dry run entered tells otherwise of a
domain. -/
def Misses (b : Bench Unit) (w : Workspace) (plan : Plan) : Prop :=
  ∃ result done ds p d, (b.run w plan Sample.runId ()).result = .ok result ∧
    completions w plan = .ok done ∧ b.Attains w plan.forReal Sample.runId () ds p ∧
    (p.isComplete = true ∨ p.failure ≠ none) ∧ d ∈ plan.domains ∧
    ¬ b.Foretells w plan (b.dryLedger w plan done) ds d

theorem misses_of_play {b : Bench Unit} {w : Workspace} {plan : Plan}
    {done : CompletionLog.Completions} {cs : List Choice} (hdry : plan.dryRun = true)
    (hdone : completions w plan = .ok done) {d : Domain} (hd : d ∈ plan.domains)
    {test : List Deed → Bool}
    (htest : ∀ ds, test ds = true → ¬ b.Foretells w plan (b.dryLedger w plan done) ds d)
    (h : (b.play w plan.forReal Sample.runId () cs).any
      (fun e => (e.2.isComplete || e.2.failure.isSome) && test e.1) = true) :
    b.Misses w plan := by
  have hresult : (b.run w plan Sample.runId ()).result =
      .ok (b.dryRun w plan Sample.runId done) := by
    unfold run
    rw [hdone]
    dsimp only
    rw [if_pos hdry]
  obtain ⟨ds, p, hattains, hp⟩ := exists_attains
    (fun ds p => (p.isComplete || p.failure.isSome) && test ds) h
  rw [Bool.and_eq_true, Bool.or_eq_true, Option.isSome_iff_ne_none] at hp
  exact ⟨_, done, ds, p, d, hresult, hdone, hattains, hp.1, hd, htest ds hp.2⟩

theorem not_foretells_of_reused {b : Bench σ} {ledger : Ledger} {ds : List Deed} {d : Domain}
    {j : Job} (hj : j ∈ jobsOf plan.units d) {r : JobResult}
    (hget : ledger.get? j.key ≠ some r)
    (h : decide (.resumed j r ∈ ds ∧ .launched j ∉ ds) = true) :
    ¬ b.Foretells w plan ledger ds d := by
  have hr : .resumed j r ∈ ds ∧ .launched j ∉ ds := of_decide_eq_true h
  intro htold
  exact hget ((htold j hj).1 r hr).2

/-- The dry run entered a result for a job that is given none of an earlier run. -/
theorem not_foretells_of_idle {b : Bench σ} {ledger : Ledger} {ds : List Deed} {d : Domain}
    {j : Job} (hj : j ∈ jobsOf plan.units d) (hget : ledger.get? j.key ≠ some JobResult.notRun)
    (h : decide (j ∉ (resumptions ds).map (·.1)) = true) : ¬ b.Foretells w plan ledger ds d := by
  intro htold
  apply hget
  apply (htold j hj).2
  intro r hr
  exact of_decide_eq_true h (List.mem_map_of_mem (mem_resumptions.mpr hr.1))

/-- A dry run need not foretell what is executed if two units share an index, if the path of the
output folder leaves a missing folder again, or of a domain in front of which another one cannot be
prepared. -/
theorem dry_run_misses :
    (Sample.bench 1 Sample.silent).Misses Sample.left
      { Sample.rehearsal with units := [Sample.unit 0 "a", Sample.unit 0 "b"] } ∧
    ({ Sample.bench 1 Sample.silent with layout := ⟨⟨"x/../o"⟩⟩ } : Bench Unit).Misses Sample.left
      Sample.rehearsal ∧
    (Sample.bench 1 Sample.silent).Misses (Sample.left.create ["o", "raw"] ByteArray.empty)
      { Sample.rehearsal with domains := [.formal, .timing] } := by
  refine ⟨?_, ?_, ?_⟩
  -- the ledger has one result for both units, and only one of them is in the log
  · exact @misses_of_play (Sample.bench 1 Sample.silent) Sample.left
      { Sample.rehearsal with units := [Sample.unit 0 "a", Sample.unit 0 "b"] } Sample.noted
      Sample.secondJob rfl (by decide +kernel) .timing (by decide) _
      (fun ds => @not_foretells_of_idle _ _ _ _ _ ds .timing ⟨.timing, Sample.unit 0 "b"⟩
        (by decide) (by decide +kernel)) (by decide +kernel)
  -- the record is reached once the missing folder was made
  · exact @misses_of_play { Sample.bench 1 Sample.silent with layout := ⟨⟨"x/../o"⟩⟩ } Sample.left
      Sample.rehearsal Sample.noted Sample.secondJob rfl (by decide +kernel) .timing (by decide) _
      (fun ds => @not_foretells_of_reused _ _ _ _ _ ds .timing Sample.job (by decide)
        Sample.recorded (by decide +kernel)) (by decide +kernel)
  · exact @misses_of_play (Sample.bench 1 Sample.silent)
      (Sample.left.create ["o", "raw"] ByteArray.empty)
      { Sample.rehearsal with domains := [.formal, .timing] } Sample.noted
      [.beginDomain noTrouble] rfl (by decide +kernel) .timing (by decide) _
      (fun ds => @not_foretells_of_idle _ _ _ _ _ ds .timing Sample.job (by decide)
        (by decide +kernel)) (by decide +kernel)

end Bench

end Signoff
