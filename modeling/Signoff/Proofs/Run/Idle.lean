import Signoff.Proofs.Run.Agreement

/-!
# Runs with nothing left to do

When an earlier result stands for each job of a plan and the folders of its domains are there, a run
launches nothing and leaves the files alone, in any order of its steps (`idle_of_follows`).  Its
schedule then closes every domain (`complete_of_settled`), so it gives a result if the report can be
written (`exists_run_of_settled`).
-/

namespace Signoff

open Workspace Deed

/-- An earlier result stands for each job of the plan, and making the folders changes nothing. -/
structure Bench.Settled {σ : Type} (b : Bench σ) (plan : Plan) (done : CompletionLog.Completions)
    (w : Workspace) : Prop where
  reusable : ∀ d ∈ plan.domains, ∀ j ∈ jobsOf plan.units d,
    (Survey.reusable? w b.layout done j).isSome = true
  prepared : ∀ d ∈ plan.domains, b.layout.prepare w d = (.ok (), w)

namespace Progress

variable {σ : Type} {b : Bench σ} {plan : Plan} {done : CompletionLog.Completions}
  {ds : List Deed} {p q : Progress σ} {scene : Scene σ}

/-- Nothing was done but to begin domains and to take over results that the survey finds. -/
structure Idle (b : Bench σ) (done : CompletionLog.Completions) (scene : Scene σ) (ds : List Deed)
    (p : Progress σ) : Prop where
  files : p.scene.files = scene.files
  tool : p.scene.tool = scene.tool
  waiting : ∀ a, p.active = some a → a.queue = [] ∧ a.running = []
  deeds : ∀ e ∈ ds, (∃ d, e = .began d) ∨
    ∃ j r, e = .resumed j r ∧ Survey.reusable? scene.files b.layout done j = some r

namespace Idle

variable (h : Idle b done scene ds p) {j : Job} {r : JobResult}

include h

theorem not_called (n : UInt32) : .called j n ∉ ds := by
  intro hj
  obtain ⟨d, hd⟩ | ⟨i, r, hi, -⟩ := h.deeds _ hj
  · cases hd
  · cases hi

theorem not_logged (t : Time.Instant) : .logged j r t ∉ ds := by
  intro hj
  obtain ⟨d, hd⟩ | ⟨i, r, hi, -⟩ := h.deeds _ hj
  · cases hd
  · cases hi

theorem not_collected : .collected j r ∉ ds := by
  intro hj
  obtain ⟨d, hd⟩ | ⟨i, r, hi, -⟩ := h.deeds _ hj
  · cases hd
  · cases hi

theorem reusable_of_resumed (hj : .resumed j r ∈ ds) :
    Survey.reusable? scene.files b.layout done j = some r := by
  obtain ⟨d, hd⟩ | ⟨i, r, hi, hreuse⟩ := h.deeds _ hj
  · cases hd
  · cases hi
    exact hreuse

end Idle

/-- A survey of jobs with earlier results leaves none to execute. -/
theorem queue_of_settled {w : Workspace} (h : b.Settled plan done w) {d : Domain}
    (hd : d ∈ plan.domains) : (Survey.take w b.layout done plan.units d).queue = [] := by
  refine List.filter_eq_nil_iff.mpr fun j hj => ?_
  rw [Option.isNone_iff_eq_none]
  exact Option.isSome_iff_ne_none.mp (h.reusable d hd j hj)

theorem files_of_prepare {trouble : Trouble} {w w' : Workspace} {d : Domain}
    {result : Except Error Unit} (h : b.Settled plan done w) (hd : d ∈ plan.domains)
    (hprep : prepare b trouble w d = (result, w')) : w' = w := by
  unfold prepare at hprep
  split at hprep
  · exact (Prod.mk.inj hprep).2.symm
  · rw [h.prepared d hd] at hprep
    exact (Prod.mk.inj hprep).2.symm

theorem deeds_of_survey {w : Workspace} {l : Layout} {units : List DesignUnit} {d : Domain}
    {e : Deed} (he : e ∈ Deed.began d :: (Survey.take w l done units d).resumed.map
      fun (j, r) => Deed.resumed j r) :
    (∃ d, e = .began d) ∨ ∃ j r, e = .resumed j r ∧ Survey.reusable? w l done j = some r := by
  obtain rfl | ⟨j, r, hj, rfl⟩ := Survey.mem_deeds.mp he
  · exact Or.inl ⟨d, rfl⟩
  · exact Or.inr ⟨j, r, rfl, (Survey.mem_take_resumed.mp hj).2⟩

/-- Wherever a run gets to in any order of its steps, it has only taken over results. -/
theorem idle_of_follows (hs : b.Settled plan done scene.files)
    (h : Follows b plan done (start plan scene) ds p) : Idle b done scene ds p := by
  refine h.induct (motive := Idle b done scene) ⟨rfl, rfl, nofun, by simp⟩ ?_
  intro ds es p q hfol hf hm ih
  have hmem : ∀ {d rest}, p.pending = d :: rest → d ∈ plan.domains :=
    (orderly_of_follows hfol).mem_domains_of_pending hf
  rw [← ih.files] at hs
  -- only a domain can be begun or closed, as no job waits or runs
  cases hm with
  | begins ha hp hsurvey hprep =>
    subst hsurvey
    have hd := hmem hp
    refine ⟨(files_of_prepare hs hd hprep).trans ih.files, ih.tool, fun a ha => ?_, fun e he => ?_⟩
    · rw [← Option.some.inj ha]
      exact ⟨queue_of_settled hs hd, rfl⟩
    · rcases List.mem_append.mp he with he | he
      · exact ih.deeds e he
      · exact ih.files ▸ deeds_of_survey he
  | stumbles ha hp hsurvey hprep =>
    subst hsurvey
    refine ⟨(files_of_prepare hs (hmem hp) hprep).trans ih.files, ih.tool, ih.waiting,
      fun e he => ?_⟩
    rcases List.mem_append.mp he with he | he
    · exact ih.deeds e he
    · exact ih.files ▸ deeds_of_survey he
  | launches ha hq _ =>
    rw [(ih.waiting _ ha).1] at hq
    cases hq
  | advances ha hr _ =>
    rw [(ih.waiting _ ha).2] at hr
    cases hr
  | collects ha hr =>
    rw [(ih.waiting _ ha).2] at hr
    cases hr
  | breaks ha hr =>
    rw [(ih.waiting _ ha).2] at hr
    cases hr
  | closes ha _ _ =>
    exact ⟨ih.files, ih.tool, nofun, by simpa using ih.deeds⟩

theorem failure_of_chosen (hs : b.Settled plan done scene.files)
    (h : Follows b plan done (start plan scene) ds p)
    (hstep : p.step? b plan done (p.choose b) = some q) : q.failure = none := by
  have hidle := idle_of_follows hs h
  have hf := failure_of_step? hstep
  rw [← hidle.files] at hs
  unfold choose at hstep
  cases ha : p.active with
  | none =>
    rw [ha] at hstep
    dsimp only at hstep
    cases hp : p.pending with
    | nil => simp [step?, hf, ha, hp] at hstep
    | cons d rest =>
      have hprep : prepare b noTrouble p.scene.files d = (.ok (), p.scene.files) :=
        hs.prepared d ((orderly_of_follows h).mem_domains_of_pending hf hp)
      simp only [step?, hf, ha, hp, Option.isSome_none, Bool.false_eq_true, if_false,
        Option.some.injEq] at hstep
      rw [← hstep]
      unfold beginDomain
      dsimp only
      rw [hprep]
      exact hf
  | some a =>
    obtain ⟨hq, hr⟩ := hidle.waiting a ha
    rw [ha] at hstep
    simp only [step?, Active.choose, hf, ha, hq, hr, Option.isSome_none, Bool.false_eq_true,
      List.isEmpty_nil, Bool.not_true, Bool.and_false, List.findIdx?_nil, if_false, if_true,
      Bool.and_self, Option.some.injEq] at hstep
    rw [← hstep]
    exact hf

theorem failure_of_proceed (hs : b.Settled plan done scene.files) (fuel : Nat)
    (h : Follows b plan done (start plan scene) ds p) (hf : p.failure = none) :
    (proceed b plan done fuel p).failure = none := by
  induction fuel generalizing p ds with
  | zero => exact hf
  | succ fuel ih =>
    unfold proceed
    split
    · exact hf
    next q hstep => exact ih (.step h hstep) (failure_of_chosen hs h hstep)

theorem complete_of_settled (hs : b.Settled plan done scene.files) :
    (∃ ds, Follows b plan done (start plan scene) ds (runToEnd b plan done scene)) ∧
      (runToEnd b plan done scene).isComplete = true := by
  obtain ⟨hfollows, hend⟩ := @runToEnd_settled σ b plan done scene
  exact ⟨hfollows, hend (failure_of_proceed hs _ .refl rfl)⟩

end Progress

namespace Bench

variable {σ : Type} {b : Bench σ} {plan : Plan} {done : CompletionLog.Completions} {w : Workspace}
  {log : LogFile} {runId : RunId} {tool : σ}

/-- A run gives a result if it opens its log without a change, finds an earlier result for each job
and can write the report.  It does not touch the tool. -/
theorem exists_run_of_settled (hdry : plan.dryRun = false) (hdone : completions w plan = .ok done)
    (hopen : b.openLog w plan = (.ok log, w)) (hs : b.Settled plan done w)
    (hpublish : ∀ report, ∃ w', b.publish w report = (.ok (), w')) :
    (∃ r, (b.run w plan runId tool).result = .ok r) ∧ (b.run w plan runId tool).tool = tool := by
  have hstart : b.Settled plan done (b.openingScene plan runId w log tool).files := hs
  obtain ⟨⟨ds, hfollows⟩, hcomplete⟩ := Progress.complete_of_settled hstart
  have hidle := Progress.idle_of_follows hs hfollows
  set p := Progress.runToEnd b plan done (b.openingScene plan runId w log tool) with hp
  have hrun : b.run w plan runId tool = b.finish plan runId p := by
    unfold run fullRun
    rw [hdone]
    dsimp only
    rw [if_neg (by simp [hdry]), hopen]
    dsimp only
    rw [← hp, Progress.failure_of_isComplete hcomplete]
  obtain ⟨w', hw'⟩ := hpublish (Report.build plan.units plan.domains p.ledger false runId
    (b.clock p.scene.readings))
  have hfiles : p.scene.files = w := hidle.files
  rw [hrun]
  unfold finish
  dsimp only
  rw [hfiles, hw']
  exact ⟨⟨_, rfl⟩, hidle.tool⟩

end Bench

end Signoff
