import Signoff.Proofs.Run.Termination
import Signoff.Proofs.Run.Traces

/-!
# What a run can come to

`Bench.Attains` says how far a run that is no dry run can get, by any order of its steps, and
`Bench.Finishes` when it gives a result.  What `Bench.run` computes is one of these
(`exists_finishes_of_run`); `Bench.play` goes through a chosen order of steps.
-/

namespace Signoff

open Workspace Deed

namespace Bench

variable {σ : Type}

/-- A run gets to the progress by the deeds. -/
def Attains (b : Bench σ) (w : Workspace) (plan : Plan) (runId : RunId) (tool : σ)
    (ds : List Deed) (p : Progress σ) : Prop :=
  plan.dryRun = false ∧ ∃ done log files, completions w plan = .ok done ∧
    b.openLog w plan = (.ok log, files) ∧
    Progress.Follows b plan done (.start plan (b.openingScene plan runId files log tool)) ds p

/-- A run closes all its domains by the deeds and gives a result. -/
def Finishes (b : Bench σ) (w : Workspace) (plan : Plan) (runId : RunId) (tool : σ)
    (ds : List Deed) (p : Progress σ) (r : RunResult) : Prop :=
  b.Attains w plan runId tool ds p ∧ p.isComplete = true ∧ (b.finish plan runId p).result = .ok r

variable {b : Bench σ} {w : Workspace} {plan : Plan} {runId : RunId} {tool : σ}

theorem exists_finishes_of_run {r : RunResult} (hdry : plan.dryRun = false)
    (h : (b.run w plan runId tool).result = .ok r) :
    ∃ ds p, b.Finishes w plan runId tool ds p r ∧
      (b.run w plan runId tool).files = (b.finish plan runId p).files := by
  unfold run at h ⊢
  cases hdone : completions w plan with
  | error error => simp [hdone] at h
  | ok done =>
    rw [hdone] at h
    simp only [hdry, Bool.false_eq_true, if_false] at h ⊢
    unfold fullRun at h ⊢
    cases hopen : b.openLog w plan with
    | mk opened files =>
      rw [hopen] at h
      cases opened with
      | error error => simp at h
      | ok log =>
        dsimp only at h ⊢
        -- the schedule of the run is one order of steps among all of them
        obtain ⟨⟨ds, hfollows⟩, hend⟩ := @Progress.runToEnd_settled σ b plan done
          (b.openingScene plan runId files log tool)
        cases hf : (Progress.runToEnd b plan done
            (b.openingScene plan runId files log tool)).failure with
        | some error => simp [hf] at h
        | none =>
          rw [hf] at h
          exact ⟨ds, _, ⟨⟨hdry, done, log, files, hdone, hopen, hfollows⟩, hend hf, h⟩, rfl⟩

/-- The log of an earlier run that is gone on with is none of the files of the plan's jobs. -/
def ResumesApart (b : Bench σ) (plan : Plan) : Prop :=
  ∀ path, plan.resume = some path → Progress.ApartFrom b plan path.place

/-- A log of the run's own lies right below the root, where no job has a file. -/
theorem not_jobFile_logAt (h : plan.resume = none) (j : Job) :
    ¬ b.layout.JobFile j (b.logAt plan).place := by
  unfold logAt
  rw [h, Option.getD_none, b.layout.place_logPath]
  exact Layout.not_jobFile_below_root "state.log"

theorem apartFrom_logAt (h : b.ResumesApart plan) :
    Progress.ApartFrom b plan (b.logAt plan).place := by
  cases hres : plan.resume with
  | some path =>
    unfold logAt
    rw [hres]
    exact h path hres
  | none => exact fun d _ j _ => not_jobFile_logAt hres j

/-- How a run got to where it is, from the opening of its log. -/
theorem Attains.opened {ds : List Deed} {p : Progress σ} (h : b.Attains w plan runId tool ds p)
    (hw : w.Sound) : ∃ done scene, completions w plan = .ok done ∧
      b.Opened plan w scene.log scene.files ∧
      Progress.Follows b plan done (.start plan scene) ds p := by
  obtain ⟨-, done, log, files, hdone, hopen, hfollows⟩ := h
  exact ⟨done, b.openingScene plan runId files log tool, hdone, opened_of_openLog hw hopen,
    hfollows⟩

/-- A run goes on with what the log was read as. -/
theorem Attains.follows {ds : List Deed} {p : Progress σ} {done : CompletionLog.Completions}
    (h : b.Attains w plan runId tool ds p) (hdone : completions w plan = .ok done) :
    ∃ log files, b.openLog w plan = (.ok log, files) ∧
      Progress.Follows b plan done (.start plan (b.openingScene plan runId files log tool)) ds
        p := by
  obtain ⟨-, done', log, files, hdone', hopen, hfollows⟩ := h
  rw [hdone, Except.ok.injEq] at hdone'
  subst hdone'
  exact ⟨log, files, hopen, hfollows⟩

end Bench

/-! ## A chosen order of steps -/

namespace Progress

variable {σ : Type} {b : Bench σ} {plan : Plan} {done : CompletionLog.Completions}

/-- Takes the chosen steps in turn. -/
def play (b : Bench σ) (plan : Plan) (done : CompletionLog.Completions) :
    List Choice → Progress σ → Option (List Deed × Progress σ)
  | [], p => some ([], p)
  | c :: cs, p =>
    (p.step? b plan done c).bind fun q =>
      (play b plan done cs q).map fun (ds, r) => (p.deeds b plan done c ++ ds, r)

theorem follows_of_play {cs : List Choice} {p q : Progress σ} {ds : List Deed}
    (h : play b plan done cs p = some (ds, q)) : Follows b plan done p ds q := by
  induction cs generalizing p ds with
  | nil =>
    rw [play, Option.some.injEq, Prod.mk.injEq] at h
    rw [← h.1, ← h.2]
    exact .refl
  | cons c cs ih =>
    rw [play, Option.bind_eq_some_iff] at h
    obtain ⟨r, hr, h⟩ := h
    rw [Option.map_eq_some_iff] at h
    obtain ⟨⟨es, q'⟩, hplay, heq⟩ := h
    rw [Prod.mk.injEq] at heq
    rw [← heq.1]
    rw [heq.2] at hplay
    -- the first step, and then all the others
    have hstep : Follows b plan done p (p.deeds b plan done c) r := by
      simpa using Follows.step .refl hr
    exact follows_trans hstep (ih hplay)

end Progress

namespace Bench

variable {σ : Type} {b : Bench σ} {w : Workspace} {plan : Plan} {runId : RunId} {tool : σ}

/-- Opens the log and takes the chosen steps in turn. -/
def play (b : Bench σ) (w : Workspace) (plan : Plan) (runId : RunId) (tool : σ)
    (cs : List Choice) : Option (List Deed × Progress σ) :=
  match completions w plan, b.openLog w plan with
  | .ok done, (.ok log, files) =>
    if plan.dryRun then none
    else Progress.play b plan done cs (.start plan (b.openingScene plan runId files log tool))
  | _, _ => none

theorem attains_of_play {cs : List Choice} {ds : List Deed} {p : Progress σ}
    (h : b.play w plan runId tool cs = some (ds, p)) : b.Attains w plan runId tool ds p := by
  unfold play at h
  split at h
  next done log files hdone hopen =>
    cases hdry : plan.dryRun with
    | true => simp [hdry] at h
    | false =>
      rw [hdry] at h
      exact ⟨hdry, done, log, files, hdone, hopen, Progress.follows_of_play h⟩
  next => simp at h

/-- An order of steps leads to where a test holds. -/
theorem exists_attains {cs : List Choice} (test : List Deed → Progress σ → Bool)
    (h : (b.play w plan runId tool cs).any (fun e => test e.1 e.2) = true) :
    ∃ ds p, b.Attains w plan runId tool ds p ∧ test ds p = true := by
  cases hp : b.play w plan runId tool cs with
  | none => simp [hp] at h
  | some e =>
    obtain ⟨ds, p⟩ := e
    rw [hp] at h
    exact ⟨ds, p, attains_of_play hp, h⟩

theorem exists_eq_ok {ε α : Type} {x : Except ε α} (h : x.toOption.isSome = true) :
    ∃ a, x = .ok a := by
  cases x with
  | error e => simp [Except.toOption] at h
  | ok a => exact ⟨a, rfl⟩

/-- An order of steps leads to a result where a test holds. -/
theorem exists_finishes {cs : List Choice} (test : List Deed → Progress σ → Bool)
    (h : (b.play w plan runId tool cs).any (fun e => e.2.isComplete &&
      (b.finish plan runId e.2).result.toOption.isSome && test e.1 e.2) = true) :
    ∃ ds p r, b.Finishes w plan runId tool ds p r ∧ test ds p = true := by
  obtain ⟨ds, p, hattains, htest⟩ := exists_attains (fun ds p => p.isComplete &&
    (b.finish plan runId p).result.toOption.isSome && test ds p) h
  rw [Bool.and_eq_true, Bool.and_eq_true] at htest
  obtain ⟨r, hr⟩ := exists_eq_ok htest.1.2
  exact ⟨ds, p, r, ⟨hattains, htest.1.1, hr⟩, htest.2⟩

end Bench

end Signoff
