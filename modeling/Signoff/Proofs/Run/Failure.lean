import Signoff.Proofs.Run.Agreement
import Signoff.Proofs.Run.Bookkeeping
import Signoff.Proofs.Run.Entries
import Signoff.Proofs.Run.Scheduling

/-!
# Runs that fail

A bookkeeping step that fails and a task that collapses doom the run.  The tasks of the domain in
hand may go on for a while, but no other domain is begun, the run ends with an error, and the files
of the report are as they were before the run (`mishap_ends_run`).
-/

namespace Signoff

open Workspace Deed

namespace Layout

variable {l : Layout} {j : Job} {q : Place}

theorem ReportFile.not_jobFile (h : l.ReportFile q) : ¬ l.JobFile j q := by
  rcases h with rfl | rfl
  · rw [l.place_reportPath]
    exact not_jobFile_below_root "report.json"
  · rw [l.place_summaryPath]
    exact not_jobFile_below_root "report.md"

/-- A folder for a domain takes the place of the report only if the way to the root does. -/
theorem ReportFile.not_mem_folders (h : l.ReportFile q) (hroot : q ∉ l.root.trail) (d : Domain) :
    q ∉ l.folders d := by
  intro hmem
  rcases h with rfl | rfl
  · rw [l.place_reportPath] at hroot hmem
    exact absurd (mem_folders_below_root hroot hmem) (by decide)
  · rw [l.place_summaryPath] at hroot hmem
    exact absurd (mem_folders_below_root hroot hmem) (by decide)

end Layout

namespace Progress

variable {σ : Type} {b : Bench σ} {plan : Plan} {done : CompletionLog.Completions}
  {ds es : List Deed} {p q : Progress σ} {scene : Scene σ}

/-! ## What can go wrong -/

/-- What goes wrong in a step of a run, and the error that comes of it. -/
inductive Mishap (b : Bench σ) (p : Progress σ) : Choice → RunError → Prop
  /-- The folders of a domain cannot be made. -/
  | unprepared {trouble : Trouble} {d : Domain} {rest : List Domain} {error : Error}
      {files : Workspace} : p.active = none → p.pending = d :: rest →
      prepare b trouble p.scene.files d = (.error error, files) →
      Mishap b p (.beginDomain trouble) (.preparation d error)
  /-- The output of a call cannot be saved. -/
  | unwritten {trouble : Trouble} {a : Active} {place : Nat} {j : Job} {attempt : UInt32}
      {i : Invocation} {fault : Fault} : p.active = some a →
      a.running[place]? = some (j, .answered attempt i) →
      (trouble.writing = some fault ∨ trouble.writing = none ∧
        p.scene.files.writeText (b.layout.rawPath j) (i.savedOutput b.timeoutMillis attempt) =
          .error fault) →
      Mishap b p (.advance place trouble) (.unwritten (b.layout.rawPath j) fault)
  /-- The record of a result cannot be saved. -/
  | unrecorded {trouble : Trouble} {a : Active} {place : Nat} {j : Job} {r : JobResult}
      {error : Error} {files : Workspace} : p.active = some a →
      a.running[place]? = some (j, .resolved r) →
      Record.save p.scene.files trouble.saving (b.layout.recordPath j) r = (.error error, files) →
      Mishap b p (.advance place trouble) (.unrecorded (b.layout.recordPath j) error)
  /-- The line of a job cannot be appended to the log. -/
  | unlogged {trouble : Trouble} {a : Active} {place : Nat} {j : Job} {r : JobResult}
      {fault : Fault} : p.active = some a → a.running[place]? = some (j, .recorded r) →
      trouble.writing = some fault →
      Mishap b p (.advance place trouble) (.log (.completionLog p.scene.log.path fault))
  /-- The task of a job collapses in a call. -/
  | collapses {trouble : Trouble} {a : Active} {place : Nat} {j : Job} {attempt : UInt32}
      {tool : σ} : p.active = some a → a.running[place]? = some (j, .ready attempt) →
      b.tool.call p.scene.tool p.scene.files j attempt (Request.ofJob j b.timeoutMillis) =
        (.collapse, tool) →
      Mishap b p (.advance place trouble) .collapse

/-- The run has failed, or one of its tasks is broken. -/
def IsDoomed (p : Progress σ) : Prop :=
  p.failure.isSome = true ∨ ∃ j error, (j, .broken error) ∈ p.tasks

theorem exists_step_of_broken {trouble : Trouble} {a : Active} {place : Nat} {j : Job}
    {stage : Stage} (hf : p.failure = none) (ha : p.active = some a)
    (hr : a.running[place]? = some (j, stage))
    (hadvance : ∃ error s, b.advance? trouble p.scene j stage = some (.broken error, s)) :
    ∃ q, p.step? b plan done (.advance place trouble) = some q ∧ q.IsDoomed := by
  obtain ⟨hlt, -⟩ := List.getElem?_eq_some_iff.mp hr
  obtain ⟨error, s, hadvance⟩ := hadvance
  refine ⟨{ p with
    scene := s, active := some { a with running := a.running.set place (j, .broken error) } },
    ?_, Or.inr ⟨j, error, ?_⟩⟩
  · simp only [step?, hf, ha, advance?, hr, hadvance, Option.isSome_none, Bool.false_eq_true,
      if_false, Option.map_some]
  · simp only [tasks, Option.map_some, Option.getD_some]
    exact List.mem_set hlt _

namespace Mishap

variable {c : Choice} {error : RunError}

theorem exists_step (h : Mishap b p c error) (hf : p.failure = none) :
    ∃ q, p.step? b plan done c = some q ∧ q.IsDoomed := by
  cases h with
  | @unprepared trouble d rest error files ha hp hprep =>
    refine ⟨p.beginDomain b plan done trouble d rest, ?_, Or.inl ?_⟩
    · simp only [step?, hf, ha, hp, Option.isSome_none, Bool.false_eq_true, if_false]
    · simp only [beginDomain, hprep, Option.isSome_some]
  | @unwritten trouble a place j attempt i fault ha hr hwrite =>
    refine exists_step_of_broken hf ha hr
      ⟨.unwritten (b.layout.rawPath j) fault, p.scene, ?_⟩
    rcases hwrite with hwrite | ⟨hnone, hwrite⟩
    · simp only [Bench.advance?, Bench.saveOutput, hwrite]
    · simp only [Bench.advance?, Bench.saveOutput, hnone, hwrite]
  | @unrecorded trouble a place j r error files ha hr hsave =>
    refine exists_step_of_broken hf ha hr
      ⟨.unrecorded (b.layout.recordPath j) error, { p.scene with files }, ?_⟩
    unfold Bench.advance? Bench.recordResult
    dsimp only
    rw [hsave]
  | @unlogged trouble a place j r fault ha hr hwrite =>
    refine exists_step_of_broken hf ha hr
      ⟨.log (.completionLog p.scene.log.path fault), p.scene, ?_⟩
    simp only [Bench.advance?, Bench.logCompletion, hwrite]
  | @collapses trouble a place j attempt tool ha hr hcall =>
    -- counting the call leaves the tool and the files alone
    have hcall' : b.tool.call (p.scene.count .invocations).tool (p.scene.count .invocations).files j
        attempt (Request.ofJob j b.timeoutMillis) = (.collapse, tool) := hcall
    refine exists_step_of_broken hf ha hr
      ⟨.collapse, { p.scene.count .invocations with tool }, ?_⟩
    simp only [Bench.advance?, Bench.callTool, hcall']

theorem isDoomed (h : Mishap b p c error) (hs : p.step? b plan done c = some q) : q.IsDoomed := by
  obtain ⟨q', hq', hdoomed⟩ := @exists_step σ b plan done p c error h (failure_of_step? hs)
  rw [hs, Option.some.injEq] at hq'
  exact hq' ▸ hdoomed

end Mishap

/-! ## What is left to a doomed run -/

namespace IsDoomed

theorem exists_active (h : p.IsDoomed) (hf : p.failure = none) : ∃ a, p.active = some a := by
  rcases h with hfail | ⟨j, error, hj⟩
  · simp [hf] at hfail
  · cases ha : p.active with
    | some a => exact ⟨a, rfl⟩
    | none => simp [tasks, ha] at hj

/-- A broken task stays until it is collected, and then the run has failed. -/
theorem move (h : p.IsDoomed) (hf : p.failure = none) (hm : Move b plan done p es q) :
    q.IsDoomed := by
  obtain ⟨a', ha'⟩ := h.exists_active hf
  rcases h with hfail | ⟨i, error, hi⟩
  · simp [hf] at hfail
  cases hm with
  | begins ha => simp [ha] at ha'
  | stumbles => exact Or.inl rfl
  | @launches a j rest ha hq hw =>
    refine Or.inr ⟨i, error, ?_⟩
    simp only [tasks, ha, Option.map_some, Option.getD_some] at hi
    simp only [launch, tasks, Option.map_some, Option.getD_some]
    exact List.mem_append_left _ hi
  | @advances a place j stage next s es ha hr hstep =>
    refine Or.inr ⟨i, error, ?_⟩
    simp only [tasks, ha, Option.map_some, Option.getD_some] at hi ⊢
    -- a broken task takes no step, so it stands at another place
    obtain ⟨n, hn, hget⟩ := List.mem_iff_getElem.mp hi
    have hne : place ≠ n := by
      rintro rfl
      rw [List.getElem?_eq_getElem hn, hget, Option.some.injEq, Prod.mk.injEq] at hr
      rw [← hr.2] at hstep
      cases hstep
    refine List.mem_iff_getElem.mpr ⟨n, by simpa using hn, ?_⟩
    rw [List.getElem_set_ne hne, hget]
  | @collects a place j r ha hr =>
    refine Or.inr ⟨i, error, ?_⟩
    simp only [tasks, ha, Option.map_some, Option.getD_some] at hi ⊢
    obtain ⟨n, hn, hget⟩ := List.mem_iff_getElem.mp hi
    refine List.mem_eraseIdx_iff_getElem.mpr ⟨n, hn, ?_, hget⟩
    rintro rfl
    rw [List.getElem?_eq_getElem hn, hget] at hr
    simp at hr
  | breaks => exact Or.inl rfl
  | @closes a ha hq hr => simp [tasks, ha, hr] at hi

end IsDoomed

/-- As long as a domain is in hand no other one is begun, and only its own jobs are launched. -/
theorem Move.of_active {a : Active} (hm : Move b plan done p es q) (ha : p.active = some a) :
    (∀ d, .began d ∉ es) ∧ (∀ a', q.active = some a' → a'.domain = a.domain) ∧
      ∀ j, .launched j ∈ es → j ∈ a.queue := by
  cases hm with
  | begins hnone => simp [ha] at hnone
  | stumbles hnone => simp [ha] at hnone
  | @launches a₀ i rest ha₀ hq hw =>
    rw [ha, Option.some.injEq] at ha₀
    subst ha₀
    refine ⟨by simp, fun a' ha' => ?_, fun j hj => ?_⟩
    · rw [← Option.some.inj ha']
    · obtain rfl : j = i := by simpa using hj
      rw [hq]
      exact List.mem_cons_self
  | @advances a₀ place j stage next s es ha₀ hr hstep =>
    rw [ha, Option.some.injEq] at ha₀
    subst ha₀
    refine ⟨hstep.began_not_mem, fun a' ha' => ?_, fun j hj => ?_⟩
    · rw [← Option.some.inj ha']
    · rw [← mem_launches, hstep.enters_nothing.1] at hj
      simp at hj
  | @collects a₀ place j r ha₀ hr =>
    rw [ha, Option.some.injEq] at ha₀
    subst ha₀
    refine ⟨by simp, fun a' ha' => ?_, by simp⟩
    rw [← Option.some.inj ha']
  | breaks => exact ⟨by simp, fun a' ha' => by simp at ha', by simp⟩
  | closes => exact ⟨by simp, fun a' ha' => by simp [closeDomain] at ha', by simp⟩

theorem doomed_of_follows (h : Follows b plan done (start plan scene) ds p) (hp : p.IsDoomed)
    (hq : Follows b plan done p es q) :
    q.IsDoomed ∧ (∀ d, .began d ∉ es) ∧
      (∀ a', q.active = some a' → ∃ a, p.active = some a ∧ a'.domain = a.domain) ∧
      ∀ j, .launched j ∈ es → ∃ a, p.active = some a ∧ j.domain = a.domain := by
  refine hq.induct (motive := fun es q => q.IsDoomed ∧ (∀ d, .began d ∉ es) ∧
    (∀ a', q.active = some a' → ∃ a, p.active = some a ∧ a'.domain = a.domain) ∧
    ∀ j, .launched j ∈ es → ∃ a, p.active = some a ∧ j.domain = a.domain)
    ⟨hp, by simp, fun a ha => ⟨a, ha, rfl⟩, by simp⟩ ?_
  intro es fs q r hfol hf hm ⟨hdoomed, hbegan, hactive, hlaunched⟩
  obtain ⟨a', ha'⟩ := hdoomed.exists_active hf
  obtain ⟨a, ha, hdomain⟩ := hactive a' ha'
  obtain ⟨hnone, hsame, hqueue⟩ := hm.of_active ha'
  refine ⟨hdoomed.move hf hm, fun d hd => ?_, fun a₁ ha₁ => ⟨a, ha, ?_⟩, fun j hj => ?_⟩
  · exact (List.mem_append.mp hd).elim (hbegan d) (hnone d)
  · exact (hsame a₁ ha₁).trans hdomain
  · rcases List.mem_append.mp hj with hj | hj
    · exact hlaunched j hj
    -- what waits is of the domain in hand
    · have hacc := (orderly_of_follows (follows_trans h hfol)).account a' ha'
      have hmem : j ∈ jobsOf plan.units a'.domain :=
        hacc.jobs.mem_iff.mpr (List.mem_append_left _ (hqueue j hj))
      exact ⟨a, ha, (mem_jobsOf.mp hmem).1.trans hdomain⟩

theorem IsDoomed.exists_failure (h : p.IsDoomed) (hstuck : ∀ q, ¬ Step b plan done p q) :
    ∃ error, p.failure = some error := by
  cases hf : p.failure with
  | some error => exact ⟨error, rfl⟩
  | none =>
    obtain ⟨a, ha⟩ := h.exists_active hf
    have hcomplete := isComplete_of_stuck hf hstuck
    simp [isComplete, ha] at hcomplete

end Progress

/-! ## What comes of it -/

namespace Bench

variable {σ : Type} {b : Bench σ} {w : Workspace} {plan : Plan} {runId : RunId} {tool : σ}
  {ds es : List Deed} {p q : Progress σ}

/-- What a run comes to once no step is left. -/
def ending (b : Bench σ) (plan : Plan) (runId : RunId) (p : Progress σ) : Aftermath σ :=
  match p.failure with
  | some error => ⟨.error error, p.scene.files, p.scene.tool, p.scene.waitedMillis⟩
  | none => b.finish plan runId p

theorem fullRun_eq_ending {done : CompletionLog.Completions} {log : LogFile} {files : Workspace}
    (h : b.openLog w plan = (.ok log, files)) :
    b.fullRun w plan runId done tool = b.ending plan runId
      (Progress.runToEnd b plan done (b.openingScene plan runId files log tool)) := by
  unfold fullRun
  rw [h]
  rfl

/-- Wherever a run gets to, also after a failure, what lies at the place of the report is what was
there before the run, unless the place is that of the log or of a folder that is made to open it. -/
theorem Attains.item?_report (h : b.Attains w plan runId tool ds p) (hw : w.Sound) {r : Place}
    (hr : b.layout.ReportFile r) (hlog : r ≠ (b.logAt plan).place)
    (hfolder : r ∉ b.openingFolders plan) : p.scene.files.item? r = w.item? r := by
  obtain ⟨-, done, log, files, -, hopen, hfollows⟩ := h
  have hopened := opened_of_openLog hw hopen
  have hframed := Progress.framed_of_follows (s := b.openingScene plan runId files log tool)
    hopened.sound hopened.keeps hfollows
  have hroot : r ∉ b.layout.root.trail := fun hmem => hfolder (List.mem_append_left _ hmem)
  have hkept := hframed.item?_eq hlog (fun j _ => hr.not_jobFile) fun d _ =>
    hr.not_mem_folders hroot d
  exact hkept.trans (item?_of_openLog hopen hlog hfolder)

/-- Where the log is none of the jobs' files, the lines and the records of the executed jobs are
still there. -/
theorem Attains.written (h : b.Attains w plan runId tool ds p) (hw : w.Sound)
    (hidx : (plan.units.map (·.index)).Nodup) (hdom : plan.domains.Nodup)
    (hapart : b.ResumesApart plan) :
    p.scene.files.contentAt (b.logAt plan).place =
        some (b.logBase w plan ++ (logText ds).toUTF8) ∧
      ∀ j r, .collected j r ∈ ds → (∃ t, .logged j r t ∈ ds) ∧
        p.scene.files.readText (b.layout.recordPath j) = .ok (Record.lineOf r) := by
  obtain ⟨done, scene, -, hopened, hfollows⟩ := h.opened hw
  have hplace := apartFrom_logAt hapart
  have hhoused := Progress.housed_of_follows hidx hdom hopened.sound hopened.keeps hplace hfollows
  refine ⟨hhoused.keeps.contentAt, fun j r hj => ?_⟩
  obtain ⟨t, ht⟩ := (Progress.courses_of_follows hidx hdom hfollows).logged j r (Or.inl hj)
  have htraced := traced_isRecorded hidx hdom hopened.sound hopened.keeps hplace hfollows
  exact ⟨⟨t, ht⟩, readText_of_isRecorded (htraced.logged j r t ht)⟩

theorem Attains.trans {done : CompletionLog.Completions} (h : b.Attains w plan runId tool ds p)
    (hdone : completions w plan = .ok done) (hq : Progress.Follows b plan done p es q) :
    b.Attains w plan runId tool (ds ++ es) q := by
  obtain ⟨log, files, hopen, hfollows⟩ := h.follows hdone
  exact ⟨h.1, done, log, files, hdone, hopen, Progress.follows_trans hfollows hq⟩

/-- On the way to `p` the record of the job was in its file, then its line was logged, and then the
job was entered. -/
def IsBooked (b : Bench σ) (w : Workspace) (plan : Plan) (runId : RunId) (tool : σ)
    (done : CompletionLog.Completions) (ds : List Deed) (p : Progress σ) (j : Job)
    (r : JobResult) : Prop :=
  ∃ before after u, ds = before ++ after ∧ b.Attains w plan runId tool before u ∧
    Progress.Follows b plan done u after p ∧
    u.scene.files.readText (b.layout.recordPath j) = .ok (Record.lineOf r) ∧
    Progress.IsEntered j r after

theorem Attains.isBooked {done : CompletionLog.Completions} (h : b.Attains w plan runId tool ds p)
    (hw : w.Sound) (hdone : completions w plan = .ok done) {j : Job} {r : JobResult}
    (hj : .collected j r ∈ ds) : b.IsBooked w plan runId tool done ds p j r := by
  obtain ⟨log, files, hopen, hfollows⟩ := h.follows hdone
  have hopened := opened_of_openLog hw hopen
  have hbooked : Progress.Booked b plan done
      (.start plan (b.openingScene plan runId files log tool)) ds p :=
    Progress.booked_of_follows hopened.sound hopened.keeps hfollows
  obtain ⟨before, after, u, hds, hbefore, hafter, hread, hentered⟩ := hbooked.entered j r hj
  exact ⟨before, after, u, hds, ⟨h.1, done, log, files, hdone, hopen, hbefore⟩, hafter, hread,
    hentered⟩

/-- A bookkeeping step that fails ends the run cleanly, and so does a task that collapses.  There is
an end to the steps that follow, and then the run gives an error and leaves its files as they are.
Those of the report are as they were before the run, if neither is the log or a folder on the way to
the log or the root.  No other domain is begun, only jobs of the domain in hand are launched, and
none once the failure has been joined.  Each executed job had its record in its file and then its
line in the log before it was entered, and both are still there if the log is none of the jobs'
files; every other result in the ledger was resumed. -/
theorem mishap_ends_run {done : CompletionLog.Completions} {c : Choice} {error : RunError}
    {p' : Progress σ} (hw : w.Sound) (hdone : completions w plan = .ok done)
    (h : b.Attains w plan runId tool ds p) (hmishap : p.Mishap b c error)
    (hstep : p.step? b plan done c = some p') :
    (∀ f : ℕ → Progress σ, f 0 = p' → ∃ n, ¬ Progress.Step b plan done (f n) (f (n + 1))) ∧
      ∀ es q run, Progress.Follows b plan done p' es q →
        run = ds ++ (p.deeds b plan done c ++ es) →
        ((∀ r, ¬ Progress.Step b plan done q r) → ∃ e, b.ending plan runId q =
          ⟨.error e, q.scene.files, q.scene.tool, q.scene.waitedMillis⟩) ∧
        (∀ r, b.layout.ReportFile r → r ≠ (b.logAt plan).place → r ∉ b.openingFolders plan →
          q.scene.files.item? r = w.item? r) ∧
        (∀ d, .began d ∉ es) ∧
        (∀ j, .launched j ∈ es → ∃ a, p'.active = some a ∧ j.domain = a.domain) ∧
        (q.failure.isSome = true → ∀ r, ¬ Progress.Step b plan done q r) ∧
        (∀ j r, .collected j r ∈ run → b.IsBooked w plan runId tool done run q j r) ∧
        (∀ k r, q.ledger.get? k = some r →
          ∃ j, j.key = k ∧ (.collected j r ∈ run ∨ .resumed j r ∈ run)) ∧
        ((plan.units.map (·.index)).Nodup → plan.domains.Nodup → b.ResumesApart plan →
          q.scene.files.contentAt (b.logAt plan).place =
              some (b.logBase w plan ++ (logText run).toUTF8) ∧
            ∀ j r, .collected j r ∈ run → (∃ t, .logged j r t ∈ run) ∧
              q.scene.files.readText (b.layout.recordPath j) = .ok (Record.lineOf r)) := by
  refine ⟨fun f _ => ?_, fun es q run hq hrun => ?_⟩
  · obtain ⟨n, -, hn⟩ := @Progress.exists_not_step_from σ b plan done f
    exact ⟨n, hn⟩
  -- the step that fails belongs to the run as well
  have hstart : Progress.Follows b plan done p (p.deeds b plan done c) p' := by
    simpa using Progress.Follows.step .refl hstep
  have hend : b.Attains w plan runId tool run q := by
    rw [hrun]
    exact h.trans hdone (Progress.follows_trans hstart hq)
  obtain ⟨log, files, -, hfollows⟩ := (h.trans hdone hstart).follows hdone
  obtain ⟨hdoomed, hbegan, -, hlaunched⟩ :=
    Progress.doomed_of_follows hfollows (hmishap.isDoomed hstep) hq
  refine ⟨fun hstuck => ?_, fun r hr => hend.item?_report hw hr, hbegan, hlaunched,
    fun hfailed r ⟨c', hc'⟩ => ?_, fun j r => hend.isBooked hw hdone, fun k r => ?_,
    hend.written hw⟩
  · obtain ⟨e, he⟩ := hdoomed.exists_failure hstuck
    refine ⟨e, ?_⟩
    unfold ending
    rw [he]
  · rw [Progress.failure_of_step? hc'] at hfailed
    cases hfailed
  · obtain ⟨_, _, -, -, hfollows⟩ := hend.opened hw
    exact Progress.source_of_follows hfollows

/-- The first call brings its task down, and nothing is written in the place of the report. -/
theorem mishap_ends_run_first_call :
    ∃ ds p q, (Sample.bench 1 Sample.collapsing).Attains .empty (Sample.plan none) Sample.runId ()
        ds p ∧
      p.Mishap (Sample.bench 1 Sample.collapsing) (.advance 0 noTrouble) .collapse ∧
      p.step? (Sample.bench 1 Sample.collapsing) (Sample.plan none) .empty
        (.advance 0 noTrouble) = some q ∧
      q.scene.files.item? (Layout.mk ⟨"o"⟩).reportPath.place = none := by
  obtain ⟨ds, p, hattains, htest⟩ := @exists_attains Unit (Sample.bench 1 Sample.collapsing) .empty
    (Sample.plan none) Sample.runId () [.beginDomain noTrouble, .launch, .advance 0 noTrouble]
    (fun _ p => p.failure.isNone && p.active.any fun a : Active =>
      decide (a.running[0]? = some (Sample.job, Stage.ready 1)))
    (by decide +kernel)
  rw [Bool.and_eq_true, Option.isNone_iff_eq_none, Option.any_eq_true] at htest
  obtain ⟨hf, a, ha, hr⟩ := htest
  have hmishap : p.Mishap (Sample.bench 1 Sample.collapsing) (.advance 0 noTrouble) .collapse :=
    .collapses ha (of_decide_eq_true hr) rfl
  obtain ⟨q, hq, -⟩ : ∃ q, p.step? (Sample.bench 1 Sample.collapsing) (Sample.plan none) .empty
      (.advance 0 noTrouble) = some q ∧ q.IsDoomed := hmishap.exists_step hf
  have hreport := ((mishap_ends_run sound_empty rfl hattains hmishap hq).2 [] q _ .refl rfl).2.1
    (Layout.mk ⟨"o"⟩).reportPath.place (Or.inl rfl) (by decide) (by decide)
  exact ⟨ds, p, q, hattains, hmishap, hq, hreport⟩

/-- A log below the place of the report makes a folder of it, and the run fails all the same. -/
theorem report_replaced_by_folder :
    ∃ path ds p, path.place ≠ (Layout.mk ⟨"o"⟩).reportPath.place ∧
      path.place ≠ (Layout.mk ⟨"o"⟩).summaryPath.place ∧ Workspace.empty.Sound ∧
      (Sample.bench 1 Sample.collapsing).Attains .empty (Sample.plan (some path)) Sample.runId ()
        ds p ∧
      p.failure = some .collapse ∧
      Workspace.empty.item? (Layout.mk ⟨"o"⟩).reportPath.place = none ∧
      p.scene.files.item? (Layout.mk ⟨"o"⟩).reportPath.place = some .folder := by
  obtain ⟨ds, p, hattains, htest⟩ := @exists_attains Unit (Sample.bench 1 Sample.collapsing) .empty
    (Sample.plan (some ⟨"o/report.json/state.log"⟩)) Sample.runId ()
    [.beginDomain noTrouble, .launch, .advance 0 noTrouble, .advance 0 noTrouble, .collect 0]
    (fun _ p => decide (p.failure = some .collapse) &&
      (p.scene.files.item? (Layout.mk ⟨"o"⟩).reportPath.place).any Item.isFolder)
    (by decide +kernel)
  rw [Bool.and_eq_true, Option.any_eq_true] at htest
  obtain ⟨hfailure, item, hitem, hfolder⟩ := htest
  refine ⟨_, ds, p, by decide, by decide, sound_empty, hattains, of_decide_eq_true hfailure,
    by decide, ?_⟩
  cases item with
  | folder => exact hitem
  | file n content => cases hfolder

end Bench

end Signoff
