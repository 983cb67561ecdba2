import Signoff.Proofs.Run.Attained
import Signoff.Proofs.Run.Sample
import Signoff.Proofs.Run.Traces

/-!
# The record comes before the log line

A task logs its job only when the record is in its file, and the record stays there.  So every line
that a run has appended names a job with a complete record, however the tasks interleave and
however the run ends (`record_before_log`).
-/

namespace Signoff

open Workspace Deed

namespace Bench

variable {σ : Type} {b : Bench σ} {w : Workspace} {plan : Plan} {runId : RunId} {tool : σ}
  {ds : List Deed} {p : Progress σ}

/-- A job that is past recording has its record in its file. -/
def IsRecorded (b : Bench σ) (w : Workspace) (j : Job) (stage : Stage) : Prop :=
  ∀ r, stage = .recorded r ∨ stage = .finished r →
    w.Leads (b.layout.recordPath j) ∧
      w.contentAt (b.layout.recordPath j).place = some (Record.lineOf r).toUTF8

theorem isLocal_isRecorded (b : Bench σ) : Progress.IsLocal b b.IsRecorded := by
  intro w w' j stage hcontent hfolders h r hr
  obtain ⟨hleads, hrecord⟩ := h r hr
  exact ⟨hleads.mono hfolders, (hcontent _ (Or.inr rfl)).trans hrecord⟩

/-- Each step of a task keeps the record where it has to be. -/
theorem TaskMove.isRecorded {s s' : Scene σ} {j : Job} {stage next : Stage} {es : List Deed}
    {place : Place} {content : ByteArray} (h : b.TaskMove s j stage es next s')
    (hw : s.files.Sound) (hk : s.log.Keeps s.files place content)
    (hplace : ¬ b.layout.JobFile j place)
    (hprep : ∀ q ∈ b.layout.folders j.domain, s.files.item? q = some .folder)
    (hrec : b.IsRecorded s.files j stage) : b.IsRecorded s'.files j next := by
  intro r hr
  -- a record appears when it is saved, and logging leaves it alone
  cases h with
  | @records _ r' _ hsave =>
    have hr' : r' = r := by simpa using hr
    subst hr'
    obtain ⟨hleads, hstores⟩ := Record.save_eq_ok hw hprep hsave
    exact ⟨hleads, hstores.contentAt_here⟩
  | @logs r' _ _ hlog =>
    have hr' : r' = r := by simpa using hr
    subst hr'
    obtain ⟨hleads, hrecord⟩ := hrec _ (Or.inl rfl)
    obtain ⟨-, hstores⟩ := hk.record hw hlog
    refine ⟨hleads.mono fun q hq => hstores.folder_iff.mpr hq, ?_⟩
    rw [← hrecord]
    refine hstores.contentAt_eq fun heq => hplace ?_
    exact Or.inr heq.symm
  | _ => simp at hr

theorem readText_of_isRecorded {j : Job} {r : JobResult}
    (h : b.IsRecorded w j (.finished r)) :
    w.readText (b.layout.recordPath j) = .ok (Record.lineOf r) := by
  obtain ⟨hleads, hrecord⟩ := h r (Or.inr rfl)
  exact readText_eq_ok_iff.mpr ⟨hleads, hrecord⟩

theorem traced_isRecorded {scene : Scene σ} {done : CompletionLog.Completions} {place : Place}
    {base : ByteArray} (hidx : (plan.units.map (·.index)).Nodup) (hdom : plan.domains.Nodup)
    (hw : scene.files.Sound) (hk : scene.log.Keeps scene.files place base)
    (hapart : Progress.ApartFrom b plan place)
    (h : Progress.Follows b plan done (.start plan scene) ds p) :
    Progress.Traced plan b.IsRecorded ds p := by
  refine Progress.traced_of_follows hidx hdom hw hk hapart b.isLocal_isRecorded
    (fun d _ j _ r hr => by simp at hr) ?_ h
  intro ds es p a n j stage next s hfol hf ha hr hmove hrec
  have hhoused := Progress.housed_of_follows hidx hdom hw hk hapart hfol
  have ho := Progress.orderly_of_follows hfol
  have hj := (ho.account a ha).mem_jobsOf_of_running (List.mem_of_getElem? hr)
  have hprep := (Progress.framed_of_follows hw hk hfol).prepared_of_running ho hf
    (Progress.began_of_active hfol hf ha) ha hr
  exact hmove.isRecorded hhoused.sound hhoused.keeps (hapart _ (ho.mem_domains hf ha) j hj) hprep
    hrec

/-- The record comes before the log line.  Wherever a run gets to that does not go on with a log
among its own jobs' files, also after a failure: the log has the lines of the logged jobs behind
what it held, the record of each of them reads as its result, and the results of executed jobs in
the ledger have both.  Every other result in the ledger was resumed. -/
theorem record_before_log (hw : w.Sound) (hidx : (plan.units.map (·.index)).Nodup)
    (hdom : plan.domains.Nodup) (hapart : b.ResumesApart plan)
    (h : b.Attains w plan runId tool ds p) :
    p.scene.files.contentAt (b.logAt plan).place =
        some (b.logBase w plan ++ (logText ds).toUTF8) ∧
      (∀ j r t, .logged j r t ∈ ds →
        p.scene.files.readText (b.layout.recordPath j) = .ok (Record.lineOf r)) ∧
      (∀ j r, .collected j r ∈ ds →
        p.ledger.get? j.key = some r ∧ (∃ t, .logged j r t ∈ ds) ∧
        p.scene.files.readText (b.layout.recordPath j) = .ok (Record.lineOf r)) ∧
      (∀ k r, p.ledger.get? k = some r →
        ∃ j, j.key = k ∧ (.collected j r ∈ ds ∨ .resumed j r ∈ ds)) := by
  obtain ⟨done, scene, -, hopened, hfollows⟩ := h.opened hw
  have hapart := apartFrom_logAt hapart
  have hcourses := Progress.courses_of_follows hidx hdom hfollows
  have hhoused := Progress.housed_of_follows hidx hdom hopened.sound hopened.keeps hapart hfollows
  -- a logged job counts as finished, so its record is in its file
  have htraced := traced_isRecorded hidx hdom hopened.sound hopened.keeps hapart hfollows
  have hlogged : ∀ j r t, .logged j r t ∈ ds →
      p.scene.files.readText (b.layout.recordPath j) = .ok (Record.lineOf r) := fun j r t hj =>
    readText_of_isRecorded (htraced.logged j r t hj)
  refine ⟨hhoused.keeps.contentAt, hlogged, fun j r hj => ?_, fun k r => (hcourses.entered k r).mp⟩
  obtain ⟨t, ht⟩ := hcourses.logged j r (Or.inl hj)
  exact ⟨(hcourses.entered j.key r).mpr ⟨j, rfl, Or.inl hj⟩, ⟨t, ht⟩, hlogged j r t ht⟩

/-- The first job of a small plan is executed and leaves its record. -/
theorem record_before_log_first_job :
    ∃ ds p, (Sample.bench 1 Sample.silent).Attains .empty (Sample.plan none) Sample.runId () ds p ∧
      .collected Sample.job Sample.result ∈ ds ∧
      p.scene.files.readText ⟨"o/results/timing/00000_a.result"⟩ =
        .ok (Record.lineOf Sample.result) := by
  obtain ⟨ds, p, hattains, htest⟩ := @exists_attains Unit
    (Sample.bench 1 Sample.silent) .empty (Sample.plan none) Sample.runId () Sample.firstJob
    (fun ds _ => ds.contains (.collected Sample.job Sample.result)) (by decide +kernel)
  have hcollected : .collected Sample.job Sample.result ∈ ds := by simpa using htest
  have hbooks := record_before_log sound_empty (by decide) (by decide)
    (fun path hpath => by simp [Sample.plan] at hpath) hattains
  exact ⟨ds, p, hattains, hcollected, (hbooks.2.2.1 _ _ hcollected).2.2⟩

/-- A run that goes on with a log at the place of a record puts the record in the place of the log:
the job is executed and entered, and its line is gone. -/
theorem log_replaced_by_record :
    ∃ path ds p, Workspace.empty.Sound ∧
      ((Sample.plan (some path)).units.map (·.index)).Nodup ∧
      (Sample.plan (some path)).domains.Nodup ∧
      (Sample.bench 1 Sample.silent).Attains .empty (Sample.plan (some path)) Sample.runId () ds p ∧
      .collected Sample.job Sample.result ∈ ds ∧
      ∃ text, p.scene.files.readText path = .ok text ∧
        (CompletionLog.read text).lookup? Sample.job.key = none := by
  obtain ⟨ds, p, hattains, htest⟩ := @exists_attains Unit
    (Sample.bench 1 Sample.silent) .empty
    (Sample.plan (some ⟨"o/results/timing/00000_a.result"⟩)) Sample.runId () Sample.firstJob
    (fun ds p => ds.contains (.collected Sample.job Sample.result) &&
      match p.scene.files.readText ⟨"o/results/timing/00000_a.result"⟩ with
      | .ok text => ((CompletionLog.read text).lookup? Sample.job.key).isNone
      | .error _ => false)
    (by decide +kernel)
  rw [Bool.and_eq_true] at htest
  refine ⟨_, ds, p, sound_empty, by decide, by decide, hattains, by simpa using htest.1, ?_⟩
  have hread := htest.2
  split at hread
  next text htext => exact ⟨text, htext, by simpa using hread⟩
  next => simp at hread

end Bench

end Signoff
