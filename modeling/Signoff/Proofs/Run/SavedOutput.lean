import Signoff.Command.Program
import Signoff.Proofs.Report.Rows
import Signoff.Proofs.Run.Failure
import Signoff.Proofs.Run.Sample

/-!
# The saved output has the verdict

Every attempt overwrites the saved output of its job, and a timeout saves another text than the
tool's.  The last text to be saved is the one that was judged, and no other job writes to its place.
So a job that came to a verdict leaves a text with that verdict, for whoever classifies it again
(`saved_output_reclassifies`).  Only a log that the run was told to go on with can lie in the place
of the text, and then the log line is part of what is classified (`log_line_classified`).
-/

namespace Signoff

open Workspace Deed

/-- The verdict that a result holds. -/
def JobResult.verdict (r : JobResult) : Verdict := ⟨r.status, r.details, r.figures⟩

/-- The result of a task that has one. -/
def Stage.result? : Stage → Option JobResult
  | .resolved r | .recorded r | .finished r => some r
  | _ => none

namespace Invocation

/-- A final attempt leaves the text that it was judged by. -/
theorem classify_savedOutput {i : Invocation} {d : Domain} {timeoutMillis : Nat} {v : Verdict}
    (h : i.judge d timeoutMillis = .final v) (attempt : UInt32) :
    d.classify (i.savedOutput timeoutMillis attempt) = v := by
  unfold judge at h
  unfold savedOutput
  cases he : i.exit with
  | timedOut => simp [he] at h
  | success =>
    rw [he] at h
    rw [if_neg (by simp)]
    exact Attempt.final.inj h
  | code n =>
    rw [he] at h
    rw [if_neg (by simp)]
    dsimp only at h
    split at h
    · exact Attempt.final.inj h
    · cases h

end Invocation

namespace Bench

variable {σ : Type} {b : Bench σ} {w : Workspace} {plan : Plan} {runId : RunId} {tool : σ}
  {ds : List Deed} {p : Progress σ} {place : Place}

/-- A job that came to a verdict has a text with that verdict in its file.  Nothing is said of a
file in the given place. -/
def IsSaved (b : Bench σ) (place : Place) (w : Workspace) (j : Job) (stage : Stage) : Prop :=
  ∀ r, stage.result? = some r → r.status ≠ .missing → r.status ≠ .error →
    (b.layout.rawPath j).place ≠ place →
    r.raw = some (b.layout.rawPath j) ∧
      ∃ text, w.readText (b.layout.rawPath j) = .ok text ∧ j.domain.classify text = r.verdict

theorem isLocalTo_isSaved (b : Bench σ) (place : Place) :
    Progress.IsLocalTo (fun j q => q = (b.layout.rawPath j).place ∧ q ≠ place)
      (b.IsSaved place) := by
  intro w w' j stage hcontent hfolders h r hr hmissing herror hplace
  obtain ⟨hraw, text, hread, hverdict⟩ := h r hr hmissing herror hplace
  exact ⟨hraw, text, readText_mono hread hfolders (hcontent _ ⟨rfl, hplace⟩), hverdict⟩

/-! ## Along a task -/

section Step

variable {s s' : Scene σ} {j : Job} {stage next : Stage} {es : List Deed}

/-- A step that keeps the result and does not touch the job's text. -/
theorem IsSaved.carry (h : b.IsSaved place s.files j stage)
    (hresult : next.result? = stage.result?) (hreach : b.Reach place j es s s')
    (htext : (b.layout.rawPath j).place ≠ place →
      s'.files.contentAt (b.layout.rawPath j).place =
        s.files.contentAt (b.layout.rawPath j).place) :
    b.IsSaved place s'.files j next := by
  have hkept : b.IsSaved place s'.files j stage := by
    refine b.isLocalTo_isSaved place s.files s'.files j stage (fun q hq => ?_)
      (fun q => (hreach.folders q).mpr) h
    obtain ⟨heq, hne⟩ := hq
    rw [heq] at hne ⊢
    exact htext hne
  exact fun r hr => hkept r (hresult ▸ hr)

/-- Each step of a task leaves the text of its verdict where it has to be. -/
theorem TaskMove.isSaved (h : b.TaskMove s j stage es next s') (hw : s.files.Sound)
    (hc : s.log.ConfinedTo s.files place)
    (hprep : ∀ q ∈ b.layout.folders j.domain, s.files.item? q = some .folder)
    (hsaved : b.IsSaved place s.files j stage) : b.IsSaved place s'.files j next := by
  have hreach := h.reach hw hc hprep
  -- the verdict comes with its text; the record and the log line go elsewhere
  cases h with
  | @accepts attempt i files v hwrite hjudge =>
    intro r hr _ _ _
    obtain rfl := Option.some.inj hr
    exact ⟨rfl, _, readText_of_writeText hwrite, Invocation.classify_savedOutput hjudge attempt⟩
  | records hsave =>
    obtain ⟨-, hstores⟩ := Record.save_eq_ok hw hprep hsave
    exact hsaved.carry rfl hreach fun _ => hstores.contentAt_eq Layout.rawPath_ne_recordPath
  | logs hlog =>
    exact hsaved.carry rfl hreach fun hplace => contentAt_congr ((hc.record hlog).2 _ hplace)
  -- the other ways to a result come to no verdict
  | misses =>
    intro r hr hmissing
    obtain rfl := Option.some.inj hr
    exact absurd rfl hmissing
  | refuses | givesUp =>
    intro r hr _ herror
    obtain rfl := Option.some.inj hr
    exact absurd rfl herror
  | _ =>
    intro r hr
    cases hr

end Step

/-! ## Along a run -/

theorem traced_isSaved {scene : Scene σ} {done : CompletionLog.Completions} {base : ByteArray}
    (hidx : (plan.units.map (·.index)).Nodup) (hdom : plan.domains.Nodup)
    (hw : scene.files.Sound) (hk : scene.log.Keeps scene.files place base)
    (h : Progress.Follows b plan done (.start plan scene) ds p) :
    Progress.Traced plan (b.IsSaved place) ds p := by
  refine Progress.traced_of_own hidx hdom hw hk (b.isLocalTo_isSaved place)
    (fun i q hq => Or.inl hq.1) (fun d _ i _ hq => hq.2 rfl) (fun d _ j _ r hr => by cases hr) ?_ h
  intro ds es p a n j stage next s hfol hf ha hr hmove hsaved
  have hframed := Progress.framed_of_follows hw hk hfol
  have hprep := hframed.prepared_of_running (Progress.orderly_of_follows hfol) hf
    (Progress.began_of_active hfol hf ha) ha hr
  exact hmove.isSaved hframed.sound hframed.confined hprep hsaved

/-- What can be read from a file that is not the report's can still be read when it is there. -/
theorem readText_of_finish {path : Path} {text : String}
    (hpath : ¬ b.layout.ReportFile path.place) (h : p.scene.files.readText path = .ok text) :
    (b.finish plan runId p).files.readText path = .ok text := by
  refine finish_keeps (P := fun v => v.readText path = .ok text) ?_ h
  intro v v' report written hreport hwrite hv
  have hstores := (write_eq_ok hwrite).2
  have hne : path.place ≠ report.place := fun heq => hpath (heq ▸ hreport)
  exact readText_mono hv (fun q => hstores.folder_iff.mpr) (hstores.contentAt_eq hne)

/-- What a complete run has in its ledger stands in its report. -/
theorem exists_row_of_finish {r : RunResult} {j : Job} {result : JobResult}
    (h : (b.finish plan runId p).result = .ok r) (hd : j.domain ∈ plan.domains)
    (hu : j.unit ∈ plan.units) (hledger : p.ledger.get? j.key = some result) :
    ∃ row ∈ r.report.rows, row.index = j.unit.index ∧
      row.results.get? j.domain = some result := by
  rw [report_of_finish h]
  refine ⟨Report.rowOf plan.domains p.ledger j.unit, ?_, rfl, ?_⟩
  · exact Report.rows_perm.mem_iff.mpr (List.mem_map_of_mem hu)
  · rw [Report.get?_results_rowOf, if_pos hd]
    exact hledger

theorem logAt_ne_rawPath {j : Job}
    (h : ∀ path, plan.resume = some path → path.place ≠ (b.layout.rawPath j).place) :
    (b.layout.rawPath j).place ≠ (b.logAt plan).place := by
  cases hres : plan.resume with
  | some path =>
    unfold logAt
    rw [hres]
    exact (h path hres).symm
  | none => exact fun heq => not_jobFile_logAt hres j (Or.inl heq.symm)

/-- An executed job that came to a verdict has it in the report, and the file named there has a text
with the same verdict when the run is over, unless the run went on with a log in the place of that
file.  So classifying the file prints the verdict of the report. -/
theorem saved_output_reclassifies {r : RunResult} {j : Job} {result : JobResult} (hw : w.Sound)
    (hidx : (plan.units.map (·.index)).Nodup) (hdom : plan.domains.Nodup)
    (h : b.Finishes w plan runId tool ds p r) (hj : .collected j result ∈ ds)
    (hmissing : result.status ≠ .missing) (herror : result.status ≠ .error)
    (hlog : ∀ path, plan.resume = some path → path.place ≠ (b.layout.rawPath j).place) :
    (∃ row ∈ r.report.rows, row.index = j.unit.index ∧
        row.results.get? j.domain = some result) ∧
      ∃ raw text, result.raw = some raw ∧
        (b.finish plan runId p).files.readText raw = .ok text ∧
        j.domain.classify text = result.verdict ∧
        ∀ {τ : Type} (s : Command.Surroundings τ) (showFigures : Bool),
          s.files = (b.finish plan runId p).files →
          Command.Program.classify s j.domain raw showFigures =
            ⟨0, Command.Program.textLines (String.join ((Command.Program.verdictLines j.domain
              result.verdict showFigures).map (· ++ "\n"))), "", s.files⟩ := by
  obtain ⟨hattains, hcomplete, hresult⟩ := h
  obtain ⟨done, scene, -, hopened, hfollows⟩ := hattains.opened hw
  have hcourses := Progress.courses_of_follows hidx hdom hfollows
  have hmember := hcourses.member j
    (hcourses.mem_takes_of_collected (Progress.failure_of_isComplete hcomplete) hj)
  have hledger := (hcourses.entered j.key result).mpr ⟨j, rfl, Or.inl hj⟩
  refine ⟨exists_row_of_finish hresult hmember.1 hmember.2 hledger, ?_⟩
  -- a collected job was logged, so its task has come to its end
  obtain ⟨t, ht⟩ := hcourses.logged j result (Or.inl hj)
  have htraced := traced_isSaved hidx hdom hopened.sound hopened.keeps hfollows
  obtain ⟨hraw, text, hread, hverdict⟩ :=
    htraced.logged j result t ht result rfl hmissing herror (logAt_ne_rawPath hlog)
  have hfinal : (b.finish plan runId p).files.readText (b.layout.rawPath j) = .ok text :=
    readText_of_finish (fun hreport => hreport.not_jobFile (Or.inl rfl)) hread
  refine ⟨_, text, hraw, hfinal, hverdict, fun s showFigures hs => ?_⟩
  unfold Command.Program.classify
  rw [hs, hfinal]
  dsimp only
  rw [hverdict]

/-- The first job is timed out once, and the text of its second attempt stays. -/
theorem saved_output_reclassifies_second_attempt :
    ∃ ds p r result,
      (Sample.bench 1 Sample.late).Finishes .empty (Sample.plan none) Sample.runId () ds p r ∧
        .collected Sample.job result ∈ ds ∧ result.attempts = 2 ∧
        ∃ text, ((Sample.bench 1 Sample.late).finish (Sample.plan none) Sample.runId
            p).files.readText ⟨"o/raw/timing/00000_a.log"⟩ = .ok text ∧
          Domain.timing.classify text = Verdict.noData .timing := by
  let result := JobResult.ofVerdict (Verdict.noData .timing) ⟨"o/raw/timing/00000_a.log"⟩ 2
  obtain ⟨ds, p, r, hfinishes, htest⟩ := @exists_finishes Unit
    (Sample.bench 1 Sample.late) .empty (Sample.plan none) Sample.runId () Sample.twiceInTurn
    (fun ds _ => ds.contains (.collected Sample.job result)) (by decide +kernel)
  have hcollected : .collected Sample.job result ∈ ds := by simpa using htest
  obtain ⟨-, raw, text, hraw, hread, hverdict, -⟩ := saved_output_reclassifies sound_empty
    (by decide) (by decide) hfinishes hcollected (by decide) (by decide)
    (fun path hpath => by simp [Sample.plan] at hpath)
  obtain rfl := Option.some.inj hraw
  exact ⟨ds, p, r, result, hfinishes, hcollected, rfl, text, hread, hverdict⟩

/-- A run that goes on with a log in the place of the first job's text appends the line of that job
to the text, and the marker of the section is no marker any more. -/
theorem log_line_classified :
    ∃ path ds p r result, Workspace.empty.Sound ∧
      ((Sample.plan (some path)).units.map (·.index)).Nodup ∧
      (Sample.plan (some path)).domains.Nodup ∧
      (Sample.bench 1 Sample.cut).Finishes .empty (Sample.plan (some path)) Sample.runId () ds p r ∧
      .collected Sample.job result ∈ ds ∧ result.status = .noData ∧ result.raw = some path ∧
      ∃ text, ((Sample.bench 1 Sample.cut).finish (Sample.plan (some path)) Sample.runId
          p).files.readText path = .ok text ∧
        (Domain.timing.classify text).status = .notFound := by
  let path : Path := ⟨"o/raw/timing/00000_a.log"⟩
  let result := JobResult.ofVerdict (Verdict.noData .timing) path 1
  obtain ⟨ds, p, r, hfinishes, htest⟩ := @exists_finishes Unit
    (Sample.bench 1 Sample.cut) .empty (Sample.plan (some path)) Sample.runId () Sample.inTurn
    (fun ds p => ds.contains (.collected Sample.job result) &&
      match ((Sample.bench 1 Sample.cut).finish (Sample.plan (some path)) Sample.runId
          p).files.readText path with
      | .ok text => (Domain.timing.classify text).status == .notFound
      | .error _ => false)
    (by decide +kernel)
  rw [Bool.and_eq_true] at htest
  refine ⟨path, ds, p, r, result, sound_empty, by decide, by decide, hfinishes,
    by simpa using htest.1, rfl, rfl, ?_⟩
  have hread := htest.2
  split at hread
  next text htext => exact ⟨text, htext, by simpa using hread⟩
  next => simp at hread

end Bench

end Signoff
