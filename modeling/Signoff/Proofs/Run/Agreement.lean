import Signoff.Gate
import Signoff.Proofs.Run.Lines
import Signoff.Proofs.Run.Outcome
import Signoff.Proofs.Run.Sample

/-!
# Runs agree

A complete run has executed the jobs that no earlier result stands for, each to the end that it
comes to on its own.  So two runs of a plan on the same files agree in their ledgers, reports and
files, whatever their slots and the order of their steps (`schedule_independence`).
-/

namespace Signoff

open Workspace Deed

/-- The jobs that were logged in a domain, with their results. -/
def Deed.loggedIn (d : Domain) (ds : List Deed) : List (Job × JobResult) :=
  (loggedResults ds).filter (·.1.domain == d)

namespace Bench

variable {σ : Type}

/-- The plan has the job and no earlier result stands for it. -/
def Executes (b : Bench σ) (w : Workspace) (plan : Plan) (done : CompletionLog.Completions)
    (j : Job) : Prop :=
  j.domain ∈ plan.domains ∧ j.unit ∈ plan.units ∧ ∀ r, ¬ b.Reuses w plan done j r

end Bench

/-! ## What a complete run has done -/

namespace Progress

section Complete

variable {σ : Type} {b : Bench σ} {plan : Plan} {done : CompletionLog.Completions}
  {ds : List Deed} {p : Progress σ} {scene : Scene σ} {place : Place} {base : ByteArray}
  {answer : Job → UInt32 → ToolAnswer} {present : Job → Bool}

/-- Every job of a closed domain was executed or resumed. -/
theorem executed_or_resumed_of_closed (hidx : (plan.units.map (·.index)).Nodup)
    (hdom : plan.domains.Nodup) (h : Follows b plan done (start plan scene) ds p)
    (hf : p.failure = none) {j : Job} (hd : j.domain ∈ p.closed.map (·.1))
    (hu : j.unit ∈ plan.units) : ∃ r, .collected j r ∈ ds ∨ .resumed j r ∈ ds := by
  have hc := courses_of_follows hidx hdom h
  have hstored := (orderly_of_follows h).stored _ hd j (mem_jobsOf.mpr ⟨rfl, hu⟩)
  obtain ⟨r, hr⟩ := Option.isSome_iff_exists.mp hstored
  obtain ⟨i, hkey, hi⟩ := (hc.entered j.key r).mp hr
  have hmem : i ∈ takes ds := by
    rcases hi with hi | hi
    · exact hc.mem_takes_of_collected hf hi
    · exact mem_takes.mpr (Or.inr ⟨r, hi⟩)
  -- the ledger knows keys only, but a key belongs to one job of the plan
  have hij : i = j := eq_of_key hidx (hc.member i hmem).2 hu hkey
  exact ⟨r, hij ▸ hi⟩

theorem failure_of_isComplete (hcomplete : p.isComplete = true) : p.failure = none := by
  simp only [isComplete, Bool.and_eq_true, Option.isNone_iff_eq_none] at hcomplete
  exact hcomplete.1.1

theorem tasks_of_isComplete (hcomplete : p.isComplete = true) : p.tasks = [] := by
  simp only [isComplete, Bool.and_eq_true, Option.isNone_iff_eq_none] at hcomplete
  simp [tasks, hcomplete.1.2]

theorem began_of_isComplete (h : Follows b plan done (start plan scene) ds p)
    (hcomplete : p.isComplete = true) (d : Domain) : .began d ∈ ds ↔ d ∈ plan.domains := by
  have hdomains := (orderly_of_follows h).domains (failure_of_isComplete hcomplete)
  rw [began_iff h (failure_of_isComplete hcomplete), hdomains]
  simp only [isComplete, Bool.and_eq_true, Option.isNone_iff_eq_none,
    List.isEmpty_iff] at hcomplete
  simp [hcomplete.1.2, hcomplete.2]

theorem loggedResults_perm_of_complete (h : Follows b plan done (start plan scene) ds p)
    (hcomplete : p.isComplete = true) : (loggedResults ds).Perm (collections ds) := by
  have hperm := loggedResults_perm h (failure_of_isComplete hcomplete)
  rw [tasks_of_isComplete hcomplete, List.filterMap_nil, List.append_nil] at hperm
  exact hperm

theorem nodup_collections (hidx : (plan.units.map (·.index)).Nodup) (hdom : plan.domains.Nodup)
    (h : Follows b plan done (start plan scene) ds p) (hcomplete : p.isComplete = true) :
    (collections ds).Nodup := by
  have hnodup := (courses_of_follows hidx hdom h).nodup_placed (failure_of_isComplete hcomplete)
  rw [tasks_of_isComplete hcomplete, List.map_nil, List.nil_append, List.map_append,
    List.nodup_append] at hnodup
  exact (hnodup.1.of_map _).of_map _

variable (hidx : (plan.units.map (·.index)).Nodup) (hdom : plan.domains.Nodup)
  (hw : scene.files.Sound) (hk : scene.log.Keeps scene.files place base)
  (hapart : ApartFrom b plan place) (h : Follows b plan done (start plan scene) ds p)
  (hcomplete : p.isComplete = true)

include hidx hdom hw hk hapart h hcomplete

theorem resumed_iff_of_complete {j : Job} {r : JobResult} :
    .resumed j r ∈ ds ↔ j.domain ∈ plan.domains ∧ j.unit ∈ plan.units ∧
      b.Reuses scene.files plan done j r := by
  rw [resumed_iff hidx hdom hw hk hapart h, began_of_isComplete h hcomplete, mem_jobsOf]
  simp

omit hw hk hapart in
/-- Every job of the plan was executed or resumed. -/
theorem executed_or_resumed {j : Job} (hd : j.domain ∈ plan.domains) (hu : j.unit ∈ plan.units) :
    ∃ r, .collected j r ∈ ds ∨ .resumed j r ∈ ds := by
  have hf := failure_of_isComplete hcomplete
  have hdomains := (orderly_of_follows h).domains hf
  simp only [isComplete, Bool.and_eq_true, Option.isNone_iff_eq_none,
    List.isEmpty_iff] at hcomplete
  rw [hcomplete.1.2, hcomplete.2] at hdomains
  exact executed_or_resumed_of_closed hidx hdom h hf (by simpa [hdomains] using hd) hu

/-- A job that was executed is none that was resumed. -/
theorem executes_of_collected {j : Job} {r : JobResult} (hj : .collected j r ∈ ds) :
    b.Executes scene.files plan done j := by
  have hf := failure_of_isComplete hcomplete
  have hc := courses_of_follows hidx hdom h
  have hmember := hc.member j (hc.mem_takes_of_collected hf hj)
  refine ⟨hmember.1, hmember.2, fun r' hr' => ?_⟩
  have hresumed := (resumed_iff_of_complete hidx hdom hw hk hapart h hcomplete).mpr
    ⟨hmember.1, hmember.2, hr'⟩
  -- the keys of executed and of resumed jobs do not meet
  have hnodup := hc.nodup_placed hf
  rw [List.map_append, List.nodup_append] at hnodup
  refine hnodup.2.2 j.key (List.mem_map_of_mem ?_) j.key (List.mem_map_of_mem ?_) rfl
  · exact List.mem_append_right _ (List.mem_map_of_mem (f := (·.1)) (mem_collections.mpr hj))
  · exact List.mem_map_of_mem (f := (·.1)) (mem_resumptions.mpr hresumed)

variable (hanswers : b.tool.Answers answer)
  (hpresent : ∀ j, present j = true ↔ b.IsPresent scene.files plan j)

include hanswers hpresent

omit hcomplete in
/-- An executed job came to where it comes on its own, and so did its files. -/
theorem course_of_collected {j : Job} {r : JobResult} (hj : .collected j r ∈ ds) :
    ∃ saved, b.terms.Comes answer (present j) j (.finished r) saved ∧
      p.scene.files.contentAt (b.layout.rawPath j).place = b.rawAfter scene.files j saved ∧
      p.scene.files.contentAt (b.layout.recordPath j).place =
        some (Record.lineOf r).toUTF8 := by
  obtain ⟨t, ht⟩ := (courses_of_follows hidx hdom h).logged j r (Or.inl hj)
  exact (onCourse_of_follows hidx hdom hw hk hapart hanswers hpresent h).logged j r t ht (by simp)

/-- The jobs that were executed, and what they came to. -/
theorem collected_iff_of_complete {j : Job} {r : JobResult} :
    .collected j r ∈ ds ↔ b.Executes scene.files plan done j ∧
      ∃ saved, b.terms.Comes answer (present j) j (.finished r) saved := by
  constructor
  · intro hj
    obtain ⟨saved, hcomes, -⟩ :=
      course_of_collected hidx hdom hw hk hapart h hanswers hpresent hj
    exact ⟨executes_of_collected hidx hdom hw hk hapart h hcomplete hj, saved, hcomes⟩
  · rintro ⟨⟨hd, hu, hnot⟩, saved, hcomes⟩
    -- the job was accounted for in one way or the other, and it cannot have been resumed
    obtain ⟨r', hr' | hr'⟩ := executed_or_resumed hidx hdom h hcomplete hd hu
    · obtain ⟨saved', hcomes', -⟩ :=
        course_of_collected hidx hdom hw hk hapart h hanswers hpresent hr'
      rw [(hcomes.unique hcomes').1]
      exact hr'
    · have := (resumed_iff_of_complete hidx hdom hw hk hapart h hcomplete).mp hr'
      exact absurd this.2.2 (hnot r')

/-- The ledger of a complete run. -/
theorem get?_iff_of_complete {k : JobKey} {r : JobResult} :
    p.ledger.get? k = some r ↔ ∃ j, j.key = k ∧
      (b.Executes scene.files plan done j ∧
          (∃ saved, b.terms.Comes answer (present j) j (.finished r) saved) ∨
        j.domain ∈ plan.domains ∧ j.unit ∈ plan.units ∧
          b.Reuses scene.files plan done j r) := by
  rw [(courses_of_follows hidx hdom h).entered]
  refine exists_congr fun j => and_congr_right fun _ => or_congr ?_ ?_
  · exact collected_iff_of_complete hidx hdom hw hk hapart h hcomplete hanswers hpresent
  · exact resumed_iff_of_complete hidx hdom hw hk hapart h hcomplete

/-- The files of a job that was executed. -/
theorem contentAt_of_executed {j : Job} (hj : b.Executes scene.files plan done j) :
    ∃ r saved, b.terms.Comes answer (present j) j (.finished r) saved ∧
      p.scene.files.contentAt (b.layout.rawPath j).place = b.rawAfter scene.files j saved ∧
      p.scene.files.contentAt (b.layout.recordPath j).place =
        some (Record.lineOf r).toUTF8 := by
  obtain ⟨r, hr | hr⟩ := executed_or_resumed hidx hdom h hcomplete hj.1 hj.2.1
  · exact ⟨r, course_of_collected hidx hdom hw hk hapart h hanswers hpresent hr⟩
  · have := (resumed_iff_of_complete hidx hdom hw hk hapart h hcomplete).mp hr
    exact absurd this.2.2 (hj.2.2 r)

omit hanswers hpresent

/-- The files that no executed job writes, but for the log. -/
theorem contentAt_elsewhere {q : Place} (hq : q ≠ place)
    (hjobs : ∀ j, b.Executes scene.files plan done j → ¬ b.layout.JobFile j q) :
    p.scene.files.contentAt q = scene.files.contentAt q := by
  have hf := failure_of_isComplete hcomplete
  have hc := courses_of_follows hidx hdom h
  refine (housed_of_follows hidx hdom hw hk hapart h).elsewhere q hq fun j hj => hjobs j ?_
  rw [← mem_launches, (hc.placed hf).mem_iff, tasks_of_isComplete hcomplete, List.map_nil,
    List.nil_append] at hj
  obtain ⟨⟨i, r⟩, hmem, rfl⟩ := List.mem_map.mp hj
  exact executes_of_collected hidx hdom hw hk hapart h hcomplete (mem_collections.mp hmem)

end Complete

end Progress

/-! ## Reports -/

/-- The reports are the same but for the name of the run and its time. -/
def Report.Agrees (r r' : Report) : Prop :=
  { r with runId := r'.runId, generatedAt := r'.generatedAt } = r'

/-- The places of the report and of its readable form. -/
def Layout.ReportFile (l : Layout) (q : Place) : Prop :=
  q = l.reportPath.place ∨ q = l.summaryPath.place

theorem Report.agrees_build (units : List DesignUnit) (domains : List Domain) (ledger : Ledger)
    (dryRun : Bool) (runId runId' : RunId) (time time' : Time.Instant) :
    (build units domains ledger dryRun runId time).Agrees
      (build units domains ledger dryRun runId' time') := rfl

/-- The gate does not look at the name of the run or its time. -/
theorem Report.Agrees.gate_eq {r r' : Report} (h : r.Agrees r') : r.gate = r'.gate := by
  rw [← h]
  rfl

namespace Bench

variable {σ : Type} {b : Bench σ} {w w' : Workspace} {plan : Plan} {runId : RunId}

/-- Publishing a report writes its two files and nothing else. -/
theorem publish_keeps {P : Workspace → Prop} {r : Report} {result : Except RunError Unit}
    (h : b.publish w r = (result, w'))
    (hwrite : ∀ {v v' : Workspace} {path : Path} {text : String},
      b.layout.ReportFile path.place → v.writeText path text = .ok v' → P v → P v')
    (hw : P w) : P w' := by
  unfold publish at h
  split at h
  next =>
    rw [← (Prod.mk.inj h).2]
    exact hw
  next left hreport =>
    have hleft : P left := hwrite (Or.inl rfl) hreport hw
    split at h
    next =>
      rw [← (Prod.mk.inj h).2]
      exact hleft
    next more hsummary =>
      rw [← (Prod.mk.inj h).2]
      exact hwrite (Or.inr rfl) hsummary hleft

theorem finish_keeps {P : Workspace → Prop} {p : Progress σ}
    (hwrite : ∀ {v v' : Workspace} {path : Path} {text : String},
      b.layout.ReportFile path.place → v.writeText path text = .ok v' → P v → P v')
    (hp : P p.scene.files) : P (b.finish plan runId p).files := by
  unfold finish
  dsimp only
  split
  next hpublish => exact publish_keeps hpublish hwrite hp
  next hpublish => exact publish_keeps hpublish hwrite hp

theorem contentAt_of_finish (p : Progress σ) {q : Place} (hq : ¬ b.layout.ReportFile q) :
    (b.finish plan runId p).files.contentAt q = p.scene.files.contentAt q := by
  refine finish_keeps (P := fun v => v.contentAt q = p.scene.files.contentAt q) ?_ rfl
  intro v v' path text hpath hwrite hv
  rw [← hv]
  exact (write_eq_ok hwrite).2.contentAt_eq fun heq => hq (heq ▸ hpath)

/-- The report of a complete run. -/
theorem report_of_finish {p : Progress σ} {r : RunResult}
    (h : (b.finish plan runId p).result = .ok r) :
    r.report = Report.build plan.units plan.domains p.ledger false runId
      (b.clock p.scene.readings) := by
  unfold finish at h
  dsimp only at h
  split at h
  · simp at h
  · rw [← Except.ok.inj h]
    rfl

/-! ## Two runs -/

variable {σ₁ σ₂ : Type} {b₁ : Bench σ₁} {b₂ : Bench σ₂} {w₁ w₂ : Workspace} {plan₁ plan₂ : Plan}
  {done : CompletionLog.Completions} {j : Job}

theorem isPresent_congr
    (h : ∀ q, b₁.FoldersOf w₁ plan₁ j.domain q ↔ b₂.FoldersOf w₂ plan₂ j.domain q) :
    b₁.IsPresent w₁ plan₁ j ↔ b₂.IsPresent w₂ plan₂ j := by
  have heq : b₁.FoldersOf w₁ plan₁ j.domain = b₂.FoldersOf w₂ plan₂ j.domain :=
    funext fun q => propext (h q)
  unfold IsPresent
  rw [heq]

theorem reuses_congr {r : JobResult} (hlayout : b₁.layout = b₂.layout)
    (h : ∀ q, b₁.FoldersBefore w₁ plan₁ j.domain q ↔ b₂.FoldersBefore w₂ plan₂ j.domain q)
    (hrecord : w₁.contentAt (b₁.layout.recordPath j).place =
      w₂.contentAt (b₁.layout.recordPath j).place) :
    b₁.Reuses w₁ plan₁ done j r ↔ b₂.Reuses w₂ plan₂ done j r := by
  have heq : b₁.FoldersBefore w₁ plan₁ j.domain = b₂.FoldersBefore w₂ plan₂ j.domain :=
    funext fun q => propext (h q)
  unfold Reuses
  rw [heq, hrecord, hlayout]

/-- A run that closed all its domains, from the opening of its log. -/
structure Completed (b : Bench σ) (w : Workspace) (plan : Plan) (done : CompletionLog.Completions)
    (scene : Scene σ) (ds : List Deed) (p : Progress σ) : Prop where
  opened : b.Opened plan w scene.log scene.files
  follows : Progress.Follows b plan done (.start plan scene) ds p
  complete : p.isComplete = true

theorem Finishes.completed {tool : σ} {ds : List Deed} {p : Progress σ} {r : RunResult}
    (h : b.Finishes w plan runId tool ds p r) (hw : w.Sound) :
    ∃ done scene, completions w plan = .ok done ∧ b.Completed w plan done scene ds p := by
  obtain ⟨hattains, hcomplete, -⟩ := h
  obtain ⟨done, scene, hdone, hopened, hfollows⟩ := hattains.opened hw
  exact ⟨done, scene, hdone, hopened, hfollows, hcomplete⟩

theorem ResumesApart.congr (h : b₁.ResumesApart plan) (hterms : b₁.terms = b₂.terms) :
    b₂.ResumesApart plan := by
  intro path hpath d hd j hj
  rw [← show b₁.layout = b₂.layout from congrArg Terms.layout hterms]
  exact h path hpath d hd j hj

section Openings

variable {log₁ log₂ : LogFile} {v₁ v₂ : Workspace} (hterms : b₁.terms = b₂.terms)
  (h₁ : b₁.Opened plan w log₁ v₁) (h₂ : b₂.Opened plan w log₂ v₂)

theorem layout_eq (hterms : b₁.terms = b₂.terms) : b₁.layout = b₂.layout :=
  congrArg Terms.layout hterms

theorem logAt_eq (hterms : b₁.terms = b₂.terms) : b₁.logAt plan = b₂.logAt plan := by
  unfold logAt
  rw [layout_eq hterms]

include hterms h₁ h₂

theorem folder_iff_of_opened (q : Place) :
    v₁.item? q = some .folder ↔ v₂.item? q = some .folder := by
  rw [h₁.folders, h₂.folders]
  unfold openingFolders
  rw [logAt_eq hterms, layout_eq hterms]

theorem contentAt_eq_of_opened {q : Place} (hq : q ≠ (b₁.logAt plan).place) :
    v₁.contentAt q = v₂.contentAt q := by
  rw [h₁.elsewhere q hq, h₂.elsewhere q (logAt_eq hterms ▸ hq)]

theorem foldersBefore_iff (d : Domain) (q : Place) :
    b₁.FoldersBefore v₁ plan d q ↔ b₂.FoldersBefore v₂ plan d q := by
  unfold FoldersBefore
  rw [folder_iff_of_opened hterms h₁ h₂, layout_eq hterms]

theorem foldersOf_iff (d : Domain) (q : Place) :
    b₁.FoldersOf v₁ plan d q ↔ b₂.FoldersOf v₂ plan d q := by
  unfold FoldersOf
  rw [foldersBefore_iff hterms h₁ h₂, layout_eq hterms]

/-- The working folders that one run finds are those that the other finds. -/
theorem exists_present : ∃ present : Job → Bool,
    (∀ j, present j = true ↔ b₁.IsPresent v₁ plan j) ∧
      ∀ j, present j = true ↔ b₂.IsPresent v₂ plan j := by
  classical
  have hsame : ∀ j, b₁.IsPresent v₁ plan j ↔ b₂.IsPresent v₂ plan j := fun j =>
    isPresent_congr (foldersOf_iff hterms h₁ h₂ _)
  refine ⟨fun j => decide (b₁.IsPresent v₁ plan j), fun j => decide_eq_true_iff, fun j => ?_⟩
  rw [decide_eq_true_iff, hsame]

end Openings

section Twins

variable {scene₁ : Scene σ₁} {scene₂ : Scene σ₂} {ds₁ ds₂ : List Deed} {p₁ : Progress σ₁}
  {p₂ : Progress σ₂} {answer : Job → UInt32 → ToolAnswer}
  (hterms : b₁.terms = b₂.terms) (hidx : (plan.units.map (·.index)).Nodup)
  (hdom : plan.domains.Nodup) (hapart : b₁.ResumesApart plan)
  (h₁ : b₁.Completed w plan done scene₁ ds₁ p₁) (h₂ : b₂.Completed w plan done scene₂ ds₂ p₂)

include hterms h₁ h₂ hapart

theorem reuses_iff (hd : j.domain ∈ plan.domains) (hu : j.unit ∈ plan.units) (r : JobResult) :
    b₁.Reuses scene₁.files plan done j r ↔ b₂.Reuses scene₂.files plan done j r := by
  refine reuses_congr (layout_eq hterms) (foldersBefore_iff hterms h₁.opened h₂.opened _) ?_
  refine contentAt_eq_of_opened hterms h₁.opened h₂.opened fun heq => ?_
  exact apartFrom_logAt hapart _ hd j (mem_jobsOf.mpr ⟨rfl, hu⟩) (Or.inr heq.symm)

theorem executes_iff :
    b₁.Executes scene₁.files plan done j ↔ b₂.Executes scene₂.files plan done j := by
  unfold Executes
  refine and_congr_right fun hd => and_congr_right fun hu => forall_congr' fun r => ?_
  rw [reuses_iff hterms hapart h₁ h₂ hd hu]

include hidx hdom

variable (hanswers₁ : b₁.tool.Answers answer) (hanswers₂ : b₂.tool.Answers answer)

include hanswers₁ hanswers₂

/-- Two runs enter the same results. -/
theorem ledger_eq : p₁.ledger = p₂.ledger := by
  obtain ⟨present, hpresent₁, hpresent₂⟩ := exists_present hterms h₁.opened h₂.opened
  refine Ledger.Ordered.ext (Progress.orderly_of_follows h₁.follows).ordered
    (Progress.orderly_of_follows h₂.follows).ordered fun k => Option.ext fun r => ?_
  rw [Progress.get?_iff_of_complete hidx hdom h₁.opened.sound h₁.opened.keeps
      (apartFrom_logAt hapart) h₁.follows h₁.complete hanswers₁ hpresent₁,
    Progress.get?_iff_of_complete hidx hdom h₂.opened.sound h₂.opened.keeps
      (apartFrom_logAt (hapart.congr hterms)) h₂.follows h₂.complete hanswers₂ hpresent₂, ← hterms]
  -- both ledgers hold what the jobs come to alone, or what earlier runs left
  refine exists_congr fun j => and_congr_right fun _ => or_congr ?_ ?_
  · rw [executes_iff hterms hapart h₁ h₂]
  · refine and_congr_right fun hd => and_congr_right fun hu => ?_
    rw [reuses_iff hterms hapart h₁ h₂ hd hu]

/-- Two runs leave the same in every file but the log. -/
theorem contentAt_eq {q : Place} (hq : q ≠ (b₁.logAt plan).place) :
    p₁.scene.files.contentAt q = p₂.scene.files.contentAt q := by
  have hapart₂ := apartFrom_logAt (hapart.congr hterms)
  have hq₂ : q ≠ (b₂.logAt plan).place := logAt_eq hterms ▸ hq
  have hbefore := contentAt_eq_of_opened hterms h₁.opened h₂.opened hq
  obtain ⟨present, hpresent₁, hpresent₂⟩ := exists_present hterms h₁.opened h₂.opened
  -- a file of an executed job is as that job leaves it; all others are as they were
  by_cases hjob : ∃ j, b₁.Executes scene₁.files plan done j ∧ b₁.layout.JobFile j q
  · obtain ⟨j, hj, hfile⟩ := hjob
    obtain ⟨r, saved, hcomes, hraw, hrecord⟩ := Progress.contentAt_of_executed hidx hdom
      h₁.opened.sound h₁.opened.keeps (apartFrom_logAt hapart) h₁.follows h₁.complete hanswers₁
      hpresent₁ hj
    obtain ⟨r', saved', hcomes', hraw', hrecord'⟩ := Progress.contentAt_of_executed hidx hdom
      h₂.opened.sound h₂.opened.keeps hapart₂ h₂.follows h₂.complete hanswers₂ hpresent₂
      ((executes_iff hterms hapart h₁ h₂).mp hj)
    rw [← hterms] at hcomes'
    rw [← layout_eq hterms] at hraw' hrecord'
    obtain ⟨rfl, rfl⟩ := hcomes.unique hcomes'
    rcases hfile with heq | heq <;> rw [heq] at hbefore ⊢
    · rw [hraw, hraw']
      unfold rawAfter
      rw [← layout_eq hterms, hbefore]
    · rw [hrecord, hrecord']
  · have hjob₁ : ∀ j, b₁.Executes scene₁.files plan done j → ¬ b₁.layout.JobFile j q :=
      fun j hj hfile => hjob ⟨j, hj, hfile⟩
    have hjob₂ : ∀ j, b₂.Executes scene₂.files plan done j → ¬ b₂.layout.JobFile j q := by
      intro j hj hfile
      rw [← layout_eq hterms] at hfile
      exact hjob₁ j ((executes_iff hterms hapart h₁ h₂).mpr hj) hfile
    rw [Progress.contentAt_elsewhere hidx hdom h₁.opened.sound h₁.opened.keeps
        (apartFrom_logAt hapart) h₁.follows h₁.complete hq hjob₁,
      Progress.contentAt_elsewhere hidx hdom h₂.opened.sound h₂.opened.keeps hapart₂ h₂.follows
        h₂.complete hq₂ hjob₂, hbefore]

/-- Two runs log the same results. -/
theorem loggedResults_perm : (loggedResults ds₁).Perm (loggedResults ds₂) := by
  obtain ⟨present, hpresent₁, hpresent₂⟩ := exists_present hterms h₁.opened h₂.opened
  have hnodup₁ := Progress.nodup_collections hidx hdom h₁.follows h₁.complete
  have hnodup₂ := Progress.nodup_collections hidx hdom h₂.follows h₂.complete
  refine (Progress.loggedResults_perm_of_complete h₁.follows h₁.complete).trans
    (List.Perm.trans ?_ (Progress.loggedResults_perm_of_complete h₂.follows h₂.complete).symm)
  -- no job is collected twice, so it is enough that the same jobs were collected
  rw [List.perm_ext_iff_of_nodup hnodup₁ hnodup₂]
  rintro ⟨j, r⟩
  rw [mem_collections, mem_collections,
    Progress.collected_iff_of_complete hidx hdom h₁.opened.sound h₁.opened.keeps
      (apartFrom_logAt hapart) h₁.follows h₁.complete hanswers₁ hpresent₁,
    Progress.collected_iff_of_complete hidx hdom h₂.opened.sound h₂.opened.keeps
      (apartFrom_logAt (hapart.congr hterms)) h₂.follows h₂.complete hanswers₂ hpresent₂,
    ← hterms, executes_iff hterms hapart h₁ h₂]

end Twins

/-! ## Dry runs -/

/-- The ledger once a dry run has listed one more domain. -/
def listed (l : Layout) (w : Workspace) (plan : Plan) (done : CompletionLog.Completions)
    (ledger : Ledger) (d : Domain) : Ledger :=
  let survey := Survey.take w l done plan.units d
  survey.queue.foldl (fun l j => l.enter j.key JobResult.notRun) (survey.enter ledger)

theorem foldl_listDomain (ds : List Domain)
    (state : Ledger × List (Domain × DomainStats) × Counters × List Event) :
    (ds.foldl (b.listDomain w plan done) state).1 =
      ds.foldl (listed b.layout w plan done) state.1 := by
  induction ds generalizing state with
  | nil => rfl
  | cons d ds ih =>
    rw [List.foldl_cons, List.foldl_cons, ih]
    rfl

theorem report_of_dryRun : (b.dryRun w plan runId done).report =
    Report.build plan.units plan.domains
      (plan.domains.foldl (listed b.layout w plan done) Ledger.empty) true runId (b.clock 1) := by
  rw [← foldl_listDomain plan.domains
    (Ledger.empty, [], Counters.zero, [b.startedEvent plan runId])]
  rfl

/-- A dry run gives a report and leaves the files alone. -/
theorem run_of_dryRun {tool : σ} {r : RunResult} (hdry : plan.dryRun = true)
    (h : (b.run w plan runId tool).result = .ok r) :
    (b.run w plan runId tool).files = w ∧
      ∃ done, completions w plan = .ok done ∧ r.report = (b.dryRun w plan runId done).report := by
  unfold run at h ⊢
  cases hdone : completions w plan with
  | error error => simp [hdone] at h
  | ok done =>
    rw [hdone] at h
    dsimp only at h ⊢
    rw [hdry, if_pos rfl] at h ⊢
    exact ⟨rfl, done, rfl, by rw [Except.ok.inj h]⟩

/-! ## Any two runs -/

/-- The log holds what it held when the run began, and then the lines of the logged jobs, domain by
domain.  It does so still when the report is written, unless the log is the report's file. -/
structure LogsInOrder (b : Bench σ) (w : Workspace) (plan : Plan) (runId : RunId)
    (ds : List Deed) (p : Progress σ) : Prop where
  written : p.scene.files.contentAt (b.logAt plan).place =
    some (b.logBase w plan ++ (logText ds).toUTF8)
  kept : ¬ b.layout.ReportFile (b.logAt plan).place →
    (b.finish plan runId p).files.contentAt (b.logAt plan).place =
      some (b.logBase w plan ++ (logText ds).toUTF8)
  ordered : (Deed.completions ds).Pairwise fun e f =>
    plan.domains.idxOf e.1.domain ≤ plan.domains.idxOf f.1.domain

theorem Completed.logsInOrder {scene : Scene σ} {ds : List Deed} {p : Progress σ}
    (h : b.Completed w plan done scene ds p) (hidx : (plan.units.map (·.index)).Nodup)
    (hdom : plan.domains.Nodup) (hapart : b.ResumesApart plan) :
    b.LogsInOrder w plan runId ds p := by
  have hwritten := (Progress.housed_of_follows hidx hdom h.opened.sound h.opened.keeps
    (apartFrom_logAt hapart) h.follows).keeps.contentAt
  exact ⟨hwritten, fun hreport => (contentAt_of_finish p hreport).trans hwritten,
    Progress.completions_in_order hidx hdom h.follows⟩

/-- Schedules do not matter.  Take two runs of a plan on the same files with a tool that answers by
job and attempt, each with slots, a clock and an order of steps of its own, going on with no log
among the plan's own jobs' files.  If both give a result, they have the same ledger, the same report
but for its name and time, the same verdict at the gate, the same content in every file but the log
and the report, and domain by domain the same lines in the log, in some order and but for their
times. -/
theorem schedule_independence {σ₁ σ₂ : Type} {b₁ : Bench σ₁} {b₂ : Bench σ₂}
    {answer : Job → UInt32 → ToolAnswer} (hterms : b₁.terms = b₂.terms)
    (hanswers₁ : b₁.tool.Answers answer) (hanswers₂ : b₂.tool.Answers answer) (hw : w.Sound)
    (hidx : (plan.units.map (·.index)).Nodup) (hdom : plan.domains.Nodup)
    (hapart : b₁.ResumesApart plan) {runId₁ runId₂ : RunId} {tool₁ : σ₁} {tool₂ : σ₂} :
    (∀ ds₁ ds₂ p₁ p₂ r₁ r₂, b₁.Finishes w plan runId₁ tool₁ ds₁ p₁ r₁ →
      b₂.Finishes w plan runId₂ tool₂ ds₂ p₂ r₂ →
      p₁.ledger = p₂.ledger ∧ r₁.report.Agrees r₂.report ∧ r₁.report.gate = r₂.report.gate ∧
      (∀ q, q ≠ (b₁.logAt plan).place → ¬ b₁.layout.ReportFile q →
        (b₁.finish plan runId₁ p₁).files.contentAt q =
          (b₂.finish plan runId₂ p₂).files.contentAt q) ∧
      b₁.LogsInOrder w plan runId₁ ds₁ p₁ ∧ b₂.LogsInOrder w plan runId₂ ds₂ p₂ ∧
      ∀ d, (loggedIn d ds₁).Perm (loggedIn d ds₂)) ∧
    (∀ r₁ r₂, plan.dryRun = true → (b₁.run w plan runId₁ tool₁).result = .ok r₁ →
      (b₂.run w plan runId₂ tool₂).result = .ok r₂ →
      r₁.report.Agrees r₂.report ∧ r₁.report.gate = r₂.report.gate ∧
      (b₁.run w plan runId₁ tool₁).files = (b₂.run w plan runId₂ tool₂).files) := by
  constructor
  · intro ds₁ ds₂ p₁ p₂ r₁ r₂ hfin₁ hfin₂
    obtain ⟨done, scene₁, hdone, h₁⟩ := hfin₁.completed hw
    obtain ⟨done₂, scene₂, hdone₂, h₂⟩ := hfin₂.completed hw
    obtain rfl : done = done₂ := Except.ok.inj (hdone.symm.trans hdone₂)
    have hledger := ledger_eq hterms hidx hdom hapart h₁ h₂ hanswers₁ hanswers₂
    have hagrees : r₁.report.Agrees r₂.report := by
      rw [report_of_finish hfin₁.2.2, report_of_finish hfin₂.2.2, hledger]
      exact Report.agrees_build ..
    refine ⟨hledger, hagrees, hagrees.gate_eq, fun q hq hreport => ?_,
      h₁.logsInOrder hidx hdom hapart, h₂.logsInOrder hidx hdom (hapart.congr hterms), fun d => ?_⟩
    · rw [contentAt_of_finish p₁ hreport,
        contentAt_of_finish p₂ (layout_eq hterms ▸ hreport)]
      exact contentAt_eq hterms hidx hdom hapart h₁ h₂ hanswers₁ hanswers₂ hq
    · exact (loggedResults_perm hterms hidx hdom hapart h₁ h₂ hanswers₁ hanswers₂).filter _
  · intro r₁ r₂ hdry hrun₁ hrun₂
    obtain ⟨hfiles₁, done, hdone, hr₁⟩ := run_of_dryRun hdry hrun₁
    obtain ⟨hfiles₂, done₂, hdone₂, hr₂⟩ := run_of_dryRun hdry hrun₂
    obtain rfl : done = done₂ := Except.ok.inj (hdone.symm.trans hdone₂)
    have hagrees : r₁.report.Agrees r₂.report := by
      rw [hr₁, hr₂, report_of_dryRun, report_of_dryRun, layout_eq hterms]
      exact Report.agrees_build ..
    exact ⟨hagrees, hagrees.gate_eq, hfiles₁.trans hfiles₂.symm⟩

/-- One slot and two slots come to the same on a small plan. -/
theorem schedule_independence_one_two_slots :
    ∃ ds₁ ds₂ p₁ p₂ r₁ r₂,
      (Sample.bench 1 Sample.silent).Finishes .empty (Sample.plan none) Sample.runId () ds₁ p₁ r₁ ∧
      (Sample.bench 2 Sample.silent).Finishes .empty (Sample.plan none) Sample.runId () ds₂ p₂ r₂ ∧
      p₁.ledger = p₂.ledger ∧ (loggedIn .timing ds₁).Perm (loggedIn .timing ds₂) := by
  obtain ⟨ds₁, p₁, r₁, hfin₁, -⟩ := @exists_finishes Unit (Sample.bench 1 Sample.silent) .empty
    (Sample.plan none) Sample.runId () Sample.inTurn (fun _ _ => true) (by decide +kernel)
  obtain ⟨ds₂, p₂, r₂, hfin₂, -⟩ := @exists_finishes Unit (Sample.bench 2 Sample.silent) .empty
    (Sample.plan none) Sample.runId () Sample.lastFirst (fun _ _ => true) (by decide +kernel)
  have hterms : (Sample.bench 1 Sample.silent).terms = (Sample.bench 2 Sample.silent).terms := rfl
  have hanswers : ∀ slots, (Sample.bench slots Sample.silent).tool.Answers Sample.silent :=
    fun _ _ _ _ _ _ => rfl
  have hsame := (schedule_independence hterms (hanswers 1) (hanswers 2) sound_empty (by decide)
    (by decide) (fun path hpath => by simp [Sample.plan] at hpath)).1
    ds₁ ds₂ p₁ p₂ r₁ r₂ hfin₁ hfin₂
  exact ⟨ds₁, ds₂, p₁, p₂, r₁, r₂, hfin₁, hfin₂, hsame.1, hsame.2.2.2.2.2.2 _⟩

/-- Two runs that go on with a log at the place of a job's saved output leave different files: the
output is saved before the line of the other job or after it. -/
theorem output_by_schedule :
    ∃ path ds₁ ds₂ p₁ p₂ r₁ r₂, Workspace.empty.Sound ∧
      ((Sample.plan (some path)).units.map (·.index)).Nodup ∧
      (Sample.plan (some path)).domains.Nodup ∧
      (Sample.bench 1 Sample.silent).terms = (Sample.bench 2 Sample.silent).terms ∧
      (Sample.bench 1 Sample.silent).tool.Answers Sample.silent ∧
      (Sample.bench 2 Sample.silent).tool.Answers Sample.silent ∧
      (Sample.bench 1 Sample.silent).Finishes .empty (Sample.plan (some path)) Sample.runId ()
        ds₁ p₁ r₁ ∧
      (Sample.bench 2 Sample.silent).Finishes .empty (Sample.plan (some path)) Sample.runId ()
        ds₂ p₂ r₂ ∧
      path = (Sample.bench 1 Sample.silent).layout.rawPath Sample.job ∧
      ((Sample.bench 1 Sample.silent).finish (Sample.plan (some path)) Sample.runId
          p₁).files.contentAt path.place ≠
        ((Sample.bench 2 Sample.silent).finish (Sample.plan (some path)) Sample.runId
          p₂).files.contentAt path.place := by
  -- with one slot the output is written first and both lines are appended to it
  obtain ⟨ds₁, p₁, r₁, hfin₁, hsize₁⟩ := @exists_finishes Unit (Sample.bench 1 Sample.silent)
    .empty (Sample.plan (some ⟨"o/raw/timing/00000_a.log"⟩)) Sample.runId () Sample.inTurn
    (fun _ p => (((Sample.bench 1 Sample.silent).finish (Sample.plan
      (some ⟨"o/raw/timing/00000_a.log"⟩)) Sample.runId p).files.contentAt
        (⟨"o/raw/timing/00000_a.log"⟩ : Path).place).any (·.size == 74)) (by decide +kernel)
  -- with two slots the line of the second job is there before the output replaces it
  obtain ⟨ds₂, p₂, r₂, hfin₂, hsize₂⟩ := @exists_finishes Unit (Sample.bench 2 Sample.silent)
    .empty (Sample.plan (some ⟨"o/raw/timing/00000_a.log"⟩)) Sample.runId () Sample.lastFirst
    (fun _ p => !(((Sample.bench 2 Sample.silent).finish (Sample.plan
      (some ⟨"o/raw/timing/00000_a.log"⟩)) Sample.runId p).files.contentAt
        (⟨"o/raw/timing/00000_a.log"⟩ : Path).place).any (·.size == 74)) (by decide +kernel)
  refine ⟨_, ds₁, ds₂, p₁, p₂, r₁, r₂, sound_empty, by decide, by decide, rfl,
    fun _ _ _ _ _ => rfl, fun _ _ _ _ _ => rfl, hfin₁, hfin₂, by decide +kernel, fun heq => ?_⟩
  rw [heq] at hsize₁
  rw [hsize₁] at hsize₂
  exact absurd hsize₂ (by decide)

end Bench

end Signoff
