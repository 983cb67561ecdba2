import Signoff.Proofs.Run.Stopped

/-!
# Going on after a stop

A run that goes on with the log of a stopped one takes over the results of the jobs that were
logged, and finds the folders for all other jobs as a run without a stop does.  So it comes to the
report that the run without a stop comes to, and calls the tool for no job that was logged
(`resume_after_stop`).
-/

namespace Signoff

open Workspace Deed

/-- The plan, to be gone on with from a log. -/
def Plan.resumeFrom (plan : Plan) (log : Path) : Plan := { plan with resume := some log }

/-! ## Points to stop at -/

/-- Files that differ in the report at most. -/
structure Layout.AlikeButReport (l : Layout) (w v : Workspace) : Prop where
  sound : v.Sound
  folders : ∀ q, v.item? q = some .folder ↔ w.item? q = some .folder
  contents : ∀ q, ¬ l.ReportFile q → v.contentAt q = w.contentAt q

theorem Layout.AlikeButReport.write {l : Layout} {w v v' : Workspace}
    (h : l.AlikeButReport w v) {path : Path} {text : String} (hpath : l.ReportFile path.place)
    (hwrite : v.writeText path text = .ok v') : l.AlikeButReport w v' := by
  have hstores := (write_eq_ok hwrite).2
  refine ⟨h.sound.stores hstores, fun q => hstores.folder_iff.trans (h.folders q), fun q hq => ?_⟩
  have hne : q ≠ path.place := fun heq => hq (by rw [heq]; exact hpath)
  rw [hstores.contentAt_eq hne]
  exact h.contents q hq

/-- No job is both resumed and launched. -/
theorem Progress.Courses.not_launched_of_resumed {σ : Type} {plan : Plan} {ds : List Deed}
    {p : Progress σ} (h : Progress.Courses plan ds p) {j : Job} {r : JobResult}
    (hj : .resumed j r ∈ ds) : .launched j ∉ ds := by
  intro hlaunched
  have hkeys := h.keys
  rw [((takes_perm ds).map (·.key)).nodup_iff, List.map_append, List.nodup_append] at hkeys
  exact hkeys.2.2 j.key (List.mem_map_of_mem (mem_launches.mpr hlaunched)) j.key
    (List.mem_map_of_mem (List.mem_map_of_mem (f := (·.1)) (mem_resumptions.mpr hj))) rfl

namespace Bench

variable {σ : Type} {b : Bench σ} {w v : Workspace} {plan : Plan} {scene : Scene σ}
  {ds : List Deed} {p : Progress σ}

/-- The files that a run can leave when it stops at a progress: those of the progress, and behind
the last step also those with the report in place or with both its files. -/
inductive Leaves (b : Bench σ) (plan : Plan) (runId : RunId) (p : Progress σ) : Workspace → Prop
  | stopped : Leaves b plan runId p p.scene.files
  | reported {report : Report} {v : Workspace} : p.isComplete = true →
      p.scene.files.writeText b.layout.reportPath report.write = .ok v → Leaves b plan runId p v
  | finished : p.isComplete = true → Leaves b plan runId p (b.finish plan runId p).files

theorem Leaves.alikeButReport {runId : RunId} (h : b.Leaves plan runId p v)
    (hp : p.scene.files.Sound) : b.layout.AlikeButReport p.scene.files v := by
  have hrefl : b.layout.AlikeButReport p.scene.files p.scene.files :=
    ⟨hp, fun _ => Iff.rfl, fun _ _ => rfl⟩
  cases h with
  | stopped => exact hrefl
  | reported _ hwrite => exact hrefl.write (Or.inl rfl) hwrite
  | finished => exact finish_keeps (fun hpath hwrite hv => hv.write hpath hwrite) hrefl

/-- A run that started a log of its own, stopped somewhere and left the files. -/
structure Stopped (b : Bench σ) (w : Workspace) (plan : Plan) (scene : Scene σ) (ds : List Deed)
    (p : Progress σ) (v : Workspace) : Prop where
  fresh : plan.resume = none
  opened : b.Opened plan w scene.log scene.files
  follows : Progress.Follows b plan .empty (.start plan scene) ds p
  left : b.layout.AlikeButReport p.scene.files v

theorem Attains.opened_of_fresh {runId : RunId} {tool : σ}
    (h : b.Attains w plan runId tool ds p) (hw : w.Sound) (hfresh : plan.resume = none) :
    ∃ scene, b.Opened plan w scene.log scene.files ∧
      Progress.Follows b plan .empty (.start plan scene) ds p := by
  obtain ⟨done, scene, hdone, hopened, hfollows⟩ := h.opened hw
  unfold completions at hdone
  rw [hfresh] at hdone
  rw [← Except.ok.inj hdone] at hfollows
  exact ⟨scene, hopened, hfollows⟩

/-! ## What the stopped run left -/

theorem not_reportFile_logPath (l : Layout) : ¬ l.ReportFile l.logPath.place := by
  rw [Layout.ReportFile, l.place_logPath, l.place_reportPath, l.place_summaryPath,
    List.append_cancel_left_eq, List.append_cancel_left_eq]
  decide

theorem not_reportFile_recordPath (l : Layout) (j : Job) :
    ¬ l.ReportFile (l.recordPath j).place := by
  rintro (h | h)
  · rw [l.place_reportPath] at h
    exact Layout.not_jobFile_below_root "report.json" (Or.inr h.symm)
  · rw [l.place_summaryPath] at h
    exact Layout.not_jobFile_below_root "report.md" (Or.inr h.symm)

namespace Stopped

variable (h : b.Stopped w plan scene ds p v) (hidx : (plan.units.map (·.index)).Nodup)
  (hdom : plan.domains.Nodup)

include h

theorem apart : Progress.ApartFrom b plan (b.logAt plan).place :=
  apartFrom_logAt fun path hpath => by simp [h.fresh] at hpath

theorem logAt_eq_logPath : b.logAt plan = b.layout.logPath := by
  unfold logAt
  rw [h.fresh, Option.getD_none]

include hidx hdom

theorem housed : Progress.Housed b scene.files (b.logAt plan).place (b.logBase w plan) ds p :=
  Progress.housed_of_follows hidx hdom h.opened.sound h.opened.keeps h.apart h.follows

theorem courses : Progress.Courses plan ds p := Progress.courses_of_follows hidx hdom h.follows

/-- A logged job is one of the plan. -/
theorem mem_of_logged {j : Job} {r : JobResult} {t : Time.Instant} (hj : .logged j r t ∈ ds) :
    j.domain ∈ plan.domains ∧ j.unit ∈ plan.units := by
  have hlaunched := ((Progress.launched_of_deed h.follows).2 j r t hj).1
  exact (h.courses hidx hdom).member j (mem_takes.mpr (Or.inl hlaunched))

/-- The log holds the lines of the jobs that were logged. -/
theorem contentAt_log : v.Leads b.layout.logPath ∧
    v.contentAt b.layout.logPath.place = some (logText ds).toUTF8 := by
  have hh := h.housed hidx hdom
  -- the stopped run began its log anew, so the log holds its own lines alone
  have hbase : b.logBase w plan = ByteArray.empty := by
    unfold logBase logMode
    rw [h.fresh]
    rfl
  constructor
  · rw [← h.logAt_eq_logPath]
    exact h.opened.leads.mono fun q hq => (h.left.folders q).mpr (hh.kept q hq)
  · rw [h.left.contents _ (not_reportFile_logPath _)]
    have hkept := hh.keeps.contentAt
    rwa [hbase, ByteArray.empty_append, h.logAt_eq_logPath] at hkept

/-- The log is read back as the completions of the jobs that were logged. -/
theorem load_log : CompletionLog.load v b.layout.logPath =
    .ok (CompletionLog.read (logText ds)) := by
  unfold CompletionLog.load
  rw [readText_eq_ok_iff.mpr (h.contentAt_log hidx hdom)]

section Names

variable (hnames : ∀ u ∈ plan.units, CompletionLog.IsName u.name)
  (hclock : ∀ n, (b.clock n).IsPlain)

include hnames hclock

theorem lookup?_log (k : JobKey) : (CompletionLog.read (logText ds)).lookup? k =
    ((entries ds).find? (·.1 == k)).map (·.2) := by
  rw [logText_eq]
  refine CompletionLog.lookup?_read (fun e he => ?_) k
  obtain ⟨j, r, t, hj, rfl⟩ := mem_entries.mp he
  obtain ⟨-, n, rfl⟩ := (Progress.launched_of_deed h.follows).2 j r t hj
  exact ⟨hnames _ (h.mem_of_logged hidx hdom hj).2, hclock n⟩

/-- What the log says of a job of the plan names its unit, and the job was logged. -/
theorem logged_of_lookup? {j : Job} (hu : j.unit ∈ plan.units) {c : Completion}
    (hc : (CompletionLog.read (logText ds)).lookup? j.key = some c) :
    c.unitName = j.unit.name ∧ ∃ r t, .logged j r t ∈ ds := by
  rw [h.lookup?_log hidx hdom hnames hclock, Option.map_eq_some_iff] at hc
  obtain ⟨e, hfind, rfl⟩ := hc
  obtain ⟨i, r, t, hi, rfl⟩ := mem_entries.mp (List.mem_of_find?_eq_some hfind)
  have hkey : i.key = j.key := by simpa using List.find?_some hfind
  -- the line is of a job with the same key, and a key belongs to one job of the plan
  have hij : i = j := eq_of_key hidx (h.mem_of_logged hidx hdom hi).2 hu hkey
  exact ⟨by rw [hij], r, t, hij ▸ hi⟩

theorem exists_lookup?_of_logged {j : Job} {r : JobResult} {t : Time.Instant}
    (hj : .logged j r t ∈ ds) :
    ∃ c, (CompletionLog.read (logText ds)).lookup? j.key = some c := by
  rw [h.lookup?_log hidx hdom hnames hclock]
  have hsome : ((entries ds).find? (·.1 == j.key)).isSome = true := by
    rw [List.find?_isSome]
    exact ⟨_, mem_entries.mpr ⟨j, r, t, hj, rfl⟩, by simp⟩
  obtain ⟨e, he⟩ := Option.isSome_iff_exists.mp hsome
  exact ⟨e.2, by rw [he, Option.map_some]⟩

end Names

theorem not_resumed (j : Job) (r : JobResult) : .resumed j r ∉ ds := by
  intro hj
  obtain ⟨-, -, entry, text, hlookup, -⟩ := (Progress.resumed_iff hidx hdom h.opened.sound
    h.opened.keeps h.apart h.follows j r).mp hj
  cases hlookup

/-- Once a domain was begun, all jobs of those before it were logged. -/
theorem logged_before {e : Domain} (he : .began e ∈ ds) {j : Job}
    (hj : j.domain ∈ plan.domains.takeWhile (· != e)) (hu : j.unit ∈ plan.units) :
    ∃ r t, .logged j r t ∈ ds := by
  obtain ⟨r, hr | hr⟩ := Progress.done_before hidx hdom h.follows he hj hu
  · obtain ⟨t, ht⟩ := (h.courses hidx hdom).logged j r (Or.inl hr)
    exact ⟨r, t, ht⟩
  · exact absurd hr (h.not_resumed hidx hdom j r)

/-- The record of a logged job is still there. -/
theorem record_of_logged {j : Job} {r : JobResult} {t : Time.Instant} (hj : .logged j r t ∈ ds) :
    v.Leads (b.layout.recordPath j) ∧
      v.contentAt (b.layout.recordPath j).place = some (Record.lineOf r).toUTF8 := by
  obtain ⟨hleads, hrecord⟩ := (traced_isRecorded hidx hdom h.opened.sound h.opened.keeps h.apart
    h.follows).logged j r t hj r (Or.inr rfl)
  refine ⟨hleads.mono fun q => (h.left.folders q).mpr, ?_⟩
  rw [h.left.contents _ (not_reportFile_recordPath _ j), hrecord]

/-- A logged job came to the result that it comes to on its own, and its record says so. -/
theorem course_of_logged {answer : Job → UInt32 → ToolAnswer} {present : Job → Bool}
    (hanswers : b.tool.Answers answer)
    (hpresent : ∀ j, present j = true ↔ b.IsPresent scene.files plan j) {j : Job} {r : JobResult}
    {t : Time.Instant} (hj : .logged j r t ∈ ds) :
    (∃ saved, b.terms.Comes answer (present j) j (.finished r) saved) ∧
      v.Leads (b.layout.recordPath j) ∧
      v.contentAt (b.layout.recordPath j).place = some (Record.lineOf r).toUTF8 := by
  obtain ⟨saved, hcomes, -⟩ := (Progress.onCourse_of_follows hidx hdom h.opened.sound
    h.opened.keeps h.apart hanswers hpresent h.follows).logged j r t hj (by simp)
  exact ⟨⟨saved, hcomes⟩, h.record_of_logged hidx hdom hj⟩

end Stopped

/-! ## What the resumed run finds -/

section Resumed

variable {σ' : Type} {b' : Bench σ'} {log' : LogFile} {v' : Workspace}
  (hterms : b.terms = b'.terms) (h : b.Stopped w plan scene ds p v)
  (hidx : (plan.units.map (·.index)).Nodup) (hdom : plan.domains.Nodup)
  (h' : b'.Opened (plan.resumeFrom b.layout.logPath) v log' v')

include hterms h hidx hdom h'

/-- All the folders for the log are there already. -/
theorem folder_iff_of_resumed (q : Place) :
    v'.item? q = some .folder ↔ p.scene.files.item? q = some .folder := by
  -- the log lies where it lay, so it needs the same folders around it
  have hfolders : b'.openingFolders (plan.resumeFrom b.layout.logPath) =
      b.openingFolders plan := by
    unfold openingFolders
    rw [h.logAt_eq_logPath, ← layout_eq hterms]
    rfl
  rw [h'.folders, hfolders, h.left.folders, or_iff_left_of_imp]
  intro hq
  exact (h.housed hidx hdom).kept q ((h.opened.folders q).mpr (Or.inr hq))

/-- A job that was not logged finds the folders that it finds in a run without a stop. -/
theorem foldersOf_iff_of_resumed {j : Job} (hd : j.domain ∈ plan.domains)
    (hu : j.unit ∈ plan.units) (hnot : ∀ r t, .logged j r t ∉ ds) (q : Place) :
    b'.FoldersOf v' (plan.resumeFrom b.layout.logPath) j.domain q ↔
      b.FoldersOf scene.files plan j.domain q := by
  have hh := h.housed hidx hdom
  unfold FoldersOf FoldersBefore
  rw [folder_iff_of_resumed hterms h hidx hdom h', ← layout_eq hterms]
  constructor
  · rintro ((hq | hq) | hq)
    · rcases hh.made q hq with hq | ⟨e, he, hq⟩
      · exact Or.inl (Or.inl hq)
      -- the domain is not begun after that of the job, which would have been logged before
      · have hbefore : j.domain ∉ plan.domains.takeWhile (· != e) := by
          intro hbefore
          obtain ⟨r, t, ht⟩ := h.logged_before hidx hdom he hbefore hu
          exact hnot r t ht
        rcases Progress.eq_or_mem_takeWhile hd
          (Progress.mem_domains_of_began h.follows he) hbefore with heq | hmem
        · exact Or.inr (heq ▸ hq)
        · exact Or.inl (Or.inr ⟨e, hmem, hq⟩)
    · exact Or.inl (Or.inr hq)
    · exact Or.inr hq
  · rintro ((hq | hq) | hq)
    · exact Or.inl (Or.inl (hh.kept q hq))
    · exact Or.inl (Or.inr hq)
    · exact Or.inr hq

/-- The resumed run takes over the results of the jobs that were logged, and no others. -/
theorem reuses_iff_of_resumed (hnames : ∀ u ∈ plan.units, CompletionLog.IsName u.name)
    (hclock : ∀ n, (b.clock n).IsPlain) {answer : Job → UInt32 → ToolAnswer}
    (hanswers : b.tool.Answers answer)
    (hfinite : ∀ j, j.domain ∈ plan.domains → j.unit ∈ plan.units → b.terms.FiniteFor answer j)
    {j : Job} (hd : j.domain ∈ plan.domains) (hu : j.unit ∈ plan.units) (r : JobResult) :
    b'.Reuses v' (plan.resumeFrom b.layout.logPath) (CompletionLog.read (logText ds)) j r ↔
      ∃ t, .logged j r t ∈ ds := by
  obtain ⟨present, hpresent, -⟩ := exists_present rfl h.opened h.opened
  -- the record of a logged job can still be read, and it decodes to the result in the ledger
  have hread : ∀ {r' t}, .logged j r' t ∈ ds →
      LeadsIn (b'.FoldersBefore v' (plan.resumeFrom b.layout.logPath) j.domain)
          (b'.layout.recordPath j) ∧
        v'.contentAt (b'.layout.recordPath j).place = some (Record.lineOf r').toUTF8 ∧
        Record.decodeFile (Record.lineOf r') = .ok r' := by
    intro r' t hj
    obtain ⟨⟨saved, hcomes⟩, hleads, hcontent⟩ :=
      h.course_of_logged hidx hdom hanswers hpresent hj
    have hne : (b.layout.recordPath j).place ≠ b.layout.logPath.place := by
      intro heq
      have := h.apart _ hd j (mem_jobsOf.mpr ⟨rfl, hu⟩)
      rw [h.logAt_eq_logPath] at this
      exact this (Or.inr heq.symm)
    rw [← layout_eq hterms]
    refine ⟨?_, ?_, Record.decodeFile_lineOf (Terms.keeps_of_comes (hfinite j hd hu) hcomes)⟩
    · refine ⟨hleads.checked, hleads.short, fun q hq => Or.inl ?_⟩
      exact (folder_iff_of_resumed hterms h hidx hdom h' q).mpr
        ((h.left.folders q).mp (hleads.folders q hq))
    · rw [← hcontent]
      exact h'.elsewhere _ hne
  constructor
  · rintro ⟨c, text, hlookup, -, -, htext, hdecode⟩
    obtain ⟨-, r', t, hj⟩ := h.logged_of_lookup? hidx hdom hnames hclock hu hlookup
    obtain ⟨-, hcontent, hdecode'⟩ := hread hj
    -- the text that was read is the record, since both have the same bytes
    have hline := toUTF8_injective (Option.some.inj (htext.symm.trans hcontent))
    rw [hline, hdecode', Except.ok.injEq] at hdecode
    exact ⟨t, hdecode ▸ hj⟩
  · rintro ⟨t, hj⟩
    obtain ⟨c, hlookup⟩ := h.exists_lookup?_of_logged hidx hdom hnames hclock hj
    obtain ⟨hleads, hcontent, hdecode⟩ := hread hj
    exact ⟨c, _, hlookup, (h.logged_of_lookup? hidx hdom hnames hclock hu hlookup).1, hleads,
      hcontent, hdecode⟩

end Resumed

/-! ## The resumed run and one without a stop -/

theorem not_reuses_empty {j : Job} {r : JobResult} : ¬ b.Reuses w plan .empty j r := by
  rintro ⟨c, text, hlookup, -⟩
  cases hlookup

section Compared

variable {σ₂ σ₃ : Type} {b₂ : Bench σ₂} {b₃ : Bench σ₃} {answer : Job → UInt32 → ToolAnswer}
  (hterms₂ : b.terms = b₂.terms) (h : b.Stopped w plan scene ds p v)
  (hidx : (plan.units.map (·.index)).Nodup) (hdom : plan.domains.Nodup)
  (hnames : ∀ u ∈ plan.units, CompletionLog.IsName u.name) (hclock : ∀ n, (b.clock n).IsPlain)
  (hanswers : b.tool.Answers answer)
  (hfinite : ∀ j, j.domain ∈ plan.domains → j.unit ∈ plan.units → b.terms.FiniteFor answer j)

include hterms₂ in
/-- The log of a run is none of its jobs' files. -/
theorem resumesApart_logPath (plan : Plan) :
    b₂.ResumesApart (plan.resumeFrom b.layout.logPath) := by
  -- the log lies right below the root, where no job has a file
  intro path hpath d _ j _
  rw [← Option.some.inj hpath, layout_eq hterms₂, b₂.layout.place_logPath]
  exact Layout.not_jobFile_below_root "state.log"

include h hidx hdom in
theorem completions_of_resumed : completions v (plan.resumeFrom b.layout.logPath) =
    .ok (CompletionLog.read (logText ds)) := by
  have hload := h.load_log hidx hdom
  unfold completions Plan.resumeFrom
  dsimp only
  rw [hload]

include hterms₂ h hidx hdom hnames hclock hanswers hfinite

/-- The tool is not called for a job that was logged before the stop. -/
theorem not_called_of_logged {runId : RunId} {tool : σ₂} {ds₂ : List Deed} {p₂ : Progress σ₂}
    (h₂ : b₂.Attains v (plan.resumeFrom b.layout.logPath) runId tool ds₂ p₂) {j : Job}
    {r : JobResult} {t : Time.Instant} (hj : .logged j r t ∈ ds) (n : UInt32) :
    .called j n ∉ ds₂ := by
  intro hcalled
  obtain ⟨done, scene₂, hdone, hopened, hfollows⟩ := h₂.opened h.left.sound
  rw [completions_of_resumed h hidx hdom, Except.ok.injEq] at hdone
  subst hdone
  obtain ⟨hd, hu⟩ := h.mem_of_logged hidx hdom hj
  have hidx₂ : ((plan.resumeFrom b.layout.logPath).units.map (·.index)).Nodup := hidx
  have hdom₂ : (plan.resumeFrom b.layout.logPath).domains.Nodup := hdom
  have hlaunched := (Progress.launched_of_deed hfollows).1 j n hcalled
  -- the call would be that of a launched job, but the log makes the survey resume it
  have hresumed : .resumed j r ∈ ds₂ := by
    rw [Progress.resumed_iff hidx₂ hdom₂ hopened.sound hopened.keeps
      (apartFrom_logAt (resumesApart_logPath hterms₂ plan)) hfollows]
    exact ⟨Progress.began_of_launched hfollows hlaunched, mem_jobsOf.mpr ⟨rfl, hu⟩,
      (reuses_iff_of_resumed hterms₂ h hidx hdom hopened hnames hclock hanswers hfinite hd hu
        r).mpr ⟨t, hj⟩⟩
  exact (Progress.courses_of_follows hidx₂ hdom₂ hfollows).not_launched_of_resumed hresumed
    hlaunched

/-- A job has the result in the resumed run that it has in a run without a stop: that of its log
line, or the one that it comes to now. -/
theorem ledger_eq_of_resumed (hterms₃ : b.terms = b₃.terms) (hanswers₂ : b₂.tool.Answers answer)
    (hanswers₃ : b₃.tool.Answers answer) {scene₂ : Scene σ₂} {scene₃ : Scene σ₃}
    {ds₂ ds₃ : List Deed} {p₂ : Progress σ₂} {p₃ : Progress σ₃}
    (h₂ : b₂.Completed v (plan.resumeFrom b.layout.logPath) (CompletionLog.read (logText ds))
      scene₂ ds₂ p₂)
    (h₃ : b₃.Completed w plan .empty scene₃ ds₃ p₃) : p₂.ledger = p₃.ledger := by
  obtain ⟨present, hpresent, hpresent₃⟩ := exists_present hterms₃ h.opened h₃.opened
  obtain ⟨present₂, hpresent₂, -⟩ := exists_present rfl h₂.opened h₂.opened
  have hapart₃ : b₃.ResumesApart plan := fun path hpath => by simp [h.fresh] at hpath
  have hidx₂ : ((plan.resumeFrom b.layout.logPath).units.map (·.index)).Nodup := hidx
  have hdom₂ : (plan.resumeFrom b.layout.logPath).domains.Nodup := hdom
  refine Ledger.Ordered.ext (Progress.orderly_of_follows h₂.follows).ordered
    (Progress.orderly_of_follows h₃.follows).ordered fun k => Option.ext fun r => ?_
  rw [Progress.get?_iff_of_complete hidx₂ hdom₂ h₂.opened.sound h₂.opened.keeps
      (apartFrom_logAt (resumesApart_logPath hterms₂ plan)) h₂.follows h₂.complete hanswers₂
      hpresent₂,
    Progress.get?_iff_of_complete hidx hdom h₃.opened.sound h₃.opened.keeps
      (apartFrom_logAt hapart₃) h₃.follows h₃.complete hanswers₃ hpresent₃, ← hterms₂, ← hterms₃]
  refine exists_congr fun j => and_congr_right fun _ => ?_
  by_cases hmem : j.domain ∈ plan.domains ∧ j.unit ∈ plan.units
  · obtain ⟨hd, hu⟩ := hmem
    have hreuses := reuses_iff_of_resumed hterms₂ h hidx hdom h₂.opened hnames hclock hanswers
      hfinite hd hu
    -- the result of a logged job is taken over, and all other jobs find the same folders
    by_cases hlogged : ∃ r₀ t, .logged j r₀ t ∈ ds
    · obtain ⟨r₀, t, hj⟩ := hlogged
      constructor
      · rintro (⟨⟨-, -, hnot⟩, -⟩ | ⟨-, -, hr⟩)
        · exact absurd ((hreuses r₀).mpr ⟨t, hj⟩) (hnot r₀)
        · obtain ⟨t', hj'⟩ := (hreuses r).mp hr
          exact Or.inl ⟨⟨hd, hu, fun _ => not_reuses_empty⟩,
            (h.course_of_logged hidx hdom hanswers hpresent hj').1⟩
      · rintro (⟨-, saved, hcomes⟩ | ⟨-, -, hr⟩)
        · obtain ⟨⟨saved', hcomes'⟩, -⟩ := h.course_of_logged hidx hdom hanswers hpresent hj
          rw [(hcomes.unique hcomes').1]
          exact Or.inr ⟨hd, hu, (hreuses r₀).mpr ⟨t, hj⟩⟩
        · exact absurd hr not_reuses_empty
    · have hnot : ∀ r' t, .logged j r' t ∉ ds := fun r' t hj => hlogged ⟨r', t, hj⟩
      -- whether the working folder is there depends on the folders, which are the same
      have hsame : present₂ j = present j := by
        rw [Bool.eq_iff_iff, hpresent₂, hpresent]
        exact isPresent_congr (foldersOf_iff_of_resumed hterms₂ h hidx hdom h₂.opened hd hu hnot)
      rw [hsame]
      constructor
      · rintro (⟨-, hcomes⟩ | ⟨-, -, hr⟩)
        · exact Or.inl ⟨⟨hd, hu, fun _ => not_reuses_empty⟩, hcomes⟩
        · obtain ⟨t, hj⟩ := (hreuses r).mp hr
          exact absurd hj (hnot r t)
      · rintro (⟨-, hcomes⟩ | ⟨-, -, hr⟩)
        · refine Or.inl ⟨⟨hd, hu, fun r' hr' => ?_⟩, hcomes⟩
          obtain ⟨t, hj⟩ := (hreuses r').mp hr'
          exact hnot r' t hj
        · exact absurd hr not_reuses_empty
  · constructor
    · rintro (⟨⟨hd, hu, -⟩, -⟩ | ⟨hd, hu, -⟩)
      · exact absurd ⟨hd, hu⟩ hmem
      · exact absurd ⟨hd, hu⟩ hmem
    · rintro (⟨⟨hd, hu, -⟩, -⟩ | ⟨hd, hu, -⟩)
      · exact absurd ⟨hd, hu⟩ hmem
      · exact absurd ⟨hd, hu⟩ hmem

end Compared

/-- Stopping and going on is the same as not stopping.  Take a plan that starts a log of its own, a
tool that answers by job and attempt and whose verdicts have finite figures, and unit names and
clock readings that a log line can hold.  Wherever a run of the plan stops, in any order of its
steps and also after a failure: a run on the files that it leaves, with its log to go on from,
comes to the report of a run that was not stopped, and calls the tool for no job that was logged
before the stop. -/
theorem resume_after_stop {σ₁ σ₂ σ₃ : Type} {b₁ : Bench σ₁} {b₂ : Bench σ₂} {b₃ : Bench σ₃}
    {answer : Job → UInt32 → ToolAnswer} (hterms₂ : b₁.terms = b₂.terms)
    (hterms₃ : b₁.terms = b₃.terms) (hanswers₁ : b₁.tool.Answers answer)
    (hanswers₂ : b₂.tool.Answers answer) (hanswers₃ : b₃.tool.Answers answer)
    (hfinite : ∀ j, j.domain ∈ plan.domains → j.unit ∈ plan.units → b₁.terms.FiniteFor answer j)
    (hw : w.Sound) (hidx : (plan.units.map (·.index)).Nodup) (hdom : plan.domains.Nodup)
    (hnames : ∀ u ∈ plan.units, CompletionLog.IsName u.name)
    (hclock : ∀ n, (b₁.clock n).IsPlain) (hfresh : plan.resume = none)
    {runId₁ : RunId} {tool₁ : σ₁} {ds₁ : List Deed} {p₁ : Progress σ₁}
    (hstop : b₁.Attains w plan runId₁ tool₁ ds₁ p₁)
    (hleft : b₁.Leaves plan runId₁ p₁ v) :
    (∀ runId₂ runId₃ tool₂ tool₃ ds₂ ds₃ p₂ p₃ r₂ r₃,
      b₂.Finishes v (plan.resumeFrom b₁.layout.logPath) runId₂ tool₂ ds₂ p₂ r₂ →
      b₃.Finishes w plan runId₃ tool₃ ds₃ p₃ r₃ →
      p₂.ledger = p₃.ledger ∧ r₂.report.Agrees r₃.report ∧
        r₂.report.summaries = r₃.report.summaries ∧ r₂.report.chiplets = r₃.report.chiplets) ∧
    (∀ runId₂ tool₂ ds₂ p₂,
      b₂.Attains v (plan.resumeFrom b₁.layout.logPath) runId₂ tool₂ ds₂ p₂ →
      ∀ j r t, .logged j r t ∈ ds₁ → ∀ n, .called j n ∉ ds₂) := by
  obtain ⟨scene₁, hopened₁, hfollows₁⟩ := hstop.opened_of_fresh hw hfresh
  have hsound := (Progress.housed_of_follows hidx hdom hopened₁.sound hopened₁.keeps
    (apartFrom_logAt fun path hpath => by simp [hfresh] at hpath) hfollows₁).sound
  have h : b₁.Stopped w plan scene₁ ds₁ p₁ v :=
    ⟨hfresh, hopened₁, hfollows₁, hleft.alikeButReport hsound⟩
  constructor
  · intro runId₂ runId₃ tool₂ tool₃ ds₂ ds₃ p₂ p₃ r₂ r₃ hfin₂ hfin₃
    obtain ⟨done₂, scene₂, hdone₂, h₂⟩ := hfin₂.completed h.left.sound
    rw [completions_of_resumed h hidx hdom, Except.ok.injEq] at hdone₂
    subst hdone₂
    obtain ⟨scene₃, hopened₃, hfollows₃⟩ := hfin₃.1.opened_of_fresh hw hfresh
    have hledger := ledger_eq_of_resumed hterms₂ h hidx hdom hnames hclock hanswers₁ hfinite
      hterms₃ hanswers₂ hanswers₃ h₂ ⟨hopened₃, hfollows₃, hfin₃.2.1⟩
    rw [report_of_finish hfin₂.2.2, report_of_finish hfin₃.2.2, hledger]
    exact ⟨rfl, Report.agrees_build .., rfl, rfl⟩
  · intro runId₂ tool₂ ds₂ p₂ h₂ j r t hj n
    exact not_called_of_logged hterms₂ h hidx hdom hnames hclock hanswers₁ hfinite h₂ hj n

/-- Nothing printed is a missing section, which has no figures. -/
theorem finiteFor_silent {slots : Nat} {j : Job} (hj : j.domain = .timing) :
    (Sample.stillBench slots Sample.silent).terms.FiniteFor Sample.silent j := by
  obtain ⟨d, u⟩ := j
  obtain rfl : d = .timing := hj
  intro attempt i v hi hv
  have hjudge : (⟨.success, ""⟩ : Invocation).judge .timing 1000 =
      .final (Verdict.noSection .timing) := by decide +kernel
  rw [← ToolAnswer.answer.inj hi] at hv
  rw [← show Verdict.noSection .timing = v from Attempt.final.inj (hjudge.symm.trans hv)]
  trivial

/-- A run stops behind the first job of a small plan.  The run that goes on with its log comes to
the report of one that is not stopped, and calls the tool for the other job alone. -/
theorem resume_after_stop_first_job :
    ∃ ds₁ ds₂ ds₃ p₁ p₂ p₃ r₂ r₃,
      (Sample.stillBench 1 Sample.silent).Attains .empty (Sample.plan none) Sample.runId ()
        ds₁ p₁ ∧
      (∃ t, .logged Sample.job Sample.result t ∈ ds₁) ∧
      (Sample.stillBench 2 Sample.silent).Finishes p₁.scene.files
        ((Sample.plan none).resumeFrom ⟨"o/state.log"⟩) Sample.runId () ds₂ p₂ r₂ ∧
      (Sample.stillBench 2 Sample.silent).Finishes .empty (Sample.plan none) Sample.runId ()
        ds₃ p₃ r₃ ∧
      r₂.report.summaries = r₃.report.summaries ∧ r₂.report.chiplets = r₃.report.chiplets ∧
      ∀ n, .called Sample.job n ∉ ds₂ := by
  obtain ⟨⟨ds₁, p₁⟩, hplay⟩ := Option.isSome_iff_exists.mp
    (show ((Sample.stillBench 1 Sample.silent).play .empty (Sample.plan none) Sample.runId ()
      Sample.firstJob).isSome = true by decide +kernel)
  have hlogged : .logged Sample.job Sample.result ⟨0, 0⟩ ∈ ds₁ := by
    have htest : ((Sample.stillBench 1 Sample.silent).play .empty (Sample.plan none) Sample.runId ()
      Sample.firstJob).any (fun e => decide (.logged Sample.job Sample.result ⟨0, 0⟩ ∈ e.1)) =
        true := by decide +kernel
    rw [hplay] at htest
    exact of_decide_eq_true htest
  have hfiles : (((Sample.stillBench 1 Sample.silent).play .empty (Sample.plan none) Sample.runId ()
      Sample.firstJob).map (·.2.scene.files)).getD .empty = p₁.scene.files := by
    rw [hplay, Option.map_some, Option.getD_some]
  obtain ⟨ds₂, p₂, r₂, hfin₂, -⟩ := @exists_finishes Unit (Sample.stillBench 2 Sample.silent)
    ((((Sample.stillBench 1 Sample.silent).play .empty (Sample.plan none) Sample.runId ()
      Sample.firstJob).map (·.2.scene.files)).getD .empty)
    ((Sample.plan none).resumeFrom ⟨"o/state.log"⟩) Sample.runId () Sample.secondJob
    (fun _ _ => true) (by decide +kernel)
  rw [hfiles] at hfin₂
  obtain ⟨ds₃, p₃, r₃, hfin₃, -⟩ := @exists_finishes Unit (Sample.stillBench 2 Sample.silent)
    .empty (Sample.plan none) Sample.runId () Sample.lastFirst (fun _ _ => true) (by decide +kernel)
  have hanswers : ∀ slots, (Sample.stillBench slots Sample.silent).tool.Answers Sample.silent :=
    fun _ _ _ _ _ _ => rfl
  have hfinite : ∀ j : Job, j.domain ∈ (Sample.plan none).domains →
      j.unit ∈ (Sample.plan none).units →
      (Sample.stillBench 1 Sample.silent).terms.FiniteFor Sample.silent j := fun j hd _ =>
    finiteFor_silent (List.mem_singleton.mp hd)
  have hnames : ∀ u ∈ (Sample.plan none).units, CompletionLog.IsName u.name := by
    intro u hu
    simp only [Sample.plan, List.mem_cons, List.not_mem_nil, or_false] at hu
    rcases hu with rfl | rfl <;>
      exact ⟨by decide +kernel, by decide, by decide, by decide, by decide⟩
  have hplain : (⟨0, 0⟩ : Time.Instant).IsPlain := ⟨by decide, by decide, by decide⟩
  have hlogPath : (Sample.stillBench 1 Sample.silent).layout.logPath = ⟨"o/state.log"⟩ := by
    decide +kernel
  have hterms : (Sample.stillBench 1 Sample.silent).terms =
      (Sample.stillBench 2 Sample.silent).terms := rfl
  have hsame := resume_after_stop hterms hterms (hanswers 1) (hanswers 2) (hanswers 2) hfinite
    sound_empty (by decide) (by decide) hnames (fun _ => hplain) rfl (attains_of_play hplay)
    .stopped
  rw [hlogPath] at hsame
  obtain ⟨-, -, hsummaries, hchiplets⟩ := hsame.1 _ _ _ _ ds₂ ds₃ p₂ p₃ r₂ r₃
    hfin₂ hfin₃
  exact ⟨ds₁, ds₂, ds₃, p₁, p₂, p₃, r₂, r₃, attains_of_play hplay, ⟨_, hlogged⟩, hfin₂, hfin₃,
    hsummaries, hchiplets, hsame.2 _ _ ds₂ p₂ hfin₂.1 _ _ _ hlogged⟩

end Bench

end Signoff
