import Signoff.Proofs.Run.Idle
import Signoff.Proofs.Run.Reuse
import Signoff.Proofs.Workspace.Again

/-!
# What a second run finds

A run that goes on with a log leaves it with its own lines behind the text
(`completions_of_finish`), and a record that reads as its result for each job (`exists_record`).  A
second run with the same log opens it without a change (`openLog_of_finish`) and, where the lines
suit the plan, takes over every result (`reusable_of_finish`), so it comes to the same ledger
(`ledger_eq_of_finish`).
-/

namespace Signoff

open Workspace Deed

namespace CompletionLog

/-- What a log says about the jobs of a plan is of use: the first line about a job names its unit,
and the name of a unit without a line is one that a line keeps. -/
structure Suits (plan : Plan) (text : String) : Prop where
  named : ∀ d ∈ plan.domains, ∀ j ∈ jobsOf plan.units d, ∀ c,
    (read text).lookup? j.key = some c → c.unitName = j.unit.name
  kept : ∀ d ∈ plan.domains, ∀ j ∈ jobsOf plan.units d,
    (read text).lookup? j.key = none → '|' ∉ j.unit.name.toList ∧ '\r' ∉ j.unit.name.toList

end CompletionLog

/-! ## The folders of domains that were begun -/

/-- The folders of a domain that was begun were made, unless the run has failed. -/
theorem Progress.exists_prepare_of_began {σ : Type} {b : Bench σ} {plan : Plan}
    {done : CompletionLog.Completions} {ds : List Deed} {p : Progress σ} {scene : Scene σ}
    (h : Follows b plan done (start plan scene) ds p) (hf : p.failure = none) {d : Domain}
    (hd : .began d ∈ ds) : ∃ w w', b.layout.prepare w d = (.ok (), w') := by
  refine h.induct (motive := fun ds p => p.failure = none → .began d ∈ ds →
    ∃ w w', b.layout.prepare w d = (.ok (), w')) (by simp) ?_ hf hd
  intro ds es p q hfol hf hm ih hfq hd
  rcases List.mem_append.mp hd with hd | hd
  · exact ih hf hd
  cases hm with
  | @begins trouble d' rest survey files ha hp hs hprep =>
    obtain rfl : d = d' := by simpa using hd
    unfold prepare at hprep
    split at hprep
    · cases (Prod.mk.inj hprep).1
    · exact ⟨_, _, hprep⟩
  | stumbles => cases hfq
  | advances ha hr hstep =>
    exact absurd hd (hstep.began_not_mem d)
  | _ => simp at hd

namespace Bench

/-! ## Opening and publishing again -/

section Again

variable {σ₁ σ₂ : Type} {b₁ : Bench σ₁} {b₂ : Bench σ₂} {plan : Plan} {w w' v : Workspace}
  {path : Path} {log : LogFile}

/-- A log that was gone on with is opened again without a change. -/
theorem openLog_again (hlayout : b₁.layout = b₂.layout) (hw : w.Sound)
    (hresume : plan.resume = some path) (h : b₁.openLog w plan = (.ok log, w'))
    (hkept : ∀ q, w'.item? q = some .folder → v.item? q = some .folder)
    (hreport : v.Leads b₁.layout.reportPath) {number : Nat} {content : ByteArray}
    (hfile : v.item? path.place = some (.file number content)) :
    ∃ log', b₂.openLog v plan = (.ok log', v) := by
  have hopened := opened_of_openLog hw h
  obtain ⟨left, -, hstart⟩ := openLog_start h
  have hmode : logMode plan = .continued := by
    unfold logMode
    rw [hresume]
    rfl
  have hlogAt : b₁.logAt plan = path := by
    unfold logAt
    rw [hresume, Option.getD_some]
  rw [hmode, hlogAt] at hstart
  -- the folder around the log was made once, and the file was opened in it
  unfold LogFile.start at hstart
  dsimp only at hstart
  split at hstart
  · cases (Prod.mk.inj hstart).1
  next room hroom =>
    split at hstart
    · cases (Prod.mk.inj hstart).1
    next log' opened hopen =>
      have hwide : opened = w' := (Prod.mk.inj hstart).2
      have haround : v.makeFolders (path.parent?.getD ⟨""⟩) = (.ok (), v) := by
        refine makeFolders_again (withoutSlashes_parent path) hroom fun q hq => hkept q ?_
        rw [hopened.folders, openingFolders, hlogAt]
        exact Or.inr (List.mem_append_right _ hq)
      have hroot : v.makeFolders b₂.layout.root = (.ok (), v) := by
        rw [← hlayout]
        exact makeFolders_of_child ⟨by decide, by decide, by decide⟩ hreport
      have hroom' : ∀ q, room.item? q = some .folder → v.item? q = some .folder := by
        intro q hq
        apply hkept
        rw [← hwide]
        obtain ⟨-, -, -, hstores | rfl⟩ := LogFile.openAt_eq_ok hopen
        · exact hstores.folder_iff.mpr hq
        · exact hq
      unfold LogFile.openAt at hopen
      dsimp only at hopen
      split at hopen
      · cases hopen
      next number' left' hfileAt =>
        refine ⟨⟨path, number, none⟩, ?_⟩
        unfold openLog
        rw [hroot, hresume]
        dsimp only
        unfold LogFile.start LogFile.openAt
        dsimp only
        rw [haround]
        dsimp only
        rw [LogFile.fileAt_again hfileAt hroom' hfile]

theorem publish_again (hlayout : b₁.layout = b₂.layout) {report : Report}
    (h : b₁.publish w report = (.ok (), v)) (report' : Report) :
    v.Leads b₁.layout.reportPath ∧ ∃ v', b₂.publish v report' = (.ok (), v') := by
  unfold publish at h
  split at h
  · cases (Prod.mk.inj h).1
  next left hreport =>
    split at h
    · cases (Prod.mk.inj h).1
    next more hsummary =>
      obtain rfl : more = v := (Prod.mk.inj h).2
      obtain ⟨hleads, hstores⟩ := write_eq_ok hreport
      obtain ⟨-, hstores'⟩ := write_eq_ok hsummary
      -- both files are there now, and neither is a folder
      have hkept : ∀ q, w.item? q = some .folder → more.item? q = some .folder := fun q hq =>
        hstores'.folder_iff.mpr (hstores.folder_iff.mpr hq)
      have hfile : more.item? b₁.layout.reportPath.place ≠ some .folder := fun hq =>
        hstores.here (hstores.folder_iff.mp (hstores'.folder_iff.mp hq))
      obtain ⟨v₁, hv₁⟩ := exists_write_again hreport hkept hfile report'.write.toUTF8
      have hstores₁ := (write_eq_ok hv₁).2
      obtain ⟨v₂, hv₂⟩ := exists_write_again (v := v₁) hsummary
        (fun q hq => hstores₁.folder_iff.mpr (hstores'.folder_iff.mpr hq))
        (fun hq => hstores'.here (hstores'.folder_iff.mp (hstores₁.folder_iff.mp hq)))
        report'.markdown.toUTF8
      refine ⟨hleads.mono hkept, v₂, ?_⟩
      unfold publish writeText
      rw [← hlayout, hv₁]
      dsimp only
      rw [hv₂]

theorem publish_of_finish {runId : RunId} {p : Progress σ₁} {r : RunResult}
    (h : (b₁.finish plan runId p).result = .ok r) :
    ∃ report, b₁.publish p.scene.files report = (.ok (), (b₁.finish plan runId p).files) := by
  refine ⟨Report.build plan.units plan.domains p.ledger false runId
    (b₁.clock p.scene.readings), ?_⟩
  unfold finish at h ⊢
  dsimp only at h ⊢
  split at h
  · cases h
  next files hpublish => rw [hpublish]

end Again

/-! ## What the first run leaves -/

section First

variable {σ : Type} {b : Bench σ} {plan : Plan} {w : Workspace} {path : Path} {text : String}
  {done : CompletionLog.Completions} {scene : Scene σ} {ds : List Deed} {p : Progress σ}
  {answer : Job → UInt32 → ToolAnswer} {j : Job}

/-- Behind the lines of the run, the log names the unit of each job that it has a line for. -/
theorem exists_entry (hselected : plan.IsSelected) (hdom : plan.domains.Nodup)
    (hsuits : CompletionLog.Suits plan text)
    (hclosed : CompletionLog.IsClosed text ∨ Deed.completions ds = [])
    (hclock : ∀ n, (b.clock n).IsPlain)
    (h : Progress.Follows b plan done (.start plan scene) ds p) (hd : j.domain ∈ plan.domains)
    (hu : j.unit ∈ plan.units)
    (hj : (∃ r t, .logged j r t ∈ ds) ∨
      ∃ c, (CompletionLog.read text).lookup? j.key = some c) :
    ∃ c, (CompletionLog.read (text ++ logText ds)).lookup? j.key = some c ∧
      c.unitName = j.unit.name := by
  have hmem : j ∈ jobsOf plan.units j.domain := mem_jobsOf.mpr ⟨rfl, hu⟩
  have hread : (CompletionLog.read (text ++ logText ds)).lookup? j.key =
      ((CompletionLog.read text).lookup? j.key).or
        ((CompletionLog.read (logText ds)).lookup? j.key) := by
    rcases hclosed with hclosed | hnone
    · exact CompletionLog.lookup?_read_append hclosed _ _
    · rw [logText_eq_empty hnone, String.append_empty]
      exact (Option.or_none ..).symm
  cases hold : (CompletionLog.read text).lookup? j.key with
  | some c =>
    rw [hread, hold]
    exact ⟨c, rfl, hsuits.named _ hd j hmem c hold⟩
  | none =>
    obtain ⟨r, t, ht⟩ := hj.resolve_right (by simp [hold])
    obtain ⟨hbar, hcarriage⟩ := hsuits.kept _ hd j hmem hold
    have hfield := hselected.isField _ hu
    have hname : CompletionLog.IsName j.unit.name :=
      ⟨hfield.trimmed, hfield.nonempty, hbar, hfield.feed, hcarriage⟩
    obtain ⟨hlaunched, n, rfl⟩ :=
      (Progress.launched_of_deed h).2 j r t ht
    obtain ⟨c, hc⟩ := Deed.exists_lookup?_of_logged ht hname (hclock n)
    refine ⟨c, by rw [hread, hold, Option.none_or, hc], ?_⟩
    -- the line is of a job with the same key, and a key belongs to one job of the plan
    obtain ⟨i, r', t', hi, hkey, hsame⟩ := Deed.logged_of_lookup? hc
    have hlaunched' := ((Progress.launched_of_deed h).2 i r' t' hi).1
    have hui := ((Progress.courses_of_follows hselected.nodup_index hdom h).member i
      (mem_takes.mpr (Or.inl hlaunched'))).2
    obtain rfl : i = j := eq_of_key hselected.nodup_index hui hu hkey
    rw [CompletionLog.trim_sanitize hfield, CompletionLog.sanitize_eq_self hname] at hsame
    exact String.toList_inj.mp hsame

/-- The files of a complete run, and what is left of them once the report is written. -/
theorem Completed.left (h : b.Completed w plan done scene ds p)
    (hidx : (plan.units.map (·.index)).Nodup) (hdom : plan.domains.Nodup)
    (hapart : b.ResumesApart plan) (runId : RunId) :
    Progress.Housed b scene.files (b.logAt plan).place (b.logBase w plan) ds p ∧
      b.layout.AlikeButReport p.scene.files (b.finish plan runId p).files := by
  have hhoused := Progress.housed_of_follows hidx hdom h.opened.sound h.opened.keeps
    (apartFrom_logAt hapart) h.follows
  exact ⟨hhoused, (Leaves.finished h.complete).alikeButReport hhoused.sound⟩

/-- Each job of a complete run has a record that reads as its result, and was logged by this run or
an earlier one. -/
theorem exists_record (hidx : (plan.units.map (·.index)).Nodup) (hdom : plan.domains.Nodup)
    (hapart : b.ResumesApart plan) (hanswers : b.tool.Answers answer)
    (hfinite : ∀ j r t, .logged j r t ∈ ds → b.terms.FiniteFor answer j)
    (h : b.Completed w plan done scene ds p) (hd : j.domain ∈ plan.domains)
    (hu : j.unit ∈ plan.units) :
    ∃ r record, p.ledger.get? j.key = some r ∧
      p.scene.files.readText (b.layout.recordPath j) = .ok record ∧
      Record.decodeFile record = .ok r ∧
      ((∃ t, .logged j r t ∈ ds) ∨
        ∃ c, done.lookup? j.key = some c ∧ c.unitName = j.unit.name) := by
  have hplace := apartFrom_logAt hapart
  have hcourses := Progress.courses_of_follows hidx hdom h.follows
  have hhoused := Progress.housed_of_follows hidx hdom h.opened.sound h.opened.keeps hplace
    h.follows
  obtain ⟨r, hr⟩ := Progress.executed_or_resumed hidx hdom h.follows h.complete hd hu
  have hentered : p.ledger.get? j.key = some r := (hcourses.entered j.key r).mpr ⟨j, rfl, hr⟩
  rcases hr with hr | hr
  -- an executed job was logged behind its record
  · obtain ⟨t, ht⟩ := hcourses.logged j r (Or.inl hr)
    obtain ⟨hleads, hcontent⟩ := (traced_isRecorded hidx hdom h.opened.sound h.opened.keeps
      hplace h.follows).logged j r t ht r (Or.inr rfl)
    obtain ⟨present, hpresent, -⟩ := exists_present rfl h.opened h.opened
    obtain ⟨saved, hcomes, -⟩ := Progress.course_of_collected hidx hdom h.opened.sound
      h.opened.keeps hplace h.follows hanswers hpresent hr
    exact ⟨r, Record.lineOf r, hentered, readText_eq_ok_iff.mpr ⟨hleads, hcontent⟩,
      Record.decodeFile_lineOf (Terms.keeps_of_comes (hfinite j r t ht) hcomes),
      Or.inl ⟨t, ht⟩⟩
  -- the record of a resumed job is the one that was found
  · obtain ⟨-, -, entry, record, hlookup, hname, hleads, hcontent, hdecode⟩ :=
      (Progress.resumed_iff_of_complete hidx hdom h.opened.sound h.opened.keeps hplace h.follows
        h.complete).mp hr
    have hsame := Progress.record_of_not_launched hidx hcourses hhoused hplace hd
      (mem_jobsOf.mpr ⟨rfl, hu⟩) (hcourses.not_launched_of_resumed hr)
    refine ⟨r, record, hentered, readText_eq_ok_iff.mpr ⟨⟨hleads.checked, hleads.short,
      fun q hq => ?_⟩, hsame.trans hcontent⟩, hdecode, Or.inr ⟨entry, hlookup, hname⟩⟩
    rcases hleads.passed q hq with hq | ⟨e, he, hq⟩
    · exact hhoused.kept q hq
    · exact hhoused.prepared (Progress.failure_of_isComplete h.complete) e
        ((Progress.began_of_isComplete h.follows h.complete e).mpr
          ((List.takeWhile_prefix _).subset he)) q hq

end First

/-! ## What the second run finds -/

section Second

variable {σ₁ σ₂ : Type} {b₁ : Bench σ₁} {b₂ : Bench σ₂} {plan : Plan} {w : Workspace} {path : Path}
  {text : String} {answer : Job → UInt32 → ToolAnswer} {runId₁ runId₂ : RunId} {tool₁ : σ₁}
  {tool₂ : σ₂} {ds₁ ds₂ : List Deed} {p₁ : Progress σ₁} {p₂ : Progress σ₂} {r₁ r₂ : RunResult}
  (hterms : b₁.terms = b₂.terms) (hanswers : b₁.tool.Answers answer) (hw : w.Sound)
  (hselected : plan.IsSelected) (hdom : plan.domains.Nodup) (hresume : plan.resume = some path)
  (hapart : b₁.ResumesApart plan) (hreport : ¬ b₁.layout.ReportFile path.place)
  (htext : b₁.logBase w plan = text.toUTF8) (hsuits : CompletionLog.Suits plan text)
  (hclosed : CompletionLog.IsClosed text ∨ Deed.completions ds₁ = [])
  (hfinite : ∀ j r t, .logged j r t ∈ ds₁ → b₁.terms.FiniteFor answer j)
  (hclock : ∀ n, (b₁.clock n).IsPlain)
  (hfin : b₁.Finishes w plan runId₁ tool₁ ds₁ p₁ r₁)

include hresume in
theorem logAt_eq_of_resume : b₁.logAt plan = path := by
  unfold logAt
  rw [hresume, Option.getD_some]

include hw hselected hdom hresume hapart hreport htext hfin

/-- The log has the lines of the first run behind its text. -/
theorem completions_of_finish :
    (b₁.finish plan runId₁ p₁).files.contentAt path.place = some (text ++ logText ds₁).toUTF8 ∧
      completions (b₁.finish plan runId₁ p₁).files plan =
        .ok (CompletionLog.read (text ++ logText ds₁)) := by
  obtain ⟨done, scene, -, h⟩ := hfin.completed hw
  obtain ⟨hhoused, hleft⟩ := h.left hselected.nodup_index hdom hapart runId₁
  have hkept := hhoused.keeps.contentAt
  have hleads := h.opened.leads
  rw [logAt_eq_of_resume hresume] at hkept hleads
  rw [htext, ← toUTF8_append] at hkept
  have hcontent := (hleft.contents _ hreport).trans hkept
  refine ⟨hcontent, ?_⟩
  have hread : (b₁.finish plan runId₁ p₁).files.readText path = .ok (text ++ logText ds₁) :=
    readText_eq_ok_iff.mpr
      ⟨hleads.mono fun q hq => (hleft.folders q).mpr (hhoused.kept q hq), hcontent⟩
  unfold completions CompletionLog.load
  rw [hresume]
  dsimp only
  rw [hread]

include hterms in
/-- The second run opens the log without a change, and can write the report. -/
theorem openLog_of_finish : (∃ log, b₂.openLog (b₁.finish plan runId₁ p₁).files plan =
      (.ok log, (b₁.finish plan runId₁ p₁).files)) ∧
    ∀ report, ∃ v, b₂.publish (b₁.finish plan runId₁ p₁).files report = (.ok (), v) := by
  obtain ⟨number, hfile⟩ := contentAt_eq_some.mp
    (completions_of_finish hw hselected hdom hresume hapart hreport htext hfin).1
  obtain ⟨⟨-, done, log, files, hdone, hopen, hfollows⟩, hcomplete, hresult⟩ := hfin
  have h : b₁.Completed w plan done (b₁.openingScene plan runId₁ files log tool₁) ds₁ p₁ :=
    ⟨opened_of_openLog hw hopen, hfollows, hcomplete⟩
  obtain ⟨hhoused, hleft⟩ := h.left hselected.nodup_index hdom hapart runId₁
  obtain ⟨report, hpublish⟩ := publish_of_finish hresult
  have hagain := publish_again (layout_eq hterms) hpublish
  exact ⟨openLog_again (layout_eq hterms) hw hresume hopen
    (fun q hq => (hleft.folders q).mpr (hhoused.kept q hq)) (hagain report).1 hfile,
    fun report' => (hagain report').2⟩

include hterms hanswers hsuits hclosed hfinite hclock

omit hreport in
/-- The second run finds the result of each job that the first one has in its ledger. -/
theorem reusable_of_finish {j : Job} (hd : j.domain ∈ plan.domains) (hu : j.unit ∈ plan.units) :
    ∃ r, p₁.ledger.get? j.key = some r ∧
      Survey.reusable? (b₁.finish plan runId₁ p₁).files b₂.layout
        (CompletionLog.read (text ++ logText ds₁)) j = some r := by
  obtain ⟨done, scene, hdone, h⟩ := hfin.completed hw
  have hleft := (h.left hselected.nodup_index hdom hapart runId₁).2
  obtain ⟨r, record, hentered, hrecord, hdecode, hj⟩ := exists_record hselected.nodup_index hdom
    hapart hanswers hfinite h hd hu
  -- a line that the first run went by stood in the text of the log
  have hline : (∃ r t, .logged j r t ∈ ds₁) ∨
      ∃ c, (CompletionLog.read text).lookup? j.key = some c := by
    rcases hj with ⟨t, ht⟩ | ⟨c, hc, -⟩
    · exact Or.inl ⟨r, t, ht⟩
    · refine Or.inr ⟨c, ?_⟩
      rcases completions_eq_ok hresume hdone with rfl | ⟨text', -, hcontent, rfl⟩
      · cases hc
      · have hbase : b₁.logBase w plan = text'.toUTF8 := by
          unfold logBase logMode
          rw [logAt_eq_of_resume hresume, hresume]
          unfold LogFile.found
          simp only [Option.isSome_some, if_true, hcontent, Option.getD_some]
        rwa [toUTF8_injective (htext.symm.trans hbase)]
  obtain ⟨c, hc, hname⟩ := exists_entry hselected hdom hsuits hclosed hclock h.follows hd hu hline
  refine ⟨r, hentered, ?_⟩
  unfold Survey.reusable?
  rw [hc]
  dsimp only
  rw [if_pos hname, cached?_iff, ← layout_eq hterms]
  -- the record is no report, so publishing has left it alone
  refine ⟨record, readText_mono hrecord (fun q => (hleft.folders q).mpr) ?_, hdecode⟩
  exact hleft.contents _ (not_reportFile_recordPath _ j)

omit hreport in
theorem settled_of_finish : b₂.Settled plan (CompletionLog.read (text ++ logText ds₁))
    (b₁.finish plan runId₁ p₁).files where
  reusable d hd j hj := by
    obtain ⟨hjd, hu⟩ := mem_jobsOf.mp hj
    obtain ⟨r, -, hr⟩ := reusable_of_finish hterms hanswers hw hselected hdom hresume hapart
      htext hsuits hclosed hfinite hclock hfin (hjd ▸ hd) hu
    rw [hr]
    rfl
  prepared d hd := by
    obtain ⟨done, scene, -, h⟩ := hfin.completed hw
    obtain ⟨hhoused, hleft⟩ := h.left hselected.nodup_index hdom hapart runId₁
    have hf := Progress.failure_of_isComplete h.complete
    have hbegan := (Progress.began_of_isComplete h.follows h.complete d).mpr hd
    obtain ⟨u, u', hprep⟩ := Progress.exists_prepare_of_began h.follows hf hbegan
    rw [← layout_eq hterms]
    exact Layout.prepare_again hprep fun q hq =>
      (hleft.folders q).mpr (hhoused.prepared hf d hbegan q hq)

theorem idle_of_finish
    (h : b₂.Attains (b₁.finish plan runId₁ p₁).files plan runId₂ tool₂ ds₂ p₂) :
    ∃ scene, scene.files = (b₁.finish plan runId₁ p₁).files ∧
      Progress.Follows b₂ plan (CompletionLog.read (text ++ logText ds₁)) (.start plan scene)
        ds₂ p₂ ∧
      Progress.Idle b₂ (CompletionLog.read (text ++ logText ds₁)) scene ds₂ p₂ := by
  obtain ⟨-, done, log, files, hdone, hopen, hfollows⟩ := h
  obtain ⟨log', hopen'⟩ :=
    (openLog_of_finish hterms hw hselected hdom hresume hapart hreport htext hfin).1
  rw [(completions_of_finish hw hselected hdom hresume hapart hreport htext hfin).2,
    Except.ok.injEq] at hdone
  obtain rfl : files = (b₁.finish plan runId₁ p₁).files :=
    (Prod.mk.inj (hopen.symm.trans hopen')).2
  subst hdone
  exact ⟨_, rfl, hfollows, Progress.idle_of_follows (settled_of_finish hterms hanswers hw
    hselected hdom hresume hapart htext hsuits hclosed hfinite hclock hfin) hfollows⟩

theorem ledger_eq_of_finish
    (h : b₂.Attains (b₁.finish plan runId₁ p₁).files plan runId₂ tool₂ ds₂ p₂)
    (hcomplete : p₂.isComplete = true) : p₂.ledger = p₁.ledger := by
  obtain ⟨scene, hfiles, hfollows, hidle⟩ := idle_of_finish hterms hanswers hw hselected hdom
    hresume hapart hreport htext hsuits hclosed hfinite hclock hfin h
  have hcourses := Progress.courses_of_follows hselected.nodup_index hdom hfollows
  obtain ⟨done, scene₁, -, h₁⟩ := hfin.completed hw
  have horderly := Progress.orderly_of_follows h₁.follows
  -- what the second run enters, it found, and the first run has entered the same
  have hentered : ∀ k r, p₂.ledger.get? k = some r → p₁.ledger.get? k = some r := by
    intro k r hr
    obtain ⟨j, rfl, hj⟩ := (hcourses.entered k r).mp hr
    have hresumed : .resumed j r ∈ ds₂ := hj.resolve_left hidle.not_collected
    have hreuse := hidle.reusable_of_resumed hresumed
    obtain ⟨hdomain, hunit⟩ := hcourses.member j (mem_takes.mpr (Or.inr ⟨r, hresumed⟩))
    obtain ⟨r', hr', hreuse'⟩ := reusable_of_finish hterms hanswers hw hselected hdom hresume
      hapart htext hsuits hclosed hfinite hclock hfin hdomain hunit
    rw [hfiles, hreuse', Option.some.injEq] at hreuse
    rw [← hreuse]
    exact hr'
  refine Ledger.Ordered.ext (Progress.orderly_of_follows hfollows).ordered horderly.ordered
    fun k => Option.ext fun r => ⟨hentered k r, fun hr => ?_⟩
  -- each key of the first ledger is that of a job, and the second run has a result for it
  obtain ⟨d, hd, j, hj, rfl⟩ := horderly.keys k (by rw [Ledger.contains, hr]; rfl)
  obtain ⟨rfl, hu⟩ := mem_jobsOf.mp hj
  obtain ⟨r', hr'⟩ := Progress.executed_or_resumed hselected.nodup_index hdom hfollows hcomplete
    hd hu
  have hget := (hcourses.entered j.key r').mpr ⟨j, rfl, hr'⟩
  rw [hget, ← hr, hentered _ _ hget]

end Second

end Bench

end Signoff
