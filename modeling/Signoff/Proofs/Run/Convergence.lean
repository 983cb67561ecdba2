import Signoff.Proofs.Run.Second

/-!
# Going on a second time

Once a run that goes on with a log has given a result, the log and the records tell all that it
found out: a second run with the same log has nothing left to do and comes to the same report
(`resume_converges`).  Only where a record does not read is a job executed again (`logged_again`).
-/

namespace Signoff

open Workspace Deed

namespace Sample

/-- Files with a log of the text beside the output folder. -/
def withLog (text : String) : Workspace := Workspace.empty.create ["state.log"] text.toUTF8

/-- A plan for the units of a catalog that goes on with this log. -/
def goingOn (catalog : String) : Plan := planOf catalog (some ⟨"state.log"⟩)

/-- A plan that takes a domain once more, behind the one that makes the folder of the unit. -/
def twice : Plan :=
  { planOf "a,c,o/raw/formal" (some ⟨"state.log"⟩) with domains := [.timing, .formal, .timing] }

def printed (text : List Char) : Invocation := ⟨.success, String.ofList text⟩

/-- A line with a slack beyond all finite ones. -/
def infiniteSlack : List Char := "setup: WNS=1".toList ++ List.replicate 309 '0'

/-- A tool that finds this slack for every job. -/
def endless : Job → UInt32 → ToolAnswer := fun _ _ =>
  .answer (printed ("===== TIMING =====\n".toList ++ infiniteSlack))

end Sample

namespace Bench

/-- A job whose record does not read as a result is executed again. -/
theorem logged_again {σ₁ σ₂ : Type} {b₁ : Bench σ₁} {b₂ : Bench σ₂} {plan : Plan} {w : Workspace}
    {runId₁ runId₂ : RunId} {tool₁ : σ₁} {tool₂ : σ₂} {ds₁ ds₂ : List Deed} {p₁ : Progress σ₁}
    {p₂ : Progress σ₂} {r₁ r₂ : RunResult} {j : Job} {r : JobResult} {t : Time.Instant}
    (hterms : b₁.terms = b₂.terms) (hw : w.Sound) (hidx : (plan.units.map (·.index)).Nodup)
    (hdom : plan.domains.Nodup) (hapart₁ : b₁.ResumesApart plan) (hapart₂ : b₂.ResumesApart plan)
    (hfin₁ : b₁.Finishes w plan runId₁ tool₁ ds₁ p₁ r₁) (hj : .logged j r t ∈ ds₁)
    (hunread : ∀ r', Record.decodeFile (Record.lineOf r) ≠ .ok r')
    (hfin₂ : b₂.Finishes (b₁.finish plan runId₁ p₁).files plan runId₂ tool₂ ds₂ p₂ r₂) :
    ∃ r' t', .logged j r' t' ∈ ds₂ := by
  obtain ⟨done, scene, -, h₁⟩ := hfin₁.completed hw
  have hleft := (h₁.left hidx hdom hapart₁ runId₁).2
  obtain ⟨hd, hu⟩ := (Progress.courses_of_follows hidx hdom h₁.follows).member j
    (mem_takes.mpr (Or.inl ((Progress.launched_of_deed h₁.follows).2 j r t hj).1))
  have hrecord := ((traced_isRecorded hidx hdom h₁.opened.sound h₁.opened.keeps
    (apartFrom_logAt hapart₁) h₁.follows).logged j r t hj r (Or.inr rfl)).2
  obtain ⟨done₂, scene₂, -, h₂⟩ := hfin₂.completed hleft.sound
  obtain ⟨r', hr' | hr'⟩ := Progress.executed_or_resumed hidx hdom h₂.follows h₂.complete hd hu
  · obtain ⟨t', ht'⟩ := (Progress.courses_of_follows hidx hdom h₂.follows).logged j r' (Or.inl hr')
    exact ⟨r', t', ht'⟩
  -- a resumed job has a record that reads, and the first run has left another one
  · obtain ⟨-, -, text, -, -, -, htext, hdecode⟩ :=
      Takes.found hleft.sound hidx hdom hapart₂ (.resumed hfin₂.1 hr')
    rw [← layout_eq hterms, hleft.contents _ (not_reportFile_recordPath _ j), hrecord,
      Option.some.injEq] at htext
    rw [← toUTF8_injective htext] at hdecode
    exact absurd hdecode (hunread r')

/-- Resuming converges.  Take a plan from a catalog, each domain once, that goes on with a log which
is none of its jobs' files and no report.  The first line about a job in the log names its unit, a
unit without a line has a name that a line keeps, and the text ends with a line if anything is
appended to it.  Once a run has given a result, with a tool that answers by job and attempt and
finite figures in the verdicts on what it executed, a run on the files that it leaves gives a result
as well and does not touch the tool.  In any order of its steps this run makes no call, appends no
line and leaves all files alone until it writes the report, which has the summaries and chiplets of
the first one. -/
theorem resume_converges {σ₁ σ₂ : Type} {b₁ : Bench σ₁} {b₂ : Bench σ₂} {plan : Plan}
    {w : Workspace} {path : Path} {text : String} {answer : Job → UInt32 → ToolAnswer}
    {runId₁ : RunId} {tool₁ : σ₁} {ds₁ : List Deed} {p₁ : Progress σ₁} {r₁ : RunResult}
    (hterms : b₁.terms = b₂.terms) (hanswers : b₁.tool.Answers answer) (hw : w.Sound)
    (hselected : plan.IsSelected) (hdom : plan.domains.Nodup) (hresume : plan.resume = some path)
    (hapart : b₁.ResumesApart plan) (hreport : ¬ b₁.layout.ReportFile path.place)
    (htext : b₁.logBase w plan = text.toUTF8) (hsuits : CompletionLog.Suits plan text)
    (hclosed : CompletionLog.IsClosed text ∨ Deed.completions ds₁ = [])
    (hfinite : ∀ j r t, .logged j r t ∈ ds₁ → b₁.terms.FiniteFor answer j)
    (hclock : ∀ n, (b₁.clock n).IsPlain)
    (hfin : b₁.Finishes w plan runId₁ tool₁ ds₁ p₁ r₁) :
    (∀ runId₂ tool₂,
      (∃ r₂, (b₂.run (b₁.finish plan runId₁ p₁).files plan runId₂ tool₂).result = .ok r₂) ∧
      (b₂.run (b₁.finish plan runId₁ p₁).files plan runId₂ tool₂).tool = tool₂) ∧
    (∀ runId₂ tool₂ ds₂ p₂,
      b₂.Attains (b₁.finish plan runId₁ p₁).files plan runId₂ tool₂ ds₂ p₂ →
      (∀ j n, .called j n ∉ ds₂) ∧ (∀ j r t, .logged j r t ∉ ds₂) ∧
        p₂.scene.files = (b₁.finish plan runId₁ p₁).files) ∧
    (∀ runId₂ tool₂ ds₂ p₂ r₂,
      b₂.Finishes (b₁.finish plan runId₁ p₁).files plan runId₂ tool₂ ds₂ p₂ r₂ →
      r₂.report.summaries = r₁.report.summaries ∧ r₂.report.chiplets = r₁.report.chiplets ∧
        (b₂.finish plan runId₂ p₂).files.contentAt path.place =
          (b₁.finish plan runId₁ p₁).files.contentAt path.place) := by
  obtain ⟨⟨log, hopen⟩, hpublish⟩ :=
    openLog_of_finish hterms hw hselected hdom hresume hapart hreport htext hfin
  have hidle : ∀ {runId₂ tool₂ ds₂ p₂},
      b₂.Attains (b₁.finish plan runId₁ p₁).files plan runId₂ tool₂ ds₂ p₂ → _ := fun h =>
    idle_of_finish hterms hanswers hw hselected hdom hresume hapart hreport htext hsuits hclosed
      hfinite hclock hfin h
  refine ⟨fun runId₂ tool₂ => ?_, fun runId₂ tool₂ ds₂ p₂ h => ?_,
    fun runId₂ tool₂ ds₂ p₂ r₂ h => ?_⟩
  · exact exists_run_of_settled hfin.1.1
      (completions_of_finish hw hselected hdom hresume hapart hreport htext hfin).2 hopen
      (settled_of_finish hterms hanswers hw hselected hdom hresume hapart htext hsuits hclosed
        hfinite hclock hfin) hpublish
  · obtain ⟨scene, hfiles, -, hi⟩ := hidle h
    exact ⟨fun _ n => hi.not_called n, fun _ _ t => hi.not_logged t, hi.files.trans hfiles⟩
  · have hledger := ledger_eq_of_finish hterms hanswers hw hselected hdom hresume hapart hreport
      htext hsuits hclosed hfinite hclock hfin h.1 h.2.1
    obtain ⟨scene, hfiles, -, hi⟩ := hidle h.1
    rw [report_of_finish h.2.2, report_of_finish hfin.2.2, hledger]
    refine ⟨rfl, rfl, ?_⟩
    rw [contentAt_of_finish p₂ (layout_eq hterms ▸ hreport), hi.files, hfiles]

/-! ## Small logs -/

theorem sound_withLog (text : String) : (Sample.withLog text).Sound := by
  have hwritable : Workspace.empty.writable ⟨"state.log"⟩ = .ok ["state.log"] := by decide
  have hwrite : Workspace.empty.writeText ⟨"state.log"⟩ text = .ok (Sample.withLog text) := by
    unfold writeText write
    rw [hwritable]
    rfl
  exact sound_empty.stores (write_eq_ok hwrite).2

/-- A log beside the output folder is none of the files of a run. -/
theorem resumesApart_goingOn (slots : Nat) (answer : Job → UInt32 → ToolAnswer)
    (catalog : String) :
    (Sample.stillBench slots answer).ResumesApart (Sample.goingOn catalog) := by
  have hlog : (⟨"state.log"⟩ : Path).place = ["state.log"] := by decide
  intro path hpath d _ j _ hfile
  rw [← Option.some.inj hpath, hlog] at hfile
  rcases hfile with h | h
  · rw [Layout.place_rawPath] at h
    simpa using congrArg List.length h
  · rw [Layout.place_recordPath] at h
    simpa using congrArg List.length h

/-- A run goes on with a log that names one of two units, whose record is missing.  It executes
both, and the next run with the same log gives the same report. -/
theorem resume_converges_two_units :
    ∃ ds₁ p₁ r₁ r₂, (Sample.goingOn "a,c,o\nb,c,o").IsSelected ∧
      (Sample.stillBench 1 Sample.silent).Finishes
        (Sample.withLog "TIMING|1|b|2024-01-01T00:00:00+00:00\n") (Sample.goingOn "a,c,o\nb,c,o")
        Sample.runId () ds₁ p₁ r₁ ∧
      ((Sample.stillBench 2 Sample.silent).run ((Sample.stillBench 1 Sample.silent).finish
        (Sample.goingOn "a,c,o\nb,c,o") Sample.runId p₁).files (Sample.goingOn "a,c,o\nb,c,o")
        Sample.runId ()).result = .ok r₂ ∧
      r₂.report.summaries = r₁.report.summaries ∧ r₂.report.chiplets = r₁.report.chiplets := by
  obtain ⟨r₁, hrun₁⟩ := exists_eq_ok (show ((Sample.stillBench 1 Sample.silent).run
    (Sample.withLog "TIMING|1|b|2024-01-01T00:00:00+00:00\n") (Sample.goingOn "a,c,o\nb,c,o")
    Sample.runId ()).result.toOption.isSome = true by decide +kernel)
  obtain ⟨ds₁, p₁, hfin₁, -⟩ := exists_finishes_of_run rfl hrun₁
  have hselected : (Sample.goingOn "a,c,o\nb,c,o").IsSelected :=
    Sample.isSelected_planOf _ (by decide) (by decide)
  -- the line names the second unit, and there is none about the first
  have hnamed : ∀ d ∈ (Sample.goingOn "a,c,o\nb,c,o").domains,
      ∀ j ∈ jobsOf (Sample.goingOn "a,c,o\nb,c,o").units d,
      ((CompletionLog.read "TIMING|1|b|2024-01-01T00:00:00+00:00\n").lookup? j.key).all
        (fun c => c.unitName == j.unit.name) = true := by decide
  have hkept : ∀ d ∈ (Sample.goingOn "a,c,o\nb,c,o").domains,
      ∀ j ∈ jobsOf (Sample.goingOn "a,c,o\nb,c,o").units d,
      '|' ∉ j.unit.name.toList ∧ '\r' ∉ j.unit.name.toList := by decide
  have hsuits : CompletionLog.Suits (Sample.goingOn "a,c,o\nb,c,o")
      "TIMING|1|b|2024-01-01T00:00:00+00:00\n" :=
    ⟨fun d hd j hj c hc => by simpa [hc] using hnamed d hd j hj,
      fun d hd j hj _ => hkept d hd j hj⟩
  have hlast : (Text.splitOn '\n' "TIMING|1|b|2024-01-01T00:00:00+00:00\n".toList).getLast? =
      some [] := by decide
  have hclosed : CompletionLog.IsClosed "TIMING|1|b|2024-01-01T00:00:00+00:00\n" := by
    intro last h
    rw [hlast] at h
    simp [← Option.some.inj h]
  have hplain : (⟨0, 0⟩ : Time.Instant).IsPlain := ⟨by decide, by decide, by decide⟩
  have hdom : (Sample.goingOn "a,c,o\nb,c,o").domains.Nodup := by decide
  obtain ⟨done, scene, -, h⟩ := hfin₁.completed (sound_withLog _)
  have htiming : ∀ j r t, .logged j r t ∈ ds₁ → j.domain = .timing := by
    intro j r t hj
    have hlaunched :=
      ((Progress.launched_of_deed h.follows).2 j r t hj).1
    exact List.mem_singleton.mp ((Progress.courses_of_follows hselected.nodup_index hdom
      h.follows).member j (mem_takes.mpr (Or.inl hlaunched))).1
  have hterms : (Sample.stillBench 1 Sample.silent).terms =
      (Sample.stillBench 2 Sample.silent).terms := rfl
  have hsame := resume_converges hterms (fun _ _ _ _ _ => rfl) (sound_withLog _)
    hselected hdom rfl (resumesApart_goingOn 1 _ _) (by unfold Layout.ReportFile; decide)
    (by decide) hsuits (Or.inl hclosed)
    (fun j r t hj => finiteFor_silent (htiming j r t hj)) (fun _ => hplain) hfin₁
  obtain ⟨r₂, hrun₂⟩ := (hsame.1 Sample.runId ()).1
  obtain ⟨ds₂, p₂, hfin₂, -⟩ := exists_finishes_of_run rfl hrun₂
  obtain ⟨hsummaries, hchiplets, -⟩ := hsame.2.2 _ _ _ _ _ hfin₂
  exact ⟨ds₁, p₁, r₁, r₂, hselected, hfin₁, hrun₂, hsummaries, hchiplets⟩

theorem Sample.isSelected_one {resume : Option Path} : (Sample.planOf "a,c,o" resume).IsSelected :=
  Sample.isSelected_planOf resume (by decide) (by decide)

theorem exists_of_any_toOption {ε α : Type} {x : Except ε α} {test : α → Bool}
    (h : x.toOption.any test = true) : ∃ a, x = .ok a ∧ test a = true := by
  cases x with
  | error e => cases h
  | ok a => exact ⟨a, rfl, h⟩

/-- The tool was called. -/
def callsTool (ds : List Deed) (_ : Progress Unit) : Bool :=
  ds.any fun
    | .called _ _ => true
    | _ => false

/-- A run of a plan from a catalog gives a result, and a run on the files that it leaves calls the
tool again. -/
def CallsAgain (answer : Job → UInt32 → ToolAnswer) (w : Workspace) (plan : Plan) : Prop :=
  w.Sound ∧ plan.IsSelected ∧
    ∃ ds₁ p₁ r₁ ds₂ p₂ j n,
      (Sample.stillBench 1 answer).Finishes w plan Sample.runId () ds₁ p₁ r₁ ∧
      (Sample.stillBench 1 answer).Attains
        ((Sample.stillBench 1 answer).finish plan Sample.runId p₁).files plan Sample.runId ()
        ds₂ p₂ ∧
      .called j n ∈ ds₂

theorem callsAgain_of_play {answer : Job → UInt32 → ToolAnswer} {w : Workspace} {plan : Plan}
    (hw : w.Sound) (hselected : plan.IsSelected) (hdry : plan.dryRun = false)
    (hrun : ((Sample.stillBench 1 answer).run w plan Sample.runId ()).result.toOption.isSome = true)
    (hplay : ((Sample.stillBench 1 answer).play
      ((Sample.stillBench 1 answer).run w plan Sample.runId ()).files plan Sample.runId ()
      [.beginDomain noTrouble, .launch, .advance 0 noTrouble, .advance 0 noTrouble]).any
        (fun e => callsTool e.1 e.2) = true) :
    CallsAgain answer w plan := by
  obtain ⟨ds₁, p₁, r₁, ds₂, p₂, hfin₁, hattains₂, htest⟩ :=
    exists_followed hdry hrun callsTool hplay
  obtain ⟨e, he, hcall⟩ := List.any_eq_true.mp htest
  cases e with
  | called j n => exact ⟨hw, hselected, ds₁, p₁, r₁, ds₂, p₂, j, n, hfin₁, hattains₂, he⟩
  | _ => cases hcall

theorem judge_printed {d : Domain} {text body : List Char} {v : Verdict} {millis : Nat}
    (hbody : Section.body? d text = some body) (hv : Verdict.ofBody? d body = some v) :
    (Sample.printed text).judge d millis = .final v := by
  unfold Sample.printed Invocation.judge Domain.classify
  dsimp only
  rw [String.toList_ofList, hbody]
  dsimp only
  rw [hv, Option.getD_some]

/-- An infinite slack has no number in a record, so its figures cannot be read. -/
theorem exists_judge_endless : ∃ v,
    (Sample.printed ("===== TIMING =====\n".toList ++ Sample.infiniteSlack)).judge .timing 1000 =
      .final v ∧ Figures.ofJson? 0 v.figures.toJson = none := by
  have hbody : Section.body? .timing ("===== TIMING =====\n".toList ++ Sample.infiniteSlack) =
      some Sample.infiniteSlack := by decide +kernel
  have hverdict : (Verdict.ofBody? .timing Sample.infiniteSlack).any
      (fun v => (Figures.ofJson? 0 v.figures.toJson).isNone) = true := by decide +kernel
  cases hv : Verdict.ofBody? .timing Sample.infiniteSlack with
  | none =>
    rw [hv] at hverdict
    cases hverdict
  | some v =>
    rw [hv] at hverdict
    exact ⟨v, judge_printed hbody hv, Option.isNone_iff_eq_none.mp hverdict⟩

/-- The folder of a unit in the output folder is there in every domain. -/
theorem isPresent_root {answer : Job → UInt32 → ToolAnswer} {plan : Plan} {w v : Workspace}
    {log : LogFile} (h : (Sample.stillBench 1 answer).Opened plan w log v) {j : Job}
    (hj : j.unit.workarea = ⟨"o"⟩) : (Sample.stillBench 1 answer).IsPresent v plan j := by
  have htrail : Path.place ⟨"o"⟩ ∈ Path.trail ⟨"o"⟩ := by decide
  have hroot : v.item? (Path.place ⟨"o"⟩) = some .folder :=
    (h.folders _).mpr (Or.inr (List.mem_append_left _ htrail))
  have hstart : ∀ q ∈ Place.passed (startOf ⟨"o"⟩) (namesOf ⟨"o"⟩), q.isStart = true := by
    decide
  unfold IsPresent FoldersOf FoldersBefore
  rw [hj]
  exact ⟨⟨by decide, by decide, fun q hq => Or.inl (Or.inl (if_pos (hstart q hq)))⟩,
    Or.inl (Or.inl hroot)⟩

/-- A run that goes on with a new log finds an infinite slack, and executes the job again each time
it goes on. -/
theorem exists_logged_again :
    (Sample.goingOn "a,c,o").IsSelected ∧ ∃ ds₁ p₁ r₁,
      (Sample.stillBench 1 Sample.endless).Finishes .empty (Sample.goingOn "a,c,o") Sample.runId ()
        ds₁ p₁ r₁ ∧
      ∀ ds₂ p₂ r₂, (Sample.stillBench 1 Sample.endless).Finishes
        ((Sample.stillBench 1 Sample.endless).finish (Sample.goingOn "a,c,o") Sample.runId p₁).files
        (Sample.goingOn "a,c,o") Sample.runId () ds₂ p₂ r₂ → ∃ j r t, .logged j r t ∈ ds₂ := by
  obtain ⟨r₁, hrun₁⟩ := exists_eq_ok (show ((Sample.stillBench 1 Sample.endless).run .empty
    (Sample.goingOn "a,c,o") Sample.runId ()).result.toOption.isSome = true by decide +kernel)
  obtain ⟨ds₁, p₁, hfin₁, -⟩ := exists_finishes_of_run rfl hrun₁
  have hselected : (Sample.goingOn "a,c,o").IsSelected := Sample.isSelected_one
  have hidx := hselected.nodup_index
  have hdom : (Sample.goingOn "a,c,o").domains.Nodup := by decide
  have hapart := resumesApart_goingOn 1 Sample.endless "a,c,o"
  obtain ⟨done, scene, -, h⟩ := hfin₁.completed sound_empty
  obtain ⟨u, hu, hwork⟩ : ∃ u ∈ (Sample.goingOn "a,c,o").units, u.workarea = ⟨"o"⟩ := by
    decide
  obtain ⟨r, hr | hr⟩ := @Progress.executed_or_resumed _ _ _ _ _ _ _ hidx hdom h.follows h.complete
    ⟨.timing, u⟩ (List.mem_singleton.mpr rfl) hu
  · obtain ⟨present, hpresent, -⟩ := exists_present rfl h.opened h.opened
    obtain ⟨saved, hcomes, -⟩ := Progress.course_of_collected hidx hdom h.opened.sound
      h.opened.keeps (apartFrom_logAt hapart) h.follows (fun _ _ _ _ _ => rfl) hpresent hr
    rw [(hpresent _).mpr (isPresent_root h.opened hwork)] at hcomes
    obtain ⟨v, hv, hunread⟩ := exists_judge_endless
    obtain ⟨rfl, -⟩ := hcomes.unique (Terms.comes_of_final (by decide) rfl hv)
    obtain ⟨t, ht⟩ := (Progress.courses_of_follows hidx hdom h.follows).logged _ _ (Or.inl hr)
    exact ⟨hselected, ds₁, p₁, r₁, hfin₁, fun ds₂ p₂ r₂ hfin₂ => ⟨_, logged_again rfl sound_empty
      hidx hdom hapart hapart hfin₁ ht (Record.decodeFile_lineOf_ne_ok hunread) hfin₂⟩⟩
  -- there is no record to resume from
  · obtain ⟨-, -, text, -, -, -, htext, -⟩ :=
      Takes.found sound_empty hidx hdom hapart (.resumed hfin₁.1 hr)
    obtain ⟨number, hfile⟩ := contentAt_eq_some.mp htext
    simp [item?, Workspace.empty] at hfile

/-- The folder of the unit is missing at first, and is there when the domain is taken again. -/
theorem exists_chiplets_ne :
    ∃ r₁ r₂, ((Sample.stillBench 1 Sample.silent).run .empty Sample.twice Sample.runId ()).result =
        .ok r₁ ∧
      ((Sample.stillBench 1 Sample.silent).run ((Sample.stillBench 1 Sample.silent).run .empty
        Sample.twice Sample.runId ()).files Sample.twice Sample.runId ()).result = .ok r₂ ∧
      r₁.report.chiplets ≠ r₂.report.chiplets := by
  have htest : ((Sample.stillBench 1 Sample.silent).run .empty Sample.twice Sample.runId
      ()).result.toOption.any (fun r₁ => ((Sample.stillBench 1 Sample.silent).run
        ((Sample.stillBench 1 Sample.silent).run .empty Sample.twice Sample.runId ()).files
        Sample.twice Sample.runId ()).result.toOption.any
          fun r₂ => r₁.report.chiplets != r₂.report.chiplets) = true := by decide +kernel
  obtain ⟨r₁, hr₁, htest⟩ := exists_of_any_toOption htest
  obtain ⟨r₂, hr₂, hne⟩ := exists_of_any_toOption htest
  exact ⟨r₁, r₂, hr₁, hr₂, bne_iff_ne.mp hne⟩

/-- Resuming need not converge if the log has a foreign line about a job or ends within a line, if
a line does not keep the name of a unit, or if the log is a report or a file of a job: the second
run calls the tool again.  With an infinite figure it appends a line again, and with a domain taken
twice it comes to another report. -/
theorem resume_calls_again :
    CallsAgain Sample.silent (Sample.withLog "TIMING|0|x|2024-01-01T00:00:00+00:00\n")
      (Sample.goingOn "a,c,o") ∧
    CallsAgain Sample.silent (Sample.withLog "TIMING|0|x") (Sample.goingOn "a,c,o") ∧
    CallsAgain Sample.silent .empty (Sample.goingOn "a|b,c,o") ∧
    CallsAgain Sample.silent .empty (Sample.goingOn "a\rb,c,o") ∧
    CallsAgain Sample.silent .empty
      (Sample.planOf "a,c,o" (some ⟨"o/results/timing/00000_a.result"⟩)) ∧
    ((Sample.goingOn "a,c,o").IsSelected ∧ ∃ ds₁ p₁ r₁,
      (Sample.stillBench 1 Sample.endless).Finishes .empty (Sample.goingOn "a,c,o") Sample.runId ()
        ds₁ p₁ r₁ ∧
      ∀ ds₂ p₂ r₂, (Sample.stillBench 1 Sample.endless).Finishes
        ((Sample.stillBench 1 Sample.endless).finish (Sample.goingOn "a,c,o") Sample.runId p₁).files
        (Sample.goingOn "a,c,o") Sample.runId () ds₂ p₂ r₂ → ∃ j r t, .logged j r t ∈ ds₂) ∧
    Sample.twice.IsSelected ∧
    ∃ r₁ r₂, ((Sample.stillBench 1 Sample.silent).run .empty Sample.twice Sample.runId ()).result =
        .ok r₁ ∧
      ((Sample.stillBench 1 Sample.silent).run ((Sample.stillBench 1 Sample.silent).run .empty
        Sample.twice Sample.runId ()).files Sample.twice Sample.runId ()).result = .ok r₂ ∧
      r₁.report.chiplets ≠ r₂.report.chiplets := by
  refine ⟨?_, ?_, ?_, ?_, ?_, exists_logged_again, ?_,
    exists_chiplets_ne⟩
  -- the line of another unit stays the first one about the job
  · exact callsAgain_of_play (sound_withLog _) Sample.isSelected_one rfl (by decide +kernel)
      (by decide +kernel)
  -- the new line goes on with the torn one
  · exact callsAgain_of_play (sound_withLog _) Sample.isSelected_one rfl (by decide +kernel)
      (by decide +kernel)
  -- the line names the unit with underscores
  · exact callsAgain_of_play sound_empty
      (Sample.isSelected_planOf _ (by decide) (by decide)) rfl (by decide +kernel)
      (by decide +kernel)
  · exact callsAgain_of_play sound_empty
      (Sample.isSelected_planOf _ (by decide) (by decide)) rfl (by decide +kernel)
      (by decide +kernel)
  -- the record replaces the log
  · exact callsAgain_of_play sound_empty Sample.isSelected_one rfl (by decide +kernel)
      (by decide +kernel)
  · have h : (Sample.planOf "a,c,o/raw/formal" (some ⟨"state.log"⟩)).IsSelected :=
      Sample.isSelected_planOf _ (by decide) (by decide)
    exact h

end Bench

end Signoff
