import Signoff.Proofs.Run.Attained
import Signoff.Proofs.Run.Traces

/-!
# A job on its own

With a tool whose answers depend on the job and the attempt alone, a job goes through its stages in
one way, whatever else is done meanwhile: `Terms.next?` is the task of a job with nothing around
it, and every task of a run goes by it (`onCourse_of_follows`).  What the job comes to
(`Terms.Comes.unique`) then depends on no schedule.
-/

namespace Signoff

open Workspace Deed

/-- The answers of a tool do not depend on its state or on the files. -/
def Tool.Answers {σ : Type} (t : Tool σ) (answer : Job → UInt32 → ToolAnswer) : Prop :=
  ∀ s w j attempt request, (t.call s w j attempt request).1 = answer j attempt

/-- What jobs are executed by: where their files lie, when they are tried again, and how long a
call may take. -/
structure Terms where
  layout : Layout
  retry : RetryPolicy
  timeoutMillis : Nat

def Bench.terms {σ : Type} (b : Bench σ) : Terms := ⟨b.layout, b.retry, b.timeoutMillis⟩

namespace Terms

/-- The stage after an attempt whose output is saved. -/
def judged (t : Terms) (j : Job) (attempt : UInt32) (i : Invocation) : Stage :=
  match t.retry.decide attempt (i.judge j.domain t.timeoutMillis) with
  | .done verdict => .resolved (JobResult.ofVerdict verdict (t.layout.rawPath j) attempt)
  | .giveUp cause =>
    .resolved (JobResult.exhausted t.retry.maxAttempts cause (some (t.layout.rawPath j)))
  | .again _ => .ready (attempt + 1)

/-- The first step of a job, whose working folder is there or not. -/
def started (t : Terms) (j : Job) (present : Bool) : Stage :=
  if !present then .resolved (JobResult.missing j.unit.workarea)
  else if t.retry.maxAttempts = 0 then
    .resolved (JobResult.exhausted 0 "" (some (t.layout.rawPath j)))
  else .ready 1

/-- The next stage of a job, and the output saved last. -/
def next? (t : Terms) (answer : Job → UInt32 → ToolAnswer) (present : Bool) (j : Job) :
    Stage × Option String → Option (Stage × Option String)
  | (.fresh, saved) => some (t.started j present, saved)
  | (.ready attempt, saved) =>
    match answer j attempt with
    | .answer i => some (.answered attempt i, saved)
    | .collapse => none
  | (.answered attempt i, _) =>
    some (t.judged j attempt i, some (i.savedOutput t.timeoutMillis attempt))
  | (.resolved r, saved) => some (.recorded r, saved)
  | (.recorded r, saved) => some (.finished r, saved)
  | (.finished _, _) => none
  | (.broken _, _) => none

variable {t : Terms} {answer : Job → UInt32 → ToolAnswer} {present : Bool} {j : Job}
  {stage : Stage} {saved : Option String}

/-- Where a job is after a number of steps. -/
def after (t : Terms) (answer : Job → UInt32 → ToolAnswer) (present : Bool) (j : Job) :
    Nat → Option (Stage × Option String)
  | 0 => some (.fresh, none)
  | n + 1 => (after t answer present j n).bind (t.next? answer present j)

/-- The job gets to the stage, with the output saved last. -/
def Comes (t : Terms) (answer : Job → UInt32 → ToolAnswer) (present : Bool) (j : Job)
    (stage : Stage) (saved : Option String) : Prop :=
  ∃ n, t.after answer present j n = some (stage, saved)

theorem comes_fresh : t.Comes answer present j .fresh none := ⟨0, rfl⟩

theorem Comes.step (h : t.Comes answer present j stage saved) {next : Stage × Option String}
    (hn : t.next? answer present j (stage, saved) = some next) :
    t.Comes answer present j next.1 next.2 := by
  obtain ⟨n, hn'⟩ := h
  refine ⟨n + 1, ?_⟩
  rw [after, hn', Option.bind_some, hn]

/-- With the folder there and a verdict on the first answer, a job comes to this verdict. -/
theorem comes_of_final {i : Invocation} {v : Verdict} (hmax : t.retry.maxAttempts ≠ 0)
    (hanswer : answer j 1 = .answer i) (hjudge : i.judge j.domain t.timeoutMillis = .final v) :
    t.Comes answer true j (.finished (JobResult.ofVerdict v (t.layout.rawPath j) 1))
      (some (i.savedOutput t.timeoutMillis 1)) := by
  have hstarted : t.started j true = .ready 1 := by
    unfold started
    rw [if_neg (by decide), if_neg hmax]
  have hjudged : t.judged j 1 i =
      .resolved (JobResult.ofVerdict v (t.layout.rawPath j) 1) := by
    unfold judged
    rw [hjudge]
    rfl
  refine ⟨5, ?_⟩
  simp only [after, next?, Option.bind_some, hstarted, hanswer, hjudged]

theorem after_eq_none {n : Nat} (h : t.after answer present j n = none) (k : Nat) :
    t.after answer present j (n + k) = none := by
  -- once nothing comes next, nothing comes later
  induction k with
  | zero => exact h
  | succ k ih => rw [← Nat.add_assoc, after, ih, Option.bind_none]

theorem Comes.unique {r r' : JobResult} {saved' : Option String}
    (h : t.Comes answer present j (.finished r) saved)
    (h' : t.Comes answer present j (.finished r') saved') : r = r' ∧ saved = saved' := by
  obtain ⟨n, hn⟩ := h
  obtain ⟨m, hm⟩ := h'
  -- a finished job goes no further, so it cannot finish at two numbers of steps
  have hstop : ∀ {k r s}, t.after answer present j k = some (.finished r, s) →
      ∀ d, t.after answer present j (k + 1 + d) = none := fun hk d =>
    after_eq_none (by rw [after, hk]; rfl) d
  have hnm : n = m := by
    rcases Nat.lt_trichotomy n m with hlt | heq | hlt
    · obtain ⟨d, rfl⟩ := Nat.exists_eq_add_of_lt hlt
      have := hstop hn d
      rw [show n + d + 1 = n + 1 + d by omega] at hm
      simp [hm] at this
    · exact heq
    · obtain ⟨d, rfl⟩ := Nat.exists_eq_add_of_lt hlt
      have := hstop hm d
      rw [show m + d + 1 = m + 1 + d by omega] at hn
      simp [hn] at this
  subst hnm
  rw [hn, Option.some.injEq, Prod.mk.injEq, Stage.finished.injEq] at hm
  exact hm

end Terms

/-! ## Tasks go by it -/

namespace Bench

variable {σ : Type} {b : Bench σ} {answer : Job → UInt32 → ToolAnswer} {w₀ : Workspace}

/-- What the file of a job's saved output holds. -/
def rawAfter (b : Bench σ) (w₀ : Workspace) (j : Job) : Option String → Option ByteArray
  | some text => some text.toUTF8
  | none => w₀.contentAt (b.layout.rawPath j).place

/-- What the file of a job's record holds. -/
def recordAfter (b : Bench σ) (w₀ : Workspace) (j : Job) : Stage → Option ByteArray
  | .recorded r => some (Record.lineOf r).toUTF8
  | .finished r => some (Record.lineOf r).toUTF8
  | _ => w₀.contentAt (b.layout.recordPath j).place

/-- A job whose task is not broken is where it gets on its own, and so are its files. -/
def OnCourse (b : Bench σ) (answer : Job → UInt32 → ToolAnswer) (present : Job → Bool)
    (w₀ w : Workspace) (j : Job) (stage : Stage) : Prop :=
  (∀ e, stage ≠ .broken e) → ∃ saved, b.terms.Comes answer (present j) j stage saved ∧
    w.contentAt (b.layout.rawPath j).place = b.rawAfter w₀ j saved ∧
    w.contentAt (b.layout.recordPath j).place = b.recordAfter w₀ j stage

variable {present : Job → Bool}

theorem isLocal_onCourse : Progress.IsLocal b (b.OnCourse answer present w₀) := by
  intro w w' j stage hcontent _ h hstage
  obtain ⟨saved, hcomes, hraw, hrecord⟩ := h hstage
  exact ⟨saved, hcomes, (hcontent _ (Or.inl rfl)).trans hraw,
    (hcontent _ (Or.inr rfl)).trans hrecord⟩

theorem onCourse_fresh (j : Job) : b.OnCourse answer present w₀ w₀ j .fresh := fun _ =>
  ⟨none, Terms.comes_fresh, rfl, rfl⟩

variable {s s' : Scene σ} {j : Job} {stage next : Stage} {es : List Deed} {place : Place}
  {content : ByteArray}

theorem OnCourse.quiet (h : b.OnCourse answer present w₀ s.files j stage)
    (hstage : ∀ e, stage ≠ .broken e) (hfiles : s'.files = s.files)
    (hrec : b.recordAfter w₀ j next = b.recordAfter w₀ j stage)
    (hnext : ∀ saved, b.terms.next? answer (present j) j (stage, saved) = some (next, saved)) :
    b.OnCourse answer present w₀ s'.files j next := by
  intro _
  obtain ⟨saved, hcomes, hraw, hrecord⟩ := h hstage
  rw [hfiles]
  exact ⟨saved, hcomes.step (hnext saved), hraw, hrecord.trans hrec.symm⟩

theorem OnCourse.saves {attempt : UInt32} {i : Invocation} {files : Workspace}
    (h : b.OnCourse answer present w₀ s.files j (.answered attempt i))
    (hwrite : s.files.writeText (b.layout.rawPath j) (i.savedOutput b.timeoutMillis attempt) =
      .ok files) (hnext : b.terms.judged j attempt i = next)
    (hrec : b.recordAfter w₀ j next = w₀.contentAt (b.layout.recordPath j).place) :
    b.OnCourse answer present w₀ files j next := by
  intro _
  obtain ⟨saved, hcomes, -, hrecord⟩ := h (by simp)
  have hstores := (write_eq_ok hwrite).2
  refine ⟨some (i.savedOutput b.timeoutMillis attempt), ?_, hstores.contentAt_here, ?_⟩
  · rw [← hnext]
    exact hcomes.step rfl
  -- the record lies elsewhere and is not touched
  · rw [hstores.contentAt_eq Layout.rawPath_ne_recordPath.symm, hrecord, hrec]
    rfl

/-- Every step of a task is the one that the job takes on its own. -/
theorem TaskMove.onCourse (h : b.TaskMove s j stage es next s') (hanswers : b.tool.Answers answer)
    (hw : s.files.Sound) (hk : s.log.Keeps s.files place content)
    (hplace : ¬ b.layout.JobFile j place)
    (hprep : ∀ q ∈ b.layout.folders j.domain, s.files.item? q = some .folder)
    (hpresent : s.files.isFolder j.unit.workarea = present j)
    (hon : b.OnCourse answer present w₀ s.files j stage) :
    b.OnCourse answer present w₀ s'.files j next := by
  -- the tool's answer and the working folder are all that a step takes from outside
  cases h with
  | misses hfolder =>
    rw [hpresent] at hfolder
    refine hon.quiet (by simp) rfl rfl fun saved => ?_
    rw [Terms.next?, Terms.started, hfolder]
    rfl
  | refuses hfolder hmax =>
    rw [hpresent] at hfolder
    refine hon.quiet (by simp) rfl rfl fun saved => ?_
    rw [Terms.next?, Terms.started, hfolder, if_neg (by decide), if_pos (by exact hmax)]
    rfl
  | starts hfolder hmax =>
    rw [hpresent] at hfolder
    refine hon.quiet (by simp) rfl rfl fun saved => ?_
    rw [Terms.next?, Terms.started, hfolder, if_neg (by decide), if_neg (by exact hmax)]
  | @calls attempt i tool hcall =>
    have hanswer := hanswers s.tool s.files j attempt (Request.ofJob j b.timeoutMillis)
    rw [hcall] at hanswer
    refine hon.quiet (by simp) rfl rfl fun saved => ?_
    rw [Terms.next?, ← hanswer]
  | accepts hwrite hjudge =>
    refine hon.saves hwrite ?_ rfl
    unfold Terms.judged RetryPolicy.decide
    rw [show b.terms.timeoutMillis = b.timeoutMillis from rfl, hjudge]
    rfl
  | givesUp hwrite hjudge hlast =>
    refine hon.saves hwrite ?_ rfl
    unfold Terms.judged RetryPolicy.decide
    rw [show b.terms.timeoutMillis = b.timeoutMillis from rfl, hjudge]
    dsimp only
    rw [if_neg (by exact hlast)]
    rfl
  | retries hwrite hjudge hmore =>
    refine hon.saves hwrite ?_ rfl
    unfold Terms.judged RetryPolicy.decide
    rw [show b.terms.timeoutMillis = b.timeoutMillis from rfl, hjudge]
    dsimp only
    rw [if_pos (by exact hmore)]
  | records hsave =>
    intro _
    obtain ⟨saved, hcomes, hraw, -⟩ := hon (by simp)
    have hstores := (Record.save_eq_ok hw hprep hsave).2
    exact ⟨saved, hcomes.step rfl,
      (hstores.contentAt_eq Layout.rawPath_ne_recordPath).trans hraw, hstores.contentAt_here⟩
  | logs hlog =>
    intro _
    obtain ⟨saved, hcomes, hraw, hrecord⟩ := hon (by simp)
    have hstores := (hk.record hw hlog).2
    exact ⟨saved, hcomes.step rfl,
      (hstores.contentAt_eq fun heq => hplace (Or.inl heq.symm)).trans hraw,
      (hstores.contentAt_eq fun heq => hplace (Or.inr heq.symm)).trans hrecord⟩
  | collapses | failsToSave | failsToRecord | failsToLog =>
    intro hbroken
    exact absurd rfl (hbroken _)

end Bench

end Signoff
