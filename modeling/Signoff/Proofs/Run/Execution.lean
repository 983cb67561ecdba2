import Mathlib.Logic.Function.Iterate
import Signoff.Proofs.Retry
import Signoff.Proofs.Run.SavedOutput
import Signoff.Proofs.Workspace.Again

/-!
# A job from its first step to its result

An execution takes the steps of a job's task one after the other until the task has a result, and
notes the calls that it makes.  Each attempt at a job takes two steps, and what it leaves hangs on
what the retry policy decides (`iterate_attempt`).  So the calls are those of the series that the
policy makes of the answers, and the result is what the series comes to (`iterate_series`).

From this follows what comes of every job and every sequence of answers (`execution_contract`).
-/

namespace Signoff

open Workspace

/-- What was done for a job so far: the calls with their answers, the stage of its task, and the
scene. -/
structure Execution (σ : Type) where
  calls : List (UInt32 × Invocation)
  stage : Stage
  scene : Scene σ

/-- The call that a stage has the answer of. -/
def Stage.call? : Stage → Option (UInt32 × Invocation)
  | .answered attempt i => some (attempt, i)
  | _ => none

namespace Invocation

/-- No attempt is made after this one, however many are left. -/
def IsFinal (i : Invocation) (d : Domain) : Prop :=
  i.exit = .success ∨
    (∃ code, i.exit = .code code) ∧ (d.classify i.output).status.isVerdict = true

variable {i : Invocation} {d : Domain} {timeoutMillis : Nat}

theorem judge_of_isFinal (h : i.IsFinal d) :
    i.judge d timeoutMillis = .final (d.classify i.output) := by
  unfold judge
  rcases h with hexit | ⟨⟨code, hexit⟩, hverdict⟩
  · rw [hexit]
  · rw [hexit]
    dsimp only
    rw [if_pos hverdict]

theorem exists_cause_of_not_isFinal (timeoutMillis : Nat) (h : ¬ i.IsFinal d) :
    ∃ cause, i.judge d timeoutMillis = .passing cause := by
  unfold judge
  cases hexit : i.exit with
  | success => exact absurd (.inl hexit) h
  | timedOut => exact ⟨_, rfl⟩
  | code n =>
    have hverdict : ¬ (d.classify i.output).status.isVerdict = true :=
      fun hv => h (.inr ⟨⟨n, hexit⟩, hv⟩)
    dsimp only
    rw [if_neg hverdict]
    exact ⟨_, rfl⟩

theorem isFinal_iff_cause? {ε : Type} :
    i.IsFinal d ↔
      Attempt.cause? (.ok (i.judge d timeoutMillis) : Except ε (Attempt Verdict)) = none := by
  constructor
  · intro h
    rw [judge_of_isFinal h]
    rfl
  · intro h
    by_contra hnot
    obtain ⟨cause, hcause⟩ := exists_cause_of_not_isFinal timeoutMillis hnot
    rw [hcause] at h
    exact nomatch h

/-- A verdict that is not accepted came too late. -/
theorem timedOut_of_isVerdict (h : ¬ i.IsFinal d)
    (hverdict : (d.classify i.output).status.isVerdict = true) : i.exit = .timedOut := by
  cases hexit : i.exit with
  | timedOut => rfl
  | success => exact absurd (.inl hexit) h
  | code n => exact absurd (.inr ⟨⟨n, hexit⟩, hverdict⟩) h

end Invocation

namespace Bench

variable {σ : Type} {b : Bench σ} {j : Job} {s : Scene σ}

/-- One more step, unless the job has its result. -/
def executeStep (b : Bench σ) (j : Job) (e : Execution σ) : Execution σ :=
  if e.stage.result?.isSome then e
  else match b.advance? noTrouble e.scene j e.stage with
    | some (next, scene) => ⟨e.calls ++ next.call?.toList, next, scene⟩
    | none => e

/-- The first step, and two steps for each attempt that there may be. -/
def execute (b : Bench σ) (s : Scene σ) (j : Job) : Execution σ :=
  (b.executeStep j)^[2 * b.retry.maxAttempts.toNat + 1] ⟨[], .fresh, s⟩

theorem executeStep_eq {e : Execution σ} {next : Stage} {s' : Scene σ}
    (hresult : e.stage.result? = none)
    (h : b.advance? noTrouble e.scene j e.stage = some (next, s')) :
    b.executeStep j e = ⟨e.calls ++ next.call?.toList, next, s'⟩ := by
  unfold executeStep
  rw [hresult, h]
  rfl

theorem iterate_of_result {e : Execution σ} {r : JobResult} (h : e.stage.result? = some r)
    (n : Nat) : (b.executeStep j)^[n] e = e := by
  apply Function.iterate_fixed
  unfold executeStep
  rw [h]
  rfl

/-! ## One attempt -/

/-- Any text can be saved for the job. -/
def CanSave (b : Bench σ) (j : Job) (w : Workspace) : Prop :=
  ∀ text, ∃ w', w.writeText (b.layout.rawPath j) text = .ok w'

theorem CanSave.after {w w' : Workspace} {text : String}
    (h : w.writeText (b.layout.rawPath j) text = .ok w') : b.CanSave j w' := by
  intro more
  obtain ⟨-, hstores⟩ := write_eq_ok h
  obtain ⟨n, hn, -⟩ := hstores.stored
  exact exists_write_again h (fun r => hstores.folder_iff.mpr) (by rw [hn]; exact nofun) _

/-- The result of a job when this has come of its attempts. -/
def resultOf (b : Bench σ) (j : Job) : RetryOutcome Empty Verdict → JobResult
  | .completed verdict attempts => .ofVerdict verdict (b.layout.rawPath j) attempts
  | .exhausted attempts cause => .exhausted attempts cause (some (b.layout.rawPath j))
  | .aborted e => e.elim

/-- Where the task of a job is after a decision on an attempt. -/
def stageAfter (b : Bench σ) (j : Job) (attempt : UInt32) : Decision Verdict → Stage
  | .done verdict => .resolved (b.resultOf j (.completed verdict attempt))
  | .giveUp cause => .resolved (b.resultOf j (.exhausted b.retry.maxAttempts cause))
  | .again _ => .ready (attempt + 1)

theorem call?_stageAfter (attempt : UInt32) (decision : Decision Verdict) :
    (b.stageAfter j attempt decision).call? = none := by
  cases decision with
  | done verdict => rfl
  | giveUp cause => rfl
  | again cause => rfl

theorem callTool_eq {attempt : UInt32} {i : Invocation} {tool : σ}
    (h : b.tool.call s.tool s.files j attempt (.ofJob j b.timeoutMillis) = (.answer i, tool)) :
    b.callTool s j attempt = (.answered attempt i, { s.count .invocations with tool }) := by
  unfold callTool
  simp only [Scene.count, h]

theorem saveOutput_eq {attempt : UInt32} {i : Invocation} {files : Workspace}
    (h : s.files.writeText (b.layout.rawPath j) (i.savedOutput b.timeoutMillis attempt) =
      .ok files) :
    b.saveOutput noTrouble s j attempt i = b.judgeAnswer { s with files } j attempt i := by
  unfold saveOutput noTrouble
  simp only [h]

theorem judgeAnswer_eq (attempt : UInt32) (i : Invocation) :
    ∃ s', b.judgeAnswer s j attempt i =
        (b.stageAfter j attempt (b.retry.decide attempt (i.judge j.domain b.timeoutMillis)), s') ∧
      s'.files = s.files := by
  unfold judgeAnswer
  cases b.retry.decide attempt (i.judge j.domain b.timeoutMillis) with
  | done verdict => exact ⟨_, rfl, rfl⟩
  | giveUp cause => exact ⟨_, rfl, rfl⟩
  | again cause => exact ⟨_, rfl, rfl⟩

/-- An attempt is a call, and a step that saves and judges its answer. -/
theorem iterate_attempt (htool : ∀ t w k r, (b.tool.call t w j k r).1 ≠ .collapse)
    (calls : List (UInt32 × Invocation)) (attempt : UInt32) (hsave : b.CanSave j s.files) :
    ∃ i s', (b.executeStep j)^[2] ⟨calls, .ready attempt, s⟩ =
        ⟨calls ++ [(attempt, i)],
          b.stageAfter j attempt (b.retry.decide attempt (i.judge j.domain b.timeoutMillis)), s'⟩ ∧
      b.CanSave j s'.files ∧
      s'.files.readText (b.layout.rawPath j) = .ok (i.savedOutput b.timeoutMillis attempt) := by
  have hanswer := htool s.tool s.files attempt (.ofJob j b.timeoutMillis)
  cases hcall : b.tool.call s.tool s.files j attempt (.ofJob j b.timeoutMillis) with
  | mk answer tool =>
    rw [hcall] at hanswer
    cases answer with
    | collapse => exact absurd rfl hanswer
    | answer i =>
      obtain ⟨files, hwrite⟩ := hsave (i.savedOutput b.timeoutMillis attempt)
      let called : Scene σ := { s.count .invocations with tool }
      obtain ⟨s', hjudge, hfiles⟩ :=
        judgeAnswer_eq (b := b) (j := j) (s := { called with files }) attempt i
      have hcalling : b.advance? noTrouble s j (.ready attempt) =
          some (.answered attempt i, called) := congrArg some (callTool_eq hcall)
      have hsaving : b.advance? noTrouble called j (.answered attempt i) = some (_, s') :=
        congrArg some ((saveOutput_eq (s := called) hwrite).trans hjudge)
      have hcalled := executeStep_eq (e := ⟨calls, .ready attempt, s⟩) rfl hcalling
      have hsaved := executeStep_eq (e := ⟨calls ++ [(attempt, i)], .answered attempt i, called⟩)
        rfl hsaving
      rw [call?_stageAfter, Option.toList_none, List.append_nil] at hsaved
      refine ⟨i, s', ?_, hfiles ▸ .after hwrite, hfiles ▸ readText_of_writeText hwrite⟩
      rw [Function.iterate_succ_apply, Function.iterate_one, hcalled]
      exact hsaved

/-! ## All attempts -/

/-- The answers as the retry policy sees them. -/
def judged (b : Bench σ) (j : Job) (answers : UInt32 → Invocation) (attempt : UInt32) :
    Except Empty (Attempt Verdict) :=
  .ok ((answers attempt).judge j.domain b.timeoutMillis)

/-- What a series of attempts leaves behind: the calls are those that the policy makes, the result
is what the series comes to, and the answer to the last call is saved. -/
structure Follows (b : Bench σ) (j : Job) (run : RetryRun Empty Verdict)
    (made : List (UInt32 × Invocation)) (e : Execution σ) : Prop where
  calls : made.map Prod.fst = run.calls
  stage : e.stage = .resolved (b.resultOf j run.outcome)
  saved : ∃ c, made.getLast? = some c ∧
    e.scene.files.readText (b.layout.rawPath j) = .ok (c.2.savedOutput b.timeoutMillis c.1)

/-- From an attempt on, an execution follows the series that the policy makes of the answers. -/
theorem iterate_series (hfits : b.retry.budget < 2 ^ 32)
    (htool : ∀ t w k r, (b.tool.call t w j k r).1 ≠ .collapse) (answers : UInt32 → Invocation)
    (left : Nat) :
    ∀ (k : Nat) (s : Scene σ) (calls : List (UInt32 × Invocation)), k ≤ b.retry.budget →
      k + left = b.retry.budget + 1 → b.CanSave j s.files →
      ∃ made e, (b.executeStep j)^[2 * left] ⟨calls, .ready (.ofNat k), s⟩ = e ∧
        e.calls = calls ++ made ∧
        ((∀ c ∈ made, c.2 = answers c.1) →
          b.Follows j (b.retry.runFrom (b.judged j answers) left (.ofNat k)) made e) := by
  induction left with
  | zero =>
    intro k s calls hk hleft
    omega
  | succ left ih =>
    intro k s calls hk hleft hsave
    obtain ⟨i, s', hattempt, hsave', hread⟩ := iterate_attempt htool calls (.ofNat k) hsave
    have hsplit : 2 * (left + 1) = 2 * left + 2 := by omega
    have hfirst : i = answers (.ofNat k) →
        b.judged j answers (.ofNat k) = .ok (i.judge j.domain b.timeoutMillis) := by
      rintro rfl
      rfl
    rw [hsplit, Function.iterate_add_apply, hattempt]
    cases hdecision : b.retry.decide (.ofNat k) (i.judge j.domain b.timeoutMillis) with
    | done _ | giveUp _ =>
      rw [iterate_of_result rfl]
      refine ⟨[(.ofNat k, i)], _, rfl, rfl, fun hanswers => ?_⟩
      rw [RetryPolicy.runFrom, hfirst (hanswers _ List.mem_cons_self)]
      dsimp only
      rw [hdecision]
      exact ⟨rfl, rfl, _, rfl, hread⟩
    | again cause =>
      -- there is another attempt only if the budget allows it
      have hmore : k < b.retry.budget := by
        rw [← RetryPolicy.ofNat_lt_maxAttempts hfits hk]
        exact RetryPolicy.lt_maxAttempts_of_again hdecision
      unfold stageAfter
      rw [RetryPolicy.ofNat_succ]
      obtain ⟨made, e, he, hcalls, hfollows⟩ :=
        ih (k + 1) s' (calls ++ [(.ofNat k, i)]) (by omega) (by omega) hsave'
      refine ⟨(.ofNat k, i) :: made, e, he, by rw [hcalls, List.append_assoc]; rfl,
        fun hanswers => ?_⟩
      obtain ⟨hmade, hstage, c, hlast, hsaved⟩ :=
        hfollows fun c hc => hanswers c (List.mem_cons_of_mem _ hc)
      rw [RetryPolicy.runFrom, hfirst (hanswers _ List.mem_cons_self)]
      dsimp only
      rw [hdecision]
      dsimp only
      rw [RetryPolicy.ofNat_succ]
      refine ⟨by rw [List.map_cons, hmade], hstage, c, ?_, hsaved⟩
      rw [List.getLast?_cons, hlast]
      rfl

theorem execute_of_missing (h : s.files.isFolder j.unit.workarea = false) :
    b.execute s j = ⟨[], .resolved (JobResult.missing j.unit.workarea), s⟩ := by
  have hstart : b.startJob s j = .resolved (JobResult.missing j.unit.workarea) := by
    unfold startJob
    rw [h]
    rfl
  have hfirst : b.executeStep j ⟨[], .fresh, s⟩ =
      ⟨[], .resolved (JobResult.missing j.unit.workarea), s⟩ :=
    executeStep_eq (e := ⟨[], .fresh, s⟩) rfl (by unfold advance?; rw [hstart])
  unfold execute
  rw [Function.iterate_succ_apply, hfirst, iterate_of_result rfl]

/-- With a working folder there is a first attempt. -/
theorem execute_of_folder (hfits : b.retry.budget < 2 ^ 32)
    (h : s.files.isFolder j.unit.workarea = true) :
    b.execute s j = (b.executeStep j)^[2 * b.retry.budget] ⟨[], .ready (.ofNat 1), s⟩ := by
  have hmost := RetryPolicy.toNat_maxAttempts hfits
  have hsome : b.retry.maxAttempts ≠ 0 := by
    intro hzero
    rw [hzero] at hmost
    exact nomatch hmost
  have hstart : b.startJob s j = .ready 1 := by
    unfold startJob
    rw [h, if_neg hsome]
    rfl
  have hfirst : b.executeStep j ⟨[], .fresh, s⟩ = ⟨[], .ready (.ofNat 1), s⟩ :=
    executeStep_eq (e := ⟨[], .fresh, s⟩) rfl (by unfold advance?; rw [hstart])
  unfold execute
  rw [Function.iterate_succ_apply, hfirst, hmost]

/-- With a working folder an execution follows the series of all attempts. -/
theorem execute_follows (hfits : b.retry.budget < 2 ^ 32)
    (htool : ∀ t w k r, (b.tool.call t w j k r).1 ≠ .collapse) (hsave : b.CanSave j s.files)
    (hfolder : s.files.isFolder j.unit.workarea = true) {answers : UInt32 → Invocation}
    (hanswers : ∀ c ∈ (b.execute s j).calls, c.2 = answers c.1) :
    b.Follows j (b.retry.run (b.judged j answers)) (b.execute s j).calls (b.execute s j) := by
  obtain ⟨made, e, he, hmade, hfollows⟩ := iterate_series hfits htool answers b.retry.budget 1 s []
    (Nat.le_add_left 1 _) (Nat.add_comm 1 _) hsave
  rw [← execute_of_folder hfits hfolder] at he
  subst he
  rw [List.nil_append] at hmade
  unfold RetryPolicy.run
  rw [RetryPolicy.toNat_maxAttempts hfits, hmade]
  exact hfollows (hmade ▸ hanswers)

/-- The calls of an execution, when their numbers and their answers are known. -/
theorem eq_map_of_answers {answers : UInt32 → Invocation} {made : List (UInt32 × Invocation)}
    {numbers : List UInt32} (hnumbers : made.map Prod.fst = numbers)
    (hanswers : ∀ c ∈ made, c.2 = answers c.1) :
    made = numbers.map fun k => (k, answers k) := by
  rw [← hnumbers, List.map_map]
  exact (List.map_id made).symm.trans
    (List.map_congr_left fun c hc => Prod.ext rfl (hanswers c hc))

/-- What a series comes to whose last attempt is this one. -/
theorem resultOf_outcomeOf {n : Nat} {answers : UInt32 → Invocation}
    (hfits : b.retry.budget < 2 ^ 32) (hends : b.retry.EndsAt (b.judged j answers) n) :
    (answers (.ofNat n)).IsFinal j.domain ∧
        b.resultOf j (b.retry.outcomeOf (.ofNat n) (b.judged j answers (.ofNat n))) =
          .ofVerdict (j.domain.classify (answers (.ofNat n)).output) (b.layout.rawPath j)
            (.ofNat n) ∨
      ¬ (answers (.ofNat n)).IsFinal j.domain ∧ n = b.retry.budget ∧
        ∃ cause, (answers (.ofNat n)).judge j.domain b.timeoutMillis = .passing cause ∧
          b.resultOf j (b.retry.outcomeOf (.ofNat n) (b.judged j answers (.ofNat n))) =
            .exhausted (.ofNat n) cause (some (b.layout.rawPath j)) := by
  unfold judged RetryPolicy.outcomeOf
  by_cases hfinal : (answers (.ofNat n)).IsFinal j.domain
  · rw [Invocation.judge_of_isFinal hfinal]
    exact .inl ⟨hfinal, rfl⟩
  · obtain ⟨cause, hcause⟩ := Invocation.exists_cause_of_not_isFinal b.timeoutMillis hfinal
    have hn : n = b.retry.budget := by
      by_contra hne
      have hstops := hends.stops (Nat.lt_of_le_of_ne hends.le_budget hne)
      exact hfinal (Invocation.isFinal_iff_cause?.mpr hstops)
    have hmost : b.retry.maxAttempts = .ofNat n := by
      rw [hn, ← RetryPolicy.toNat_maxAttempts hfits, UInt32.ofNat_toNat]
    rw [hcause]
    refine .inr ⟨hfinal, hn, cause, rfl, ?_⟩
    rw [← hmost]
    rfl

/-- Without a working folder a job is missing, and nothing is called or written.  Otherwise the
tool is called up to the first final answer, or until no attempt is left; the result is the
classification of that answer, or an error with the cause of the last one; and the file holds the
text of the last call.  Only a call that was timed out is made again in spite of a verdict. -/
theorem execution_contract (b : Bench σ) (s : Scene σ) (j : Job) (answers : UInt32 → Invocation)
    (hretries : b.retry.retries.toNat < 2 ^ 32 - 1)
    (htool : ∀ t w k r, (b.tool.call t w j k r).1 ≠ .collapse)
    (hwrite : ∀ text, ∃ w, s.files.writeText (b.layout.rawPath j) text = .ok w)
    (hanswers : ∀ c ∈ (b.execute s j).calls, c.2 = answers c.1) :
    (s.files.isFolder j.unit.workarea = false →
      b.execute s j = ⟨[], .resolved (JobResult.missing j.unit.workarea), s⟩) ∧
    (s.files.isFolder j.unit.workarea = true → ∃ n, 1 ≤ n ∧ n ≤ b.retry.retries.toNat + 1 ∧
      (∀ k, 1 ≤ k → k < n → ¬ (answers (.ofNat k)).IsFinal j.domain) ∧
      (b.execute s j).calls =
        (List.range' 1 n).map (fun k => (UInt32.ofNat k, answers (.ofNat k))) ∧
      ((answers (.ofNat n)).IsFinal j.domain ∧
          (b.execute s j).stage = .resolved (JobResult.ofVerdict
            (j.domain.classify (answers (.ofNat n)).output) (b.layout.rawPath j) (.ofNat n)) ∨
        ¬ (answers (.ofNat n)).IsFinal j.domain ∧ n = b.retry.retries.toNat + 1 ∧
          ∃ cause, (answers (.ofNat n)).judge j.domain b.timeoutMillis = .passing cause ∧
            (b.execute s j).stage = .resolved
              (JobResult.exhausted (.ofNat n) cause (some (b.layout.rawPath j)))) ∧
      (b.execute s j).scene.files.readText (b.layout.rawPath j) =
        .ok ((answers (.ofNat n)).savedOutput b.timeoutMillis (.ofNat n)) ∧
      ∀ k, 1 ≤ k → k < n →
        (j.domain.classify (answers (.ofNat k)).output).status.isVerdict = true →
          (answers (.ofNat k)).exit = .timedOut) := by
  refine ⟨execute_of_missing, fun hfolder => ?_⟩
  have hfits : b.retry.budget < 2 ^ 32 := by
    unfold RetryPolicy.budget
    omega
  obtain ⟨n, hends, hcalls, houtcome⟩ := RetryPolicy.exists_endsAt (b.judged j answers) hfits
  obtain ⟨hnumbers, hstage, c, hlast, hsaved⟩ :=
    execute_follows hfits htool hwrite hfolder hanswers
  have hall : (b.execute s j).calls =
      (List.range' 1 n).map (fun k => (UInt32.ofNat k, answers (.ofNat k))) := by
    rw [eq_map_of_answers (hnumbers.trans hcalls) hanswers, List.map_map]
    rfl
  have hearlier : ∀ k, 1 ≤ k → k < n → ¬ (answers (.ofNat k)).IsFinal j.domain := by
    intro k hk hkn hfinal
    have hpassing := hends.passing k hk hkn
    unfold judged at hpassing
    rw [Invocation.isFinal_iff_cause?.mp hfinal] at hpassing
    exact nomatch hpassing
  have hc : (UInt32.ofNat n, answers (.ofNat n)) = c := by
    have hpos := hends.pos
    rw [hall, List.getLast?_map, List.getLast?_range', if_neg (by omega), Option.map_some,
      Nat.add_sub_cancel_left] at hlast
    exact Option.some.inj hlast
  rw [hstage, houtcome, hsaved, ← hc]
  refine ⟨n, hends.pos, hends.le_budget, hearlier, hall, ?_, rfl, fun k hk hkn =>
    Invocation.timedOut_of_isVerdict (hearlier k hk hkn)⟩
  rcases resultOf_outcomeOf hfits hends with ⟨hfinal, hresult⟩ | ⟨hnot, hn, cause, hcause, hresult⟩
  · exact .inl ⟨hfinal, congrArg Stage.resolved hresult⟩
  · exact .inr ⟨hnot, hn, cause, hcause, congrArg Stage.resolved hresult⟩

/-- The job of the small plan is timed out once, and its second attempt makes the result. -/
theorem execution_contract_second_attempt :
    let b := Sample.bench 1 Sample.late
    let s : Scene Unit :=
      { Sample.scene 1 Sample.late with files := (b.layout.prepare .empty .timing).2 }
    b.retry.retries.toNat < 2 ^ 32 - 1 ∧ s.files.isFolder Sample.job.unit.workarea = true ∧
      (b.execute s Sample.job).calls =
        [(1, ⟨.timedOut, "..."⟩), (2, ⟨.success, "===== TIMING =====\n"⟩)] ∧
      (b.execute s Sample.job).stage = .resolved (JobResult.ofVerdict (Verdict.noData .timing)
        ⟨"o/raw/timing/00000_a.log"⟩ 2) ∧
      (b.execute s Sample.job).scene.files.readText ⟨"o/raw/timing/00000_a.log"⟩ =
        .ok "===== TIMING =====\n" := by
  intro b s
  let answers : UInt32 → Invocation := fun attempt =>
    if attempt = 1 then ⟨.timedOut, "..."⟩ else ⟨.success, "===== TIMING =====\n"⟩
  have hraw : b.layout.rawPath Sample.job = ⟨"o/raw/timing/00000_a.log"⟩ := by decide +kernel
  have htool : ∀ t w k r, (b.tool.call t w Sample.job k r).1 ≠ .collapse :=
    fun _ _ _ _ h => nomatch h
  have hwrite : ∀ text, ∃ w, s.files.writeText (b.layout.rawPath Sample.job) text = .ok w := by
    intro text
    have hplace : s.files.writable (b.layout.rawPath Sample.job) =
        .ok ["o", "raw", "timing", "00000_a.log"] := by decide +kernel
    have hnew : (s.files.item? ["o", "raw", "timing", "00000_a.log"]).isNone = true := by
      decide +kernel
    exact exists_write hplace (by rw [Option.isNone_iff_eq_none.mp hnew]; exact nofun) _
  have hfolder : s.files.isFolder Sample.job.unit.workarea = true := by decide +kernel
  have hanswers : ∀ c ∈ (b.execute s Sample.job).calls, c.2 = answers c.1 := by decide +kernel
  have hfirst : ¬ (answers (.ofNat 1)).IsFinal .timing := by
    rintro (hexit | ⟨⟨code, hexit⟩, -⟩)
    · exact nomatch hexit
    · exact nomatch hexit
  have hsecond : answers (.ofNat 2) = ⟨.success, "===== TIMING =====\n"⟩ := rfl
  have hverdict : Domain.timing.classify "===== TIMING =====\n" = Verdict.noData .timing := by
    decide +kernel
  obtain ⟨n, hpos, hmost, -, hcalls, hend, hread, -⟩ :=
    (execution_contract b s Sample.job answers (by decide) htool hwrite hanswers).2 hfolder
  have htwo : b.retry.retries.toNat + 1 = 2 := rfl
  -- the first attempt is not final, so it is not the last
  have hn : n = 2 := by
    rcases hend with ⟨hfinal, -⟩ | ⟨-, hlast, -⟩
    · by_contra hne
      obtain rfl : n = 1 := by omega
      exact hfirst hfinal
    · exact hlast
  subst hn
  rw [hsecond] at hread hend
  rcases hend with ⟨-, hstage⟩ | ⟨hnot, -⟩
  · have hdomain : Sample.job.domain = .timing := rfl
    have htext : Invocation.savedOutput ⟨.success, "===== TIMING =====\n"⟩ b.timeoutMillis
        (.ofNat 2) = "===== TIMING =====\n" := rfl
    rw [hraw] at hstage hread
    rw [hdomain, hverdict] at hstage
    rw [htext] at hread
    exact ⟨by decide, hfolder, hcalls, hstage, hread⟩
  · exact absurd (.inl rfl) hnot

end Bench

end Signoff
