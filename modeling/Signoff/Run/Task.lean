import Signoff.Run.Basic

/-!
# The task of a job

A job goes through stages: the tool is called until an attempt is final or none is left, with the
output of each call saved, then the result is recorded, and last the completion is logged. A stage
that keeps books can break the task.
-/

namespace Signoff

inductive Stage
  | fresh
  | ready (attempt : UInt32)
  | answered (attempt : UInt32) (i : Invocation)
  | resolved (result : JobResult)
  | recorded (result : JobResult)
  | finished (result : JobResult)
  | broken (error : RunError)
deriving DecidableEq, Repr

/-- What the system refuses during a step, beyond what the workspace itself rules out. -/
structure Trouble where
  writing : Option Fault
  saving : Workspace.Refusals

def noTrouble : Trouble := ⟨none, Workspace.noRefusals⟩

namespace Bench

variable {σ : Type}

/-- A job without a working folder is not executed. -/
def startJob (b : Bench σ) (s : Scene σ) (j : Job) : Stage :=
  if !s.files.isFolder j.unit.workarea then .resolved (JobResult.missing j.unit.workarea)
  else if b.retry.maxAttempts = 0 then
    .resolved (JobResult.exhausted 0 "" (some (b.layout.rawPath j)))
  else .ready 1

def callTool (b : Bench σ) (s : Scene σ) (j : Job) (attempt : UInt32) : Stage × Scene σ :=
  -- a call counts however it ends
  let s := s.count .invocations
  match b.tool.call s.tool s.files j attempt (Request.ofJob j b.timeoutMillis) with
  | (.answer i, tool) => (.answered attempt i, { s with tool })
  | (.collapse, tool) => (.broken .collapse, { s with tool })

/-- What follows from an attempt whose output is saved. -/
def judgeAnswer (b : Bench σ) (s : Scene σ) (j : Job) (attempt : UInt32) (i : Invocation) :
    Stage × Scene σ :=
  let raw := b.layout.rawPath j
  match b.retry.decide attempt (i.judge j.domain b.timeoutMillis) with
  | .done verdict => (.resolved (JobResult.ofVerdict verdict raw attempt), s)
  | .giveUp cause =>
    (.resolved (JobResult.exhausted b.retry.maxAttempts cause (some raw)), s)
  | .again cause =>
    (.ready (attempt + 1),
      ((s.count .retries).emit (.jobRetried j.key attempt cause)).wait b.retry.waitMillis)

def saveOutput (b : Bench σ) (trouble : Trouble) (s : Scene σ) (j : Job) (attempt : UInt32)
    (i : Invocation) : Stage × Scene σ :=
  let raw := b.layout.rawPath j
  match trouble.writing with
  | some fault => (.broken (.unwritten raw fault), s)
  | none =>
    match s.files.writeText raw (i.savedOutput b.timeoutMillis attempt) with
    | .error fault => (.broken (.unwritten raw fault), s)
    | .ok files => b.judgeAnswer { s with files } j attempt i

def recordResult (b : Bench σ) (trouble : Trouble) (s : Scene σ) (j : Job) (r : JobResult) :
    Stage × Scene σ :=
  let path := b.layout.recordPath j
  match Record.save s.files trouble.saving path r with
  | (.error error, files) => (.broken (.unrecorded path error), { s with files })
  | (.ok (), files) => (.recorded r, { s with files })

def logCompletion (b : Bench σ) (trouble : Trouble) (s : Scene σ) (j : Job) (r : JobResult) :
    Stage × Scene σ :=
  match trouble.writing with
  | some fault => (.broken (.log (.completionLog s.log.path fault)), s)
  | none =>
    let (log, files) := s.log.record s.files j.key j.unit.name (b.clock s.readings)
    (.finished r, { s with log, files, readings := s.readings + 1 }.emit
      (.jobFinished j.key j.unit.name r.status r.attempts false))

/-- The next step of a task that is not over. -/
def advance? (b : Bench σ) (trouble : Trouble) (s : Scene σ) (j : Job) :
    Stage → Option (Stage × Scene σ)
  | .fresh => some (b.startJob s j, s)
  | .ready attempt => some (b.callTool s j attempt)
  | .answered attempt i => some (b.saveOutput trouble s j attempt i)
  | .resolved r => some (b.recordResult trouble s j r)
  | .recorded r => some (b.logCompletion trouble s j r)
  | .finished _ => none
  | .broken _ => none

end Bench

end Signoff
