import Signoff.Artifacts
import Signoff.Counters
import Signoff.Event
import Signoff.LogFile
import Signoff.Retry

/-!
# Runs

A run takes a plan through the domains one after another. Its jobs share a bench, which stays the
same, and a scene, which each step may change.
-/

namespace Signoff

/-- What comes of a tool call: an answer, or the collapse of the job's task. -/
inductive ToolAnswer
  | answer (i : Invocation)
  | collapse
deriving DecidableEq, Repr

/-- A tool with a state of its own. It sees the workspace and leaves it alone. -/
structure Tool (σ : Type) where
  call : σ → Workspace → Job → UInt32 → Request → ToolAnswer × σ

structure Plan where
  domains : List Domain
  units : List DesignUnit
  dryRun : Bool
  /-- The completion log of an earlier run to go on from. -/
  resume : Option Path
deriving DecidableEq, Repr

/-- What the jobs of a run share. The clock gives the instants of its readings in turn. -/
structure Bench (σ : Type) where
  tool : Tool σ
  layout : Layout
  retry : RetryPolicy
  timeoutMillis : Nat
  slots : Nat
  clock : Nat → Time.Instant

namespace Bench

variable {σ : Type}

def ofConfig (tool : Tool σ) (clock : Nat → Time.Instant) (processors : UInt64) (c : Config) :
    Bench σ :=
  { tool
    layout := ⟨c.output⟩
    retry := RetryPolicy.ofConfig c
    timeoutMillis := c.timeoutSeconds.toNat * 1000
    slots := (c.slots.resolve processors c.slotCap).toNat
    clock }

/-- How many jobs may run at once, at least one. -/
def width (b : Bench σ) : Nat := if b.slots = 0 then 1 else b.slots

end Bench

/-- Why a run ends without a report. -/
inductive RunError
  | log (error : Error)
  | root (path : Path) (fault : Fault)
  | preparation (domain : Domain) (error : Error)
  | unwritten (path : Path) (fault : Fault)
  | unrecorded (path : Path) (error : Error)
  | collapse
deriving DecidableEq, Repr

namespace RunError

/-- What went wrong and what brought it about, from the outside in. -/
def chain : RunError → List String
  | log error => error.chain
  | root path fault => [s!"create {path.quoted}", fault.message]
  | preparation domain error =>
    s!"prepare artifact directories for {domain.name}" :: error.chain
  | unwritten path fault => [s!"write {path.quoted}", fault.message]
  | unrecorded path error => s!"write {path.quoted}" :: error.chain
  | collapse => ["job task panicked"]

def message (e : RunError) : String := String.intercalate ": " e.chain

end RunError

/-- What a run changes. -/
structure Scene (σ : Type) where
  files : Workspace
  log : LogFile
  tool : σ
  counters : Counters
  events : List Event
  waitedMillis : Nat
  /-- How often the clock was read. -/
  readings : Nat

namespace Scene

variable {σ : Type}

def count (s : Scene σ) (c : Counter) : Scene σ := { s with counters := s.counters.count c }

def emit (s : Scene σ) (e : Event) : Scene σ := { s with events := s.events ++ [e] }

def wait (s : Scene σ) (millis : Nat) : Scene σ :=
  { s with waitedMillis := s.waitedMillis + millis }

end Scene

/-- How many jobs of a domain were executed, resumed, or only listed. -/
structure DomainStats where
  executed : Nat
  resumed : Nat
  skipped : Nat
deriving DecidableEq, Repr, Inhabited

/-- The jobs of a domain: those with the result of an earlier run, and those to execute. -/
structure Survey where
  resumed : List (Job × JobResult)
  queue : List Job
deriving DecidableEq, Repr

namespace Survey

/-- The result of a job that an earlier run completed. The log has to name the same unit. -/
def reusable? (w : Workspace) (l : Layout) (done : CompletionLog.Completions) (j : Job) :
    Option JobResult :=
  match done.lookup? j.key with
  | none => none
  | some entry => if entry.unitName = j.unit.name then Record.cached? w l j else none

def take (w : Workspace) (l : Layout) (done : CompletionLog.Completions) (units : List DesignUnit)
    (d : Domain) : Survey :=
  let jobs := units.map (Job.mk d)
  { resumed := jobs.filterMap fun j => (reusable? w l done j).map fun r => (j, r)
    queue := jobs.filter fun j => (reusable? w l done j).isNone }

def resumedEvents (s : Survey) : List Event :=
  s.resumed.map fun (j, r) => .jobFinished j.key j.unit.name r.status r.attempts true

/-- Enters the results of the earlier run. -/
def enter (s : Survey) (l : Ledger) : Ledger :=
  s.resumed.foldl (fun l (j, r) => l.enter j.key r) l

def count (s : Survey) (c : Counters) : Counters :=
  s.resumed.foldl (fun c _ => c.count .resumed) c

end Survey

/-- What is told about a domain once all its results are in. -/
def summaryEvent (units : List DesignUnit) (l : Ledger) (d : Domain) : Event :=
  let summary := Report.summarize units l d
  let blocking := ((Status.all.filter (·.isBlocking)).map summary.count).foldl (· + ·) 0
  .domainSummarized d summary.total (summary.count .passed) blocking

end Signoff
