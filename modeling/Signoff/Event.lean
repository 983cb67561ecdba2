import Signoff.Counters
import Signoff.Job
import Signoff.Status

/-!
# Events

What a run tells its observers, as an event with a name, a level and named fields. Events of a run
may be set in a span that carries the run's identifier.
-/

namespace Signoff

inductive Level
  | debug
  | info
  | warn
deriving DecidableEq, Repr, Inhabited

namespace Level

def name : Level → String
  | debug => "DEBUG"
  | info => "INFO"
  | warn => "WARN"

/-- The least level to show; asking for more wins over asking for less. -/
def ofFlags (verbose quiet : Bool) : Level :=
  if verbose then debug else if quiet then warn else info

end Level

inductive Event
  | runStarted (runId : String) (domains : List Domain) (units slots : Nat)
  | jobRetried (key : JobKey) (attempt : UInt32) (cause : String)
  | jobFinished (key : JobKey) (unit : String) (status : Status) (attempts : UInt32)
      (resumed : Bool)
  | domainSummarized (domain : Domain) (total passed blocking : UInt64)
  | countersFlushed (runId : String) (counters : Counters)
  | runFinished (runId : String) (milliseconds jobs : Nat) (success : Bool)
deriving DecidableEq, Repr, Inhabited

/-- The value of an event field. -/
inductive FieldValue
  | text (s : String)
  | number (n : Nat)
  | flag (b : Bool)
deriving DecidableEq, Repr

namespace Event

def spanName : String := "chipreg.run"

def name : Event → String
  | runStarted .. => "run.started"
  | jobRetried .. => "job.retry"
  | jobFinished .. => "job.finished"
  | domainSummarized .. => "domain.aggregated"
  | countersFlushed .. => "metrics.flush"
  | runFinished .. => "run.finished"

def level : Event → Level
  | jobRetried .. => .warn
  | _ => .info

def details : Event → List (String × FieldValue)
  | runStarted runId domains units slots =>
    [("run_id", .text runId),
      ("domains", .text (String.intercalate "," (domains.map (·.slug)))),
      ("units", .number units), ("parallel", .number slots)]
  | jobRetried key attempt cause =>
    [("job", .text key.text), ("attempt", .number attempt.toNat), ("cause", .text cause)]
  | jobFinished key unit status attempts resumed =>
    [("job", .text key.text), ("unit", .text unit), ("status", .text status.name),
      ("attempts", .number attempts.toNat), ("resumed", .flag resumed)]
  | domainSummarized domain total passed blocking =>
    [("domain", .text domain.name), ("total", .number total.toNat),
      ("passed", .number passed.toNat), ("blocking", .number blocking.toNat)]
  | countersFlushed runId counters =>
    ("run_id", .text runId) ::
      Counter.all.map fun c => (c.name, .number (counters.get c).toNat)
  | runFinished runId milliseconds jobs success =>
    [("run_id", .text runId), ("duration_ms", .number milliseconds),
      ("total_jobs", .number jobs), ("success", .flag success)]

/-- The fields, the event's name first. -/
def fields (e : Event) : List (String × FieldValue) := ("event", .text e.name) :: e.details

end Event

end Signoff
