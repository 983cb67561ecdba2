import Signoff.Report.Basic

/-!
# The gate

A report passes the gate if none of its results stops the release. Units without a verdict and
jobs that were only listed do not count against it.
-/

namespace Signoff

structure GateDecision where
  passed : Bool
  violations : List String
  message : String
deriving DecidableEq, Repr, Inhabited

namespace GateDecision

def exitCode (d : GateDecision) : Nat := if d.passed then 0 else 1

end GateDecision

namespace Report

def violation (entry : UnitRow × Domain × JobResult) : String :=
  let (u, d, r) := entry
  s!"{u.name} ({u.index}) {d.name}: {r.status.name} ({r.details})"

def gate (r : Report) : GateDecision :=
  let violations := r.blocking.map violation
  { passed := violations.isEmpty
    violations
    message :=
      if violations.isEmpty then s!"All {r.unitCount} units passed the gate"
      else s!"Gate failed with {violations.length} blocking result(s)" }

end Report

end Signoff
