import Signoff.Analysis.Clock
import Signoff.Analysis.Formal
import Signoff.Analysis.GateLevel
import Signoff.Analysis.Physical
import Signoff.Analysis.Release
import Signoff.Analysis.Timing

/-!
# Figures of a verdict

What an analysis reported in numbers, kept beside its verdict.
-/

namespace Signoff

inductive Figures
  | none
  | formal (report : FlowReport)
  | timing (report : SlackReport)
  | physical (counts : RuleCounts)
  | clock (report : ClockReport)
  | release (tally : AttemptTally)
  | gateLevel (counts : FindingCounts)
deriving DecidableEq, Repr, Inhabited

end Signoff
