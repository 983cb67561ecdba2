import Signoff.Figures.Basic
import Signoff.Section

/-!
# Verdicts

The verdict on a domain depends on the body of the domain's section alone. Without a section it is
NOT_FOUND, and a section without usable figures gives NO_DATA.
-/

namespace Signoff

structure Verdict where
  status : Status
  details : String
  figures : Figures
deriving DecidableEq, Repr, Inhabited

namespace Verdict

def noSection (d : Domain) : Verdict :=
  ⟨.notFound, s!"{d.slug} section not found in tool output", .none⟩

def noData (d : Domain) : Verdict :=
  ⟨.noData, s!"{d.slug} section has no usable data", .none⟩

/-- The verdict on a section body; `none` if the body has no usable figures. -/
def ofBody? : Domain → List Char → Option Verdict
  | .formal, body =>
    let report := FlowReport.read body
    if report.flows.isEmpty then none
    else
      let (status, details) := report.verdict
      some ⟨status, details, .formal report⟩
  | .timing, body =>
    (SlackPair.read body).combine?.map fun report =>
      ⟨SlackReport.statusOf report.worst, report.details, .timing report⟩
  | .physical, body =>
    let counts := RuleCounts.read body
    if counts.isEmpty then none else some ⟨counts.status, counts.details, .physical counts⟩
  | .clock, body =>
    (ClockReport.ofClocks? (ClockTree.readAll body)).map fun report =>
      ⟨ClockReport.statusOf report.worstLatency, report.details, .clock report⟩
  | .release, body =>
    let tally := AttemptTally.read body
    some ⟨AttemptTally.statusOf tally.succeeded tally.failed, tally.details, .release tally⟩
  | .gateLevel, body =>
    (FindingCounts.read? body).map fun counts =>
      ⟨FindingCounts.statusOf counts.nonWaived, counts.details, .gateLevel counts⟩

end Verdict

/-- The verdict of a domain on the tool's output. -/
def Domain.classify (d : Domain) (output : String) : Verdict :=
  match Section.body? d output.toList with
  | none => Verdict.noSection d
  | some body => (Verdict.ofBody? d body).getD (Verdict.noData d)

end Signoff
