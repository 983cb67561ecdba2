import Signoff.Figures.Basic
import Signoff.Json.Fields

/-!
# Figures as JSON

Figures are an object with a tag `domain` and, unless there are none, their fields under `values`.
Reading also takes the pair of both as an array. Where the values stand in front of the tag they
are kept until the tag is known, so all of them have to be sound and not too deep in the document.
-/

namespace Signoff

open Signoff.Json

def FlowResult.toJson (r : FlowResult) : Json :=
  ofMembers [("flow", ofText r.flow.name), ("state", ofText r.state.name),
    ("failing_points", ofOption (fun n => ofNat n.toNat) r.failingPoints)]

/-- A flow's result, with a reader for the names in it. -/
def FlowResult.ofJson? (readName? : Json → Option String) (j : Json) : Option FlowResult := do
  match ← j.fields? ["flow", "state", "failing_points"] with
  | [flow, state, points] =>
    let flow ← need? readName? flow >>= Flow.ofName?
    let state ← need? readName? state >>= FlowState.ofName?
    let failingPoints ← may? uint64? points
    return { flow, state, failingPoints }
  | _ => none

def FlowReport.toJson (r : FlowReport) : Json :=
  ofMembers [("flows", .array (r.flows.map FlowResult.toJson))]

def FlowReport.ofJson? (readName? : Json → Option String) (j : Json) : Option FlowReport := do
  match ← j.fields? ["flows"] with
  | [flows] => return ⟨← need? (listOf? (FlowResult.ofJson? readName?)) flows⟩
  | _ => none

def Slack.toJson (s : Slack) : Json :=
  ofMembers [("wns", ofOption ofReal s.worst), ("tns", ofOption ofReal s.total),
    ("nvp", ofOption (fun n => ofNat n.toNat) s.violations)]

def Slack.ofJson? (j : Json) : Option Slack := do
  match ← j.fields? ["wns", "tns", "nvp"] with
  | [worst, total, violations] =>
    return ⟨← may? real? worst, ← may? real? total, ← may? uint64? violations⟩
  | _ => none

def SlackReport.toJson (r : SlackReport) : Json :=
  ofMembers [("setup", ofOption Slack.toJson r.setup), ("hold", ofOption Slack.toJson r.hold),
    ("worst_wns", ofReal r.worst), ("worst_tns", ofOption ofReal r.total),
    ("violating_paths", ofOption (fun n => ofNat n.toNat) r.violations)]

def SlackReport.ofJson? (j : Json) : Option SlackReport := do
  match ← j.fields? ["setup", "hold", "worst_wns", "worst_tns", "violating_paths"] with
  | [setup, hold, worst, total, violations] =>
    return {
      setup := ← may? Slack.ofJson? setup
      hold := ← may? Slack.ofJson? hold
      worst := ← need? real? worst
      total := ← may? real? total
      violations := ← may? uint64? violations }
  | _ => none

def RuleCounts.toJson (r : RuleCounts) : Json :=
  let count := ofOption fun (n : UInt64) => ofNat n.toNat
  ofMembers [("drc", count r.drc), ("lvs", count r.lvs), ("antenna", count r.antenna)]

def RuleCounts.ofJson? (j : Json) : Option RuleCounts := do
  match ← j.fields? ["drc", "lvs", "antenna"] with
  | [drc, lvs, antenna] =>
    return ⟨← may? uint64? drc, ← may? uint64? lvs, ← may? uint64? antenna⟩
  | _ => none

def ClockTree.toJson (c : ClockTree) : Json :=
  ofMembers [("name", ofText c.name), ("latency_ps", ofReal c.latency),
    ("skew_ps", ofOption ofReal c.skew)]

def ClockTree.ofJson? (j : Json) : Option ClockTree := do
  match ← j.fields? ["name", "latency_ps", "skew_ps"] with
  | [name, latency, skew] =>
    return ⟨← need? text? name, ← need? real? latency, ← may? real? skew⟩
  | _ => none

def ClockReport.toJson (r : ClockReport) : Json :=
  ofMembers [("clocks", .array (r.clocks.map ClockTree.toJson)),
    ("worst_latency_ps", ofReal r.worstLatency), ("worst_clock", ofText r.worstClock)]

def ClockReport.ofJson? (j : Json) : Option ClockReport := do
  match ← j.fields? ["clocks", "worst_latency_ps", "worst_clock"] with
  | [clocks, latency, name] =>
    return ⟨← need? (listOf? ClockTree.ofJson?) clocks, ← need? real? latency,
      ← need? text? name⟩
  | _ => none

def AttemptTally.toJson (t : AttemptTally) : Json :=
  ofMembers [("succeeded", ofNat t.succeeded.toNat), ("failed", ofNat t.failed.toNat),
    ("latest", ofOption ofText t.latest)]

def AttemptTally.ofJson? (j : Json) : Option AttemptTally := do
  match ← j.fields? ["succeeded", "failed", "latest"] with
  | [succeeded, failed, latest] =>
    return ⟨← need? uint32? succeeded, ← need? uint32? failed, ← may? text? latest⟩
  | _ => none

def CheckerCount.toJson (c : CheckerCount) : Json :=
  ofMembers [("checker", ofText c.checker), ("count", ofNat c.count.toNat)]

def CheckerCount.ofJson? (j : Json) : Option CheckerCount := do
  match ← j.fields? ["checker", "count"] with
  | [checker, count] => return ⟨← need? text? checker, ← need? uint64? count⟩
  | _ => none

def FindingCounts.toJson (f : FindingCounts) : Json :=
  ofMembers [("total", ofNat f.total.toNat), ("waived", ofNat f.waived.toNat),
    ("non_waived", ofNat f.nonWaived.toNat),
    ("top_checkers", .array (f.topCheckers.map CheckerCount.toJson))]

def FindingCounts.ofJson? (j : Json) : Option FindingCounts := do
  match ← j.fields? ["total", "waived", "non_waived", "top_checkers"] with
  | [total, waived, nonWaived, checkers] =>
    return ⟨← need? uint64? total, ← need? uint64? waived, ← need? uint64? nonWaived,
      ← need? (listOf? CheckerCount.ofJson?) checkers⟩
  | _ => none

namespace Figures

def tagged (tag : String) (values : Json) : Json :=
  ofMembers [("domain", ofText tag), ("values", values)]

def toJson : Figures → Json
  | .none => ofMembers [("domain", ofText "none")]
  | .formal r => tagged "formal" r.toJson
  | .timing r => tagged "timing" r.toJson
  | .physical r => tagged "physical_verification" r.toJson
  | .clock r => tagged "clock" r.toJson
  | .release r => tagged "release" r.toJson
  | .gateLevel r => tagged "gate_level_check" r.toJson

/-- The figures of a tag; values are missing only where there are no figures. -/
def ofTag? (readName? : Json → Option String) (tag : String) (values : Option Json) :
    Option Figures :=
  if tag = "none" then
    match values with
    | .none | some .null => some .none
    | _ => Option.none
  else if tag = "formal" then (need? (FlowReport.ofJson? readName?) values).map .formal
  else if tag = "timing" then (need? SlackReport.ofJson? values).map .timing
  else if tag = "physical_verification" then (need? RuleCounts.ofJson? values).map .physical
  else if tag = "clock" then (need? ClockReport.ofJson? values).map .clock
  else if tag = "release" then (need? AttemptTally.ofJson? values).map .release
  else if tag = "gate_level_check" then (need? FindingCounts.ofJson? values).map .gateLevel
  else Option.none

/-- Whether the values stand in front of the tag. -/
def valuesFirst (members : List (Option String × Json)) : Bool :=
  (members.find? fun (key, _) => key == some "domain" || key == some "values").any
    fun (key, _) => key == some "values"

/-- The most arrays and objects that may be open in a document around a value that is kept. -/
def deepest : Nat := 127

/-- Figures inside as many open arrays and objects as `outer` says. -/
def ofJson? (outer : Nat) : Json → Option Figures
  | .array [tag, values] => (text? tag).bind (ofTag? name? · (some values))
  | .object members => do
    match ← (Json.object members).fields? ["domain", "values"] with
    | [tag, values] =>
      let tag ← need? name? tag
      if valuesFirst members then
        if values.all fun j => j.isSound && outer + 1 + j.depth ≤ deepest then
          ofTag? keptName? tag values
        else Option.none
      else ofTag? name? tag values
    | _ => Option.none
  | _ => Option.none

end Figures

end Signoff
