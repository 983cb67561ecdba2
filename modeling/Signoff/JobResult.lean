import Signoff.Figures.Codec
import Signoff.Verdict

/-!
# Job results

The result of a job is a verdict, or the reason why there is none, with the place of the tool's
saved output and the number of tool calls spent.
-/

namespace Signoff

open Signoff.Json

structure JobResult where
  status : Status
  details : String
  figures : Figures
  raw : Option Path
  attempts : UInt32
deriving DecidableEq, Repr, Inhabited

namespace JobResult

def ofVerdict (v : Verdict) (raw : Path) (attempts : UInt32) : JobResult :=
  ⟨v.status, v.details, v.figures, some raw, attempts⟩

/-- The unit's working folder does not exist. -/
def missing (workarea : Path) : JobResult :=
  ⟨.missing, s!"workarea not found: {workarea.text}", .none, none, 0⟩

/-- The job was only listed. -/
def notRun : JobResult := ⟨.notRun, "dry run", .none, none, 0⟩

/-- Every attempt failed for a passing cause. -/
def exhausted (attempts : UInt32) (cause : String) (raw : Option Path) : JobResult :=
  ⟨.error, s!"analysis tool failed after {attempts} attempts: {cause}", .none, raw, attempts⟩

def toJson (r : JobResult) : Json :=
  ofMembers [("status", ofText r.status.name), ("details", ofText r.details),
    ("metrics", r.figures.toJson), ("raw_output", ofOption (fun p => ofText p.text) r.raw),
    ("attempts", ofNat r.attempts.toNat)]

/-- Figures in a report stand in a report, its groups, a group, its units, a unit, the unit's
results and a result. -/
def figuresDepth : Nat := 7

/-- Missing figures are no figures. -/
def figuresOf? : Option Json → Option Figures
  | none => some .none
  | some j => Figures.ofJson? figuresDepth j

def ofJson? (j : Json) : Option JobResult := do
  match ← j.fields? ["status", "details", "metrics", "raw_output", "attempts"] with
  | [status, details, figures, raw, attempts] =>
    let status ← need? name? status >>= Status.ofName?
    let details ← need? text? details
    let figures ← figuresOf? figures
    let raw ← may? text? raw
    let attempts ← need? uint32? attempts
    return { status, details, figures, raw := raw.map Path.mk, attempts }
  | _ => none

end JobResult

end Signoff
