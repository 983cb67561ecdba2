import Signoff.Error
import Signoff.Text.Basic

/-!
# Statuses

A job ends in one of thirteen statuses. The first six are verdicts of the analysis and rise in
severity; the others say why there is none. Three of them stop a release.
-/

namespace Signoff

open Signoff.Text

inductive Status
  | passed
  | warn
  | partialPass
  | unresolved
  | failed
  | crashed
  | notFound
  | noData
  | missing
  | error
  | running
  | unknown
  | notRun
deriving DecidableEq, Repr, Inhabited

namespace Status

def all : List Status :=
  [passed, warn, partialPass, unresolved, failed, crashed, notFound, noData, missing, error,
    running, unknown, notRun]

def name : Status → String
  | passed => "PASSED"
  | warn => "WARN"
  | partialPass => "PARTIAL_PASS"
  | unresolved => "UNRESOLVED"
  | failed => "FAILED"
  | crashed => "CRASHED"
  | notFound => "NOT_FOUND"
  | noData => "NO_DATA"
  | missing => "MISSING"
  | error => "ERROR"
  | running => "RUNNING"
  | unknown => "UNKNOWN"
  | notRun => "NOT_RUN"

def severity? : Status → Option Nat
  | passed => some 0
  | warn => some 1
  | partialPass => some 2
  | unresolved => some 3
  | failed => some 4
  | crashed => some 5
  | _ => none

/-- The analysis came to a verdict. -/
def isVerdict (s : Status) : Bool := s.severity?.isSome

/-- The status makes the gate fail. -/
def isBlocking : Status → Bool
  | failed => true
  | crashed => true
  | error => true
  | _ => false

def ofName? (s : String) : Option Status := all.find? (·.name == s)

def ofText? (s : String) : Option Status :=
  ofName? (String.ofList (upper (trim s.toList)))

def read (s : String) : Except Error Status :=
  match ofText? s with
  | some status => .ok status
  | none => .error (.unknownStatus s)

@[simp] theorem ofName?_name (s : Status) : ofName? s.name = some s := by
  cases s <;> decide

theorem mem_all (s : Status) : s ∈ all := by cases s <;> decide

end Status

end Signoff
