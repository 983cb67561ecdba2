import Signoff.Number.Decimal
import Signoff.Status
import Signoff.Text.Lines
import Signoff.Text.Scan

/-!
# Static timing

Setup and hold are separate scenarios with slack figures of their own: worst and total negative
slack in nanoseconds and the number of violating paths. The worse of the two worst slacks decides
the verdict.
-/

namespace Signoff

open Signoff.Text Signoff.Number

inductive Scenario
  | setup
  | hold
deriving DecidableEq, Repr, Inhabited

/-- The figures of one scenario. -/
structure Slack where
  worst : Option Binary64
  total : Option Binary64
  violations : Option UInt64
deriving DecidableEq, Repr, Inhabited

def Slack.empty : Slack := ⟨none, none, none⟩

def Slack.isEmpty (s : Slack) : Bool :=
  s.worst.isNone && s.total.isNone && s.violations.isNone

structure SlackPair where
  setup : Slack
  hold : Slack
deriving DecidableEq, Repr, Inhabited

/-- The figures of both scenarios together. -/
structure SlackReport where
  setup : Option Slack
  hold : Option Slack
  worst : Binary64
  total : Option Binary64
  violations : Option UInt64
deriving DecidableEq, Repr, Inhabited

/-- A real number with an optional plus sign and commas between its digits. -/
def readReal? (cs : List Char) : Option Binary64 :=
  Binary64.read? (((trim cs).dropWhile (· == '+')).filter (· != ','))

namespace Scenario

/-- The scenario word of a header line, as written. -/
def headerWord? (line : List Char) : Option (List Char) :=
  let inner := trimStart line
  let inner := match keyword? "scenario".toList inner with
    | some (_, rest) => skipMark rest
    | none => inner
  (wholeKeyword? ["setup", "hold"] inner).map (·.1)

def ofWord (word : List Char) : Scenario :=
  if sameLetters word "setup".toList then setup else hold

def ofHeader? (line : List Char) : Option Scenario := (headerWord? line).map ofWord

end Scenario

namespace Slack

/-- A comma and three digits, as often as they follow each other. -/
def thousands : List Char → List Char × List Char
  | ',' :: a :: b :: c :: rest =>
    if isDecimalDigit a && isDecimalDigit b && isDecimalDigit c then
      let (more, tail) := thousands rest
      (',' :: a :: b :: c :: more, tail)
    else ([], ',' :: a :: b :: c :: rest)
  | cs => ([], cs)

/-- Digits, or one to three digits with groups of thousands. -/
def whole? (cs : List Char) : Option (List Char × List Char) := do
  let (digits, rest) ← run? isDecimalDigit cs
  if digits.length ≤ 3 then
    let (groups, tail) := thousands rest
    return (digits ++ groups, tail)
  else return (digits, rest)

/-- A point with digits behind it, or nothing. -/
def fraction (cs : List Char) : List Char × List Char :=
  match cs with
  | '.' :: rest =>
    match run? isDecimalDigit rest with
    | some (digits, tail) => ('.' :: digits, tail)
    | none => ([], cs)
  | _ => ([], cs)

def sign (cs : List Char) : List Char × List Char :=
  match cs with
  | c :: rest => if c = '+' || c = '-' then ([c], rest) else ([], cs)
  | [] => ([], cs)

/-- The spelling of a slack figure. -/
def figure? (cs : List Char) : Option (List Char × List Char) := do
  let (sign, rest) := sign cs
  let (whole, rest) ← whole? rest
  let (fraction, rest) := fraction rest
  return (sign ++ whole ++ fraction, rest)

/-- A figure with its name, both as written. -/
def item? (before : Option Char) (cs : List Char) :
    Option ((List Char × List Char) × List Char) :=
  if isBoundary before cs.head? then do
    let (name, rest) ← firstKeyword? (["wns", "tns", "nvp"].map String.toList) cs
    let rest ← afterMark? rest
    let (figure, rest) ← figure? rest
    return ((name, figure), rest)
  else none

/-- The figures of a line, in order. -/
def items (line : List Char) : List (List Char × List Char) := allFrom item? 0 none line

/-- Takes over a figure; one that cannot be read leaves its field empty. -/
def set (s : Slack) (item : List Char × List Char) : Slack :=
  let (name, figure) := item
  if sameLetters name "wns".toList then { s with worst := readReal? figure }
  else if sameLetters name "tns".toList then { s with total := readReal? figure }
  else { s with violations := readCount? figure }

def readLine (s : Slack) (line : List Char) : Slack := (items line).foldl set s

end Slack

namespace SlackPair

def empty : SlackPair := ⟨Slack.empty, Slack.empty⟩

def update (p : SlackPair) (scenario : Scenario) (f : Slack → Slack) : SlackPair :=
  match scenario with
  | .setup => { p with setup := f p.setup }
  | .hold => { p with hold := f p.hold }

/-- One line further: a header changes the scenario, and figures belong to the current one. -/
def readLine (state : Option Scenario × SlackPair) (line : List Char) :
    Option Scenario × SlackPair :=
  let scenario := Scenario.ofHeader? line <|> state.1
  match scenario with
  | none => (none, state.2)
  | some s => (some s, state.2.update s (Slack.readLine · line))

/-- The figures of a section body; those in front of the first header count for nothing. -/
def read (body : List Char) : SlackPair := ((lines body).foldl readLine (none, empty)).2

def leastOf (x y : Option Binary64) : Option Binary64 :=
  match x, y with
  | some x, some y => some (x.least y)
  | x, none => x
  | none, y => y

def sumOf (x y : Option UInt64) : Option UInt64 :=
  match x, y with
  | none, none => none
  | x, y => some (x.getD 0 + y.getD 0)

/-- Both scenarios together; there is no report without a worst slack. -/
def combine? (p : SlackPair) : Option SlackReport := do
  let worst ← leastOf p.setup.worst p.hold.worst
  return {
    setup := if p.setup.isEmpty then none else some p.setup
    hold := if p.hold.isEmpty then none else some p.hold
    worst
    total := leastOf p.setup.total p.hold.total
    violations := sumOf p.setup.violations p.hold.violations }

end SlackPair

namespace SlackReport

/-- More negative slack than this, 0.05 ns, fails. -/
def tolerance : Binary64 := ⟨false, Binary64.nearest 5 100⟩

def statusOf (worst : Binary64) : Status :=
  if Binary64.zero.le worst then .passed
  else if tolerance.lt worst.abs then .failed
  else .warn

/-- Which scenario the worst slack is from. -/
def worstScenario (r : SlackReport) : String :=
  match r.setup, r.hold with
  | some s, some h =>
    match s.worst, h.worst with
    | some sw, some hw => if hw.lt sw then "hold" else "setup"
    | none, some _ => "hold"
    | _, none => "setup"
  | none, some _ => "hold"
  | _, none => "setup"

def details (r : SlackReport) : String :=
  let total := match r.total with
    | some t => s!", TNS {t.fixed 3} ns"
    | none => ""
  let violations := match r.violations with
    | some n => s!", {n} violating paths"
    | none => ""
  s!"WNS {r.worst.fixed 3} ns ({r.worstScenario})" ++ total ++ violations

end SlackReport

end Signoff
