import Signoff.Status
import Signoff.Text.Lines
import Signoff.Text.Scan

/-!
# Formal equivalence

The tool reports up to four flows, each with a state: two primary flows against the placed and
routed netlist, two secondary ones against the synthesized netlist. The states decide the verdict
by a fixed priority: a crash anywhere, a primary failure, a running flow, an unresolved flow, and
then how many primary flows passed.
-/

namespace Signoff

open Signoff.Text

inductive Flow
  | rtlVsPnr
  | rtlVsPnrBbox
  | rtlVsSyn
  | rtlVsSynBbox
deriving DecidableEq, Repr, Inhabited

namespace Flow

def all : List Flow := [rtlVsPnr, rtlVsPnrBbox, rtlVsSyn, rtlVsSynBbox]

def rank : Flow → Nat
  | rtlVsPnr => 0
  | rtlVsPnrBbox => 1
  | rtlVsSyn => 2
  | rtlVsSynBbox => 3

def name : Flow → String
  | rtlVsPnr => "rtl_vs_pnr"
  | rtlVsPnrBbox => "rtl_vs_pnr_bbox"
  | rtlVsSyn => "rtl_vs_syn"
  | rtlVsSynBbox => "rtl_vs_syn_bbox"

/-- The tool's short form of the name. -/
def shortName : Flow → String
  | rtlVsPnr => "rtl2pnr"
  | rtlVsPnrBbox => "rtl2pnr_bbox"
  | rtlVsSyn => "rtl2syn"
  | rtlVsSynBbox => "rtl2syn_bbox"

/-- Whether the flow compares against the placed and routed netlist. -/
def isPrimary : Flow → Bool
  | rtlVsPnr => true
  | rtlVsPnrBbox => true
  | _ => false

def ofName? (s : String) : Option Flow := all.find? (·.name == s)

def ofChars? (cs : List Char) : Option Flow :=
  let word := String.ofList (lower cs)
  all.find? fun flow => flow.name == word || flow.shortName == word

end Flow

inductive FlowState
  | passed
  | failed
  | unresolved
  | running
  | crashed
deriving DecidableEq, Repr, Inhabited

namespace FlowState

def all : List FlowState := [passed, failed, unresolved, running, crashed]

def name : FlowState → String
  | passed => "PASSED"
  | failed => "FAILED"
  | unresolved => "UNRESOLVED"
  | running => "RUNNING"
  | crashed => "CRASHED"

/-- The words for a state, in upper case and with underscores. -/
def words : FlowState → List String
  | passed => ["PASSED", "PASS", "SUCCEEDED", "SUCCESS", "EQUIVALENT"]
  | failed => ["FAILED", "FAIL", "NON_EQUIVALENT", "NONEQUIVALENT"]
  | unresolved => ["UNRESOLVED", "INCONCLUSIVE", "ABORTED"]
  | running => ["RUNNING", "IN_PROGRESS"]
  | crashed => ["CRASHED", "CRASH"]

def ofName? (s : String) : Option FlowState := all.find? (·.name == s)

def ofChars? (cs : List Char) : Option FlowState :=
  let word := String.ofList (replaceChar '-' '_' (replaceChar ' ' '_' (upper (trim cs))))
  all.find? fun state => state.words.contains word

end FlowState

/-- What the tool reports of one flow. -/
structure FlowResult where
  flow : Flow
  state : FlowState
  failingPoints : Option UInt64
deriving DecidableEq, Repr, Inhabited

/-- The flows that were reported. -/
structure FlowReport where
  flows : List FlowResult
deriving DecidableEq, Repr, Inhabited

namespace FlowReport

/-- The front part of a text up to a parenthesis. -/
def beforeParenthesis (cs : List Char) : List Char := cs.takeWhile (· != '(')

def firstWord (cs : List Char) : List Char := (trimStart cs).takeWhile (!isBlank ·)

/-- The state that a verdict text starts with: all of it up to a parenthesis, or its first word.
What follows is annotation. -/
def readState? (cs : List Char) : Option FlowState :=
  let head := beforeParenthesis cs
  FlowState.ofChars? head <|> FlowState.ofChars? (firstWord head)

/-- The word `failing` or its like, and `points` behind it. -/
def afterPointsWords? (cs : List Char) : Option (List Char) := do
  let (_, rest) ←
    firstKeyword? (["failing", "non-equivalent", "nonequivalent"].map String.toList) cs
  let rest ← afterBlanks? rest
  let (_, rest) ← keyword? "points".toList rest
  return rest

/-- A figure starts with a digit. -/
def readFigure? (cs : List Char) : Option (List Char × List Char) :=
  if cs.head?.any isDecimalDigit then run? isFigureChar cs else none

/-- A figure in front of the words for points, or behind them with a mark between. -/
def readPoints? (_ : Option Char) (cs : List Char) : Option (List Char) :=
  match readFigure? cs with
  | some (figure, rest) => do
    let rest ← afterBlanks? rest
    let _ ← afterPointsWords? rest
    return figure
  | none => do
    let rest ← afterPointsWords? cs
    let rest ← afterMark? rest
    let (figure, _) ← readFigure? rest
    return figure

def isFlowChar (c : Char) : Bool :=
  c.isAlphanum || c == '_' || c == longS || c == kelvinSign

/-- A flow name up to a colon, and the verdict behind it. -/
def splitFlowLine? (cs : List Char) : Option (List Char × List Char) := do
  let (name, rest) ← run? isFlowChar cs
  match trimStart rest with
  | ':' :: verdict => return (name, trim verdict)
  | _ => none

/-- A line with a flow and its verdict; the word `flow` may stand in front. -/
def readLine? (line : List Char) : Option FlowResult := do
  let inner := trimStart line
  let behindWord := (keyword? "flow".toList inner).bind fun (_, rest) => afterBlanks? rest
  let (name, verdict) ← behindWord.bind splitFlowLine? <|> splitFlowLine? inner
  let flow ← Flow.ofChars? name
  let state ← readState? verdict
  return ⟨flow, state, (firstFrom? readPoints? none verdict).bind readCount?⟩

/-- Puts a result in the place of its flow, instead of an earlier one. -/
def place (r : FlowResult) : List FlowResult → List FlowResult
  | [] => [r]
  | s :: rest =>
    if r.flow = s.flow then r :: rest
    else if r.flow.rank < s.flow.rank then r :: s :: rest
    else s :: place r rest

/-- The flows of a section body; the last line of a flow counts. -/
def read (body : List Char) : FlowReport :=
  ⟨((lines body).filterMap readLine?).foldl (fun flows r => place r flows) []⟩

/-- The first reported flow in a state. -/
def withState? (report : FlowReport) (state : FlowState) : Option FlowResult :=
  report.flows.find? (·.state == state)

def primaryFailure? (report : FlowReport) : Option FlowResult :=
  report.flows.find? fun r => r.state == .failed && r.flow.isPrimary

def stateOf? (report : FlowReport) (flow : Flow) : Option FlowState :=
  (report.flows.find? (·.flow == flow)).map (·.state)

def failureText (r : FlowResult) : String :=
  match r.failingPoints with
  | some points => s!"{r.flow.name} failed ({points} failing points)"
  | none => s!"{r.flow.name} failed"

def passedPrimaries (report : FlowReport) : List Flow :=
  [Flow.rtlVsPnr, Flow.rtlVsPnrBbox].filter fun flow => report.stateOf? flow == some .passed

def primaryVerdict (report : FlowReport) : Status × String :=
  match report.passedPrimaries, report.withState? .failed with
  | [_, _], none => (.passed, "both primary flows passed")
  | [_, _], some r => (.partialPass, "primary flows passed, " ++ failureText r)
  | [flow], _ => (.partialPass, s!"only {flow.name} passed")
  | _, some r => (.failed, failureText r)
  | _, none => (.unknown, "no primary flow verdict")

/-- The verdict on the reported flows, with its explanation. -/
def verdict (report : FlowReport) : Status × String :=
  match report.withState? .crashed with
  | some r => (.crashed, s!"{r.flow.name} crashed")
  | none =>
    -- a secondary failure waits until no flow is running or unresolved
    match report.primaryFailure? with
    | some r => (.failed, failureText r)
    | none =>
      match report.withState? .running with
      | some r => (.running, s!"{r.flow.name} still running")
      | none =>
        match report.withState? .unresolved with
        | some r => (.unresolved, s!"{r.flow.name} unresolved")
        | none => report.primaryVerdict

end FlowReport

end Signoff
