import Signoff.Analysis.Timing

/-!
# Clock trees

Each clock has an insertion latency and perhaps a skew, in picoseconds. The clock with the highest
latency decides the verdict, the last one of several.
-/

namespace Signoff

open Signoff.Text Signoff.Number

structure ClockTree where
  name : String
  latency : Binary64
  skew : Option Binary64
deriving DecidableEq, Repr, Inhabited

/-- The clocks in the order of the lines, and the worst of them. -/
structure ClockReport where
  clocks : List ClockTree
  worstLatency : Binary64
  worstClock : String
deriving DecidableEq, Repr, Inhabited

namespace ClockTree

def isNameChar (c : Char) : Bool :=
  c.isAlphanum || c == '_' || c == '.' || c == '/' || c == '[' || c == ']' || c == '-' ||
    c == longS || c == kelvinSign

def readName? (line : List Char) : Option (List Char) := do
  let (_, rest) ← keyword? "clock".toList (trimStart line)
  let (name, _) ← run? isNameChar (skipMark rest)
  return name

/-- A sign, digits and a fraction. -/
def figure? (cs : List Char) : Option (List Char × List Char) := do
  let (sign, rest) := Slack.sign cs
  let (digits, rest) ← run? isDecimalDigit rest
  let (fraction, rest) := Slack.fraction rest
  return (sign ++ digits ++ fraction, rest)

/-- A figure behind its name, and the unit behind the figure if there is one. -/
def quantity? (name : String) (before : Option Char) (cs : List Char) :
    Option (List Char × Option (List Char)) :=
  if isBoundary before cs.head? then do
    let (_, rest) ← keyword? name.toList cs
    let rest ← afterMark? rest
    let (figure, rest) ← figure? rest
    let unit := firstKeyword? ["ps".toList, "ns".toList] (trimStart rest)
    return (figure, unit.map (·.1))
  else none

/-- A figure in picoseconds: nanoseconds are scaled, every other unit is taken as it is. -/
def inPicoseconds? (quantity : List Char × Option (List Char)) : Option Binary64 := do
  let value ← readReal? quantity.1
  match quantity.2 with
  | some unit =>
    if sameLetters unit "ns".toList then return value.mul (Binary64.ofNat 1000) else return value
  | none => return value

/-- The first quantity of that name on the line. -/
def find? (name : String) (line : List Char) : Option Binary64 :=
  (firstFrom? (quantity? name) none line).bind inPicoseconds?

/-- A line with a clock name and a latency. -/
def readLine? (line : List Char) : Option ClockTree := do
  let name ← readName? line
  let latency ← find? "latency" line
  return ⟨String.ofList name, latency, find? "skew" line⟩

def readAll (body : List Char) : List ClockTree := (lines body).filterMap readLine?

/-- The last clock with the highest latency. -/
def worst? (clocks : List ClockTree) : Option ClockTree :=
  clocks.foldl (fun best c =>
    match best with
    | none => some c
    | some b => if b.latency.rank ≤ c.latency.rank then some c else some b) none

end ClockTree

namespace ClockReport

def passLimit : Binary64 := Binary64.ofNat 550

def failLimit : Binary64 := Binary64.ofNat 580

def statusOf (latency : Binary64) : Status :=
  if latency.le passLimit then .passed
  else if latency.lt failLimit then .warn
  else .failed

def ofClocks? (clocks : List ClockTree) : Option ClockReport :=
  (ClockTree.worst? clocks).map fun worst => ⟨clocks, worst.latency, worst.name⟩

def details (r : ClockReport) : String :=
  let count := r.clocks.length
  let plural := if count = 1 then "" else "s"
  s!"max latency {r.worstLatency.fixed 1} ps on {r.worstClock} ({count} clock{plural})"

end ClockReport

end Signoff
