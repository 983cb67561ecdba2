import Signoff.Status
import Signoff.Text.Lines
import Signoff.Text.Scan

/-!
# Physical verification

Three counts of rule violations, each with a limit of its own: design rules, layout against
schematic, and antenna rules. A count that is not reported is taken as zero for the verdict.
-/

namespace Signoff

open Signoff.Text

structure RuleCounts where
  drc : Option UInt64
  lvs : Option UInt64
  antenna : Option UInt64
deriving DecidableEq, Repr, Inhabited

namespace RuleCounts

def empty : RuleCounts := ⟨none, none, none⟩

def isEmpty (r : RuleCounts) : Bool := r.drc.isNone && r.lvs.isNone && r.antenna.isNone

/-- The rule word and the figure of a line, both as written. -/
def entry? (line : List Char) : Option (List Char × List Char) := do
  let (rule, rest) ← wholeKeyword? ["drc", "lvs", "antenna"] (trimStart line)
  let rest ← afterMark? (rest.dropWhile (!isMark ·))
  match keyword? "clean".toList rest with
  | some (word, _) => return (rule, word)
  | none =>
    let (figure, _) ← run? isFigureChar rest
    return (rule, figure)

/-- `clean` stands for zero. -/
def countOf (figure : List Char) : Option UInt64 :=
  if sameLetters figure "clean".toList then some 0 else readCount? figure

/-- Takes over a count; one that cannot be read leaves its field empty. -/
def set (r : RuleCounts) (entry : List Char × List Char) : RuleCounts :=
  let (rule, figure) := entry
  if sameLetters rule "drc".toList then { r with drc := countOf figure }
  else if sameLetters rule "lvs".toList then { r with lvs := countOf figure }
  else { r with antenna := countOf figure }

/-- The counts of a section body; the last line of a rule counts. -/
def read (body : List Char) : RuleCounts := ((lines body).filterMap entry?).foldl set empty

def drcLimit : UInt64 := 100

def lvsLimit : UInt64 := 5

def antennaLimit : UInt64 := 10

def statusOf (drc lvs antenna : UInt64) : Status :=
  if drc = 0 && lvs = 0 && antenna = 0 then .passed
  else if lvsLimit < lvs || drcLimit < drc || antennaLimit < antenna then .failed
  else .warn

def status (r : RuleCounts) : Status :=
  statusOf (r.drc.getD 0) (r.lvs.getD 0) (r.antenna.getD 0)

/-- The names of the counts that were not reported. -/
def unreported (r : RuleCounts) : List String :=
  ([("DRC", r.drc), ("LVS", r.lvs), ("antenna", r.antenna)].filter (·.2.isNone)).map (·.1)

def details (r : RuleCounts) : String :=
  let missing := String.intercalate ", " r.unreported
  let note := if r.unreported.isEmpty then "" else s!" ({missing} not reported)"
  s!"DRC {r.drc.getD 0}, LVS {r.lvs.getD 0}, antenna {r.antenna.getD 0}" ++ note

end RuleCounts

end Signoff
