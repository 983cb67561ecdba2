import Signoff.Status
import Signoff.Text.Lines
import Signoff.Text.Scan

/-!
# Gate-level checks

Findings are counted in total, waived and not waived; two of the three figures give the third.
The number of findings that are not waived decides the verdict. The checkers with the most
findings are kept.
-/

namespace Signoff

open Signoff.Text

structure CheckerCount where
  checker : String
  count : UInt64
deriving DecidableEq, Repr, Inhabited

structure FindingCounts where
  total : UInt64
  waived : UInt64
  nonWaived : UInt64
  topCheckers : List CheckerCount
deriving DecidableEq, Repr, Inhabited

/-- What has been read of a section body so far. -/
structure FindingLines where
  total : Option UInt64
  waived : Option UInt64
  nonWaived : Option UInt64
  checkers : List CheckerCount
deriving DecidableEq, Repr, Inhabited

namespace FindingLines

def empty : FindingLines := ⟨none, none, none, []⟩

/-- The figure behind a colon or equal sign. -/
def figureAfterMark? (cs : List Char) : Option (List Char) := do
  let rest ← afterMark? cs
  let (figure, _) ← run? isFigureChar rest
  return figure

def totalFigure? (line : List Char) : Option (List Char) := do
  let (_, rest) ← keyword? "total".toList (trimStart line)
  let behindErrors := (afterBlanks? rest).bind (keyword? "errors".toList)
  figureAfterMark? ((behindErrors.map (·.2)).getD rest)

def waivedFigure? (line : List Char) : Option (List Char) := do
  let (_, rest) ← keyword? "waived".toList (trimStart line)
  figureAfterMark? rest

/-- `non` and `waived` with at most one hyphen, underscore or space between them. -/
def afterNonWaived? (cs : List Char) : Option (List Char) := do
  let (_, rest) ← keyword? "non".toList cs
  let rest := match rest with
    | c :: tail => if c = '-' || c = '_' || c = ' ' then tail else rest
    | [] => rest
  let (_, rest) ← keyword? "waived".toList rest
  return rest

def nonWaivedFigure? (line : List Char) : Option (List Char) := do
  let inner := trimStart line
  let rest ← afterNonWaived? inner <|> (keyword? "unwaived".toList inner).map (·.2)
  figureAfterMark? rest

def isCheckerChar (c : Char) : Bool :=
  c.isAlphanum || c == '_' || c == '.' || c == '/' || c == '-' || c == longS || c == kelvinSign

def checkerEntry? (line : List Char) : Option (List Char × List Char) := do
  let (_, rest) ← keyword? "checker".toList (trimStart line)
  let rest ← afterBlanks? rest
  let (name, rest) ← run? isCheckerChar rest
  let figure ← figureAfterMark? rest
  return (name, figure)

def checker? (line : List Char) : Option CheckerCount := do
  let (name, figure) ← checkerEntry? line
  let count ← readCount? figure
  return ⟨String.ofList name, count⟩

/-- Takes over a line; a figure that cannot be read makes the line count for nothing. -/
def readLine (s : FindingLines) (line : List Char) : FindingLines :=
  -- at most one of the readers takes a figure from a line
  match (nonWaivedFigure? line).bind readCount? with
  | some n => { s with nonWaived := some n }
  | none =>
    match (waivedFigure? line).bind readCount? with
    | some n => { s with waived := some n }
    | none =>
      match (totalFigure? line).bind readCount? with
      | some n => { s with total := some n }
      | none =>
        match checker? line with
        | some c => { s with checkers := s.checkers ++ [c] }
        | none => s

end FindingLines

namespace FindingCounts

/-- More findings come first, then the smaller name. -/
def isAhead (a b : CheckerCount) : Bool :=
  b.count < a.count || (a.count == b.count && decide (a.checker ≤ b.checker))

def keptCheckers : Nat := 5

/-- The counts of a section body, if it has any of the three figures. -/
def read? (body : List Char) : Option FindingCounts :=
  let s := (lines body).foldl FindingLines.readLine FindingLines.empty
  if s.total.isNone && s.waived.isNone && s.nonWaived.isNone then none
  else
    let waived := s.waived.getD 0
    let total := s.total.getD 0
    let nonWaived := s.nonWaived.getD (if waived ≤ total then total - waived else 0)
    some {
      total := s.total.getD (waived + nonWaived)
      waived
      nonWaived
      topCheckers := (s.checkers.mergeSort isAhead).take keptCheckers }

/-- So many findings that are not waived fail. -/
def failLimit : UInt64 := 50

def statusOf (nonWaived : UInt64) : Status :=
  if nonWaived = 0 then .passed
  else if nonWaived < failLimit then .warn
  else .failed

def details (f : FindingCounts) : String :=
  let top := match f.topCheckers with
    | c :: _ => s!", top checker {c.checker} ({c.count})"
    | [] => ""
  s!"{f.nonWaived} non-waived of {f.total} ({f.waived} waived)" ++ top

end FindingCounts

end Signoff
