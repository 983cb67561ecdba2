import Signoff.Job

/-!
# The unit catalog

A catalog is a table with a release of a unit in each row: unit, chiplet, working folder, RTL tag,
release flags, date and user. Blank lines and comments are passed over, and so is a heading. The
rows of one unit of a chiplet belong together; selecting a release keeps one row of each and
numbers the units in the order in which they appear.
-/

namespace Signoff

open Signoff.Text

namespace Catalog

structure Row where
  name : String
  chiplet : String
  workarea : Path
  rtlTag : Option String
  releaseTypes : List String
  releaseDate : String
  releaseUser : String
deriving DecidableEq, Repr, Inhabited

def requiredFields : List String := ["unit", "chiplet", "workarea"]

def isComment (line : List Char) : Bool := line.isEmpty || line.head? == some '#'

def isHeading (fields : List (List Char)) : Bool :=
  fields.head?.any (sameLetters · "unit".toList)

/-- The first required field that is empty. -/
def emptyField? (fields : List (List Char)) : Option String :=
  (fields.zip requiredFields).findSome? fun (field, name) =>
    if field.isEmpty then some name else none

/-- The flags of a row, divided by semicolons. -/
def readFlags (cs : List Char) : List String :=
  (((splitOn ';' cs).map trim).filter (!·.isEmpty)).map String.ofList

def readRow (line : Nat) (fields : List (List Char)) : Except RowFault Row :=
  if fields.length < requiredFields.length then
    .error (.missingFields line requiredFields.length fields.length)
  else match emptyField? fields with
    | some name => .error (.emptyField line name)
    | none =>
      let field (i : Nat) := fields.getD i []
      .ok {
        name := String.ofList (field 0)
        chiplet := String.ofList (field 1)
        workarea := ⟨String.ofList (field 2)⟩
        rtlTag := if (field 3).isEmpty then none else some (String.ofList (field 3))
        releaseTypes := readFlags (field 4)
        releaseDate := String.ofList (field 5)
        releaseUser := String.ofList (field 6) }

/-- The fields of the lines that are neither blank nor comments, with their line numbers. -/
def dataLines (delimiter : Char) (text : List Char) : List (Nat × List (List Char)) :=
  (lines text).zipIdx.filterMap fun (line, i) =>
    let line := trim line
    -- lines that are passed over count as well
    if isComment line then none else some (i + 1, (splitOn delimiter line).map trim)

def withoutHeading : List (Nat × List (List Char)) → List (Nat × List (List Char))
  | [] => []
  | first :: rest => if isHeading first.2 then rest else first :: rest

def readRows (text : String) (delimiter : Char) : Except RowFault (List Row) :=
  (withoutHeading (dataLines delimiter text.toList)).mapM fun (line, fields) =>
    readRow line fields

/-- The rows of one unit, in the order of the catalog. -/
structure Group where
  first : Row
  others : List Row
deriving DecidableEq, Repr, Inhabited

namespace Group

def rows (g : Group) : List Row := g.first :: g.others

def holds (g : Group) (r : Row) : Bool :=
  g.first.chiplet == r.chiplet && g.first.name == r.name

/-- The row with the requested flag, else the one with the flag `default`, else the first. -/
def choose (g : Group) (requested : Option String) : Row :=
  let flagged (flag : String) := g.rows.find? fun r => hasFlag r.releaseTypes flag
  (requested.bind flagged <|> flagged "default").getD g.first

def lacks (g : Group) (flag : String) : Bool := !g.rows.any fun r => hasFlag r.releaseTypes flag

end Group

/-- Puts a row into the group of its unit, or into a new one at the end. -/
def addRow (r : Row) : List Group → List Group
  | [] => [⟨r, []⟩]
  | g :: rest =>
    if g.holds r then { g with others := g.others ++ [r] } :: rest else g :: addRow r rest

def groups (rows : List Row) : List Group := rows.foldl (fun gs r => addRow r gs) []

def Row.toUnit (r : Row) (index : Nat) : DesignUnit :=
  { index := UInt64.ofNat index
    name := r.name
    chiplet := r.chiplet
    workarea := r.workarea
    rtlTag := r.rtlTag
    releaseTypes := r.releaseTypes
    releaseDate := r.releaseDate
    releaseUser := r.releaseUser }

def selectRelease (rows : List Row) (requested : Option String) : List DesignUnit :=
  (groups rows).zipIdx.map fun (g, i) => (g.choose requested).toUnit i

/-- The units that have no row with the requested flag. -/
def fallbacks (rows : List Row) (requested : Option String) : List String :=
  match requested with
  | none => []
  | some flag => ((groups rows).filter (·.lacks flag)).map (·.first.name)

end Catalog

/-- Which units of a selection to keep; an empty list of chiplets keeps all of them. -/
structure UnitFilter where
  chiplets : List String
  unit : Option String
deriving DecidableEq, Repr, Inhabited

namespace UnitFilter

def ofArguments (chiplets unit : Option String) : UnitFilter :=
  let parts := (splitOn ',' (chiplets.getD "").toList).map fun part => lower (trim part)
  let name := (unit.map fun u => trim u.toList).filter (!·.isEmpty)
  ⟨(parts.filter (!·.isEmpty)).map String.ofList, name.map String.ofList⟩

def keeps (f : UnitFilter) (u : DesignUnit) : Bool :=
  (f.chiplets.isEmpty || hasFlag f.chiplets u.chiplet) &&
    f.unit.all fun name => sameLetters u.name.toList name.toList

def apply (f : UnitFilter) (units : List DesignUnit) : List DesignUnit := units.filter f.keeps

end UnitFilter

end Signoff
