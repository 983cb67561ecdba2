import Signoff.JobResult
import Signoff.Json.Reader
import Signoff.Json.Writer

/-!
# Result records

A result is kept in one line of five fields, `STATUS|attempts|details|figures|raw`. Inside a field
a backslash stands in front of backslashes and bars, and line ends are `\n` and `\r`. Reading
undoes that; a backslash in front of any other character gives that character.
-/

namespace Signoff.Record

open Signoff.Text

def fieldCount : Nat := 5

def escapeChar (c : Char) : List Char :=
  if c = '\\' then ['\\', '\\']
  else if c = '|' then ['\\', '|']
  else if c = '\n' then ['\\', 'n']
  else if c = '\r' then ['\\', 'r']
  else [c]

def escape (cs : List Char) : List Char := cs.flatMap escapeChar

/-- The character behind a backslash. -/
def unescapeChar (c : Char) : Char :=
  if c = 'n' then '\n' else if c = 'r' then '\r' else c

/-- Adds a character to the first field. -/
def push (c : Char) : List (List Char) → List (List Char)
  | [] => [[c]]
  | field :: rest => (c :: field) :: rest

/-- The fields between bars without a backslash, unescaped. -/
def split : List Char → List (List Char)
  | [] => [[]]
  | '\\' :: [] => [['\\']]
  | '\\' :: c :: cs => push (unescapeChar c) (split cs)
  | c :: cs => if c = '|' then [] :: split cs else push c (split cs)

def fieldsOf (r : JobResult) : List (List Char) :=
  [r.status.name.toList, digitsOf r.attempts.toNat, escape r.details.toList,
    escape r.figures.toJson.writeCompact, escape ((r.raw.map (·.text)).getD "").toList]

def encode (r : JobResult) : String := String.ofList (join ['|'] (fieldsOf r))

def isLineEnd (c : Char) : Bool := c == '\n' || c == '\r'

def dropLineEnds (cs : List Char) : List Char := (cs.reverse.dropWhile isLineEnd).reverse

/-- An empty field stands for no figures. -/
def readFigures? (cs : List Char) : Option Figures :=
  if cs.isEmpty then some .none else (Json.read? (String.ofList cs)).bind (Figures.ofJson? 0)

def decodeFields (fields : List (List Char)) : Except RecordFault JobResult :=
  match fields with
  | [status, attempts, details, figures, raw] =>
    match Status.ofText? (String.ofList status) with
    | none => .error (.unknownStatus (String.ofList status))
    | some status =>
      match readUInt32? attempts with
      | none => .error (.invalidAttempts (String.ofList attempts))
      | some attempts =>
        match readFigures? figures with
        | none => .error .invalidFigures
        | some figures =>
          let raw := if raw.isEmpty then none else some (Path.mk (String.ofList raw))
          .ok ⟨status, String.ofList details, figures, raw, attempts⟩
  | _ => .error (.fieldCount fields.length)

def decode (line : String) : Except RecordFault JobResult :=
  decodeFields (split (dropLineEnds line.toList))

/-- The result in a record file, whose first line counts. -/
def decodeFile (text : String) : Except RecordFault JobResult :=
  decode (String.ofList ((lines text.toList).head?.getD []))

end Signoff.Record
