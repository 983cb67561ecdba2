import Signoff.Json.Basic
import Signoff.Text.Lines
import Signoff.Text.Quoted

/-!
# Writing JSON

The compact form has no blanks. The pretty form puts each item and member on a line of its own,
two blanks deeper than what holds it, and an empty array or object on one line.
-/

namespace Signoff.Json

open Signoff.Text

/-- A control character as four hexadecimal digits. -/
def controlEscape (c : Char) : List Char :=
  let digits := hexDigits c.toNat
  ['\\', 'u'] ++ List.replicate (4 - digits.length) '0' ++ digits

def escapeChar (c : Char) : List Char :=
  if c = '"' then ['\\', '"']
  else if c = '\\' then ['\\', '\\']
  else if c = '\x08' then ['\\', 'b']
  else if c = '\x0c' then ['\\', 'f']
  else if c = '\n' then ['\\', 'n']
  else if c = '\r' then ['\\', 'r']
  else if c = '\t' then ['\\', 't']
  else if c.toNat < 0x20 then controlEscape c
  else [c]

def quoteText (s : String) : List Char := '"' :: s.toList.flatMap escapeChar ++ ['"']

def writeText (s : Option String) : List Char := quoteText (s.getD "")

mutual

def writeCompact : Json → List Char
  | .null => "null".toList
  | .bool true => "true".toList
  | .bool false => "false".toList
  | .number n => n.write
  | .text s => writeText s
  | .array items => '[' :: join [','] (compactItems items) ++ [']']
  | .object members => '\x7b' :: join [','] (compactMembers members) ++ ['\x7d']

def compactItems : List Json → List (List Char)
  | [] => []
  | j :: rest => writeCompact j :: compactItems rest

def compactMembers : List (Option String × Json) → List (List Char)
  | [] => []
  | (key, j) :: rest => (writeText key ++ ':' :: writeCompact j) :: compactMembers rest

end

def newLine (depth : Nat) : List Char := '\n' :: List.replicate (2 * depth) ' '

/-- The pieces between two marks, each on a line at `depth + 1`. -/
def block (opening closing : Char) (depth : Nat) (pieces : List (List Char)) : List Char :=
  if pieces.isEmpty then [opening, closing]
  else
    opening :: newLine (depth + 1) ++ join (',' :: newLine (depth + 1)) pieces ++
      newLine depth ++ [closing]

mutual

def writePretty (depth : Nat) : Json → List Char
  | .null => "null".toList
  | .bool true => "true".toList
  | .bool false => "false".toList
  | .number n => n.write
  | .text s => writeText s
  | .array items => block '[' ']' depth (prettyItems (depth + 1) items)
  | .object members => block '\x7b' '\x7d' depth (prettyMembers (depth + 1) members)

def prettyItems (depth : Nat) : List Json → List (List Char)
  | [] => []
  | j :: rest => writePretty depth j :: prettyItems depth rest

def prettyMembers (depth : Nat) : List (Option String × Json) → List (List Char)
  | [] => []
  | (key, j) :: rest =>
    (writeText key ++ [':', ' '] ++ writePretty depth j) :: prettyMembers depth rest

end

def compact (j : Json) : String := String.ofList j.writeCompact

def pretty (j : Json) : String := String.ofList (writePretty 0 j)

end Signoff.Json
