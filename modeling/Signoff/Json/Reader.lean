import Signoff.Json.Basic

/-!
# Reading JSON

A document is one value with blanks around it. The reader goes down into arrays and objects with
a fuel that the length of the document bounds.
-/

namespace Signoff.Json

open Signoff.Text Signoff.Number

def isSpace (c : Char) : Bool := c == ' ' || c == '\n' || c == '\t' || c == '\r'

def skipSpace (cs : List Char) : List Char := cs.dropWhile isSpace

def hexValue? (c : Char) : Option Nat :=
  if c.isDigit then some (c.toNat - '0'.toNat)
  else if 'a' ≤ c && c ≤ 'f' then some (c.toNat - 'a'.toNat + 10)
  else if 'A' ≤ c && c ≤ 'F' then some (c.toNat - 'A'.toNat + 10)
  else none

def hexUnit? (a b c d : Char) : Option Nat := do
  let a ← hexValue? a
  let b ← hexValue? b
  let c ← hexValue? c
  let d ← hexValue? d
  return ((a * 16 + b) * 16 + c) * 16 + d

/-- The character that a one-letter escape stands for. -/
def simpleEscape? (c : Char) : Option Char :=
  if c = '"' || c = '\\' || c = '/' then some c
  else if c = 'b' then some '\x08'
  else if c = 'f' then some '\x0c'
  else if c = 'n' then some '\n'
  else if c = 'r' then some '\r'
  else if c = 't' then some '\t'
  else none

/-- The code units of a text up to its closing mark, and what follows the mark. -/
def readUnits : List Char → Option (List Nat × List Char)
  | [] => none
  | '"' :: rest => some ([], rest)
  | '\\' :: 'u' :: a :: b :: c :: d :: rest => do
    let unit ← hexUnit? a b c d
    let (units, tail) ← readUnits rest
    return (unit :: units, tail)
  | '\\' :: e :: rest => do
    let c ← simpleEscape? e
    let (units, tail) ← readUnits rest
    return (c.toNat :: units, tail)
  | c :: rest =>
    if c = '\\' || c.toNat < 0x20 then none
    else (readUnits rest).map fun (units, tail) => (c.toNat :: units, tail)

def isHighHalf (n : Nat) : Bool := 0xD800 ≤ n && n ≤ 0xDBFF

def isLowHalf (n : Nat) : Bool := 0xDC00 ≤ n && n ≤ 0xDFFF

/-- The characters of a sequence of units in which every surrogate has its other half. -/
def joinHalves : List Nat → Option (List Char)
  | [] => some []
  | [n] => if isHighHalf n || isLowHalf n then none else some [Char.ofNat n]
  | n :: m :: rest =>
    if isHighHalf n then
      if isLowHalf m then
        (joinHalves rest).map (Char.ofNat (0x10000 + (n - 0xD800) * 0x400 + (m - 0xDC00)) :: ·)
      else none
    else if isLowHalf n then none
    else (joinHalves (m :: rest)).map (Char.ofNat n :: ·)

/-- A text after its opening mark. One with a lone half of a surrogate pair has no characters. -/
def readText? (cs : List Char) : Option (Option String × List Char) :=
  (readUnits cs).map fun (units, rest) => ((joinHalves units).map String.ofList, rest)

/-- The whole part: a zero alone, or digits that do not start with zero. -/
def readWhole? (cs : List Char) : Option (List Char × List Char) :=
  let digits := cs.takeWhile Char.isDigit
  match digits with
  | [] => none
  | '0' :: _ :: _ => none
  | _ => some (digits, cs.dropWhile Char.isDigit)

/-- A point needs digits behind it. -/
def readFraction? (cs : List Char) : Option (List Char × List Char) :=
  match cs with
  | '.' :: rest =>
    let digits := rest.takeWhile Char.isDigit
    if digits.isEmpty then none else some (digits, rest.dropWhile Char.isDigit)
  | _ => some ([], cs)

/-- An exponent mark needs digits behind it. -/
def readPower? (cs : List Char) : Option (Option Int × List Char) :=
  match cs with
  | c :: rest =>
    if c = 'e' || c = 'E' then
      let (negative, more) := readSign rest
      let digits := more.takeWhile Char.isDigit
      if digits.isEmpty then none
      else
        let n : Int := ofDigits digits
        some (some (if negative then -n else n), more.dropWhile Char.isDigit)
    else some (none, cs)
  | [] => some (none, cs)

def readNumeral? (cs : List Char) : Option (Numeral × List Char) := do
  let (negative, rest) := match cs with
    | '-' :: rest => (true, rest)
    | _ => (false, cs)
  let (whole, rest) ← readWhole? rest
  let (fraction, rest) ← readFraction? rest
  let (exponent, rest) ← readPower? rest
  return (⟨negative, whole, fraction, exponent⟩, rest)

/-- What follows a literal word at the front of the text. -/
def afterLiteral? : List Char → List Char → Option (List Char)
  | [], cs => some cs
  | _ :: _, [] => none
  | w :: ws, c :: cs => if w = c then afterLiteral? ws cs else none

def readLiteral? (word : String) (value : Json) (cs : List Char) : Option (Json × List Char) :=
  (afterLiteral? word.toList cs).map fun rest => (value, rest)

mutual

def readValue? (fuel : Nat) (cs : List Char) : Option (Json × List Char) :=
  match fuel with
  | 0 => none
  | fuel + 1 =>
    let cs := skipSpace cs
    match cs with
    | [] => none
    | '\x7b' :: rest =>
      match skipSpace rest with
      | '\x7d' :: tail => some (.object [], tail)
      | more => (readMembers? fuel more).map fun (members, tail) => (.object members, tail)
    | '[' :: rest =>
      match skipSpace rest with
      | ']' :: tail => some (.array [], tail)
      | more => (readItems? fuel more).map fun (items, tail) => (.array items, tail)
    | '"' :: rest => (readText? rest).map fun (s, tail) => (.text s, tail)
    | 'n' :: _ => readLiteral? "null" .null cs
    | 't' :: _ => readLiteral? "true" (.bool true) cs
    | 'f' :: _ => readLiteral? "false" (.bool false) cs
    | _ => (readNumeral? cs).map fun (n, tail) => (.number n, tail)

def readItems? (fuel : Nat) (cs : List Char) : Option (List Json × List Char) :=
  match fuel with
  | 0 => none
  | fuel + 1 => do
    let (item, rest) ← readValue? fuel cs
    match skipSpace rest with
    | ']' :: tail => return ([item], tail)
    | ',' :: more =>
      let (items, tail) ← readItems? fuel more
      return (item :: items, tail)
    | _ => none

def readMembers? (fuel : Nat) (cs : List Char) :
    Option (List (Option String × Json) × List Char) :=
  match fuel with
  | 0 => none
  | fuel + 1 =>
    match skipSpace cs with
    | '"' :: rest => do
      let (key, rest) ← readText? rest
      match skipSpace rest with
      | ':' :: rest =>
        let (value, rest) ← readValue? fuel rest
        match skipSpace rest with
        | '\x7d' :: tail => return ([(key, value)], tail)
        | ',' :: more =>
          let (members, tail) ← readMembers? fuel more
          return ((key, value) :: members, tail)
        | _ => none
      | _ => none
    | _ => none

end

/-- The value of a document. -/
def read? (s : String) : Option Json :=
  let cs := s.toList
  match readValue? (cs.length + 1) cs with
  | some (j, rest) => if (skipSpace rest).isEmpty then some j else none
  | none => none

end Signoff.Json
