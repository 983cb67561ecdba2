import Signoff.Json.Reader

/-!
# Settings files

A settings file is a TOML document of `key = value` lines with comments. A value is a text or a
whole number; no setting takes any other kind of value, nor tables or dotted keys, so a document
with one of them is not read.
-/

namespace Signoff.Toml

open Signoff.Text
open Signoff.Json (hexValue? hexUnit?)

inductive Value
  | text (s : List Char)
  | whole (n : Int)
deriving DecidableEq, Repr

def isSpace (c : Char) : Bool := c == ' ' || c == '\t'

def skipSpace (cs : List Char) : List Char := cs.dropWhile isSpace

/-- Tabs and all characters that are no control characters. -/
def isPlain (c : Char) : Bool := c == '\t' || (0x20 ≤ c.toNat && c.toNat != 0x7F)

def afterNewline? : List Char → Option (List Char)
  | '\n' :: rest => some rest
  | '\r' :: '\n' :: rest => some rest
  | _ => none

/-- What follows the rest of a line, in which only a comment may stand. -/
def afterLineEnd? (cs : List Char) : Option (List Char) :=
  let rest := match skipSpace cs with
    | '#' :: comment => comment.dropWhile isPlain
    | more => more
  if rest.isEmpty then some [] else afterNewline? rest

def scalar? (n : Nat) : Option Char :=
  if h : n.isValidChar then some (Char.ofNatAux n h) else none

def simpleEscape? (c : Char) : Option Char :=
  if c = '"' || c = '\\' then some c
  else if c = 'b' then some '\x08'
  else if c = 't' then some '\t'
  else if c = 'n' then some '\n'
  else if c = 'f' then some '\x0c'
  else if c = 'r' then some '\r'
  else none

def shortScalar? (a b c d : Char) : Option Char := hexUnit? a b c d >>= scalar?

def longScalar? (a b c d e f g h : Char) : Option Char := do
  let high ← hexUnit? a b c d
  let low ← hexUnit? e f g h
  scalar? (high * 0x10000 + low)

/-- Puts a character in front of what a reader took. -/
def prepend (c : Char) (taken : Option (List Char × List Char)) : Option (List Char × List Char) :=
  taken.map fun (cs, rest) => (c :: cs, rest)

/-- A text on one line with escapes, behind its opening mark. -/
def readBasic? : List Char → Option (List Char × List Char)
  | [] => none
  | '"' :: rest => some ([], rest)
  | '\\' :: 'u' :: a :: b :: c :: d :: rest =>
    (shortScalar? a b c d).bind fun s => prepend s (readBasic? rest)
  | '\\' :: 'U' :: a :: b :: c :: d :: e :: f :: g :: h :: rest =>
    (longScalar? a b c d e f g h).bind fun s => prepend s (readBasic? rest)
  | '\\' :: e :: rest => (simpleEscape? e).bind fun s => prepend s (readBasic? rest)
  | c :: rest => if isPlain c && c != '\\' then prepend c (readBasic? rest) else none

/-- Whether only spaces are left on the line. -/
def endsLine (cs : List Char) : Bool := (afterNewline? (skipSpace cs)).isSome

/-- A text of several lines with escapes, behind its opening marks. A backslash at the end of a
line takes away the line end and the blanks after it, which `trimming` stands for. Up to two marks
may stand in front of the closing ones. -/
def readMultiBasic? (trimming : Bool) : List Char → Option (List Char × List Char)
  | [] => none
  | '"' :: '"' :: '"' :: '"' :: '"' :: rest => some (['"', '"'], rest)
  | '"' :: '"' :: '"' :: '"' :: rest => some (['"'], rest)
  | '"' :: '"' :: '"' :: rest => some ([], rest)
  | '\\' :: 'u' :: a :: b :: c :: d :: rest =>
    (shortScalar? a b c d).bind fun s => prepend s (readMultiBasic? false rest)
  | '\\' :: 'U' :: a :: b :: c :: d :: e :: f :: g :: h :: rest =>
    (longScalar? a b c d e f g h).bind fun s => prepend s (readMultiBasic? false rest)
  | '\\' :: e :: rest =>
    if endsLine (e :: rest) then readMultiBasic? true (e :: rest)
    else (simpleEscape? e).bind fun s => prepend s (readMultiBasic? false rest)
  | '\r' :: '\n' :: rest =>
    if trimming then readMultiBasic? true rest else prepend '\n' (readMultiBasic? false rest)
  | c :: rest =>
    if c = '\n' || isSpace c then
      if trimming then readMultiBasic? true rest else prepend c (readMultiBasic? false rest)
    else if isPlain c && c != '\\' then prepend c (readMultiBasic? false rest)
    else none

/-- A text on one line as it stands, behind its opening mark. -/
def readLiteral? : List Char → Option (List Char × List Char)
  | [] => none
  | c :: rest =>
    if c = '\'' then some ([], rest)
    else if isPlain c then prepend c (readLiteral? rest)
    else none

/-- A text of several lines as it stands, behind its opening marks. -/
def readMultiLiteral? : List Char → Option (List Char × List Char)
  | [] => none
  | '\'' :: '\'' :: '\'' :: '\'' :: '\'' :: rest => some (['\'', '\''], rest)
  | '\'' :: '\'' :: '\'' :: '\'' :: rest => some (['\''], rest)
  | '\'' :: '\'' :: '\'' :: rest => some ([], rest)
  | '\r' :: '\n' :: rest => prepend '\n' (readMultiLiteral? rest)
  | c :: rest =>
    if c = '\n' || isPlain c then prepend c (readMultiLiteral? rest) else none

/-- A line end right behind the opening marks does not belong to the text. -/
def dropFirstNewline (cs : List Char) : List Char := (afterNewline? cs).getD cs

def readText? (cs : List Char) : Option (List Char × List Char) :=
  match cs with
  | '"' :: '"' :: '"' :: rest => readMultiBasic? false (dropFirstNewline rest)
  | '\'' :: '\'' :: '\'' :: rest => readMultiLiteral? (dropFirstNewline rest)
  | '"' :: rest => readBasic? rest
  | '\'' :: rest => readLiteral? rest
  | _ => none

/-- Digits with single underscores between them, as their values. -/
def readSpaced? (digit? : Char → Option Nat) : List Char → Option (List Nat × List Char)
  | [] => none
  | c :: '_' :: more =>
    (digit? c).bind fun d => (readSpaced? digit? more).map fun (ds, tail) => (d :: ds, tail)
  | c :: rest =>
    (digit? c).map fun d =>
      match readSpaced? digit? rest with
      | some (ds, tail) => (d :: ds, tail)
      | none => ([d], rest)

def digitBelow? (base : Nat) (c : Char) : Option Nat := (hexValue? c).filter (· < base)

def ofBase (base : Nat) (digits : List Nat) : Nat := digits.foldl (fun n d => base * n + d) 0

/-- A number with a base mark; the number has no sign. -/
def readMarked? (base : Nat) (cs : List Char) : Option (Int × List Char) :=
  (readSpaced? (digitBelow? base) cs).map fun (ds, rest) => ((ofBase base ds : Int), rest)

/-- A number without needless zeros in front. -/
def readUnmarked? (cs : List Char) : Option (Int × List Char) :=
  match readSpaced? (digitBelow? 10) cs with
  | some (0 :: _ :: _, _) => none
  | some (ds, rest) => some ((ofBase 10 ds : Int), rest)
  | none => none

def readWhole? (cs : List Char) : Option (Int × List Char) :=
  match cs with
  | '0' :: 'x' :: rest => readMarked? 16 rest
  | '0' :: 'o' :: rest => readMarked? 8 rest
  | '0' :: 'b' :: rest => readMarked? 2 rest
  | '-' :: rest => (readUnmarked? rest).map fun (n, tail) => (-n, tail)
  | '+' :: rest => readUnmarked? rest
  | _ => readUnmarked? cs

/-- Whole numbers have 64 bits with a sign. -/
def fits (n : Int) : Bool := -0x8000000000000000 ≤ n && n ≤ 0x7FFFFFFFFFFFFFFF

def readValue? (cs : List Char) : Option (Value × List Char) :=
  match cs with
  | c :: _ =>
    if c = '"' || c = '\'' then (readText? cs).map fun (s, rest) => (.text s, rest)
    else match readWhole? cs with
      | some (n, rest) => if fits n then some (.whole n, rest) else none
      | none => none
  | [] => none

def isBareKeyChar (c : Char) : Bool := c.isAlphanum || c == '_' || c == '-'

def readKey? (cs : List Char) : Option (List Char × List Char) :=
  match cs with
  | '"' :: rest => readBasic? rest
  | '\'' :: rest => readLiteral? rest
  | _ =>
    let key := cs.takeWhile isBareKeyChar
    if key.isEmpty then none else some (key, cs.dropWhile isBareKeyChar)

/-- A key, an equal sign and a value, up to the end of the line. -/
def readEntry? (cs : List Char) : Option ((List Char × Value) × List Char) := do
  let (key, rest) ← readKey? cs
  match skipSpace rest with
  | '=' :: rest =>
    let (value, rest) ← readValue? (skipSpace rest)
    let rest ← afterLineEnd? rest
    return ((key, value), rest)
  | _ => none

/-- The entries of a document, line by line; each line takes fuel. -/
def readEntries? : Nat → List Char → Option (List (List Char × Value))
  | 0, _ => none
  | fuel + 1, cs =>
    match skipSpace cs with
    | [] => some []
    | inner =>
      match afterLineEnd? inner with
      | some rest => readEntries? fuel rest
      | none => do
        let (entry, rest) ← readEntry? inner
        let entries ← readEntries? fuel rest
        return entry :: entries

/-- A mark of the byte order may stand in front of a document. -/
def read? (text : String) : Option (List (List Char × Value)) :=
  let cs := match text.toList with
    | '\uFEFF' :: rest => rest
    | cs => cs
  readEntries? (cs.length + 1) cs

end Signoff.Toml
