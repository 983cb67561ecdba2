import Signoff.Number.Significant
import Signoff.Shell.Arithmetic

/-!
# Formatted output

Escapes in text to print, and formats with places for arguments. A format is used again while
arguments are left; a missing argument is an empty text or zero. What is wrong with an argument is
said, and the output goes on; a place of an unknown kind ends it.
-/

namespace Signoff.Shell.Format

open Signoff.Number

def isOctal (c : Char) : Bool := '0' ≤ c && c ≤ '7'

def octalChar (digits : Octets) : Char :=
  Char.ofNat (digits.foldl (fun n c => 8 * n + digitValue c) 0 % 256)

/-- The character of a one-letter escape. -/
def simpleEscape? (c : Char) : Option Char :=
  match c with
  | 'a' => some '\x07'
  | 'b' => some '\x08'
  | 'e' => some '\x1b'
  | 'f' => some '\x0c'
  | 'n' => some '\n'
  | 'r' => some '\r'
  | 't' => some '\t'
  | 'v' => some '\x0b'
  | '\\' => some '\\'
  | _ => none

/-- Up to a count of octal digits, and the rest. -/
def takeOctal (most : Nat) (cs : Octets) : Octets × Octets :=
  let digits := (cs.take most).takeWhile isOctal
  (digits, cs.drop digits.length)

/-- What an escape stands for: text and the rest, or the end of all output. -/
inductive Escape
  | text (cs rest : Octets)
  | stop

/-- The escape behind a backslash. In an argument octal digits stand behind a zero. -/
def readEscape (inArgument : Bool) (cs : Octets) : Escape :=
  match cs with
  | [] => .text ['\\'] []
  | c :: rest =>
    if c = 'c' && inArgument then .stop
    else if c = '0' && inArgument then
      let (digits, tail) := takeOctal 3 rest
      .text [octalChar digits] tail
    else if isOctal c then
      let (digits, tail) := takeOctal 3 cs
      .text [octalChar digits] tail
    else match simpleEscape? c with
      | some b => .text [b] rest
      | none => .text ['\\', c] rest

/-- A text with its escapes, and whether output goes on behind it. -/
def unescape : Nat → Octets → Octets × Bool
  | 0, _ => ([], true)
  | _, [] => ([], true)
  | fuel + 1, c :: cs =>
    if c = '\\' then
      match readEscape true cs with
      | .stop => ([], false)
      | .text these rest =>
        let (more, goesOn) := unescape fuel rest
        (these ++ more, goesOn)
    else
      let (more, goesOn) := unescape fuel cs
      (c :: more, goesOn)

def unescapeAll (cs : Octets) : Octets × Bool := unescape (cs.length + 1) cs

/-- What stands between a percent sign and the letter. -/
structure Field where
  flags : Octets
  width : Nat
  precision : Option Nat

namespace Field

def left (f : Field) : Bool := f.flags.contains '-'

def pad (f : Field) (zeros : Bool) (cs : Octets) : Octets :=
  let missing := f.width - cs.length
  if f.left then cs ++ List.replicate missing ' '
  else if zeros && f.flags.contains '0' then
    match cs with
    | '0' :: x :: digits =>
      if x = 'x' || x = 'X' then '0' :: x :: List.replicate missing '0' ++ digits
      else List.replicate missing '0' ++ cs
    | sign :: digits =>
      if ['-', '+', ' '].contains sign then sign :: List.replicate missing '0' ++ digits
      else List.replicate missing '0' ++ cs
    | [] => List.replicate missing '0'
  else List.replicate missing ' ' ++ cs

def sign (f : Field) (negative : Bool) : Octets :=
  if negative then ['-'] else if f.flags.contains '+' then ['+']
  else if f.flags.contains ' ' then [' '] else []

/-- At least as many digits as the precision says. -/
def digits (f : Field) (ds : Octets) : Octets :=
  match f.precision with
  | some n => if n = 0 && ds == ['0'] then [] else List.replicate (n - ds.length) '0' ++ ds
  | none => ds

def signed (f : Field) (n : Int) : Octets :=
  f.pad f.precision.isNone (f.sign (n < 0) ++ f.digits (Nat.toDigits 10 n.natAbs))

/-- Digits in a base, with a mark of the base if a flag asks for it. -/
def inBase (f : Field) (letter : Char) (n : Nat) : Octets :=
  let base := if letter = 'o' then 8 else if letter = 'u' then 10 else 16
  let ds := f.digits (Nat.toDigits base n)
  let ds := if letter = 'X' then ds.map Char.toUpper else ds
  let mark := if !f.flags.contains '#' || n = 0 then []
    else if letter = 'o' then ['0']
    else if letter = 'u' then [] else ['0', letter]
  f.pad f.precision.isNone (mark ++ ds)

/-- A real number with places, with an exponent, or in the general form. -/
def real (f : Field) (letter : Char) (x : Binary64) : Octets :=
  let places := f.precision.getD 6
  let upper := letter.isUpper
  let text :=
    if x.isNaN then "nan".toList
    else if !x.isFinite then "inf".toList
    else match letter.toLower with
      | 'e' => x.scientificDigits places
      | 'g' => x.generalDigits places (f.flags.contains '#')
      | _ => x.fixedDigits places
  let text := if upper then text.map Char.toUpper else text
  f.pad x.isFinite (f.sign x.negative ++ text)

def text (f : Field) (cs : Octets) : Octets :=
  f.pad false (match f.precision with
    | some n => cs.take n
    | none => cs)

end Field

/-- A number that an argument spells, and what is wrong with the argument. -/
structure Taken (α : Type) where
  value : α
  complaint : Option String

/-- What is wrong with an argument of which some characters were used. -/
def leftover (text rest : Octets) : Option String :=
  if rest.isEmpty then none
  else if rest.length = text.length then some s!"{textOf text}: expected numeric value"
  else some s!"{textOf text}: not completely converted"

/-- A whole number: decimal, octal or hexadecimal, or the code of a character behind a quotation
mark. -/
def wholeOf (signs : Bool) (text : Octets) : Taken Int :=
  match text with
  | '\'' :: cs => ⟨((cs.head?.map Char.toNat).getD 0 : Nat), none⟩
  | '"' :: cs => ⟨((cs.head?.map Char.toNat).getD 0 : Nat), none⟩
  | _ =>
    let cs := text.dropWhile isBlankOctet
    let (negative, digits) := match cs with
      | '-' :: rest => (true, rest)
      | '+' :: rest => (false, rest)
      | _ => (false, cs)
    if digits.head?.any Char.isDigit then
      let (n, rest) := Arithmetic.readNumber digits
      let n : Int := if negative then -(n : Int) else n
      let most : Int := if signs then (Arithmetic.limit : Int) else 2 * (Arithmetic.limit : Int)
      let least : Int := if signs then -(Arithmetic.limit : Int) else 1 - most
      if n < least || most ≤ n then
        ⟨if signs then Arithmetic.clamp n else most - 1,
          (leftover text rest) <|> some s!"{textOf text}: Numerical result out of range"⟩
      else ⟨n, leftover text rest⟩
    else ⟨0, leftover text (if text.isEmpty then [] else text)⟩

/-- The longest front part that is a decimal number, and the rest. -/
def realFront (cs : Octets) : Octets × Octets :=
  let sign := cs.takeWhile fun c => c == '-' || c == '+'
  let sign := sign.take 1
  let body := cs.drop sign.length
  let word? := ["infinity", "inf", "nan"].find? fun w =>
    w.toList.isPrefixOf ((body.take w.length).map Char.toLower)
  match word? with
  | some w => (sign ++ body.take w.length, body.drop w.length)
  | none =>
    let whole := body.takeWhile Char.isDigit
    let rest := body.drop whole.length
    let fraction := match rest with
      | '.' :: more => '.' :: more.takeWhile Char.isDigit
      | _ => []
    let rest := rest.drop fraction.length
    if whole.isEmpty && fraction.length < 2 then ([], cs)
    else
      let exponent := match rest with
        | e :: more =>
          let marks := (more.takeWhile fun c => c == '-' || c == '+').take 1
          let digits := (more.drop marks.length).takeWhile Char.isDigit
          if (e = 'e' || e = 'E') && !digits.isEmpty then e :: marks ++ digits else []
        | [] => []
      (sign ++ whole ++ fraction ++ exponent, rest.drop exponent.length)

/-- The number at the front of a text, zero if there is none, and the rest. -/
def realAt (text : Octets) : Binary64 × Octets :=
  let cs := text.dropWhile isBlankOctet
  let (front, rest) := realFront cs
  if front.isEmpty then (Binary64.zero, text)
  else ((Binary64.read? front).getD Binary64.zero, rest)

def realOf (text : Octets) : Taken Binary64 :=
  match text with
  | '\'' :: cs => ⟨Binary64.ofNat ((cs.head?.map Char.toNat).getD 0), none⟩
  | '"' :: cs => ⟨Binary64.ofNat ((cs.head?.map Char.toNat).getD 0), none⟩
  | [] => ⟨Binary64.zero, none⟩
  | _ =>
    let (x, rest) := realAt text
    ⟨x, leftover text rest⟩

/-- What was printed so far, and what is left. -/
structure Page where
  output : Octets
  arguments : List Octets
  complaints : List String
  /-- Nothing is printed any more. -/
  ended : Bool
  /-- A place is of no kind. -/
  broken : Bool
  /-- An argument was asked for. -/
  asked : Bool

namespace Page

def add (p : Page) (cs : Octets) : Page := { p with output := p.output ++ cs }

def take (p : Page) : Octets × Page :=
  (p.arguments.head?.getD [], { p with arguments := p.arguments.tail, asked := true })

def complain (p : Page) (complaint : Option String) : Page :=
  { p with complaints := p.complaints ++ complaint.toList }

def fail (p : Page) (message : String) : Page :=
  { p with complaints := p.complaints ++ [message], ended := true, broken := true }

/-- A width or precision: digits, or a star for an argument. -/
def readCount (p : Page) (cs : Octets) : Option Int × Octets × Page :=
  match cs with
  | '*' :: rest =>
    let (text, p) := p.take
    let taken := wholeOf true text
    (some taken.value, rest, p.complain taken.complaint)
  | _ =>
    let digits := cs.takeWhile Char.isDigit
    (if digits.isEmpty then none else some (Arithmetic.valueIn 10 digits : Nat),
      cs.drop digits.length, p)

def readField (p : Page) (cs : Octets) : Field × Octets × Page :=
  let flags := cs.takeWhile fun c => ['-', '0', '+', ' ', '#'].contains c
  let (width, rest, p) := p.readCount (cs.drop flags.length)
  let flags := if width.any (· < 0) then '-' :: flags else flags
  let width := (width.getD 0).natAbs
  match rest with
  | '.' :: more =>
    let (precision, rest, p) := p.readCount more
    (⟨flags, width, some (precision.getD 0).toNat⟩, rest, p)
  | _ => (⟨flags, width, none⟩, rest, p)

/-- Prints the next argument at a place. -/
def fill (p : Page) (f : Field) (letter : Char) (shown : String) : Page :=
  let (text, q) := p.take
  match letter with
  | 's' => q.add (f.text text)
  | 'c' => q.add (f.pad false [text.head?.getD '\x00'])
  | 'b' =>
    let (cs, goesOn) := unescapeAll text
    { q.add (f.text cs) with ended := !goesOn }
  | _ =>
    if letter = 'd' || letter = 'i' then
      let taken := wholeOf true text
      (q.complain taken.complaint).add (f.signed taken.value)
    else if ['u', 'o', 'x', 'X'].contains letter then
      let taken := wholeOf false text
      (q.complain taken.complaint).add
        (f.inBase letter (taken.value % (2 * (Arithmetic.limit : Int))).toNat)
    else if ['f', 'F', 'e', 'E', 'g', 'G'].contains letter then
      let taken := realOf text
      (q.complain taken.complaint).add (f.real letter taken.value)
    else p.fail s!"{shown}: invalid directive"

/-- One pass over a format. -/
def pass (fuel : Nat) (cs : Octets) (p : Page) : Page :=
  match fuel with
  | 0 => p
  | fuel + 1 =>
    if p.ended then p
    else match cs with
      | [] => p
      | '%' :: '%' :: rest => pass fuel rest (p.add ['%'])
      | '%' :: rest =>
        let (f, more, q) := p.readField rest
        match more with
        | [] => q.fail "missing format character"
        | letter :: tail =>
          let shown := textOf ('%' :: rest.take (rest.length - tail.length))
          pass fuel tail (q.fill f letter shown)
      | '\\' :: rest =>
        match readEscape false rest with
        | .stop => { p with ended := true }
        | .text these tail => pass fuel tail (p.add these)
      | c :: rest => pass fuel rest (p.add [c])

/-- Passes while arguments are left. -/
def passes : Nat → Octets → Page → Page
  | 0, _, p => p
  | fuel + 1, format, p =>
    let q := pass (format.length + 1) format { p with output := [], asked := false }
    let q := { q with output := p.output ++ q.output }
    if q.ended || !q.asked || q.arguments.isEmpty then q else passes fuel format q

end Page

def print (format : Octets) (arguments : List Octets) : Page :=
  Page.passes (arguments.length + 1) format ⟨[], arguments, [], false, false, false⟩

end Signoff.Shell.Format
