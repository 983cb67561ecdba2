import Signoff.Text.Basic
import Signoff.Text.Digit

/-!
# Instants

An instant is a count of seconds since the start of 1970 in universal time, and nanoseconds on
top; a count of nanoseconds of a second or more lies within a leap second. It is written as
`2026-01-01T00:00:00+00:00` or with `Z`, with 3, 6 or 9 digits of a second if it needs them.

The strict reader takes that form with any offset. The loose reader, for times in reports, also
takes short fields, blanks between them, signed years and the word `UTC`.
-/

namespace Signoff.Time

open Signoff.Text

structure Instant where
  seconds : Int
  nanos : Nat
deriving DecidableEq, Repr, Inhabited

structure Date where
  year : Int
  month : Nat
  day : Nat
deriving DecidableEq, Repr

def isLeapYear (year : Int) : Bool := year % 4 == 0 && (year % 100 != 0 || year % 400 == 0)

def daysInMonth (year : Int) (month : Nat) : Nat :=
  if month = 2 then if isLeapYear year then 29 else 28
  else if month = 4 || month = 6 || month = 9 || month = 11 then 30
  else 31

/-- Days since the start of 1970. The year is counted from March, so that a leap day comes last,
and 400 years have 146097 days. -/
def Date.toDays (d : Date) : Int :=
  let shifted := if d.month ≤ 2 then d.year - 1 else d.year
  let era := Int.fdiv shifted 400
  let yearOfEra := shifted - era * 400
  -- five months from March on have 153 days
  let monthFromMarch : Int := if d.month ≤ 2 then d.month + 9 else d.month - 3
  let dayOfYear := (153 * monthFromMarch + 2) / 5 + d.day - 1
  let dayOfEra := yearOfEra * 365 + yearOfEra / 4 - yearOfEra / 100 + dayOfYear
  era * 146097 + dayOfEra - 719468

def Date.ofDays (days : Int) : Date :=
  let shifted := days + 719468
  let era := Int.fdiv shifted 146097
  let dayOfEra := shifted - era * 146097
  let yearOfEra := (dayOfEra - dayOfEra / 1460 + dayOfEra / 36524 - dayOfEra / 146096) / 365
  let dayOfYear := dayOfEra - (365 * yearOfEra + yearOfEra / 4 - yearOfEra / 100)
  let monthFromMarch := (5 * dayOfYear + 2) / 153
  let day := dayOfYear - (153 * monthFromMarch + 2) / 5 + 1
  let month := if monthFromMarch < 10 then monthFromMarch + 3 else monthFromMarch - 9
  let year := yearOfEra + era * 400 + if month ≤ 2 then 1 else 0
  ⟨year, month.toNat, day.toNat⟩

def padded (width n : Nat) : List Char :=
  let digits := digitsOf n
  List.replicate (width - digits.length) '0' ++ digits

/-- Four digits, or a sign and at least four digits outside the years 0 to 9999. -/
def writeYear (year : Int) : List Char :=
  if 0 ≤ year && year ≤ 9999 then padded 4 year.toNat
  else (if year < 0 then '-' else '+') :: padded 4 year.natAbs

def writeFraction (nanos : Nat) : List Char :=
  if nanos = 0 then []
  else if nanos % 1000000 = 0 then '.' :: padded 3 (nanos / 1000000)
  else if nanos % 1000 = 0 then '.' :: padded 6 (nanos / 1000)
  else '.' :: padded 9 nanos

/-- The instant without its offset. -/
def Instant.writeLocal (t : Instant) : List Char :=
  let date := Date.ofDays (Int.fdiv t.seconds 86400)
  let ofDay := (t.seconds - Int.fdiv t.seconds 86400 * 86400).toNat
  let leap := 1000000000 ≤ t.nanos
  -- a leap second is written as second 60
  let second := ofDay % 60 + if leap then 1 else 0
  let nanos := if leap then t.nanos - 1000000000 else t.nanos
  writeYear date.year ++ '-' :: padded 2 date.month ++ '-' :: padded 2 date.day ++
    'T' :: padded 2 (ofDay / 3600) ++ ':' :: padded 2 (ofDay / 60 % 60) ++
    ':' :: padded 2 second ++ writeFraction nanos

def Instant.write (t : Instant) : String := String.ofList (t.writeLocal ++ "+00:00".toList)

def Instant.writeZulu (t : Instant) : String := String.ofList (t.writeLocal ++ ['Z'])

/-- The instant lies in one of the years that a signed count of 19 bits holds, from the second
year to the last but one. -/
def Instant.isDated (t : Instant) : Bool :=
  let first := Date.toDays ⟨-262143, 1, 1⟩ * 86400
  let after := Date.toDays ⟨262143, 1, 1⟩ * 86400
  first ≤ t.seconds && t.seconds < after

/-- The instant of a local date and time with its offset in seconds. Second 60 is a leap second,
and both the local date and the instant lie in years that can be dated. -/
def Instant.ofLocal? (date : Date) (hour minute second nanos : Nat) (offset : Int) :
    Option Instant :=
  if -262143 ≤ date.year && date.year ≤ 262142 && 1 ≤ date.month && date.month ≤ 12 &&
      1 ≤ date.day && date.day ≤ daysInMonth date.year date.month && hour ≤ 23 &&
      minute ≤ 59 && second ≤ 60 then
    let ofDay := hour * 3600 + minute * 60 + if second = 60 then 59 else second
    let nanos := if second = 60 then nanos + 1000000000 else nanos
    let t : Instant := ⟨date.toDays * 86400 + (ofDay : Int) - offset, nanos⟩
    if t.isDated then some t else none
  else none

/-- At least `least` and at most `most` digits, as a number, and the rest. -/
def readDigits? (least most : Nat) (cs : List Char) : Option (Nat × List Char) :=
  let digits := (cs.take most).takeWhile Char.isDigit
  if digits.length < least then none else some (ofDigits digits, cs.drop digits.length)

def expect? (c : Char) : List Char → Option (List Char)
  | d :: rest => if c = d then some rest else none
  | [] => none

/-- Nanoseconds after a point: nine digits count, further ones are passed over. -/
def readNanos? (cs : List Char) : Option (Nat × List Char) :=
  match cs with
  | '.' :: rest =>
    let digits := rest.takeWhile Char.isDigit
    if digits.isEmpty then none
    else
      let kept := digits.take 9
      some (ofDigits kept * Nat.pow 10 (9 - kept.length), rest.dropWhile Char.isDigit)
  | _ => some (0, cs)

def skipDateMark? : List Char → Option (List Char)
  | c :: rest => if c = 'T' || c = 't' || c = ' ' then some rest else none
  | [] => none

def isMinus (c : Char) : Bool := c == '-' || c == '\u2212'

/-- An offset in seconds, below a day: `Z`, or a sign, two digits of hours, what `divide` takes
and two digits of minutes. -/
def readOffset? (divide : List Char → Option (List Char)) (cs : List Char) :
    Option (Int × List Char) :=
  match cs with
  | [] => none
  | c :: rest =>
    if c = 'Z' || c = 'z' then some (0, rest)
    else if c = '+' || isMinus c then do
      let (hours, rest) ← readDigits? 2 2 rest
      let rest ← divide rest
      let (minutes, rest) ← readDigits? 2 2 rest
      if hours ≤ 23 && minutes ≤ 59 then
        let offset : Int := hours * 3600 + minutes * 60
        return (if isMinus c then -offset else offset, rest)
      else none
    else none

/-- The whole text is an instant in the strict form. -/
def Instant.read? (cs : List Char) : Option Instant := do
  let (year, cs) ← readDigits? 4 4 cs
  let cs ← expect? '-' cs
  let (month, cs) ← readDigits? 2 2 cs
  let cs ← expect? '-' cs
  let (day, cs) ← readDigits? 2 2 cs
  let cs ← skipDateMark? cs
  let (hour, cs) ← readDigits? 2 2 cs
  let cs ← expect? ':' cs
  let (minute, cs) ← readDigits? 2 2 cs
  let cs ← expect? ':' cs
  let (second, cs) ← readDigits? 2 2 cs
  let (nanos, cs) ← readNanos? cs
  let (offset, cs) ← readOffset? (expect? ':') cs
  if cs.isEmpty then Instant.ofLocal? ⟨year, month, day⟩ hour minute second nanos offset
  else none

/-- A year of up to four digits, or of any length after a sign. -/
def readLooseYear? (cs : List Char) : Option (Int × List Char) :=
  match cs with
  | '-' :: rest => (readDigits? 1 rest.length rest).map fun (n, tail) => (-(n : Int), tail)
  | '+' :: rest => (readDigits? 1 rest.length rest).map fun (n, tail) => ((n : Int), tail)
  | _ => (readDigits? 1 4 cs).map fun (n, tail) => ((n : Int), tail)

/-- Up to two digits with blanks in front of them. -/
def readLooseField? (cs : List Char) : Option (Nat × List Char) :=
  readDigits? 1 2 (trimStart cs)

def expectLoose? (c : Char) (cs : List Char) : Option (List Char) := expect? c (trimStart cs)

def skipColons (cs : List Char) : List Char := cs.dropWhile fun c => c == ':' || isBlank c

def readLooseOffset? (cs : List Char) : Option (Int × List Char) :=
  match cs with
  | a :: b :: c :: rest =>
    if a.toUpper = 'U' && b.toUpper = 'T' && c.toUpper = 'C' then some (0, rest)
    else readOffset? (fun more => some (skipColons more)) cs
  | _ => readOffset? (fun more => some (skipColons more)) cs

/-- The whole text is an instant in the loose form. -/
def Instant.readLoose? (cs : List Char) : Option Instant := do
  let (year, cs) ← readLooseYear? (trimStart cs)
  let cs ← expectLoose? '-' cs
  let (month, cs) ← readLooseField? cs
  let cs ← expectLoose? '-' cs
  let (day, cs) ← readLooseField? cs
  let cs ← skipDateMark? cs
  let (hour, cs) ← readLooseField? cs
  let cs ← expectLoose? ':' cs
  let (minute, cs) ← readLooseField? cs
  let cs ← expectLoose? ':' cs
  let (second, cs) ← readLooseField? cs
  let (nanos, cs) ← readNanos? cs
  let (offset, cs) ← readLooseOffset? (trimStart cs)
  if isBlankText cs then Instant.ofLocal? ⟨year, month, day⟩ hour minute second nanos offset
  else none

end Signoff.Time
