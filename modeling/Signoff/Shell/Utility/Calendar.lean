import Signoff.Shell.Utility.Options
import Signoff.Time.Instant

/-!
# Dates as a utility

A time is given in seconds or as a date, and shown as a format says. There is no clock: every script
starts at the same time, and only what it waits for moves it on.
-/

namespace Signoff.Shell

namespace Calendar

open Time (Instant Date padded)

/-- A time taken apart. -/
structure Moment where
  instant : Instant
  date : Date
  hour : Nat
  minute : Nat
  second : Nat
  /-- Days since Sunday. -/
  weekday : Nat
  /-- Days since the start of the year. -/
  yearDay : Nat

def Moment.of (t : Instant) : Moment :=
  let days := Int.fdiv t.seconds 86400
  let date := Date.ofDays days
  let ofDay := (t.seconds - days * 86400).toNat
  { instant := t, date, hour := ofDay / 3600, minute := ofDay / 60 % 60, second := ofDay % 60
    weekday := ((days + 4) % 7).toNat
    yearDay := (days - Date.toDays ⟨date.year, 1, 1⟩).toNat }

def dayNames : List String :=
  ["Sunday", "Monday", "Tuesday", "Wednesday", "Thursday", "Friday", "Saturday"]

def monthNames : List String :=
  ["January", "February", "March", "April", "May", "June", "July", "August", "September",
    "October", "November", "December"]

def nameAt (names : List String) (n : Nat) : Octets := octets ((names[n]?).getD "")

/-- The week of the year, where weeks start on a day and the first one is full. -/
def fullWeek (m : Moment) (firstDay : Nat) : Nat :=
  (m.yearDay + 7 - (m.weekday + 7 - firstDay) % 7) / 7

/-- The year and the week, where a week belongs to the year that most of it lies in. -/
def ownWeek (m : Moment) : Int × Nat :=
  let days := Int.fdiv m.instant.seconds 86400
  -- the Thursday of the week decides
  let thursday := days + 3 - (((m.weekday + 6) % 7 : Nat) : Int)
  let year := (Date.ofDays thursday).year
  (year, ((thursday - Date.toDays ⟨year, 1, 1⟩) / 7).toNat + 1)

/-- How a number is filled up: the flag of the format decides over what is usual. -/
def filled (flag : Option Char) (usual : Char) (width n : Nat) : Octets :=
  let digits := Text.digitsOf n
  let fill := match flag with
    | some '-' => none
    | some '_' => some ' '
    | some '0' => some '0'
    | _ => some usual
  match fill with
  | some c => List.replicate (width - digits.length) c ++ digits
  | none => digits

/-- What a letter of a format stands for, if it stands for anything simple. -/
def shownPart? (m : Moment) (flag : Option Char) (letter : Char) : Option Octets :=
  let number (width n : Nat) : Option Octets := some (filled flag '0' width n)
  let spaced (width n : Nat) : Option Octets := some (filled flag ' ' width n)
  let year := m.date.year.toNat
  let hour12 := if m.hour % 12 = 0 then 12 else m.hour % 12
  match letter with
  | 'Y' => number 1 year
  | 'C' => number 2 (year / 100)
  | 'y' => number 2 (year % 100)
  | 'm' => number 2 m.date.month
  | 'd' => number 2 m.date.day
  | 'e' => spaced 2 m.date.day
  | 'H' => number 2 m.hour
  | 'k' => spaced 2 m.hour
  | 'I' => number 2 hour12
  | 'l' => spaced 2 hour12
  | 'M' => number 2 m.minute
  | 'S' => number 2 m.second
  | 'N' => number 9 m.instant.nanos
  | 'j' => number 3 (m.yearDay + 1)
  | 'u' => number 1 (if m.weekday = 0 then 7 else m.weekday)
  | 'w' => number 1 m.weekday
  | 'U' => number 2 (fullWeek m 0)
  | 'W' => number 2 (fullWeek m 1)
  | 'V' => number 2 (ownWeek m).2
  | 'G' => number 1 (ownWeek m).1.toNat
  | 'g' => number 2 ((ownWeek m).1.toNat % 100)
  | 'q' => number 1 ((m.date.month + 2) / 3)
  | 's' => some (toString m.instant.seconds).toList
  | 'a' => some ((nameAt dayNames m.weekday).take 3)
  | 'A' => some (nameAt dayNames m.weekday)
  | 'b' => some ((nameAt monthNames (m.date.month - 1)).take 3)
  | 'h' => some ((nameAt monthNames (m.date.month - 1)).take 3)
  | 'B' => some (nameAt monthNames (m.date.month - 1))
  | 'p' => some (octets (if m.hour < 12 then "AM" else "PM"))
  | 'P' => some (octets (if m.hour < 12 then "am" else "pm"))
  | 'Z' => some (octets "UTC")
  | 'z' => some (octets "+0000")
  | 'n' => some ['\n']
  | 't' => some ['\t']
  | '%' => some ['%']
  | _ => none

/-- The formats that letters stand for. -/
def longForm? : Char → Option String
  | 'F' => some "%Y-%m-%d"
  | 'T' => some "%H:%M:%S"
  | 'X' => some "%H:%M:%S"
  | 'R' => some "%H:%M"
  | 'r' => some "%I:%M:%S %p"
  | 'D' => some "%m/%d/%y"
  | 'x' => some "%m/%d/%y"
  | 'c' => some "%a %b %e %H:%M:%S %Y"
  | _ => none

/-- A time as a format shows it. -/
def shown (m : Moment) (fuel : Nat) (format : Octets) : Octets :=
  match fuel with
  | 0 => []
  | fuel + 1 =>
    match format with
    | '%' :: rest =>
      let flag := rest.head?.filter fun c => ['-', '_', '0', '^'].contains c
      let rest := if flag.isSome then rest.tail else rest
      let width := rest.takeWhile Char.isDigit
      match rest.drop width.length with
      | 'N' :: more =>
        let digits := padded 9 m.instant.nanos
        digits.take ((count? width).getD 9) ++ shown m fuel more
      | ':' :: 'z' :: more => octets "+00:00" ++ shown m fuel more
      | c :: more =>
        let text := match longForm? c, shownPart? m flag c with
          | some long, _ => shown m fuel long.toList
          | none, some text => text
          | none, none => '%' :: rest.take (width.length + 1)
        let text := if flag = some '^' then text.map Char.toUpper else text
        List.replicate ((count? width).getD 0 - text.length) '0' ++ text ++ shown m fuel more
      | [] => ['%']
    | c :: rest => c :: shown m fuel rest
    | [] => []

/-- The words of a description of a time. -/
def wordsOf (cs : Octets) : List Octets :=
  (cutAt ' ' (cs.map fun c => if isBlankOctet c then ' ' else c)).filter (!·.isEmpty)

/-- Seconds of a time of day. -/
def timeOfDay? (cs : Octets) : Option Int := do
  let parts := cutAt ':' cs
  let numbers ← parts.mapM count?
  match numbers with
  | [h, m] => if h < 24 && m < 60 then some ((h * 3600 + m * 60 : Nat) : Int) else none
  | [h, m, s] =>
    if h < 24 && m < 60 && s < 61 then some ((h * 3600 + m * 60 + s : Nat) : Int) else none
  | _ => none

def date? (year month day : Nat) : Option Int :=
  if 1 ≤ month && month ≤ 12 && 1 ≤ day && day ≤ Time.daysInMonth year month then
    some (Date.toDays ⟨year, month, day⟩ * 86400)
  else none

/-- Seconds of a date. -/
def day? (cs : Octets) : Option Int := do
  match ← (cutAt '-' cs).mapM count? with
  | [y, m, d] => date? y m d
  | _ =>
    match ← (cutAt '/' cs).mapM count? with
    | [m, d, y] => date? y m d
    | _ => none

/-- A month by the first letters of its name. -/
def month? (cs : Octets) : Option Nat :=
  let word := cs.map Char.toLower
  if word.length < 3 then none
  else ((monthNames.map fun n => (octets n).map Char.toLower).findIdx? word.isPrefixOf).map (· + 1)

def unit? (cs : Octets) : Option Int :=
  let word := cs.map Char.toLower
  let word := if word.getLast? = some 's' && 3 < word.length then word.dropLast else word
  match textOf word with
  | "sec" => some 1
  | "second" => some 1
  | "min" => some 60
  | "minute" => some 60
  | "hour" => some 3600
  | "day" => some 86400
  | "week" => some 604800
  | _ => none

/-- Adds up what the words of a description mean. -/
def describe? (fuel : Nat) (t : Int) : List Octets → Option Int
  | [] => some t
  | word :: rest =>
    match fuel with
    | 0 => none
    | fuel + 1 =>
      let sign : Int := if word.head? = some '-' then -1 else 1
      let body := if word.head? = some '-' || word.head? = some '+' then word.tail else word
      match (day? word), timeOfDay? word with
      | some s, _ => describe? fuel (t + s) rest
      | none, some s => describe? fuel (t + s) rest
      | none, none =>
        match count? body, rest with
        | some n, u :: more =>
          match unit? u, month? u, more with
          | some size, _, ago =>
            if ago.head? = some (octets "ago") then describe? fuel (t - n * size) ago.tail
            else describe? fuel (t + sign * n * size) ago
          | none, some month, y :: others =>
            (count? y).bind fun year => (date? year month n).bind fun s =>
              describe? fuel (t + s) others
          | none, _, _ => none
        | _, _ =>
          match textOf (word.map Char.toLower) with
          | "utc" => describe? fuel t rest
          | "gmt" => describe? fuel t rest
          | "z" => describe? fuel t rest
          | "now" => describe? fuel t rest
          | "today" => describe? fuel t rest
          | "tomorrow" => describe? fuel (t + 86400) rest
          | "yesterday" => describe? fuel (t - 86400) rest
          | _ => none

/-- The second at which scripts start: the first of 2026. -/
def startSecond : Int := 1767225600

/-- The time at a desk. -/
def present (d : Desk) : Instant := ⟨startSecond + (d.now / 1000000 : Nat), d.now % 1000000 * 1000⟩

/-- Where a description starts that says no day, or not even the time of day. -/
def baseOf (now : Instant) (words : List Octets) : Int :=
  if words.any fun w => (day? w).isSome || (month? w).isSome then 0
  else if words.any fun w => (timeOfDay? w).isSome then now.seconds - now.seconds % 86400
  else now.seconds

/-- The time that a text describes. -/
def instant? (now : Instant) (cs : Octets) : Option Instant :=
  match cs.dropWhile isBlankOctet with
  | '@' :: rest =>
    let digits := match rest with
      | '-' :: more => more
      | _ => rest
    let whole := digits.takeWhile Char.isDigit
    let sign : Int := if rest.head? = some '-' then -1 else 1
    match digits.drop whole.length with
    | [] => (count? whole).map fun n => ⟨sign * n, 0⟩
    | '.' :: fraction =>
      if fraction.all Char.isDigit then
        (count? whole).map fun n =>
          ⟨sign * n, (count? ((fraction ++ List.replicate 9 '0').take 9)).getD 0⟩
      else none
    | _ => none
  | cs =>
    match Instant.read? cs with
    | some t => some t
    | none =>
      -- a letter may stand between the date and the time of day
      let cs := match cs.drop 10 with
        | 'T' :: rest => cs.take 10 ++ ' ' :: rest
        | _ => cs
      let cs := if cs.getLast? = some 'Z' then cs.dropLast else cs
      let words := wordsOf cs
      (describe? (words.length + 1) (baseOf now words) words).map fun s => ⟨s, 0⟩

def kinds : OptionKinds :=
  ⟨"uR", "dfrI", [("date", 'd'), ("utc", 'u'), ("universal", 'u'), ("rfc-email", 'R'),
    ("reference", 'r')]⟩

/-- The format of an option for dates of a given sharpness. -/
def isoFormat (sharpness : Octets) : String :=
  match textOf sharpness with
  | "hours" => "%Y-%m-%dT%H%:z"
  | "minutes" => "%Y-%m-%dT%H:%M%:z"
  | "seconds" => "%Y-%m-%dT%H:%M:%S%:z"
  | _ => "%Y-%m-%d"

end Calendar

namespace Utility

open Calendar

/-- Shows a time. -/
def date (d : Desk) (args : List Octets) : Ended :=
  -- the sharpness of the option may be left out
  let sharpness := args.findSome? fun a => match a with
    | '-' :: 'I' :: s => some s
    | _ => none
  let args := args.filter fun a => !"-I".toList.isPrefixOf a
  kinds.use d "date" 1 args fun o =>
    let (formats, others) := o.operands.partition fun a => a.head? == some '+'
    match others, formats with
    | [], _ :: extra :: _ => d.refuse "date" (octets "extra operand " ++ quoteWord extra) 1
    | extra :: _, _ :: _ => d.refuse "date" (octets "extra operand " ++ quoteWord extra) 1
    | _ :: extra :: _, [] => d.refuse "date" (octets "extra operand " ++ quoteWord extra) 1
    | wrong :: _, [] => d.complain (octets "date: invalid date " ++ quoteWord wrong) 1
    | [], _ =>
      let given := o.value? 'd'
      match given with
      | none => finish o formats sharpness (present d)
      | some text => match instant? (present d) text with
        | some t => finish o formats sharpness t
        | none => d.complain (octets "date: invalid date " ++ quoteWord text) 1
where
  finish (o : Options) (formats : List Octets) (sharpness : Option Octets) (t : Time.Instant) :
      Ended :=
    let format : Octets := match formats, sharpness with
      | f :: _, _ => f.tail
      | [], some s => (isoFormat s).toList
      | [], none => (if o.has 'R' then "%a, %d %b %Y %H:%M:%S %z"
          else "%a %b %e %H:%M:%S %Z %Y").toList
    d.done (shown (Moment.of t) (format.length + 30) format ++ ['\n']) 0

end Utility

end Signoff.Shell
