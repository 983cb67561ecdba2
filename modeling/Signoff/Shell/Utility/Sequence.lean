import Signoff.Shell.Format
import Signoff.Shell.Utility.Options

/-!
# Rows of numbers

Numbers from a first to a last one in equal steps. They are decimal and kept exact, so that the last
one is met whatever the step is.
-/

namespace Signoff.Shell

/-- A decimal number as a count of units of which `places` digits lie behind the point. -/
structure Scaled where
  units : Int
  places : Nat

namespace Scaled

/-- The number times a power of ten. -/
def shifted (s : Scaled) (exponent : Int) : Scaled :=
  let places : Int := (s.places : Int) - exponent
  if places < 0 then ⟨s.units * (Nat.pow 10 (-places).toNat : Nat), 0⟩ else ⟨s.units, places.toNat⟩

/-- How many orders of magnitude an exponent may mean. -/
def farthest : Nat := 300

def read? (cs : Octets) : Option Scaled :=
  let (negative, body) := match cs with
    | '-' :: rest => (true, rest)
    | '+' :: rest => (false, rest)
    | _ => (false, cs)
  let whole := body.takeWhile Char.isDigit
  let rest := body.drop whole.length
  let (fraction, rest) := match rest with
    | '.' :: more => (more.takeWhile Char.isDigit, more.dropWhile Char.isDigit)
    | _ => ([], rest)
  let exponent? : Option Int := match rest with
    | [] => some 0
    | e :: more =>
      let digits := match more with
        | '-' :: ds => ds
        | '+' :: ds => ds
        | _ => more
      if e != 'e' && e != 'E' then none
      else (count? digits).bind fun n =>
        if farthest < n then none
        else some (if more.head? = some '-' then -(n : Int) else (n : Int))
  exponent?.bind fun exponent =>
    if whole.isEmpty && fraction.isEmpty then none
    else
      let n : Int := ((count? (whole ++ fraction)).getD 0 : Nat)
      some (shifted ⟨if negative then -n else n, fraction.length⟩ exponent)

/-- The count of smaller units. -/
def inUnits (places : Nat) (s : Scaled) : Int :=
  s.units * (Nat.pow 10 (places - s.places) : Nat)

end Scaled

def scaledText (places : Nat) (n : Int) : Octets :=
  let digits := Text.digitsOf n.natAbs
  let padded := List.replicate (places + 1 - digits.length) '0' ++ digits
  let cut := padded.length - places
  (if n < 0 then ['-'] else []) ++ padded.take cut ++
    if places = 0 then [] else '.' :: padded.drop cut

namespace Sequence

/-- How numbers are printed. -/
structure Setting where
  separator : Octets
  equalWidth : Bool
  format : Option Octets

/-- The options in front of the numbers, which may be negative. -/
def readOptions (k : Setting) : List Octets → Except OptionKinds.Fault (Setting × List Octets)
  | [] => .ok (k, [])
  | ['-', '-'] :: rest => .ok (k, rest)
  | a :: rest =>
    let word (front : String) : Option Octets :=
      if front.toList.isPrefixOf a then some (a.drop front.length) else none
    match word "--separator=", word "--format=", a with
    | some cs, _, _ => readOptions { k with separator := cs } rest
    | _, some cs, _ => readOptions { k with format := some cs } rest
    | _, _, '-' :: 'w' :: [] => readOptions { k with equalWidth := true } rest
    | _, _, ['-', 's'] => match rest with
      | [] => .error (.noValue 's')
      | cs :: more => readOptions { k with separator := cs } more
    | _, _, '-' :: 's' :: cs => readOptions { k with separator := cs } rest
    | _, _, ['-', 'f'] => match rest with
      | [] => .error (.noValue 'f')
      | cs :: more => readOptions { k with format := some cs } more
    | _, _, '-' :: 'f' :: cs => readOptions { k with format := some cs } rest
    | _, _, '-' :: '-' :: name =>
      if name.isPrefixOf "equal-width".toList then readOptions { k with equalWidth := true } rest
      else .error (.unknownWord a)
    | _, _, '-' :: c :: _ =>
      if c.isDigit || c = '.' || c = 'i' || c = 'n' then .ok (k, a :: rest)
      else .error (.unknown c)
    | _, _, _ => .ok (k, a :: rest)

/-- A format around the place of the number. -/
structure Shape where
  front : Octets
  field : Format.Field
  letter : Char
  back : Octets

/-- The text up to the next place for a number, in which a doubled sign stands for itself. -/
def upToPlace : Octets → Octets × Option Octets
  | '%' :: '%' :: rest =>
    let (front, more) := upToPlace rest
    ('%' :: front, more)
  | '%' :: rest => ([], some rest)
  | c :: rest =>
    let (front, more) := upToPlace rest
    (c :: front, more)
  | [] => ([], none)

/-- The shape that a format spells, or what is wrong with it. -/
def shapeOf (format : Octets) : Except Octets Shape :=
  let about (what : Octets) : Except Octets Shape :=
    .error (octets "format " ++ quoteWord format ++ octets " has " ++ what)
  match upToPlace format with
  | (_, none) => about (octets "no % directive")
  | (front, some rest) =>
    let flags := rest.takeWhile fun c => ['-', '+', '#', '0', ' ', '\''].contains c
    let rest := rest.drop flags.length
    let width := rest.takeWhile Char.isDigit
    let rest := rest.drop width.length
    let (precision, rest) := match rest with
      | '.' :: more =>
        let digits := more.takeWhile Char.isDigit
        (some ((count? digits).getD 0), more.drop digits.length)
      | _ => (none, rest)
    let rest := match rest with
      | 'L' :: more => more
      | _ => rest
    match rest with
    | [] => .error (octets "format " ++ quoteWord format ++ octets " ends in %")
    | letter :: more =>
      if not (['e', 'f', 'g', 'E', 'F', 'G'].contains letter) then
        about (octets "unknown %" ++ letter :: octets " directive")
      else match upToPlace more with
        | (_, some _) => about (octets "too many % directives")
        | (back, none) => .ok ⟨front, ⟨flags, (count? width).getD 0, precision⟩, letter, back⟩

def Shape.shown (s : Shape) (number : Octets) : Octets :=
  s.front ++ s.field.real s.letter ((Number.Binary64.read? number).getD Number.Binary64.zero) ++
    s.back

end Sequence

namespace Utility

open Sequence

def seq (d : Desk) (args : List Octets) : Ended :=
  match readOptions ⟨['\n'], false, none⟩ args with
  | .error fault => d.refuse "seq" fault.message 1
  | .ok (k, rest) =>
    match rest with
    | [] => d.refuse "seq" (octets "missing operand") 1
    | _ :: _ :: _ :: extra :: _ =>
      d.refuse "seq" (octets "extra operand " ++ quoteWord extra) 1
    | _ =>
      match rest.find? fun a => (Scaled.read? a).isNone with
      | some wrong =>
        let kind := if wrong.map Char.toLower = "nan".toList then
            octets "invalid 'not-a-number' argument: "
          else octets "invalid floating point argument: "
        d.refuse "seq" (kind ++ quoteWord wrong) 1
      | none =>
        let shape? := match k.format with
          | none => Except.ok none
          | some f => (shapeOf f).map some
        match shape? with
        | .error message => d.complain (octets "seq: " ++ message) 1
        | .ok shape? => print k shape? rest (rest.filterMap Scaled.read?)
where
  print (k : Sequence.Setting) (shape? : Option Shape) (args : List Octets)
      (numbers : List Scaled) : Ended :=
    let one : Scaled := ⟨1, 0⟩
    let (first, step, last) := match numbers with
      | [last] => (one, one, last)
      | [first, last] => (first, one, last)
      | [first, step, last] => (first, step, last)
      | _ => (one, one, one)
    let shownPlaces := if first.places < step.places then step.places else first.places
    let places := if shownPlaces < last.places then last.places else shownPlaces
    let (a, s, b) := (first.inUnits places, step.inUnits places, last.inUnits places)
    if s = 0 then
      d.refuse "seq" (octets "invalid Zero increment value: " ++ quoteWord (args[1]?.getD [])) 1
    else
      let count := if 0 < s then (if b < a then 0 else ((b - a) / s + 1).toNat)
        else (if a < b then 0 else ((a - b) / -s + 1).toNat)
      let cut := (Nat.pow 10 (places - shownPlaces) : Nat)
      let texts := (List.range count).map fun (i : Nat) =>
        scaledText shownPlaces ((a + s * (i : Int)) / (cut : Int))
      let width := ([scaledText shownPlaces (a / (cut : Int)),
        scaledText shownPlaces (b / (cut : Int))]).foldl
          (fun n t => if n < t.length then t.length else n) 0
      let texts := match shape? with
        | some shape => texts.map shape.shown
        | none => if k.equalWidth then texts.map (zeroFilled width) else texts
      d.done (if texts.isEmpty then [] else joined k.separator texts ++ ['\n']) 0

end Utility

end Signoff.Shell
