import Signoff.Number.Binary64
import Signoff.Text.Basic
import Signoff.Text.Digit

/-!
# Decimal numbers

A decimal numeral with an exponent is read as the binary64 number closest to its exact value,
however many digits it has.

`fixed` writes a number with a set count of places: the exact value is rounded, a tie goes to the
even digit, and the sign of a negative zero stays.
-/

namespace Signoff.Number

open Signoff.Text

/-! ## Reading -/

/-- The position closest to `digits * 10 ^ exponent`. -/
def nearestDecimal (digits : Nat) (exponent : Int) : Nat :=
  if digits = 0 then 0
  else match exponent with
    | .ofNat e => if 310 < e then Binary64.infinity else Binary64.nearest (digits * Nat.pow 10 e) 1
    | .negSucc e =>
      -- below half the smallest positive value
      if Nat.log2 digits + 1080 < 3 * e then 0 else Binary64.nearest digits (Nat.pow 10 (e + 1))

/-- A sign at the front of a text (`true` for minus) and the rest. -/
def readSign (cs : List Char) : Bool × List Char :=
  match cs with
  | '-' :: rest => (true, rest)
  | '+' :: rest => (false, rest)
  | _ => (false, cs)

/-- An exponent part that takes the whole text: nothing, or a mark, a sign and digits. -/
def readExponent? (cs : List Char) : Option Int :=
  match cs with
  | [] => some 0
  | c :: rest =>
    if c = 'e' || c = 'E' then
      let (negative, digits) := readSign rest
      (readNat? digits).map fun (n : Nat) => if negative then -(n : Int) else (n : Int)
    else none

/-- Digits with an optional point among, before or behind them, and an optional exponent. -/
def readUnsignedDecimal? (cs : List Char) : Option Nat :=
  let whole := cs.takeWhile Char.isDigit
  let rest := cs.dropWhile Char.isDigit
  let (fraction, tail) := match rest with
    | '.' :: more => (more.takeWhile Char.isDigit, more.dropWhile Char.isDigit)
    | _ => ([], rest)
  if whole.isEmpty && fraction.isEmpty then none
  else (readExponent? tail).map fun e =>
    nearestDecimal (ofDigits (whole ++ fraction)) (e - (fraction.length : Int))

/-- A signed decimal number, or one of the words for infinity and NaN in any letter case. -/
def Binary64.read? (cs : List Char) : Option Binary64 :=
  let (negative, rest) := readSign cs
  let word := lower rest
  if word = "inf".toList || word = "infinity".toList then some (Binary64.infinite negative)
  else if word = "nan".toList then some { Binary64.notANumber with negative }
  else (readUnsignedDecimal? rest).map fun position => ⟨negative, position⟩

/-! ## Numbers with a fixed count of places -/

def signText (negative : Bool) : List Char := if negative then ['-'] else []

/-- The last `places` digits go behind the point. -/
def withPoint (places n : Nat) : List Char :=
  let digits := digitsOf n
  let padded := List.replicate (places + 1 - digits.length) '0' ++ digits
  let cut := padded.length - places
  padded.take cut ++ ['.'] ++ padded.drop cut

def Binary64.fixed (places : Nat) (x : Binary64) : String :=
  if x.isNaN then "NaN"
  else if !x.isFinite then String.ofList (signText x.negative ++ "inf".toList)
  else
    let scaled := Binary64.units x.position * Nat.pow 10 places
    let n := roundEven scaled (Nat.pow 2 Binary64.unitPower)
    String.ofList (signText x.negative ++ withPoint places n)

end Signoff.Number
