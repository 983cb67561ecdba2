import Signoff.Number.Shortest

/-!
# Numerals

A numeral is a number as it is spelled: sign, digits before and behind the point, exponent. A
style says for which numbers the digits are written out and for which an exponent part follows.
-/

namespace Signoff.Number

open Signoff.Text

/-- A spelled number; without digits behind the point it has no point. -/
structure Numeral where
  negative : Bool
  whole : List Char
  fraction : List Char
  exponent : Option Int
deriving DecidableEq, Repr

namespace Numeral

def ofNat (n : Nat) : Numeral := ⟨false, digitsOf n, [], none⟩

/-- Written without point and exponent. -/
def isInteger (n : Numeral) : Bool := n.fraction.isEmpty && n.exponent.isNone

def position (n : Numeral) : Nat :=
  nearestDecimal (ofDigits (n.whole ++ n.fraction))
    (n.exponent.getD 0 - (n.fraction.length : Int))

/-- The closest binary64 number. -/
def value (n : Numeral) : Binary64 := ⟨n.negative, n.position⟩

/-- The value as a count, if it is spelled as one and lies below `bound`. -/
def countBelow? (bound : Nat) (n : Numeral) : Option Nat :=
  if n.isInteger && !n.negative then some (ofDigits n.whole) |>.filter (· < bound) else none

def writeExponent (e : Int) : List Char :=
  'e' :: (if e < 0 then '-' else '+') :: digitsOf e.natAbs

def write (n : Numeral) : List Char :=
  (if n.negative then ['-'] else []) ++ n.whole ++
    (if n.fraction.isEmpty then [] else '.' :: n.fraction) ++
    (n.exponent.map writeExponent).getD []

end Numeral

/-- Numbers whose first digit stands for a power of ten from `lowest` up to, but not including,
`highest` are written without an exponent part. -/
structure DecimalStyle where
  lowest : Int
  highest : Int

/-- The shortest numeral of a finite number; it keeps a zero behind the point. -/
def DecimalStyle.numeral (style : DecimalStyle) (x : Binary64) : Numeral :=
  let d := Decimal.shortest x.position
  let digits := digitsOf d.digits
  let power := (digits.length : Int) - 1 + d.exponent
  if style.lowest ≤ power && power < style.highest then
    if 0 ≤ d.exponent then
      ⟨x.negative, digits ++ List.replicate d.exponent.toNat '0', ['0'], none⟩
    else if 0 ≤ power then
      ⟨x.negative, digits.take (power.toNat + 1), digits.drop (power.toNat + 1), none⟩
    else ⟨x.negative, ['0'], List.replicate (-power - 1).toNat '0' ++ digits, none⟩
  else ⟨x.negative, digits.take 1, digits.drop 1, some power⟩

end Signoff.Number
