import Signoff.Number.Decimal

/-!
# Shortest decimal digits

The digits of a number are the fewest that read back as the same number, and of several that few
the closest to the exact value, a tie going to the even last digit. A digit string is taken only
if it reads back, and the exact expansion stands behind all of them, so the result reads back for
every finite position.
-/

namespace Signoff.Number

open Signoff.Text

/-- The number `digits * 10 ^ exponent`. -/
structure Decimal where
  digits : Nat
  exponent : Int
deriving DecidableEq, Repr

namespace Decimal

def position (d : Decimal) : Nat := nearestDecimal d.digits d.exponent

/-- The same number without zeros at the end of its digits; `fuel` bounds how many go. -/
def dropZeros : Nat → Decimal → Decimal
  | 0, d => d
  | fuel + 1, d =>
    if d.digits != 0 && d.digits % 10 == 0 then dropZeros fuel ⟨d.digits / 10, d.exponent + 1⟩
    else d

/-- The exact value at a position. -/
def exact (position : Nat) : Decimal :=
  ⟨Binary64.units position * Nat.pow 5 Binary64.unitPower, -(Binary64.unitPower : Int)⟩

/-- The power of ten of the first digit of a positive fraction. -/
def leadingPower (num den : Nat) : Int :=
  if den ≤ num then ((digitsOf (num / den)).length : Int) - 1
  else
    let guess := (digitsOf (den / num)).length - 1
    -- num / den lies in (10 ^ (-guess - 1), 10 ^ -guess]
    if num * Nat.pow 10 guess == den then -(guess : Int) else -(guess : Int) - 1

/-- The two neighbours of `num / den` among the multiples of `10 ^ exponent`, the closer first. -/
def neighbours (num den : Nat) (exponent : Int) : List Decimal :=
  let (n, d) := match exponent with
    | .ofNat e => (num, den * Nat.pow 10 e)
    | .negSucc e => (num * Nat.pow 10 (e + 1), den)
  let floor := n / d
  if roundEven n d == floor then [⟨floor, exponent⟩, ⟨floor + 1, exponent⟩]
  else [⟨floor + 1, exponent⟩, ⟨floor, exponent⟩]

/-- The first neighbour with `count` digits or more that reads back, for rising counts. -/
def search (target num den : Nat) (power : Int) : Nat → Nat → Option Decimal
  | 0, _ => none
  | fuel + 1, count =>
    match (neighbours num den (power + 1 - (count : Int))).find? (·.position == target) with
    | some d => some d
    | none => search target num den power fuel (count + 1)

/-- The shortest digits of a finite position. -/
def shortest (target : Nat) : Decimal :=
  if target = 0 then ⟨0, 0⟩
  else
    let num := Binary64.units target
    let den := Nat.pow 2 Binary64.unitPower
    let found := (search target num den (leadingPower num den) 17 1).getD (exact target)
    dropZeros (digitsOf found.digits).length found

end Decimal

end Signoff.Number
