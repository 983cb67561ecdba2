import Signoff.Number.Shortest

/-!
# Numbers with a set count of digits

`significant` rounds a number to a count of digits from its first one on; a tie goes to the even
digit. On it rest the form with an exponent and the general form, which has no exponent for powers
from -4 up to, but not including, the count of digits.
-/

namespace Signoff.Number

open Signoff.Text

namespace Binary64

/-- The first digits of a finite number and the power of ten of the first one. -/
def significant (count : Nat) (x : Binary64) : List Char × Int :=
  if x.position = 0 then (List.replicate count '0', 0)
  else
    let num := units x.position
    let den := Nat.pow 2 unitPower
    let power := Decimal.leadingPower num den
    let n := match (count : Int) - 1 - power with
      | .ofNat e => roundEven (num * Nat.pow 10 e) den
      | .negSucc e => roundEven num (den * Nat.pow 10 (e + 1))
    -- rounding up may have given one digit more
    if n = Nat.pow 10 count then ('1' :: List.replicate (count - 1) '0', power + 1)
    else (digitsOf n, power)

/-- An exponent with a sign and at least two digits. -/
def exponentText (e : Int) : List Char :=
  let digits := digitsOf e.natAbs
  'e' :: (if e < 0 then '-' else '+') :: List.replicate (2 - digits.length) '0' ++ digits

def pointed (whole fraction : List Char) : List Char :=
  if fraction.isEmpty then whole else whole ++ '.' :: fraction

/-- The absolute value with a count of places. -/
def fixedDigits (places : Nat) (x : Binary64) : List Char :=
  let n := roundEven (units x.position * Nat.pow 10 places) (Nat.pow 2 unitPower)
  let digits := digitsOf n
  let padded := List.replicate (places + 1 - digits.length) '0' ++ digits
  pointed (padded.take (padded.length - places)) (padded.drop (padded.length - places))

/-- The absolute value with an exponent and a count of places. -/
def scientificDigits (places : Nat) (x : Binary64) : List Char :=
  let (digits, power) := x.significant (places + 1)
  pointed (digits.take 1) (digits.drop 1) ++ exponentText power

def dropLastZeros (cs : List Char) : List Char := (cs.reverse.dropWhile (· == '0')).reverse

/-- The absolute value in the general form; zeros at the end may be kept. -/
def generalDigits (count : Nat) (keepsZeros : Bool) (x : Binary64) : List Char :=
  let count := if count = 0 then 1 else count
  let (digits, power) := x.significant count
  let trim (cs : List Char) := if keepsZeros then cs else dropLastZeros cs
  if -4 ≤ power && power < (count : Int) then
    if power < 0 then
      pointed ['0'] (trim (List.replicate (-power - 1).toNat '0' ++ digits))
    else pointed (digits.take (power.toNat + 1)) (trim (digits.drop (power.toNat + 1)))
  else pointed (digits.take 1) (trim (digits.drop 1)) ++ exponentText power

end Binary64

end Signoff.Number
