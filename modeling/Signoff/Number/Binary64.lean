/-!
# Binary64 numbers

A number of the IEEE 754 format binary64 is a sign and the position of its absolute value in the
list of all non-negative values: position 0 is zero, each further position the next larger value,
position `infinity` the infinite value, and what lies above it is not a number. The order of
positions is the order of values, and `nearest` rounds a fraction to the closest position, a tie
to the even one.
-/

namespace Signoff.Number

/-! ## Rounding a quotient -/

/-- The nearest natural number to a quotient; one halfway between two goes to the even one. -/
def roundEven (num den : Nat) : Nat :=
  let floor := num / den
  let twice := 2 * (num % den)
  if den < twice || (twice == den && floor % 2 == 1) then floor + 1 else floor

/-- An exact quotient is left alone. -/
theorem roundEven_mul (n : Nat) {den : Nat} (h : 0 < den) : roundEven (n * den) den = n := by
  have : ¬ den < 0 := by omega
  simp [roundEven, Nat.mul_div_cancel n h, Nat.ne_of_lt h]

theorem floor_le_roundEven (num den : Nat) : num / den ≤ roundEven num den := by
  simp only [roundEven]; split <;> omega

theorem roundEven_le_floor_succ (num den : Nat) : roundEven num den ≤ num / den + 1 := by
  simp only [roundEven]; split <;> omega

/-! ## Positions -/

structure Binary64 where
  negative : Bool
  position : Nat
deriving DecidableEq, Repr, Inhabited

namespace Binary64

/-- Positions between two powers of two. -/
def binade : Nat := 0x10000000000000

def infinity : Nat := 2047 * binade

/-- The power of two that the smallest positive value divides. -/
def unitPower : Nat := 1074

def isNaN (x : Binary64) : Bool := infinity < x.position

def isFinite (x : Binary64) : Bool := x.position < infinity

def zero : Binary64 := ⟨false, 0⟩

def notANumber : Binary64 := ⟨false, infinity + binade / 2⟩

def infinite (negative : Bool) : Binary64 := ⟨negative, infinity⟩

/-- The value at a finite position, counted in units of the smallest positive value. -/
def units (position : Nat) : Nat :=
  if position < binade then position
  else (binade + position % binade) * Nat.pow 2 (position / binade - 1)

/-- The position closest to `num / den`. -/
def nearest (num den : Nat) : Nat :=
  let scaled := num * Nat.pow 2 unitPower
  let shift := Nat.log2 (scaled / den) - 52
  let position := shift * binade + roundEven scaled (den * Nat.pow 2 shift)
  if position < infinity then position else infinity

def ofNat (n : Nat) : Binary64 := ⟨false, nearest n 1⟩

def ofFraction (negative : Bool) (num den : Nat) : Binary64 := ⟨negative, nearest num den⟩

/-- The place of a number that is not NaN on the number line; the two zeros share a place. -/
def place (x : Binary64) : Int := if x.negative then -(x.position : Int) else x.position

def le (x y : Binary64) : Bool := !x.isNaN && !y.isNaN && decide (x.place ≤ y.place)

def lt (x y : Binary64) : Bool := !x.isNaN && !y.isNaN && decide (x.place < y.place)

/-- The rank in the order of all bit patterns, in which negative zero lies below zero. -/
def rank (x : Binary64) : Int :=
  if x.negative then -(x.position : Int) - 1 else x.position

def abs (x : Binary64) : Binary64 := { x with negative := false }

/-- The smaller of two numbers; a number wins over NaN, and the first of two equal ones. -/
def least (x y : Binary64) : Binary64 :=
  if x.isNaN then y else if y.lt x then y else x

def mul (x y : Binary64) : Binary64 :=
  let negative := x.negative != y.negative
  if x.isNaN || y.isNaN then notANumber
  else if !x.isFinite || !y.isFinite then
    if x.position == 0 || y.position == 0 then notANumber else infinite negative
  else ofFraction negative (units x.position * units y.position) (Nat.pow 2 (2 * unitPower))

def div (x y : Binary64) : Binary64 :=
  let negative := x.negative != y.negative
  if x.isNaN || y.isNaN then notANumber
  else if !x.isFinite then if !y.isFinite then notANumber else infinite negative
  else if !y.isFinite then ⟨negative, 0⟩
  else if y.position == 0 then if x.position == 0 then notANumber else infinite negative
  else ofFraction negative (units x.position) (units y.position)

end Binary64

end Signoff.Number
