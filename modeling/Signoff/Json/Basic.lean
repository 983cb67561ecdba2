import Signoff.Number.Numeral

/-!
# JSON values

A number keeps its spelling, so that a reader can tell a count from a real number. A text whose
escapes leave half of a surrogate pair alone has no characters; it is `none`, which no reader of a
text takes.
-/

namespace Signoff

open Signoff.Number

inductive Json where
  | null
  | bool (b : Bool)
  | number (n : Numeral)
  | text (s : Option String)
  | array (items : List Json)
  | object (members : List (Option String × Json))
deriving Repr, Inhabited

namespace Json

def ofText (s : String) : Json := .text (some s)

def ofNat (n : Nat) : Json := .number (Numeral.ofNat n)

/-- Real numbers are written out from `0.00001` up to, but not including, `1e+16`. -/
def realStyle : DecimalStyle := ⟨-5, 16⟩

/-- A real number; what is not finite has no numeral and is `null`. -/
def ofReal (x : Binary64) : Json :=
  if x.isFinite then .number (realStyle.numeral x) else .null

def ofOption {α : Type} (f : α → Json) : Option α → Json
  | none => .null
  | some a => f a

/-- An object with the members in the order given. -/
def ofMembers (members : List (String × Json)) : Json :=
  .object (members.map fun (key, value) => (some key, value))

/-- The larger of two depths. -/
def deeper (m n : Nat) : Nat := if m < n then n else m

mutual

/-- All texts are whole and all numbers finite. -/
def isSound : Json → Bool
  | .null => true
  | .bool _ => true
  | .number n => n.value.isFinite
  | .text s => s.isSome
  | .array items => allSound items
  | .object members => membersSound members

def allSound : List Json → Bool
  | [] => true
  | j :: rest => j.isSound && allSound rest

def membersSound : List (Option String × Json) → Bool
  | [] => true
  | (key, j) :: rest => key.isSome && j.isSound && membersSound rest

end

mutual

/-- How many arrays and objects are open at the deepest place. -/
def depth : Json → Nat
  | .array items => itemsDepth items + 1
  | .object members => membersDepth members + 1
  | _ => 0

def itemsDepth : List Json → Nat
  | [] => 0
  | j :: rest => deeper j.depth (itemsDepth rest)

def membersDepth : List (Option String × Json) → Nat
  | [] => 0
  | (_, j) :: rest => deeper j.depth (membersDepth rest)

end

end Json

end Signoff
