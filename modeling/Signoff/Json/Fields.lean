import Signoff.Json.Basic

/-!
# Taking fields out of JSON values

A structure is an object, or an array of its fields in order. An object may hold other members and
the members in any order, but no field twice. A missing field is an error unless it is optional.
-/

namespace Signoff.Json

def text? : Json → Option String
  | .text s => s
  | _ => none

def bool? : Json → Option Bool
  | .bool b => some b
  | _ => none

def uint64? : Json → Option UInt64
  | .number n => (n.countBelow? UInt64.size).map UInt64.ofNat
  | _ => none

def uint32? : Json → Option UInt32
  | .number n => (n.countBelow? UInt32.size).map UInt32.ofNat
  | _ => none

/-- A number of any spelling, unless it is too large to be finite. -/
def real? : Json → Option Number.Binary64
  | .number n => if n.value.isFinite then some n.value else none
  | _ => none

def listOf? {α : Type} (f : Json → Option α) : Json → Option (List α)
  | .array items => items.mapM f
  | _ => none

/-- A value without parameters: its name, or an object with the name as only key and `null`. -/
def name? : Json → Option String
  | .text s => s
  | .object [(key, .null)] => key
  | _ => none

/-- The name of a value without parameters that was kept before its meaning was known: there an
empty object stands for `null` too. -/
def keptName? : Json → Option String
  | .object [(key, .object [])] => key
  | j => name? j

/-- `null` is the absent value. -/
def optional? {α : Type} (f : Json → Option α) : Json → Option (Option α)
  | .null => some none
  | j => (f j).map some

/-- The members with the given key. -/
def valuesOf (key : String) (members : List (Option String × Json)) : List Json :=
  (members.filter fun (k, _) => k == some key).map (·.2)

/-- The fields with the given names, in that order; `none` for one that is missing. -/
def fields? (names : List String) : Json → Option (List (Option Json))
  | .array items => if items.length = names.length then some (items.map some) else none
  | .object members =>
    if members.all fun (key, _) => key.isSome then
      names.mapM fun name =>
        match valuesOf name members with
        | [] => some none
        | [j] => some (some j)
        | _ => none
    else none
  | _ => none

/-- The value of a field that must be there. -/
def need? {α : Type} (f : Json → Option α) (field : Option Json) : Option α := field.bind f

/-- The value of a field that may be missing or `null`. -/
def may? {α : Type} (f : Json → Option α) (field : Option Json) : Option (Option α) :=
  match field with
  | none => some none
  | some j => optional? f j

end Signoff.Json
