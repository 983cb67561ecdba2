import Signoff.Config.Toml
import Signoff.Error
import Signoff.Text.Basic

/-!
# Settings of a run

Every setting has a default, a settings file changes some of them, and arguments change them
again. What results is checked: a run needs time for a tool call, room for a job, and a column
separator that separates.
-/

namespace Signoff

open Signoff.Text

/-- How many jobs may run at once. -/
inductive Slots
  | auto
  | fixed (count : UInt64)
deriving DecidableEq, Repr, Inhabited

namespace Slots

def ofCount (n : UInt64) : Except SettingFault Slots :=
  if n = 0 then .error .noSlots else .ok (fixed n)

def read (s : String) : Except SettingFault Slots :=
  let cs := trim s.toList
  if sameLetters cs "auto".toList then .ok auto
  else match readUInt64? cs with
    | none => .error (.invalidSlots (String.ofList cs))
    | some n => ofCount n

def text : Slots → String
  | auto => "auto"
  | fixed n => toString n

/-- At least one slot; with `auto` as many as the machine has processors, up to the cap. -/
def resolve (processors cap : UInt64) : Slots → UInt64
  | fixed n => if n = 0 then 1 else n
  | auto =>
    let cap := if cap = 0 then 1 else cap
    if processors < cap then processors else cap

/-- The count of slots where it does not hang on the machine. -/
def settled? (cap : UInt64) : Slots → Option UInt64
  | fixed n => some (resolve 1 cap (fixed n))
  | auto => if cap ≤ 1 then some 1 else none

end Slots

structure Config where
  binary : Path := ⟨"unit_status"⟩
  tool : Option Path := none
  catalog : Option Path := none
  delimiter : Char := ','
  output : Path := ⟨"regression"⟩
  slots : Slots := .auto
  slotCap : UInt64 := 16
  timeoutSeconds : UInt64 := 1800
  retries : UInt32 := 2
  retryDelaySeconds : UInt64 := 5
deriving DecidableEq, Repr, Inhabited

namespace Config

open Toml (Value)

def pathOf? : Value → Option Path
  | .text s => some ⟨String.ofList s⟩
  | .whole _ => none

/-- A number from zero up to, but not including, `bound`. -/
def countOf? (bound : Nat) : Value → Option Nat
  | .whole n => if 0 ≤ n && n < (bound : Int) then some n.toNat else none
  | .text _ => none

def uint64Of? (v : Value) : Option UInt64 := (countOf? UInt64.size v).map UInt64.ofNat

def charOf? : Value → Option Char
  | .text [c] => some c
  | _ => none

def slotsOf? (v : Value) : Option Slots :=
  match v with
  | .text s => (Slots.read (String.ofList s)).toOption
  | .whole _ => (uint64Of? v).bind fun n => (Slots.ofCount n).toOption

/-- Changes one setting; `none` for an unknown one or a value of another kind. -/
def set? (c : Config) (key : String) (v : Value) : Option Config :=
  if key = "binary_path" then (pathOf? v).map fun p => { c with binary := p }
  else if key = "tool_path" then (pathOf? v).map fun p => { c with tool := some p }
  else if key = "catalog_path" then (pathOf? v).map fun p => { c with catalog := some p }
  else if key = "catalog_delimiter" then (charOf? v).map fun d => { c with delimiter := d }
  else if key = "output_dir" then (pathOf? v).map fun p => { c with output := p }
  else if key = "parallel" then (slotsOf? v).map fun s => { c with slots := s }
  else if key = "auto_parallel_cap" then (uint64Of? v).map fun n => { c with slotCap := n }
  else if key = "timeout_secs" then (uint64Of? v).map fun n => { c with timeoutSeconds := n }
  else if key = "max_retries" then
    (countOf? UInt32.size v).map fun n => { c with retries := UInt32.ofNat n }
  else if key = "retry_delay_secs" then
    (uint64Of? v).map fun n => { c with retryDelaySeconds := n }
  else none

/-- Takes over the entries of a document; a key may stand there once. -/
def setAll? (seen : List (List Char)) (c : Config) : List (List Char × Value) → Option Config
  | [] => some c
  | (key, v) :: rest =>
    if seen.contains key then none
    else (c.set? (String.ofList key) v).bind fun c => setAll? (key :: seen) c rest

def validate (c : Config) : Except SettingFault Unit :=
  if c.timeoutSeconds = 0 then .error .noTimeout
  else if c.slotCap = 0 then .error .noSlotCap
  else if c.delimiter = '\n' || c.delimiter = ';' then .error (.reservedDelimiter c.delimiter)
  else .ok ()

/-- The settings of a document. -/
def read (text : String) : Except SettingFault Config :=
  match (Toml.read? text).bind (setAll? [] {}) with
  | none => .error .malformed
  | some c =>
    match c.validate with
    | .error fault => .error fault
    | .ok () => .ok c

def slotsJson : Slots → Json
  | .auto => Json.ofText "auto"
  | .fixed n => Json.ofNat n.toNat

def toJson (c : Config) : Json :=
  let path (p : Path) := Json.ofText p.text
  Json.ofMembers [("binary_path", path c.binary), ("tool_path", Json.ofOption path c.tool),
    ("catalog_path", Json.ofOption path c.catalog),
    ("catalog_delimiter", Json.ofText (String.singleton c.delimiter)),
    ("output_dir", path c.output), ("parallel", slotsJson c.slots),
    ("auto_parallel_cap", Json.ofNat c.slotCap.toNat),
    ("timeout_secs", Json.ofNat c.timeoutSeconds.toNat),
    ("max_retries", Json.ofNat c.retries.toNat),
    ("retry_delay_secs", Json.ofNat c.retryDelaySeconds.toNat)]

end Config

end Signoff
