/-!
# Text from bytes

Bytes are read as UTF-8. Where they are none, each longest front part of a character counts as one
replacement character, and so does a byte that starts none.
-/

namespace Signoff.Text

def replacement : Char := '\uFFFD'

/-- A byte that goes on with a character. -/
def isFollowing (b : UInt8) : Bool := 0x80 ≤ b && b ≤ 0xBF

/-- How many bytes follow a first byte, and the range of the second one. -/
def shapeOf (b : UInt8) : Option (Nat × UInt8 × UInt8) :=
  if 0xC2 ≤ b && b ≤ 0xDF then some (1, 0x80, 0xBF)
  else if b = 0xE0 then some (2, 0xA0, 0xBF)
  else if b = 0xED then some (2, 0x80, 0x9F)
  else if 0xE1 ≤ b && b ≤ 0xEF then some (2, 0x80, 0xBF)
  else if b = 0xF0 then some (3, 0x90, 0xBF)
  else if 0xF1 ≤ b && b ≤ 0xF3 then some (3, 0x80, 0xBF)
  else if b = 0xF4 then some (3, 0x80, 0x8F)
  else none

/-- The bits of a first byte that belong to the character. -/
def leadBits (count : Nat) (b : UInt8) : Nat :=
  if count = 1 then b.toNat - 0xC0 else if count = 2 then b.toNat - 0xE0 else b.toNat - 0xF0

/-- Goes on with a character of which `left` bytes are missing. -/
def decodeFrom : Option (Nat × Nat × UInt8 × UInt8) → List UInt8 → List Char
  | none, [] => []
  | some _, [] => [replacement]
  | none, b :: bs =>
    if b < 0x80 then Char.ofNat b.toNat :: decodeFrom none bs
    else match shapeOf b with
      | some (count, low, high) => decodeFrom (some (count, leadBits count b, low, high)) bs
      | none => replacement :: decodeFrom none bs
  | some (left, bits, low, high), b :: bs =>
    if low ≤ b && b ≤ high then
      let bits := 64 * bits + (b.toNat - 0x80)
      if left = 1 then Char.ofNat bits :: decodeFrom none bs
      else decodeFrom (some (left - 1, bits, 0x80, 0xBF)) bs
    else
      -- the byte that does not fit may start a character
      if b < 0x80 then replacement :: Char.ofNat b.toNat :: decodeFrom none bs
      else match shapeOf b with
        | some (count, low, high) =>
          replacement :: decodeFrom (some (count, leadBits count b, low, high)) bs
        | none => replacement :: replacement :: decodeFrom none bs

def decodeLossy (content : ByteArray) : String :=
  match String.fromUTF8? content with
  | some text => text
  | none => String.ofList (decodeFrom none content.toList)

end Signoff.Text
