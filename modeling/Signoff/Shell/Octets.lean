import Signoff.Text.Lossy

/-!
# Text as bytes

Scripts and the programs that they call work on bytes, not on characters. Inside the shell a text
is a list of bytes, each as the character with its number.
-/

namespace Signoff.Shell

/-- Bytes as characters with numbers below 256. -/
abbrev Octets := List Char

def octetsOf (bytes : List UInt8) : Octets := bytes.map fun b => Char.ofNat b.toNat

def bytesOf (cs : Octets) : List UInt8 := cs.map fun c => UInt8.ofNat c.toNat

/-- The bytes of a text. -/
def octets (s : String) : Octets := octetsOf s.toUTF8.toList

/-- The text that some bytes spell. -/
def textOf (cs : Octets) : String := Text.decodeLossy ⟨(bytesOf cs).toArray⟩

theorem char_ofNat_uint8 (b : UInt8) : (Char.ofNat b.toNat).toNat = b.toNat := by
  have h : b.toNat < 256 := b.toNat_lt
  have valid : b.toNat.isValidChar := Or.inl (by omega)
  rw [Char.ofNat, dif_pos valid]
  rfl

/-- No byte is lost. -/
theorem bytesOf_octetsOf (bytes : List UInt8) : bytesOf (octetsOf bytes) = bytes := by
  induction bytes with
  | nil => rfl
  | cons b bs ih =>
    simp only [bytesOf, octetsOf, List.map_cons] at ih ⊢
    rw [char_ofNat_uint8, ih]
    simp

/-- Puts a character in front of the first piece, or starts a piece at a separator. -/
def cutStep (separator c : Char) (pieces : List Octets) : List Octets :=
  if c = separator then [] :: pieces
  else match pieces with
    | piece :: rest => (c :: piece) :: rest
    | [] => [[c]]

/-- The pieces between separators. -/
def cutAt (separator : Char) (cs : Octets) : List Octets := cs.foldr (cutStep separator) [[]]

/-- The lines of a text without their line feeds. What follows the last line feed is a line only
if it is not empty. -/
def linesOf (cs : Octets) : List Octets :=
  let pieces := cutAt '\n' cs
  if pieces.getLast? = some [] then pieces.dropLast else pieces

/-- Pieces with a separator between them. -/
def joined (separator : Octets) (pieces : List Octets) : Octets :=
  (pieces.intersperse separator).flatten

/-- The order of texts by their bytes. -/
def compareOctets : Octets → Octets → Ordering
  | [], [] => .eq
  | [], _ :: _ => .lt
  | _ :: _, [] => .gt
  | a :: as, b :: bs => if a < b then .lt else if b < a then .gt else compareOctets as bs

/-- Blanks, as far as bytes are concerned. -/
def isBlankOctet (c : Char) : Bool := c == ' ' || (9 ≤ c.toNat && c.toNat ≤ 13)

end Signoff.Shell
