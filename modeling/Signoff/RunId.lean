import Signoff.Json.Reader

/-!
# Run identifiers

A run is named by 128 bits, written as 32 hexadecimal digits in groups of 8, 4, 4, 4 and 12. They
are also read without hyphens, in braces and as a `urn:uuid:` name, in any letter case.
-/

namespace Signoff

open Signoff.Json (hexValue?)

structure RunId where
  bits : BitVec 128
deriving DecidableEq, Repr, Inhabited

namespace RunId

def nil : RunId := ⟨0⟩

/-- The identifier with given random bytes, marked as random in its version and variant. -/
def ofRandom (bytes : List UInt8) : RunId :=
  let drawn := BitVec.ofNat 128 (bytes.foldl (fun n b => 256 * n + b.toNat) 0)
  let marks := BitVec.ofNat 128 0xF000C000000000000000
  let version := BitVec.ofNat 128 0x40008000000000000000
  ⟨(drawn &&& ~~~marks) ||| version⟩

def hexText (id : RunId) : List Char :=
  let digits := Nat.toDigits 16 id.bits.toNat
  List.replicate (32 - digits.length) '0' ++ digits

def write (id : RunId) : String :=
  let digits := id.hexText
  String.ofList (digits.take 8 ++ '-' :: (digits.drop 8).take 4 ++ '-' :: (digits.drop 12).take 4 ++
    '-' :: (digits.drop 16).take 4 ++ '-' :: digits.drop 20)

/-- The 32 digits, without anything between them. -/
def ofHex? (cs : List Char) : Option RunId :=
  if cs.length = 32 then
    (cs.mapM hexValue?).map fun values =>
      ⟨BitVec.ofNat 128 (values.foldl (fun n v => 16 * n + v) 0)⟩
  else none

/-- The digits in their groups. -/
def ofGroups? (cs : List Char) : Option RunId :=
  let hyphen (i : Nat) := cs[i]? == some '-'
  if cs.length = 36 && hyphen 8 && hyphen 13 && hyphen 18 && hyphen 23 then
    ofHex? (cs.take 8 ++ (cs.drop 9).take 4 ++ (cs.drop 14).take 4 ++ (cs.drop 19).take 4 ++
      cs.drop 24)
  else none

def read? (s : String) : Option RunId :=
  let cs := s.toList
  if cs.length = 32 then ofHex? cs
  else if cs.length = 38 then
    if cs.head? = some '\x7b' && cs.getLast? = some '\x7d' then ofGroups? ((cs.drop 1).take 36)
    else none
  else if cs.length = 45 then
    if (cs.take 9).map Char.toLower = "urn:uuid:".toList then ofGroups? (cs.drop 9) else none
  else ofGroups? cs

end RunId

end Signoff
