import Mathlib.Data.List.Nodup
import Mathlib.Tactic.Linarith
import Signoff.Proofs.Text.Separated
import Signoff.Time.Instant

/-!
# Writing and reading counts

The digits of a number are read back as the number, also with zeros in front of them.
-/

namespace Signoff

open Text

namespace Text

theorem isDigit_of_mem_digitsOf {n : Nat} {c : Char} (h : c ∈ digitsOf n) : c.isDigit = true :=
  Nat.isDigit_of_mem_toDigits (by omega) (by omega) h

theorem digitsOf_ne_nil (n : Nat) : digitsOf n ≠ [] := Nat.toDigits_ne_nil

theorem ofDigits_eq (cs : List Char) : ofDigits cs = Nat.ofDigitChars 10 cs 0 :=
  Nat.ofDigitChars_eq_foldl.symm

theorem ofDigits_digitsOf (n : Nat) : ofDigits (digitsOf n) = n := by
  rw [ofDigits_eq]
  exact Nat.ofDigitChars_ten_toDigits

theorem readNat?_digitsOf (n : Nat) : readNat? (digitsOf n) = some n := by
  unfold readNat?
  have hall : (digitsOf n).all Char.isDigit = true := by
    rw [List.all_eq_true]
    exact fun c hc => isDigit_of_mem_digitsOf hc
  have hempty : (digitsOf n).isEmpty = false := by
    rw [List.isEmpty_eq_false_iff]
    exact digitsOf_ne_nil n
  rw [hall, hempty, ofDigits_digitsOf]
  rfl

theorem readBelow?_digitsOf {bound n : Nat} (h : n < bound) :
    readBelow? bound (digitsOf n) = some n := by
  unfold readBelow?
  -- the reader takes a plus sign in front, which digits do not have
  have hplus : ∀ rest, digitsOf n ≠ '+' :: rest := by
    intro rest heq
    have hmem : '+' ∈ digitsOf n := by rw [heq]; exact List.mem_cons_self
    exact absurd (isDigit_of_mem_digitsOf hmem) (by decide)
  dsimp only
  split
  next rest heq => exact absurd heq (hplus rest)
  next =>
    rw [readNat?_digitsOf, Option.filter_some]
    simp [h]

theorem readUInt64?_digitsOf (n : UInt64) : readUInt64? (digitsOf n.toNat) = some n := by
  unfold readUInt64?
  rw [readBelow?_digitsOf n.toNat_lt]
  simp

theorem readUInt32?_digitsOf (n : UInt32) : readUInt32? (digitsOf n.toNat) = some n := by
  unfold readUInt32?
  rw [readBelow?_digitsOf n.toNat_lt]
  simp

end Text

namespace Time

theorem isDigit_of_mem_padded {width n : Nat} {c : Char} (h : c ∈ padded width n) :
    c.isDigit = true := by
  unfold padded at h
  rcases List.mem_append.mp h with h | h
  · rw [(List.mem_replicate.mp h).2]
    decide
  · exact isDigit_of_mem_digitsOf h

theorem ofDigits_padded (width n : Nat) : ofDigits (padded width n) = n := by
  unfold padded
  -- zeros in front add nothing
  rw [ofDigits_eq, Nat.ofDigitChars_append, Nat.ofDigitChars_replicate_zero, Nat.mul_zero,
    ← ofDigits_eq, ofDigits_digitsOf]

theorem padded_injective {width m n : Nat} (h : padded width m = padded width n) : m = n := by
  rw [← ofDigits_padded width m, h, ofDigits_padded]

end Time

end Signoff
