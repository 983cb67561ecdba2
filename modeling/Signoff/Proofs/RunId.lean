import Mathlib.Data.List.Basic
import Mathlib.Tactic.IntervalCases
import Signoff.RunId

/-!
# Reading run identifiers back

An identifier is read from its 32 hexadecimal digits in groups.
-/

namespace Signoff.RunId

open Signoff.Json (hexValue?)

theorem hexValue?_digitChar {n : Nat} (h : n < 16) : hexValue? n.digitChar = some n := by
  interval_cases n <;> decide

/-- The value of hexadecimal digits in front of which a number stands. -/
def hexFold (start : Nat) (cs : List Char) : Option Nat :=
  (cs.mapM hexValue?).map fun values => values.foldl (fun n v => 16 * n + v) start

theorem hexFold_append {start middle : Nat} {as : List Char} (h : hexFold start as = some middle)
    (bs : List Char) : hexFold start (as ++ bs) = hexFold middle bs := by
  unfold hexFold at *
  obtain ⟨values, hvalues, rfl⟩ := Option.map_eq_some_iff.mp h
  rw [List.mapM_append, hvalues]
  cases hbs : bs.mapM hexValue? with
  | none => rfl
  | some more =>
    show some ((values ++ more).foldl _ _) = _
    rw [List.foldl_append]
    rfl

theorem hexFold_toDigits (n : Nat) : hexFold 0 (Nat.toDigits 16 n) = some n := by
  induction n using Nat.strong_induction_on with
  | _ n ih =>
    by_cases h : n < 16
    · rw [Nat.toDigits_of_lt_base h, hexFold]
      show ((hexValue? _).bind _).map _ = _
      rw [hexValue?_digitChar h]
      show some (16 * 0 + n) = some n
      rw [Nat.mul_zero, Nat.zero_add]
    · rw [Nat.toDigits_of_base_le (by decide) (by omega), hexFold_append (ih (n / 16) (by omega)),
        hexFold]
      show ((hexValue? _).bind _).map _ = _
      rw [hexValue?_digitChar (Nat.mod_lt n (by decide))]
      show some (16 * (n / 16) + n % 16) = some n
      rw [Nat.div_add_mod]

theorem hexFold_zeros (k : Nat) : hexFold 0 (List.replicate k '0') = some 0 := by
  induction k with
  | zero => rfl
  | succ k ih => 
    have hzero : hexFold 0 ['0'] = some 0 := by decide
    rw [List.replicate_succ, ← List.singleton_append, hexFold_append hzero, ih]

theorem length_hexText (id : RunId) : id.hexText.length = 32 := by
  have hlt : id.bits.toNat < 16 ^ 32 := id.bits.isLt
  have hle := (Nat.length_toDigits_le_iff (by decide : 1 < 16) (by decide : 0 < 32)).mpr hlt
  unfold hexText
  dsimp only
  rw [List.length_append, List.length_replicate]
  omega

theorem ofHex?_hexText (id : RunId) : ofHex? id.hexText = some id := by
  have hvalue : hexFold 0 id.hexText = some id.bits.toNat := by
    unfold hexText
    rw [hexFold_append (hexFold_zeros _), hexFold_toDigits]
  unfold hexFold at hvalue
  obtain ⟨values, hvalues, hfold⟩ := Option.map_eq_some_iff.mp hvalue
  unfold ofHex?
  rw [if_pos id.length_hexText, hvalues, Option.map_some, hfold, BitVec.ofNat_toNat]
  simp

/-- Groups of digits with hyphens between them are read as the digits. -/
theorem ofGroups?_groups {a b c d e : List Char} (ha : a.length = 8) (hb : b.length = 4)
    (hc : c.length = 4) (hd : d.length = 4) (he : e.length = 12) :
    ofGroups? (a ++ '-' :: b ++ '-' :: c ++ '-' :: d ++ '-' :: e) =
      ofHex? (a ++ (b ++ (c ++ (d ++ e)))) := by
  unfold ofGroups?
  rw [if_pos]
  · simp [List.drop_append, List.drop_eq_nil_of_le, ha, hb, hc, hd]
  · simp [ha, hb, hc, hd, he]

/-- An identifier is read back as it was written. -/
theorem read?_write (id : RunId) : read? id.write = some id := by
  have hlen := id.length_hexText
  have hback := id.ofHex?_hexText
  unfold write
  generalize id.hexText = ds at *
  have hgroups := @ofGroups?_groups (ds.take 8) ((ds.drop 8).take 4) ((ds.drop 12).take 4)
    ((ds.drop 16).take 4) (ds.drop 20) (by simp [hlen]) (by simp [hlen]) (by simp [hlen])
    (by simp [hlen]) (by simp [hlen])
  -- the groups together are the digits
  have hjoin : ds.take 8 ++ ((ds.drop 8).take 4 ++ ((ds.drop 12).take 4 ++
      ((ds.drop 16).take 4 ++ ds.drop 20))) = ds := by
    have hstep : ∀ k n, (ds.drop k).take n ++ ds.drop (k + n) = ds.drop k := by
      intro k n
      rw [← List.drop_drop, List.take_append_drop]
    rw [hstep 16 4, hstep 12 4, hstep 8 4, List.take_append_drop]
  rw [hjoin, hback] at hgroups
  unfold read?
  rw [String.toList_ofList]
  dsimp only
  rw [if_neg (by simp [hlen]), if_neg (by simp [hlen]), if_neg (by simp [hlen]), hgroups]

end Signoff.RunId
