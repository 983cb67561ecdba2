import Mathlib.Tactic.FieldSimp
import Signoff.Number.Numeral
import Signoff.Proofs.Number.Nearest
import Signoff.Proofs.Text.Digits

/-!
# Numerals stand for their numbers

The shortest digits of a finite position are rounded back to it (`position_shortest`), and so are
they however the numeral spells them (`value_numeral`).
-/

namespace Signoff.Number

open Text

namespace Decimal

variable {d : Decimal} {target : Nat}

theorem position_congr {d d' : Decimal}
    (h : (d.digits : ℚ) * 10 ^ d.exponent = d'.digits * 10 ^ d'.exponent) :
    d.position = d'.position := nearestDecimal_congr h

theorem position_dropZeros (fuel : Nat) (d : Decimal) :
    (dropZeros fuel d).position = d.position := by
  induction fuel generalizing d with
  | zero => rfl
  | succ fuel ih =>
    rw [dropZeros]
    split
    next h =>
      rw [ih]
      refine position_congr ?_
      simp only [Bool.and_eq_true, beq_iff_eq] at h
      -- a zero dropped from the digits is made up for by the exponent
      have hdigits : d.digits = 10 * (d.digits / 10) := by omega
      have hcast : (d.digits : ℚ) = 10 * ((d.digits / 10 : Nat) : ℚ) := by
        exact_mod_cast hdigits
      dsimp only
      rw [hcast, zpow_add₀ (by norm_num), zpow_one]
      ring
    next => rfl

theorem position_of_search {num den : Nat} {power : Int} {fuel count : Nat}
    (h : search target num den power fuel count = some d) : d.position = target := by
  induction fuel generalizing count with
  | zero => simp [search] at h
  | succ fuel ih =>
    rw [search] at h
    split at h
    -- the search only gives digits that it has rounded back itself
    next d' hfind =>
      have hback := List.find?_some hfind
      rw [← Option.some.inj h]
      exact beq_iff_eq.mp hback
    next => exact ih h

theorem position_exact (h : target < Binary64.infinity) : (exact target).position = target := by
  obtain ⟨num, den, hden, hvalue, hnearest⟩ := exists_nearestDecimal
    (Binary64.units target * Nat.pow 5 Binary64.unitPower) (-(Binary64.unitPower : Int))
  refine hnearest.trans ((Binary64.nearest_congr hden
    (Binary64.two_pow_pos Binary64.unitPower) ?_).trans (Binary64.nearest_units h))
  -- a unit is a power of one half, and so a decimal with as many digits after the point
  rw [hvalue, zpow_neg, zpow_natCast, Binary64.pow_eq, Binary64.pow_eq]
  generalize Binary64.unitPower = n
  rw [Nat.cast_mul, Nat.cast_pow, Nat.cast_pow, show (10 : ℚ) = 5 * 2 by norm_num, mul_pow]
  field_simp
  norm_num

/-- The shortest digits are rounded back. -/
theorem position_shortest (h : target < Binary64.infinity) :
    (shortest target).position = target := by
  unfold shortest
  split
  next hzero =>
    rw [hzero]
    decide
  next =>
    dsimp only
    rw [position_dropZeros]
    -- seventeen digits are enough, but the proof does not need that: the exact digits follow
    cases hsearch : search target (Binary64.units target) (Nat.pow 2 Binary64.unitPower)
        (leadingPower (Binary64.units target) (Nat.pow 2 Binary64.unitPower)) 17 1 with
    | some d => exact position_of_search hsearch
    | none => exact position_exact h

end Decimal

/-! ## Spelling -/

theorem length_digitsOf_pos (n : Nat) : 0 < (digitsOf n).length :=
  List.length_pos_iff.mpr (digitsOf_ne_nil n)

theorem ofDigits_append_zeros (n k : Nat) :
    ofDigits (digitsOf n ++ List.replicate k '0') = 10 ^ k * n := by
  rw [ofDigits_eq, Nat.ofDigitChars_append, Nat.ofDigitChars_replicate_zero, ← ofDigits_eq,
    ofDigits_digitsOf]

theorem ofDigits_zeros_append (n k : Nat) :
    ofDigits (List.replicate k '0' ++ digitsOf n) = n := by
  rw [ofDigits_eq, Nat.ofDigitChars_append, Nat.ofDigitChars_replicate_zero, Nat.mul_zero,
    ← ofDigits_eq, ofDigits_digitsOf]

/-- A numeral is rounded as the digits that it spells. -/
theorem position_numeral (style : DecimalStyle) (x : Binary64) :
    (style.numeral x).position = (Decimal.shortest x.position).position := by
  generalize hd : Decimal.shortest x.position = d
  have hlen := length_digitsOf_pos d.digits
  unfold DecimalStyle.numeral Decimal.position
  rw [hd]
  dsimp only
  split
  · split
    next hexponent =>
      unfold Numeral.position
      -- the digits are written with the zeros of the exponent and one behind the point
      have hzeros : digitsOf d.digits ++ List.replicate d.exponent.toNat '0' ++ ['0'] =
          digitsOf d.digits ++ List.replicate (d.exponent.toNat + 1) '0' := by
        rw [List.append_assoc, ← List.replicate_succ']
      dsimp only
      rw [hzeros, ofDigits_append_zeros]
      refine nearestDecimal_congr ?_
      obtain ⟨n, hn⟩ := Int.eq_ofNat_of_zero_le hexponent
      rw [hn, Int.toNat_natCast, zpow_natCast]
      push_cast
      rw [pow_succ]
      norm_num
      ring
    next hexponent =>
      split
      next hpower =>
        unfold Numeral.position
        dsimp only
        rw [List.take_append_drop, ofDigits_digitsOf, List.length_drop, Option.getD_none]
        congr 1
        omega
      next hpower =>
        unfold Numeral.position
        dsimp only
        rw [List.singleton_append, ← List.cons_append, ← List.replicate_succ,
          ofDigits_zeros_append, List.length_append, List.length_replicate, Option.getD_none]
        congr 1
        omega
  · unfold Numeral.position
    dsimp only
    rw [List.take_append_drop, ofDigits_digitsOf, List.length_drop, Option.getD_some]
    congr 1
    omega

/-- A numeral of a finite number stands for it. -/
theorem value_numeral (style : DecimalStyle) {x : Binary64} (h : x.isFinite = true) :
    (style.numeral x).value = x := by
  have hnegative : (style.numeral x).negative = x.negative := by
    unfold DecimalStyle.numeral
    dsimp only
    split
    · split
      · rfl
      · split <;> rfl
    · rfl
  have hposition : (style.numeral x).position = x.position := by
    rw [position_numeral, Decimal.position_shortest (of_decide_eq_true h)]
  unfold Numeral.value
  rw [hnegative, hposition]

/-- A spelling of the common form: digits on both sides of the point, and no zero in front of
others. -/
structure Numeral.IsSpelled (n : Numeral) : Prop where
  nonempty : n.whole ≠ []
  whole : ∀ c ∈ n.whole, c.isDigit = true
  leading : ∀ c rest, n.whole = '0' :: c :: rest → False
  fraction : ∀ c ∈ n.fraction, c.isDigit = true

theorem digitsOf_leading {n : Nat} (h : n ≠ 0) (rest : List Char) :
    digitsOf n ≠ '0' :: rest := by
  induction n using Nat.strong_induction_on generalizing rest with
  | _ n ih =>
    unfold digitsOf at ih ⊢
    rw [Nat.toDigits_eq_if (by omega)]
    split
    next hlt =>
      intro heq
      have hchar : ∀ m < 10, m ≠ 0 → Nat.digitChar m ≠ '0' := by decide
      exact hchar n hlt h (List.cons.inj heq).1
    next hge =>
      intro heq
      obtain ⟨c, cs, hcs⟩ := List.exists_cons_of_ne_nil (@Nat.toDigits_ne_nil (n / 10) 10)
      rw [hcs, List.cons_append] at heq
      rw [(List.cons.inj heq).1] at hcs
      exact ih (n / 10) (by omega) (by omega) cs hcs

theorem isSpelled_ofNat (n : Nat) : (Numeral.ofNat n).IsSpelled where
  nonempty := digitsOf_ne_nil n
  whole _ hc := isDigit_of_mem_digitsOf hc
  leading c rest heq := by
    by_cases h : n = 0
    · subst h
      have hzero : digitsOf 0 = ['0'] := by decide
      have hwhole : digitsOf 0 = '0' :: c :: rest := heq
      rw [hzero] at hwhole
      simp at hwhole
    · exact digitsOf_leading h _ heq
  fraction c hc := by simp [Numeral.ofNat] at hc

/-- Zero alone has the digit zero. -/
theorem shortest_of_digits {target : Nat} (h : target < Binary64.infinity)
    (hzero : (Decimal.shortest target).digits = 0) : Decimal.shortest target = ⟨0, 0⟩ := by
  have hposition := Decimal.position_shortest h
  unfold Decimal.position nearestDecimal at hposition
  rw [hzero, if_pos rfl] at hposition
  rw [← hposition]
  rfl

theorem isSpelled_numeral (style : DecimalStyle) {x : Binary64} (h : x.isFinite = true) :
    (style.numeral x).IsSpelled := by
  have hzero := shortest_of_digits (of_decide_eq_true h)
  generalize hd : Decimal.shortest x.position = d at hzero
  have hlen := length_digitsOf_pos d.digits
  have hdigits : ∀ c ∈ digitsOf d.digits, c.isDigit = true := fun c hc =>
    isDigit_of_mem_digitsOf hc
  have hnought : ∀ c ∈ ['0'], c.isDigit = true := fun c hc => by
    rw [List.mem_singleton.mp hc]
    decide
  have hreplicate : ∀ {k c}, c ∈ List.replicate k '0' → c.isDigit = true := by
    intro k c hc
    rw [(List.mem_replicate.mp hc).2]
    decide
  unfold DecimalStyle.numeral
  rw [hd]
  dsimp only
  split
  · split
    next hexponent =>
      refine ⟨by simp [digitsOf_ne_nil], fun c hc => ?_, fun c rest heq => ?_, hnought⟩
      · exact (List.mem_append.mp hc).elim (hdigits c) hreplicate
      -- zero is spelled with one digit, and other digits do not start with zero
      · by_cases h0 : d.digits = 0
        · rw [hzero h0] at heq
          have hone : digitsOf 0 ++ List.replicate (Int.toNat 0) '0' = ['0'] := by decide
          rw [hone] at heq
          simp at heq
        · obtain ⟨a, as, has⟩ := List.exists_cons_of_ne_nil (digitsOf_ne_nil d.digits)
          rw [has, List.cons_append] at heq
          rw [(List.cons.inj heq).1] at has
          exact digitsOf_leading h0 _ has
    next hexponent =>
      have h0 : d.digits ≠ 0 := fun h0 => hexponent (by rw [hzero h0])
      split
      next hpower =>
        refine ⟨?_, fun c hc => hdigits c (List.mem_of_mem_take hc), fun c rest heq => ?_,
          fun c hc => hdigits c (List.mem_of_mem_drop hc)⟩
        · rw [← List.length_pos_iff, List.length_take]
          omega
        · have hsplit := List.take_append_drop
            ((((digitsOf d.digits).length : Int) - 1 + d.exponent).toNat + 1) (digitsOf d.digits)
          dsimp only at heq
          rw [heq, List.cons_append] at hsplit
          exact digitsOf_leading h0 _ hsplit.symm
      next hpower =>
        refine ⟨by simp, hnought, fun c rest heq => by simp at heq, fun c hc => ?_⟩
        exact (List.mem_append.mp hc).elim hreplicate (hdigits c)
  · refine ⟨?_, fun c hc => hdigits c (List.mem_of_mem_take hc), fun c rest heq => ?_,
      fun c hc => hdigits c (List.mem_of_mem_drop hc)⟩
    · rw [← List.length_pos_iff, List.length_take]
      omega
    -- one digit stands in front of the point, so nothing can follow it there
    · have hlength := congrArg List.length heq
      dsimp only at hlength
      rw [List.length_take, List.length_cons, List.length_cons] at hlength
      omega

end Signoff.Number
