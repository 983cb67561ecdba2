import Mathlib.Tactic.Linarith
import Mathlib.Tactic.Ring
import Signoff.Number.Decimal

/-!
# The nearest number

`Binary64.nearest` depends on the value of a fraction alone (`nearest_congr`), and gives a finite
position back for its exact value (`nearest_units`).  A decimal is rounded as the fraction that it
is (`exists_nearestDecimal`), also where its size is seen from the exponent.
-/

namespace Signoff.Number

/-! ## Fractions -/

theorem roundEven_mul_left {c : Nat} (hc : 0 < c) (num den : Nat) :
    roundEven (c * num) (c * den) = roundEven num den := by
  have htwice : 2 * (c * num % (c * den)) = c * (2 * (num % den)) := by
    rw [Nat.mul_mod_mul_left]
    ring
  have hlt : c * den < c * (2 * (num % den)) ↔ den < 2 * (num % den) :=
    Nat.mul_lt_mul_left hc
  have heq : c * (2 * (num % den)) = c * den ↔ 2 * (num % den) = den :=
    Nat.mul_right_inj (by omega)
  -- quotient and comparisons with the half stay the same when both sides are multiplied
  unfold roundEven
  simp only [Nat.mul_div_mul_left _ _ hc, htwice, hlt, heq, beq_eq_decide]

namespace Binary64

theorem nearest_mul_left {c : Nat} (hc : 0 < c) (num den : Nat) :
    nearest (c * num) (c * den) = nearest num den := by
  unfold nearest
  simp only [Nat.mul_assoc c, Nat.mul_div_mul_left _ _ hc, roundEven_mul_left hc]

/-- Fractions of one value have one nearest position. -/
theorem nearest_congr {num den num' den' : Nat} (hden : 0 < den) (hden' : 0 < den')
    (h : (num : ℚ) / den = num' / den') : nearest num den = nearest num' den' := by
  have hcross : den' * num = den * num' := by
    rw [div_eq_div_iff (by positivity) (by positivity)] at h
    have : (den' : ℚ) * num = den * num' := by linarith
    exact_mod_cast this
  rw [← nearest_mul_left hden' num den, ← nearest_mul_left hden num' den', hcross,
    Nat.mul_comm den' den]

theorem pow_eq (b n : Nat) : Nat.pow b n = b ^ n := rfl

theorem two_pow_pos (n : Nat) : 0 < Nat.pow 2 n := Nat.two_pow_pos n

/-- The exact value of a finite position. -/
theorem nearest_units {p : Nat} (hp : p < infinity) :
    nearest (units p) (Nat.pow 2 unitPower) = p := by
  have hD := two_pow_pos unitPower
  generalize hDeq : Nat.pow 2 unitPower = D at hD
  have hbinade : binade = 2 ^ 52 := by decide
  unfold nearest
  rw [hDeq]
  dsimp only
  rw [Nat.mul_div_cancel _ hD]
  -- below the first binade the spacing is one unit; above it, one unit times a power of two
  by_cases hsmall : p < binade
  · have hunits : units p = p := if_pos hsmall
    have hlog : Nat.log2 p - 52 = 0 := by
      by_cases h0 : p = 0
      · subst h0
        decide
      · have := (Nat.log2_lt h0).mpr (hbinade ▸ hsmall)
        omega
    rw [hunits, hlog, Nat.zero_mul, Nat.zero_add]
    have hone : D * Nat.pow 2 0 = D := Nat.mul_one D
    rw [hone, roundEven_mul p hD, if_pos hp]
  · have hq : 1 ≤ p / binade := by
      rw [Nat.one_le_div_iff (by decide)]
      omega
    have hm : p % binade < binade := Nat.mod_lt _ (by decide)
    have hunits : units p = (binade + p % binade) * Nat.pow 2 (p / binade - 1) := if_neg hsmall
    -- the units lie between two powers of two, which gives back the binade
    have hlog : Nat.log2 (units p) = 52 + (p / binade - 1) := by
      rw [hunits, Nat.log2_eq_iff]
      · have hpow := two_pow_pos (p / binade - 1)
        refine ⟨?_, ?_⟩
        · rw [Nat.pow_add, ← hbinade]
          exact Nat.mul_le_mul_right _ (by omega)
        · rw [show 52 + (p / binade - 1) + 1 = 53 + (p / binade - 1) by omega, Nat.pow_add]
          refine Nat.mul_lt_mul_of_pos_right ?_ hpow
          have : (2 : Nat) ^ 53 = binade + binade := by decide
          omega
      · have hpow := two_pow_pos (p / binade - 1)
        have : 0 < binade + p % binade := by
          have : 0 < binade := by decide
          omega
        exact (Nat.mul_pos this hpow).ne'
    have hshift : Nat.log2 (units p) - 52 = p / binade - 1 := by omega
    rw [hshift, hunits]
    have hpow := two_pow_pos (p / binade - 1)
    generalize Nat.pow 2 (p / binade - 1) = P at hpow
    rw [Nat.mul_assoc, Nat.mul_comm P D, roundEven_mul _ (Nat.mul_pos hD hpow)]
    -- the binade and the rest of the position are put together again
    have hposition : (p / binade - 1) * binade + (binade + p % binade) = p := by
      have hsplit := Nat.div_add_mod p binade
      have hone : (p / binade - 1) * binade + binade = p / binade * binade := by
        rw [← Nat.succ_mul, Nat.succ_eq_add_one, Nat.sub_add_cancel hq]
      rw [Nat.mul_comm] at hsplit
      omega
    rw [hposition, if_pos hp]

/-- What lies below half the smallest positive value is zero. -/
theorem nearest_of_small {num den : Nat} (h : 2 * (num * Nat.pow 2 unitPower) < den) :
    nearest num den = 0 := by
  unfold nearest
  generalize num * Nat.pow 2 unitPower = scaled at h
  have hdiv : scaled / den = 0 := Nat.div_eq_of_lt (by omega)
  have hmod : scaled % den = scaled := Nat.mod_eq_of_lt (by omega)
  have hshift : Nat.log2 0 - 52 = 0 := by decide
  have hone : den * Nat.pow 2 0 = den := Nat.mul_one den
  have hround : roundEven scaled den = 0 := by
    unfold roundEven
    simp only [hdiv, hmod]
    rw [if_neg]
    simp only [Bool.or_eq_true, Bool.and_eq_true, decide_eq_true_eq, beq_iff_eq]
    omega
  simp only [hdiv, hshift, hone, hround]
  decide

/-- What is too large is infinite. -/
theorem nearest_of_large {num den power : Nat} (hden : 0 < den) (hpower : 1024 ≤ power)
    (h : 2 ^ power * den ≤ num) : nearest num den = infinity := by
  have hquot : 2 ^ power * Nat.pow 2 unitPower ≤ num * Nat.pow 2 unitPower / den := by
    rw [Nat.le_div_iff_mul_le hden, Nat.mul_right_comm]
    exact Nat.mul_le_mul_right (Nat.pow 2 unitPower) h
  have hpow : 2 ^ power * Nat.pow 2 unitPower = 2 ^ (power + unitPower) := by
    rw [Nat.pow_add, pow_eq]
  rw [hpow] at hquot
  unfold nearest
  dsimp only
  generalize num * Nat.pow 2 unitPower = scaled at hquot
  have hne : scaled / den ≠ 0 := by
    have := Nat.two_pow_pos (power + unitPower)
    omega
  have hlog : power + unitPower ≤ Nat.log2 (scaled / den) := (Nat.le_log2 hne).mpr hquot
  have hlow := Nat.log2_self_le hne
  have hunit : unitPower = 1074 := rfl
  obtain ⟨shift, hshift⟩ : ∃ shift, Nat.log2 (scaled / den) = shift + 52 :=
    ⟨Nat.log2 (scaled / den) - 52, by omega⟩
  rw [hshift] at hlow hlog ⊢
  rw [Nat.add_sub_cancel]
  have hbinade : binade = 2 ^ 52 := by decide
  -- the first 53 bits of the quotient are a full binade, and the shift is past the last one
  have hround : binade ≤ roundEven scaled (den * Nat.pow 2 shift) := by
    refine le_trans ?_ (floor_le_roundEven _ _)
    rw [← Nat.div_div_eq_div_mul, Nat.le_div_iff_mul_le (two_pow_pos shift), hbinade]
    refine le_trans (le_of_eq ?_) hlow
    rw [Nat.add_comm, Nat.pow_add]
    rfl
  have hmul : 2046 * binade ≤ shift * binade := Nat.mul_le_mul_right _ (by omega)
  have hinfinity : infinity = 2046 * binade + binade := by decide
  rw [if_neg]
  omega

end Binary64

/-! ## Decimals -/

open Binary64

/-- A decimal is rounded as the fraction that it is. -/
theorem exists_nearestDecimal (digits : Nat) (exponent : Int) :
    ∃ num den : Nat, 0 < den ∧ (num : ℚ) / den = digits * 10 ^ exponent ∧
      nearestDecimal digits exponent = nearest num den := by
  unfold nearestDecimal
  by_cases hzero : digits = 0
  · subst hzero
    refine ⟨0, 1, Nat.one_pos, by simp, ?_⟩
    rw [if_pos rfl, nearest_of_small]
    rw [Nat.zero_mul]
    decide
  · rw [if_neg hzero]
    cases exponent with
    | ofNat e =>
      refine ⟨digits * Nat.pow 10 e, 1, Nat.one_pos, ?_, ?_⟩
      · rw [Nat.cast_one, div_one, Nat.cast_mul, Int.ofNat_eq_natCast, zpow_natCast]
        exact congrArg _ (Nat.cast_pow 10 e)
      · dsimp only
        split
        -- the size alone says that the number is too large
        next hlarge =>
          refine (nearest_of_large Nat.one_pos (Nat.le_refl 1024) ?_).symm
          rw [Nat.mul_one]
          calc 2 ^ 1024 ≤ 10 ^ 311 := by decide +kernel
            _ ≤ 10 ^ e := Nat.pow_le_pow_right (by decide) hlarge
            _ ≤ digits * 10 ^ e := Nat.le_mul_of_pos_left _ (Nat.pos_of_ne_zero hzero)
        next => rfl
    | negSucc e =>
      refine ⟨digits, Nat.pow 10 (e + 1), Nat.pow_pos (by omega), ?_, ?_⟩
      · rw [zpow_negSucc, div_eq_mul_inv]
        exact congrArg (fun x => (digits : ℚ) * x⁻¹) (Nat.cast_pow 10 (e + 1))
      · dsimp only
        split
        -- the digits are too few to make up for the negative exponent
        next hsmall =>
          refine (nearest_of_small ?_).symm
          have hdigits : digits < 2 ^ (Nat.log2 digits + 1) := Nat.lt_log2_self
          have hunit : unitPower = 1074 := rfl
          calc 2 * (digits * Nat.pow 2 unitPower)
              < 2 * (2 ^ (Nat.log2 digits + 1) * Nat.pow 2 unitPower) :=
                (Nat.mul_lt_mul_left (by decide)).mpr
                  (Nat.mul_lt_mul_of_pos_right hdigits (two_pow_pos unitPower))
            _ = 2 ^ (1 + (Nat.log2 digits + 1) + unitPower) := by
                rw [Nat.pow_add 2 (1 + (Nat.log2 digits + 1)) unitPower,
                  Nat.pow_add 2 1 (Nat.log2 digits + 1), Nat.pow_one, Nat.mul_assoc, pow_eq]
            _ ≤ 2 ^ (3 * e) := Nat.pow_le_pow_right (by omega) (by omega)
            _ = 8 ^ e := by rw [Nat.pow_mul]
            _ ≤ 10 ^ e := Nat.pow_le_pow_left (by omega) e
            _ ≤ Nat.pow 10 (e + 1) := Nat.pow_le_pow_right (by omega) (by omega)
        next => rfl

/-- Decimals of one value have one nearest position. -/
theorem nearestDecimal_congr {digits digits' : Nat} {exponent exponent' : Int}
    (h : (digits : ℚ) * 10 ^ exponent = digits' * 10 ^ exponent') :
    nearestDecimal digits exponent = nearestDecimal digits' exponent' := by
  obtain ⟨num, den, hden, hvalue, hnearest⟩ := exists_nearestDecimal digits exponent
  obtain ⟨num', den', hden', hvalue', hnearest'⟩ := exists_nearestDecimal digits' exponent'
  rw [hnearest, hnearest']
  exact nearest_congr hden hden' (hvalue.trans (h.trans hvalue'.symm))

end Signoff.Number
