import Signoff.Proofs.Number.Nearest

/-!
# How large a rounded number is

A quotient below a power of two is rounded to a position that this power bounds (`nearest_le`), and
a position bounds the value there (`units_lt`). So the products and quotients of numbers of
ordinary size are finite.
-/

namespace Signoff.Number

namespace Binary64

theorem binade_eq : binade = 2 ^ 52 := by decide

/-- A quotient of at most `2 ^ e` is rounded to a position of that binade or below. -/
theorem nearest_le {num den e : Nat} (h : num ≤ 2 ^ e * den) :
    nearest num den ≤ (e + 1024) * binade := by
  have hunit : unitPower = 1074 := rfl
  unfold nearest
  dsimp only
  -- the power is too large to be written out
  generalize unitPower = power at *
  have hquot : num * Nat.pow 2 power / den ≤ 2 ^ (e + power) := by
    refine Nat.div_le_of_le_mul ?_
    rw [Nat.pow_add, ← pow_eq 2 power, ← Nat.mul_assoc, Nat.mul_comm den]
    exact Nat.mul_le_mul_right _ h
  generalize num * Nat.pow 2 power = scaled at hquot
  have hlog : Nat.log2 (scaled / den) ≤ e + power := by
    by_cases hzero : scaled / den = 0
    · rw [hzero]
      exact Nat.zero_le _
    · refine Nat.lt_succ_iff.mp ((Nat.log2_lt hzero).mpr (lt_of_le_of_lt hquot ?_))
      exact Nat.pow_lt_pow_right (by decide) (Nat.lt_succ_self _)
  -- the quotient has at most 53 bits above the shift
  have hbits : scaled / den < 2 ^ (53 + (Nat.log2 (scaled / den) - 52)) :=
    lt_of_lt_of_le Nat.lt_log2_self (Nat.pow_le_pow_right (by decide) (by omega))
  generalize hshift : Nat.log2 (scaled / den) - 52 = shift at hbits ⊢
  have hround : roundEven scaled (den * Nat.pow 2 shift) ≤ 2 * binade := by
    refine le_trans (roundEven_le_floor_succ _ _) ?_
    rw [← Nat.div_div_eq_div_mul, binade_eq]
    refine (Nat.div_lt_iff_lt_mul (two_pow_pos shift)).mpr ?_
    rwa [pow_eq, ← Nat.pow_succ', ← Nat.pow_add]
  have hposition : shift * binade + roundEven scaled (den * Nat.pow 2 shift) ≤
      (e + 1024) * binade := by
    have hmul : shift * binade + 2 * binade ≤ (e + 1024) * binade := by
      rw [← Nat.add_mul]
      exact Nat.mul_le_mul_right _ (by omega)
    omega
  split
  · exact hposition
  · omega

/-- No quotient is rounded to a position above the infinite value. -/
theorem nearest_le_infinity (num den : Nat) : nearest num den ≤ infinity := by
  unfold nearest
  dsimp only
  split
  · omega
  · exact Nat.le_refl _

/-- A quotient of at least one is rounded to the position of one or above it. -/
theorem le_nearest {num den : Nat} (hden : 0 < den) (h : den ≤ num) :
    1023 * binade ≤ nearest num den := by
  have hunit : unitPower = 1074 := rfl
  have hinfinity : infinity = 2047 * binade := rfl
  unfold nearest
  dsimp only
  generalize unitPower = power at *
  have hquot : 2 ^ power ≤ num * Nat.pow 2 power / den := by
    rw [Nat.le_div_iff_mul_le hden, Nat.mul_comm]
    exact Nat.mul_le_mul_right _ h
  generalize num * Nat.pow 2 power = scaled at hquot
  have hne : scaled / den ≠ 0 := by
    have := Nat.two_pow_pos power
    omega
  have hlog : power ≤ Nat.log2 (scaled / den) := (Nat.le_log2 hne).mpr hquot
  have hlow := Nat.log2_self_le hne
  obtain ⟨shift, hshift⟩ : ∃ shift, Nat.log2 (scaled / den) = shift + 52 :=
    ⟨Nat.log2 (scaled / den) - 52, by omega⟩
  rw [hshift] at hlow hlog ⊢
  rw [Nat.add_sub_cancel]
  have hround : binade ≤ roundEven scaled (den * Nat.pow 2 shift) := by
    refine le_trans ?_ (floor_le_roundEven _ _)
    rw [← Nat.div_div_eq_div_mul, Nat.le_div_iff_mul_le (two_pow_pos shift), binade_eq]
    refine le_trans (le_of_eq ?_) hlow
    rw [Nat.add_comm, Nat.pow_add]
    rfl
  have hmul : 1022 * binade ≤ shift * binade := Nat.mul_le_mul_right _ (by omega)
  split <;> omega

/-- The value at a position of a binade or below. -/
theorem units_lt {p k : Nat} (h : p ≤ k * binade) : units p < 2 ^ (k + 53) := by
  have hk : p / binade ≤ k := Nat.div_le_of_le_mul (by rwa [Nat.mul_comm])
  have hpos : 0 < binade := by decide
  unfold units
  split
  next hlow =>
    rw [binade_eq] at hlow
    exact lt_of_lt_of_le hlow (Nat.pow_le_pow_right (by decide) (by omega))
  next =>
    have hmod : binade + p % binade < 2 ^ 53 := by
      have := Nat.mod_lt p hpos
      rw [binade_eq] at this ⊢
      omega
    calc (binade + p % binade) * Nat.pow 2 (p / binade - 1)
        < 2 ^ 53 * Nat.pow 2 (p / binade - 1) :=
          Nat.mul_lt_mul_of_pos_right hmod (two_pow_pos _)
      _ = 2 ^ (53 + (p / binade - 1)) := (Nat.pow_add 2 53 _).symm
      _ ≤ 2 ^ (k + 53) := Nat.pow_le_pow_right (by decide) (by omega)

/-- The value at the position of one or above it. -/
theorem le_units {p : Nat} (h : 1023 * binade ≤ p) : 2 ^ unitPower ≤ units p := by
  have hpos : 0 < binade := by decide
  have hunit : unitPower = 1074 := rfl
  have hdiv : 1023 ≤ p / binade := (Nat.le_div_iff_mul_le hpos).mpr h
  unfold units
  rw [if_neg (by omega)]
  generalize unitPower = power at *
  obtain ⟨more, rfl⟩ : ∃ more, power = 52 + more := ⟨power - 52, by omega⟩
  rw [Nat.pow_add, ← binade_eq, pow_eq]
  exact Nat.mul_le_mul (Nat.le_add_right _ _) (Nat.pow_le_pow_right (by decide) (by omega))

/-- Numbers whose absolute value is below about `2 ^ e`, and finite if `e` is. -/
def Within (e : Nat) (x : Binary64) : Prop := x.position ≤ (e + 1024) * binade

theorem Within.mono {e f : Nat} {x : Binary64} (h : x.Within e) (hef : e ≤ f) : x.Within f :=
  le_trans h (Nat.mul_le_mul_right _ (by omega))

theorem Within.isFinite {e : Nat} {x : Binary64} (h : x.Within e) (he : e ≤ 1022) :
    x.isFinite = true := by
  have hlt : (e + 1024) * binade < infinity :=
    (Nat.mul_lt_mul_right (by decide)).mpr (by omega)
  exact decide_eq_true (lt_of_le_of_lt h hlt)

theorem Within.isNaN {e : Nat} {x : Binary64} (h : x.Within e) (he : e ≤ 1022) :
    x.isNaN = false := by
  have hfinite : x.position < infinity := of_decide_eq_true (h.isFinite he)
  exact decide_eq_false (by omega)

theorem within_ofFraction {negative : Bool} {num den e : Nat} (h : num ≤ 2 ^ e * den) :
    (ofFraction negative num den).Within e := by
  simp only [Within, ofFraction]
  exact nearest_le h

theorem within_ofNat {n e : Nat} (h : n ≤ 2 ^ e) : (ofNat n).Within e := by
  simp only [Within, ofNat]
  exact nearest_le (by rwa [Nat.mul_one])

theorem le_position_ofNat {n : Nat} (h : 1 ≤ n) : 1023 * binade ≤ (ofNat n).position := by
  simp only [ofNat]
  exact le_nearest Nat.one_pos h

theorem Within.mul {e f : Nat} {x y : Binary64} (hx : x.Within e) (hy : y.Within f)
    (he : e ≤ 1022) (hf : f ≤ 1022) : (x.mul y).Within (e + f + 6) := by
  unfold Binary64.mul
  rw [hx.isNaN he, hy.isNaN hf, hx.isFinite he, hy.isFinite hf]
  refine within_ofFraction ?_
  have hunit : unitPower = 1074 := rfl
  have hunits : units x.position * units y.position ≤ 2 ^ (e + 1024 + 53) * 2 ^ (f + 1024 + 53) :=
    Nat.mul_le_mul (units_lt hx).le (units_lt hy).le
  refine hunits.trans (le_of_eq ?_)
  generalize unitPower = power at *
  rw [pow_eq, ← Nat.pow_add, ← Nat.pow_add]
  congr 1
  omega

/-- A quotient by a number that is not below one. -/
theorem Within.div {e : Nat} {x y : Binary64} (hx : x.Within e) (he : e ≤ 1022)
    (hy : 1023 * binade ≤ y.position) (hfinite : y.isFinite = true) :
    (x.div y).Within (e + 3) := by
  have hnan : y.isNaN = false := by
    have : y.position < infinity := of_decide_eq_true hfinite
    exact decide_eq_false (by omega)
  have hzero : (y.position == 0) = false := by
    have : 0 < binade := by decide
    rw [beq_eq_false_iff_ne]
    omega
  unfold Binary64.div
  rw [hx.isNaN he, hnan, hx.isFinite he, hfinite, hzero]
  refine within_ofFraction ?_
  refine (units_lt hx).le.trans ?_
  have hunit : unitPower = 1074 := rfl
  refine le_trans (le_of_eq ?_) (Nat.mul_le_mul_left (2 ^ (e + 3)) (le_units hy))
  generalize unitPower = power at *
  rw [← Nat.pow_add]
  congr 1
  omega

theorem isNaN_ofFraction (negative : Bool) (num den : Nat) :
    (ofFraction negative num den).isNaN = false := by
  have hle := nearest_le_infinity num den
  unfold ofFraction
  generalize nearest num den = position at hle ⊢
  exact decide_eq_false (Nat.not_lt.mpr hle)

/-- A product of two numbers, one of them finite and not zero, is a number. -/
theorem isNaN_mul {x y : Binary64} (hx : x.isNaN = false) (hy : y.isFinite = true)
    (hzero : y.position ≠ 0) : (x.mul y).isNaN = false := by
  have hnan : y.isNaN = false := by
    have : y.position < infinity := of_decide_eq_true hy
    exact decide_eq_false (by omega)
  unfold Binary64.mul
  rw [hx, hnan, hy]
  cases hfinite : x.isFinite with
  | true => exact isNaN_ofFraction _ _ _
  | false =>
    have hposition : x.position ≠ 0 := by
      intro h
      unfold isFinite at hfinite
      rw [h] at hfinite
      exact absurd hfinite (by decide)
    rw [beq_eq_false_iff_ne.mpr hposition, beq_eq_false_iff_ne.mpr hzero]
    exact decide_eq_false (Nat.lt_irrefl _)

end Binary64

open Binary64

theorem nearestDecimal_le_infinity (digits : Nat) (exponent : Int) :
    nearestDecimal digits exponent ≤ infinity := by
  unfold nearestDecimal
  split
  · exact Nat.zero_le _
  · split
    · split
      · exact Nat.le_refl _
      · exact nearest_le_infinity _ _
    · split
      · exact Nat.zero_le _
      · exact nearest_le_infinity _ _

/-- A decimal with few digits in front of its point. -/
theorem nearestDecimal_le {digits places whole e : Nat} (h : digits ≤ 10 ^ (whole + places))
    (hwhole : 10 ^ whole ≤ 2 ^ e) :
    nearestDecimal digits (-(places : Int)) ≤ (e + 1024) * binade := by
  obtain ⟨num, den, hden, hvalue, hnearest⟩ := exists_nearestDecimal digits (-(places : Int))
  have hcross : num * 10 ^ places = digits * den := by
    rw [zpow_neg, zpow_natCast, ← div_eq_mul_inv, div_eq_div_iff (by positivity) (by positivity)]
      at hvalue
    exact_mod_cast hvalue
  have hnum : num ≤ 10 ^ whole * den := by
    refine Nat.le_of_mul_le_mul_right (c := 10 ^ places) ?_ (Nat.pow_pos (by decide))
    rw [hcross, Nat.mul_right_comm, ← Nat.pow_add]
    exact Nat.mul_le_mul_right den h
  rw [hnearest]
  exact nearest_le (hnum.trans (Nat.mul_le_mul_right den hwhole))

end Signoff.Number
