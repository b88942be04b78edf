import Mathlib.Algebra.Order.Field.Basic
import Mathlib.Algebra.Order.Field.Power
import Mathlib.Data.Rat.Cast.Order
import Mathlib.Tactic.FieldSimp
import Mathlib.Tactic.Linarith
import Mathlib.Tactic.NormNum
import Mathlib.Tactic.Ring
import SubscriptionBilling.Decimal.Binary64

/-! Decimals that a number of 64 bits comes near. Rounding keeps 53 bits, so the exponent of the last
one stays small as long as the decimal is not vast, and half of that bit bounds the error. -/
namespace SubscriptionBilling

/-- The absolute value of a decimal. -/
def Decimal.magnitude (d : Decimal) : ℚ := d.coefficient * (10 : ℚ) ^ d.exponent

/-- The leading digit of a number stands at its place. -/
theorem Decimal.pow_pred_digitCount_le {n : Nat} (h : n ≠ 0) : 10 ^ (digitCount n - 1) ≤ n := by
  rcases Nat.eq_zero_or_pos (digitCount n - 1) with hone | hmore
  · rw [hone, Nat.pow_zero]
    exact Nat.pos_of_ne_zero h
  · by_contra hlt
    have hshort := (Nat.length_toDigits_le_iff (by norm_num) hmore).mpr (Nat.lt_of_not_le hlt)
    change digitCount n ≤ digitCount n - 1 at hshort
    omega

/-- The magnitude is at least that of the leading digit. -/
theorem Decimal.zpow_le_magnitude {d : Decimal} (h : d.coefficient ≠ 0) :
    (10 : ℚ) ^ (d.exponent + digitCount d.coefficient - 1) ≤ d.magnitude := by
  have hpos : 0 < digitCount d.coefficient := Nat.length_toDigits_pos
  have hdigits : (10 : ℚ) ^ (digitCount d.coefficient - 1) ≤ d.coefficient := by
    exact_mod_cast pow_pred_digitCount_le h
  have hplace : d.exponent + digitCount d.coefficient - 1 =
      ((digitCount d.coefficient - 1 : Nat) : Int) + d.exponent := by
    omega
  rw [hplace, zpow_add₀ (by norm_num), zpow_natCast, magnitude]
  exact mul_le_mul_of_nonneg_right hdigits (by positivity)

theorem Decimal.magnitude_nonneg (d : Decimal) : 0 ≤ d.magnitude := by
  unfold magnitude
  positivity

/-- The magnitude is below the place before the leading digit. -/
theorem Decimal.magnitude_lt_zpow (d : Decimal) :
    d.magnitude < (10 : ℚ) ^ (d.exponent + digitCount d.coefficient) := by
  have hpos : 0 < digitCount d.coefficient := Nat.length_toDigits_pos
  have hdigits : (d.coefficient : ℚ) < 10 ^ digitCount d.coefficient := by
    exact_mod_cast (Nat.length_toDigits_le_iff (by norm_num) hpos).mp le_rfl
  rw [add_comm, zpow_add₀ (by norm_num), zpow_natCast, magnitude]
  exact mul_lt_mul_of_pos_right hdigits (by positivity)

/-- A rounded quotient is off by at most a half. -/
theorem Decimal.abs_roundHalfEven_sub_le (numerator : Nat) {denominator : Nat}
    (hden : 0 < denominator) :
    |(roundHalfEven numerator denominator : ℚ) - numerator / denominator| ≤ 1 / 2 := by
  have hnat : 2 * (roundHalfEven numerator denominator * denominator) ≤ 2 * numerator + denominator ∧
      2 * numerator ≤ 2 * (roundHalfEven numerator denominator * denominator) + denominator := by
    have hdivision := Nat.div_add_mod' numerator denominator
    have hrest := Nat.mod_lt numerator hden
    have hnext : (numerator / denominator + 1) * denominator =
        numerator / denominator * denominator + denominator := Nat.succ_mul _ _
    unfold roundHalfEven
    simp only
    split
    · omega
    · split
      · omega
      · split <;> omega
  have hden' : (0 : ℚ) < denominator := by exact_mod_cast hden
  have habove : (2 : ℚ) * (roundHalfEven numerator denominator * denominator) ≤
      2 * numerator + denominator := by exact_mod_cast hnat.1
  have hbelow : (2 : ℚ) * numerator ≤
      2 * (roundHalfEven numerator denominator * denominator) + denominator := by
    exact_mod_cast hnat.2
  rw [sub_div' hden'.ne', abs_div, abs_of_pos hden', div_le_iff₀ hden', abs_le]
  constructor <;> linarith

/-- The only whole number that is off by less than a half is the rounded quotient. -/
theorem Decimal.roundHalfEven_eq {numerator denominator n : Nat} (hden : 0 < denominator)
    (h : |(numerator : ℚ) / denominator - n| < 1 / 2) : roundHalfEven numerator denominator = n := by
  have hclose : |((roundHalfEven numerator denominator : Int) - n : ℚ)| < 1 := by
    have hround := abs_roundHalfEven_sub_le numerator hden
    calc |((roundHalfEven numerator denominator : Int) - n : ℚ)|
        ≤ |(roundHalfEven numerator denominator : ℚ) - numerator / denominator| +
          |(numerator : ℚ) / denominator - n| := by
            simpa using abs_sub_le (roundHalfEven numerator denominator : ℚ)
              (numerator / denominator) n
      _ < 1 := by linarith
  have hsame : |(roundHalfEven numerator denominator : Int) - n| < 1 := by exact_mod_cast hclose
  exact_mod_cast sub_eq_zero.mp (Int.abs_lt_one_iff.mp hsame)

namespace Binary64

/-- A power, as the quotient of two numbers one of which is one. -/
theorem quotient_zpow {base : Nat} (hbase : 0 < base) (e : Int) :
    let p : Nat × Nat := if 0 ≤ e then (base ^ e.toNat, 1) else (1, base ^ e.natAbs)
    0 < p.1 ∧ 0 < p.2 ∧ (p.1 : ℚ) = base ^ e * p.2 := by
  intro p
  have hne : (base : ℚ) ≠ 0 := by exact_mod_cast hbase.ne'
  by_cases h : 0 ≤ e
  · obtain ⟨n, rfl⟩ := Int.eq_ofNat_of_zero_le h
    simp [p, Nat.pow_pos hbase]
  · obtain ⟨n, rfl⟩ : ∃ n : Nat, e = -(n : Int) := ⟨e.natAbs, by omega⟩
    simp only [p, if_neg h, Int.natAbs_neg, Int.natAbs_natCast, zpow_neg, zpow_natCast]
    refine ⟨Nat.one_pos, Nat.pow_pos hbase, ?_⟩
    push_cast
    exact (inv_mul_cancel₀ (pow_ne_zero n hne)).symm

theorem powerOfTwo_spec (e : Int) : 0 < (powerOfTwo e).1 ∧ 0 < (powerOfTwo e).2 ∧
    ((powerOfTwo e).1 : ℚ) = 2 ^ e * (powerOfTwo e).2 := quotient_zpow Nat.two_pos e

theorem powerOfTen_spec (e : Int) : 0 < (powerOfTen e).1 ∧ 0 < (powerOfTen e).2 ∧
    ((powerOfTen e).1 : ℚ) = 10 ^ e * (powerOfTen e).2 := quotient_zpow (by norm_num) e

/-- The last bit of a quotient below a power of two. -/
theorem lastBit_le {numerator denominator bits : Nat} (hnum : numerator ≠ 0)
    (hlt : numerator < 2 ^ bits * denominator) :
    lastBit numerator denominator ≤ max ((bits : Int) - 52) (-1074) := by
  have hlog : numerator.log2 < bits + denominator.log2 + 1 := by
    refine (Nat.log2_lt hnum).mpr (hlt.trans_le ?_)
    calc 2 ^ bits * denominator ≤ 2 ^ bits * 2 ^ (denominator.log2 + 1) :=
          Nat.mul_le_mul_left _ Nat.lt_log2_self.le
      _ = 2 ^ (bits + denominator.log2 + 1) := by rw [← Nat.pow_add, Nat.add_assoc]
  unfold lastBit
  simp only
  split <;> omega

/-- How far a rounded number below a power of two can be off: half of its last bit. -/
def errorBound (bits : Nat) : ℚ := 2 ^ (max ((bits : Int) - 52) (-1074) - 1)

/-- A quotient below a power of two is rounded to a number near it. -/
theorem exists_near_ofQuotient (negative : Bool) {numerator denominator bits : Nat}
    (hbits : bits ≤ 1000) (hlt : numerator < 2 ^ bits * denominator) :
    ∃ m e, ofQuotient negative numerator denominator = .finite negative m e ∧
      |(m : ℚ) * 2 ^ e - numerator / denominator| ≤ errorBound bits := by
  by_cases hnum : numerator = 0
  · exact ⟨0, -1074, by rw [ofQuotient, if_pos hnum]; rfl, by simp [hnum, errorBound]; positivity⟩
  have hden : 0 < denominator := by
    refine Nat.pos_of_ne_zero fun h => ?_
    rw [h, Nat.mul_zero] at hlt
    exact Nat.not_lt_zero _ hlt
  have hlast := lastBit_le hnum hlt
  rw [ofQuotient, if_neg hnum]
  generalize lastBit numerator denominator = e at hlast
  obtain ⟨hup, hdown, hpower⟩ := powerOfTwo_spec e
  have hround := Decimal.abs_roundHalfEven_sub_le (numerator * (powerOfTwo e).2)
    (Nat.mul_pos hden hup)
  simp only
  generalize Decimal.roundHalfEven (numerator * (powerOfTwo e).2) (denominator * (powerOfTwo e).1) = m
    at hround
  have hnear : |(m : ℚ) * 2 ^ e - numerator / denominator| ≤ errorBound bits := by
    have hscale : (numerator : ℚ) / denominator =
        ((numerator * (powerOfTwo e).2 : Nat) : ℚ) / (denominator * (powerOfTwo e).1 : Nat) *
          2 ^ e := by
      have hden' : (denominator : ℚ) ≠ 0 := by exact_mod_cast hden.ne'
      have hdown' : ((powerOfTwo e).2 : ℚ) ≠ 0 := by exact_mod_cast hdown.ne'
      push_cast
      rw [hpower]
      field_simp
    have hpositive : (0 : ℚ) < 2 ^ e := by positivity
    rw [hscale, ← sub_mul, abs_mul, abs_of_pos hpositive]
    calc _ ≤ 1 / 2 * (2 : ℚ) ^ e := mul_le_mul_of_nonneg_right hround hpositive.le
      _ = 2 ^ (e - 1) := by
        rw [zpow_sub_one₀ two_ne_zero]
        ring
      _ ≤ errorBound bits := zpow_le_zpow_right₀ one_le_two (by omega)
  by_cases hfull : m = twoTo 53
  · simp only [if_pos hfull]
    rw [if_neg (by omega)]
    refine ⟨_, _, rfl, ?_⟩
    -- The carry moves the last bit up and leaves the value as it was.
    have hcarry : ((twoTo 52 : Nat) : ℚ) * 2 ^ (e + 1) = m * 2 ^ e := by
      rw [hfull, zpow_add_one₀ two_ne_zero]
      norm_num [twoTo]
      ring
    rwa [hcarry]
  · simp only [if_neg hfull]
    rw [if_neg (by omega)]
    exact ⟨_, _, rfl, hnear⟩

/-- A decimal below a power of two is rounded to a number near it, and its sign is kept. -/
theorem exists_near_ofDecimal {d : Decimal} {bits : Nat} (hbits : bits ≤ 1000)
    (h : d.magnitude < 2 ^ bits) :
    ∃ m e, ofDecimal d = .finite d.negative m e ∧
      |(m : ℚ) * 2 ^ e - d.magnitude| ≤ errorBound bits := by
  unfold ofDecimal
  simp only
  by_cases hzero : d.coefficient = 0
  · rw [if_pos hzero]
    refine ⟨0, -1074, rfl, ?_⟩
    simp only [Decimal.magnitude, hzero, errorBound, Nat.cast_zero, zero_mul, sub_zero, abs_zero]
    positivity
  rw [if_neg hzero]
  have hplace : ¬310 < d.exponent + (Decimal.digitCount d.coefficient : Int) := by
    intro hvast
    have hpowers : 2 ^ 1000 ≤ 10 ^ 310 := by decide +kernel
    have hle : (2 : ℚ) ^ bits ≤ d.magnitude :=
      calc (2 : ℚ) ^ bits ≤ 2 ^ 1000 := pow_le_pow_right₀ one_le_two hbits
        _ ≤ 10 ^ (310 : Int) := by exact_mod_cast hpowers
        _ ≤ 10 ^ (d.exponent + Decimal.digitCount d.coefficient - 1) :=
          zpow_le_zpow_right₀ (by norm_num) (by omega)
        _ ≤ d.magnitude := Decimal.zpow_le_magnitude hzero
    exact absurd h (not_lt.mpr hle)
  rw [if_neg hplace]
  split
  · next htiny =>
    refine ⟨0, -1074, rfl, ?_⟩
    have hpowers : 2 ^ 1075 ≤ 10 ^ 330 := by decide +kernel
    have hsmall : (10 : ℚ) ^ (-330 : Int) ≤ 2 ^ (-1075 : Int) := by
      rw [zpow_neg, zpow_neg]
      exact inv_anti₀ (zpow_pos two_pos _) (by exact_mod_cast hpowers)
    rw [Nat.cast_zero, zero_mul, zero_sub, abs_neg, abs_of_nonneg d.magnitude_nonneg]
    calc d.magnitude ≤ 10 ^ (d.exponent + Decimal.digitCount d.coefficient) :=
          d.magnitude_lt_zpow.le
      _ ≤ (10 : ℚ) ^ (-330 : Int) := zpow_le_zpow_right₀ (by norm_num) htiny.le
      _ ≤ 2 ^ (-1075 : Int) := hsmall
      _ ≤ errorBound bits := zpow_le_zpow_right₀ one_le_two (by omega)
  · obtain ⟨-, hdown, hpower⟩ := powerOfTen_spec d.exponent
    have hdown' : (0 : ℚ) < (powerOfTen d.exponent).2 := by exact_mod_cast hdown
    have hquotient : ((d.coefficient * (powerOfTen d.exponent).1 : Nat) : ℚ) =
        d.magnitude * (powerOfTen d.exponent).2 := by
      rw [Nat.cast_mul, hpower, Decimal.magnitude, mul_assoc]
    have hlt : d.coefficient * (powerOfTen d.exponent).1 < 2 ^ bits * (powerOfTen d.exponent).2 := by
      have hcast := mul_lt_mul_of_pos_right h hdown'
      rw [← hquotient] at hcast
      exact_mod_cast hcast
    obtain ⟨m, e, hrounded, hnear⟩ := exists_near_ofQuotient d.negative hbits hlt
    rw [hquotient, mul_div_cancel_right₀ _ hdown'.ne'] at hnear
    exact ⟨m, e, hrounded, hnear⟩

/-- A decimal below ten billions is near a number of 64 bits. -/
theorem isFinite_ofDecimal {d : Decimal} (h : d.magnitude < 10 ^ 10) :
    (ofDecimal d).isFinite = true := by
  obtain ⟨m, e, hrounded, -⟩ :=
    exists_near_ofDecimal (by norm_num) (h.trans (by norm_num : (10 : ℚ) ^ 10 < 2 ^ 34))
  rw [hrounded]
  rfl

end Binary64
end SubscriptionBilling
