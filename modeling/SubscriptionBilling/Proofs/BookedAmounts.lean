import SubscriptionBilling.Proofs.MinorUnits

/-! What the ledger keeps of an amount. A number of 64 bits that is rounded to hundredths gives back every
amount of whole hundredths below `2 ^ 45`, so a number of smallest units that is not vast loses nothing. -/
namespace SubscriptionBilling

theorem Decimal.abs_value (d : Decimal) : |d.value| = d.magnitude := by
  unfold value
  split
  · rw [abs_neg, abs_of_nonneg d.magnitude_nonneg]
  · rw [abs_of_nonneg d.magnitude_nonneg]

/-- A number that is off by less than half a hundredth is rounded to those hundredths. -/
theorem Binary64.toCents?_of_near {negative : Bool} {m n : Nat} {e : Int}
    (near : |(m : ℚ) * 2 ^ e * 100 - n| < 1 / 2) :
    (finite negative m e).toCents? = some ⟨negative, n, -2⟩ := by
  obtain ⟨-, hdown, hpower⟩ := powerOfTwo_spec e
  have hdown' : ((powerOfTwo e).2 : ℚ) ≠ 0 := by exact_mod_cast hdown.ne'
  have hquotient : ((m * (powerOfTwo e).1 * 100 : Nat) : ℚ) / (powerOfTwo e).2 =
      m * 2 ^ e * 100 := by
    push_cast
    rw [hpower]
    field_simp
  rw [← hquotient] at near
  simp only [toCents?, Decimal.roundHalfEven_eq hdown near]

/-- Whole hundredths below `2 ^ 45` are kept as they are. -/
theorem exists_bookedAmount_of_hundredths {d : Decimal} {n : Int} (hundredths : d.value * 100 = n)
    (bounded : |d.value| < 2 ^ 45) : ∃ kept, bookedAmount? d = some kept ∧ kept.value = d.value := by
  rw [Decimal.abs_value] at bounded
  have hmagnitude : d.magnitude * 100 = n.natAbs := by
    rw [← Decimal.abs_value, Nat.cast_natAbs, Int.cast_abs, ← hundredths, abs_mul]
    norm_num
  obtain ⟨m, e, hrounded, hnear⟩ := Binary64.exists_near_ofDecimal (by norm_num) bounded
  have hbound : Binary64.errorBound 45 = 1 / 256 := by norm_num [Binary64.errorBound]
  have hcents : |(m : ℚ) * 2 ^ e * 100 - n.natAbs| < 1 / 2 := by
    rw [← hmagnitude, ← sub_mul, abs_mul, abs_of_pos (by norm_num : (0 : ℚ) < 100)]
    rw [hbound] at hnear
    linarith
  -- The sign is dropped where the number is zero, and there the decimal is zero too.
  refine ⟨⟨d.negative && m ≠ 0, n.natAbs, -2⟩, ?_, ?_⟩
  · rw [bookedAmount?, hrounded]
    exact Binary64.toCents?_of_near hcents
  · have hplaces : (n.natAbs : ℚ) * 10 ^ (-2 : Int) = d.magnitude := by
      rw [← hmagnitude]
      norm_num
      ring
    have hzero : m = 0 → d.magnitude = 0 := by
      rintro rfl
      rw [Nat.cast_zero, zero_mul, zero_mul, zero_sub, abs_neg, Nat.abs_cast] at hcents
      have hless : (n.natAbs : ℚ) < 1 := hcents.trans (by norm_num)
      have hnone : n.natAbs = 0 := Nat.lt_one_iff.mp (by exact_mod_cast hless)
      rw [hnone, Nat.cast_zero] at hmagnitude
      linarith
    simp only [Decimal.value]
    rw [Decimal.magnitude, hplaces]
    by_cases hm : m = 0
    · simp [hzero hm]
    · simp [hm]

/-- A larger amount can lose its hundredths. -/
example : bookedAmount? ⟨false, 900719925474099101, -2⟩ = some ⟨false, 900719925474099100, -2⟩ := by
  decide +kernel

/-- A number of the smallest units of a currency is kept without loss if it is below `10 ^ 13`. -/
theorem Price.exists_bookedAmount {units : Option Int} (currency : Option String)
    (bounded : (units.getD 0).natAbs < 10 ^ 13) :
    ∃ kept, bookedAmount? (fromMinorUnits units currency) = some kept ∧
      kept.value * unitsOf (currencyOr defaultCurrency currency) = units.getD 0 := by
  have hvalue : (fromMinorUnits units currency).value * unitsOf (currencyOr defaultCurrency currency) =
      units.getD 0 := value_fromMinorUnits (bounded.trans (by decide))
  have hsmall : |((units.getD 0 : Int) : ℚ)| < 10 ^ 13 := by
    rw [← Int.cast_abs, ← Int.natCast_natAbs]
    exact_mod_cast bounded
  generalize fromMinorUnits units currency = amount at hvalue ⊢
  generalize units.getD 0 = n at hvalue hsmall ⊢
  obtain ⟨cents, hcents, hbound⟩ :
      ∃ cents : Int, amount.value * 100 = cents ∧ |amount.value| < 2 ^ 45 := by
    unfold unitsOf at hvalue
    split at hvalue
    · rw [mul_one] at hvalue
      exact ⟨n * 100, by rw [hvalue]; push_cast; rfl, by rw [hvalue]; linarith⟩
    · refine ⟨n, hvalue, ?_⟩
      rw [← hvalue, abs_mul, abs_of_pos (by norm_num : (0 : ℚ) < 100)] at hsmall
      linarith [abs_nonneg amount.value]
  obtain ⟨kept, hkept, hsame⟩ := exists_bookedAmount_of_hundredths hcents hbound
  exact ⟨kept, hkept, hsame ▸ hvalue⟩

end SubscriptionBilling
