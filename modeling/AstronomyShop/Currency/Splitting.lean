import AstronomyShop.Checkout.Signs
import AstronomyShop.Currency.Accuracy

/-!
# Splitting an amount

`getUnitsAndNanos` truncates twice, first to whole units and then the rest to nanos. Together the
two are one truncation of the amount in billionths (`split_exact`), so that splitting keeps the order
of amounts and their negation.
-/

namespace AstronomyShop.Currency

open ExactDouble

/-- The `Money` that an amount is split into. -/
def splitMoney (currencyCode : String) (v : ℚ) : Option Money :=
  (getUnitsAndNanos (.finite v)).map fun p =>
    { currencyCode := currencyCode, units := p.1, nanos := p.2 }

section

variable {code : String} {v : ℚ}

theorem splitMoney_of_lt (h : |v| < 2 ^ 63) :
    splitMoney code v = some
      { currencyCode := code
        units := .ofInt (truncate v)
        nanos := .ofInt (truncate ((v - truncate v) * 10 ^ 9)) } := by
  unfold splitMoney
  rw [getUnitsAndNanos_of_range (truncate_range h)]
  rfl

/-- The split amount is valid, and the amount in billionths truncated once. -/
theorem splitMoney_value (h : |v| < 2 ^ 63) :
    ∃ m, splitMoney code v = some m ∧ m.isValid = true ∧ m.value = truncate (v * 10 ^ 9) := by
  obtain ⟨⟨units, nanos⟩, hsplit⟩ := exists_getUnitsAndNanos h
  obtain ⟨hunits, hnanos⟩ := getUnitsAndNanos_eq_some hsplit
  have hwhole := @split_truncate v (10 ^ 9) (by decide)
  simp only [Nat.cast_pow, Nat.cast_ofNat] at hwhole
  refine ⟨⟨code, units, nanos⟩, ?_, isValid_of_split hunits hnanos, ?_⟩
  · unfold splitMoney
    rw [hsplit]
    rfl
  · rw [Money.value, hunits, hnanos, hwhole]

/-- An amount that could be split. -/
theorem splitMoney_eq_some {m : Money} (h : splitMoney code v = some m) :
    m.isValid = true ∧ m.currencyCode = code ∧ m.value = truncate (v * 10 ^ 9) := by
  obtain ⟨⟨units, nanos⟩, hsplit, rfl⟩ := Option.map_eq_some_iff.mp h
  obtain ⟨hunits, hnanos⟩ := getUnitsAndNanos_eq_some hsplit
  have hwhole := @split_truncate v (10 ^ 9) (by decide)
  simp only [Nat.cast_pow, Nat.cast_ofNat] at hwhole
  refine ⟨isValid_of_split hunits hnanos, rfl, ?_⟩
  rw [Money.value, hunits, hnanos, hwhole]

/-- What `Convert` answers is split off. -/
theorem convert_eq_splitMoney {table : Rates} {source : Money} {rate toRate : ℚ}
    (htable : Reached table) (hrate : (source.currencyCode, rate) ∈ initialRates)
    (htoRate : (code, toRate) ∈ initialRates) :
    (convert table ⟨some source, code⟩).1 =
      splitMoney code (readAmount source / rate * toRate) :=
  convert_response htable hrate htoRate

/-- The negated amount is split into the negated `Money`. -/
theorem splitMoney_neg (h : |v| < 2 ^ 63) :
    splitMoney code (-v) = (splitMoney code v).map Money.negate := by
  have hfraction : (-v - ((-truncate v : Int) : ℚ)) * 10 ^ 9 =
      -((v - truncate v) * 10 ^ 9) := by
    push_cast
    ring
  rw [splitMoney_of_lt h, splitMoney_of_lt (by rwa [abs_neg]), truncate_neg, hfraction,
    truncate_neg, ← Int64.neg_ofInt, ← Int32.neg_ofInt]
  rfl

end

/-- **Splitting an amount** gives a valid `Money` that is the amount truncated to billionths. It is
monotone, and odd under negation. -/
theorem split_exact (code : String) (v : ℚ) (hv : |v| < 2 ^ 63) :
    ∃ m, splitMoney code v = some m ∧ m.isValid = true ∧ m.value = truncate (v * 10 ^ 9) ∧
      splitMoney code (-v) = some m.negate ∧
        ∀ w, v ≤ w → |w| < 2 ^ 63 → ∃ m', splitMoney code w = some m' ∧ m.value ≤ m'.value := by
  obtain ⟨m, hm, hvalid, hvalue⟩ := @splitMoney_value code v hv
  refine ⟨m, hm, hvalid, hvalue, ?_, ?_⟩
  · rw [splitMoney_neg hv, hm]
    rfl
  · intro w hle hw
    obtain ⟨m', hm', -, hvalue'⟩ := @splitMoney_value code w hw
    refine ⟨m', hm', ?_⟩
    rw [hvalue, hvalue']
    apply truncate_mono
    exact mul_le_mul_of_nonneg_right hle (by norm_num)

/-- Minus three quarters: the sign is in the nanos alone. -/
theorem split_exact_minus : ∃ m, splitMoney "USD" (-3 / 4) = some m ∧ m.isValid = true ∧
    m.value = truncate (-3 / 4 * 10 ^ 9) := by
  obtain ⟨m, hm, hvalid, hvalue, -⟩ := split_exact "USD" (-3 / 4) (by decide +kernel)
  exact ⟨m, hm, hvalid, hvalue⟩

end AstronomyShop.Currency
