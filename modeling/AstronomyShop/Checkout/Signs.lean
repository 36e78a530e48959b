import AstronomyShop.Checkout.Money

/-!
# The sign of an amount

`IsZero`, `IsPositive`, `IsNegative` and `Negate` of the package `checkout/money`. In two of them `&&` binds
more strongly than `||`, so that validity is asked for only where there are units. On valid amounts
the three are what they say. An amount without units whose nanos are out of range is positive or
negative all the same, although it is not valid.
-/

namespace AstronomyShop.Money

/-! ## The predicates -/

def isZero (m : Money) : Bool := m.units == 0 && m.nanos == 0

def isPositive (m : Money) : Bool :=
  m.isValid && decide (0 < m.units) || (m.units == 0 && decide (0 < m.nanos))

def isNegative (m : Money) : Bool :=
  m.isValid && decide (m.units < 0) || (m.units == 0 && decide (m.nanos < 0))

/-- The same amount with the sign negated. -/
def negate (m : Money) : Money where
  currencyCode := m.currencyCode
  units := -m.units
  nanos := -m.nanos

/-! ## What they say -/

section

variable {m : Money}

theorem isZero_iff : m.isZero = true ↔ m.units.toInt = 0 ∧ m.nanos.toInt = 0 := by
  simp only [isZero, Bool.and_eq_true, beq_iff_eq, Int64.toInt_eq_zero_iff,
    Int32.toInt_eq_zero_iff]

theorem isPositive_iff :
    m.isPositive = true ↔
      (m.isValid = true ∧ 0 < m.units.toInt) ∨ (m.units.toInt = 0 ∧ 0 < m.nanos.toInt) := by
  have hu : 0 < m.units ↔ 0 < m.units.toInt := Int64.lt_iff_toInt_lt
  have hn : 0 < m.nanos ↔ 0 < m.nanos.toInt := Int32.lt_iff_toInt_lt
  simp only [isPositive, Bool.or_eq_true, Bool.and_eq_true, beq_iff_eq, decide_eq_true_eq, hu, hn,
    Int64.toInt_eq_zero_iff]

theorem isNegative_iff :
    m.isNegative = true ↔
      (m.isValid = true ∧ m.units.toInt < 0) ∨ (m.units.toInt = 0 ∧ m.nanos.toInt < 0) := by
  have hu : m.units < 0 ↔ m.units.toInt < 0 := Int64.lt_iff_toInt_lt
  have hn : m.nanos < 0 ↔ m.nanos.toInt < 0 := Int32.lt_iff_toInt_lt
  simp only [isNegative, Bool.or_eq_true, Bool.and_eq_true, beq_iff_eq, decide_eq_true_eq, hu, hn,
    Int64.toInt_eq_zero_iff]

/-- On a valid amount the predicates give the sign of its value. -/
theorem sign_of_isValid (h : m.isValid = true) :
    (m.isZero = true ↔ m.value = 0) ∧ (m.isPositive = true ↔ 0 < m.value) ∧
      (m.isNegative = true ↔ m.value < 0) := by
  rw [isZero_iff, isPositive_iff, isNegative_iff]
  obtain ⟨hs, hlo, hhi⟩ := isValid_iff.mp h
  unfold value
  refine ⟨?_, ?_, ?_⟩
  · omega
  · simp only [h, true_and]
    omega
  · simp only [h, true_and]
    omega

/-- Without units an amount is valid when its nanos are in range. -/
theorem isValid_of_units_eq_zero (h : m.units = 0) : m.isValid = validNanos m.nanos := by
  have hsign : m.signMatches = true := by
    unfold signMatches
    rw [h]
    simp
  rw [isValid, hsign, Bool.true_and]

/-- With units, an amount that is not valid has no sign. -/
theorem not_signed_of_units (hinvalid : m.isValid = false) (hunits : m.units.toInt ≠ 0) :
    m.isPositive = false ∧ m.isNegative = false := by
  refine ⟨Bool.eq_false_iff.mpr ?_, Bool.eq_false_iff.mpr ?_⟩
  · intro h
    rcases isPositive_iff.mp h with ⟨hvalid, -⟩ | ⟨hzero, -⟩
    · exact absurd (hvalid.symm.trans hinvalid) (by decide)
    · exact hunits hzero
  · intro h
    rcases isNegative_iff.mp h with ⟨hvalid, -⟩ | ⟨hzero, -⟩
    · exact absurd (hvalid.symm.trans hinvalid) (by decide)
    · exact hunits hzero

end

/-! ## The partition -/

/-- A valid amount has exactly one sign, that of its value, and no other amount has one. -/
structure SignsPartition (m : Money) : Prop where
  exactlyOne : m.isValid = true → [m.isZero, m.isPositive, m.isNegative].count true = 1
  agrees : m.isValid = true → (m.isZero = true ↔ m.value = 0) ∧
    (m.isPositive = true ↔ 0 < m.value) ∧ (m.isNegative = true ↔ m.value < 0)
  invalid : m.isValid = false → m.isPositive = false ∧ m.isNegative = false

theorem count_signs {m : Money} (h : m.isValid = true) :
    [m.isZero, m.isPositive, m.isNegative].count true = 1 := by
  obtain ⟨hzero, hpositive, hnegative⟩ := sign_of_isValid h
  rcases lt_trichotomy m.value 0 with hv | hv | hv
  · have h₁ : m.isZero = false := Bool.eq_false_iff.mpr (mt hzero.mp (by omega))
    have h₂ : m.isPositive = false := Bool.eq_false_iff.mpr (mt hpositive.mp (by omega))
    rw [h₁, h₂, hnegative.mpr hv]
    rfl
  · have h₁ : m.isPositive = false := Bool.eq_false_iff.mpr (mt hpositive.mp (by omega))
    have h₂ : m.isNegative = false := Bool.eq_false_iff.mpr (mt hnegative.mp (by omega))
    rw [hzero.mpr hv, h₁, h₂]
    rfl
  · have h₁ : m.isZero = false := Bool.eq_false_iff.mpr (mt hzero.mp (by omega))
    have h₂ : m.isNegative = false := Bool.eq_false_iff.mpr (mt hnegative.mp (by omega))
    rw [h₁, hpositive.mpr hv, h₂]
    rfl

/-- **The predicates partition the amounts exactly when** nanos without units are in range. -/
theorem signs_partition_iff (m : Money) :
    SignsPartition m ↔ (m.units = 0 → validNanos m.nanos = true) := by
  constructor
  · intro h hunits
    by_contra hnanos
    have hinvalid : m.isValid = false := by
      rw [isValid_of_units_eq_zero hunits]
      exact Bool.eq_false_iff.mpr hnanos
    obtain ⟨hpositive, hnegative⟩ := h.invalid hinvalid
    rw [Bool.eq_false_iff, ne_eq, isPositive_iff] at hpositive
    rw [Bool.eq_false_iff, ne_eq, isNegative_iff] at hnegative
    have hzero : m.units.toInt = 0 := Int64.toInt_eq_zero_iff.mpr hunits
    have hnone : m.nanos = 0 := Int32.toInt_eq_zero_iff.mp (by omega)
    apply hnanos
    rw [hnone]
    decide
  · intro hcond
    refine ⟨count_signs, sign_of_isValid, ?_⟩
    intro hinvalid
    apply not_signed_of_units hinvalid
    intro hzero
    have h0 := Int64.toInt_eq_zero_iff.mp hzero
    rw [isValid_of_units_eq_zero h0, hcond h0] at hinvalid
    cases hinvalid

/-- A billion billionths are no valid amount, and positive. -/
theorem invalid_positive : ¬ ∀ m : Money, SignsPartition m := by
  intro h
  have hpositive := ((h ⟨"USD", 0, 1000000000⟩).invalid (by decide)).1
  exact absurd hpositive (by decide)

end AstronomyShop.Money
