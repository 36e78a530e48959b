import AstronomyShop.Checkout.Money
import AstronomyShop.Currency.Service

/-!
# The accuracy of a conversion

`getDouble` puts the digits of the nanos behind the point and loses leading zeros on the way:
`80000000` nanos, which are 0.08, are read as `0.8`. An amount is read as it is exactly when
its nanos are zero or have all nine digits (`readAmount_eq_iff`). Everything after that is
exact up to the truncation of the splitter, so a conversion is accurate exactly then
(`convert_accurate_iff`): the fraction is off by at least `0.09` otherwise, which no rate of
the table makes small enough to vanish below a billionth.
-/

namespace AstronomyShop

open ExactDouble

/-- The amount of a `Money`, in units. -/
def Money.amount (m : Money) : ℚ := m.units.toInt + m.nanos.toInt / 10 ^ 9

namespace Currency

/-! ## Reading an amount -/

/-- The amount that `getDouble` reads. -/
def readAmount (m : Money) : ℚ := m.units.toInt + digitFraction 10 m.nanos.toInt

theorem getDoubleLoop_eq {nanos : Int32} {decimal : Double} {q : ℚ}
    (hdecimal : decimal = .finite q) :
    getDoubleLoop nanos decimal =
      .finite (q / 10 ^ digitCount 10 nanos.toInt + digitFraction 10 nanos.toInt) := by
  fun_induction getDoubleLoop nanos decimal generalizing q with
  | case1 decimal =>
    rw [hdecimal]
    simp
  | case2 nanos decimal hne t =>
    rename_i ih
    have hne' : nanos.toInt ≠ 0 := fun h0 => hne (Int32.toInt_eq_zero_iff.mp h0)
    have hdiv : (nanos / 10).toInt = nanos.toInt.tdiv (10 : Nat) :=
      Int32.toInt_div_of_one_lt (by decide)
    have hmod : (nanos % 10).toInt = nanos.toInt.tmod (10 : Nat) := Int32.toInt_mod _ _
    have hround : decimal / .finite 10 + t =
        .finite (q / 10 + (nanos.toInt.tmod (10 : Nat) : Int) / 10) := by
      rw [show t = .finite (nanos % 10).toInt / .finite 10 from rfl, hdecimal, hmod,
        Double.finite_div _ (by norm_num),
        Double.finite_div _ (by norm_num), Double.finite_add]
    rw [ih hround, hdiv, digitFraction_of_ne_zero (b := 10) (by decide) hne',
      digitCount_of_ne_zero (b := 10) (by decide) hne', pow_succ]
    congr 1
    push_cast
    field_simp
    ring

theorem getDouble_eq (m : Money) : getDouble m = .finite (readAmount m) := by
  unfold getDouble readAmount
  rw [getDoubleLoop_eq rfl, zero_div, zero_add, Double.ofInt, Double.finite_add]

theorem digitCount_le_nine {m : Money} (h : m.isValid = true) :
    m.nanos.toInt.natAbs < 10 ^ 9 := by
  have hn := (Money.isValid_iff.mp h).2
  omega

/-- Nanos with nine digits, and none at all, are read as they are. -/
theorem readAmount_eq {m : Money} (h : m.isValid = true)
    (hn : m.nanos.toInt = 0 ∨ 10 ^ 8 ≤ m.nanos.toInt.natAbs) : readAmount m = m.amount := by
  unfold readAmount Money.amount
  rcases hn with hn | hn
  · rw [hn]
    simp
  · have h9 : digitCount 10 m.nanos.toInt = 9 :=
      le_antisymm ((digitCount_le_iff (by decide)).mpr (digitCount_le_nine h))
        ((lt_digitCount_iff (by decide)).mpr hn)
    rw [digitFraction, h9]
    norm_num

/-- All other nanos are read as much too large a fraction. -/
theorem readAmount_gap {m : Money} (h0 : m.nanos.toInt ≠ 0)
    (hn : m.nanos.toInt.natAbs < 10 ^ 8) : 9 / 100 ≤ |readAmount m - m.amount| := by
  have hcount : digitCount 10 m.nanos.toInt < 9 :=
    Nat.lt_succ_of_le ((digitCount_le_iff (by decide)).mpr hn)
  have hgap := digitFraction_gap (b := 10) (by decide) h0 hcount
  have hsub : readAmount m - m.amount =
      digitFraction 10 m.nanos.toInt - m.nanos.toInt / ((10 : Nat) : ℚ) ^ 9 := by
    unfold readAmount Money.amount
    push_cast
    ring
  rw [hsub]
  refine le_trans ?_ hgap
  norm_num

/-! ## Splitting an amount -/

theorem toLong_finite {q : ℚ} (h : |q| < 2 ^ 63) : toLong (.finite q) = some (truncate q) := by
  have habs := abs_lt.mp (@abs_truncate_lt q (2 ^ 63) (by exact_mod_cast h))
  exact if_pos ⟨by omega, by omega⟩

theorem toLong_eq_some {q : ℚ} {n : Int} (h : toLong (.finite q) = some n) :
    n = truncate q ∧ -2 ^ 63 ≤ n ∧ n < 2 ^ 63 := by
  change (if _ then some (truncate q) else none) = some n at h
  split at h
  · rename_i hrange
    cases h
    exact ⟨rfl, hrange.1, hrange.2⟩
  · cases h

/-- The splitter truncates an amount into whole units, and the rest into nanos. -/
theorem getUnitsAndNanos_eq_some {v : ℚ} {units : Int64} {nanos : Int32}
    (h : getUnitsAndNanos (.finite v) = some (units, nanos)) :
    units.toInt = truncate v ∧ nanos.toInt = truncate ((v - truncate v) * 10 ^ 9) := by
  obtain ⟨unit, hunit, h⟩ := Option.bind_eq_some_iff.mp h
  obtain ⟨nano, hnano, h⟩ := Option.bind_eq_some_iff.mp h
  cases h
  obtain ⟨rfl, hlo, hhi⟩ := toLong_eq_some hunit
  rw [Double.ofInt, Double.finite_sub, Double.finite_mul] at hnano
  obtain ⟨rfl, -, -⟩ := toLong_eq_some hnano
  have hfraction := abs_lt.mp (@truncate_fraction v (10 ^ 9) (by decide)).1
  simp only [Nat.cast_pow, Nat.cast_ofNat] at hfraction
  exact ⟨Int64.toInt_ofInt_of_le hlo hhi, Int32.toInt_ofInt_of_le (by omega) (by omega)⟩

/-- Whole units that fit a `long` are split off. -/
theorem getUnitsAndNanos_of_range {v : ℚ} (h : -2 ^ 63 ≤ truncate v ∧ truncate v < 2 ^ 63) :
    getUnitsAndNanos (.finite v) =
      some (.ofInt (truncate v), .ofInt (truncate ((v - truncate v) * 10 ^ 9))) := by
  have hunit : toLong (.finite v) = some (truncate v) := if_pos h
  have hfraction : |(v - truncate v) * 10 ^ 9| < 2 ^ 63 := by
    rw [abs_mul, abs_of_pos (by norm_num : (0 : ℚ) < 10 ^ 9)]
    have := abs_sub_truncate_lt v
    linarith
  refine Option.bind_eq_some_iff.mpr ⟨_, hunit, ?_⟩
  refine Option.bind_eq_some_iff.mpr ⟨_, ?_, rfl⟩
  rw [Double.ofInt, Double.finite_sub, Double.finite_mul]
  exact toLong_finite hfraction

/-- The casts are defined exactly when the whole units fit a `long`. -/
theorem isSome_getUnitsAndNanos {v : ℚ} :
    (getUnitsAndNanos (.finite v)).isSome = true ↔ -2 ^ 63 ≤ truncate v ∧ truncate v < 2 ^ 63 := by
  rw [Option.isSome_iff_exists]
  constructor
  · rintro ⟨p, hp⟩
    obtain ⟨unit, hunit, -⟩ := Option.bind_eq_some_iff.mp hp
    obtain ⟨rfl, hrange⟩ := toLong_eq_some hunit
    exact hrange
  · intro hrange
    exact ⟨_, getUnitsAndNanos_of_range hrange⟩

/-- An amount below the limit of a `long` has units that fit. -/
theorem truncate_range {v : ℚ} (h : |v| < 2 ^ 63) :
    -2 ^ 63 ≤ truncate v ∧ truncate v < 2 ^ 63 := by
  have habs := abs_lt.mp (@abs_truncate_lt v (2 ^ 63) (by exact_mod_cast h))
  omega

theorem exists_getUnitsAndNanos {v : ℚ} (h : |v| < 2 ^ 63) :
    ∃ p, getUnitsAndNanos (.finite v) = some p :=
  ⟨_, getUnitsAndNanos_of_range (truncate_range h)⟩

/-! ## `Convert` -/

/-- The result is a valid amount in `toCode` whose units and nanos are `v`, truncated. -/
def Accurate (result : Option Money) (toCode : String) (v : ℚ) : Prop :=
  ∃ m, result = some m ∧ m.isValid = true ∧ m.currencyCode = toCode ∧
    m.units.toInt = truncate v ∧ m.nanos.toInt = truncate ((v - truncate v) * 10 ^ 9)

/-- Two amounts whose splits agree are less than two billionths apart. -/
theorem split_inj {v w : ℚ} (hunits : truncate v = truncate w)
    (hnanos : truncate ((v - truncate v) * 10 ^ 9) = truncate ((w - truncate w) * 10 ^ 9)) :
    |v - w| * 10 ^ 9 < 2 := by
  have hv := @split_truncate v (10 ^ 9) (by decide)
  have hw := @split_truncate w (10 ^ 9) (by decide)
  simp only [Nat.cast_pow, Nat.cast_ofNat] at hv hw
  have heq : truncate (v * 10 ^ 9) = truncate (w * 10 ^ 9) := by
    rw [← hv, ← hw, hnanos, hunits]
  have hclose := abs_sub_lt_two_of_truncate_eq heq
  rwa [← sub_mul, abs_mul, abs_of_pos (by norm_num : (0 : ℚ) < 10 ^ 9)] at hclose

section

variable {table : Rates} {source : Money} {toCode : String} {rate toRate : ℚ}

/-- The response in terms of the two rates. -/
theorem convert_response (htable : Reached table)
    (hrate : (source.currencyCode, rate) ∈ initialRates)
    (htoRate : (toCode, toRate) ∈ initialRates) :
    (convert table ⟨some source, toCode⟩).1 =
      (getUnitsAndNanos (.finite (readAmount source / rate * toRate))).map fun p =>
        { currencyCode := toCode, units := p.1, nanos := p.2 } := by
  have hpos : rate ≠ 0 := by
    have := (initialRates_bounds _ hrate).1
    simp only at this
    linarith
  simp only [convert, Option.getD_some, index_of_lookup (htable.lookup hrate),
    index_of_lookup (htable.lookup htoRate), getDouble_eq, Double.finite_div _ hpos,
    Double.finite_mul]

/-- A valid amount that is split into truncated units and nanos. -/
theorem isValid_of_split {m : Money} {v : ℚ} (hunits : m.units.toInt = truncate v)
    (hnanos : m.nanos.toInt = truncate ((v - truncate v) * 10 ^ 9)) : m.isValid = true := by
  have hfraction := @truncate_fraction v (10 ^ 9) (by decide)
  simp only [Nat.cast_pow, Nat.cast_ofNat] at hfraction
  obtain ⟨hbound, hpos, hneg⟩ := hfraction
  have habs := abs_lt.mp hbound
  rw [← hnanos] at habs hpos hneg
  rw [Money.isValid_iff, hunits]
  refine ⟨?_, by omega, by omega⟩
  rcases le_total 0 v with h0 | h0
  · have h₁ := hpos h0
    have h₂ := truncate_nonneg h0
    omega
  · have h₁ := hneg h0
    have h₂ := truncate_nonpos h0
    omega

/-- Converting amounts with nine or no digits of nanos is accurate. -/
theorem accurate_convert (htable : Reached table) (hvalid : source.isValid = true)
    (hrate : (source.currencyCode, rate) ∈ initialRates)
    (htoRate : (toCode, toRate) ∈ initialRates) (hv : |source.amount / rate * toRate| < 2 ^ 63)
    (hn : source.nanos.toInt = 0 ∨ 10 ^ 8 ≤ source.nanos.toInt.natAbs) :
    Accurate (convert table ⟨some source, toCode⟩).1 toCode (source.amount / rate * toRate) := by
  obtain ⟨⟨units, nanos⟩, hsplit⟩ := exists_getUnitsAndNanos hv
  obtain ⟨hunits, hnanos⟩ := getUnitsAndNanos_eq_some hsplit
  refine ⟨⟨toCode, units, nanos⟩, ?_, isValid_of_split hunits hnanos, rfl, hunits, hnanos⟩
  rw [convert_response htable hrate htoRate, readAmount_eq hvalid hn, hsplit, Option.map_some]

/-- Converting other amounts is not: the result is at least 4500 billionths off. -/
theorem not_accurate_convert (htable : Reached table)
    (hrate : (source.currencyCode, rate) ∈ initialRates)
    (htoRate : (toCode, toRate) ∈ initialRates) (h0 : source.nanos.toInt ≠ 0)
    (hn : source.nanos.toInt.natAbs < 10 ^ 8) :
    ¬ Accurate (convert table ⟨some source, toCode⟩).1 toCode
      (source.amount / rate * toRate) := by
  intro h
  obtain ⟨m, hresponse, -, -, hunits, hnanos⟩ := h
  rw [convert_response htable hrate htoRate] at hresponse
  obtain ⟨⟨units, nanos⟩, hsplit, rfl⟩ := Option.map_eq_some_iff.mp hresponse
  obtain ⟨hunits', hnanos'⟩ := getUnitsAndNanos_eq_some hsplit
  have hclose := split_inj (hunits'.symm.trans hunits) (hnanos'.symm.trans hnanos)
  have hlo := (initialRates_bounds _ htoRate).1
  have hhi := (initialRates_bounds _ hrate).2
  have hpos := (initialRates_bounds _ hrate).1
  simp only at hlo hhi hpos
  have hfactor : readAmount source / rate * toRate - source.amount / rate * toRate =
      (readAmount source - source.amount) * (toRate / rate) := by ring
  have hratio : (8 / 10) / 16000 ≤ toRate / rate :=
    div_le_div₀ (by linarith) hlo (by linarith) hhi
  have hgap := mul_le_mul (readAmount_gap h0 hn) hratio (by norm_num) (abs_nonneg _)
  rw [hfactor, abs_mul, abs_of_nonneg (le_trans (by norm_num) hratio)] at hclose
  norm_num at hgap hclose
  linarith

/-- **A conversion is accurate exactly when** the nanos are zero or have all nine digits. -/
theorem convert_accurate_iff (htable : Reached table) (hvalid : source.isValid = true)
    (hrate : (source.currencyCode, rate) ∈ initialRates)
    (htoRate : (toCode, toRate) ∈ initialRates)
    (hv : |source.amount / rate * toRate| < 2 ^ 63) :
    Accurate (convert table ⟨some source, toCode⟩).1 toCode (source.amount / rate * toRate) ↔
      source.nanos.toInt = 0 ∨ 10 ^ 8 ≤ source.nanos.toInt.natAbs := by
  constructor
  · intro h
    by_contra hn
    rw [not_or, not_le] at hn
    exact not_accurate_convert htable hrate htoRate hn.1 hn.2 h
  · intro hn
    exact accurate_convert htable hvalid hrate htoRate hv hn

/-- 10.5 US dollars in euros. -/
theorem convert_accurate_dollars :
    Accurate (convert currencyConversion ⟨some ⟨"USD", 10, 500000000⟩, "EUR"⟩).1 "EUR"
        (Money.amount ⟨"USD", 10, 500000000⟩ / 1.1305 * 1.0) ↔
      (500000000 : Int32).toInt = 0 ∨ 10 ^ 8 ≤ (500000000 : Int32).toInt.natAbs :=
  convert_accurate_iff .start (by decide) (List.mem_cons_of_mem _ List.mem_cons_self)
    List.mem_cons_self (by decide +kernel)

/-- 57.08 US dollars, the price of a flashlight, are not converted to themselves. -/
theorem convert_inaccurate :
    ¬ ∀ (table : Rates) (source : Money) (toCode : String) (rate toRate : ℚ), Reached table →
      source.isValid = true → (source.currencyCode, rate) ∈ initialRates →
        (toCode, toRate) ∈ initialRates → |source.amount / rate * toRate| < 2 ^ 63 →
          Accurate (convert table ⟨some source, toCode⟩).1 toCode
            (source.amount / rate * toRate) := by
  intro h
  have hmem : ("USD", 1.1305) ∈ initialRates := List.mem_cons_of_mem _ List.mem_cons_self
  have haccurate := h currencyConversion ⟨"USD", 57, 80000000⟩ "USD" 1.1305 1.1305 .start
    (by decide) hmem hmem (by decide +kernel)
  exact not_accurate_convert .start hmem hmem (by decide) (by decide) haccurate

end

end Currency

end AstronomyShop
