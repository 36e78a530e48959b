import AstronomyShop.Checkout.Money

/-!
# Exact sums and products

`Sum` and `MultiplySlow` on amounts of either sign. What a `Money` can hold is `Representable`: a
sum that is representable leaves neither the range of the units nor, but for one place, that of the
nanos. `Sum` takes units that cancel for units of different sign: it puts one unit there and takes
the nanos from it, although there was none. So nanos that are left over when the units cancel come
out as they should only from a whole unit on (`sum_exact_iff`). In `MultiplySlow` no units cancel
when there are some (`multiplySlow_exact`).
-/

namespace AstronomyShop.Money

/-! ## Representable amounts -/

/-- Some valid `Money` is worth it. -/
def Representable (v : Int) : Prop := ∃ m : Money, m.isValid = true ∧ m.value = v

theorem representable_iff {v : Int} :
    Representable v ↔ -(2 ^ 63 + 1) * 10 ^ 9 < v ∧ v < 2 ^ 63 * 10 ^ 9 := by
  constructor
  · rintro ⟨m, hvalid, rfl⟩
    obtain ⟨-, hlo, hhi⟩ := isValid_iff.mp hvalid
    have hu := m.units.le_toInt
    have hu' := m.units.toInt_lt
    unfold value
    omega
  · intro ⟨hlo, hhi⟩
    have hparts : v.tdiv (10 ^ 9) * 10 ^ 9 + v.tmod (10 ^ 9) = v := Int.tdiv_mul_add_tmod v (10 ^ 9)
    have hsigns : (0 ≤ v → 0 ≤ v.tdiv (10 ^ 9) ∧ 0 ≤ v.tmod (10 ^ 9) ∧ v.tmod (10 ^ 9) < 10 ^ 9) ∧
        (v ≤ 0 → v.tdiv (10 ^ 9) ≤ 0 ∧ v.tmod (10 ^ 9) ≤ 0 ∧ -10 ^ 9 < v.tmod (10 ^ 9)) := by
      constructor
      · intro h0
        rw [(Int.tdiv_tmod_of_nonneg h0).1, (Int.tdiv_tmod_of_nonneg h0).2]
        omega
      · intro h0
        rw [(Int.tdiv_tmod_of_nonpos h0).1, (Int.tdiv_tmod_of_nonpos h0).2]
        omega
    have hunits : (Int64.ofInt (v.tdiv (10 ^ 9))).toInt = v.tdiv (10 ^ 9) :=
      Int64.toInt_ofInt_of_le (by omega) (by omega)
    have hnanos : (Int32.ofInt (v.tmod (10 ^ 9))).toInt = v.tmod (10 ^ 9) :=
      Int32.toInt_ofInt_of_le (by omega) (by omega)
    refine ⟨{ units := .ofInt (v.tdiv (10 ^ 9)), nanos := .ofInt (v.tmod (10 ^ 9)) }, ?_, ?_⟩
    · rw [isValid_iff, hunits, hnanos]
      omega
    · rw [value, hunits, hnanos, hparts]

/-! ## `Sum` -/

/-- Carrying leaves a valid amount: the nanos have the sign of the units or less than a unit to make
up for, and without units they are nothing or a whole unit. -/
theorem carryExact_isValid {units nanos : Int} (hlo : -1999999998 ≤ nanos)
    (hhi : nanos ≤ 1999999998) (hpos : 0 < units → -999999999 ≤ nanos)
    (hneg : units < 0 → nanos ≤ 999999999) (hzero : units = 0 → nanos = 0 ∨ 10 ^ 9 ≤ nanos) :
    ((carryExact units nanos).2 = 0 ∨ (carryExact units nanos).1 = 0 ∨
        ((carryExact units nanos).2 < 0 ↔ (carryExact units nanos).1 < 0)) ∧
      -999999999 ≤ (carryExact units nanos).2 ∧ (carryExact units nanos).2 ≤ 999999999 := by
  unfold carryExact
  split
  · simp only
    rcases le_total 0 nanos with h0 | h0
    · rw [(Int.tdiv_tmod_of_nonneg h0).1, (Int.tdiv_tmod_of_nonneg h0).2]
      omega
    · rw [(Int.tdiv_tmod_of_nonpos h0).1, (Int.tdiv_tmod_of_nonpos h0).2]
      omega
  · split
    · simp only
      omega
    · simp only
      omega

section

variable {l r : Money}

theorem sum_of_isValid (hl : l.isValid = true) (hr : r.isValid = true)
    (hc : l.currencyCode = r.currencyCode) :
    sum l r =
      ({ currencyCode := l.currencyCode
         units := (carry (l.units + r.units) (l.nanos + r.nanos)).1
         nanos := (carry (l.units + r.units) (l.nanos + r.nanos)).2 }, none) := by
  unfold sum
  rw [if_neg (by simp [hl, hr]), if_neg (not_not.mpr hc)]

/-- Units beyond `int64` have no nanos of the other sign that bring them back. -/
theorem toInt_units_add (hl : l.isValid = true) (hr : r.isValid = true)
    (hrep : Representable (l.value + r.value)) :
    (l.units + r.units).toInt = l.units.toInt + r.units.toInt := by
  obtain ⟨hls, hl'⟩ := isValid_iff.mp hl
  obtain ⟨hrs, hr'⟩ := isValid_iff.mp hr
  obtain ⟨hlo, hhi⟩ := representable_iff.mp hrep
  unfold value at hlo hhi
  have hlu := And.intro l.units.le_toInt l.units.toInt_lt
  have hru := And.intro r.units.le_toInt r.units.toInt_lt
  exact Int64.toInt_add_of_bounds (by omega) (by omega)

/-- **`Sum` is exact**, and its result valid, unless units cancel and leave some nanos. -/
theorem exact_of_units (hl : l.isValid = true) (hr : r.isValid = true)
    (hc : l.currencyCode = r.currencyCode) (hrep : Representable (l.value + r.value))
    (hunits : l.units.toInt + r.units.toInt = 0 →
      l.nanos.toInt + r.nanos.toInt = 0 ∨ 10 ^ 9 ≤ l.nanos.toInt + r.nanos.toInt) :
    ∃ m, sum l r = (m, none) ∧ m.isValid = true ∧ m.currencyCode = l.currencyCode ∧
      m.value = l.value + r.value := by
  have hu := toInt_units_add hl hr hrep
  have hn := toInt_nanos_add hl hr
  obtain ⟨hlo, hhi⟩ := representable_iff.mp hrep
  obtain ⟨hls, hl'⟩ := isValid_iff.mp hl
  obtain ⟨hrs, hr'⟩ := isValid_iff.mp hr
  have hvalue : l.value + r.value =
      (l.units.toInt + r.units.toInt) * 10 ^ 9 + (l.nanos.toInt + r.nanos.toInt) := by
    unfold value
    ring
  have hcarry := @carry_toInt (l.units + r.units) (l.nanos + r.nanos)
    (by omega) (by omega) (by omega) (by omega) (by omega)
  rw [hu, hn] at hcarry
  refine ⟨_, sum_of_isValid hl hr hc, ?_, rfl, ?_⟩
  · rw [isValid_iff, hcarry.1, hcarry.2]
    exact carryExact_isValid (by omega) (by omega) (by omega) (by omega) hunits
  · rw [value, hcarry.1, hcarry.2, carryExact_value, hvalue]

/-- Units that cancel and leave nanos: the nanos of the result have the wrong sign, or are out of
range. -/
theorem not_isValid_of_units_cancel (hl : l.isValid = true) (hr : r.isValid = true)
    (hc : l.currencyCode = r.currencyCode) (hunits : l.units.toInt + r.units.toInt = 0)
    (hne : l.nanos.toInt + r.nanos.toInt ≠ 0) (hlt : l.nanos.toInt + r.nanos.toInt < 10 ^ 9) :
    (sum l r).1.isValid = false := by
  have hn := toInt_nanos_add hl hr
  have hl' := (isValid_iff.mp hl).2
  have hr' := (isValid_iff.mp hr).2
  have hzero : l.units + r.units = 0 := by
    apply Int64.toInt_eq_zero_iff.mp
    rw [Int64.toInt_add_of_bounds (by omega) (by omega), hunits]
  have hnone : l.nanos + r.nanos ≠ 0 := by
    rw [ne_eq, ← Int32.toInt_eq_zero_iff, hn]
    exact hne
  have hcarry : carry (l.units + r.units) (l.nanos + r.nanos) =
      (1, l.nanos + r.nanos - nanosMod) := by
    rw [hzero]
    unfold carry
    rw [if_neg (by simp [hnone]), if_neg (by decide)]
    rfl
  rw [sum_of_isValid hl hr hc, hcarry, Bool.eq_false_iff, ne_eq, isValid_iff]
  simp only [Int32.toInt_sub, hn, nanosMod_toInt, Int64.toInt_one, Int.bmod_def]
  omega

/-! ## What `Sum` promises -/

/-- Errors with the empty `Money` for invalid operands and then for different currencies, and
otherwise the exact sum wherever there is one. -/
structure SumExact (l r : Money) : Prop where
  invalid : l.isValid = false ∨ r.isValid = false → sum l r = ({}, some .errInvalidValue)
  mismatching : l.isValid = true → r.isValid = true → l.currencyCode ≠ r.currencyCode →
    sum l r = ({}, some .errMismatchingCurrency)
  exact : l.isValid = true → r.isValid = true → l.currencyCode = r.currencyCode →
    Representable (l.value + r.value) →
      ∃ m, sum l r = (m, none) ∧ m.isValid = true ∧ m.currencyCode = l.currencyCode ∧
        m.value = l.value + r.value

/-- **`Sum` is exact and closed exactly when** no units cancel, or they leave no nanos or at least
a unit of them. -/
theorem sum_exact_iff (l r : Money) :
    SumExact l r ↔
      (l.isValid = true → r.isValid = true → l.currencyCode = r.currencyCode →
        l.units.toInt + r.units.toInt = 0 →
          l.nanos.toInt + r.nanos.toInt = 0 ∨ 10 ^ 9 ≤ l.nanos.toInt + r.nanos.toInt) := by
  constructor
  · intro h hl hr hc hunits
    by_contra hnanos
    rw [not_or, not_le] at hnanos
    have hl' := (isValid_iff.mp hl).2
    have hr' := (isValid_iff.mp hr).2
    have hrep : Representable (l.value + r.value) := by
      rw [representable_iff]
      unfold value
      omega
    obtain ⟨m, hsum, hvalid, -⟩ := h.exact hl hr hc hrep
    have hinvalid := not_isValid_of_units_cancel hl hr hc hunits hnanos.1 hnanos.2
    rw [hsum, hvalid] at hinvalid
    cases hinvalid
  · intro h
    refine ⟨?_, ?_, ?_⟩
    · intro hinvalid
      unfold sum
      apply if_pos
      simpa using hinvalid
    · intro hl hr hc
      unfold sum
      rw [if_neg (by simp [hl, hr]), if_pos hc]
    · intro hl hr hc hrep
      exact exact_of_units hl hr hc hrep (h hl hr hc)

end

/-- Half a unit and nothing. -/
theorem half_unit_lost : ¬ ∀ l r : Money, SumExact l r := by
  intro h
  obtain ⟨m, hsum, hvalid, -⟩ := (h ⟨"USD", 0, 500000000⟩ ⟨"USD", 0, 0⟩).exact (by decide)
    (by decide) rfl ⟨⟨"USD", 0, 500000000⟩, by decide, by decide⟩
  have hresult : sum ⟨"USD", 0, 500000000⟩ ⟨"USD", 0, 0⟩ = (⟨"USD", 1, -500000000⟩, none) := by
    decide
  rw [hresult] at hsum
  cases hsum
  exact absurd hvalid (by decide)

/-! ## `MultiplySlow` -/

section

variable {m out : Money}

/-- Some units are there exactly when the amount is a unit or more, in its direction. -/
theorem units_sign_of_isValid (h : m.isValid = true) :
    (0 < m.units.toInt ↔ 10 ^ 9 ≤ m.value) ∧ (m.units.toInt < 0 ↔ m.value ≤ -10 ^ 9) := by
  obtain ⟨hs, hlo, hhi⟩ := isValid_iff.mp h
  unfold value
  omega

/-- What is between nothing and a representable amount is representable. -/
theorem representable_of_between {v w : Int} (hw : Representable w)
    (h : (0 ≤ v ∧ v ≤ w) ∨ (w ≤ v ∧ v ≤ 0)) : Representable v := by
  rw [representable_iff] at hw ⊢
  omega

/-- Multiples of an amount with units add up exactly. -/
theorem exact_of_multiple (hvalid : m.isValid = true) (hunits : m.units.toInt ≠ 0) {j : Int}
    (hj : 1 ≤ j) (hout : out.value = j * m.value) (hovalid : out.isValid = true)
    (hcur : out.currencyCode = m.currencyCode) (hrep : Representable ((j + 1) * m.value)) :
    ∃ next, sum out m = (next, none) ∧ next.isValid = true ∧
      next.currencyCode = m.currencyCode ∧ next.value = (j + 1) * m.value := by
  have hsplit : (j + 1) * m.value = out.value + m.value := by
    rw [hout]
    ring
  obtain ⟨hpos, hneg⟩ := units_sign_of_isValid hvalid
  obtain ⟨hopos, honeg⟩ := units_sign_of_isValid hovalid
  have hne : out.units.toInt + m.units.toInt ≠ 0 := by
    -- the accumulator has units of the same sign
    rcases lt_or_gt_of_ne hunits with hlt | hgt
    · have hmv := hneg.mp hlt
      have hov : out.value ≤ -10 ^ 9 := by nlinarith
      have := honeg.mpr hov
      omega
    · have hmv := hpos.mp hgt
      have hov : 10 ^ 9 ≤ out.value := by nlinarith
      have := hopos.mpr hov
      omega
  rw [hsplit] at hrep ⊢
  obtain ⟨next, hsum, hnvalid, hncur, hnvalue⟩ :=
    exact_of_units hovalid hvalid hcur hrep (fun h0 => absurd h0 hne)
  exact ⟨next, hsum, hnvalid, hncur.trans hcur, hnvalue⟩

/-- The loop from an exact multiple on. -/
theorem multiplySlowLoop_exact (hvalid : m.isValid = true) (hunits : m.units.toInt ≠ 0) {k : Nat}
    {j : Int} (hj : 1 ≤ j) (hout : out.value = j * m.value) (hovalid : out.isValid = true)
    (hcur : out.currencyCode = m.currencyCode) (hrep : Representable ((j + k) * m.value)) :
    ∃ r, multiplySlowLoop m k out = .ok r ∧ r.isValid = true ∧
      r.currencyCode = m.currencyCode ∧ r.value = (j + k) * m.value := by
  induction k generalizing out j with
  | zero => exact ⟨out, rfl, hovalid, hcur, by simpa using hout⟩
  | succ k ih =>
    have hassoc : j + 1 + (k : Int) = j + (k + 1 : Nat) := by
      push_cast
      ring
    have hk : (0 : Int) ≤ k := Int.natCast_nonneg k
    have hnext : Representable ((j + 1) * m.value) := by
      apply representable_of_between hrep
      rw [← hassoc]
      rcases le_total 0 m.value with h0 | h0
      · exact .inl ⟨by nlinarith, by nlinarith⟩
      · exact .inr ⟨by nlinarith, by nlinarith⟩
    obtain ⟨next, hsum, hnvalid, hncur, hnvalue⟩ :=
      exact_of_multiple hvalid hunits hj hout hovalid hcur hnext
    obtain ⟨r, hr, hrest⟩ := ih (j := j + 1) (by omega) hnvalue hnvalid hncur (hassoc ▸ hrep)
    rw [hassoc] at hrest
    refine ⟨r, ?_, hrest⟩
    apply Except.bind_eq_ok_iff.mpr
    exact ⟨next, by rw [hsum]; rfl, hr⟩

/-- **`MultiplySlow` is multiplication** of an amount with units by a number from one on, wherever
the product is representable. -/
theorem multiplySlow_exact (m : Money) (n : UInt32) (hvalid : m.isValid = true)
    (hunits : m.units ≠ 0) (hn : 1 ≤ n.toNat) (hrep : Representable (n.toNat * m.value)) :
    ∃ r, multiplySlow m n = .ok r ∧ r.isValid = true ∧ r.currencyCode = m.currencyCode ∧
      r.value = n.toNat * m.value := by
  have hcast : (1 : Int) + (n.toNat - 1 : Nat) = n.toNat := by omega
  have hne : m.units.toInt ≠ 0 := mt Int64.toInt_eq_zero_iff.mp hunits
  have hloop := @multiplySlowLoop_exact m m hvalid hne (n.toNat - 1) 1 le_rfl (one_mul _).symm
    hvalid rfl (by rwa [hcast])
  rwa [hcast] at hloop

end

/-- Three times -2.4. -/
theorem multiplySlow_exact_minus : ∃ r, multiplySlow ⟨"USD", -2, -400000000⟩ 3 = .ok r ∧
    r.isValid = true ∧ r.currencyCode = "USD" ∧ r.value = 3 * value ⟨"USD", -2, -400000000⟩ :=
  multiplySlow_exact ⟨"USD", -2, -400000000⟩ 3 (by decide) (by decide) (by decide)
    ⟨⟨"USD", -7, -200000000⟩, by decide, by decide⟩

end AstronomyShop.Money
