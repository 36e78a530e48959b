import AstronomyShop.Messages
import AstronomyShop.Library.MachineInt
import AstronomyShop.Library.Result
import Mathlib.Tactic.Linarith
import Mathlib.Tactic.Ring

/-!
# Amounts of money in checkout

The package `checkout/money`. `Sum` adds units and nanos separately and then carries or
borrows one unit (`carry`); `Must` turns an error into a panic, which is the `error` case of
`Except` here.

The exact amount of a `Money` is `value`, in billionths of a unit. On nonnegative amounts
`Sum` is exact (`value_of_must_sum`), but its result is a valid `Money` only when the amount
is zero or at least one unit (`isValid_of_must_sum`): with no whole unit on either side and
less than one unit in all, `Sum` takes the branch for operands of different sign and
borrows a unit that is not there.
-/

namespace AstronomyShop

namespace Money

/-! ## The package -/

def nanosMin : Int32 := -999999999
def nanosMax : Int32 := 999999999
def nanosMod : Int32 := 1000000000

inductive Error where
  | errInvalidValue
  | errMismatchingCurrency
  deriving DecidableEq, Repr

def signMatches (m : Money) : Bool :=
  m.nanos == 0 || m.units == 0 || decide (m.nanos < 0) == decide (m.units < 0)

def validNanos (nanos : Int32) : Bool := decide (nanosMin ≤ nanos) && decide (nanos ≤ nanosMax)

/-- Whether units and nanos agree in sign and the nanos are in range. -/
def isValid (m : Money) : Bool := m.signMatches && validNanos m.nanos

/-- A panic with the error is the `error` case. -/
def must (v : Money × Option Error) : Except Error Money :=
  match v.2 with
  | some err => .error err
  | none => .ok v.1

/-- The normalisation at the end of `Sum`. -/
def carry (units : Int64) (nanos : Int32) : Int64 × Int32 :=
  if (units = 0 ∧ nanos = 0) ∨ (0 < units ∧ 0 ≤ nanos) ∨ (units < 0 ∧ nanos ≤ 0) then
    -- same sign
    (units + (nanos / nanosMod).toInt64, nanos % nanosMod)
  else if 0 < units then
    (units - 1, nanos + nanosMod)
  else
    (units + 1, nanos - nanosMod)

def sum (l r : Money) : Money × Option Error :=
  if ¬ l.isValid ∨ ¬ r.isValid then
    ({}, some .errInvalidValue)
  else if l.currencyCode ≠ r.currencyCode then
    ({}, some .errMismatchingCurrency)
  else
    let c := carry (l.units + r.units) (l.nanos + r.nanos)
    ({ currencyCode := l.currencyCode, units := c.1, nanos := c.2 }, none)

/-- The loop of `MultiplySlow` with `n` rounds left. -/
def multiplySlowLoop (m : Money) : Nat → Money → Except Error Money
  | 0, out => .ok out
  | n + 1, out => do
    let out ← must (sum out m)
    multiplySlowLoop m n out

/-- `m` added to itself `n - 1` times. -/
def multiplySlow (m : Money) (n : UInt32) : Except Error Money :=
  multiplySlowLoop m (n.toNat - 1) m

/-- Half a unit and nothing: the sum is no valid amount. -/
example : sum ⟨"USD", 0, 500000000⟩ ⟨"USD", 0, 0⟩ = (⟨"USD", 1, -500000000⟩, none) := by decide

/-! ## Exact amounts -/

/-- The exact amount in billionths of a unit. -/
def value (m : Money) : Int := m.units.toInt * 10 ^ 9 + m.nanos.toInt

theorem isValid_iff {m : Money} :
    m.isValid = true ↔
      (m.nanos.toInt = 0 ∨ m.units.toInt = 0 ∨ (m.nanos.toInt < 0 ↔ m.units.toInt < 0)) ∧
        -999999999 ≤ m.nanos.toInt ∧ m.nanos.toInt ≤ 999999999 := by
  have hn : m.nanos < 0 ↔ m.nanos.toInt < 0 := Int32.lt_iff_toInt_lt
  have hu : m.units < 0 ↔ m.units.toInt < 0 := Int64.lt_iff_toInt_lt
  have hmin : nanosMin ≤ m.nanos ↔ -999999999 ≤ m.nanos.toInt := Int32.le_iff_toInt_le
  have hmax : m.nanos ≤ nanosMax ↔ m.nanos.toInt ≤ 999999999 := Int32.le_iff_toInt_le
  simp only [isValid, signMatches, validNanos, Bool.and_eq_true, Bool.or_eq_true, beq_iff_eq,
    decide_eq_decide, decide_eq_true_eq, hn, hu, hmin, hmax, ← Int32.toInt_eq_zero_iff,
    ← Int64.toInt_eq_zero_iff, or_assoc]

/-- The sign of a valid amount is the sign of its units and of its nanos. -/
theorem nonneg_of_isValid {m : Money} (h : m.isValid = true) (hv : 0 ≤ m.value) :
    0 ≤ m.units.toInt ∧ 0 ≤ m.nanos.toInt := by
  obtain ⟨hs, h₁, h₂⟩ := isValid_iff.mp h
  unfold value at hv
  omega

theorem nanosMod_toInt : nanosMod.toInt = 10 ^ 9 := by decide

/-- `carry` on unbounded integers. -/
def carryExact (units nanos : Int) : Int × Int :=
  if (units = 0 ∧ nanos = 0) ∨ (0 < units ∧ 0 ≤ nanos) ∨ (units < 0 ∧ nanos ≤ 0) then
    (units + nanos.tdiv (10 ^ 9), nanos.tmod (10 ^ 9))
  else if 0 < units then
    (units - 1, nanos + 10 ^ 9)
  else
    (units + 1, nanos - 10 ^ 9)

theorem carryExact_value (units nanos : Int) :
    (carryExact units nanos).1 * 10 ^ 9 + (carryExact units nanos).2 =
      units * 10 ^ 9 + nanos := by
  have hparts : nanos.tdiv (10 ^ 9) * 10 ^ 9 + nanos.tmod (10 ^ 9) = nanos :=
    Int.tdiv_mul_add_tmod nanos (10 ^ 9)
  unfold carryExact
  split
  · simp only
    omega
  · split
    · simp only
      omega
    · simp only
      omega

theorem carry_same_sign_iff {units : Int64} {nanos : Int32} :
    ((units = 0 ∧ nanos = 0) ∨ (0 < units ∧ 0 ≤ nanos) ∨ (units < 0 ∧ nanos ≤ 0)) ↔
      ((units.toInt = 0 ∧ nanos.toInt = 0) ∨ (0 < units.toInt ∧ 0 ≤ nanos.toInt) ∨
        (units.toInt < 0 ∧ nanos.toInt ≤ 0)) := by
  simp only [← Int32.toInt_eq_zero_iff, ← Int64.toInt_eq_zero_iff, Int32.le_iff_toInt_le,
    Int64.lt_iff_toInt_lt, Int64.toInt_zero, Int32.toInt_zero]

/-- The nanos of two valid amounts carry at most one unit, in their own direction. -/
theorem tdiv_nanosMod_bounds {n : Int} (hn : -1999999998 ≤ n) (hn' : n ≤ 1999999998) :
    -1 ≤ n.tdiv (10 ^ 9) ∧ n.tdiv (10 ^ 9) ≤ 1 ∧
      (0 ≤ n → 0 ≤ n.tdiv (10 ^ 9)) ∧ (n ≤ 0 → n.tdiv (10 ^ 9) ≤ 0) ∧
      (n.tdiv (10 ^ 9) = 1 → 10 ^ 9 ≤ n) ∧ (n.tdiv (10 ^ 9) = -1 → n ≤ -10 ^ 9) := by
  rcases le_total 0 n with h0 | h0
  · rw [(Int.tdiv_tmod_of_nonneg h0).1]
    omega
  · rw [(Int.tdiv_tmod_of_nonpos h0).1]
    omega

/-- Inside the `int64` range the carry does not wrap around. The last hypothesis leaves out
the one place where it does: with `0` units and nanos below `-1147483648`, another
`nanosMod` is subtracted from the nanos. -/
theorem carry_toInt {units : Int64} {nanos : Int32} (hn : -1999999998 ≤ nanos.toInt)
    (hn' : nanos.toInt ≤ 1999999998)
    (hlo : -(2 ^ 63 + 1) * 10 ^ 9 < units.toInt * 10 ^ 9 + nanos.toInt)
    (hhi : units.toInt * 10 ^ 9 + nanos.toInt < 2 ^ 63 * 10 ^ 9)
    (hz : units.toInt = 0 → -1147483648 ≤ nanos.toInt) :
    (carry units nanos).1.toInt = (carryExact units.toInt nanos.toInt).1 ∧
      (carry units nanos).2.toInt = (carryExact units.toInt nanos.toInt).2 := by
  have hu := units.le_toInt
  have hu' := units.toInt_lt
  have hpos : 0 < units ↔ 0 < units.toInt := Int64.lt_iff_toInt_lt
  unfold carry carryExact
  by_cases hs : (units.toInt = 0 ∧ nanos.toInt = 0) ∨ (0 < units.toInt ∧ 0 ≤ nanos.toInt) ∨
      (units.toInt < 0 ∧ nanos.toInt ≤ 0)
  · rw [if_pos (carry_same_sign_iff.mpr hs), if_pos hs]
    have hquot := tdiv_nanosMod_bounds hn hn'
    have hdiv : (nanos / nanosMod).toInt64.toInt = nanos.toInt.tdiv (10 ^ 9) := by
      rw [Int32.toInt_toInt64, Int32.toInt_div_of_one_lt (by decide), nanosMod_toInt]
    have hmod : (nanos % nanosMod).toInt = nanos.toInt.tmod (10 ^ 9) := by
      rw [Int32.toInt_mod, nanosMod_toInt]
    refine ⟨?_, hmod⟩
    rw [Int64.toInt_add_of_bounds] <;> rw [hdiv] <;> omega
  · rw [if_neg (mt carry_same_sign_iff.mp hs), if_neg hs]
    simp only [hpos]
    split
    · rw [Int64.toInt_sub_of_bounds, Int32.toInt_add_of_bounds, nanosMod_toInt, Int64.toInt_one]
      · exact ⟨rfl, rfl⟩
      all_goals simp only [nanosMod_toInt, Int64.toInt_one]
      all_goals omega
    · rw [Int64.toInt_add_of_bounds, Int32.toInt_sub_of_bounds, nanosMod_toInt, Int64.toInt_one]
      · exact ⟨rfl, rfl⟩
      all_goals simp only [nanosMod_toInt, Int64.toInt_one]
      all_goals omega

/-! ## `Sum` and `Must` -/

theorem must_sum_ok_iff {l r m : Money} :
    must (sum l r) = .ok m ↔
      l.isValid = true ∧ r.isValid = true ∧ l.currencyCode = r.currencyCode ∧
        m = { currencyCode := l.currencyCode
              units := (carry (l.units + r.units) (l.nanos + r.nanos)).1
              nanos := (carry (l.units + r.units) (l.nanos + r.nanos)).2 } := by
  unfold sum
  split
  · rename_i h
    constructor
    · intro hm
      cases hm
    · rintro ⟨hl, hr, -⟩
      rcases h with h | h
      · exact absurd hl h
      · exact absurd hr h
  · rename_i hvalid
    rw [not_or, not_not, not_not] at hvalid
    split
    · rename_i hcur
      constructor
      · intro hm
        cases hm
      · rintro ⟨-, -, h, -⟩
        exact absurd h hcur
    · rename_i hcur
      rw [not_not] at hcur
      simp only [must, Except.ok.injEq]
      exact ⟨fun h => ⟨hvalid.1, hvalid.2, hcur, h.symm⟩, fun h => h.2.2.2.symm⟩

/-- Two valid amounts of nanos do not overflow. -/
theorem toInt_nanos_add {l r : Money} (hl : l.isValid = true) (hr : r.isValid = true) :
    (l.nanos + r.nanos).toInt = l.nanos.toInt + r.nanos.toInt := by
  have hl' := (isValid_iff.mp hl).2
  have hr' := (isValid_iff.mp hr).2
  exact Int32.toInt_add_of_bounds (by omega) (by omega)

/-- The parts of a sum of valid nonnegative amounts. -/
theorem must_sum_parts {l r m : Money} (h : must (sum l r) = .ok m) (hl : 0 ≤ l.value)
    (hr : 0 ≤ r.value) (hmax : l.value + r.value < 2 ^ 63 * 10 ^ 9) :
    ∃ units nanos : Int, 0 ≤ units ∧ 0 ≤ nanos ∧ nanos ≤ 1999999998 ∧
      units * 10 ^ 9 + nanos = l.value + r.value ∧
      m.units.toInt = (carryExact units nanos).1 ∧ m.nanos.toInt = (carryExact units nanos).2 := by
  obtain ⟨hvl, hvr, -, rfl⟩ := must_sum_ok_iff.mp h
  obtain ⟨hlu, hln⟩ := nonneg_of_isValid hvl hl
  obtain ⟨hru, hrn⟩ := nonneg_of_isValid hvr hr
  have hln' := (isValid_iff.mp hvl).2.2
  have hrn' := (isValid_iff.mp hvr).2.2
  unfold value at hmax ⊢
  have hnanos := toInt_nanos_add hvl hvr
  have hunits : (l.units + r.units).toInt = l.units.toInt + r.units.toInt :=
    Int64.toInt_add_of_bounds (by omega) (by omega)
  have hcarry := @carry_toInt (l.units + r.units) (l.nanos + r.nanos)
    (by omega) (by omega) (by omega) (by omega) (by omega)
  rw [hnanos, hunits] at hcarry
  exact ⟨l.units.toInt + r.units.toInt, l.nanos.toInt + r.nanos.toInt, by omega, by omega,
    by omega, by omega, hcarry.1, hcarry.2⟩

/-- **`Sum` is exact on nonnegative amounts**, also where its result is not valid. -/
theorem value_of_must_sum {l r m : Money} (h : must (sum l r) = .ok m) (hl : 0 ≤ l.value)
    (hr : 0 ≤ r.value) (hmax : l.value + r.value < 2 ^ 63 * 10 ^ 9) :
    m.value = l.value + r.value := by
  obtain ⟨units, nanos, -, -, -, hv, hmu, hmn⟩ := must_sum_parts h hl hr hmax
  unfold value at hv ⊢
  rw [hmu, hmn, carryExact_value, hv]

theorem currencyCode_of_must_sum {l r m : Money} (h : must (sum l r) = .ok m) :
    m.currencyCode = l.currencyCode := by
  obtain ⟨-, -, -, rfl⟩ := must_sum_ok_iff.mp h
  rfl

/-- The amounts `Sum` returns as a valid `Money`: zero, and everything from one unit on. -/
def Settled (v : Int) : Prop := v = 0 ∨ 10 ^ 9 ≤ v

instance (v : Int) : Decidable (Settled v) := inferInstanceAs (Decidable (_ ∨ _))

/-- **The result of `Sum` is valid exactly when the amount is zero or at least one unit.** -/
theorem isValid_of_must_sum {l r m : Money} (h : must (sum l r) = .ok m) (hl : 0 ≤ l.value)
    (hr : 0 ≤ r.value) (hmax : l.value + r.value < 2 ^ 63 * 10 ^ 9) :
    m.isValid = true ↔ Settled m.value := by
  obtain ⟨units, nanos, hu, hn, hn', hv, hmu, hmn⟩ := must_sum_parts h hl hr hmax
  rw [value_of_must_sum h hl hr hmax, ← hv, isValid_iff, hmu, hmn]
  unfold carryExact Settled
  rw [(Int.tdiv_tmod_of_nonneg hn).1, (Int.tdiv_tmod_of_nonneg hn).2]
  split
  · simp only
    omega
  · split
    · simp only
      omega
    · simp only
      omega

/-- `Must` of `Sum` panics only on an invalid operand or on different currencies. -/
theorem exists_must_sum {l r : Money} (hl : l.isValid = true) (hr : r.isValid = true)
    (hc : l.currencyCode = r.currencyCode) : ∃ m, must (sum l r) = .ok m :=
  ⟨_, must_sum_ok_iff.mpr ⟨hl, hr, hc, rfl⟩⟩

theorem settled_of_le {v w : Int} (h : Settled v) (hv : 0 < v) (hw : v ≤ w) : Settled w := by
  unfold Settled at h ⊢
  omega

/-! ## `MultiplySlow` -/

/-- What the loop has added up, when it gets through. -/
theorem multiplySlowLoop_value {m : Money} (hm : 0 ≤ m.value) {k : Nat} {out r : Money} {j : Int}
    (hj : 0 ≤ j) (hout : out.value = j * m.value)
    (hmax : (j + k) * m.value < 2 ^ 63 * 10 ^ 9) (h : multiplySlowLoop m k out = .ok r) :
    r.value = (j + k) * m.value ∧ r.currencyCode = out.currencyCode := by
  induction k generalizing out j with
  | zero =>
    cases h
    exact ⟨by simpa using hout, rfl⟩
  | succ k ih =>
    obtain ⟨out', hsum, hrest⟩ := Except.bind_eq_ok_iff.mp h
    have hjm : 0 ≤ j * m.value := mul_nonneg hj hm
    have hkm : 0 ≤ k * m.value := mul_nonneg (Int.natCast_nonneg k) hm
    push_cast at hmax ⊢
    have hsplit : (j + (k + 1)) * m.value = j * m.value + m.value + k * m.value := by ring
    have hvalue : out'.value = (j + 1) * m.value := by
      rw [value_of_must_sum hsum (hout ▸ hjm) hm (by linarith), hout]
      ring
    have hassoc : j + 1 + (k : Int) = j + (k + 1) := by ring
    obtain ⟨hv, hc⟩ := ih (by omega) hvalue (hassoc ▸ hmax) hrest
    exact ⟨hassoc ▸ hv, hc.trans (currencyCode_of_must_sum hsum)⟩

/-- A loop over settled multiples gets through, and stays valid. -/
theorem exists_multiplySlowLoop {m : Money} (hm : 0 ≤ m.value) (hvalid : m.isValid = true)
    {k : Nat} {out : Money} {j : Int} (hj : 1 ≤ j) (hout : out.value = j * m.value)
    (hmax : (j + k) * m.value < 2 ^ 63 * 10 ^ 9) (hovalid : out.isValid = true)
    (hcur : out.currencyCode = m.currencyCode) (hset : Settled (2 * m.value)) :
    ∃ r, multiplySlowLoop m k out = .ok r ∧ r.isValid = true := by
  induction k generalizing out j with
  | zero => exact ⟨out, rfl, hovalid⟩
  | succ k ih =>
    obtain ⟨out', hsum⟩ := exists_must_sum hovalid hvalid hcur
    have hjm : m.value ≤ j * m.value := by nlinarith
    have hkm : 0 ≤ k * m.value := mul_nonneg (Int.natCast_nonneg k) hm
    push_cast at hmax
    have hsplit : (j + (k + 1)) * m.value = j * m.value + m.value + k * m.value := by ring
    have hbound : out.value + m.value < 2 ^ 63 * 10 ^ 9 := by linarith
    have hvalue : out'.value = out.value + m.value :=
      value_of_must_sum hsum (by linarith) hm hbound
    have hovalid' : out'.isValid = true := by
      rw [isValid_of_must_sum hsum (by linarith) hm hbound, hvalue]
      rcases hm.eq_or_lt with h0 | h0
      · left
        rw [hout, ← h0]
        simp
      · exact settled_of_le hset (by linarith) (by linarith)
    have hassoc : j + 1 + (k : Int) = j + (k + 1) := by ring
    obtain ⟨r, hr, hrv⟩ := ih (j := j + 1) (by omega) (by rw [hvalue, hout]; ring)
      (hassoc ▸ hmax) hovalid' ((currencyCode_of_must_sum hsum).trans hcur)
    exact ⟨r, Except.bind_eq_ok_iff.mpr ⟨out', hsum, hr⟩, hrv⟩

section

variable {m r : Money} {n : UInt32}

theorem multiplySlow_value (hm : 0 ≤ m.value) (hn : 1 ≤ n.toNat)
    (hmax : n.toNat * m.value < 2 ^ 63 * 10 ^ 9) (h : multiplySlow m n = .ok r) :
    r.value = n.toNat * m.value ∧ r.currencyCode = m.currencyCode := by
  have hcast : (1 : Int) + (n.toNat - 1 : Nat) = n.toNat := by omega
  have := multiplySlowLoop_value (j := 1) hm (by omega) (one_mul _).symm (hcast ▸ hmax) h
  rwa [hcast] at this

/-- **`MultiplySlow` gets through to a valid amount exactly when** it has nothing to add or
the double of the amount is settled. -/
theorem multiplySlow_isValid_iff (hm : 0 ≤ m.value) (hvalid : m.isValid = true)
    (hn : 1 ≤ n.toNat) (hmax : n.toNat * m.value < 2 ^ 63 * 10 ^ 9) :
    (∃ r, multiplySlow m n = .ok r ∧ r.isValid = true) ↔
      (2 ≤ n.toNat → Settled (2 * m.value)) := by
  have hcast : (1 : Int) + (n.toNat - 1 : Nat) = n.toNat := by omega
  constructor
  · rintro ⟨r, hr, hrv⟩ h2
    -- the first round of the loop adds `m` to itself
    obtain ⟨k, hk⟩ : ∃ k, n.toNat - 1 = k + 1 := ⟨n.toNat - 2, by omega⟩
    unfold multiplySlow at hr
    rw [hk] at hr
    obtain ⟨out, hsum, hrest⟩ := Except.bind_eq_ok_iff.mp hr
    have hbound : m.value + m.value < 2 ^ 63 * 10 ^ 9 := by nlinarith
    have hvalue := value_of_must_sum hsum hm hm hbound
    have hout : out.isValid = true := by
      cases k with
      | zero =>
        cases hrest
        exact hrv
      | succ k =>
        obtain ⟨_, hsum', -⟩ := Except.bind_eq_ok_iff.mp hrest
        exact (must_sum_ok_iff.mp hsum').1
    have := (isValid_of_must_sum hsum hm hm hbound).mp hout
    rwa [hvalue, ← two_mul] at this
  · intro hset
    rcases Nat.lt_or_ge n.toNat 2 with h1 | h2
    · refine ⟨m, ?_, hvalid⟩
      unfold multiplySlow
      rw [show n.toNat - 1 = 0 by omega]
      rfl
    · exact exists_multiplySlowLoop hm hvalid le_rfl (one_mul _).symm (hcast ▸ hmax) hvalid rfl
        (hset h2)

end

end Money

end AstronomyShop
