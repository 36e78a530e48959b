import Mathlib.Data.Nat.Digits.Lemmas
import Mathlib.Data.Rat.Defs
import Mathlib.Algebra.Order.Field.Basic
import Mathlib.Tactic.FieldSimp
import Mathlib.Tactic.Linarith
import Mathlib.Tactic.Ring

/-!
# Digits of a signed number

The number of digits of an integer in a base, as a loop counts them that divides by the base
and truncates until nothing is left. `digitFraction` puts the digits behind the point: it
forgets how many places there were, so it is the intended fraction of a number with `k`
places exactly when the number has `k` digits or is zero, and otherwise it is far off.
-/

/-- The number of digits of `n` in base `b`, the sign left out. -/
def digitCount (b : Nat) (n : Int) : Nat := (Nat.digits b n.natAbs).length

/-- The digits of `n` behind the point. -/
def digitFraction (b : Nat) (n : Int) : ℚ := n / (b : ℚ) ^ digitCount b n

section

variable {b : Nat} {n : Int}

@[simp] theorem digitCount_zero : digitCount b 0 = 0 := by
  simp [digitCount]

@[simp] theorem digitFraction_zero : digitFraction b 0 = 0 := by
  simp [digitFraction]

/-- One more digit than the truncated quotient has. -/
theorem digitCount_of_ne_zero (hb : 1 < b) (hn : n ≠ 0) :
    digitCount b n = digitCount b (n.tdiv b) + 1 := by
  unfold digitCount
  rw [Int.natAbs_tdiv, Int.natAbs_natCast, Nat.digits_def' hb (Int.natAbs_pos.mpr hn)]
  rfl

theorem digitCount_le_iff (hb : 1 < b) {k : Nat} :
    digitCount b n ≤ k ↔ n.natAbs < b ^ k := Nat.digits_length_le_iff hb _

theorem lt_digitCount_iff (hb : 1 < b) {k : Nat} :
    k < digitCount b n ↔ b ^ k ≤ n.natAbs := Nat.lt_digits_length_iff hb _

/-- The last digit goes behind the fraction of the digits before it. -/
theorem digitFraction_of_ne_zero (hb : 1 < b) (hn : n ≠ 0) :
    digitFraction b n =
      (n.tmod b / b) / (b : ℚ) ^ digitCount b (n.tdiv b) + digitFraction b (n.tdiv b) := by
  have hb0 : (b : ℚ) ≠ 0 := by exact_mod_cast (by omega : b ≠ 0)
  have hparts : (n : ℚ) = b * n.tdiv b + n.tmod b := by
    exact_mod_cast (Int.mul_tdiv_add_tmod n b).symm
  unfold digitFraction
  rw [digitCount_of_ne_zero hb hn, pow_succ]
  field_simp
  rw [hparts]
  ring

theorem abs_digitFraction_lt_one (hb : 1 < b) : |digitFraction b n| < 1 := by
  have hb0 : (0 : ℚ) < b := by exact_mod_cast (by omega : 0 < b)
  have hlt : n.natAbs < b ^ digitCount b n := (digitCount_le_iff hb).mp le_rfl
  have hlt' : |(n : ℚ)| < (b : ℚ) ^ digitCount b n := by
    rw [← Int.cast_abs, Int.abs_eq_natAbs]
    exact_mod_cast hlt
  unfold digitFraction
  rw [abs_div, abs_of_pos (pow_pos hb0 _), div_lt_one (pow_pos hb0 _)]
  exact hlt'

theorem le_abs_digitFraction (hb : 1 < b) (hn : n ≠ 0) : 1 / (b : ℚ) ≤ |digitFraction b n| := by
  have hb0 : (0 : ℚ) < b := by exact_mod_cast (by omega : 0 < b)
  have hcount := digitCount_of_ne_zero hb hn
  have hle : b ^ digitCount b (n.tdiv b) ≤ n.natAbs :=
    (lt_digitCount_iff hb).mp (by omega)
  have hle' : (b : ℚ) ^ digitCount b (n.tdiv b) ≤ |(n : ℚ)| := by
    rw [← Int.cast_abs, Int.abs_eq_natAbs]
    exact_mod_cast hle
  unfold digitFraction
  rw [abs_div, abs_of_pos (pow_pos hb0 _), hcount, pow_succ, div_le_div_iff₀ hb0 (by positivity)]
  nlinarith

/-- With fewer than `k` digits, but not zero, the digits behind the point are far from the
fraction with `k` places. -/
theorem digitFraction_gap (hb : 1 < b) (hn : n ≠ 0) {k : Nat} (hk : digitCount b n < k) :
    1 / (b : ℚ) * (1 - 1 / b) ≤ |digitFraction b n - n / (b : ℚ) ^ k| := by
  have hb1 : (1 : ℚ) < b := by exact_mod_cast hb
  have hb0 : (0 : ℚ) < b := by linarith
  obtain ⟨j, rfl⟩ : ∃ j, k = digitCount b n + (j + 1) := ⟨k - digitCount b n - 1, by omega⟩
  have hshift : (n : ℚ) / (b : ℚ) ^ (digitCount b n + (j + 1)) =
      digitFraction b n * (1 / (b : ℚ) ^ (j + 1)) := by
    unfold digitFraction
    rw [pow_add]
    field_simp
  have hsmall : 1 / (b : ℚ) ^ (j + 1) ≤ 1 / b := by
    apply one_div_le_one_div_of_le hb0
    calc (b : ℚ) = b ^ 1 := (pow_one _).symm
      _ ≤ b ^ (j + 1) := pow_le_pow_right₀ hb1.le (by omega)
  have hone : 1 / (b : ℚ) < 1 := by
    rw [div_lt_one hb0]
    exact hb1
  have hfactor : digitFraction b n - digitFraction b n * (1 / (b : ℚ) ^ (j + 1)) =
      digitFraction b n * (1 - 1 / (b : ℚ) ^ (j + 1)) := by ring
  rw [hshift, hfactor, abs_mul, abs_of_pos (by linarith : 0 < 1 - 1 / (b : ℚ) ^ (j + 1))]
  apply mul_le_mul (le_abs_digitFraction hb hn)
  · linarith
  · linarith
  · exact abs_nonneg _

end
