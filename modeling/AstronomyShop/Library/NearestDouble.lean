import AstronomyShop.Library.Double
import Mathlib.Algebra.Order.Round
import Mathlib.Algebra.Order.Field.Power
import Mathlib.Data.Int.Log
import Mathlib.Tactic.FieldSimp
import Mathlib.Tactic.Positivity

/-!
# The double nearest to a number

Reading decimal text gives the double nearest to the number (binary64, of two as near the even one).
The doubles around a number are `spacing` apart, which is `2 ^ (k - 53)` at most below `2 ^ k`, so
the nearest one is half of that away at most (`abs_nearest_sub_le`). Integers below `2 ^ 53` are
doubles themselves (`nearest_of_lt`), and from `2 ^ k` on a double is a multiple of `2 ^ (k - 52)`
(`exists_nearest_eq`).
-/

namespace Binary64

open ExactDouble

/-- The nearest integer, of two as near the even one. -/
def roundEven (q : ℚ) : Int :=
  if q - ⌊q⌋ = 1 / 2 ∧ ⌊q⌋ % 2 = 0 then ⌊q⌋ else round q

/-- The exponent of the last place of the doubles around a number. -/
def lastPlace (q : ℚ) : Int := max (Int.log 2 |q| - 52) (-1074)

/-- How far the doubles around a number are apart. -/
def spacing (q : ℚ) : ℚ := 2 ^ lastPlace q

/-- The nearest double, as far as the exponent does not overflow. -/
def nearest (q : ℚ) : ℚ := roundEven (q / spacing q) * spacing q

/-- The number as a double. -/
def ofRat (q : ℚ) : Double :=
  if 2 ^ 1024 ≤ |nearest q| then .infinite (decide (q < 0)) else .finite (nearest q)

/-! ## Nearest integers -/

theorem roundEven_intCast (n : Int) : roundEven n = n := by
  unfold roundEven
  rw [Int.floor_intCast, round_intCast]
  split <;> rfl

theorem abs_roundEven_sub_le (q : ℚ) : |roundEven q - q| ≤ 1 / 2 := by
  unfold roundEven
  split
  · rename_i h
    rw [abs_sub_comm, h.1, abs_of_pos (by norm_num)]
  · rw [abs_sub_comm]
    exact abs_sub_round q

theorem roundEven_nonneg {q : ℚ} (h : 0 ≤ q) : 0 ≤ roundEven q := by
  unfold roundEven
  split
  · exact Int.floor_nonneg.mpr h
  · rw [round_eq]
    exact Int.floor_nonneg.mpr (by linarith)

/-! ## The spacing -/

variable {q : ℚ} {k : Int}

theorem spacing_pos (q : ℚ) : 0 < spacing q := zpow_pos (by norm_num) _

theorem spacing_le (h0 : 0 < q) (h : q < 2 ^ k) (hk : -1021 ≤ k) : spacing q ≤ 2 ^ (k - 53) := by
  have hlog : Int.log 2 |q| < k := by
    rw [abs_of_pos h0]
    apply (Int.lt_zpow_iff_log_lt (by decide) h0).mp
    exact_mod_cast h
  apply zpow_le_zpow_right₀ (by norm_num)
  unfold lastPlace
  omega

theorem le_lastPlace (h : (2 : ℚ) ^ k ≤ q) : k - 52 ≤ lastPlace q := by
  have h0 : 0 < q := (zpow_pos (by norm_num) k).trans_le h
  have hlog : k ≤ Int.log 2 |q| := by
    rw [abs_of_pos h0]
    apply (Int.zpow_le_iff_le_log (by decide) h0).mp
    exact_mod_cast h
  unfold lastPlace
  omega

/-! ## The nearest double -/

theorem nearest_nonneg (h : 0 ≤ q) : 0 ≤ nearest q := by
  have hpos := spacing_pos q
  have hround := roundEven_nonneg (div_nonneg h hpos.le)
  exact mul_nonneg (by exact_mod_cast hround) hpos.le

theorem abs_nearest_sub_le (q : ℚ) : |nearest q - q| ≤ spacing q / 2 := by
  have hpos := spacing_pos q
  have hdiff : nearest q - q = (roundEven (q / spacing q) - q / spacing q) * spacing q := by
    unfold nearest
    field_simp
  rw [hdiff, abs_mul, abs_of_pos hpos]
  have hround := abs_roundEven_sub_le (q / spacing q)
  calc _ ≤ 1 / 2 * spacing q := mul_le_mul_of_nonneg_right hround hpos.le
    _ = spacing q / 2 := by ring

theorem abs_nearest_sub_le_of_lt (h0 : 0 < q) (h : q < 2 ^ k) (hk : -1021 ≤ k) :
    |nearest q - q| ≤ 2 ^ (k - 54) := by
  have hspacing := spacing_le h0 h hk
  have hhalf : (2 : ℚ) ^ (k - 53) / 2 = 2 ^ (k - 54) := by
    rw [div_eq_iff (by norm_num), ← zpow_add_one₀ (by norm_num)]
    congr 1
    omega
  have hnear := abs_nearest_sub_le q
  linarith

/-- From `2 ^ k` on the doubles are multiples of `2 ^ (k - 52)`. -/
theorem exists_nearest_eq (h : (2 : ℚ) ^ k ≤ q) : ∃ j : Int, nearest q = j * 2 ^ (k - 52) := by
  obtain ⟨d, hd⟩ := Int.le.dest (le_lastPlace h)
  refine ⟨roundEven (q / spacing q) * 2 ^ d, ?_⟩
  unfold nearest spacing
  rw [← hd, zpow_add₀ (by norm_num), zpow_natCast]
  push_cast
  ring

/-- A multiple of the spacing is a double. -/
theorem nearest_of_mul {j : Int} (h : q = j * spacing q) : nearest q = q := by
  have hpos := spacing_pos q
  have hdiv : q / spacing q = j := by
    rw [div_eq_iff hpos.ne']
    exact h
  unfold nearest
  rw [hdiv, roundEven_intCast, ← h]

/-- An integer below `2 ^ 53` is a double. -/
theorem nearest_of_lt {n : Nat} (h : n < 2 ^ 53) : nearest n = n := by
  have hlog : Int.log 2 |(n : ℚ)| < 53 := by
    rw [abs_of_nonneg (Nat.cast_nonneg n), Int.log_natCast]
    have := Nat.log_lt_of_lt_pow' (by decide) h
    omega
  obtain ⟨d, hd⟩ := Int.le.dest (by unfold lastPlace; omega : lastPlace n ≤ 0)
  apply @nearest_of_mul _ (n * 2 ^ d)
  have hspacing : (2 : ℚ) ^ d * spacing n = 1 := by
    unfold spacing
    rw [← zpow_natCast, ← zpow_add₀ (by norm_num)]
    have hsum : (d : Int) + lastPlace n = 0 := by omega
    rw [hsum, zpow_zero]
  push_cast
  rw [mul_assoc, hspacing, mul_one]

/-- The double nearest to an integer is an integer. -/
theorem exists_nearest_natCast (n : Nat) : ∃ v : Int, nearest n = v := by
  rcases lt_or_ge n (2 ^ 53) with hlt | hge
  · refine ⟨n, ?_⟩
    rw [nearest_of_lt hlt, Int.cast_natCast]
  · have hle : (2 : ℚ) ^ (53 : Int) ≤ n := by exact_mod_cast hge
    obtain ⟨j, hj⟩ := exists_nearest_eq hle
    refine ⟨j * 2, ?_⟩
    rw [hj]
    push_cast
    norm_num

/-- What fits 64 bits is far below the overflow. -/
theorem ofRat_of_lt (h0 : 0 ≤ q) (h : q < 2 ^ 64) : ofRat q = .finite (nearest q) := by
  have hnear : |nearest q - q| ≤ 2 ^ 64 := by
    rcases h0.eq_or_lt with rfl | h0
    · have hzero : nearest 0 = 0 := by exact_mod_cast @nearest_of_lt 0 (by decide)
      rw [hzero, sub_zero, abs_zero]
      positivity
    · have hbound := @abs_nearest_sub_le_of_lt q 64 h0 (by exact_mod_cast h) (by decide)
      exact hbound.trans (by norm_num)
  have hlt : |nearest q| < 2 ^ 1024 :=
    calc |nearest q| ≤ |nearest q - q| + |q| := by
          have htriangle := abs_add_le (nearest q - q) q
          rwa [sub_add_cancel] at htriangle
      _ < 2 ^ 65 := by
          rw [abs_of_nonneg h0]
          linarith
      _ ≤ 2 ^ 1024 := pow_le_pow_right₀ (by norm_num) (by norm_num)
  unfold ofRat
  rw [if_neg (not_le.mpr hlt)]

end Binary64
