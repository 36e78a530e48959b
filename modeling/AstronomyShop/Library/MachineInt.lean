import Mathlib.Algebra.Ring.Int.Defs
import Mathlib.Algebra.Ring.Nat
import Mathlib.Data.Int.Order.Basic
import Mathlib.Tactic.Common

/-!
# Fixed-width integers inside their range

The arithmetic of `Int64` and `Int32` wraps around. These lemmas give its exact value where
it does not, and truncated division where the quotient is `0` or `±1`; a sum of many `UInt32` is
taken modulo `2^32` once.
-/

theorem Int64.toInt_add_of_bounds {a b : Int64} (h₁ : -2 ^ 63 ≤ a.toInt + b.toInt)
    (h₂ : a.toInt + b.toInt < 2 ^ 63) : (a + b).toInt = a.toInt + b.toInt := by
  rw [Int64.toInt_add]
  exact Int.bmod_eq_of_le (by omega) (by omega)

theorem Int64.toInt_sub_of_bounds {a b : Int64} (h₁ : -2 ^ 63 ≤ a.toInt - b.toInt)
    (h₂ : a.toInt - b.toInt < 2 ^ 63) : (a - b).toInt = a.toInt - b.toInt := by
  rw [Int64.toInt_sub]
  exact Int.bmod_eq_of_le (by omega) (by omega)

theorem Int32.toInt_add_of_bounds {a b : Int32} (h₁ : -2 ^ 31 ≤ a.toInt + b.toInt)
    (h₂ : a.toInt + b.toInt < 2 ^ 31) : (a + b).toInt = a.toInt + b.toInt := by
  rw [Int32.toInt_add]
  exact Int.bmod_eq_of_le (by omega) (by omega)

theorem Int32.toInt_sub_of_bounds {a b : Int32} (h₁ : -2 ^ 31 ≤ a.toInt - b.toInt)
    (h₂ : a.toInt - b.toInt < 2 ^ 31) : (a - b).toInt = a.toInt - b.toInt := by
  rw [Int32.toInt_sub]
  exact Int.bmod_eq_of_le (by omega) (by omega)

theorem Int64.toInt_eq_zero_iff {a : Int64} : a.toInt = 0 ↔ a = 0 :=
  Int64.toInt_inj (y := 0)

theorem Int32.toInt_eq_zero_iff {a : Int32} : a.toInt = 0 ↔ a = 0 :=
  Int32.toInt_inj (y := 0)

/-- Division only overflows when the divisor is `-1`. -/
theorem Int32.toInt_div_of_one_lt {a b : Int32} (hb : 1 < b.toInt) :
    (a / b).toInt = a.toInt.tdiv b.toInt := by
  have hlo := a.le_toInt
  have hhi := a.toInt_lt
  have habs : (a.toInt.tdiv b.toInt).natAbs ≤ a.toInt.natAbs / 2 := by
    rw [Int.natAbs_tdiv]
    exact Nat.div_le_div_left (by omega) (by decide)
  rw [Int32.toInt_div]
  exact Int.bmod_eq_of_le (by omega) (by omega)

/-- The unsigned reading of a nonnegative number is the number itself. -/
theorem Int32.toNat_toUInt32_of_nonneg {a : Int32} (h : 0 ≤ a.toInt) :
    (a.toUInt32.toNat : Int) = a.toInt := by
  have hb : a.toInt = (a.toBitVec.toNat : Int).bmod (2 ^ 32) := by
    rw [← Int32.toInt_toBitVec, BitVec.toInt_eq_toNat_bmod]
  have hlt : a.toBitVec.toNat < 2 ^ 32 := a.toBitVec.isLt
  change (a.toBitVec.toNat : Int) = a.toInt
  rw [hb] at h ⊢
  rw [Int.bmod_def] at h ⊢
  by_cases hc : (a.toBitVec.toNat : Int) % (2 ^ 32 : Nat) < ((2 ^ 32 : Nat) + 1) / 2
  · rw [if_pos hc]
    omega
  · rw [if_neg hc] at h
    omega

/-- A sum that wraps around at every step has wrapped around once in all. -/
theorem UInt32.toNat_foldl_add (l : List UInt32) (a : UInt32) :
    (l.foldl (· + ·) a).toNat = (a.toNat + (l.map UInt32.toNat).sum) % 2 ^ 32 := by
  induction l generalizing a with
  | nil =>
    rw [List.foldl_nil, List.map_nil, List.sum_nil, Nat.add_zero]
    exact (Nat.mod_eq_of_lt a.toNat_lt).symm
  | cons b l ih =>
    rw [List.foldl_cons, ih, UInt32.toNat_add, List.map_cons, List.sum_cons, Nat.mod_add_mod,
      Nat.add_assoc]

namespace Int

theorem tdiv_tmod_of_nonneg {n k : Int} (h : 0 ≤ n) :
    n.tdiv k = n / k ∧ n.tmod k = n % k :=
  ⟨tdiv_eq_ediv_of_nonneg h, tmod_eq_emod_of_nonneg h⟩

theorem tdiv_tmod_of_nonpos {n k : Int} (h : n ≤ 0) :
    n.tdiv k = -(-n / k) ∧ n.tmod k = -(-n % k) := by
  obtain ⟨m, rfl⟩ : ∃ m, n = -m := ⟨-n, by omega⟩
  rw [Int.neg_tdiv, Int.neg_tmod, Int.neg_neg]
  obtain ⟨h₁, h₂⟩ := tdiv_tmod_of_nonneg (k := k) (show 0 ≤ m by omega)
  rw [h₁, h₂]
  exact ⟨rfl, rfl⟩

end Int
