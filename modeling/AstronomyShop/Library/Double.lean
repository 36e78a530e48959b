import Mathlib.Data.Rat.Floor
import Mathlib.Tactic.Linarith
import Mathlib.Tactic.Ring

/-!
# Doubles with exact arithmetic

A double is read as an exact rational number or as one of the special values, so that
rounding is left out and everything else of the floating-point semantics (division by
zero, the special values, the conversions to integers) is kept. Zero has no sign.

The conversions of C++ and Rust to an integer type both truncate toward zero
(`truncate`); outside the range of the integer type the C++ one is undefined
(`toIntegral?`), and the Rust one saturates (`saturate`).

`split_truncate` is the arithmetic of splitting an amount into whole units and billionths:
truncating the amount, and then the scaled remainder, truncates the scaled amount.
-/

namespace ExactDouble

/-! ## Truncation -/

/-- The integer between `0` and `q` that is closest to `q`. -/
def truncate (q : ℚ) : Int := if 0 ≤ q then ⌊q⌋ else ⌈q⌉

theorem truncate_of_nonneg {q : ℚ} (h : 0 ≤ q) : truncate q = ⌊q⌋ := if_pos h

theorem truncate_of_neg {q : ℚ} (h : q < 0) : truncate q = ⌈q⌉ := if_neg (not_le.mpr h)

theorem truncate_nonneg {q : ℚ} (h : 0 ≤ q) : 0 ≤ truncate q := by
  rw [truncate_of_nonneg h]
  exact Int.floor_nonneg.mpr h

theorem truncate_nonpos {q : ℚ} (h : q ≤ 0) : truncate q ≤ 0 := by
  rcases h.lt_or_eq with h | rfl
  · rw [truncate_of_neg h]
    exact Int.ceil_le.mpr (by exact_mod_cast h.le)
  · simp [truncate]

@[simp] theorem truncate_intCast (n : Int) : truncate (n : ℚ) = n := by
  unfold truncate
  split <;> simp

theorem truncate_neg (q : ℚ) : truncate (-q) = -truncate q := by
  rcases lt_trichotomy q 0 with h | rfl | h
  · rw [truncate_of_nonneg (by linarith), truncate_of_neg h, Int.floor_neg]
  · simp [truncate]
  · rw [truncate_of_neg (by linarith), truncate_of_nonneg h.le, Int.ceil_neg]

theorem truncate_mono {p q : ℚ} (h : p ≤ q) : truncate p ≤ truncate q := by
  rcases le_or_gt 0 p with hp | hp
  · rw [truncate_of_nonneg hp, truncate_of_nonneg (hp.trans h)]
    exact Int.floor_le_floor h
  · rcases le_or_gt 0 q with hq | hq
    · exact (truncate_nonpos hp.le).trans (truncate_nonneg hq)
    · rw [truncate_of_neg hp, truncate_of_neg hq]
      exact Int.ceil_le_ceil h

/-- On the nonnegative side truncation is characterised like the floor. -/
theorem truncate_eq_iff_of_nonneg {q : ℚ} (h : 0 ≤ q) {n : Int} :
    truncate q = n ↔ (n : ℚ) ≤ q ∧ q < n + 1 := by
  rw [truncate_of_nonneg h, Int.floor_eq_iff]

theorem abs_sub_truncate_lt (q : ℚ) : |q - truncate q| < 1 := by
  rw [abs_lt]
  rcases le_or_gt 0 q with h | h
  · rw [truncate_of_nonneg h]
    have h₁ := Int.floor_le q
    have h₂ := Int.lt_floor_add_one q
    constructor <;> linarith
  · rw [truncate_of_neg h]
    have h₁ := Int.le_ceil q
    have h₂ := Int.ceil_lt_add_one q
    constructor <;> linarith

/-- Amounts whose truncations agree are less than two apart. -/
theorem abs_sub_lt_two_of_truncate_eq {p q : ℚ} (h : truncate p = truncate q) :
    |p - q| < 2 := by
  have hp := abs_lt.mp (abs_sub_truncate_lt p)
  have hq := abs_lt.mp (abs_sub_truncate_lt q)
  rw [h] at hp
  rw [abs_lt]
  constructor <;> linarith [hp.1, hp.2, hq.1, hq.2]

theorem abs_truncate_lt {q : ℚ} {n : Int} (h : |q| < n) : |truncate q| < n := by
  obtain ⟨h₁, h₂⟩ := abs_lt.mp h
  rw [abs_lt]
  rcases le_or_gt 0 q with hq | hq
  · have h₃ := truncate_nonneg hq
    have h₄ : truncate q < n := by
      rw [truncate_of_nonneg hq, Int.floor_lt]
      exact h₂
    constructor <;> omega
  · have h₃ := truncate_nonpos hq.le
    have h₄ : -n < truncate q := by
      rw [truncate_of_neg hq, Int.lt_ceil]
      exact_mod_cast h₁
    constructor <;> omega

/-- The whole part and the scaled, truncated fraction of `v` put together are the scaled
`v`, truncated once. -/
theorem split_truncate (v : ℚ) {scale : Nat} (hs : 0 < scale) :
    truncate v * scale + truncate ((v - truncate v) * scale) = truncate (v * scale) := by
  have hs' : (0 : ℚ) < scale := by exact_mod_cast hs
  have key : ∀ w : ℚ, 0 ≤ w →
      truncate w * scale + truncate ((w - truncate w) * scale) = truncate (w * scale) := by
    intro w hw
    have hfl := Int.floor_le w
    have hfr : 0 ≤ (w - truncate w) * scale := by
      rw [truncate_of_nonneg hw]
      exact mul_nonneg (by linarith) hs'.le
    rw [truncate_of_nonneg hfr, truncate_of_nonneg (mul_nonneg hw hs'.le)]
    have hsplit : w * scale = ((truncate w * scale : Int) : ℚ) + (w - truncate w) * scale := by
      push_cast
      ring
    rw [hsplit, Int.floor_intCast_add]
  rcases le_or_gt 0 v with h | h
  · exact key v h
  · have hneg := key (-v) (by linarith)
    have h₁ : -v * (scale : ℚ) = -(v * scale) := by ring
    have h₂ : (-v - ((-truncate v : Int) : ℚ)) * scale = -((v - truncate v) * scale) := by
      push_cast
      ring
    rw [truncate_neg, h₂, truncate_neg, h₁, truncate_neg] at hneg
    linarith

/-- The truncated, scaled fraction has the sign of the whole and stays below the scale. -/
theorem truncate_fraction (v : ℚ) {scale : Nat} (hs : 0 < scale) :
    |truncate ((v - truncate v) * scale)| < scale ∧
      (0 ≤ v → 0 ≤ truncate ((v - truncate v) * scale)) ∧
      (v ≤ 0 → truncate ((v - truncate v) * scale) ≤ 0) := by
  have hs' : (0 : ℚ) < scale := by exact_mod_cast hs
  refine ⟨?_, ?_, ?_⟩
  · apply abs_truncate_lt
    rw [abs_mul, abs_of_pos hs']
    have := mul_lt_mul_of_pos_right (abs_sub_truncate_lt v) hs'
    simpa using this
  · intro h
    apply truncate_nonneg
    rw [truncate_of_nonneg h]
    exact mul_nonneg (by linarith [Int.floor_le v]) hs'.le
  · intro h
    apply truncate_nonpos
    refine mul_nonpos_of_nonpos_of_nonneg ?_ hs'.le
    rcases h.lt_or_eq with h | rfl
    · rw [truncate_of_neg h]
      linarith [Int.le_ceil v]
    · simp [truncate]

/-! ## Doubles -/

/-- A double: an exact rational number, an infinity with its sign, or not a number. -/
inductive Double where
  | finite (q : ℚ)
  | infinite (negative : Bool)
  | nan
  deriving DecidableEq

namespace Double

/-- The double nearest to an integer, which is read exactly. -/
def ofInt (n : Int) : Double := .finite n

def neg : Double → Double
  | finite q => finite (-q)
  | infinite s => infinite !s
  | nan => nan

def add : Double → Double → Double
  | finite p, finite q => finite (p + q)
  | finite _, infinite s => infinite s
  | infinite s, finite _ => infinite s
  | infinite s, infinite s' => if s = s' then infinite s else nan
  | nan, _ => nan
  | _, nan => nan

def mul : Double → Double → Double
  | finite p, finite q => finite (p * q)
  | finite p, infinite s => if p = 0 then nan else infinite (xor (decide (p < 0)) s)
  | infinite s, finite q => if q = 0 then nan else infinite (xor s (decide (q < 0)))
  | infinite s, infinite s' => infinite (xor s s')
  | nan, _ => nan
  | _, nan => nan

/-- Division by zero gives an infinity with the sign of the dividend, or `nan` for `0 / 0`. -/
def div : Double → Double → Double
  | finite p, finite q =>
    if q = 0 then if p = 0 then nan else infinite (decide (p < 0)) else finite (p / q)
  | finite _, infinite _ => finite 0
  | infinite s, finite q => infinite (xor s (decide (q < 0)))
  | infinite _, infinite _ => nan
  | nan, _ => nan
  | _, nan => nan

/-- The remainder of the truncated quotient; it has the sign of the dividend. -/
def rem : Double → Double → Double
  | finite p, finite q => if q = 0 then nan else finite (p - q * truncate (p / q))
  | finite p, infinite _ => finite p
  | infinite _, _ => nan
  | nan, _ => nan
  | _, nan => nan

def floor : Double → Double
  | finite q => finite ⌊q⌋
  | infinite s => infinite s
  | nan => nan

instance : Neg Double := ⟨neg⟩
instance : Add Double := ⟨add⟩
instance : Sub Double := ⟨fun x y => x + -y⟩
instance : Mul Double := ⟨mul⟩
instance : Div Double := ⟨div⟩
instance : Mod Double := ⟨rem⟩

@[simp] theorem finite_add (p q : ℚ) : finite p + finite q = finite (p + q) := rfl

@[simp] theorem finite_sub (p q : ℚ) : finite p - finite q = finite (p - q) :=
  congrArg finite (sub_eq_add_neg p q).symm

@[simp] theorem finite_mul (p q : ℚ) : finite p * finite q = finite (p * q) := rfl

theorem finite_div (p : ℚ) {q : ℚ} (hq : q ≠ 0) : finite p / finite q = finite (p / q) :=
  if_neg hq

theorem finite_mod (p : ℚ) {q : ℚ} (hq : q ≠ 0) :
    finite p % finite q = finite (p - q * truncate (p / q)) := if_neg hq

@[simp] theorem floor_finite (q : ℚ) : (finite q).floor = finite ⌊q⌋ := rfl

@[simp] theorem ofInt_add (m n : Int) : ofInt m + ofInt n = ofInt (m + n) := by
  simp [ofInt]

/-- The C++ conversion to an integer type with the values `lo ≤ n < hi`: undefined (`none`)
when the truncated value is not one of them. -/
def toIntegral? (lo hi : Int) : Double → Option Int
  | finite q => if lo ≤ truncate q ∧ truncate q < hi then some (truncate q) else none
  | infinite _ => none
  | nan => none

/-- The Rust conversion to an unsigned integer type with the values below `hi`. -/
def saturate (hi : Nat) : Double → Nat
  | finite q => min (truncate q).toNat (hi - 1)
  | infinite negative => if negative then 0 else hi - 1
  | nan => 0

/-- A number is falsy in JavaScript when it is zero or not a number. -/
def orElse (x y : Double) : Double := if x = finite 0 ∨ x = nan then y else x

theorem orElse_zero (q : ℚ) : (finite q).orElse (finite 0) = finite q := by
  unfold orElse
  split
  · rename_i h
    simpa [eq_comm] using h
  · rfl

end Double

end ExactDouble
