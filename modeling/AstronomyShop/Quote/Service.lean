import AstronomyShop.Shipping.Counting

/-!
# The quote service

`/getquote` answers a number of items with a price: each item costs the same, between 40 and 100
dollars in steps of ten cents, drawn anew for every request. Whatever goes wrong, the price is 0.
How a text is read as a number (`intvalText`) is left open.
-/

namespace AstronomyShop.QuoteService

open Wire ExactDouble

variable (intvalText : String → Int)

def intval : Json → Int
  | .null => 0
  | .bool b => if b then 1 else 0
  | .int n => n
  | .real q => truncate q
  | .str s => intvalText s
  | .arr elems => if elems.isEmpty then 0 else 1
  | .obj members => if members.isEmpty then 0 else 1

/-- `round(q, 2)`, which rounds halves away from zero. -/
def roundCents (q : ℚ) : ℚ :=
  if 0 ≤ q then ⌊q * 100 + 1 / 2⌋ / 100 else ⌈q * 100 - 1 / 2⌉ / 100

/-- The member of a decoded object; of two with one name the last one counts. -/
def member (name : String) : Json → Option Json
  | .obj members => members.reverse.lookup name
  | _ => none

/-- `calculateQuote`, with the number that `rand(400, 1000)` draws. Without a number of items, or
with a body that is no object, an exception or an error is thrown and dropped. -/
def calculateQuote (draw : Nat) (jsonObject : Json) : ℚ :=
  match member "numberOfItems" jsonObject with
  | none => 0
  | some numberOfItems => roundCents (draw / 10 * intval intvalText numberOfItems)

/-- `/getquote`, as `request_quote` of the shipping service calls it. -/
def getquote (draw : Nat) : Shipping.QuoteService := fun count =>
  .ok (.finite (calculateQuote intvalText draw (Shipping.requestBody count)))

theorem roundCents_cents (k : Nat) : roundCents ((k : ℚ) / 100) = k / 100 := by
  have hpos : (0 : ℚ) ≤ (k : ℚ) / 100 := by positivity
  have hfloor : ⌊(k : ℚ) / 100 * 100 + 1 / 2⌋ = k := by
    rw [div_mul_cancel₀ _ (by norm_num), Int.floor_eq_iff]
    constructor
    · rw [Int.cast_natCast]
      linarith
    · rw [Int.cast_natCast]
      linarith
  rw [roundCents, if_pos hpos, hfloor, Int.cast_natCast]

/-- The price of a number of items. -/
theorem calculateQuote_requestBody (draw : Nat) (count : UInt32) :
    calculateQuote intvalText draw (Shipping.requestBody count) =
      ((draw * count.toNat * 10 : Nat) : ℚ) / 100 := by
  have hmember : member "numberOfItems" (Shipping.requestBody count) =
      some (.int count.toNat) := rfl
  have hprice : (draw : ℚ) / 10 * ((count.toNat : Int) : ℚ) =
      ((draw * count.toNat * 10 : Nat) : ℚ) / 100 := by
    push_cast
    ring
  rw [calculateQuote, hmember]
  simp only [intval]
  rw [hprice, roundCents_cents]

end AstronomyShop.QuoteService
