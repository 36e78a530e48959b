import AstronomyShop.Library.MachineInt
import AstronomyShop.Shipping.Service

/-!
# Counting the items

`get_quote` adds the quantities of a request up in a `u32`, which wraps around in a release build.
The quote service is asked about all items exactly when there are fewer than 2^32; beyond that a
larger cart is quoted for fewer items than a smaller one.
-/

namespace AstronomyShop.Shipping

open Wire ExactDouble

/-- The body that `request_quote` posts to the quote service. -/
def requestBody (count : UInt32) : Json := .obj [("numberOfItems", .int count.toNat)]

/-- The exact number of items. -/
def totalQuantity (req : GetQuoteRequest) : Nat :=
  (req.items.map fun item => item.quantity.toNat).sum

theorem toNat_itemCount (req : GetQuoteRequest) :
    (itemCount req).toNat = totalQuantity req % 2 ^ 32 := by
  unfold itemCount totalQuantity
  rw [UInt32.toNat_foldl_add, List.map_map, UInt32.toNat_zero, Nat.zero_add]
  rfl

/-- The number of items that is posted is the exact one, or the request is refused; and no smaller
cart is quoted for more items. -/
structure CountsEveryItem (req : GetQuoteRequest) : Prop where
  counted : requestBody (itemCount req) = .obj [("numberOfItems", .int (totalQuantity req))] ∨
    ∀ quoteService, (getQuote quoteService req).statusCode ≠ 200
  monotone : ∀ smaller, totalQuantity smaller ≤ totalQuantity req →
    itemCount smaller ≤ itemCount req

/-- A request that is decoded is never refused when the quote service answers. -/
theorem statusCode_getQuote {req : GetQuoteRequest} {quoteService : QuoteService} {price : Double}
    (hprice : quoteService (itemCount req) = .ok price) :
    (getQuote quoteService req).statusCode = 200 := by
  unfold getQuote createQuoteFromCount
  rw [hprice]

theorem requestBody_eq_iff {count : UInt32} {n : Nat} :
    requestBody count = .obj [("numberOfItems", .int n)] ↔ count.toNat = n := by
  simp [requestBody]

/-- A number that is not the exact one is never made up for by a refusal. -/
theorem totalQuantity_lt_of_counted {req : GetQuoteRequest} (h : CountsEveryItem req) :
    totalQuantity req < 2 ^ 32 := by
  rcases h.counted with hbody | hrefused
  · rw [← requestBody_eq_iff.mp hbody]
    exact (itemCount req).toNat_lt
  · exact absurd (statusCode_getQuote rfl) (hrefused fun _ => .ok (.finite 0))

/-- **Every item is counted exactly when** there are fewer than 2^32. -/
theorem counts_every_item_iff (req : GetQuoteRequest) :
    CountsEveryItem req ↔ totalQuantity req < 2 ^ 32 := by
  constructor
  · exact totalQuantity_lt_of_counted
  · intro h
    have hexact : ∀ smaller, totalQuantity smaller ≤ totalQuantity req →
        (itemCount smaller).toNat = totalQuantity smaller := by
      intro smaller hle
      rw [toNat_itemCount, Nat.mod_eq_of_lt (by omega)]
    refine ⟨.inl (requestBody_eq_iff.mpr (hexact req le_rfl)), ?_⟩
    intro smaller hle
    rw [UInt32.le_iff_toNat_le, hexact smaller hle, hexact req le_rfl]
    exact hle

/-- Three lines with the greatest quantity of an `int32` are more than a `u32` counts. -/
theorem heavy_cart_miscounted : ¬ ∀ req : GetQuoteRequest, CountsEveryItem req := by
  intro h
  have hlt := totalQuantity_lt_of_counted
    (h ⟨[⟨2147483647⟩, ⟨2147483647⟩, ⟨2147483647⟩], none⟩)
  exact absurd hlt (by decide)

end AstronomyShop.Shipping
