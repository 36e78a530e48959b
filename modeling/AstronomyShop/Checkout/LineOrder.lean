import AstronomyShop.Checkout.Total
import Mathlib.Algebra.BigOperators.Group.List.Basic

/-!
# The order of the lines

The total of an order does not depend on the order of its lines. With a unit or more for the
shipment every running total is settled, so that the total is reached exactly when every line alone
can be used: it is in the currency of the user, and its product is valid (`exists_orderTotal_iff_lines`).
A total that is reached has an exact value, and a valid `Money` is determined by its value and its
currency (`eq_of_value`).
-/

namespace AstronomyShop

open Money

/-- A valid amount is determined by its value and its currency. -/
theorem Money.eq_of_value {m m' : Money} (h : m.isValid = true) (h' : m'.isValid = true)
    (hvalue : m.value = m'.value) (hcur : m.currencyCode = m'.currencyCode) : m = m' := by
  obtain ⟨hs, hbounds⟩ := isValid_iff.mp h
  obtain ⟨hs', hbounds'⟩ := isValid_iff.mp h'
  unfold value at hvalue
  have hunits : m.units.toInt = m'.units.toInt := by omega
  have hnanos : m.nanos.toInt = m'.nanos.toInt := by omega
  cases m
  cases m'
  rw [Money.mk.injEq]
  exact ⟨hcur, Int64.toInt_inj.mp hunits, Int32.toInt_inj.mp hnanos⟩

section

variable {userCurrency : String} {shippingCost total : Money} {items items' : List OrderItem}

/-! ## Lines that can be used -/

/-- A loop that gets through has met no other currency than that of its total. -/
theorem currencies_of_orderTotalLoop (hitems : ∀ it ∈ items, it.Priced) (h0 : 0 ≤ total.value)
    (hmax : total.value + charges items < 2 ^ 63 * 10 ^ 9)
    (hset : total.isValid = true ↔ Settled total.value) {r : Money}
    (h : orderTotalLoop total items = .ok r) :
    ∀ it ∈ items, it.cost.currencyCode = total.currencyCode := by
  induction items generalizing total with
  | nil =>
    intro it hit
    cases hit
  | cons it rest ih =>
    obtain ⟨multPrice, hm, next, hnext, hloop⟩ := orderTotalLoop_cons_ok_iff.mp h
    have hit := hitems it List.mem_cons_self
    have hrest : ∀ it ∈ rest, it.Priced := fun it' h' => hitems it' (List.mem_cons_of_mem _ h')
    have hc := hit.charge_nonneg
    have hr := charges_nonneg hrest
    obtain ⟨hv, hncur, hset'⟩ := next_total hit hrest h0 hmax hm hnext
    rw [charges_cons] at hmax
    have hmcur := (multiplySlow_charge hit (by omega) hm).2
    obtain ⟨-, -, hcur, -⟩ := must_sum_ok_iff.mp hnext
    rw [List.forall_mem_cons]
    refine ⟨hmcur.symm.trans hcur.symm, ?_⟩
    rw [← hncur]
    exact ih hrest (by omega) (by omega) hset' hloop

/-- A total that is reached is all in the currency of the user. -/
theorem inCurrency_of_orderTotal (h : Chargeable shippingCost items)
    (htotal : orderTotal userCurrency shippingCost items = .ok total) :
    InCurrency userCurrency shippingCost items := by
  obtain ⟨start, hstart, hloop⟩ := orderTotal_ok_iff.mp htotal
  obtain ⟨hv, hscur, hset⟩ := start_total h hstart
  obtain ⟨-, -, hcur, -⟩ := must_sum_ok_iff.mp hstart
  have hs := h.shipping_nonneg
  refine ⟨hcur.symm, ?_⟩
  rw [← hscur]
  exact currencies_of_orderTotalLoop h.lines (by omega) (by rw [hv]; exact h.range) hset hloop

/-- With a unit or more for the shipment every running total is settled. -/
theorem earlierTotalsSettled_of_le {acc : Int} (hacc : 10 ^ 9 ≤ acc)
    (hitems : ∀ it ∈ items, it.Priced) : EarlierTotalsSettled acc items := by
  intro before hbefore _
  have hnonneg := @charges_nonneg before fun it hit => hitems it (hbefore.subset hit)
  right
  omega

/-- The total is reached exactly when every line can be used. -/
theorem exists_orderTotal_iff_lines (h : Chargeable shippingCost items)
    (hunits : 10 ^ 9 ≤ shippingCost.value) :
    (∃ total, orderTotal userCurrency shippingCost items = .ok total) ↔
      InCurrency userCurrency shippingCost items ∧ DoublesSettled items := by
  constructor
  · rintro ⟨total, htotal⟩
    have hcur := inCurrency_of_orderTotal h htotal
    exact ⟨hcur, ((exists_orderTotal_iff h hcur).mp ⟨total, htotal⟩).2⟩
  · rintro ⟨hcur, hdoubles⟩
    apply (exists_orderTotal_iff h hcur).mpr
    exact ⟨earlierTotalsSettled_of_le hunits h.lines, hdoubles⟩

/-! ## Another order -/

theorem charges_perm (h : items.Perm items') : charges items = charges items' :=
  (h.map OrderItem.charge).sum_eq

theorem Chargeable.perm (hc : Chargeable shippingCost items) (h : items.Perm items') :
    Chargeable shippingCost items' where
  shipping_valid := hc.shipping_valid
  shipping_nonneg := hc.shipping_nonneg
  lines it hit := hc.lines it (h.mem_iff.mpr hit)
  range := by
    rw [← charges_perm h]
    exact hc.range

theorem InCurrency.perm (hc : InCurrency userCurrency shippingCost items)
    (h : items.Perm items') : InCurrency userCurrency shippingCost items' :=
  ⟨hc.1, fun it hit => hc.2 it (h.mem_iff.mpr hit)⟩

theorem DoublesSettled.perm (hd : DoublesSettled items) (h : items.Perm items') :
    DoublesSettled items' :=
  fun it hit => hd it (h.mem_iff.mpr hit)

/-- A total that is reached is reached in any order. -/
theorem orderTotal_perm (h : Chargeable shippingCost items) (hunits : 10 ^ 9 ≤ shippingCost.value)
    (hperm : items.Perm items')
    (htotal : orderTotal userCurrency shippingCost items = .ok total) :
    orderTotal userCurrency shippingCost items' = .ok total := by
  obtain ⟨hcur, hdoubles⟩ := (exists_orderTotal_iff_lines h hunits).mp ⟨total, htotal⟩
  obtain ⟨total', htotal'⟩ := (exists_orderTotal_iff_lines (h.perm hperm) hunits).mpr
    ⟨hcur.perm hperm, hdoubles.perm hperm⟩
  obtain ⟨hv, hc, hset⟩ := orderTotal_value h htotal
  obtain ⟨hv', hc', hset'⟩ := orderTotal_value (h.perm hperm) htotal'
  have hnonneg := charges_nonneg h.lines
  rw [← charges_perm hperm] at hv'
  have heq : total' = total := by
    apply Money.eq_of_value
    · exact hset'.mpr (.inr (by omega))
    · exact hset.mpr (.inr (by omega))
    · rw [hv, hv']
    · rw [hc, hc']
  rw [htotal', heq]

end

/-- **The order of the lines does not matter** when the shipment costs a unit or more: the total is
the same in any order, or panics in any order. -/
theorem line_order_irrelevant (userCurrency : String) (shippingCost : Money)
    (items items' : List OrderItem) (h : Chargeable shippingCost items)
    (hunits : 1 ≤ shippingCost.units.toInt) (hperm : items.Perm items') :
    (∃ total, orderTotal userCurrency shippingCost items = .ok total ∧
        orderTotal userCurrency shippingCost items' = .ok total) ∨
      ((∃ err, orderTotal userCurrency shippingCost items = .error err) ∧
        ∃ err, orderTotal userCurrency shippingCost items' = .error err) := by
  have hnanos := (nonneg_of_isValid h.shipping_valid h.shipping_nonneg).2
  have hvalue : 10 ^ 9 ≤ shippingCost.value := by
    unfold value
    omega
  cases htotal : orderTotal userCurrency shippingCost items with
  | ok total => exact .inl ⟨total, rfl, orderTotal_perm h hvalue hperm htotal⟩
  | error err =>
    right
    refine ⟨⟨err, rfl⟩, ?_⟩
    cases htotal' : orderTotal userCurrency shippingCost items' with
    | error err' => exact ⟨err', rfl⟩
    | ok total =>
      rw [orderTotal_perm (h.perm hperm) hvalue hperm.symm htotal'] at htotal
      cases htotal

/-- Two lines, and the other way round. -/
theorem line_order_irrelevant_two :
    ∃ total, orderTotal "USD" ⟨"USD", 5, 0⟩
        [⟨⟨"telescope", 1⟩, ⟨"USD", 101, 960000000⟩⟩, ⟨⟨"bulb", 2⟩, ⟨"USD", 0, 500000000⟩⟩] =
          .ok total ∧
      orderTotal "USD" ⟨"USD", 5, 0⟩
        [⟨⟨"bulb", 2⟩, ⟨"USD", 0, 500000000⟩⟩, ⟨⟨"telescope", 1⟩, ⟨"USD", 101, 960000000⟩⟩] =
          .ok total := by
  have hlines : ∀ it ∈ [⟨⟨"telescope", 1⟩, ⟨"USD", 101, 960000000⟩⟩,
      (⟨⟨"bulb", 2⟩, ⟨"USD", 0, 500000000⟩⟩ : OrderItem)], it.Priced := by
    rw [List.forall_mem_cons, List.forall_mem_singleton]
    exact ⟨⟨by decide, by decide, by decide⟩, ⟨by decide, by decide, by decide⟩⟩
  apply (line_order_irrelevant "USD" ⟨"USD", 5, 0⟩ _ _
    ⟨by decide, by decide, hlines, by decide⟩ (by decide) (List.Perm.swap _ _ [])).resolve_right
  rintro ⟨⟨err, herr⟩, -⟩
  have htotal : orderTotal "USD" ⟨"USD", 5, 0⟩
      [⟨⟨"telescope", 1⟩, ⟨"USD", 101, 960000000⟩⟩, ⟨⟨"bulb", 2⟩, ⟨"USD", 0, 500000000⟩⟩] =
        .ok ⟨"USD", 107, 960000000⟩ := by decide
  rw [htotal] at herr
  cases herr

end AstronomyShop
