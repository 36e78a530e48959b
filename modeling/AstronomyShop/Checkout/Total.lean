import AstronomyShop.Checkout.Money

/-!
# The total of an order

The total that `PlaceOrder` charges: the shipping cost added to zero, and then the cost of
every line times its quantity. Every addition goes through `Must`.

* `orderTotal_value`: a total that is reached is exact.
* `exists_orderTotal_iff`: it is reached exactly when every running total before the last one
  is zero or at least one unit, and so is the double of every cost that is multiplied.
* `orderTotal_never_panics_iff`: the total is reached and valid exactly when the last running
  total is settled in the same sense.
-/

namespace AstronomyShop

open Money

/-- The loop over the order items in `PlaceOrder`. -/
def orderTotalLoop : Money → List OrderItem → Except Money.Error Money
  | total, [] => .ok total
  | total, it :: rest => do
    let multPrice ← it.cost.multiplySlow it.item.quantity.toUInt32
    let total ← must (sum total multPrice)
    orderTotalLoop total rest

/-- The total of `PlaceOrder` from the localized shipping cost and the order items. -/
def orderTotal (userCurrency : String) (shippingCostLocalized : Money)
    (orderItems : List OrderItem) : Except Money.Error Money := do
  let total : Money := { currencyCode := userCurrency, units := 0, nanos := 0 }
  let total ← must (sum total shippingCostLocalized)
  orderTotalLoop total orderItems

/-! ## What is to be charged -/

/-- The exact price of a line, in billionths. -/
def OrderItem.charge (it : OrderItem) : Int := it.item.quantity.toInt * it.cost.value

def charges (items : List OrderItem) : Int := (items.map OrderItem.charge).sum

@[simp] theorem charges_nil : charges [] = 0 := rfl

@[simp] theorem charges_cons (it : OrderItem) (items : List OrderItem) :
    charges (it :: items) = it.charge + charges items := by
  simp [charges]

/-- A line with a valid nonnegative cost and a quantity from one on. -/
structure OrderItem.Priced (it : OrderItem) : Prop where
  valid : it.cost.isValid = true
  nonneg : 0 ≤ it.cost.value
  quantity : 1 ≤ it.item.quantity.toInt

theorem OrderItem.Priced.charge_nonneg {it : OrderItem} (h : it.Priced) : 0 ≤ it.charge :=
  mul_nonneg (by have := h.quantity; omega) h.nonneg

theorem OrderItem.Priced.toNat_quantity {it : OrderItem} (h : it.Priced) :
    (it.item.quantity.toUInt32.toNat : Int) = it.item.quantity.toInt :=
  Int32.toNat_toUInt32_of_nonneg (by have := h.quantity; omega)

theorem charges_nonneg {items : List OrderItem} (h : ∀ it ∈ items, it.Priced) :
    0 ≤ charges items := by
  induction items with
  | nil => exact le_rfl
  | cons it rest ih =>
    have h₁ := (h it List.mem_cons_self).charge_nonneg
    have h₂ := ih (fun it' h' => h it' (List.mem_cons_of_mem _ h'))
    rw [charges_cons]
    omega

/-- Amounts a total is asked for: valid and nonnegative, with a sum inside the `int64` range
of units. -/
structure Chargeable (shippingCost : Money) (items : List OrderItem) : Prop where
  shipping_valid : shippingCost.isValid = true
  shipping_nonneg : 0 ≤ shippingCost.value
  lines : ∀ it ∈ items, it.Priced
  range : shippingCost.value + charges items < 2 ^ 63 * 10 ^ 9

/-- Shipping cost and line costs are in the currency of the user. -/
def InCurrency (userCurrency : String) (shippingCost : Money) (items : List OrderItem) : Prop :=
  shippingCost.currencyCode = userCurrency ∧ ∀ it ∈ items, it.cost.currencyCode = userCurrency

/-! ## Running totals -/

/-- Every running total from `acc` on, before some line, is settled. -/
def EarlierTotalsSettled (acc : Int) (items : List OrderItem) : Prop :=
  ∀ pre, pre <+: items → pre ≠ items → Settled (acc + charges pre)

/-- Every running total from `acc` on is settled, the last one included. -/
def RunningTotalsSettled (acc : Int) (items : List OrderItem) : Prop :=
  ∀ pre, pre <+: items → Settled (acc + charges pre)

/-- The double of every cost that is multiplied is settled: no line with two or more pieces
has a cost strictly between zero and half a unit. -/
def DoublesSettled (items : List OrderItem) : Prop :=
  ∀ it ∈ items, 2 ≤ it.item.quantity.toInt → Settled (2 * it.cost.value)

theorem earlierTotalsSettled_nil (acc : Int) : EarlierTotalsSettled acc [] := by
  intro pre hpre hne
  exact absurd (List.prefix_nil.mp hpre) hne

theorem earlierTotalsSettled_cons {acc : Int} {it : OrderItem} {rest : List OrderItem} :
    EarlierTotalsSettled acc (it :: rest) ↔
      Settled acc ∧ EarlierTotalsSettled (acc + it.charge) rest := by
  constructor
  · intro h
    refine ⟨by simpa using h [] List.nil_prefix (by simp), ?_⟩
    intro pre hpre hne
    have := h (it :: pre) (List.cons_prefix_cons.mpr ⟨rfl, hpre⟩) (by simpa using hne)
    rwa [charges_cons, ← add_assoc] at this
  · rintro ⟨h₀, h⟩ pre hpre hne
    cases pre with
    | nil => simpa using h₀
    | cons it' pre =>
      obtain ⟨rfl, hpre'⟩ := List.cons_prefix_cons.mp hpre
      rw [charges_cons, ← add_assoc]
      exact h pre hpre' (by simpa using hne)

theorem runningTotalsSettled_iff {acc : Int} {items : List OrderItem} :
    RunningTotalsSettled acc items ↔
      EarlierTotalsSettled acc items ∧ Settled (acc + charges items) := by
  constructor
  · intro h
    exact ⟨fun pre hpre _ => h pre hpre, h items List.prefix_rfl⟩
  · rintro ⟨h, hlast⟩ pre hpre
    by_cases hne : pre = items
    · rw [hne]
      exact hlast
    · exact h pre hpre hne

theorem doublesSettled_cons {it : OrderItem} {rest : List OrderItem} :
    DoublesSettled (it :: rest) ↔
      (2 ≤ it.item.quantity.toInt → Settled (2 * it.cost.value)) ∧ DoublesSettled rest := by
  simp [DoublesSettled]

/-! ## The loop -/

section

variable {it : OrderItem} {total multPrice r : Money}

/-- The product of a line, when `MultiplySlow` gets through. -/
theorem multiplySlow_charge (h : it.Priced) (hmax : it.charge < 2 ^ 63 * 10 ^ 9)
    (hm : it.cost.multiplySlow it.item.quantity.toUInt32 = .ok multPrice) :
    multPrice.value = it.charge ∧ multPrice.currencyCode = it.cost.currencyCode := by
  have hq := h.toNat_quantity
  have h₁ := h.quantity
  have := multiplySlow_value h.nonneg (by omega) (by rw [hq]; exact hmax) hm
  rwa [hq] at this

theorem exists_multiplySlow_iff (h : it.Priced) (hmax : it.charge < 2 ^ 63 * 10 ^ 9) :
    (∃ m, it.cost.multiplySlow it.item.quantity.toUInt32 = .ok m ∧ m.isValid = true) ↔
      (2 ≤ it.item.quantity.toInt → Settled (2 * it.cost.value)) := by
  have hq := h.toNat_quantity
  have h₁ := h.quantity
  rw [multiplySlow_isValid_iff h.nonneg h.valid (by omega) (by rw [hq]; exact hmax)]
  constructor
  · intro hs h2
    exact hs (by omega)
  · intro hs h2
    exact hs (by omega)

/-- One round of the loop over the order items. -/
theorem orderTotalLoop_cons_ok_iff {rest : List OrderItem} :
    orderTotalLoop total (it :: rest) = .ok r ↔
      ∃ multPrice, it.cost.multiplySlow it.item.quantity.toUInt32 = .ok multPrice ∧
        ∃ next, must (sum total multPrice) = .ok next ∧ orderTotalLoop next rest = .ok r := by
  rw [orderTotalLoop, Except.bind_eq_ok_iff]
  simp only [Except.bind_eq_ok_iff]

/-- The running total after one more line. -/
theorem next_total {next : Money} {rest : List OrderItem} (h : it.Priced)
    (hrest : ∀ it ∈ rest, it.Priced) (h0 : 0 ≤ total.value)
    (hmax : total.value + charges (it :: rest) < 2 ^ 63 * 10 ^ 9)
    (hm : it.cost.multiplySlow it.item.quantity.toUInt32 = .ok multPrice)
    (hnext : must (sum total multPrice) = .ok next) :
    next.value = total.value + it.charge ∧ next.currencyCode = total.currencyCode ∧
      (next.isValid = true ↔ Settled next.value) := by
  have hc := h.charge_nonneg
  have hr := charges_nonneg hrest
  rw [charges_cons] at hmax
  have hmult := (multiplySlow_charge h (by omega) hm).1
  have hv := value_of_must_sum hnext h0 (by omega) (by omega)
  exact ⟨by omega, currencyCode_of_must_sum hnext,
    isValid_of_must_sum hnext h0 (by omega) (by omega)⟩

theorem orderTotalLoop_value {items : List OrderItem} (hitems : ∀ it ∈ items, it.Priced)
    (h0 : 0 ≤ total.value) (hmax : total.value + charges items < 2 ^ 63 * 10 ^ 9)
    (hset : total.isValid = true ↔ Settled total.value)
    (h : orderTotalLoop total items = .ok r) :
    r.value = total.value + charges items ∧ r.currencyCode = total.currencyCode ∧
      (r.isValid = true ↔ Settled r.value) := by
  induction items generalizing total with
  | nil =>
    cases h
    exact ⟨by simp, rfl, hset⟩
  | cons it rest ih =>
    obtain ⟨multPrice, hm, next, hnext, hloop⟩ := orderTotalLoop_cons_ok_iff.mp h
    have hit := hitems it List.mem_cons_self
    have hrest : ∀ it ∈ rest, it.Priced := fun it' h' => hitems it' (List.mem_cons_of_mem _ h')
    have hc := hit.charge_nonneg
    obtain ⟨hv, hcur, hset'⟩ := next_total hit hrest h0 hmax hm hnext
    rw [charges_cons] at hmax ⊢
    obtain ⟨hrv, hrcur, hrset⟩ := ih hrest (by omega) (by omega) hset' hloop
    exact ⟨by omega, hrcur.trans hcur, hrset⟩

/-- The loop gets through exactly when every total it starts a round with is settled, and
every product it makes is. -/
theorem exists_orderTotalLoop_iff {items : List OrderItem} (hitems : ∀ it ∈ items, it.Priced)
    (hcur : ∀ it ∈ items, it.cost.currencyCode = total.currencyCode) (h0 : 0 ≤ total.value)
    (hmax : total.value + charges items < 2 ^ 63 * 10 ^ 9)
    (hset : total.isValid = true ↔ Settled total.value) :
    (∃ r, orderTotalLoop total items = .ok r) ↔
      EarlierTotalsSettled total.value items ∧ DoublesSettled items := by
  induction items generalizing total with
  | nil =>
    constructor
    · intro _
      exact ⟨earlierTotalsSettled_nil _, by simp [DoublesSettled]⟩
    · intro _
      exact ⟨total, rfl⟩
  | cons it rest ih =>
    have hit := hitems it List.mem_cons_self
    have hrest : ∀ it ∈ rest, it.Priced := fun it' h' => hitems it' (List.mem_cons_of_mem _ h')
    have hrestcur : ∀ it ∈ rest, it.cost.currencyCode = total.currencyCode :=
      fun it' h' => hcur it' (List.mem_cons_of_mem _ h')
    have hc := hit.charge_nonneg
    have hr := charges_nonneg hrest
    have hmax' := hmax
    rw [charges_cons] at hmax'
    rw [earlierTotalsSettled_cons, doublesSettled_cons]
    constructor
    · rintro ⟨r, h⟩
      obtain ⟨multPrice, hm, next, hnext, hloop⟩ := orderTotalLoop_cons_ok_iff.mp h
      obtain ⟨hv, hncur, hset'⟩ := next_total hit hrest h0 hmax hm hnext
      obtain ⟨htvalid, hmvalid, -, -⟩ := must_sum_ok_iff.mp hnext
      obtain ⟨htotals, hdoubles⟩ := (ih hrest (fun it' h' => (hrestcur it' h').trans hncur.symm)
        (by omega) (by omega) hset').mp ⟨r, hloop⟩
      rw [hv] at htotals
      exact ⟨⟨hset.mp htvalid, htotals⟩,
        (exists_multiplySlow_iff hit (by omega)).mp ⟨multPrice, hm, hmvalid⟩, hdoubles⟩
    · rintro ⟨⟨htotal, htotals⟩, hdouble, hdoubles⟩
      obtain ⟨multPrice, hm, hmvalid⟩ := (exists_multiplySlow_iff hit (by omega)).mpr hdouble
      obtain ⟨-, hmcur⟩ := multiplySlow_charge hit (by omega) hm
      obtain ⟨next, hnext⟩ := exists_must_sum (hset.mpr htotal) hmvalid
        (hmcur.trans (hcur it List.mem_cons_self)).symm
      obtain ⟨hv, hncur, hset'⟩ := next_total hit hrest h0 hmax hm hnext
      obtain ⟨r, hloop⟩ := (ih hrest (fun it' h' => (hrestcur it' h').trans hncur.symm)
        (by omega) (by omega) hset').mpr ⟨hv ▸ htotals, hdoubles⟩
      exact ⟨r, orderTotalLoop_cons_ok_iff.mpr ⟨multPrice, hm, next, hnext, hloop⟩⟩

end

/-! ## The total -/

section

variable {userCurrency : String} {shippingCost total : Money} {items : List OrderItem}

theorem orderTotal_ok_iff :
    orderTotal userCurrency shippingCost items = .ok total ↔
      ∃ start, must (sum { currencyCode := userCurrency, units := 0, nanos := 0 } shippingCost) =
        .ok start ∧ orderTotalLoop start items = .ok total := by
  rw [orderTotal, Except.bind_eq_ok_iff]

theorem isValid_zero (userCurrency : String) :
    isValid { currencyCode := userCurrency, units := 0, nanos := 0 } = true :=
  isValid_iff.mpr (by simp)

theorem value_zero (userCurrency : String) :
    value { currencyCode := userCurrency, units := 0, nanos := 0 } = 0 := by
  simp [value]

/-- The first running total: the shipping cost alone. -/
theorem start_total {start : Money} (h : Chargeable shippingCost items)
    (hstart : must (sum { currencyCode := userCurrency, units := 0, nanos := 0 } shippingCost) =
      .ok start) :
    start.value = shippingCost.value ∧ start.currencyCode = userCurrency ∧
      (start.isValid = true ↔ Settled start.value) := by
  have hzero := value_zero userCurrency
  have hs := h.shipping_nonneg
  have hmax : shippingCost.value < 2 ^ 63 * 10 ^ 9 := by
    have := charges_nonneg h.lines
    have := h.range
    omega
  have hv := value_of_must_sum hstart (by rw [hzero]) hs (by rw [hzero]; omega)
  exact ⟨by omega, currencyCode_of_must_sum hstart,
    isValid_of_must_sum hstart (by rw [hzero]) hs (by rw [hzero]; omega)⟩

/-- **A total that is reached is exact**, and in the currency of the user; it is valid
exactly when it is settled. -/
theorem orderTotal_value (h : Chargeable shippingCost items)
    (htotal : orderTotal userCurrency shippingCost items = .ok total) :
    total.value = shippingCost.value + charges items ∧ total.currencyCode = userCurrency ∧
      (total.isValid = true ↔ Settled total.value) := by
  obtain ⟨start, hstart, hloop⟩ := orderTotal_ok_iff.mp htotal
  obtain ⟨hv, hcur, hset⟩ := start_total h hstart
  have hs := h.shipping_nonneg
  obtain ⟨hrv, hrcur, hrset⟩ := orderTotalLoop_value h.lines (by omega)
    (by rw [hv]; exact h.range) hset hloop
  exact ⟨by omega, hrcur.trans hcur, hrset⟩

/-- **The total is reached exactly when** every running total before the last one is settled,
and the double of every cost that is multiplied. -/
theorem exists_orderTotal_iff (h : Chargeable shippingCost items)
    (hcur : InCurrency userCurrency shippingCost items) :
    (∃ total, orderTotal userCurrency shippingCost items = .ok total) ↔
      EarlierTotalsSettled shippingCost.value items ∧ DoublesSettled items := by
  obtain ⟨start, hstart⟩ : ∃ start, must
      (sum { currencyCode := userCurrency, units := 0, nanos := 0 } shippingCost) = .ok start :=
    exists_must_sum (isValid_zero userCurrency) h.shipping_valid hcur.1.symm
  obtain ⟨hv, hscur, hset⟩ := start_total h hstart
  have hs := h.shipping_nonneg
  rw [← hv, ← exists_orderTotalLoop_iff h.lines (fun it hit => (hcur.2 it hit).trans hscur.symm)
    (by omega) (by rw [hv]; exact h.range) hset]
  constructor
  · rintro ⟨total, htotal⟩
    obtain ⟨start', hstart', hloop⟩ := orderTotal_ok_iff.mp htotal
    cases hstart.symm.trans hstart'
    exact ⟨total, hloop⟩
  · rintro ⟨total, hloop⟩
    exact ⟨total, orderTotal_ok_iff.mpr ⟨start, hstart, hloop⟩⟩

/-- **No `Must` of the total panics and the total is valid, exactly when** every running total
is zero or at least one unit, and no line of two or more pieces has a cost strictly between
zero and half a unit. -/
theorem orderTotal_never_panics_iff (h : Chargeable shippingCost items)
    (hcur : InCurrency userCurrency shippingCost items) :
    (∃ total, orderTotal userCurrency shippingCost items = .ok total ∧ total.isValid = true) ↔
      RunningTotalsSettled shippingCost.value items ∧ DoublesSettled items := by
  rw [runningTotalsSettled_iff]
  constructor
  · rintro ⟨total, htotal, hvalid⟩
    obtain ⟨hv, -, hset⟩ := orderTotal_value h htotal
    obtain ⟨hearlier, hdoubles⟩ := (exists_orderTotal_iff h hcur).mp ⟨total, htotal⟩
    exact ⟨⟨hearlier, hv ▸ hset.mp hvalid⟩, hdoubles⟩
  · rintro ⟨⟨hearlier, hlast⟩, hdoubles⟩
    obtain ⟨total, htotal⟩ := (exists_orderTotal_iff h hcur).mpr ⟨hearlier, hdoubles⟩
    obtain ⟨hv, -, hset⟩ := orderTotal_value h htotal
    exact ⟨total, htotal, hset.mpr (hv ▸ hlast)⟩

/-- Two pieces at 10.50 and 5 for the shipment. -/
theorem orderTotal_never_panics_bulbs :
    (∃ total, orderTotal "USD" ⟨"USD", 5, 0⟩ [⟨⟨"bulb", 2⟩, ⟨"USD", 10, 500000000⟩⟩] = .ok total ∧
        total.isValid = true) ↔
      RunningTotalsSettled (value ⟨"USD", 5, 0⟩) [⟨⟨"bulb", 2⟩, ⟨"USD", 10, 500000000⟩⟩] ∧
        DoublesSettled [⟨⟨"bulb", 2⟩, ⟨"USD", 10, 500000000⟩⟩] :=
  orderTotal_never_panics_iff
    ⟨by decide, by decide,
      List.forall_mem_singleton.mpr ⟨by decide, by decide, by decide⟩, by decide⟩
    ⟨rfl, List.forall_mem_singleton.mpr rfl⟩

/-- A shipment for half a dollar: the first `Sum` leaves a running total that is not valid, and
the next one panics. -/
theorem orderTotal_panics :
    ¬ ∀ (userCurrency : String) (shippingCost : Money) (items : List OrderItem),
      Chargeable shippingCost items → InCurrency userCurrency shippingCost items →
        ∃ total, orderTotal userCurrency shippingCost items = .ok total ∧
          total.isValid = true := by
  intro h
  obtain ⟨total, htotal, -⟩ := h "USD" ⟨"USD", 0, 500000000⟩ [⟨⟨"bulb", 1⟩, ⟨"USD", 10, 0⟩⟩]
    ⟨by decide, by decide,
      List.forall_mem_singleton.mpr ⟨by decide, by decide, by decide⟩, by decide⟩
    ⟨rfl, List.forall_mem_singleton.mpr rfl⟩
  have hpanic : orderTotal "USD" ⟨"USD", 0, 500000000⟩ [⟨⟨"bulb", 1⟩, ⟨"USD", 10, 0⟩⟩] =
      .error .errInvalidValue := by decide
  rw [hpanic] at htotal
  cases htotal

end

end AstronomyShop
