import AstronomyShop.Checkout.Total
import AstronomyShop.Frontend.Prices
import Mathlib.Algebra.Order.BigOperators.Group.List

/-!
# The total on the cart page

The component `CartItems` adds up the units and the nanos of the unit prices and of the
shipping cost, and carries once. It never looks at a quantity, so its total is the sum of the
unit prices (`total_eq`). That is what `PlaceOrder` charges exactly when every line that costs
something has one piece, as far as `PlaceOrder` gets to a total (`cart_total_charged_iff`).

The amounts are bounded by `CartAmounts`: below 2^53 the doubles of the frontend are exact.
-/

namespace AstronomyShop

open ExactDouble Money

namespace Frontend

/-! ## The component -/

/-- `IProductCartItem`, with the price of its product. -/
structure ProductCartItem where
  productId : String
  quantity : Double
  priceUsd : Option Money

/-- An unset price counts as the empty object, and an unset field as `0`. -/
def ProductCartItem.nanos (it : ProductCartItem) : Double :=
  match it.priceUsd with
  | some priceUsd => priceUsd.nanos
  | none => .finite 0

def ProductCartItem.units (it : ProductCartItem) : Double :=
  match it.priceUsd with
  | some priceUsd => priceUsd.units
  | none => .finite 0

/-- The shipping cost of the query, with its default while there is none. -/
def shippingConst (data : Option Money) : Money :=
  data.getD { units := .finite 0, currencyCode := "USD", nanos := .finite 0 }

/-- The total of `CartItems`. The operator `||` takes the whole sum of nanos as its left
operand. -/
def total (productList : List ProductCartItem) (data : Option Money)
    (selectedCurrency : String) : Money :=
  let nanoSum := (productList.foldl (fun acc it => acc + it.nanos) (.finite 0) +
    (shippingConst data).nanos).orElse (.finite 0)
  let nanoExceed := (nanoSum / .finite 1000000000).floor
  let unitSum := productList.foldl (fun acc it => acc + it.units) (.finite 0) +
    (shippingConst data).units.orElse (.finite 0) + nanoExceed
  { units := unitSum
    currencyCode := selectedCurrency
    nanos := nanoSum % .finite 1000000000 }

/-- A cart line as `/api/cart` sends it, priced like the order item. -/
def ProductCartItem.ofOrderItem (it : OrderItem) : ProductCartItem where
  productId := it.item.productId
  quantity := .ofInt it.item.quantity.toInt
  priceUsd := some (.ofMessage it.cost)

/-! ## The sums -/

def unitsSum (items : List OrderItem) : Int := (items.map fun it => it.cost.units.toInt).sum

def nanosSum (items : List OrderItem) : Int := (items.map fun it => it.cost.nanos.toInt).sum

/-- The sum of the unit prices, in billionths. -/
def unitPrices (items : List OrderItem) : Int := (items.map fun it => it.cost.value).sum

theorem unitPrices_eq (items : List OrderItem) :
    unitPrices items = unitsSum items * 10 ^ 9 + nanosSum items := by
  induction items with
  | nil => rfl
  | cons it rest ih =>
    have hcons : unitPrices (it :: rest) = it.cost.value + unitPrices rest := rfl
    have hunits : unitsSum (it :: rest) = it.cost.units.toInt + unitsSum rest := rfl
    have hnanos : nanosSum (it :: rest) = it.cost.nanos.toInt + nanosSum rest := rfl
    have hvalue : it.cost.value = it.cost.units.toInt * 10 ^ 9 + it.cost.nanos.toInt := rfl
    rw [hcons, hunits, hnanos, hvalue, ih]
    ring

/-- A fold that adds up exact numbers. -/
theorem foldl_ofOrderItem {read : ProductCartItem → Double} {f : OrderItem → Int}
    (hread : ∀ it, read (.ofOrderItem it) = .ofInt (f it)) (items : List OrderItem) (acc : Int) :
    (items.map ProductCartItem.ofOrderItem).foldl (fun acc it => acc + read it) (.ofInt acc) =
      .ofInt (acc + (items.map f).sum) := by
  induction items generalizing acc with
  | nil => simp
  | cons it rest ih =>
    rw [List.map_cons, List.foldl_cons, hread, Double.ofInt_add, ih, List.map_cons,
      List.sum_cons, add_assoc]

theorem floor_ofInt_div (n : Int) :
    (Double.ofInt n / .finite 1000000000).floor = .ofInt (n / 10 ^ 9) := by
  rw [Double.ofInt, Double.finite_div _ (by norm_num), Double.floor_finite]
  exact congrArg Double.ofInt (Rat.floor_intCast_div_natCast n 1000000000)

theorem ofInt_mod {n : Int} (hn : 0 ≤ n) :
    Double.ofInt n % .finite 1000000000 = .ofInt (n % 10 ^ 9) := by
  have hq : (0 : ℚ) ≤ n := by exact_mod_cast hn
  have hfloor : ⌊(n : ℚ) / 1000000000⌋ = n / 1000000000 :=
    Rat.floor_intCast_div_natCast n 1000000000
  rw [Double.ofInt, Double.finite_mod _ (by norm_num), truncate_of_nonneg (by positivity),
    hfloor, Double.ofInt, Int.emod_def]
  push_cast
  norm_num

/-- The total of the page in integers. -/
theorem total_eq {ship : AstronomyShop.Money} {items : List OrderItem} (selectedCurrency : String)
    (hn : 0 ≤ nanosSum items + ship.nanos.toInt) :
    total (items.map ProductCartItem.ofOrderItem) (some (.ofMessage ship)) selectedCurrency =
      { currencyCode := selectedCurrency
        units := .ofInt (unitsSum items + ship.units.toInt +
          (nanosSum items + ship.nanos.toInt) / 10 ^ 9)
        nanos := .ofInt ((nanosSum items + ship.nanos.toInt) % 10 ^ 9) } := by
  have hzero : Double.finite 0 = .ofInt 0 := by simp [Double.ofInt]
  have hnanos : (items.map ProductCartItem.ofOrderItem).foldl (fun acc it => acc + it.nanos)
      (.finite 0) = .ofInt (nanosSum items) := by
    rw [hzero, @foldl_ofOrderItem _ (fun it => it.cost.nanos.toInt) (fun _ => rfl), zero_add]
    rfl
  have hunits : (items.map ProductCartItem.ofOrderItem).foldl (fun acc it => acc + it.units)
      (.finite 0) = .ofInt (unitsSum items) := by
    rw [hzero, @foldl_ofOrderItem _ (fun it => it.cost.units.toInt) (fun _ => rfl), zero_add]
    rfl
  have hor : ∀ n : Int, (Double.ofInt n).orElse (.finite 0) = .ofInt n :=
    fun n => Double.orElse_zero n
  simp only [total, shippingConst, Option.getD_some, hnanos, hunits, Money.ofMessage,
    Double.ofInt_add, hor, floor_ofInt_div, ofInt_mod hn]

end Frontend

/-! ## The page and the charge -/

/-- A valid amount with the currency and the value of the given one. -/
def Frontend.Money.Displays (shown : Frontend.Money) (m : AstronomyShop.Money) : Prop :=
  shown.currencyCode = m.currencyCode ∧ ∃ units nanos : Int,
    shown.units = .ofInt units ∧ shown.nanos = .ofInt nanos ∧
      (nanos = 0 ∨ units = 0 ∨ (nanos < 0 ↔ units < 0)) ∧
      -999999999 ≤ nanos ∧ nanos ≤ 999999999 ∧ units * 10 ^ 9 + nanos = m.value

/-- The amounts of a cart page: valid and nonnegative, with quantities from one on and all sums
below 2^53. -/
structure CartAmounts (ship : Money) (items : List OrderItem) : Prop where
  shipping_valid : ship.isValid = true
  shipping_nonneg : 0 ≤ ship.value
  lines : ∀ it ∈ items, it.Priced
  total_exact : ship.value + charges items < 2 ^ 53 * 10 ^ 9
  nanos_exact : Frontend.nanosSum items + ship.nanos.toInt < 2 ^ 53

/-- `PlaceOrder` gets to a total of the same shipping cost, prices and quantities, and the page
displays that total. -/
def CartTotalIsCharged (userCurrency : String) (ship : Money) (items : List OrderItem) : Prop :=
  ∃ charged, orderTotal userCurrency ship items = .ok charged ∧
    (Frontend.total (items.map Frontend.ProductCartItem.ofOrderItem) (some (.ofMessage ship))
      userCurrency).Displays charged

section

variable {userCurrency : String} {ship : Money} {items : List OrderItem}

theorem CartAmounts.chargeable (h : CartAmounts ship items) : Chargeable ship items :=
  ⟨h.shipping_valid, h.shipping_nonneg, h.lines, by
    have := h.total_exact
    omega⟩

theorem sums_nonneg (h : ∀ it ∈ items, it.Priced) :
    0 ≤ Frontend.unitsSum items ∧ 0 ≤ Frontend.nanosSum items := by
  have hparts : ∀ it ∈ items, 0 ≤ it.cost.units.toInt ∧ 0 ≤ it.cost.nanos.toInt :=
    fun it hit => nonneg_of_isValid (h it hit).valid (h it hit).nonneg
  refine ⟨List.sum_nonneg ?_, List.sum_nonneg ?_⟩
  · intro n hn
    obtain ⟨it, hit, rfl⟩ := List.mem_map.mp hn
    exact (hparts it hit).1
  · intro n hn
    obtain ⟨it, hit, rfl⟩ := List.mem_map.mp hn
    exact (hparts it hit).2

/-- The charges are the unit prices exactly when every line that costs something has one
piece; otherwise they are more. -/
theorem charges_eq_unitPrices_iff (h : ∀ it ∈ items, it.Priced) :
    Frontend.unitPrices items ≤ charges items ∧
      (charges items = Frontend.unitPrices items ↔
        ∀ it ∈ items, it.item.quantity.toInt = 1 ∨ it.cost.value = 0) := by
  induction items with
  | nil => simp [Frontend.unitPrices]
  | cons it rest ih =>
    obtain ⟨hle, hiff⟩ := ih fun it' h' => h it' (List.mem_cons_of_mem _ h')
    have hit := h it List.mem_cons_self
    have hq := hit.quantity
    have hc := hit.nonneg
    have hcons : Frontend.unitPrices (it :: rest) = it.cost.value + Frontend.unitPrices rest := rfl
    have hcharge : it.charge = it.cost.value + (it.item.quantity.toInt - 1) * it.cost.value := by
      unfold OrderItem.charge
      ring
    have hmore : 0 ≤ (it.item.quantity.toInt - 1) * it.cost.value :=
      mul_nonneg (by omega) hc
    have hone : (it.item.quantity.toInt - 1) * it.cost.value = 0 ↔
        it.item.quantity.toInt = 1 ∨ it.cost.value = 0 := by
      rw [mul_eq_zero, sub_eq_zero]
    rw [charges_cons, hcons, List.forall_mem_cons, ← hone, ← hiff, hcharge]
    constructor
    · omega
    · omega

/-- The page displays a valid amount: the shipping cost plus the unit prices. -/
theorem displays_total_iff (h : CartAmounts ship items) {charged : Money}
    (hcur : charged.currencyCode = userCurrency)
    (hvalue : charged.value = ship.value + charges items) :
    (Frontend.total (items.map Frontend.ProductCartItem.ofOrderItem) (some (.ofMessage ship))
      userCurrency).Displays charged ↔
      ∀ it ∈ items, it.item.quantity.toInt = 1 ∨ it.cost.value = 0 := by
  obtain ⟨hsu, hsn⟩ := nonneg_of_isValid h.shipping_valid h.shipping_nonneg
  obtain ⟨hu, hn⟩ := sums_nonneg h.lines
  have hprices := Frontend.unitPrices_eq items
  have hship : ship.value = ship.units.toInt * 10 ^ 9 + ship.nanos.toInt := rfl
  rw [Frontend.total_eq userCurrency (by omega), ← (charges_eq_unitPrices_iff h.lines).2]
  constructor
  · intro hshown
    obtain ⟨-, units, nanos, hunits, hnanos, -, -, -, hsame⟩ := hshown
    have hunits' := Double.finite.inj hunits
    have hnanos' := Double.finite.inj hnanos
    norm_cast at hunits' hnanos'
    omega
  · intro heq
    refine ⟨hcur.symm, _, _, rfl, rfl, ?_, ?_, ?_, ?_⟩
    · omega
    · omega
    · omega
    · omega

/-- **The total of the cart page is the amount charged exactly when** every running total
before the last one is zero or at least one unit, so that `PlaceOrder` gets to a total, and
every line that costs something has one piece. -/
theorem cart_total_charged_iff (h : CartAmounts ship items)
    (hcur : InCurrency userCurrency ship items) :
    CartTotalIsCharged userCurrency ship items ↔
      EarlierTotalsSettled ship.value items ∧
        ∀ it ∈ items, it.item.quantity.toInt = 1 ∨ it.cost.value = 0 := by
  constructor
  · intro hcharged
    obtain ⟨charged, htotal, hshown⟩ := hcharged
    obtain ⟨hvalue, hccur, -⟩ := orderTotal_value h.chargeable htotal
    exact ⟨((exists_orderTotal_iff h.chargeable hcur).mp ⟨charged, htotal⟩).1,
      (displays_total_iff h hccur hvalue).mp hshown⟩
  · intro hcond
    obtain ⟨hearlier, hone⟩ := hcond
    have hdoubles : DoublesSettled items := by
      intro it hit hq
      left
      rcases hone it hit with h1 | h0
      · omega
      · omega
    obtain ⟨charged, htotal⟩ := (exists_orderTotal_iff h.chargeable hcur).mpr ⟨hearlier, hdoubles⟩
    obtain ⟨hvalue, hccur, -⟩ := orderTotal_value h.chargeable htotal
    exact ⟨charged, htotal, (displays_total_iff h hccur hvalue).mpr hone⟩

end

/-- One telescope, and three stickers that cost nothing. -/
def telescopeWithStickers : List OrderItem :=
  [⟨⟨"telescope", 1⟩, ⟨"USD", 101, 960000000⟩⟩, ⟨⟨"sticker", 3⟩, ⟨"USD", 0, 0⟩⟩]

/-- With 8.99 for the shipment, they are displayed at what they cost. -/
theorem cart_total_charged_stickers :
    CartTotalIsCharged "USD" ⟨"USD", 8, 990000000⟩ telescopeWithStickers := by
  have hamounts : CartAmounts ⟨"USD", 8, 990000000⟩ telescopeWithStickers :=
    ⟨by decide, by decide,
      List.forall_mem_cons.mpr ⟨⟨by decide, by decide, by decide⟩,
        List.forall_mem_singleton.mpr ⟨by decide, by decide, by decide⟩⟩, by decide, by decide⟩
  have hearlier : EarlierTotalsSettled (value ⟨"USD", 8, 990000000⟩) telescopeWithStickers := by
    simp only [telescopeWithStickers, earlierTotalsSettled_cons]
    exact ⟨by decide, by decide, earlierTotalsSettled_nil _⟩
  exact (cart_total_charged_iff hamounts ⟨rfl, by decide⟩).mpr ⟨hearlier, by decide⟩

/-- Two telescopes are displayed at the price of one. -/
theorem cart_total_ignores_quantity :
    ¬ ∀ (userCurrency : String) (ship : Money) (items : List OrderItem),
      CartAmounts ship items → InCurrency userCurrency ship items →
        CartTotalIsCharged userCurrency ship items := by
  intro h
  have hamounts : CartAmounts ⟨"USD", 8, 990000000⟩
      [⟨⟨"telescope", 2⟩, ⟨"USD", 101, 960000000⟩⟩] :=
    ⟨by decide, by decide,
      List.forall_mem_singleton.mpr ⟨by decide, by decide, by decide⟩, by decide, by decide⟩
  obtain ⟨charged, htotal, hshown⟩ :=
    h "USD" _ _ hamounts ⟨rfl, List.forall_mem_singleton.mpr rfl⟩
  obtain ⟨hvalue, hcur, -⟩ := orderTotal_value hamounts.chargeable htotal
  have hone := (displays_total_iff hamounts hcur hvalue).mp hshown _ List.mem_cons_self
  exact absurd hone (by decide)

end AstronomyShop
