import AstronomyShop.Checkout.LineOrder
import AstronomyShop.Checkout.ShippingCost
import AstronomyShop.Currency.Conversions
import AstronomyShop.Payment.PaidOrders
import AstronomyShop.ProductCatalog.Service

/-!
# The shop at work

All services together: when the calls of `PlaceOrder` are answered as the catalogue, the currency,
the shipping, the quote and the payment service answer them, the order is returned, every line that
the currency service reads right at the price of the catalogue in the currency of the user, and the
card is charged with the sum (`working_shop_sells`). In a currency that the currency service does
not know the order is returned as well, and the card is charged with zero
(`unlisted_sells_for_nothing`).
-/

namespace AstronomyShop

open Interaction Wire ExactDouble PaymentService

/-! ## The services -/

/-- What the services answer from, and the months that the clock of the payment service shows. -/
structure Shop where
  cart : String → Cart
  catalog : List Product
  intvalText : String → Int
  paymentSvcAddr : String
  cardDetails : String → CardDetails
  Now : Month → Prop

/-- The call is answered as its service answers it while nothing fails and no flag is set. Calls
that an order does not need may be answered in any way. -/
def Shop.Answers (shop : Shop) : CheckoutEvent → Prop
  | ⟨.newUUID, reply⟩ => ∃ orderID, reply = .ok orderID
  | ⟨.getCart userId, reply⟩ => reply = .ok (shop.cart userId)
  | ⟨.getProduct id, reply⟩ => ∀ product,
    ProductCatalog.getProduct shop.catalog false id = .ok product → reply = .ok product
  | ⟨.convert source toCode, reply⟩ => ∃ table, Currency.Reached table ∧
    ∀ result, (Currency.convert table ⟨source, toCode⟩).1 = some result → reply = .ok result
  | ⟨.getQuote payload, answer⟩ => ∀ req, Shipping.readGetQuoteRequest payload = .ok req →
    ∃ draw, 400 ≤ draw ∧ draw ≤ 1000 ∧
      answer = .ok (Shipping.getQuote (QuoteService.getquote shop.intvalText draw) req)
  | ⟨.booleanFlag _, reply⟩ => reply = false
  | ⟨.charge svcAddr amount creditCard, reply⟩ => svcAddr = shop.paymentSvcAddr → ∃ pt,
    Runs (chargeServiceHandler shop.cardDetails ⟨some amount, creditCard⟩) pt reply ∧
      Undisturbed pt ∧ ∀ today ∈ readings pt, shop.Now today
  | ⟨.shipOrder payload, answer⟩ => ∀ req, Shipping.readShipOrderRequest payload = .ok req →
    ∃ tid, tid ≠ "" ∧ answer = .ok (Shipping.shipOrder req tid)
  | _ => True

/-! ## Converted amounts -/

/-- The rate of the dollar. -/
def usdRate : ℚ := 1.1305

/-- An amount in dollars, in another currency, and in billionths. -/
def converted (rate : ℚ) (usd : Money) : Int := truncate (usd.amount / usdRate * rate * 10 ^ 9)

/-- The same of the amount that the currency service reads. -/
def convertedAsRead (rate : ℚ) (usd : Money) : Int :=
  truncate (Currency.readAmount usd / usdRate * rate * 10 ^ 9)

/-- What an amount from `low` up to `high` dollars is converted to: in an unlisted currency,
nothing. -/
structure Converted (code : String) (low high : Nat) (m : Money) : Prop where
  valid : m.isValid = true
  currencyCode : m.currencyCode = code
  lower : code ∈ Currency.initialRates.map Prod.fst → 7 * 10 ^ 8 * low ≤ m.value
  free : code ∉ Currency.initialRates.map Prod.fst → m.value = 0
  upper : m.value ≤ 16000 * 10 ^ 9 * high

variable {usd m : Money} {code : String} {low high : Nat}

theorem Converted.nonneg (h : Converted code low high m) : 0 ≤ m.value := by
  by_cases hlisted : code ∈ Currency.initialRates.map Prod.fst
  · have := h.lower hlisted
    omega
  · rw [h.free hlisted]

theorem readAmount_bounds (hvalid : usd.isValid = true) (hlow : low * 10 ^ 9 ≤ usd.value)
    (hhigh : usd.value < high * 10 ^ 9) :
    (low : ℚ) ≤ Currency.readAmount usd ∧ Currency.readAmount usd ≤ high := by
  have hvalue : usd.value = usd.units.toInt * 10 ^ 9 + usd.nanos.toInt := rfl
  obtain ⟨hunits, hnanos⟩ := Money.nonneg_of_isValid hvalid (by omega)
  obtain ⟨-, hbounds⟩ := Money.isValid_iff.mp hvalid
  have hfraction : 0 ≤ digitFraction 10 usd.nanos.toInt := by
    unfold digitFraction
    have : (0 : ℚ) ≤ (usd.nanos.toInt : ℚ) := by exact_mod_cast hnanos
    positivity
  have hone := (abs_lt.mp (@abs_digitFraction_lt_one 10 usd.nanos.toInt (by decide))).2
  have hlow' : (low : ℚ) ≤ (usd.units.toInt : ℚ) := by
    have : (low : Int) ≤ usd.units.toInt := by omega
    exact_mod_cast this
  have hhigh' : (usd.units.toInt : ℚ) + 1 ≤ (high : ℚ) := by
    have : usd.units.toInt + 1 ≤ (high : Int) := by omega
    exact_mod_cast this
  unfold Currency.readAmount
  constructor
  · linarith
  · linarith

/-- No listed rate is below 0.8 or above 16000, and an unlisted one is zero. -/
theorem rate_bounds {q : ℚ} (hlow : (low : ℚ) ≤ q) (hhigh : q ≤ high) :
    (code ∈ Currency.initialRates.map Prod.fst →
      (low : ℚ) * 7 / 10 ≤ q / usdRate * Currency.initialRate code) ∧
        0 ≤ q / usdRate * Currency.initialRate code ∧
          q / usdRate * Currency.initialRate code ≤ 16000 * high := by
  have hq : 0 ≤ q := (Nat.cast_nonneg low).trans hlow
  have hpos : 0 ≤ q / usdRate := div_nonneg hq (by norm_num [usdRate])
  by_cases hlisted : code ∈ Currency.initialRates.map Prod.fst
  · obtain ⟨rate, hrate⟩ := Currency.exists_rate_of_listed hlisted
    obtain ⟨hrateLow, hrateHigh⟩ := Currency.initialRates_bounds _ hrate
    rw [Currency.initialRate_of_mem hrate]
    have hlower : (low : ℚ) * 7 / 10 ≤ q / usdRate * rate :=
      calc (low : ℚ) * 7 / 10 ≤ q / usdRate * (8 / 10) := by
            norm_num [usdRate]
            linarith
        _ ≤ q / usdRate * rate := mul_le_mul_of_nonneg_left hrateLow hpos
    have hupper : q / usdRate * rate ≤ 16000 * high :=
      calc q / usdRate * rate ≤ q / usdRate * 16000 := mul_le_mul_of_nonneg_left hrateHigh hpos
        _ ≤ 16000 * high := by
            norm_num [usdRate]
            linarith
    have hrate0 : 0 ≤ rate := by linarith
    exact ⟨fun _ => hlower, mul_nonneg hpos hrate0, hupper⟩
  · rw [Currency.initialRate_of_unlisted hlisted, mul_zero]
    exact ⟨fun h => absurd h hlisted, le_rfl, by linarith⟩

/-- Splitting keeps the bounds. -/
theorem Converted.of_split {v : ℚ} (hm : Currency.splitMoney code v = some m)
    (hlower : code ∈ Currency.initialRates.map Prod.fst → (low : ℚ) * 7 / 10 ≤ v)
    (hfree : code ∉ Currency.initialRates.map Prod.fst → v = 0) (hupper : v ≤ 16000 * high) :
    Converted code low high m := by
  obtain ⟨hvalid, hcode, hvalue⟩ := Currency.splitMoney_eq_some hm
  refine ⟨hvalid, hcode, ?_, ?_, ?_⟩
  · intro hlisted
    have hv := hlower hlisted
    rw [hvalue, ← truncate_intCast (7 * 10 ^ 8 * low)]
    apply truncate_mono
    push_cast
    linarith
  · intro hunlisted
    rw [hvalue, hfree hunlisted, zero_mul]
    exact truncate_intCast 0
  · rw [hvalue, ← truncate_intCast (16000 * 10 ^ 9 * high)]
    apply truncate_mono
    push_cast
    linarith

/-- Amounts in dollars are converted, whatever the currency is. -/
theorem convert_usd {table : Currency.Rates} (htable : Currency.Reached table)
    (hvalid : usd.isValid = true) (hdollars : usd.currencyCode = "USD")
    (hlow : low * 10 ^ 9 ≤ usd.value) (hhigh : usd.value < high * 10 ^ 9)
    (hrange : high ≤ 5 * 10 ^ 14) :
    ∃ m, (Currency.convert table ⟨some usd, code⟩).1 = some m ∧ Converted code low high m ∧
      m.value = convertedAsRead (Currency.initialRate code) usd := by
  obtain ⟨hreadLow, hreadHigh⟩ := readAmount_bounds hvalid hlow hhigh
  obtain ⟨hlower, hnonneg, hupper⟩ := @rate_bounds code _ _ _ hreadLow hreadHigh
  have husd : usd.currencyCode ∈ Currency.initialRates.map Prod.fst := by
    rw [hdollars]
    exact List.mem_map_of_mem Currency.usd_listed
  have husdRate : Currency.initialRate usd.currencyCode = usdRate := by
    rw [hdollars]
    exact Currency.initialRate_of_mem Currency.usd_listed
  have habs : |Currency.readAmount usd / usdRate * Currency.initialRate code| < 2 ^ 63 := by
    have hhigh' : (high : ℚ) ≤ 5 * 10 ^ 14 := by exact_mod_cast hrange
    rw [abs_of_nonneg hnonneg]
    linarith
  obtain ⟨m, hm, -, hvalue⟩ := @Currency.splitMoney_value code _ habs
  refine ⟨m, ?_, .of_split hm hlower ?_ hupper, hvalue⟩
  · rw [Currency.convert_of_listed htable husd, husdRate, hm]
  · intro hunlisted
    rw [Currency.initialRate_of_unlisted hunlisted, mul_zero]

/-! ## The preparation -/

/-- A product with a price from one to a hundred thousand dollars. -/
structure Sellable (product : Product) (price : Money) : Prop where
  priceUsd : product.priceUsd = some price
  valid : price.isValid = true
  dollars : price.currencyCode = "USD"
  lower : 10 ^ 9 ≤ price.value
  upper : price.value < 10 ^ 5 * 10 ^ 9

/-- A cart that the shop has everything for. -/
structure Shop.CanSell (shop : Shop) (items : List CartItem) : Prop where
  nonempty : items ≠ []
  quantities : ∀ item ∈ items, 1 ≤ item.quantity.toInt
  listed : ∀ item ∈ items, ∃ product ∈ shop.catalog, product.id = item.productId
  count : itemsTotal items < 2 ^ 32

/-- The line has the price of its product, converted as it is read. -/
def Shop.Prices (shop : Shop) (rate : ℚ) (it : OrderItem) : Prop :=
  ∃ product ∈ shop.catalog, product.id = it.item.productId ∧ ∃ price,
    product.priceUsd = some price ∧ it.cost.value = convertedAsRead rate price

variable {shop : Shop} {t : List CheckoutEvent} {items : List CartItem}

theorem getProduct_of_listed {id : String}
    (h : ∃ product ∈ shop.catalog, product.id = id) :
    ∃ product ∈ shop.catalog, product.id = id ∧
      ProductCatalog.getProduct shop.catalog false id = .ok product := by
  obtain ⟨product, hproduct, rfl⟩ := h
  cases hfind : shop.catalog.find? fun p => product.id == p.id with
  | none =>
    have hnone := List.find?_eq_none.mp hfind product hproduct
    simp at hnone
  | some found =>
    have hsame := List.find?_some hfind
    rw [beq_iff_eq] at hsame
    refine ⟨found, List.mem_of_find?_eq_some hfind, hsame.symm, ?_⟩
    simp [ProductCatalog.getProduct, ProductCatalog.checkProductFailure, hfind]

theorem convertCurrency_answered {r : Except GoError Money}
    (h : Runs (convertCurrency (some usd) code) t r) (hanswers : ∀ e ∈ t, shop.Answers e)
    (hvalid : usd.isValid = true) (hdollars : usd.currencyCode = "USD")
    (hlow : low * 10 ^ 9 ≤ usd.value) (hhigh : usd.value < high * 10 ^ 9)
    (hrange : high ≤ 5 * 10 ^ 14) :
    ∃ m, r = .ok m ∧ Converted code low high m ∧
      m.value = convertedAsRead (Currency.initialRate code) usd := by
  obtain ⟨reply, t₁, rfl, h₁⟩ := runs_perform_bind.mp h
  obtain ⟨table, htable, hreply⟩ := hanswers _ List.mem_cons_self
  obtain ⟨m, hm, hconverted⟩ := convert_usd htable hvalid hdollars hlow hhigh hrange
  obtain rfl := hreply m hm
  obtain ⟨rfl, rfl⟩ := runs_pure.mp h₁
  exact ⟨m, rfl, hconverted⟩

/-- Every line is priced. -/
theorem prepOrderItems_answered {r : Except GoError (List OrderItem)}
    (h : Runs (prepOrderItems items code) t r) (hanswers : ∀ e ∈ t, shop.Answers e)
    (hcatalog : ∀ product ∈ shop.catalog, ∃ price, Sellable product price)
    (hlisted : ∀ item ∈ items, ∃ product ∈ shop.catalog, product.id = item.productId) :
    ∃ out, r = .ok out ∧ out.map OrderItem.item = items ∧
      ∀ it ∈ out, Converted code 1 (10 ^ 5) it.cost ∧
        shop.Prices (Currency.initialRate code) it := by
  induction items generalizing t r with
  | nil =>
    obtain ⟨rfl, rfl⟩ := runs_pure.mp h
    exact ⟨[], rfl, rfl, by simp⟩
  | cons item items ih =>
    obtain ⟨reply, t₁, rfl, h₁⟩ := runs_perform_bind.mp h
    obtain ⟨hfirst, hanswers₁⟩ := List.forall_mem_cons.mp hanswers
    obtain ⟨hitem, hlisted⟩ := List.forall_mem_cons.mp hlisted
    obtain ⟨product, hproduct, hid, hget⟩ := getProduct_of_listed hitem
    obtain rfl := hfirst product hget
    obtain ⟨price, hprice⟩ := hcatalog product hproduct
    obtain ⟨t₂, t₃, cost, rfl, hconvert, h₂⟩ := runs_bind.mp h₁
    rw [hprice.priceUsd] at hconvert
    obtain ⟨m, rfl, hm, hvalue⟩ := @convertCurrency_answered price _ 1 (10 ^ 5) shop t₂ _
      hconvert (fun e he => hanswers₁ e (List.mem_append_left _ he)) hprice.valid
      hprice.dollars (by have := hprice.lower; omega) (by have := hprice.upper; omega) (by decide)
    obtain ⟨t₄, t₅, rest, rfl, hrest, h₃⟩ := runs_bind.mp h₂
    obtain ⟨out, rfl, hitems, hout⟩ := ih hrest (fun e he => hanswers₁ e
      (List.mem_append_right _ (List.mem_append_left _ he))) hlisted
    obtain ⟨rfl, rfl⟩ := runs_pure.mp h₃
    refine ⟨_, rfl, by rw [List.map_cons, hitems], List.forall_mem_cons.mpr ⟨⟨hm, ?_⟩, hout⟩⟩
    exact ⟨product, hproduct, hid, price, hprice.priceUsd, hvalue⟩

/-- Shipping takes the request. -/
theorem exists_readGetQuoteRequest {address : Option Address} (hsell : shop.CanSell items)
    (hzip : ∀ a, address = some a → a.zipCode ≠ "") :
    ∃ req, Shipping.readGetQuoteRequest (shippingPayload address items) = .ok req := by
  have hlines : ∃ cs, List.Forall₂ (fun (item : CartItem) (c : Shipping.CartItem) =>
      1 ≤ item.quantity.toInt ∧ (c.quantity.toNat : Int) = item.quantity.toInt) items cs := by
    refine ⟨items.map fun item => ⟨item.quantity.toUInt32⟩, ?_⟩
    rw [List.forall₂_map_right_iff, List.forall₂_same]
    intro item hitem
    have hpos := hsell.quantities item hitem
    have hnat : (item.quantity.toUInt32.toNat : Int) = item.quantity.toInt :=
      Int32.toNat_toUInt32_of_nonneg (by omega)
    exact ⟨hpos, hnat⟩
  obtain ⟨cs, hcs⟩ := hlines
  have haddress : List.Forall₂ (fun (a : Address) (b : Shipping.Address) =>
      a.zipCode ≠ "" ∧ b.zipCode = a.zipCode) address.toList
        (address.map fun a => ⟨a.zipCode⟩).toList := by
    cases address with
    | none => exact .nil
    | some a => exact .cons ⟨hzip a rfl, rfl⟩ .nil
  exact ⟨⟨cs, address.map fun a => ⟨a.zipCode⟩⟩,
    readGetQuoteRequest_eq_ok_iff.mpr ⟨readVec_slice.mpr ⟨hsell.nonempty, hcs⟩, haddress⟩⟩

theorem quoteShipping_answered {address : Option Address} {r : Except GoError Money}
    (h : Runs (quoteShipping address items) t r) (hanswers : ∀ e ∈ t, shop.Answers e)
    (hsell : shop.CanSell items) (hzip : ∀ a, address = some a → a.zipCode ≠ "") :
    ∃ costUsd draw n, r = .ok costUsd ∧ DrawnCost draw n costUsd ∧
      (n : Int) = itemsTotal items := by
  obtain ⟨answer, rfl, rfl⟩ := quoteShipping_runs h
  obtain ⟨req, hreq⟩ := exists_readGetQuoteRequest hsell hzip
  obtain ⟨draw, hlow, hhigh, rfl⟩ := hanswers _ List.mem_cons_self req hreq
  obtain ⟨costUsd, hread, hcost⟩ := @readQuoteAnswer_drawn
    (QuoteService.getquote shop.intvalText draw) shop.intvalText req draw hlow hhigh rfl
  have hcount := Shipping.toNat_itemCount req
  have htotal := totalQuantity_of_read hreq
  have hlt := hsell.count
  exact ⟨costUsd, draw, _, hread, hcost, by omega⟩

/-- What the shop makes of the lines of a cart. -/
structure Shop.Prepared (shop : Shop) (code : String) (items : List CartItem) (prep : OrderPrep) :
    Prop where
  cartItems : prep.cartItems = items
  orderItems : prep.orderItems.map OrderItem.item = items
  lines : ∀ it ∈ prep.orderItems, Converted code 1 (10 ^ 5) it.cost ∧
    shop.Prices (Currency.initialRate code) it
  shipping : ∃ n : Nat, (n : Int) = itemsTotal items ∧
    Converted code (40 * n) (100 * n + 1) prep.shippingCostLocalized

variable {req : PlaceOrderRequest}

theorem prepare_answered {r : Except GoError OrderPrep}
    (h : Runs (prepareOrderItemsAndShippingQuoteFromCart req.userId req.userCurrency
      req.address) t r) (hanswers : ∀ e ∈ t, shop.Answers e)
    (hcatalog : ∀ product ∈ shop.catalog, ∃ price, Sellable product price)
    (hsell : shop.CanSell (shop.cart req.userId).items)
    (hzip : ∀ a, req.address = some a → a.zipCode ≠ "") :
    ∃ prep, r = .ok prep ∧ shop.Prepared req.userCurrency (shop.cart req.userId).items prep := by
  obtain ⟨t₁, t₂, cart, rfl, hcart, h₁⟩ := runs_bind.mp h
  obtain ⟨hanswers₁, hanswers₂⟩ := List.forall_mem_append.mp hanswers
  obtain ⟨reply, t₃, rfl, hreply⟩ := runs_perform_bind.mp hcart
  obtain rfl : reply = .ok (shop.cart req.userId) := hanswers₁ _ List.mem_cons_self
  obtain ⟨rfl, rfl⟩ := runs_pure.mp hreply
  obtain ⟨t₄, t₅, orderItems, rfl, hitems, h₂⟩ := runs_bind.mp h₁
  obtain ⟨hanswers₃, hanswers₄⟩ := List.forall_mem_append.mp hanswers₂
  obtain ⟨out, rfl, hmap, hlines⟩ :=
    prepOrderItems_answered hitems hanswers₃ hcatalog hsell.listed
  obtain ⟨t₆, t₇, quote, rfl, hquote, h₃⟩ := runs_bind.mp h₂
  obtain ⟨hanswers₅, hanswers₆⟩ := List.forall_mem_append.mp hanswers₄
  obtain ⟨costUsd, draw, n, rfl, hcost, hn⟩ := quoteShipping_answered hquote hanswers₅ hsell hzip
  obtain ⟨t₈, t₉, conv, rfl, hconv, h₄⟩ := runs_bind.mp h₃
  obtain ⟨hanswers₇, -⟩ := List.forall_mem_append.mp hanswers₆
  have hcount := hsell.count
  have hlow := hcost.lower
  have hhigh := hcost.upper
  obtain ⟨m, rfl, hm, -⟩ := @convertCurrency_answered costUsd _ (40 * n) (100 * n + 1) shop
    t₈ _ hconv hanswers₇ hcost.valid hcost.currencyCode (by push_cast; omega)
    (by push_cast; omega) (by omega)
  obtain ⟨rfl, rfl⟩ := runs_pure.mp h₄
  exact ⟨_, rfl, rfl, hmap, hlines, n, hn, hm⟩

/-! ## The total -/

theorem itemsTotal_cons (item : CartItem) (items : List CartItem) :
    itemsTotal (item :: items) = item.quantity.toInt + itemsTotal items := by
  rw [itemsTotal, List.map_cons, List.sum_cons, itemsTotal]

theorem charges_le {out : List OrderItem} (hlines : ∀ it ∈ out,
    1 ≤ it.item.quantity.toInt ∧ Converted code 1 (10 ^ 5) it.cost) :
    charges out ≤ itemsTotal (out.map OrderItem.item) * (16 * 10 ^ 17) := by
  induction out with
  | nil => exact le_rfl
  | cons it out ih =>
    obtain ⟨⟨hquantity, hcost⟩, hlines⟩ := List.forall_mem_cons.mp hlines
    have hline : it.charge ≤ it.item.quantity.toInt * (16 * 10 ^ 17) := by
      apply mul_le_mul_of_nonneg_left
      · have := hcost.upper
        omega
      · omega
    have hrest := ih hlines
    rw [charges_cons, List.map_cons, itemsTotal_cons, add_mul]
    omega

theorem itemsTotal_pos (hsell : shop.CanSell items) : 1 ≤ itemsTotal items := by
  have hnonneg : ∀ items : List CartItem, (∀ item ∈ items, 1 ≤ item.quantity.toInt) →
      0 ≤ itemsTotal items := by
    intro items hquantities
    apply List.sum_nonneg
    intro q hq
    obtain ⟨item, hitem, rfl⟩ := List.mem_map.mp hq
    have := hquantities item hitem
    omega
  cases items with
  | nil => exact absurd rfl hsell.nonempty
  | cons item items =>
    obtain ⟨hitem, hitems⟩ := List.forall_mem_cons.mp hsell.quantities
    have hrest := hnonneg items hitems
    rw [itemsTotal_cons]
    omega

variable {prep : OrderPrep}

theorem Shop.Prepared.chargeable (h : shop.Prepared code items prep)
    (hsell : shop.CanSell items) :
    Chargeable prep.shippingCostLocalized prep.orderItems := by
  obtain ⟨n, hn, hshipping⟩ := h.shipping
  have hpos := itemsTotal_pos hsell
  have hcount := hsell.count
  have hquantities : ∀ it ∈ prep.orderItems, 1 ≤ it.item.quantity.toInt := by
    intro it hit
    apply hsell.quantities
    rw [← h.orderItems]
    exact List.mem_map_of_mem hit
  have hcharges := charges_le fun it hit => ⟨hquantities it hit, (h.lines it hit).1⟩
  rw [h.orderItems] at hcharges
  have hupper := hshipping.upper
  refine ⟨hshipping.valid, hshipping.nonneg, ?_, ?_⟩
  · intro it hit
    have hcost := (h.lines it hit).1
    exact ⟨hcost.valid, hcost.nonneg, hquantities it hit⟩
  · push_cast at hupper
    omega

theorem charges_free {out : List OrderItem} (h : ∀ it ∈ out, it.cost.value = 0) :
    charges out = 0 := by
  induction out with
  | nil => rfl
  | cons it out ih =>
    obtain ⟨hcost, hout⟩ := List.forall_mem_cons.mp h
    rw [charges_cons, OrderItem.charge, hcost, mul_zero, ih hout, zero_add]

/-- In an unlisted currency nothing costs anything. -/
theorem Shop.Prepared.free (h : shop.Prepared code items prep)
    (hunlisted : code ∉ Currency.initialRates.map Prod.fst) :
    prep.shippingCostLocalized.value = 0 ∧ ∀ it ∈ prep.orderItems, it.cost.value = 0 := by
  obtain ⟨n, -, hshipping⟩ := h.shipping
  exact ⟨hshipping.free hunlisted, fun it hit => (h.lines it hit).1.free hunlisted⟩

/-- In a listed one the shipment alone costs 28 units or more. -/
theorem Shop.Prepared.shipping_lower (h : shop.Prepared code items prep)
    (hsell : shop.CanSell items) (hlisted : code ∈ Currency.initialRates.map Prod.fst) :
    28 * 10 ^ 9 ≤ prep.shippingCostLocalized.value := by
  obtain ⟨n, hn, hshipping⟩ := h.shipping
  have hpos := itemsTotal_pos hsell
  have hlower := hshipping.lower hlisted
  push_cast at hlower
  omega

/-- The running totals are settled: each is zero, or each has the shipment in it. -/
theorem Shop.Prepared.settled (h : shop.Prepared code items prep) (hsell : shop.CanSell items) :
    EarlierTotalsSettled prep.shippingCostLocalized.value prep.orderItems ∧
      DoublesSettled prep.orderItems := by
  by_cases hlisted : code ∈ Currency.initialRates.map Prod.fst
  · have hlower := h.shipping_lower hsell hlisted
    refine ⟨earlierTotalsSettled_of_le (by omega) (h.chargeable hsell).lines, ?_⟩
    intro it hit _
    have := (h.lines it hit).1.lower hlisted
    right
    omega
  · obtain ⟨hshipping, hcosts⟩ := h.free hlisted
    constructor
    · intro before hbefore _
      left
      rw [hshipping, charges_free fun it hit => hcosts it (hbefore.subset hit), zero_add]
    · intro it hit _
      left
      rw [hcosts it hit, mul_zero]

/-- The total is reached, and it is exact. -/
theorem Shop.Prepared.exists_orderTotal (h : shop.Prepared code items prep)
    (hsell : shop.CanSell items) : ∃ total,
      orderTotal code prep.shippingCostLocalized prep.orderItems = .ok total ∧
        total.currencyCode = code ∧
          total.value = prep.shippingCostLocalized.value + charges prep.orderItems := by
  obtain ⟨n, -, hshipping⟩ := h.shipping
  have hchargeable := h.chargeable hsell
  have hcur : InCurrency code prep.shippingCostLocalized prep.orderItems :=
    ⟨hshipping.currencyCode, fun it hit => (h.lines it hit).1.currencyCode⟩
  obtain ⟨total, htotal⟩ := (exists_orderTotal_iff hchargeable hcur).mpr (h.settled hsell)
  obtain ⟨hvalue, hcode, -⟩ := orderTotal_value hchargeable htotal
  exact ⟨total, htotal, hcode, hvalue⟩

/-! ## Charge and shipment -/

/-- The card is taken in every month that the clock shows, also when the year turns between two
looks at it. -/
structure Shop.Takes (shop : Shop) (card : CreditCardInfo) : Prop where
  processed : Processed shop.cardDetails card
  unexpired : ∀ m₁ m₂, shop.Now m₁ → shop.Now m₂ → Dated card →
    m₂.year * 12 + m₁.month ≤ lastMonth card

theorem chargeCard_answered {cs : CheckoutService} {total : Money} {card : CreditCardInfo}
    {r : Except GoError String}
    (h : Runs (AstronomyShop.chargeCard cs total (some card)) t r)
    (hanswers : ∀ e ∈ t, shop.Answers e) (haddr : cs.paymentSvcAddr = shop.paymentSvcAddr)
    (hcard : shop.Takes card) :
    ∃ tx, r = .ok tx ∧ ⟨.charge cs.paymentSvcAddr total (some card), .ok tx⟩ ∈ t := by
  obtain ⟨flag, reply, rfl, rfl⟩ := chargeCard_addr h
  obtain rfl : flag = false := hanswers _ List.mem_cons_self
  obtain ⟨pt, hrun, hundisturbed, hnow⟩ :=
    hanswers _ (List.mem_cons_of_mem _ List.mem_cons_self) haddr
  have hunexpired : ∀ n, MixedMonth pt n → Dated card → n ≤ lastMonth card := by
    rintro n ⟨m₁, m₂, hreadings, rfl⟩ hdated
    apply hcard.unexpired m₁ m₂ _ _ hdated
    · exact hnow m₁ (by simp [hreadings])
    · exact hnow m₂ (by simp [hreadings])
  obtain ⟨tx, rfl⟩ := (accepted_iff hrun).mpr
    ⟨hundisturbed, rfl, card, rfl, hcard.processed, hunexpired⟩
  exact ⟨tx, rfl, List.mem_cons_of_mem _ List.mem_cons_self⟩

theorem readShipOrderRequest_payload (address : Option Address) (items : List CartItem) :
    Shipping.readShipOrderRequest (shippingPayload address items) = .ok {} := rfl

/-- Checkout reads the id of the shipment. -/
theorem readShipAnswer_shipOrder {tid : String} (htid : tid ≠ "") :
    readShipAnswer (.ok (Shipping.shipOrder {} tid)) = .ok tid := by
  have hname : Go.foldName "tracking_id" = "tracking_id" := by decide +kernel
  have hread : readShipResp (.obj [("tracking_id", .str tid)]) = some ⟨tid⟩ := by
    unfold readShipResp
    rw [Go.readStruct_singleton]
    simp [Go.readMember, hname, Go.stringField]
  simp [readShipAnswer, Shipping.shipOrder, Shipping.ShipOrderResponse.toJson, hread, htid]

theorem shipOrder_answered {address : Option Address} {r : Except GoError String}
    (h : Runs (shipOrder address items) t r) (hanswers : ∀ e ∈ t, shop.Answers e) :
    ∃ tid, r = .ok tid := by
  obtain ⟨answer, rfl, rfl⟩ := shipOrder_runs h
  obtain ⟨tid, htid, rfl⟩ := hanswers _ List.mem_cons_self _
    (readShipOrderRequest_payload address items)
  exact ⟨tid, readShipAnswer_shipOrder htid⟩

/-- What `PlaceOrder` returns while nothing fails. -/
theorem placeOrder_answered {cs : CheckoutService} {card : CreditCardInfo} {out : Outcome}
    (h : Runs (placeOrder cs req) t out) (hanswers : ∀ e ∈ t, shop.Answers e)
    (haddr : cs.paymentSvcAddr = shop.paymentSvcAddr)
    (hkafka : cs.kafkaBrokerSvcAddr ≠ "" → cs.kafkaProducerCreated = true)
    (hcatalog : ∀ product ∈ shop.catalog, ∃ price, Sellable product price)
    (hsell : shop.CanSell (shop.cart req.userId).items)
    (hzip : ∀ a, req.address = some a → a.zipCode ≠ "")
    (hcard : req.creditCard = some card) (htakes : shop.Takes card) :
    ∃ prep orderID trackingID total tx, out = .returned (prep.orderResult req orderID trackingID) ∧
      shop.Prepared req.userCurrency (shop.cart req.userId).items prep ∧
      ⟨.charge cs.paymentSvcAddr total req.creditCard, .ok tx⟩ ∈ t ∧
      total.currencyCode = req.userCurrency ∧
      total.value = prep.shippingCostLocalized.value + charges prep.orderItems := by
  obtain ⟨reply, t₁, rfl, h₁⟩ := runs_perform_bind.mp h
  obtain ⟨hfirst, hanswers₁⟩ := List.forall_mem_cons.mp hanswers
  obtain ⟨orderID, rfl⟩ : ∃ orderID, reply = .ok orderID := hfirst
  obtain ⟨t₂, t₃, r, rfl, hprepare, h₂⟩ := runs_bind.mp h₁
  obtain ⟨hanswers₂, hanswers₃⟩ := List.forall_mem_append.mp hanswers₁
  obtain ⟨prep, rfl, hprep⟩ := prepare_answered hprepare hanswers₂ hcatalog hsell hzip
  obtain ⟨total, htotal, hcode, hvalue⟩ := hprep.exists_orderTotal hsell
  dsimp only at h₂
  unfold chargeAndShip at h₂
  rw [htotal, hcard] at h₂
  obtain ⟨t₄, t₅, charged, rfl, hcharge, h₃⟩ := runs_bind.mp h₂
  obtain ⟨hanswers₄, hanswers₅⟩ := List.forall_mem_append.mp hanswers₃
  obtain ⟨tx, rfl, hmem⟩ := chargeCard_answered hcharge hanswers₄ haddr htakes
  obtain ⟨t₆, t₇, shipped, rfl, hship, h₄⟩ := runs_bind.mp h₃
  obtain ⟨hanswers₆, -⟩ := List.forall_mem_append.mp hanswers₅
  obtain ⟨tid, rfl⟩ := shipOrder_answered hship hanswers₆
  obtain ⟨-, hdone⟩ := completeOrder_runs h₄
  refine ⟨prep, orderID, tid, total, tx, ?_, hprep, ?_, hcode, hvalue⟩
  · rcases hdone with hdone | ⟨hbroker, hmissing, -⟩
    · exact hdone
    · rw [hkafka hbroker] at hmissing
      cases hmissing
  · rw [hcard]
    exact List.mem_cons_of_mem _ (List.mem_append_right _ (List.mem_append_left _ hmem))

/-- **A working shop sells for nothing in a currency that it does not know.** The order is returned
in any currency, and the card is charged. In a listed currency the charge is 28 units or more, as
the shipment of one item alone costs 40 dollars or more; in an unlisted one it is zero. -/
theorem unlisted_sells_for_nothing (shop : Shop) (cs : CheckoutService) (req : PlaceOrderRequest)
    (card : CreditCardInfo) (t : List CheckoutEvent) (out : Outcome)
    (h : Runs (placeOrder cs req) t out) (hanswers : ∀ e ∈ t, shop.Answers e)
    (haddr : cs.paymentSvcAddr = shop.paymentSvcAddr)
    (hkafka : cs.kafkaBrokerSvcAddr ≠ "" → cs.kafkaProducerCreated = true)
    (hcatalog : ∀ product ∈ shop.catalog, ∃ price, Sellable product price)
    (hsell : shop.CanSell (shop.cart req.userId).items)
    (hzip : ∀ a, req.address = some a → a.zipCode ≠ "")
    (hcard : req.creditCard = some card) (htakes : shop.Takes card) :
    ∃ order total tx, out = .returned order ∧
      order.items.map OrderItem.item = (shop.cart req.userId).items ∧
      ⟨.charge cs.paymentSvcAddr total req.creditCard, .ok tx⟩ ∈ t ∧
      (req.userCurrency ∈ Currency.initialRates.map Prod.fst → 28 * 10 ^ 9 ≤ total.value) ∧
      (req.userCurrency ∉ Currency.initialRates.map Prod.fst → total.value = 0) := by
  obtain ⟨prep, orderID, tid, total, tx, hout, hprep, hcharged, -, hvalue⟩ :=
    placeOrder_answered h hanswers haddr hkafka hcatalog hsell hzip hcard htakes
  refine ⟨prep.orderResult req orderID tid, total, tx, hout, hprep.orderItems, hcharged, ?_, ?_⟩
  · intro hlisted
    have hlower := hprep.shipping_lower hsell hlisted
    have hcharges := charges_nonneg (hprep.chargeable hsell).lines
    omega
  · intro hunlisted
    obtain ⟨hshipping, hcosts⟩ := hprep.free hunlisted
    rw [hvalue, hshipping, charges_free hcosts, add_zero]

/-! ## A shop for bulbs -/

/-- Everybody has two bulbs in the cart. -/
def bulbShop : Shop where
  cart userId := ⟨userId, [⟨"bulb", 2⟩]⟩
  catalog := [{ id := "bulb", priceUsd := some ⟨"USD", 10, 500000000⟩ }]
  intvalText _ := 0
  paymentSvcAddr := "payment:8080"
  cardDetails := onlyVisa
  Now m := m = PaymentService.sampleReply .newDate

def bulbReply : (o : Call) → Reply o
  | .newUUID => .ok "o1"
  | .getCart userId => .ok (bulbShop.cart userId)
  | .getProduct id =>
    match ProductCatalog.getProduct bulbShop.catalog false id with
    | .ok product => .ok product
    | .error status => .error status.format
  | .convert source toCode =>
    match (Currency.convert Currency.currencyConversion ⟨source, toCode⟩).1 with
    | some result => .ok result
    | none => .error "undefined"
  | .getQuote payload =>
    match Shipping.readGetQuoteRequest payload with
    | .ok req => .ok (Shipping.getQuote (QuoteService.getquote (fun _ => 0) 400) req)
    | .error _ => .ok ⟨400, .malformed⟩
  | .booleanFlag _ => false
  | .charge _ amount creditCard =>
    ((chargeServiceHandler onlyVisa ⟨some amount, creditCard⟩).answered
      PaymentService.sampleReply).2
  | .shipOrder payload =>
    match Shipping.readShipOrderRequest payload with
    | .ok req => .ok (Shipping.shipOrder req "t1")
    | .error _ => .ok ⟨400, .malformed⟩
  | .emptyCart _ => .ok ()
  | .sendOrderConfirmation _ => .ok ⟨200, .malformed⟩
  | .kafkaSend _ => .success 0
  | .intFlag _ => 0
  | .kafkaFlood _ _ => ()

/-- The payment service spares every charge, in December 2025. -/
theorem undisturbed_answered (p : Payment (Except String String)) :
    Undisturbed (p.answered PaymentService.sampleReply).1 := by
  constructor
  · intro err he
    have hreply : Except.error err = Except.ok () := reply_of_mem_answered he
    cases hreply
  · intro numberVariant draw hvariant hdraw
    obtain rfl : numberVariant = 1 / 4 := reply_of_mem_answered hvariant
    obtain rfl : draw = 1 / 2 := reply_of_mem_answered hdraw
    norm_num

theorem now_of_mem_readings (p : Payment (Except String String)) :
    ∀ today ∈ readings (p.answered PaymentService.sampleReply).1, bulbShop.Now today := by
  intro today htoday
  obtain ⟨⟨op, reply⟩, he, hreading⟩ := List.mem_filterMap.mp htoday
  cases op with
  | newDate =>
    obtain rfl := Option.some.inj hreading
    exact reply_of_mem_answered he
  | _ => cases hreading

theorem answers_bulbReply (o : Call) : bulbShop.Answers ⟨o, bulbReply o⟩ := by
  cases o with
  | newUUID => exact ⟨"o1", rfl⟩
  | getCart userId => rfl
  | getProduct id =>
    intro product hget
    simp only [bulbReply, hget]
  | convert source toCode =>
    refine ⟨_, .start, ?_⟩
    intro result hconvert
    simp only [bulbReply, hconvert]
  | getQuote payload =>
    intro req hreq
    refine ⟨400, by decide, by decide, ?_⟩
    simp only [bulbReply, hreq]
    rfl
  | booleanFlag name => rfl
  | charge svcAddr amount creditCard =>
    intro _
    exact ⟨_, runs_answered _ _, undisturbed_answered _, now_of_mem_readings _⟩
  | shipOrder payload =>
    intro req hreq
    refine ⟨"t1", by decide, ?_⟩
    simp only [bulbReply, hreq]
  | _ => trivial

def bulbRequest : PlaceOrderRequest where
  userId := "u1"
  userCurrency := "JPY"
  creditCard := some sampleCard

/-- The same order in a currency that nobody knows. -/
def giftRequest : PlaceOrderRequest := { bulbRequest with userCurrency := "XYZ" }

def giftRun : List CheckoutEvent × Outcome :=
  (placeOrder { paymentSvcAddr := "payment:8080" } giftRequest).answered bulbReply

theorem answers_answered (p : Checkout Outcome) :
    ∀ e ∈ (p.answered bulbReply).1, bulbShop.Answers e := by
  rintro ⟨op, reply⟩ he
  obtain rfl : reply = bulbReply op := reply_of_mem_answered he
  exact answers_bulbReply op

theorem sellable_bulbs : ∀ product ∈ bulbShop.catalog, ∃ price, Sellable product price := by
  intro product hproduct
  obtain rfl := List.mem_singleton.mp hproduct
  exact ⟨⟨"USD", 10, 500000000⟩, rfl, by decide, rfl, by decide, by decide⟩

theorem canSell_bulbs : bulbShop.CanSell (bulbShop.cart "u1").items := by
  refine ⟨by decide, List.forall_mem_singleton.mpr (by decide), ?_, by decide⟩
  exact List.forall_mem_singleton.mpr ⟨_, List.mem_cons_self, rfl⟩

theorem takes_sampleCard : bulbShop.Takes sampleCard := by
  refine ⟨⟨by decide, rfl, by decide⟩, ?_⟩
  intro m₁ m₂ h₁ h₂ _
  rw [h₁, h₂]
  decide

/-- Two bulbs are sold, for nothing. -/
theorem unlisted_sells_for_nothing_bulbs : ∃ order total tx, giftRun.2 = .returned order ∧
    order.items.map OrderItem.item = [⟨"bulb", 2⟩] ∧
    ⟨.charge "payment:8080" total (some sampleCard), .ok tx⟩ ∈ giftRun.1 ∧ total.value = 0 := by
  obtain ⟨order, total, tx, hout, hitems, hcharged, -, hfree⟩ := unlisted_sells_for_nothing bulbShop
    { paymentSvcAddr := "payment:8080" } giftRequest sampleCard giftRun.1 giftRun.2
    (runs_answered _ _) (answers_answered _) rfl (fun h => absurd rfl h) sellable_bulbs
    canSell_bulbs nofun rfl takes_sampleCard
  exact ⟨order, total, tx, hout, hitems, hcharged, hfree (by decide)⟩

end AstronomyShop
