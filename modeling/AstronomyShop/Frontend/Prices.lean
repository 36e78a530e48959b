import AstronomyShop.Checkout.Runs
import AstronomyShop.Currency.Accuracy

/-!
# The price that is shown and the price that is charged

The frontend decodes a price into JavaScript numbers and shows a price in US dollars as the
catalogue has it. Checkout sends every price through `Convert`, also from US dollars to US
dollars. The two agree exactly on the prices that `Convert` reads as they are
(`shown_price_charged_iff`).
-/

namespace AstronomyShop

open Interaction ExactDouble

/-! ## The frontend -/

namespace Frontend

/-- `Money` as the frontend has it; its numbers are doubles. -/
structure Money where
  currencyCode : String
  units : Double
  nanos : Double
  deriving DecidableEq

def maxSafeInteger : Int := 2 ^ 53 - 1

/-- How the generated decoder reads an `int64`. -/
def longToNumber (int64 : Int64) : Except String Double :=
  if maxSafeInteger < int64.toInt then
    .error "Value is larger than Number.MAX_SAFE_INTEGER"
  else if int64.toInt < -maxSafeInteger then
    .error "Value is smaller than Number.MIN_SAFE_INTEGER"
  else
    .ok (.ofInt int64.toInt)

/-- The numbers of a message. -/
def Money.ofMessage (m : AstronomyShop.Money) : Money where
  currencyCode := m.currencyCode
  units := .ofInt m.units.toInt
  nanos := .ofInt m.nanos.toInt

def Money.decode (m : AstronomyShop.Money) : Except String Money := do
  let units ← longToNumber m.units
  return { currencyCode := m.currencyCode, units := units, nanos := .ofInt m.nanos.toInt }

/-- `CurrencyGateway.convert`: the answer of the currency service to a price and a code. -/
abbrev CurrencyGateway := Option Money → String → Except String Money

def defaultCurrencyCode : String := "USD"

def getProductPrice (gateway : CurrencyGateway) (price : Option Money) (currencyCode : String) :
    Except String (Option Money) :=
  if currencyCode ≠ "" ∧ currencyCode ≠ defaultCurrencyCode then
    match gateway price currencyCode with
    | .ok converted => .ok (some converted)
    | .error err => .error err
  else
    .ok price

/-- The field `priceUsd` of what `getProduct` returns for a product of the catalogue. -/
def getProductPriceUsd (gateway : CurrencyGateway) (product : Product) (currencyCode : String) :
    Except String (Option Money) :=
  match product.priceUsd with
  | none => getProductPrice gateway none currencyCode
  | some m =>
    match Money.decode m with
    | .ok price => getProductPrice gateway (some price) currencyCode
    | .error err => .error err

theorem decode_of_lt {m : AstronomyShop.Money} (h0 : 0 ≤ m.units.toInt)
    (h : m.units.toInt < 2 ^ 53) : Money.decode m = .ok (.ofMessage m) := by
  unfold Money.decode longToNumber maxSafeInteger
  rw [if_neg (by omega), if_neg (by omega)]
  rfl

/-- What is shown for US dollars is the price of the catalogue; a price of 2^53 units and more
is not shown. -/
theorem getProductPriceUsd_dollars {gateway : CurrencyGateway} {product : Product}
    {price : AstronomyShop.Money} {shown : Option Money} (hprice : product.priceUsd = some price)
    (h : getProductPriceUsd gateway product "USD" = .ok shown) :
    shown = some (.ofMessage price) ∧ price.units.toInt < 2 ^ 53 := by
  unfold getProductPriceUsd at h
  rw [hprice] at h
  dsimp only at h
  split at h
  · rename_i price' hdecode
    cases h
    unfold Money.decode longToNumber at hdecode
    split at hdecode
    · cases hdecode
    · rename_i hlt
      split at hdecode
      · cases hdecode
      · cases hdecode
        unfold maxSafeInteger at hlt
        exact ⟨rfl, by omega⟩
  · cases h

theorem getProductPriceUsd_of_lt {gateway : CurrencyGateway} {product : Product}
    {price : AstronomyShop.Money} (hprice : product.priceUsd = some price)
    (h0 : 0 ≤ price.units.toInt) (h : price.units.toInt < 2 ^ 53) :
    getProductPriceUsd gateway product "USD" = .ok (some (.ofMessage price)) := by
  unfold getProductPriceUsd
  rw [hprice]
  dsimp only
  rw [decode_of_lt h0 h]
  rfl

theorem ofMessage_inj {m m' : AstronomyShop.Money} (h : Money.ofMessage m = .ofMessage m') :
    m.currencyCode = m'.currencyCode ∧ m.units.toInt = m'.units.toInt ∧
      m.nanos.toInt = m'.nanos.toInt := by
  obtain ⟨hcode, hunits, hnanos⟩ := Money.mk.inj h
  refine ⟨hcode, ?_, ?_⟩
  · exact_mod_cast Double.finite.inj hunits
  · exact_mod_cast Double.finite.inj hnanos

end Frontend

/-! ## Checkout -/

/-- The catalogue and the currency service answer for the calls of a run of checkout. -/
structure AnsweredBy (catalogue : String → Product) (t : List CheckoutEvent) : Prop where
  products : ∀ id product, ⟨.getProduct id, .ok product⟩ ∈ t → product = catalogue id
  conversions : ∀ source toCode m, ⟨.convert source toCode, .ok m⟩ ∈ t →
    ∃ table, Currency.Reached table ∧ (Currency.convert table ⟨source, toCode⟩).1 = some m

/-- Wherever the frontend shows a US dollar price for a product with the given price of the
catalogue, `prepOrderItems` gives that price as the cost of every line with the product. -/
def ShownIsCharged (price : Money) : Prop :=
  ∀ (catalogue : String → Product) (id : String), (catalogue id).priceUsd = some price →
    ∀ (gateway : Frontend.CurrencyGateway) (shown : Option Frontend.Money),
      Frontend.getProductPriceUsd gateway (catalogue id) "USD" = .ok shown →
    ∀ (items : List CartItem) (t : List CheckoutEvent) (out : List OrderItem),
      Runs (prepOrderItems items "USD") t (.ok out) → AnsweredBy catalogue t →
    ∀ it ∈ out, it.item.productId = id → shown = some (.ofMessage it.cost)

/-- The cost of a line is what the currency service makes of the price of the catalogue. -/
theorem cost_of_prepOrderItems {catalogue : String → Product} {items : List CartItem}
    {userCurrency : String} {t : List CheckoutEvent} {out : List OrderItem}
    (h : Runs (prepOrderItems items userCurrency) t (.ok out)) (henv : AnsweredBy catalogue t)
    {it : OrderItem} (hit : it ∈ out) :
    ∃ table, Currency.Reached table ∧
      (Currency.convert table ⟨(catalogue it.item.productId).priceUsd, userCurrency⟩).1 =
        some it.cost := by
  obtain ⟨lines, -, rfl, rfl⟩ := (prepOrderItems_runs h).2 out rfl
  obtain ⟨l, hl, rfl⟩ := List.mem_map.mp hit
  have hproduct := henv.products l.item.productId l.product
    (List.mem_flatMap.mpr ⟨l, hl, List.mem_cons_self⟩)
  have hconvert := henv.conversions l.product.priceUsd userCurrency l.cost
    (List.mem_flatMap.mpr ⟨l, hl, List.mem_cons_of_mem _ List.mem_cons_self⟩)
  rwa [hproduct] at hconvert

/-! ## Both sides -/

section

variable {price : Money}

theorem usd_mem_initialRates : ("USD", 1.1305) ∈ Currency.initialRates :=
  List.mem_cons_of_mem _ List.mem_cons_self

/-- The amount of a valid nonnegative price splits into its own units and nanos. -/
theorem truncate_amount (hvalid : price.isValid = true) (hnonneg : 0 ≤ price.value) :
    truncate price.amount = price.units.toInt ∧
      truncate ((price.amount - truncate price.amount) * 10 ^ 9) = price.nanos.toInt := by
  obtain ⟨hu, hn⟩ := Money.nonneg_of_isValid hvalid hnonneg
  have hn' := (Money.isValid_iff.mp hvalid).2.2
  have hnq : (0 : ℚ) ≤ price.nanos.toInt := by exact_mod_cast hn
  have hnq' : (price.nanos.toInt : ℚ) < 10 ^ 9 := by exact_mod_cast (by omega)
  have huq : (0 : ℚ) ≤ price.units.toInt := by exact_mod_cast hu
  have hfraction : (price.nanos.toInt : ℚ) / 10 ^ 9 < 1 := by
    rw [div_lt_one (by norm_num)]
    exact hnq'
  have hfraction0 : (0 : ℚ) ≤ (price.nanos.toInt : ℚ) / 10 ^ 9 := by positivity
  have hunits : truncate price.amount = price.units.toInt := by
    unfold Money.amount
    rw [truncate_eq_iff_of_nonneg (by linarith)]
    constructor
    · linarith
    · linarith
  refine ⟨hunits, ?_⟩
  have hrest : (price.amount - truncate price.amount) * 10 ^ 9 = (price.nanos.toInt : ℚ) := by
    rw [hunits]
    unfold Money.amount
    ring
  rw [hrest, truncate_intCast]

theorem amount_same_rate (q : ℚ) : q / 1.1305 * 1.1305 = q := by
  field_simp

/-- An accurate conversion from US dollars to US dollars gives back the price. -/
theorem ofMessage_of_accurate {m : Money} (hvalid : price.isValid = true)
    (hnonneg : 0 ≤ price.value) (husd : price.currencyCode = "USD")
    (h : Currency.Accurate (some m) "USD" (price.amount / 1.1305 * 1.1305)) :
    Frontend.Money.ofMessage price = .ofMessage m := by
  obtain ⟨m', hm, -, hcode, hunits, hnanos⟩ := h
  cases hm
  rw [amount_same_rate] at hunits hnanos
  obtain ⟨htunits, htnanos⟩ := truncate_amount hvalid hnonneg
  unfold Frontend.Money.ofMessage
  rw [hnanos, htnanos, hunits, htunits, hcode, husd]

theorem accurate_of_ofMessage {m : Money} (hvalid : price.isValid = true)
    (hnonneg : 0 ≤ price.value) (husd : price.currencyCode = "USD")
    (h : Frontend.Money.ofMessage price = .ofMessage m) :
    Currency.Accurate (some m) "USD" (price.amount / 1.1305 * 1.1305) := by
  obtain ⟨hcode, hunits, hnanos⟩ := Frontend.ofMessage_inj h
  obtain ⟨htunits, htnanos⟩ := truncate_amount hvalid hnonneg
  rw [amount_same_rate]
  refine ⟨m, rfl, ?_, hcode.symm.trans husd, ?_, ?_⟩
  · rw [Money.isValid_iff, ← hunits, ← hnanos]
    exact Money.isValid_iff.mp hvalid
  · rw [htunits, hunits]
  · rw [htnanos, hnanos]

/-- Below 2^62 units every price is converted to something. -/
theorem exists_convert (hu : |price.units.toInt| < 2 ^ 62) (husd : price.currencyCode = "USD") :
    ∃ m, (Currency.convert Currency.currencyConversion ⟨some price, "USD"⟩).1 = some m := by
  have hfraction := @abs_digitFraction_lt_one 10 price.nanos.toInt (by decide)
  have hu' : |(price.units.toInt : ℚ)| < 2 ^ 62 := by exact_mod_cast hu
  have hread : |Currency.readAmount price| < 2 ^ 63 := by
    unfold Currency.readAmount
    have := abs_add_le (price.units.toInt : ℚ) (digitFraction 10 price.nanos.toInt)
    linarith
  have hmem : (price.currencyCode, 1.1305) ∈ Currency.initialRates := by
    rw [husd]
    exact usd_mem_initialRates
  obtain ⟨p, hp⟩ := Currency.exists_getUnitsAndNanos hread
  rw [Currency.convert_response .start hmem usd_mem_initialRates, amount_same_rate, hp]
  exact ⟨_, rfl⟩

/-- One line of a product, priced by the currency service. -/
theorem exists_line_run {catalogue : String → Product} {id : String} {m : Money}
    (hm : (Currency.convert Currency.currencyConversion ⟨(catalogue id).priceUsd, "USD"⟩).1 =
      some m) :
    ∃ t, Runs (prepOrderItems [⟨id, 1⟩] "USD") t (.ok [⟨⟨id, 1⟩, m⟩]) ∧
      AnsweredBy catalogue t := by
  refine ⟨[⟨.getProduct id, .ok (catalogue id)⟩,
    ⟨.convert (catalogue id).priceUsd "USD", .ok m⟩], ?_, ?_, ?_⟩
  · exact runs_call.mpr ⟨.ok (catalogue id), _, rfl, runs_call.mpr
      ⟨.ok m, _, rfl, runs_pure.mpr ⟨rfl, rfl⟩⟩⟩
  · intro id' product hmem
    simp only [List.mem_cons, Event.mk.injEq, Call.getProduct.injEq, List.not_mem_nil,
      or_false, reduceCtorEq, false_and] at hmem
    obtain ⟨rfl, hreply⟩ := hmem
    cases hreply
    rfl
  · intro source toCode m' hmem
    simp only [List.mem_cons, Event.mk.injEq, Call.convert.injEq, List.not_mem_nil, or_false,
      reduceCtorEq, false_and, false_or] at hmem
    obtain ⟨⟨rfl, rfl⟩, hreply⟩ := hmem
    cases hreply
    exact ⟨_, .start, hm⟩

/-- A price with one to eight digits of nanos is shown, and something else is charged. -/
theorem not_shownIsCharged (hvalid : price.isValid = true) (hnonneg : 0 ≤ price.value)
    (husd : price.currencyCode = "USD") (h0 : price.nanos.toInt ≠ 0)
    (hsmall : price.nanos.toInt < 10 ^ 8) (hlt : price.units.toInt < 2 ^ 53) :
    ¬ ShownIsCharged price := by
  intro h
  obtain ⟨hu, hn⟩ := Money.nonneg_of_isValid hvalid hnonneg
  have hmem : (price.currencyCode, 1.1305) ∈ Currency.initialRates := by
    rw [husd]
    exact usd_mem_initialRates
  obtain ⟨m, hm⟩ := exists_convert (abs_lt.mpr ⟨by omega, by omega⟩) husd
  obtain ⟨t, hrun, henv⟩ := @exists_line_run (fun _ => { priceUsd := some price }) "p" m hm
  have hshown := h _ "p" rfl (fun _ _ => .error "") _
    (Frontend.getProductPriceUsd_of_lt rfl hu hlt) _ _ _ hrun henv _ List.mem_cons_self rfl
  have haccurate := accurate_of_ofMessage hvalid hnonneg husd (Option.some.inj hshown)
  rw [← hm] at haccurate
  exact Currency.not_accurate_convert .start hmem usd_mem_initialRates h0 (by omega) haccurate

/-- **The price shown is the price charged exactly when** the nanos of the price are zero or
have nine digits, or the price is too large to be shown. -/
theorem shown_price_charged_iff (hvalid : price.isValid = true) (hnonneg : 0 ≤ price.value)
    (husd : price.currencyCode = "USD") :
    ShownIsCharged price ↔ price.nanos.toInt = 0 ∨ 10 ^ 8 ≤ price.nanos.toInt ∨
      2 ^ 53 ≤ price.units.toInt := by
  constructor
  · intro h
    by_contra hnot
    rw [not_or, not_or, not_le, not_le] at hnot
    exact not_shownIsCharged hvalid hnonneg husd hnot.1 hnot.2.1 hnot.2.2 h
  · intro hcond catalogue id hprice gateway shown hshown items t out hrun henv it hit hid
    obtain ⟨rfl, hlt⟩ := Frontend.getProductPriceUsd_dollars hprice hshown
    obtain ⟨table, htable, hcost⟩ := cost_of_prepOrderItems hrun henv hit
    rw [hid, hprice] at hcost
    obtain ⟨hu, hn⟩ := Money.nonneg_of_isValid hvalid hnonneg
    have hmem : (price.currencyCode, 1.1305) ∈ Currency.initialRates := by
      rw [husd]
      exact usd_mem_initialRates
    have hv : |price.amount / 1.1305 * 1.1305| < 2 ^ 63 := by
      have hn' := (Money.isValid_iff.mp hvalid).2.2
      have hnq : (0 : ℚ) ≤ price.nanos.toInt := by exact_mod_cast hn
      have hnq' : (price.nanos.toInt : ℚ) ≤ 10 ^ 9 := by exact_mod_cast (by omega)
      have huq : (0 : ℚ) ≤ price.units.toInt := by exact_mod_cast hu
      have huq' : (price.units.toInt : ℚ) < 2 ^ 53 := by exact_mod_cast hlt
      rw [amount_same_rate]
      unfold Money.amount
      rw [abs_of_nonneg (by positivity)]
      linarith
    have haccurate := Currency.accurate_convert htable hvalid hmem usd_mem_initialRates hv
      (by omega)
    rw [hcost] at haccurate
    rw [ofMessage_of_accurate hvalid hnonneg husd haccurate]

end

/-- The telescope of the catalogue, at 101.96. -/
theorem shown_price_charged_telescope :
    ShownIsCharged ⟨"USD", 101, 960000000⟩ ↔ (960000000 : Int32).toInt = 0 ∨
      10 ^ 8 ≤ (960000000 : Int32).toInt ∨ 2 ^ 53 ≤ (101 : Int64).toInt :=
  shown_price_charged_iff (by decide) (by decide) rfl

/-- The red flashlight of the catalogue is shown at 57.08. Checkout charges 57.80 for it. -/
theorem flashlight_price_differs :
    ¬ ∀ price : Money, price.isValid = true → 0 ≤ price.value → price.currencyCode = "USD" →
      ShownIsCharged price := by
  intro h
  have hvalid : Money.isValid ⟨"USD", 57, 80000000⟩ = true := by decide
  have hnonneg : 0 ≤ Money.value ⟨"USD", 57, 80000000⟩ := by decide
  exact not_shownIsCharged hvalid hnonneg rfl (by decide) (by decide) (by decide)
    (h _ hvalid hnonneg rfl)

end AstronomyShop
