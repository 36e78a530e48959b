import AstronomyShop.Checkout.PlaceOrder
import AstronomyShop.Shipping.Service
import Mathlib.Tactic.Positivity
import Mathlib.Tactic.NormNum

/-!
# The amount of a quote

Shipping splits the price that the quote service answers into dollars and cents, sends them as
`Money`, and checkout reads them. The cents come out of a cast to `u32` that saturates: a price of
2^32 cents or more gets the cents of the greatest `u32`, which are 95, whatever its own cents are.
-/

namespace AstronomyShop

open Wire ExactDouble

/-! ## Splitting a price -/

/-- The price of `k` cents. -/
def priceOfCents (k : Nat) : Double := .finite (k / 100)

theorem truncate_div_hundred (k : Nat) : truncate ((k : ℚ) / 100) = (k / 100 : Nat) := by
  rw [truncate_of_nonneg (by positivity)]
  exact_mod_cast Rat.floor_natCast_div_natCast k 100

theorem dollars_priceOfCents {k : Nat} (hk : k / 100 < 2 ^ 64) :
    (Shipping.createQuoteFromFloat (priceOfCents k)).dollars.toNat = k / 100 := by
  have hfloor : (priceOfCents k).floor = .finite ((k / 100 : Nat) : Int) := by
    unfold priceOfCents
    rw [Double.floor_finite, ← truncate_of_nonneg (by positivity), truncate_div_hundred]
  have hdollars : (Shipping.createQuoteFromFloat (priceOfCents k)).dollars =
      .ofNat ((priceOfCents k).floor.saturate (2 ^ 64)) := rfl
  rw [hdollars, hfloor, Double.saturate, truncate_intCast, UInt64.toNat_ofNat']
  omega

theorem cents_priceOfCents (k : Nat) :
    (Shipping.createQuoteFromFloat (priceOfCents k)).cents.toNat = min k (2 ^ 32 - 1) % 100 := by
  have hscaled : priceOfCents k * .finite 100 = .finite ((k : Int) : ℚ) := by
    unfold priceOfCents
    rw [Double.finite_mul, div_mul_cancel₀ _ (by norm_num), Int.cast_natCast]
  have hcents : (Shipping.createQuoteFromFloat (priceOfCents k)).cents =
      .ofNat ((priceOfCents k * .finite 100).saturate (2 ^ 32)) % 100 := rfl
  rw [hcents, hscaled, Double.saturate, truncate_intCast, UInt32.toNat_mod, UInt32.toNat_ofNat',
    Int.toNat_natCast, @Nat.mod_eq_of_lt (min k (2 ^ 32 - 1)) (2 ^ 32) (by omega)]
  rfl

/-! ## Reading the answer -/

/-- An amount that shipping sends is read as it is when it fits the signed fields. -/
theorem readMoney_toJson {m : Shipping.Money} (hunits : m.units.toNat < 2 ^ 63)
    (hnanos : m.nanos.toNat < 2 ^ 31) :
    readMoney m.toJson {} = some
      { currencyCode := m.currencyCode
        units := .ofInt m.units.toNat
        nanos := .ofInt m.nanos.toNat } := by
  have hcode : Go.foldName "currency_code" = "currency_code" := by decide +kernel
  have hu : Go.foldName "units" = "units" := by decide +kernel
  have hn : Go.foldName "nanos" = "nanos" := by decide +kernel
  have hunits' : m.units.toNat < 9223372036854775808 := by omega
  have hnanos' : m.nanos.toNat < 2147483648 := by omega
  simp [readMoney, Shipping.Money.toJson, Go.readStruct, Go.readMember, hcode, hu, hn,
    Go.stringField, Go.intField, List.lookup_cons, hunits', hnanos']

/-- The only member of the response is read into the field. -/
theorem readQuoteResp_eq (m : Shipping.Money) :
    readQuoteResp (Shipping.GetQuoteResponse.toJson ⟨some m⟩) =
      (readMoney m.toJson {}).map fun v => ⟨some v⟩ := by
  have hname : Go.foldName "cost_usd" = "cost_usd" := by decide +kernel
  have hjson : Shipping.GetQuoteResponse.toJson ⟨some m⟩ = .obj [("cost_usd", m.toJson)] := rfl
  have hread : Go.pointerField {} QuoteResp.costUsd (fun v r => { r with costUsd := v }) readMoney
      m.toJson {} = (readMoney m.toJson {}).map fun v => ⟨some v⟩ := rfl
  unfold readQuoteResp
  rw [hjson, Go.readStruct_singleton, ← hread]
  apply Go.readMember_of_lookup
  change List.lookup (Go.foldName "cost_usd") _ = _
  rw [hname]
  exact List.lookup_cons_self

theorem readQuoteAnswer_json {j : Json} {costUsd : Money}
    (h : readQuoteResp j = some ⟨some costUsd⟩) :
    readQuoteAnswer (.ok ⟨200, .json j⟩) = .ok costUsd := by
  simp only [readQuoteAnswer, h, ne_eq, not_true_eq_false, if_false]

/-- What checkout makes of a reply of `get_quote`. -/
theorem readQuoteAnswer_reply {m : Shipping.Money} (hunits : m.units.toNat < 2 ^ 63)
    (hnanos : m.nanos.toNat < 2 ^ 31) :
    readQuoteAnswer (.ok ⟨200, .json (Shipping.GetQuoteResponse.toJson ⟨some m⟩)⟩) = .ok
      { currencyCode := m.currencyCode
        units := .ofInt m.units.toNat
        nanos := .ofInt m.nanos.toNat } := by
  apply readQuoteAnswer_json
  rw [readQuoteResp_eq, readMoney_toJson hunits hnanos]
  rfl

/-- The reply of `get_quote` when the quote service answers a price. -/
theorem getQuote_eq {quoteService : Shipping.QuoteService} {req : Shipping.GetQuoteRequest}
    {price : Double} (hprice : quoteService (Shipping.itemCount req) = .ok price) :
    Shipping.getQuote quoteService req = ⟨200, .json (Shipping.GetQuoteResponse.toJson
      ⟨some ⟨"USD", (Shipping.createQuoteFromFloat price).dollars,
        (Shipping.createQuoteFromFloat price).cents * Shipping.nanosMultiple⟩⟩)⟩ := by
  unfold Shipping.getQuote Shipping.createQuoteFromCount
  rw [hprice]

/-! ## The amount -/

/-- The `Money` that checkout reads is valid, in dollars, and worth `k` cents. -/
def QuoteSurvives (quoteService : Shipping.QuoteService) (req : Shipping.GetQuoteRequest)
    (k : Nat) : Prop :=
  ∃ costUsd, readQuoteAnswer (.ok (Shipping.getQuote quoteService req)) = .ok costUsd ∧
    costUsd.isValid = true ∧ costUsd.currencyCode = "USD" ∧ costUsd.value = k * 10 ^ 7

/-- **A quote survives the trip exactly when** its cents fit a `u32`, or are those that the greatest
`u32` has. -/
theorem quote_survives_iff (quoteService : Shipping.QuoteService) (req : Shipping.GetQuoteRequest)
    (k : Nat) (hk : k ≤ 10000 * (2 ^ 32 - 1))
    (hprice : quoteService (Shipping.itemCount req) = .ok (priceOfCents k)) :
    QuoteSurvives quoteService req k ↔ k < 2 ^ 32 ∨ k % 100 = 95 := by
  have hdollars := @dollars_priceOfCents k (by omega)
  have hcents : ((Shipping.createQuoteFromFloat (priceOfCents k)).cents *
      Shipping.nanosMultiple).toNat = min k (2 ^ 32 - 1) % 100 * 10 ^ 7 := by
    have hmultiple : Shipping.nanosMultiple.toNat = 10 ^ 7 := by decide
    rw [UInt32.toNat_mul, cents_priceOfCents, hmultiple]
    exact Nat.mod_eq_of_lt (by omega)
  have hread := @readQuoteAnswer_reply
    ⟨"USD", (Shipping.createQuoteFromFloat (priceOfCents k)).dollars,
      (Shipping.createQuoteFromFloat (priceOfCents k)).cents * Shipping.nanosMultiple⟩
    (by rw [hdollars]; omega) (by rw [hcents]; omega)
  have hunits := @Int64.toInt_ofInt_of_le (k / 100 : Nat) (by omega) (by omega)
  have hnanos := @Int32.toInt_ofInt_of_le (min k (2 ^ 32 - 1) % 100 * 10 ^ 7 : Nat)
    (by omega) (by omega)
  rw [← hdollars] at hunits
  rw [← hcents] at hnanos
  unfold QuoteSurvives
  rw [getQuote_eq hprice, hread]
  constructor
  · rintro ⟨costUsd, hcost, -, -, hvalue⟩
    cases hcost
    rw [Money.value, hunits, hnanos, hdollars, hcents] at hvalue
    omega
  · intro hcondition
    refine ⟨_, rfl, ?_, rfl, ?_⟩
    · rw [Money.isValid_iff, hunits, hnanos, hdollars, hcents]
      omega
    · rw [Money.value, hunits, hnanos, hdollars, hcents]
      omega

/-- Two items at 55 dollars. -/
theorem quote_survives_two_items : QuoteSurvives (fun _ => .ok (priceOfCents 11000))
    ⟨[⟨2⟩], none⟩ 11000 :=
  (quote_survives_iff _ ⟨[⟨2⟩], none⟩ 11000 (by decide) rfl).mpr (Or.inl (by decide))

/-- 1073742 items at 40 dollars arrive with 95 cents. -/
theorem large_quote_lost : ¬ ∀ (quoteService : Shipping.QuoteService)
    (req : Shipping.GetQuoteRequest) (k : Nat), k ≤ 10000 * (2 ^ 32 - 1) →
      quoteService (Shipping.itemCount req) = .ok (priceOfCents k) →
        QuoteSurvives quoteService req k := by
  intro h
  obtain ⟨costUsd, hread, -, -, hvalue⟩ :=
    h (fun _ => .ok (priceOfCents 4294968000)) ⟨[⟨1073742⟩], none⟩ 4294968000 (by decide) rfl
  have hcost : readQuoteAnswer (.ok (Shipping.getQuote
      (fun _ => .ok (priceOfCents 4294968000)) ⟨[⟨1073742⟩], none⟩)) =
        .ok ⟨"USD", 42949680, 950000000⟩ := by decide +kernel
  rw [hcost] at hread
  cases hread
  exact absurd hvalue (by decide)

end AstronomyShop
