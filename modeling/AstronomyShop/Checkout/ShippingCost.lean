import AstronomyShop.Checkout.QuoteFormat
import AstronomyShop.Checkout.QuotedAmount
import AstronomyShop.Checkout.Runs
import AstronomyShop.Quote.Service

/-!
# The shipping cost

From the cart through shipping to the quote service and back: what `quoteShipping` returns is
between 40 and 100 dollars for each item, counted modulo 2^32, with less than a dollar on top where
the cents of a large quote get lost (`shipping_cost_bounds`).
-/

namespace AstronomyShop

open Interaction Wire ExactDouble

/-! ## The answer to a quote -/

/-- What checkout can see of `/get-quote` when shipping asks this quote service. -/
inductive QuotedBy (quoteService : Shipping.QuoteService) (payload : Json) :
    Except String Response → Prop
  | connection (err : String) : QuotedBy quoteService payload (.error err)
  | refused {err : Serde.Error} {status : Nat} (body : Body)
      (h : Shipping.readGetQuoteRequest payload = .error err) (hs : status ≠ 200) :
      QuotedBy quoteService payload (.ok ⟨status, body⟩)
  | handled {req : Shipping.GetQuoteRequest}
      (h : Shipping.readGetQuoteRequest payload = .ok req) :
      QuotedBy quoteService payload (.ok (Shipping.getQuote quoteService req))
  | interrupted {status : Nat} : QuotedBy quoteService payload (.ok ⟨status, .unreadable⟩)

/-- The quote service draws `drawn count` when it is asked about `count` items, or it cannot be
reached. -/
structure Draws (intvalText : String → Int) (drawn : UInt32 → Nat)
    (quoteService : Shipping.QuoteService) : Prop where
  lower : ∀ count, 400 ≤ drawn count
  upper : ∀ count, drawn count ≤ 1000
  answers : ∀ count, (∃ err, quoteService count = .error err) ∨
    quoteService count = QuoteService.getquote intvalText (drawn count) count

variable {quoteService : Shipping.QuoteService} {payload : Json}
variable {answer : Except String Response} {costUsd : Money}

/-- A cost is only read from a request that shipping took and a price that it got. -/
theorem QuotedBy.priced (h : QuotedBy quoteService payload answer)
    (hread : readQuoteAnswer answer = .ok costUsd) :
    ∃ req price, Shipping.readGetQuoteRequest payload = .ok req ∧
      quoteService (Shipping.itemCount req) = .ok price ∧
        answer = .ok (Shipping.getQuote quoteService req) := by
  cases h with
  | connection err => cases hread
  | refused body _ hs =>
    simp only [readQuoteAnswer, ne_eq, hs, not_false_eq_true, if_true, reduceCtorEq] at hread
  | @handled req hreq =>
    cases hprice : quoteService (Shipping.itemCount req) with
    | ok price => exact ⟨req, price, hreq, hprice, rfl⟩
    | error err =>
      have hanswer : Shipping.getQuote quoteService req = ⟨500, .malformed⟩ := by
        unfold Shipping.getQuote Shipping.createQuoteFromCount
        rw [hprice]
      rw [hanswer] at hread
      cases hread
  | @interrupted status =>
    unfold readQuoteAnswer at hread
    split at hread
    · cases hread
    · rename_i heq
      cases heq
      split at hread <;> cases hread

/-- What a price of `k` cents is read as. -/
theorem readQuoteAnswer_cents {req : Shipping.GetQuoteRequest} {k : Nat}
    (hk : k ≤ 10000 * (2 ^ 32 - 1))
    (hprice : quoteService (Shipping.itemCount req) = .ok (priceOfCents k)) :
    ∃ costUsd, readQuoteAnswer (.ok (Shipping.getQuote quoteService req)) = .ok costUsd ∧
      costUsd.isValid = true ∧ costUsd.currencyCode = "USD" ∧
      costUsd.value = (k / 100 : Nat) * 10 ^ 9 + (min k (2 ^ 32 - 1) % 100 : Nat) * 10 ^ 7 := by
  have hdollars := @dollars_priceOfCents k (by omega)
  have hcents : ((Shipping.createQuoteFromFloat (priceOfCents k)).cents *
      Shipping.nanosMultiple).toNat = min k (2 ^ 32 - 1) % 100 * 10 ^ 7 := by
    have hmultiple : Shipping.nanosMultiple.toNat = 10 ^ 7 := by decide
    rw [UInt32.toNat_mul, cents_priceOfCents, hmultiple]
    exact Nat.mod_eq_of_lt (by omega)
  have hreply := @readQuoteAnswer_reply
    ⟨"USD", (Shipping.createQuoteFromFloat (priceOfCents k)).dollars,
      (Shipping.createQuoteFromFloat (priceOfCents k)).cents * Shipping.nanosMultiple⟩
    (by rw [hdollars]; omega) (by rw [hcents]; omega)
  have hunits := @Int64.toInt_ofInt_of_le (k / 100 : Nat) (by omega) (by omega)
  have hnanos := @Int32.toInt_ofInt_of_le (min k (2 ^ 32 - 1) % 100 * 10 ^ 7 : Nat)
    (by omega) (by omega)
  rw [← hdollars] at hunits
  rw [← hcents] at hnanos
  rw [getQuote_eq hprice, hreply]
  refine ⟨_, rfl, ?_, rfl, ?_⟩
  · rw [Money.isValid_iff, hunits, hnanos, hdollars, hcents]
    omega
  · rw [Money.value, hunits, hnanos, hdollars, hcents]
    push_cast
    rfl

/-! ## The items of a cart -/

/-- The number of items of a cart. -/
def itemsTotal (items : List CartItem) : Int := (items.map fun item => item.quantity.toInt).sum

theorem totalQuantity_of_read {address : Option Address} {items : List CartItem}
    {req : Shipping.GetQuoteRequest}
    (h : Shipping.readGetQuoteRequest (shippingPayload address items) = .ok req) :
    (Shipping.totalQuantity req : Int) = itemsTotal items := by
  obtain ⟨hread, -⟩ := readGetQuoteRequest_eq_ok_iff.mp h
  obtain ⟨-, hlines⟩ := readVec_slice.mp hread
  unfold Shipping.totalQuantity itemsTotal
  clear h hread
  generalize req.items = lines at hlines
  induction hlines with
  | nil => rfl
  | cons hline _ ih =>
    rw [List.map_cons, List.map_cons, List.sum_cons, List.sum_cons, Nat.cast_add, ih, hline.2]

/-- What `n` items cost, each of them a tenth of `draw` dollars. -/
structure DrawnCost (draw n : Nat) (costUsd : Money) : Prop where
  valid : costUsd.isValid = true
  currencyCode : costUsd.currencyCode = "USD"
  lower : 40 * n * 10 ^ 9 ≤ costUsd.value
  upper : costUsd.value < (100 * n + 1) * 10 ^ 9
  near : |costUsd.value - draw * n * 10 ^ 8| < 10 ^ 9
  exact : draw * n * 10 < 2 ^ 32 → costUsd.value = draw * n * 10 ^ 8

/-- The price that was drawn is read back. -/
theorem readQuoteAnswer_drawn {intvalText : String → Int} {req : Shipping.GetQuoteRequest}
    {draw : Nat} (hlow : 400 ≤ draw) (hhigh : draw ≤ 1000)
    (hdraw : quoteService (Shipping.itemCount req) =
      QuoteService.getquote intvalText draw (Shipping.itemCount req)) :
    ∃ costUsd, readQuoteAnswer (.ok (Shipping.getQuote quoteService req)) = .ok costUsd ∧
      DrawnCost draw (Shipping.itemCount req).toNat costUsd := by
  have hlt := (Shipping.itemCount req).toNat_lt
  generalize hn : (Shipping.itemCount req).toNat = n at hlt
  have hcents : quoteService (Shipping.itemCount req) = .ok (priceOfCents (draw * n * 10)) := by
    rw [hdraw, QuoteService.getquote, QuoteService.calculateQuote_requestBody, hn, priceOfCents]
  have hlow' : 400 * n ≤ draw * n := Nat.mul_le_mul_right n hlow
  have hhigh' : draw * n ≤ 1000 * n := Nat.mul_le_mul_right n hhigh
  generalize hpriced : draw * n = priced at hlow' hhigh' hcents
  obtain ⟨costUsd, hread, hvalid, hcode, hvalue⟩ := readQuoteAnswer_cents (by omega) hcents
  have hexact : (draw : Int) * n = priced := by exact_mod_cast hpriced
  refine ⟨costUsd, hread, hvalid, hcode, by omega, by omega, ?_, ?_⟩
  · -- the cents of the greatest `u32` stand in for those of the price
    rw [hexact, abs_lt]
    omega
  · intro hsmall
    rw [hexact]
    rw [hpriced] at hsmall
    omega

/-- **The shipping cost.** What `quoteShipping` returns, when shipping asks a quote service that
draws its prices, is a valid amount in dollars: for each item, counted modulo 2^32, a tenth of the
number that is drawn for it, so between 40 and 100 dollars. When it comes to 2^32 cents or more, its
own cents are lost, which makes a difference of less than a dollar. -/
theorem shipping_cost_bounds (intvalText : String → Int) (drawn : UInt32 → Nat)
    (quoteService : Shipping.QuoteService) (hquote : Draws intvalText drawn quoteService)
    (address : Option Address) (items : List CartItem) (t : List CheckoutEvent) (costUsd : Money)
    (h : Runs (quoteShipping address items) t (.ok costUsd))
    (hanswer : ∀ payload answer, ⟨.getQuote payload, answer⟩ ∈ t →
      QuotedBy quoteService payload answer) :
    ∃ count : UInt32, (count.toNat : Int) = itemsTotal items % 2 ^ 32 ∧
      DrawnCost (drawn count) count.toNat costUsd := by
  obtain ⟨answer, rfl, hread⟩ := quoteShipping_runs h
  have hquoted := hanswer _ _ List.mem_cons_self
  obtain ⟨req, price, hreq, hprice, rfl⟩ := hquoted.priced hread.symm
  rcases hquote.answers (Shipping.itemCount req) with ⟨err, herr⟩ | hdraw
  · rw [hprice] at herr
    cases herr
  · obtain ⟨costUsd', hread', hcost⟩ :=
      readQuoteAnswer_drawn (hquote.lower _) (hquote.upper _) hdraw
    obtain rfl := Except.ok.inj (hread.trans hread')
    have hcount := Shipping.toNat_itemCount req
    have htotal := totalQuantity_of_read hreq
    exact ⟨Shipping.itemCount req, by omega, hcost⟩

/-- Every item costs 40 dollars. -/
def fortyEach : Shipping.QuoteService := QuoteService.getquote (fun _ => 0) 400

def quotedTwo : Except String Response := .ok (Shipping.getQuote fortyEach ⟨[⟨2⟩], none⟩)

theorem runs_quotedTwo : Runs (quoteShipping none [⟨"bulb", 2⟩])
    [⟨.getQuote (shippingPayload none [⟨"bulb", 2⟩]), quotedTwo⟩] (.ok ⟨"USD", 80, 0⟩) := by
  have hread : readQuoteAnswer quotedTwo = .ok ⟨"USD", 80, 0⟩ := by decide +kernel
  exact runs_call.mpr ⟨quotedTwo, [], rfl, runs_pure.mpr ⟨rfl, hread.symm⟩⟩

theorem quotedBy_quotedTwo :
    QuotedBy fortyEach (shippingPayload none [⟨"bulb", 2⟩]) quotedTwo := by
  have hread : Shipping.readGetQuoteRequest (shippingPayload none [⟨"bulb", 2⟩]) =
      .ok ⟨[⟨2⟩], none⟩ := by rfl
  exact .handled hread

theorem shipping_cost_bounds_two : ∃ count : UInt32,
    (count.toNat : Int) = itemsTotal [⟨"bulb", 2⟩] % 2 ^ 32 ∧
      DrawnCost 400 count.toNat ⟨"USD", 80, 0⟩ := by
  have hdraws : Draws (fun _ => 0) (fun _ => 400) fortyEach :=
    ⟨fun _ => le_rfl, fun _ => by decide, fun _ => .inr rfl⟩
  have hanswer : ∀ payload answer, (⟨.getQuote payload, answer⟩ : CheckoutEvent) ∈
      [(⟨.getQuote (shippingPayload none [⟨"bulb", 2⟩]), quotedTwo⟩ : CheckoutEvent)] →
        QuotedBy fortyEach payload answer := by
    intro payload answer he
    cases List.mem_singleton.mp he
    exact quotedBy_quotedTwo
  exact shipping_cost_bounds (fun _ => 0) (fun _ => 400) fortyEach hdraws none [⟨"bulb", 2⟩] _
    ⟨"USD", 80, 0⟩ runs_quotedTwo hanswer

end AstronomyShop
