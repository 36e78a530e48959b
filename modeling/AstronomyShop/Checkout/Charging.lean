import AstronomyShop.Checkout.QuoteFormat
import AstronomyShop.Checkout.Runs

/-!
# What is charged, and when

* `chargeAndShip_charge_exact`: the amount passed to `Charge` is exact.
* `charge_only_positive_quantities`: no order with a quantity below one gets as far as a
  charge, because the shipping service refuses to quote it.
* `charged_failure_iff`: an order that fails after its card was charged has failed at the
  shipment, and nothing gives the charge back.
-/

namespace AstronomyShop

open Interaction Wire

/-! ## Events -/

def Call.isCharge : Call → Bool
  | charge _ _ _ => true
  | _ => false

def Call.isShipOrder : Call → Bool
  | shipOrder _ => true
  | _ => false

/-- The calls that follow a shipment: emptying the cart, the email and the Kafka publish. -/
def Call.isFollowUp : Call → Bool
  | emptyCart _ | sendOrderConfirmation _ | kafkaSend _ | kafkaFlood _ _ => true
  | _ => false

def ChargeSucceeded (e : CheckoutEvent) : Prop :=
  ∃ svcAddr amount creditCard tx, e = ⟨.charge svcAddr amount creditCard, .ok tx⟩

/-- The shipment was answered with a tracking id. -/
def ShipSucceeded (e : CheckoutEvent) : Prop :=
  ∃ payload answer trackingID, e = ⟨.shipOrder payload, answer⟩ ∧
    readShipAnswer answer = .ok trackingID ∧ trackingID ≠ ""

theorem Call.IsPreparation.not_effect {o : Call} (h : o.IsPreparation) :
    o.isCharge = false ∧ o.isShipOrder = false ∧ o.isFollowUp = false := by
  cases o <;> first | exact ⟨rfl, rfl, rfl⟩ | exact h.elim

theorem Call.IsAftermath.not_effect {o : Call} (h : o.IsAftermath) :
    o.isCharge = false ∧ o.isShipOrder = false := by
  cases o <;> first | exact ⟨rfl, rfl⟩ | exact h.elim

theorem isCharge_of_chargeSucceeded {e : CheckoutEvent} (h : ChargeSucceeded e) :
    e.op.isCharge = true := by
  obtain ⟨_, _, _, _, rfl⟩ := h
  rfl

theorem isShipOrder_of_shipSucceeded {e : CheckoutEvent} (h : ShipSucceeded e) :
    e.op.isShipOrder = true := by
  obtain ⟨_, _, _, rfl, -⟩ := h
  rfl

/-- The calls before the total are preparations, with the new order id in front. -/
theorem Preparation.isPreparation_of_mem {req : PlaceOrderRequest} (P : Preparation req)
    (orderID : String) :
    ∀ e ∈ (⟨.newUUID, .ok orderID⟩ :: P.trace : List CheckoutEvent), e.op.IsPreparation :=
  List.forall_mem_cons.mpr ⟨trivial, P.isPreparation_of_mem_trace⟩

theorem readShipAnswer_ne_empty {answer : Except String Response} {trackingID : String}
    (h : readShipAnswer answer = .ok trackingID) : trackingID ≠ "" := by
  unfold readShipAnswer at h
  split at h
  · cases h
  · split at h
    · cases h
    · split at h
      · cases h
      · cases h
      · split at h
        · cases h
        · split at h
          · cases h
          · rename_i hne
            cases h
            exact hne

/-! ## Replies for sample runs -/

/-- The cart that a run of `PlaceOrder` has read. -/
def CartRead (req : PlaceOrderRequest) (t : List CheckoutEvent) (cart : Cart) : Prop :=
  ∃ orderID rest, t = ⟨.newUUID, .ok orderID⟩ :: ⟨.getCart req.userId, .ok cart⟩ :: rest

def sampleRequest : PlaceOrderRequest where
  userId := "u1"
  userCurrency := "USD"

/-- The shipping service with a quote service that asks 5 for any number of items. -/
def sampleQuote (payload : Json) : Except String Response :=
  match Shipping.readGetQuoteRequest payload with
  | .ok req => .ok (Shipping.getQuote (fun _ => .ok (.finite 5)) req)
  | .error _ => .ok ⟨400, .malformed⟩

theorem quoteAnswer_sampleQuote (payload : Json) :
    Shipping.QuoteAnswer payload (sampleQuote payload) := by
  unfold sampleQuote
  split
  · rename_i req hreq
    exact Shipping.quoteAnswer_getQuote hreq _
  · exact Shipping.quoteAnswer_of_refused (by decide)

/-- Every service answers, with a shipment answered by `shipment`. The cart has one line, of
`quantity` pieces. -/
def sampleReply (quantity : Int32) (shipment : Except String Response) : (o : Call) → Reply o
  | .newUUID => .ok "o1"
  | .getCart userId => .ok ⟨userId, [⟨"bulb", quantity⟩]⟩
  | .getProduct id => .ok { id := id, priceUsd := some ⟨"USD", 10, 500000000⟩ }
  | .convert source _ => .ok (source.getD {})
  | .getQuote payload => sampleQuote payload
  | .booleanFlag _ => false
  | .charge _ _ _ => .ok "tx1"
  | .shipOrder _ => shipment
  | .emptyCart _ => .ok ()
  | .sendOrderConfirmation _ => .ok ⟨200, .malformed⟩
  | .kafkaSend _ => .success 0
  | .intFlag _ => 0
  | .kafkaFlood _ _ => ()

/-- The sample run of `PlaceOrder`: its trace and its outcome. -/
def sampleRun (quantity : Int32) (shipment : Except String Response) :
    List CheckoutEvent × Outcome :=
  (placeOrder {} sampleRequest).answered (sampleReply quantity shipment)

theorem cartRead_sampleRun {quantity : Int32} {shipment : Except String Response} {cart : Cart}
    (h : CartRead sampleRequest (sampleRun quantity shipment).1 cart) :
    cart = ⟨"u1", [⟨"bulb", quantity⟩]⟩ := by
  obtain ⟨orderID, rest, heq⟩ := h
  have hread : (sampleRun quantity shipment).1[1]? =
      some ⟨.getCart "u1", .ok ⟨"u1", [⟨"bulb", quantity⟩]⟩⟩ := rfl
  rw [heq] at hread
  have hevent := Option.some.inj hread
  exact Except.ok.inj (eq_of_heq (Event.mk.inj hevent).2)

/-- With the shipping service down, the sample order of two pieces fails. -/
theorem sampleRun_down : (sampleRun 2 (.error "down")).2 =
    .failed (.wrapf .unavailable "shipping error: %+v"
      (.wrapf "failed POST to shipping service: %+v" (.external "down"))) := by
  decide +kernel

/-- Every charge of a sample run succeeds. -/
theorem chargeSucceeded_of_mem_sampleRun {quantity : Int32} {shipment : Except String Response}
    {e : CheckoutEvent} (he : e ∈ (sampleRun quantity shipment).1)
    (hcharge : e.op.isCharge = true) : ChargeSucceeded e := by
  obtain ⟨op, reply⟩ := e
  have hreply : reply = sampleReply quantity shipment op := reply_of_mem_answered he
  cases op with
  | charge svcAddr amount creditCard =>
    subst hreply
    exact ⟨svcAddr, amount, creditCard, "tx1", rfl⟩
  | _ => cases hcharge

/-- Its card is charged all the same. -/
theorem charge_mem_sampleRun_down :
    ∃ e ∈ (sampleRun 2 (.error "down")).1, ChargeSucceeded e := by
  have hany : ((sampleRun 2 (.error "down")).1.any fun e => e.op.isCharge) = true := by
    decide +kernel
  obtain ⟨e, he, hcharge⟩ := List.any_eq_true.mp hany
  exact ⟨e, he, chargeSucceeded_of_mem_sampleRun he hcharge⟩

/-! ## The amount -/

/-- Every charge of a run is over the total of the order. -/
theorem ChargeRun.charge_total {cs : CheckoutService} {req : PlaceOrderRequest}
    {orderID : String} {prep : OrderPrep} {t : List CheckoutEvent} {out : Outcome}
    (h : ChargeRun cs req orderID prep t out) {svcAddr : String} {amount : Money}
    {creditCard : Option CreditCardInfo} {reply : Except String String}
    (hc : ⟨.charge svcAddr amount creditCard, reply⟩ ∈ t) :
    orderTotal req.userCurrency prep.shippingCostLocalized prep.orderItems = .ok amount := by
  cases h with
  | unpayable _ => cases hc
  | uncharged htotal _ _ _ =>
    simp only [List.mem_cons, List.not_mem_nil, or_false, Event.mk.injEq, reduceCtorEq, false_and,
      false_or, Call.charge.injEq] at hc
    rw [hc.1.2.1]
    exact htotal
  | unshipped htotal _ _ _ _ =>
    simp only [List.mem_cons, List.not_mem_nil, or_false, Event.mk.injEq, reduceCtorEq, false_and,
      false_or, Call.charge.injEq] at hc
    rw [hc.1.2.1]
    exact htotal
  | shipped htotal _ _ _ _ _ hrest _ =>
    simp only [List.mem_cons, Event.mk.injEq, reduceCtorEq, false_and, false_or,
      Call.charge.injEq] at hc
    rcases hc with hc | hc
    · rw [hc.1.2.1]
      exact htotal
    · exact (hrest _ hc).elim

/-- **The charged amount is exact.** Whatever the prepared shipping cost and order items, an
amount that is passed to `Charge` is in the currency of the user and is the shipping cost
plus the sum of all quantities times costs. -/
theorem chargeAndShip_charge_exact {cs : CheckoutService} {req : PlaceOrderRequest}
    {orderID : String} {prep : OrderPrep}
    (hprep : Chargeable prep.shippingCostLocalized prep.orderItems) {t : List CheckoutEvent}
    {out : Outcome} (h : Runs (chargeAndShip cs req orderID prep) t out) {svcAddr : String}
    {amount : Money} {creditCard : Option CreditCardInfo} {reply : Except String String}
    (hc : ⟨.charge svcAddr amount creditCard, reply⟩ ∈ t) :
    amount.currencyCode = req.userCurrency ∧
      amount.units.toInt * 10 ^ 9 + amount.nanos.toInt =
        prep.shippingCostLocalized.value +
          (prep.orderItems.map fun it => it.item.quantity.toInt * it.cost.value).sum := by
  obtain ⟨hvalue, hcur, -⟩ := orderTotal_value hprep ((chargeAndShip_run h).charge_total hc)
  exact ⟨hcur, hvalue⟩

/-- Two pieces at 10.50, and 5 for the shipment. -/
def bulbsPrep : OrderPrep :=
  ⟨[⟨⟨"bulb", 2⟩, ⟨"USD", 10, 500000000⟩⟩], [⟨"bulb", 2⟩], ⟨"USD", 5, 0⟩⟩

/-- The calls when the card is declined. -/
def declinedTrace : List CheckoutEvent :=
  [⟨.booleanFlag "paymentUnreachable", false⟩, ⟨.charge "" ⟨"USD", 26, 0⟩ none, .error "declined"⟩]

theorem runs_declined : Runs (chargeAndShip {} sampleRequest "o1" bulbsPrep) declinedTrace
    (.failed (.wrapf .internal "failed to charge card: %+v"
      (.wrapf "could not charge the card: %+v" (.external "declined")))) := by
  have htotal : orderTotal "USD" bulbsPrep.shippingCostLocalized bulbsPrep.orderItems =
      .ok ⟨"USD", 26, 0⟩ := by decide
  unfold chargeAndShip
  rw [show sampleRequest.userCurrency = "USD" from rfl, htotal]
  exact runs_call.mpr ⟨false, _, rfl, runs_call.mpr
    ⟨.error "declined", _, rfl, runs_pure.mpr ⟨rfl, rfl⟩⟩⟩

/-- 26 are charged, which is the cost of the shipment and twice the cost of a piece. -/
theorem chargeAndShip_charge_exact_bulbs :
    (∃ out, Runs (chargeAndShip {} sampleRequest "o1" bulbsPrep) declinedTrace out) ∧
      ⟨.charge "" ⟨"USD", 26, 0⟩ none, .error "declined"⟩ ∈ declinedTrace ∧
      (⟨"USD", 26, 0⟩ : Money).currencyCode = sampleRequest.userCurrency ∧
      (26 : Int64).toInt * 10 ^ 9 + (0 : Int32).toInt =
        bulbsPrep.shippingCostLocalized.value +
          (bulbsPrep.orderItems.map fun it => it.item.quantity.toInt * it.cost.value).sum := by
  have hcharge : (⟨.charge "" ⟨"USD", 26, 0⟩ none, .error "declined"⟩ : CheckoutEvent) ∈
      declinedTrace := List.mem_cons_of_mem _ List.mem_cons_self
  have hprep : Chargeable bulbsPrep.shippingCostLocalized bulbsPrep.orderItems :=
    ⟨by decide, by decide,
      List.forall_mem_singleton.mpr ⟨by decide, by decide, by decide⟩, by decide⟩
  exact ⟨⟨_, runs_declined⟩, hcharge, chargeAndShip_charge_exact hprep runs_declined hcharge⟩

/-! ## The quantities -/

/-- Carts with a line, and with quantities from one on, which the cast to `uint32` keeps. -/
def Cart.Orderable (cart : Cart) : Prop :=
  cart.items ≠ [] ∧ ∀ item ∈ cart.items,
    1 ≤ item.quantity.toInt ∧ (item.quantity.toUInt32.toNat : Int) = item.quantity.toInt

theorem Preparation.cartRead {req : PlaceOrderRequest} (P : Preparation req) (orderID : String)
    (rest : List CheckoutEvent) :
    CartRead req (⟨.newUUID, .ok orderID⟩ :: P.trace ++ rest) P.cart :=
  ⟨orderID, _, rfl⟩

/-- A quote is read from an answer with status 200 only. -/
theorem status_of_readQuoteAnswer {answer : Except String Response} {costUsd : Money}
    (h : readQuoteAnswer answer = .ok costUsd) :
    ∃ resp, answer = .ok resp ∧ resp.statusCode = 200 := by
  unfold readQuoteAnswer at h
  split at h
  · cases h
  · rename_i resp
    split at h
    · cases h
    · rename_i hstatus
      exact ⟨resp, rfl, not_not.mp hstatus⟩

/-- A cart that the shipping service has quoted can be ordered. -/
theorem Preparation.orderable {req : PlaceOrderRequest} (P : Preparation req)
    (hquote : Shipping.QuoteAnswer (shippingPayload req.address P.cart.items) P.quoteAnswer) :
    P.cart.Orderable := by
  obtain ⟨resp, hresp, hstatus⟩ := status_of_readQuoteAnswer P.quote_read
  obtain ⟨quoteReq, hread⟩ := hquote resp hresp hstatus
  obtain ⟨hne, hpos⟩ := positive_of_read_quoteRequest hread
  refine ⟨hne, fun item hitem => ⟨hpos item hitem, ?_⟩⟩
  exact Int32.toNat_toUInt32_of_nonneg (by have := hpos item hitem; omega)

theorem Preparation.getQuote_mem_trace {req : PlaceOrderRequest} (P : Preparation req) :
    ⟨.getQuote (shippingPayload req.address P.cart.items), P.quoteAnswer⟩ ∈ P.trace := by
  simp [Preparation.trace]

/-- **A charge is over positive quantities only.** With the shipping service behind
`/get-quote`, whatever all other services answer: a run that calls `Charge` has read a cart
that can be ordered, and a run that has not fails and calls neither `Charge` nor ship-order
nor anything that follows a shipment. -/
theorem charge_only_positive_quantities {cs : CheckoutService} {req : PlaceOrderRequest}
    {t : List CheckoutEvent} {out : Outcome} (h : Runs (placeOrder cs req) t out)
    (hquote : ∀ payload answer, ⟨.getQuote payload, answer⟩ ∈ t →
      Shipping.QuoteAnswer payload answer) :
    ((∃ e ∈ t, e.op.isCharge = true) → ∃ cart, CartRead req t cart ∧ cart.Orderable) ∧
      ((¬ ∃ cart, CartRead req t cart ∧ cart.Orderable) →
        (∃ status, out = .failed status) ∧
          ∀ e ∈ t, e.op.isCharge = false ∧ e.op.isShipOrder = false ∧
            e.op.isFollowUp = false) := by
  cases placeOrder_run h with
  | unprepared hprep hcode =>
    refine ⟨?_, fun _ => ⟨⟨_, rfl⟩, fun e he => (hprep e he).not_effect⟩⟩
    rintro ⟨e, he, hcharge⟩
    exact absurd hcharge (by simp [(hprep e he).not_effect.1])
  | prepared orderID P hrun =>
    have hgood : P.cart.Orderable := P.orderable (hquote _ _
      (List.mem_append_left _ (List.mem_cons_of_mem _ P.getQuote_mem_trace)))
    exact ⟨fun _ => ⟨P.cart, P.cartRead orderID _, hgood⟩,
      fun hnone => absurd ⟨P.cart, P.cartRead orderID _, hgood⟩ hnone⟩

/-- A cart with minus one piece: the order fails without a charge. -/
theorem charge_only_positive_quantities_minus_one :
    (∃ status, (sampleRun (-1) (.error "")).2 = .failed status) ∧
      ∀ e ∈ (sampleRun (-1) (.error "")).1, e.op.isCharge = false ∧ e.op.isShipOrder = false ∧
        e.op.isFollowUp = false := by
  refine (charge_only_positive_quantities (runs_answered _ (placeOrder {} sampleRequest))
    ?_).2 ?_
  · intro payload answer hmem
    rw [show answer = sampleQuote payload from reply_of_mem_answered hmem]
    exact quoteAnswer_sampleQuote payload
  · rintro ⟨cart, ⟨orderID, rest, heq⟩, -, hpos⟩
    have hcart : cart = ⟨"u1", [⟨"bulb", -1⟩]⟩ := cartRead_sampleRun ⟨orderID, rest, heq⟩
    rw [hcart] at hpos
    exact absurd (hpos ⟨"bulb", -1⟩ List.mem_cons_self).1 (by decide)

/-! ## Failed orders -/

/-- **An order that fails after a charge has failed at the shipment.** When `PlaceOrder`
returns an error, a `Charge` of the run has succeeded exactly when the error is the one of a
failed shipment. Then the charge and the failed ship-order are the last calls of the run, so
nothing takes the charge back. -/
theorem charged_failure_iff {cs : CheckoutService} {req : PlaceOrderRequest}
    {t : List CheckoutEvent} {status : Status} (h : Runs (placeOrder cs req) t (.failed status)) :
    ((∃ e ∈ t, ChargeSucceeded e) ↔ status.code = .unavailable) ∧
      (status.code = .unavailable → ∃ before charge payload answer err,
        t = before ++ [charge, ⟨.shipOrder payload, answer⟩] ∧ ChargeSucceeded charge ∧
          readShipAnswer answer = .error err ∧
          status = .wrapf .unavailable "shipping error: %+v" err) := by
  have hnone : ∀ t : List CheckoutEvent, (∀ e ∈ t, e.op.IsPreparation) →
      ¬ ∃ e ∈ t, ChargeSucceeded e := by
    rintro t ht ⟨e, he, hcharge⟩
    exact absurd (isCharge_of_chargeSucceeded hcharge) (by simp [(ht e he).not_effect.1])
  cases placeOrder_run h with
  | unprepared hprep hcode =>
    simp only [hcode, reduceCtorEq, iff_false, false_implies, and_true]
    exact hnone t hprep
  | prepared orderID P hrun =>
    cases hrun with
    | uncharged htotal flag svcAddr err =>
      simp only [Status.code, reduceCtorEq, iff_false, false_implies, and_true]
      rintro ⟨e, he, hcharge⟩
      rcases List.mem_append.mp he with he | he
      · exact hnone _ (P.isPreparation_of_mem orderID) ⟨e, he, hcharge⟩
      · obtain ⟨_, _, _, tx, rfl⟩ := hcharge
        simp at he
    | unshipped htotal flag svcAddr tx hread =>
      refine ⟨⟨fun _ => rfl, fun _ => ?_⟩, fun _ => ?_⟩
      · refine ⟨_, List.mem_append_right _ (List.mem_cons_of_mem _ List.mem_cons_self), ?_⟩
        exact ⟨svcAddr, _, _, tx, rfl⟩
      · exact ⟨_, _, _, _, _, (List.append_assoc _ [_] [_, _]).symm, ⟨svcAddr, _, _, tx, rfl⟩,
          hread, rfl⟩
    | shipped _ _ _ _ _ _ _ hout =>
      rcases hout with hout | ⟨-, -, hout⟩
      · cases hout
      · cases hout

/-- The sample order, with a shipping service that is down. -/
theorem charged_failure_unavailable :
    ((∃ e ∈ (sampleRun 2 (.error "down")).1, ChargeSucceeded e) ↔
      Code.unavailable = .unavailable) ∧
      (Code.unavailable = .unavailable → ∃ before charge payload answer err,
        (sampleRun 2 (.error "down")).1 = before ++ [charge, ⟨.shipOrder payload, answer⟩] ∧
          ChargeSucceeded charge ∧ readShipAnswer answer = .error err ∧
          Status.wrapf .unavailable "shipping error: %+v"
            (.wrapf "failed POST to shipping service: %+v" (.external "down")) =
            .wrapf .unavailable "shipping error: %+v" err) := by
  have hrun : Runs (placeOrder {} sampleRequest) (sampleRun 2 (.error "down")).1
      (sampleRun 2 (.error "down")).2 := runs_answered _ _
  rw [sampleRun_down] at hrun
  exact charged_failure_iff hrun

/-- The shipping service is down, and the order fails with its card charged. -/
theorem failed_order_charged :
    ¬ ∀ (cs : CheckoutService) (req : PlaceOrderRequest) (t : List CheckoutEvent)
      (status : Status), Runs (placeOrder cs req) t (.failed status) →
        ∀ e ∈ t, ¬ ChargeSucceeded e := by
  intro h
  have hrun : Runs (placeOrder {} sampleRequest) (sampleRun 2 (.error "down")).1
      (sampleRun 2 (.error "down")).2 := runs_answered _ _
  rw [sampleRun_down] at hrun
  obtain ⟨e, he, hcharge⟩ := charge_mem_sampleRun_down
  exact h _ _ _ _ hrun e he hcharge

end AstronomyShop
