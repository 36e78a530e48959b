import AstronomyShop.Checkout.PlaceOrder

/-!
# The runs of `PlaceOrder`

What one run of `PlaceOrder` can look like, as a trace of calls and replies together with an
outcome: `placeOrder_run` puts every run into one of the cases of `PlaceOrderRun` and
`ChargeRun`. All laws about the order of effects are read off these cases.

A run that gets past its preparation has a `Preparation`: the cart that was read, the product
and cost of every line, and the shipping cost.
-/

namespace AstronomyShop

open Interaction Wire

/-! ## Kinds of calls -/

/-- Calls made before the total is known. -/
def Call.IsPreparation : Call → Prop
  | newUUID | getCart _ | getProduct _ | convert _ _ | getQuote _ => True
  | _ => False

/-- Calls made after the order is shipped and the cart emptied. -/
def Call.IsAftermath : Call → Prop
  | sendOrderConfirmation _ | kafkaSend _ | intFlag _ | kafkaFlood _ _ => True
  | _ => False

/-! ## Pricing the lines -/

/-- A cart line with what the catalogue and the currency service answered for it. -/
structure PricedLine where
  item : CartItem
  product : Product
  cost : Money

def PricedLine.orderItem (l : PricedLine) : OrderItem := { item := l.item, cost := l.cost }

/-- The two calls that price a line. -/
def PricedLine.trace (userCurrency : String) (l : PricedLine) : List CheckoutEvent :=
  [⟨.getProduct l.item.productId, .ok l.product⟩,
    ⟨.convert l.product.priceUsd userCurrency, .ok l.cost⟩]

theorem convertCurrency_runs {source : Option Money} {toCurrency : String}
    {t : List CheckoutEvent} {r : Except GoError Money}
    (h : Runs (convertCurrency source toCurrency) t r) :
    (∃ price, t = [⟨.convert source toCurrency, .ok price⟩] ∧ r = .ok price) ∨
      ∃ err e, t = [⟨.convert source toCurrency, .error err⟩] ∧ r = .error e := by
  obtain ⟨reply, t', rfl, h₁⟩ := runs_perform_bind.mp h
  cases reply with
  | error err =>
    obtain ⟨rfl, rfl⟩ := runs_pure.mp h₁
    exact .inr ⟨err, _, rfl, rfl⟩
  | ok price =>
    obtain ⟨rfl, rfl⟩ := runs_pure.mp h₁
    exact .inl ⟨price, rfl, rfl⟩

/-- The loop over the cart lines only looks up and converts prices; when it gets through, it
has priced every line, in order. -/
theorem prepOrderItems_runs {items : List CartItem} {userCurrency : String}
    {t : List CheckoutEvent} {r : Except GoError (List OrderItem)}
    (h : Runs (prepOrderItems items userCurrency) t r) :
    (∀ e ∈ t, e.op.IsPreparation) ∧
      ∀ out, r = .ok out → ∃ lines : List PricedLine,
        items = lines.map PricedLine.item ∧ out = lines.map PricedLine.orderItem ∧
        t = lines.flatMap (PricedLine.trace userCurrency) := by
  induction items generalizing t r with
  | nil =>
    obtain ⟨rfl, rfl⟩ := runs_pure.mp h
    refine ⟨by simp, ?_⟩
    intro out hout
    cases hout
    exact ⟨[], rfl, rfl, rfl⟩
  | cons item items ih =>
    obtain ⟨reply, t₁, rfl, h₁⟩ := runs_perform_bind.mp h
    cases reply with
    | error err =>
      obtain ⟨rfl, rfl⟩ := runs_pure.mp h₁
      exact ⟨by simp [Call.IsPreparation], by rintro out ⟨⟩⟩
    | ok product =>
      obtain ⟨t₂, t₃, conv, rfl, hconv, h₂⟩ := runs_bind.mp h₁
      rcases convertCurrency_runs hconv with ⟨price, rfl, rfl⟩ | ⟨err, e, rfl, rfl⟩
      · obtain ⟨t₄, t₅, rest, rfl, hrest, h₃⟩ := runs_bind.mp h₂
        obtain ⟨hprep, hlines⟩ := ih hrest
        cases rest with
        | error err =>
          obtain ⟨rfl, rfl⟩ := runs_pure.mp h₃
          exact ⟨by simpa [Call.IsPreparation] using hprep, by rintro out ⟨⟩⟩
        | ok out =>
          obtain ⟨rfl, rfl⟩ := runs_pure.mp h₃
          refine ⟨by simpa [Call.IsPreparation] using hprep, ?_⟩
          intro out' hout'
          cases hout'
          obtain ⟨lines, rfl, rfl, rfl⟩ := hlines out rfl
          exact ⟨⟨item, product, price⟩ :: lines, rfl, rfl, by simp [PricedLine.trace]⟩
      · obtain ⟨rfl, rfl⟩ := runs_pure.mp h₂
        exact ⟨by simp [Call.IsPreparation], by rintro out ⟨⟩⟩

/-! ## The preparation -/

theorem getUserCart_runs {userID : String} {t : List CheckoutEvent}
    {r : Except GoError (List CartItem)} (h : Runs (getUserCart userID) t r) :
    (∃ cart, t = [⟨.getCart userID, .ok cart⟩] ∧ r = .ok cart.items) ∨
      ∃ err e, t = [⟨.getCart userID, .error err⟩] ∧ r = .error e := by
  obtain ⟨reply, t', rfl, h₁⟩ := runs_perform_bind.mp h
  cases reply with
  | error err =>
    obtain ⟨rfl, rfl⟩ := runs_pure.mp h₁
    exact .inr ⟨err, _, rfl, rfl⟩
  | ok cart =>
    obtain ⟨rfl, rfl⟩ := runs_pure.mp h₁
    exact .inl ⟨cart, rfl, rfl⟩

theorem quoteShipping_runs {address : Option Address} {items : List CartItem}
    {t : List CheckoutEvent} {r : Except GoError Money}
    (h : Runs (quoteShipping address items) t r) :
    ∃ answer, t = [⟨.getQuote (shippingPayload address items), answer⟩] ∧
      r = readQuoteAnswer answer := by
  obtain ⟨answer, t', rfl, h₁⟩ := runs_perform_bind.mp h
  obtain ⟨rfl, rfl⟩ := runs_pure.mp h₁
  exact ⟨answer, rfl, rfl⟩

/-- Everything a successful preparation has read. -/
structure Preparation (req : PlaceOrderRequest) where
  cart : Cart
  lines : List PricedLine
  lines_item : cart.items = lines.map PricedLine.item
  quoteAnswer : Except String Response
  shippingUSD : Money
  quote_read : readQuoteAnswer quoteAnswer = .ok shippingUSD
  shippingPrice : Money

namespace Preparation

variable {req : PlaceOrderRequest}

def orderItems (P : Preparation req) : List OrderItem := P.lines.map PricedLine.orderItem

def orderPrep (P : Preparation req) : OrderPrep where
  orderItems := P.orderItems
  cartItems := P.cart.items
  shippingCostLocalized := P.shippingPrice

def trace (P : Preparation req) : List CheckoutEvent :=
  ⟨.getCart req.userId, .ok P.cart⟩ :: P.lines.flatMap (PricedLine.trace req.userCurrency) ++
    [⟨.getQuote (shippingPayload req.address P.cart.items), P.quoteAnswer⟩,
      ⟨.convert (some P.shippingUSD) req.userCurrency, .ok P.shippingPrice⟩]

theorem isPreparation_of_mem_trace (P : Preparation req) :
    ∀ e ∈ P.trace, e.op.IsPreparation := by
  intro e he
  simp only [trace, PricedLine.trace, List.cons_append, List.mem_cons, List.mem_append,
    List.mem_flatMap, List.not_mem_nil, or_false] at he
  rcases he with rfl | ⟨l, -, rfl | rfl⟩ | rfl | rfl <;> trivial

end Preparation

/-- A preparation makes no other call, and when it succeeds it is a `Preparation`. -/
theorem prepare_runs {req : PlaceOrderRequest} {t : List CheckoutEvent}
    {r : Except GoError OrderPrep}
    (h : Runs (prepareOrderItemsAndShippingQuoteFromCart req.userId req.userCurrency
      req.address) t r) :
    (∀ e ∈ t, e.op.IsPreparation) ∧
      ∀ prep, r = .ok prep → ∃ P : Preparation req, t = P.trace ∧ prep = P.orderPrep := by
  obtain ⟨t₁, t₂, cart, rfl, hcart, h₁⟩ := runs_bind.mp h
  rcases getUserCart_runs hcart with ⟨cart, rfl, rfl⟩ | ⟨err, e, rfl, rfl⟩
  · obtain ⟨t₃, t₄, items, rfl, hitems, h₂⟩ := runs_bind.mp h₁
    obtain ⟨hprep, hlines⟩ := prepOrderItems_runs hitems
    cases items with
    | error err =>
      obtain ⟨rfl, rfl⟩ := runs_pure.mp h₂
      exact ⟨by simpa [Call.IsPreparation] using hprep, by rintro prep ⟨⟩⟩
    | ok orderItems =>
      obtain ⟨lines, hitem, rfl, rfl⟩ := hlines orderItems rfl
      obtain ⟨t₅, t₆, quote, rfl, hquote, h₃⟩ := runs_bind.mp h₂
      obtain ⟨answer, rfl, rfl⟩ := quoteShipping_runs hquote
      cases hread : readQuoteAnswer answer with
      | error err =>
        rw [hread] at h₃
        obtain ⟨rfl, rfl⟩ := runs_pure.mp h₃
        refine ⟨?_, by rintro prep ⟨⟩⟩
        simpa [Call.IsPreparation, or_imp, forall_and] using hprep
      | ok shippingUSD =>
        rw [hread] at h₃
        obtain ⟨t₇, t₈, conv, rfl, hconv, h₄⟩ := runs_bind.mp h₃
        rcases convertCurrency_runs hconv with ⟨price, rfl, rfl⟩ | ⟨err, e, rfl, rfl⟩
        · obtain ⟨rfl, rfl⟩ := runs_pure.mp h₄
          refine ⟨?_, ?_⟩
          · simpa [Call.IsPreparation, or_imp, forall_and] using hprep
          · intro prep hok
            cases hok
            exact ⟨⟨cart, lines, hitem, answer, shippingUSD, hread, price⟩,
              by simp [Preparation.trace], rfl⟩
        · obtain ⟨rfl, rfl⟩ := runs_pure.mp h₄
          refine ⟨?_, by rintro prep ⟨⟩⟩
          simpa [Call.IsPreparation, or_imp, forall_and] using hprep
  · obtain ⟨rfl, rfl⟩ := runs_pure.mp h₁
    exact ⟨by simp [Call.IsPreparation], by rintro prep ⟨⟩⟩

/-! ## Charge, shipment and completion -/

theorem chargeCard_runs {cs : CheckoutService} {amount : Money}
    {paymentInfo : Option CreditCardInfo} {t : List CheckoutEvent} {r : Except GoError String}
    (h : Runs (chargeCard cs amount paymentInfo) t r) :
    ∃ flag svcAddr, (∃ tx, t = [⟨.booleanFlag "paymentUnreachable", flag⟩,
        ⟨.charge svcAddr amount paymentInfo, .ok tx⟩] ∧ r = .ok tx) ∨
      ∃ err, t = [⟨.booleanFlag "paymentUnreachable", flag⟩,
        ⟨.charge svcAddr amount paymentInfo, .error err⟩] ∧
        r = .error (.wrapf "could not charge the card: %+v" (.external err)) := by
  obtain ⟨flag, t₁, rfl, h₁⟩ := runs_perform_bind.mp h
  obtain ⟨reply, t₂, rfl, h₂⟩ := runs_perform_bind.mp h₁
  refine ⟨flag, if flag then "badAddress:50051" else cs.paymentSvcAddr, ?_⟩
  cases reply with
  | error err =>
    obtain ⟨rfl, rfl⟩ := runs_pure.mp h₂
    exact .inr ⟨err, rfl, rfl⟩
  | ok tx =>
    obtain ⟨rfl, rfl⟩ := runs_pure.mp h₂
    exact .inl ⟨tx, rfl, rfl⟩

theorem shipOrder_runs {address : Option Address} {items : List CartItem}
    {t : List CheckoutEvent} {r : Except GoError String}
    (h : Runs (shipOrder address items) t r) :
    ∃ answer, t = [⟨.shipOrder (shippingPayload address items), answer⟩] ∧
      r = readShipAnswer answer := by
  obtain ⟨answer, t₁, rfl, h₁⟩ := runs_perform_bind.mp h
  obtain ⟨rfl, rfl⟩ := runs_pure.mp h₁
  exact ⟨answer, rfl, rfl⟩

theorem emptyUserCart_runs {userID : String} {t : List CheckoutEvent} {r : Except GoError Unit}
    (h : Runs (emptyUserCart userID) t r) : ∃ reply, t = [⟨.emptyCart userID, reply⟩] := by
  obtain ⟨reply, t₁, rfl, h₁⟩ := runs_perform_bind.mp h
  cases reply with
  | error err =>
    obtain ⟨rfl, -⟩ := runs_pure.mp h₁
    exact ⟨_, rfl⟩
  | ok _ =>
    obtain ⟨rfl, -⟩ := runs_pure.mp h₁
    exact ⟨_, rfl⟩

theorem sendOrderConfirmation_runs {email : String} {order : OrderResult}
    {t : List CheckoutEvent} {r : Except GoError Unit}
    (h : Runs (sendOrderConfirmation email order) t r) :
    ∃ answer, t = [⟨.sendOrderConfirmation (emailPayload email order), answer⟩] := by
  obtain ⟨answer, t₁, rfl, h₁⟩ := runs_perform_bind.mp h
  cases answer with
  | error err =>
    obtain ⟨rfl, -⟩ := runs_pure.mp h₁
    exact ⟨_, rfl⟩
  | ok resp =>
    dsimp only at h₁
    split at h₁
    · obtain ⟨rfl, -⟩ := runs_pure.mp h₁
      exact ⟨_, rfl⟩
    · obtain ⟨rfl, -⟩ := runs_pure.mp h₁
      exact ⟨_, rfl⟩

theorem sendToPostProcessor_runs {result : OrderResult} {t : List CheckoutEvent} {r : Unit}
    (h : Runs (sendToPostProcessor result) t r) : ∀ e ∈ t, e.op.IsAftermath := by
  obtain ⟨reply, t₁, rfl, h₁⟩ := runs_perform_bind.mp h
  have hflag : ∀ t₁, Runs (call (.intFlag "kafkaQueueProblems") >>= fun ffValue =>
      if 0 < ffValue then call (.kafkaFlood result ffValue) else pure ()) t₁ r →
      ∀ e ∈ t₁, e.op.IsAftermath := by
    intro t₁ h₁
    obtain ⟨ffValue, t₂, rfl, h₂⟩ := runs_perform_bind.mp h₁
    split at h₂
    · obtain ⟨_, t₃, rfl, h₃⟩ := runs_call.mp h₂
      obtain ⟨rfl, -⟩ := runs_pure.mp h₃
      simp [Call.IsAftermath]
    · obtain ⟨rfl, -⟩ := runs_pure.mp h₂
      simp [Call.IsAftermath]
  rw [List.forall_mem_cons]
  refine ⟨trivial, ?_⟩
  cases reply with
  | cancelledSending =>
    obtain ⟨rfl, -⟩ := runs_pure.mp h₁
    simp
  | success offset => exact hflag t₁ h₁
  | error err => exact hflag t₁ h₁
  | cancelledWaiting => exact hflag t₁ h₁

/-- The order that a prepared and shipped request is answered with. -/
def OrderPrep.orderResult (prep : OrderPrep) (req : PlaceOrderRequest)
    (orderID shippingTrackingID : String) : OrderResult where
  orderId := orderID
  shippingTrackingId := shippingTrackingID
  shippingCost := prep.shippingCostLocalized
  shippingAddress := req.address
  items := prep.orderItems

/-- How `PlaceOrder` ends once the order is shipped: with the order, unless the Kafka producer
is missing. -/
def Completed (cs : CheckoutService) (order : OrderResult) (out : Outcome) : Prop :=
  out = .returned order ∨
    cs.kafkaBrokerSvcAddr ≠ "" ∧ cs.kafkaProducerCreated = false ∧
      out = .panicked .nilKafkaProducer

/-- After the shipment nothing is charged or shipped again, and the order is returned whatever
the calls answer. -/
theorem completeOrder_runs {cs : CheckoutService} {req : PlaceOrderRequest}
    {orderID shippingTrackingID : String} {prep : OrderPrep} {t : List CheckoutEvent}
    {out : Outcome} (h : Runs (completeOrder cs req orderID prep shippingTrackingID) t out) :
    (∃ reply rest, t = ⟨.emptyCart req.userId, reply⟩ :: rest ∧ ∀ e ∈ rest, e.op.IsAftermath) ∧
      Completed cs (prep.orderResult req orderID shippingTrackingID) out := by
  obtain ⟨t₁, t₂, _, rfl, hempty, h₁⟩ := runs_bind.mp h
  obtain ⟨reply, rfl⟩ := emptyUserCart_runs hempty
  obtain ⟨t₃, t₄, _, rfl, hmail, h₂⟩ := runs_bind.mp h₁
  obtain ⟨answer, rfl⟩ := sendOrderConfirmation_runs hmail
  suffices hsuff : (∀ e ∈ t₄, e.op.IsAftermath) ∧
      Completed cs (prep.orderResult req orderID shippingTrackingID) out by
    refine ⟨⟨reply, _, rfl, ?_⟩, hsuff.2⟩
    exact List.forall_mem_cons.mpr ⟨trivial, hsuff.1⟩
  split at h₂
  · rename_i hbroker
    split at h₂
    · obtain ⟨t₅, t₆, _, rfl, hsend, h₃⟩ := runs_bind.mp h₂
      obtain ⟨rfl, rfl⟩ := runs_pure.mp h₃
      refine ⟨?_, .inl rfl⟩
      rw [List.append_nil]
      exact sendToPostProcessor_runs hsend
    · rename_i hcreated
      obtain ⟨rfl, rfl⟩ := runs_pure.mp h₂
      exact ⟨by simp, .inr ⟨hbroker, by simpa using hcreated, rfl⟩⟩
  · obtain ⟨rfl, rfl⟩ := runs_pure.mp h₂
    exact ⟨by simp, .inl rfl⟩

/-! ## All runs -/

/-- The shapes of a run of `PlaceOrder` from a prepared order on. -/
inductive ChargeRun (cs : CheckoutService) (req : PlaceOrderRequest) (orderID : String)
    (prep : OrderPrep) : List CheckoutEvent → Outcome → Prop
  /-- A `Must` of the total panicked. -/
  | unpayable {err : Money.Error}
      (h : orderTotal req.userCurrency prep.shippingCostLocalized prep.orderItems = .error err) :
      ChargeRun cs req orderID prep [] (.panicked (.money err))
  /-- The card was not charged. -/
  | uncharged {total : Money}
      (h : orderTotal req.userCurrency prep.shippingCostLocalized prep.orderItems = .ok total)
      (flag : Bool) (svcAddr err : String) :
      ChargeRun cs req orderID prep
        [⟨.booleanFlag "paymentUnreachable", flag⟩,
          ⟨.charge svcAddr total req.creditCard, .error err⟩]
        (.failed (.wrapf .internal "failed to charge card: %+v"
          (.wrapf "could not charge the card: %+v" (.external err))))
  /-- The card was charged, and the shipment failed. -/
  | unshipped {total : Money}
      (h : orderTotal req.userCurrency prep.shippingCostLocalized prep.orderItems = .ok total)
      (flag : Bool) (svcAddr tx : String) {answer : Except String Response} {err : GoError}
      (hread : readShipAnswer answer = .error err) :
      ChargeRun cs req orderID prep
        [⟨.booleanFlag "paymentUnreachable", flag⟩,
          ⟨.charge svcAddr total req.creditCard, .ok tx⟩,
          ⟨.shipOrder (shippingPayload req.address prep.cartItems), answer⟩]
        (.failed (.wrapf .unavailable "shipping error: %+v" err))
  /-- The card was charged and the order shipped. -/
  | shipped {total : Money}
      (h : orderTotal req.userCurrency prep.shippingCostLocalized prep.orderItems = .ok total)
      (flag : Bool) (svcAddr tx : String) {answer : Except String Response}
      {shippingTrackingID : String} (hread : readShipAnswer answer = .ok shippingTrackingID)
      (reply : Except String Unit) {rest : List CheckoutEvent}
      (hrest : ∀ e ∈ rest, e.op.IsAftermath) {out : Outcome}
      (hout : Completed cs (prep.orderResult req orderID shippingTrackingID) out) :
      ChargeRun cs req orderID prep
        (⟨.booleanFlag "paymentUnreachable", flag⟩ ::
          ⟨.charge svcAddr total req.creditCard, .ok tx⟩ ::
          ⟨.shipOrder (shippingPayload req.address prep.cartItems), answer⟩ ::
          ⟨.emptyCart req.userId, reply⟩ :: rest) out

theorem chargeAndShip_run {cs : CheckoutService} {req : PlaceOrderRequest} {orderID : String}
    {prep : OrderPrep} {t : List CheckoutEvent} {out : Outcome}
    (h : Runs (chargeAndShip cs req orderID prep) t out) :
    ChargeRun cs req orderID prep t out := by
  unfold chargeAndShip at h
  cases htotal : orderTotal req.userCurrency prep.shippingCostLocalized prep.orderItems with
  | error err =>
    rw [htotal] at h
    obtain ⟨rfl, rfl⟩ := runs_pure.mp h
    exact .unpayable htotal
  | ok total =>
    rw [htotal] at h
    obtain ⟨t₁, t₂, _, rfl, hcharge, h₁⟩ := runs_bind.mp h
    obtain ⟨flag, svcAddr, ⟨tx, rfl, rfl⟩ | ⟨err, rfl, rfl⟩⟩ := chargeCard_runs hcharge
    · obtain ⟨t₃, t₄, _, rfl, hship, h₂⟩ := runs_bind.mp h₁
      obtain ⟨answer, rfl, rfl⟩ := shipOrder_runs hship
      cases hread : readShipAnswer answer with
      | error err =>
        rw [hread] at h₂
        obtain ⟨rfl, rfl⟩ := runs_pure.mp h₂
        exact .unshipped htotal flag svcAddr tx hread
      | ok shippingTrackingID =>
        rw [hread] at h₂
        obtain ⟨⟨reply, rest, rfl, hrest⟩, hout⟩ := completeOrder_runs h₂
        exact .shipped htotal flag svcAddr tx hread reply hrest hout
    · obtain ⟨rfl, rfl⟩ := runs_pure.mp h₁
      exact .uncharged htotal flag svcAddr err

/-- The shapes of a run of `PlaceOrder`: it fails before the total is known, or it goes on with
a prepared order. -/
inductive PlaceOrderRun (cs : CheckoutService) (req : PlaceOrderRequest) :
    List CheckoutEvent → Outcome → Prop
  | unprepared {t : List CheckoutEvent} {status : Status} (h : ∀ e ∈ t, e.op.IsPreparation)
      (hcode : status.code = .internal) : PlaceOrderRun cs req t (.failed status)
  | prepared (orderID : String) (P : Preparation req) {rest : List CheckoutEvent} {out : Outcome}
      (h : ChargeRun cs req orderID P.orderPrep rest out) :
      PlaceOrderRun cs req (⟨.newUUID, .ok orderID⟩ :: P.trace ++ rest) out

/-- **Every run of `PlaceOrder` has one of these shapes.** -/
theorem placeOrder_run {cs : CheckoutService} {req : PlaceOrderRequest}
    {t : List CheckoutEvent} {out : Outcome} (h : Runs (placeOrder cs req) t out) :
    PlaceOrderRun cs req t out := by
  obtain ⟨reply, t₁, rfl, h₁⟩ := runs_perform_bind.mp h
  cases reply with
  | error err =>
    obtain ⟨rfl, rfl⟩ := runs_pure.mp h₁
    exact .unprepared (by simp [Call.IsPreparation]) rfl
  | ok orderID =>
    obtain ⟨t₂, t₃, r, rfl, hprepare, h₂⟩ := runs_bind.mp h₁
    obtain ⟨hprep, hP⟩ := prepare_runs hprepare
    cases r with
    | error err =>
      obtain ⟨rfl, rfl⟩ := runs_pure.mp h₂
      exact .unprepared (by simpa [Call.IsPreparation] using hprep) rfl
    | ok prep =>
      obtain ⟨P, rfl, rfl⟩ := hP prep rfl
      exact .prepared orderID P (chargeAndShip_run h₂)

end AstronomyShop
