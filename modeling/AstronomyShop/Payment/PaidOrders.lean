import AstronomyShop.Checkout.Charging
import AstronomyShop.Payment.Charge

/-!
# Paid orders

`PlaceOrder` with the payment service behind its charge: whatever the other services answer,
nothing is shipped, and no cart is emptied, no email sent, no message published and no order
returned, before the payment service has accepted the card of the request (`orders_paid`).
-/

namespace AstronomyShop

open Interaction PaymentService

/-- Where a charge is sent to. -/
def paymentAddr (cs : CheckoutService) (paymentUnreachable : Bool) : String :=
  if paymentUnreachable then "badAddress:50051" else cs.paymentSvcAddr

/-- The card of the request was charged. -/
def CardCharged (cs : CheckoutService) (req : PlaceOrderRequest) (t : List CheckoutEvent) : Prop :=
  ∃ flag amount tx, [⟨.booleanFlag "paymentUnreachable", flag⟩,
    ⟨.charge (paymentAddr cs flag) amount req.creditCard, .ok tx⟩] <:+: t

/-- A call that needs a paid order. -/
def Call.NeedsPayment (o : Call) : Prop := o.isShipOrder = true ∨ o.isFollowUp = true

variable {cs : CheckoutService} {req : PlaceOrderRequest} {t : List CheckoutEvent}

theorem Call.IsPreparation.not_needsPayment {o : Call} (h : o.IsPreparation) :
    ¬ o.NeedsPayment := by
  obtain ⟨-, hship, hfollow⟩ := h.not_effect
  simp [Call.NeedsPayment, hship, hfollow]

theorem chargeCard_addr {amount : Money} {paymentInfo : Option CreditCardInfo}
    {r : Except GoError String} (h : Runs (AstronomyShop.chargeCard cs amount paymentInfo) t r) :
    ∃ flag reply, t = [⟨.booleanFlag "paymentUnreachable", flag⟩,
        ⟨.charge (paymentAddr cs flag) amount paymentInfo, reply⟩] ∧
      r = reply.mapError fun err => .wrapf "could not charge the card: %+v" (.external err) := by
  obtain ⟨flag, t₁, rfl, h₁⟩ := runs_perform_bind.mp h
  obtain ⟨reply, t₂, rfl, h₂⟩ := runs_perform_bind.mp h₁
  cases reply with
  | error err =>
    obtain ⟨rfl, rfl⟩ := runs_pure.mp h₂
    exact ⟨flag, .error err, rfl, rfl⟩
  | ok tx =>
    obtain ⟨rfl, rfl⟩ := runs_pure.mp h₂
    exact ⟨flag, .ok tx, rfl, rfl⟩

/-- Without a charge nothing happens that needs one. -/
def Unpaid (t : List CheckoutEvent) (out : Outcome) : Prop :=
  (∀ order, out ≠ .returned order) ∧ ∀ e ∈ t, ¬ e.op.NeedsPayment

theorem chargeAndShip_paid {orderID : String} {prep : OrderPrep} {out : Outcome}
    (h : Runs (chargeAndShip cs req orderID prep) t out) :
    CardCharged cs req t ∨ Unpaid t out := by
  unfold chargeAndShip at h
  split at h
  · obtain ⟨rfl, rfl⟩ := runs_pure.mp h
    exact .inr ⟨nofun, by simp⟩
  · rename_i total _
    obtain ⟨t₁, t₂, r, rfl, hcharge, h₁⟩ := runs_bind.mp h
    obtain ⟨flag, reply, rfl, rfl⟩ := chargeCard_addr hcharge
    cases reply with
    | ok tx => exact .inl ⟨flag, total, tx, List.infix_append' [] _ t₂⟩
    | error err =>
      obtain ⟨rfl, rfl⟩ := runs_pure.mp h₁
      exact .inr ⟨nofun, by simp [Call.NeedsPayment, Call.isShipOrder, Call.isFollowUp]⟩

theorem placeOrder_paid {out : Outcome} (h : Runs (placeOrder cs req) t out) :
    CardCharged cs req t ∨ Unpaid t out := by
  obtain ⟨reply, t₁, rfl, h₁⟩ := runs_perform_bind.mp h
  have huuid : ¬ (Call.newUUID).NeedsPayment :=
    Call.IsPreparation.not_needsPayment trivial
  cases reply with
  | error err =>
    obtain ⟨rfl, rfl⟩ := runs_pure.mp h₁
    exact .inr ⟨nofun, List.forall_mem_singleton.mpr huuid⟩
  | ok orderID =>
    obtain ⟨t₂, t₃, r, rfl, hprepare, h₂⟩ := runs_bind.mp h₁
    have hprep : ∀ e ∈ t₂, ¬ e.op.NeedsPayment := fun e he =>
      ((prepare_runs hprepare).1 e he).not_needsPayment
    cases r with
    | error err =>
      obtain ⟨rfl, rfl⟩ := runs_pure.mp h₂
      rw [List.append_nil]
      exact .inr ⟨nofun, List.forall_mem_cons.mpr ⟨huuid, hprep⟩⟩
    | ok prep =>
      rcases chargeAndShip_paid h₂ with ⟨flag, amount, tx, hinfix⟩ | ⟨hout, hnone⟩
      · exact .inl ⟨flag, amount, tx, hinfix.trans
          ((List.suffix_append t₂ t₃).trans (List.suffix_cons _ _)).isInfix⟩
      · exact .inr ⟨hout,
          List.forall_mem_cons.mpr ⟨huuid, List.forall_mem_append.mpr ⟨hprep, hnone⟩⟩⟩

/-- Charges are accepted by the payment service only, at its own address. -/
def ByPaymentService (cs : CheckoutService) (cardDetails : String → CardDetails)
    (t : List CheckoutEvent) : Prop :=
  ∀ svcAddr amount creditCard tx, ⟨.charge svcAddr amount creditCard, .ok tx⟩ ∈ t →
    svcAddr = cs.paymentSvcAddr ∧ ∃ pt,
      Runs (chargeServiceHandler cardDetails ⟨some amount, creditCard⟩) pt (.ok tx)

/-- **Orders are paid.** In any run of `PlaceOrder` that ships something, does anything that follows
a shipment, or returns an order, the payment service can be reached and has accepted the card of the
request while `paymentFailure` spared it; the card is a visa or mastercard with a correct number,
and it has not expired, unless its month or its year is zero or the clock of the payment service
goes back while it looks. -/
theorem orders_paid (cs : CheckoutService) (cardDetails : String → CardDetails)
    (req : PlaceOrderRequest) (t : List CheckoutEvent) (out : Outcome)
    (h : Runs (placeOrder cs req) t out) (hpayment : ByPaymentService cs cardDetails t)
    (haddr : cs.paymentSvcAddr ≠ "badAddress:50051")
    (hpaid : (∃ order, out = .returned order) ∨ ∃ e ∈ t, e.op.NeedsPayment) :
    ⟨.booleanFlag "paymentUnreachable", false⟩ ∈ t ∧ ∃ amount tx pt card,
      ⟨.charge cs.paymentSvcAddr amount req.creditCard, .ok tx⟩ ∈ t ∧
      Runs (chargeServiceHandler cardDetails ⟨some amount, req.creditCard⟩) pt (.ok tx) ∧
      Undisturbed pt ∧ req.creditCard = some card ∧ Processed cardDetails card ∧
        (Forward pt → ∃ today ∈ readings pt, Dated card → today.index ≤ lastMonth card) := by
  rcases placeOrder_paid h with ⟨flag, amount, tx, hinfix⟩ | ⟨hout, hnone⟩
  · have hflag : ⟨.booleanFlag "paymentUnreachable", flag⟩ ∈ t := hinfix.subset (by simp)
    have hcharge : ⟨.charge (paymentAddr cs flag) amount req.creditCard, .ok tx⟩ ∈ t :=
      hinfix.subset (by simp)
    obtain ⟨hsame, pt, hrun⟩ := hpayment _ _ _ _ hcharge
    have hoff : flag = false := by
      cases flag with
      | false => rfl
      | true => exact absurd hsame.symm haddr
    subst hoff
    obtain ⟨card, hcard, hprocessed, hunexpired⟩ := unexpired_of_accepted hrun
    exact ⟨hflag, amount, tx, pt, card, hcharge, hrun, ((accepted_iff hrun).mp ⟨tx, rfl⟩).1, hcard,
      hprocessed, hunexpired⟩
  · rcases hpaid with ⟨order, hreturned⟩ | ⟨e, he, hneeds⟩
    · exact absurd hreturned (hout order)
    · exact absurd hneeds (hnone e he)

/-- The sample order, with a card. -/
def cardRun : List CheckoutEvent × Outcome :=
  (placeOrder { paymentSvcAddr := "payment:8080" }
    { sampleRequest with creditCard := some sampleCard }).answered
      (AstronomyShop.sampleReply 2 (.ok ⟨200, .json (.obj [("tracking_id", .str "t1")])⟩))

/-- The charge of the sample order, or no charge. -/
def chargesSample (e : CheckoutEvent) : Bool :=
  match e.op with
  | .charge svcAddr amount creditCard =>
    svcAddr = "payment:8080" && amount = ⟨"USD", 26, 0⟩ && creditCard = some sampleCard
  | _ => true

theorem byPaymentService_cardRun :
    ByPaymentService { paymentSvcAddr := "payment:8080" } onlyVisa cardRun.1 := by
  intro svcAddr amount creditCard tx he
  have hall : cardRun.1.all chargesSample = true := by decide +kernel
  have hcharge := List.all_eq_true.mp hall _ he
  obtain ⟨⟨rfl, rfl⟩, rfl⟩ :
      (svcAddr = "payment:8080" ∧ amount = ⟨"USD", 26, 0⟩) ∧ creditCard = some sampleCard := by
    simpa [chargesSample] using hcharge
  have hreply : Except.ok tx = Except.ok "tx1" := reply_of_mem_answered he
  obtain rfl := Except.ok.inj hreply
  exact ⟨rfl, sampleCharge.1, runs_sampleCharge⟩

theorem shipped_cardRun : ∃ e ∈ cardRun.1, e.op.NeedsPayment := by
  have hany : (cardRun.1.any fun e => e.op.isShipOrder) = true := by decide +kernel
  obtain ⟨e, he, hship⟩ := List.any_eq_true.mp hany
  exact ⟨e, he, .inl hship⟩

/-- The card of an order that is shipped has been processed. -/
theorem orders_paid_bulbs : ∃ card, some sampleCard = some card ∧ Processed onlyVisa card := by
  obtain ⟨-, amount, tx, pt, card, -, -, -, hcard, hprocessed, -⟩ :=
    orders_paid { paymentSvcAddr := "payment:8080" } onlyVisa
      { sampleRequest with creditCard := some sampleCard } cardRun.1 cardRun.2
      (runs_answered _ _) byPaymentService_cardRun (by decide) (.inr shipped_cardRun)
  exact ⟨card, hcard, hprocessed⟩

end AstronomyShop
