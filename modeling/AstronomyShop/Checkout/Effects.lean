import AstronomyShop.Checkout.Charging

/-!
# The order of effects

`OrderlyEffects` collects what holds of the trace of every run of `PlaceOrder`, wherever calls
fail: the card is charged at most once and after everything is priced, ship-order needs the
charge, and what follows a shipment needs the shipment. An order is returned exactly when
charge and shipment succeeded.

Each law is shown for the part of a run from the prepared order on (`ChargeRun`); the calls
before are preparations and have none of the effects.
-/

namespace AstronomyShop

open Interaction

/-- Every cart line with the item of the order at the same position: the item is the line,
and its cost is what the price of the product with its id was converted to. -/
def PairedWithCosts (userCurrency : String) (t : List CheckoutEvent) :
    List CartItem → List OrderItem → Prop :=
  List.Forall₂ fun item it => it.item = item ∧ ∃ product : Product,
    [⟨.getProduct item.productId, .ok product⟩,
      ⟨.convert product.priceUsd userCurrency, .ok it.cost⟩] <:+: t

/-- The laws about the trace `t` and the outcome `out` of one run. -/
structure OrderlyEffects (req : PlaceOrderRequest) (t : List CheckoutEvent) (out : Outcome) :
    Prop where
  charge_once : t.countP (fun e => e.op.isCharge) ≤ 1
  charge_priced : ∀ pre e post, t = pre ++ e :: post → e.op.isCharge = true →
    ∃ P : Preparation req, P.trace <:+: pre
  shipOrder_charged : Precedes ChargeSucceeded (fun e => e.op.isShipOrder = true) t
  followUp_shipped : Precedes ShipSucceeded (fun e => e.op.isFollowUp = true) t
  returned_iff : (∃ order, out = .returned order) ↔
    (∃ e ∈ t, ChargeSucceeded e) ∧ ∃ e ∈ t, ShipSucceeded e
  paired : ∀ order, out = .returned order →
    ∃ cart, CartRead req t cart ∧ PairedWithCosts req.userCurrency t cart.items order.items

/-! ## The part from the prepared order on -/

namespace ChargeRun

variable {cs : CheckoutService} {req : PlaceOrderRequest} {orderID : String} {prep : OrderPrep}
  {t : List CheckoutEvent} {out : Outcome}

theorem charge_once (h : ChargeRun cs req orderID prep t out) :
    t.countP (fun e => e.op.isCharge) ≤ 1 := by
  cases h with
  | unpayable _ => simp
  | uncharged _ _ _ _ => simp [Call.isCharge]
  | unshipped _ _ _ _ _ => simp [Call.isCharge]
  | shipped _ _ _ _ _ _ hrest _ =>
    rename_i rest _
    have hnone : rest.countP (fun e => e.op.isCharge) = 0 :=
      List.countP_eq_zero.mpr fun e he => by simp [(hrest e he).not_effect.1]
    rw [List.countP_cons, List.countP_cons, List.countP_cons, List.countP_cons, hnone]
    simp [Call.isCharge]

theorem shipOrder_charged (h : ChargeRun cs req orderID prep t out) :
    Precedes ChargeSucceeded (fun e => e.op.isShipOrder = true) t := by
  cases h with
  | unpayable _ => exact precedes_of_forall_not (by simp)
  | uncharged _ _ _ _ => exact precedes_of_forall_not (by simp [Call.isShipOrder])
  | unshipped _ flag svcAddr tx _ =>
    refine precedes_cons (by simp [Call.isShipOrder]) (.inl ?_)
    exact precedes_cons (by simp [Call.isShipOrder]) (.inr ⟨svcAddr, _, _, tx, rfl⟩)
  | shipped _ flag svcAddr tx _ _ _ _ =>
    refine precedes_cons (by simp [Call.isShipOrder]) (.inl ?_)
    exact precedes_cons (by simp [Call.isShipOrder]) (.inr ⟨svcAddr, _, _, tx, rfl⟩)

theorem followUp_shipped (h : ChargeRun cs req orderID prep t out) :
    Precedes ShipSucceeded (fun e => e.op.isFollowUp = true) t := by
  cases h with
  | unpayable _ => exact precedes_of_forall_not (by simp)
  | uncharged _ _ _ _ => exact precedes_of_forall_not (by simp [Call.isFollowUp])
  | unshipped _ _ _ _ _ => exact precedes_of_forall_not (by simp [Call.isFollowUp])
  | shipped _ _ _ _ hread _ _ _ =>
    refine precedes_cons (by simp [Call.isFollowUp]) (.inl ?_)
    refine precedes_cons (by simp [Call.isFollowUp]) (.inl ?_)
    exact precedes_cons (by simp [Call.isFollowUp])
      (.inr ⟨_, _, _, rfl, hread, readShipAnswer_ne_empty hread⟩)

/-- With a Kafka producer, the order is returned exactly when charge and shipment succeeded. -/
theorem returned_iff (h : ChargeRun cs req orderID prep t out)
    (hkafka : cs.kafkaBrokerSvcAddr ≠ "" → cs.kafkaProducerCreated = true) :
    (∃ order, out = .returned order) ↔
      (∃ e ∈ t, ChargeSucceeded e) ∧ ∃ e ∈ t, ShipSucceeded e := by
  cases h with
  | unpayable _ => simp
  | uncharged _ _ _ _ =>
    simp only [reduceCtorEq, exists_false, false_iff, not_and]
    rintro - ⟨e, he, hship⟩
    have hop := isShipOrder_of_shipSucceeded hship
    simp only [List.mem_cons, List.not_mem_nil, or_false] at he
    rcases he with rfl | rfl <;> cases hop
  | unshipped _ _ _ _ hread =>
    simp only [reduceCtorEq, exists_false, false_iff, not_and]
    rintro - ⟨e, he, payload, answer, trackingID, rfl, hread', -⟩
    simp only [List.mem_cons, List.not_mem_nil, or_false, Event.mk.injEq, reduceCtorEq,
      false_and, false_or, Call.shipOrder.injEq] at he
    obtain rfl := eq_of_heq he.2
    rw [hread] at hread'
    cases hread'
  | shipped _ flag svcAddr tx hread _ _ hout =>
    have hreturned : ∃ order, out = .returned order := by
      rcases hout with hout | ⟨hbroker, hcreated, -⟩
      · exact ⟨_, hout⟩
      · exact absurd (hkafka hbroker) (by simp [hcreated])
    refine iff_of_true hreturned ⟨⟨_, List.mem_cons_of_mem _ List.mem_cons_self,
      svcAddr, _, _, tx, rfl⟩, ?_⟩
    exact ⟨_, List.mem_cons_of_mem _ (List.mem_cons_of_mem _ List.mem_cons_self),
      _, _, _, rfl, hread, readShipAnswer_ne_empty hread⟩

theorem items_of_returned {order : OrderResult} (h : ChargeRun cs req orderID prep t out)
    (hout : out = .returned order) : order.items = prep.orderItems := by
  cases h with
  | unpayable _ => cases hout
  | uncharged _ _ _ _ => cases hout
  | unshipped _ _ _ _ _ => cases hout
  | shipped _ _ _ _ _ _ _ hcompleted =>
    rcases hcompleted with hcompleted | ⟨-, -, hcompleted⟩
    · rw [hcompleted] at hout
      cases hout
      rfl
    · rw [hcompleted] at hout
      cases hout

end ChargeRun

/-! ## The whole run -/

/-- The two calls that price a line stand side by side in the trace of the preparation. -/
theorem Preparation.line_trace_infix {req : PlaceOrderRequest} (P : Preparation req)
    {l : PricedLine} (hl : l ∈ P.lines) : l.trace req.userCurrency <:+: P.trace := by
  obtain ⟨before, after, hsplit⟩ := List.append_of_mem hl
  have hlines : l.trace req.userCurrency <:+:
      P.lines.flatMap (PricedLine.trace req.userCurrency) := by
    rw [hsplit, List.flatMap_append, List.flatMap_cons]
    exact ⟨_, _, List.append_assoc _ _ _⟩
  exact (hlines.trans (List.suffix_cons _ _).isInfix).trans (List.prefix_append _ _).isInfix

theorem Preparation.paired {req : PlaceOrderRequest} (P : Preparation req)
    {t : List CheckoutEvent} (ht : P.trace <:+: t) :
    PairedWithCosts req.userCurrency t P.cart.items P.orderItems := by
  unfold PairedWithCosts Preparation.orderItems
  rw [P.lines_item, List.forall₂_map_left_iff, List.forall₂_map_right_iff]
  exact List.forall₂_same.mpr fun l hl => ⟨rfl, l.product, (P.line_trace_infix hl).trans ht⟩

theorem not_mem_effects {t : List CheckoutEvent} (h : ∀ e ∈ t, e.op.IsPreparation) :
    (¬ ∃ e ∈ t, ChargeSucceeded e) ∧ ¬ ∃ e ∈ t, ShipSucceeded e := by
  refine ⟨?_, ?_⟩
  · rintro ⟨e, he, hcharge⟩
    exact absurd (isCharge_of_chargeSucceeded hcharge) (by simp [(h e he).not_effect.1])
  · rintro ⟨e, he, hship⟩
    exact absurd (isShipOrder_of_shipSucceeded hship) (by simp [(h e he).not_effect.2.1])

/-- No run of `PlaceOrder` calls `Charge` twice. -/
theorem placeOrder_charge_once {cs : CheckoutService} {req : PlaceOrderRequest}
    {t : List CheckoutEvent} {out : Outcome} (h : Runs (placeOrder cs req) t out) :
    t.countP (fun e => e.op.isCharge) ≤ 1 := by
  have hnone : ∀ t : List CheckoutEvent, (∀ e ∈ t, e.op.IsPreparation) →
      t.countP (fun e => e.op.isCharge) = 0 :=
    fun t ht => List.countP_eq_zero.mpr fun e he => by simp [(ht e he).not_effect.1]
  cases placeOrder_run h with
  | unprepared hprep hcode =>
    rw [hnone t hprep]
    exact Nat.zero_le 1
  | prepared orderID P hrun =>
    rw [List.countP_append, hnone _ (P.isPreparation_of_mem orderID), Nat.zero_add]
    exact hrun.charge_once

/-- **The effects of every run of `PlaceOrder` are in order**, wherever calls fail, when a
configured Kafka producer exists. -/
theorem placeOrder_orderly {cs : CheckoutService} {req : PlaceOrderRequest}
    {t : List CheckoutEvent} {out : Outcome} (h : Runs (placeOrder cs req) t out)
    (hkafka : cs.kafkaBrokerSvcAddr ≠ "" → cs.kafkaProducerCreated = true) :
    OrderlyEffects req t out := by
  cases placeOrder_run h with
  | unprepared hprep hcode =>
    have hcharge : ∀ e ∈ t, ¬ e.op.isCharge = true :=
      fun e he => by simp [(hprep e he).not_effect.1]
    obtain ⟨hnocharge, -⟩ := not_mem_effects hprep
    refine ⟨?_, ?_, ?_, ?_, ?_, ?_⟩
    · exact placeOrder_charge_once h
    · rintro pre e post rfl he
      exact absurd he (hcharge e (by simp))
    · exact precedes_of_forall_not fun e he => by simp [(hprep e he).not_effect.2.1]
    · exact precedes_of_forall_not fun e he => by simp [(hprep e he).not_effect.2.2]
    · exact iff_of_false (by rintro ⟨order, ⟨⟩⟩) fun hboth => hnocharge hboth.1
    · rintro order ⟨⟩
  | prepared orderID P hrun =>
    rename_i rest
    have hprep := P.isPreparation_of_mem orderID
    have hcharge : ∀ e ∈ (⟨.newUUID, .ok orderID⟩ :: P.trace : List CheckoutEvent),
        ¬ e.op.isCharge = true := fun e he => by simp [(hprep e he).not_effect.1]
    obtain ⟨hnocharge, hnoship⟩ := not_mem_effects hprep
    have htrace : P.trace <:+: ⟨.newUUID, .ok orderID⟩ :: P.trace := (List.suffix_cons _ _).isInfix
    refine ⟨?_, ?_, ?_, ?_, ?_, ?_⟩
    · exact placeOrder_charge_once h
    · intro pre e post heq he
      obtain ⟨mid, rfl, -⟩ := split_append_right heq fun hmem => hcharge e hmem he
      exact ⟨P, htrace.trans (List.prefix_append _ _).isInfix⟩
    · exact precedes_append (fun e he => by simp [(hprep e he).not_effect.2.1])
        (.inl hrun.shipOrder_charged)
    · exact precedes_append (fun e he => by simp [(hprep e he).not_effect.2.2])
        (.inl hrun.followUp_shipped)
    · rw [hrun.returned_iff hkafka]
      simp only [List.mem_append, or_and_right, exists_or, hnocharge, hnoship, false_or]
    · intro order hout
      refine ⟨P.cart, P.cartRead orderID rest, ?_⟩
      rw [hrun.items_of_returned hout]
      exact P.paired (htrace.trans (List.prefix_append _ _).isInfix)

/-- The sample order, shipped. -/
def shippedRun : List CheckoutEvent × Outcome :=
  sampleRun 2 (.ok ⟨200, .json (.obj [("tracking_id", .str "t1")])⟩)

theorem charged_shippedRun : ∃ e ∈ shippedRun.1, ChargeSucceeded e := by
  have hany : (shippedRun.1.any fun e => e.op.isCharge) = true := by decide +kernel
  obtain ⟨e, he, hcharge⟩ := List.any_eq_true.mp hany
  exact ⟨e, he, chargeSucceeded_of_mem_sampleRun he hcharge⟩

theorem shipped_shippedRun : ∃ e ∈ shippedRun.1, ShipSucceeded e := by
  have hany : (shippedRun.1.any fun e => e.op.isShipOrder) = true := by decide +kernel
  obtain ⟨⟨op, reply⟩, he, hship⟩ := List.any_eq_true.mp hany
  have hreply := reply_of_mem_answered he
  cases op with
  | shipOrder payload =>
    obtain rfl : reply = .ok ⟨200, .json (.obj [("tracking_id", .str "t1")])⟩ := hreply
    exact ⟨_, he, payload, _, "t1", rfl, by decide +kernel, by decide⟩
  | _ => cases hship

/-- It is charged, shipped and returned, in this order. -/
theorem placeOrder_orderly_shipped :
    Runs (placeOrder {} sampleRequest) shippedRun.1 shippedRun.2 ∧
      (∃ e ∈ shippedRun.1, ChargeSucceeded e) ∧ (∃ e ∈ shippedRun.1, ShipSucceeded e) ∧
      OrderlyEffects sampleRequest shippedRun.1 shippedRun.2 := by
  have hrun : Runs (placeOrder {} sampleRequest) shippedRun.1 shippedRun.2 := runs_answered _ _
  exact ⟨hrun, charged_shippedRun, shipped_shippedRun,
    placeOrder_orderly hrun fun h => absurd rfl h⟩

end AstronomyShop
