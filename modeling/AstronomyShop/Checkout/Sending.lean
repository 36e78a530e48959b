import AstronomyShop.Checkout.Charging

/-!
# What is sent to Kafka

Every message of a run of `PlaceOrder` to the topic of the orders is the order of that run, and it
is sent only when its card has been charged over the total of what is in the message, and when the
shipment has been answered with its tracking id (`placeOrder_sends`).
-/

namespace AstronomyShop

open Interaction Wire

/-- The order in a message to Kafka. -/
def Call.message : Call → Option OrderResult
  | kafkaSend order => some order
  | kafkaFlood order _ => some order
  | _ => none

/-- An order of a run with the calls it is made of: the charge is over its total. -/
inductive Invoiced (req : PlaceOrderRequest) (t : List CheckoutEvent) : OrderResult → Prop
  | intro {orderID shippingTrackingID svcAddr tx : String} (P : Preparation req) {total : Money}
      {payload : Json} {answer : Except String Response}
      (orderId : ⟨.newUUID, .ok orderID⟩ ∈ t) (cart : ⟨.getCart req.userId, .ok P.cart⟩ ∈ t)
      (charged : ⟨.charge svcAddr total req.creditCard, .ok tx⟩ ∈ t)
      (shipped : ⟨.shipOrder payload, answer⟩ ∈ t)
      (tracking : readShipAnswer answer = .ok shippingTrackingID)
      (total_eq : orderTotal req.userCurrency P.shippingPrice P.orderItems = .ok total) :
      Invoiced req t (P.orderPrep.orderResult req orderID shippingTrackingID)

section

variable {cs : CheckoutService} {req : PlaceOrderRequest} {orderID shippingTrackingID : String}
  {prep : OrderPrep} {t : List CheckoutEvent} {out : Outcome} {e : CheckoutEvent}
  {order : OrderResult}

theorem Call.IsPreparation.message {o : Call} (h : o.IsPreparation) : o.message = none := by
  cases o <;> first | rfl | exact h.elim

theorem sendToPostProcessor_sends {result : OrderResult} {r : Unit}
    (h : Runs (sendToPostProcessor result) t r) (he : e ∈ t) (hm : e.op.message = some order) :
    order = result := by
  obtain ⟨reply, t₁, rfl, h₁⟩ := runs_perform_bind.mp h
  have hflag : ∀ t₁, Runs (call (.intFlag "kafkaQueueProblems") >>= fun ffValue =>
      if 0 < ffValue then call (.kafkaFlood result ffValue) else pure ()) t₁ r →
      e ∈ t₁ → order = result := by
    intro t₁ h₁ he
    obtain ⟨ffValue, t₂, rfl, h₂⟩ := runs_perform_bind.mp h₁
    split at h₂
    · obtain ⟨_, t₃, rfl, h₃⟩ := runs_call.mp h₂
      obtain ⟨rfl, -⟩ := runs_pure.mp h₃
      rcases List.mem_cons.mp he with rfl | he
      · cases hm
      · obtain rfl := List.mem_singleton.mp he
        exact (Option.some.inj hm).symm
    · obtain ⟨rfl, -⟩ := runs_pure.mp h₂
      obtain rfl := List.mem_singleton.mp he
      cases hm
  rcases List.mem_cons.mp he with rfl | hlast
  · exact (Option.some.inj hm).symm
  · cases reply with
    | cancelledSending =>
      obtain ⟨rfl, -⟩ := runs_pure.mp h₁
      cases hlast
    | success offset => exact hflag t₁ h₁ hlast
    | error err => exact hflag t₁ h₁ hlast
    | cancelledWaiting => exact hflag t₁ h₁ hlast

theorem completeOrder_sends
    (h : Runs (completeOrder cs req orderID prep shippingTrackingID) t out) (he : e ∈ t)
    (hm : e.op.message = some order) : order = prep.orderResult req orderID shippingTrackingID := by
  obtain ⟨t₁, t₂, _, rfl, hempty, h₁⟩ := runs_bind.mp h
  obtain ⟨reply, rfl⟩ := emptyUserCart_runs hempty
  obtain ⟨t₃, t₄, _, rfl, hmail, h₂⟩ := runs_bind.mp h₁
  obtain ⟨answer, rfl⟩ := sendOrderConfirmation_runs hmail
  rcases List.mem_cons.mp he with rfl | he
  · cases hm
  rcases List.mem_cons.mp he with rfl | he
  · cases hm
  split at h₂
  · split at h₂
    · obtain ⟨t₅, t₆, _, rfl, hsend, h₃⟩ := runs_bind.mp h₂
      obtain ⟨rfl, -⟩ := runs_pure.mp h₃
      rw [List.append_nil] at he
      exact sendToPostProcessor_sends hsend he hm
    · obtain ⟨rfl, -⟩ := runs_pure.mp h₂
      cases he
  · obtain ⟨rfl, -⟩ := runs_pure.mp h₂
    cases he

/-- What a run does about Kafka: no message, or one and the same order, invoiced before. -/
inductive Messages (req : PlaceOrderRequest) (t : List CheckoutEvent) : Prop
  | nothing (h : ∀ e ∈ t, e.op.message = none)
  | sent {order : OrderResult} {before rest : List CheckoutEvent} (split : t = before ++ rest)
      (hbefore : ∀ e ∈ before, e.op.message = none) (invoiced : Invoiced req before order)
      (hrest : ∀ e ∈ rest, ∀ message, e.op.message = some message → message = order)

/-- A run from a prepared order on that sends a message has charged the card over the total before,
and shipped the order. -/
theorem chargeAndShip_sends (h : Runs (chargeAndShip cs req orderID prep) t out) :
    (∀ e ∈ t, e.op.message = none) ∨
      ∃ total flag svcAddr tx payload answer shippingTrackingID rest,
        orderTotal req.userCurrency prep.shippingCostLocalized prep.orderItems = .ok total ∧
        t = [⟨.booleanFlag "paymentUnreachable", flag⟩,
          ⟨.charge svcAddr total req.creditCard, .ok tx⟩, ⟨.shipOrder payload, answer⟩] ++ rest ∧
        readShipAnswer answer = .ok shippingTrackingID ∧
        ∀ e ∈ rest, ∀ message, e.op.message = some message →
          message = prep.orderResult req orderID shippingTrackingID := by
  unfold chargeAndShip at h
  cases htotal : orderTotal req.userCurrency prep.shippingCostLocalized prep.orderItems with
  | error err =>
    rw [htotal] at h
    obtain ⟨rfl, -⟩ := runs_pure.mp h
    exact .inl (by simp)
  | ok total =>
    rw [htotal] at h
    obtain ⟨t₁, t₂, _, rfl, hcharge, h₁⟩ := runs_bind.mp h
    obtain ⟨flag, svcAddr, ⟨tx, rfl, rfl⟩ | ⟨err, rfl, rfl⟩⟩ := chargeCard_runs hcharge
    · obtain ⟨t₃, t₄, _, rfl, hship, h₂⟩ := runs_bind.mp h₁
      obtain ⟨answer, rfl, rfl⟩ := shipOrder_runs hship
      cases hread : readShipAnswer answer with
      | error err =>
        rw [hread] at h₂
        obtain ⟨rfl, -⟩ := runs_pure.mp h₂
        exact .inl (by simp [Call.message])
      | ok trackingID =>
        rw [hread] at h₂
        exact .inr ⟨total, flag, svcAddr, tx, _, answer, trackingID, t₄, rfl, rfl, hread,
          fun e he message hm => completeOrder_sends h₂ he hm⟩
    · obtain ⟨rfl, -⟩ := runs_pure.mp h₁
      exact .inl (by simp [Call.message])

/-- **Every message of a run is its order**, and the order was invoiced before any message. -/
theorem placeOrder_sends (h : Runs (placeOrder cs req) t out) : Messages req t := by
  obtain ⟨reply, t₁, rfl, h₁⟩ := runs_perform_bind.mp h
  cases reply with
  | error err =>
    obtain ⟨rfl, -⟩ := runs_pure.mp h₁
    exact .nothing (by simp [Call.message])
  | ok orderID =>
    obtain ⟨t₂, t₃, r, rfl, hprepare, h₂⟩ := runs_bind.mp h₁
    obtain ⟨hprep, hP⟩ := prepare_runs hprepare
    have hnone : ∀ e ∈ t₂, e.op.message = none := fun e he => (hprep e he).message
    cases r with
    | error err =>
      obtain ⟨rfl, -⟩ := runs_pure.mp h₂
      refine .nothing (List.forall_mem_cons.mpr ⟨rfl, ?_⟩)
      rwa [List.append_nil]
    | ok prep =>
      obtain ⟨P, rfl, rfl⟩ := hP prep rfl
      rcases chargeAndShip_sends h₂ with hrest | ⟨total, flag, svcAddr, tx, payload, answer,
        trackingID, rest, htotal, rfl, hread, hrest⟩
      · exact .nothing (List.forall_mem_cons.mpr ⟨rfl, List.forall_mem_append.mpr ⟨hnone, hrest⟩⟩)
      · refine @Messages.sent req _ _ (⟨.newUUID, .ok orderID⟩ :: (P.trace ++
          [⟨.booleanFlag "paymentUnreachable", flag⟩,
            ⟨.charge svcAddr total req.creditCard, .ok tx⟩, ⟨.shipOrder payload, answer⟩])) rest
          (by simp) ?_ ?_ hrest
        · simp only [List.forall_mem_cons, List.forall_mem_append]
          exact ⟨rfl, hnone, rfl, rfl, rfl, by simp⟩
        · exact @Invoiced.intro req _ orderID trackingID svcAddr tx P total payload answer
            List.mem_cons_self (by simp [Preparation.trace]) (by simp) (by simp) hread htotal

theorem Invoiced.mono (h : Invoiced req t order) {t' : List CheckoutEvent} (ht : t ⊆ t') :
    Invoiced req t' order := by
  cases h with
  | intro P orderId cart charged shipped tracking total_eq =>
    exact .intro P (ht orderId) (ht cart) (ht charged) (ht shipped) tracking total_eq

/-- The same of a run under way. -/
theorem steps_sends {q : Checkout Outcome} (h : Steps (placeOrder cs req) t q) (he : e ∈ t)
    (hm : e.op.message = some order) :
    Invoiced req t order ∧ ∀ e ∈ t, ∀ message, e.op.message = some message → message = order := by
  obtain ⟨t₁, t₂, rfl⟩ := List.append_of_mem he
  obtain ⟨t', out, hrun⟩ := h.exists_runs
  have hsplit : (t₁ ++ e :: t₂) ++ t' = t₁ ++ e :: (t₂ ++ t') := by simp
  cases placeOrder_sends hrun with
  | nothing hnone =>
    rw [hnone e (List.mem_append_left _ he)] at hm
    cases hm
  | @sent order' before rest heq hbefore hinvoiced hrest =>
    have hall : ∀ e' ∈ (t₁ ++ e :: t₂) ++ t', ∀ message, e'.op.message = some message →
        message = order' := by
      rw [heq]
      intro e' he' message hm'
      rcases List.mem_append.mp he' with he' | he'
      · rw [hbefore e' he'] at hm'
        cases hm'
      · exact hrest e' he' message hm'
    obtain rfl := hall e (List.mem_append_left _ he) order hm
    refine ⟨?_, fun e' he' => hall e' (List.mem_append_left _ he')⟩
    have hnot : e ∉ before := by
      intro hmem
      rw [hbefore e hmem] at hm
      cases hm
    rw [hsplit] at heq
    obtain ⟨mid, rfl, -⟩ := split_append_right heq.symm hnot
    apply hinvoiced.mono
    intro e' he'
    exact List.mem_append_left _ (List.mem_append_left _ he')

end

end AstronomyShop
