import AstronomyShop.Checkout.Charging

/-!
# Why an order fails

`PlaceOrder` stops at the first failed call that it needs, and its status tells which call that was
and what it was answered (`order_fails_iff`). Emptying the cart, the email and the messages to Kafka
are calls that it does not need.
-/

namespace AstronomyShop

open Interaction Wire

/-! ## Failed calls -/

/-- The status with which `PlaceOrder` fails at an event, if the call of the event is needed and has
failed; `before` is the event before it. A price is converted right after its product was looked
up. -/
def failure (before : Option CheckoutEvent) (e : CheckoutEvent) : Option Status :=
  match e with
  | ⟨.newUUID, .error _⟩ => some (.errorf .internal "failed to generate order uuid")
  | ⟨.getCart _, .error err⟩ =>
    some (.verbatim .internal (.wrapf "cart failure: %+v"
      (.wrapf "failed to get user cart during checkout: %+v" (.external err))))
  | ⟨.getProduct id, .error _⟩ =>
    some (.verbatim .internal (.wrapf "failed to prepare order: %+v"
      (.errorf "failed to get product #%q" [id])))
  | ⟨.convert _ toCode, .error err⟩ =>
    match before with
    | some ⟨.getProduct id, _⟩ =>
      some (.verbatim .internal (.wrapf "failed to prepare order: %+v"
        (.errorf "failed to convert price of %q to %s" [id, toCode])))
    | _ =>
      some (.verbatim .internal (.wrapf "failed to convert shipping cost to currency: %+v"
        (.wrapf "failed to convert currency: %+v" (.external err))))
  | ⟨.getQuote _, answer⟩ =>
    match readQuoteAnswer answer with
    | .error err => some (.verbatim .internal (.wrapf "shipping quote failure: %+v" err))
    | .ok _ => none
  | ⟨.charge _ _ _, .error err⟩ =>
    some (.wrapf .internal "failed to charge card: %+v"
      (.wrapf "could not charge the card: %+v" (.external err)))
  | ⟨.shipOrder _, answer⟩ =>
    match readShipAnswer answer with
    | .error err => some (.wrapf .unavailable "shipping error: %+v" err)
    | .ok _ => none
  | _ => none

/-- None of the calls has failed that are needed. -/
def Clean (t : List CheckoutEvent) : Prop := ∀ e ∈ t, failure none e = none

/-- The last call of the trace is the first needed one that has failed, and `status` tells so. -/
def StopsWith (t : List CheckoutEvent) (status : Status) : Prop :=
  ∃ pre e, t = pre ++ [e] ∧ Clean pre ∧ failure pre.getLast? e = some status

theorem clean_nil : Clean [] := by
  intro e he
  cases he

theorem clean_cons {e : CheckoutEvent} {t : List CheckoutEvent} (h : failure none e = none)
    (ht : Clean t) : Clean (e :: t) := List.forall_mem_cons.mpr ⟨h, ht⟩

theorem Clean.append {t₁ t₂ : List CheckoutEvent} (h₁ : Clean t₁) (h₂ : Clean t₂) :
    Clean (t₁ ++ t₂) := List.forall_mem_append.mpr ⟨h₁, h₂⟩

/-- Whether a call has failed does not depend on the one before. -/
theorem failure_eq_none_iff {before : Option CheckoutEvent} {e : CheckoutEvent} :
    failure before e = none ↔ failure none e = none := by
  unfold failure
  split
  · exact Iff.rfl
  · exact Iff.rfl
  · exact Iff.rfl
  · split <;> simp
  · exact Iff.rfl
  · exact Iff.rfl
  · exact Iff.rfl
  · exact Iff.rfl

theorem Call.IsAftermath.clean {t : List CheckoutEvent} (h : ∀ e ∈ t, e.op.IsAftermath) :
    Clean t := by
  rintro ⟨op, reply⟩ he
  have hop : op.IsAftermath := h _ he
  cases op <;> first | rfl | exact hop.elim

/-- A run that is clean stops nowhere. -/
theorem Clean.not_stopsWith {t : List CheckoutEvent} (h : Clean t) (status : Status) :
    ¬ StopsWith t status := by
  rintro ⟨pre, e, rfl, -, hfailure⟩
  have hnone : failure pre.getLast? e = none := failure_eq_none_iff.mpr (h e (by simp))
  rw [hnone] at hfailure
  cases hfailure

theorem StopsWith.unique {t : List CheckoutEvent} {status status' : Status}
    (h : StopsWith t status) (h' : StopsWith t status') : status = status' := by
  obtain ⟨pre, e, rfl, -, hfailure⟩ := h
  obtain ⟨pre', e', heq, -, hfailure'⟩ := h'
  obtain ⟨rfl, hlast⟩ := List.append_inj' heq rfl
  obtain rfl := List.singleton_inj.mp hlast
  rw [hfailure] at hfailure'
  exact Option.some.inj hfailure'

/-! ## Parts of the handler -/

/-- How a part of the handler ends: it goes through, or it stops at a failed call, whatever came
before it. -/
inductive Ended {α : Type} (wrap : GoError → Status) :
    List CheckoutEvent → Except GoError α → Prop
  | ok {t : List CheckoutEvent} (a : α) (h : Clean t) : Ended wrap t (.ok a)
  | failed {pre : List CheckoutEvent} {e : CheckoutEvent} {err : GoError} (hclean : Clean pre)
      (h : ∀ earlier : List CheckoutEvent, failure (earlier ++ pre).getLast? e = some (wrap err)) :
      Ended wrap (pre ++ [e]) (.error err)

section

variable {α : Type} {wrap : GoError → Status} {t t₁ t₂ : List CheckoutEvent}

theorem Ended.clean {a : α} (h : Ended wrap t (.ok a)) : Clean t := by
  cases h with
  | ok _ h => exact h

theorem Ended.stopsWith {err : GoError} (h : Ended wrap t (.error err : Except GoError α)) :
    StopsWith t (wrap err) := by
  cases h with
  | @failed pre e _ hclean h => exact ⟨pre, e, rfl, hclean, h []⟩

theorem Ended.after {r : Except GoError α} (h₁ : Clean t₁) (h₂ : Ended wrap t₂ r) :
    Ended wrap (t₁ ++ t₂) r := by
  cases h₂ with
  | ok a h₂ => exact .ok a (h₁.append h₂)
  | @failed pre e err hclean h =>
    rw [← List.append_assoc]
    refine .failed (h₁.append hclean) ?_
    intro earlier
    rw [← List.append_assoc]
    exact h (earlier ++ t₁)

/-- The same failure under another wrapping. -/
theorem Ended.rewrap {β : Type} {wrap' : GoError → Status} {err err' : GoError}
    (h : Ended wrap t (.error err : Except GoError α)) (hwrap : wrap' err' = wrap err) :
    Ended wrap' t (.error err' : Except GoError β) := by
  cases h with
  | failed hclean h =>
    refine .failed hclean ?_
    rw [hwrap]
    exact h

/-- A failed call behind calls that went through, in a part that passes its error on. -/
theorem StopsWith.of_ended {err : GoError} (h₁ : Clean t₁)
    (h₂ : Ended wrap t₂ (.error err : Except GoError α)) : StopsWith (t₁ ++ t₂) (wrap err) :=
  (h₂.after h₁).stopsWith

end

/-- What the handler makes of an error of the preparation. -/
def preparationFailure (err : GoError) : Status := .verbatim .internal err

theorem prepOrderItems_ended {items : List CartItem} {userCurrency : String}
    {t : List CheckoutEvent} {r : Except GoError (List OrderItem)}
    (h : Runs (prepOrderItems items userCurrency) t r) :
    Ended (fun err => preparationFailure (.wrapf "failed to prepare order: %+v" err)) t r := by
  induction items generalizing t r with
  | nil =>
    obtain ⟨rfl, rfl⟩ := runs_pure.mp h
    exact .ok _ clean_nil
  | cons item items ih =>
    obtain ⟨reply, t₁, rfl, h₁⟩ := runs_perform_bind.mp h
    cases reply with
    | error err =>
      obtain ⟨rfl, rfl⟩ := runs_pure.mp h₁
      exact @Ended.failed _ _ [] _ _ clean_nil fun _ => rfl
    | ok product =>
      obtain ⟨t₂, t₃, conv, rfl, hconv, h₂⟩ := runs_bind.mp h₁
      rcases convertCurrency_runs hconv with ⟨price, rfl, rfl⟩ | ⟨err, e, rfl, rfl⟩
      · obtain ⟨t₄, t₅, rest, rfl, hrest, h₃⟩ := runs_bind.mp h₂
        have hline : Clean [⟨.getProduct item.productId, .ok product⟩,
            ⟨.convert product.priceUsd userCurrency, .ok price⟩] :=
          clean_cons rfl (clean_cons rfl clean_nil)
        cases rest with
        | error err =>
          obtain ⟨rfl, rfl⟩ := runs_pure.mp h₃
          rw [List.append_nil]
          exact (ih hrest).after hline
        | ok out =>
          obtain ⟨rfl, rfl⟩ := runs_pure.mp h₃
          rw [List.append_nil]
          exact .ok _ (hline.append (ih hrest).clean)
      · obtain ⟨rfl, rfl⟩ := runs_pure.mp h₂
        refine @Ended.failed _ _ [⟨.getProduct item.productId, .ok product⟩] _ _
          (clean_cons rfl clean_nil) ?_
        intro earlier
        rw [List.getLast?_append_of_ne_nil _ (List.cons_ne_nil _ _)]
        rfl

theorem getUserCart_ended {userID : String} {t : List CheckoutEvent}
    {r : Except GoError (List CartItem)} (h : Runs (getUserCart userID) t r) :
    Ended (fun err => preparationFailure (.wrapf "cart failure: %+v" err)) t r := by
  obtain ⟨reply, t₁, rfl, h₁⟩ := runs_perform_bind.mp h
  cases reply with
  | error err =>
    obtain ⟨rfl, rfl⟩ := runs_pure.mp h₁
    refine @Ended.failed _ _ [] _ _ clean_nil ?_
    intro earlier
    rfl
  | ok cart =>
    obtain ⟨rfl, rfl⟩ := runs_pure.mp h₁
    exact .ok _ (clean_cons rfl clean_nil)

theorem quoteShipping_ended {address : Option Address} {items : List CartItem}
    {t : List CheckoutEvent} {r : Except GoError Money}
    (h : Runs (quoteShipping address items) t r) :
    Ended (fun err => preparationFailure (.wrapf "shipping quote failure: %+v" err)) t r := by
  obtain ⟨answer, rfl, rfl⟩ := quoteShipping_runs h
  cases hread : readQuoteAnswer answer with
  | error err =>
    refine @Ended.failed _ _ [] _ _ clean_nil ?_
    intro earlier
    simp only [failure, hread]
    rfl
  | ok costUsd =>
    refine .ok _ (clean_cons ?_ clean_nil)
    simp only [failure, hread]

/-- The conversion of the shipping cost, right after the quote. -/
theorem convertShipping_ended (payload : Json) {answer : Except String Response}
    {shippingUSD : Money} {toCurrency : String} {t : List CheckoutEvent} {r : Except GoError Money}
    (hread : readQuoteAnswer answer = .ok shippingUSD)
    (h : Runs (convertCurrency (some shippingUSD) toCurrency) t r) :
    Ended (fun err => preparationFailure
      (.wrapf "failed to convert shipping cost to currency: %+v" err))
        (⟨.getQuote payload, answer⟩ :: t) r := by
  have hquote : Clean [⟨.getQuote payload, answer⟩] := by
    refine clean_cons ?_ clean_nil
    simp only [failure, hread]
  obtain ⟨reply, t₁, rfl, h₁⟩ := runs_perform_bind.mp h
  cases reply with
  | error err =>
    obtain ⟨rfl, rfl⟩ := runs_pure.mp h₁
    refine @Ended.failed _ _ [⟨.getQuote payload, answer⟩] _ _ hquote ?_
    intro earlier
    rw [List.getLast?_append_of_ne_nil _ (List.cons_ne_nil _ _)]
    rfl
  | ok price =>
    obtain ⟨rfl, rfl⟩ := runs_pure.mp h₁
    exact .ok _ (hquote.append (clean_cons rfl clean_nil))

theorem prepare_ended {req : PlaceOrderRequest} {t : List CheckoutEvent}
    {r : Except GoError OrderPrep}
    (h : Runs (prepareOrderItemsAndShippingQuoteFromCart req.userId req.userCurrency
      req.address) t r) : Ended preparationFailure t r := by
  obtain ⟨t₁, t₂, cart, rfl, hcart, h₁⟩ := runs_bind.mp h
  have hcartEnded := getUserCart_ended hcart
  cases cart with
  | error err =>
    obtain ⟨rfl, rfl⟩ := runs_pure.mp h₁
    rw [List.append_nil]
    exact hcartEnded.rewrap rfl
  | ok cartItems =>
    refine .after hcartEnded.clean ?_
    obtain ⟨t₃, t₄, items, rfl, hitems, h₂⟩ := runs_bind.mp h₁
    have hitemsEnded := prepOrderItems_ended hitems
    cases items with
    | error err =>
      obtain ⟨rfl, rfl⟩ := runs_pure.mp h₂
      rw [List.append_nil]
      exact hitemsEnded.rewrap rfl
    | ok orderItems =>
      refine .after hitemsEnded.clean ?_
      obtain ⟨t₅, t₆, quote, rfl, hquote, h₃⟩ := runs_bind.mp h₂
      have hquoteEnded := quoteShipping_ended hquote
      obtain ⟨answer, rfl, hread⟩ := quoteShipping_runs hquote
      cases quote with
      | error err =>
        obtain ⟨rfl, rfl⟩ := runs_pure.mp h₃
        rw [List.append_nil]
        exact hquoteEnded.rewrap rfl
      | ok shippingUSD =>
        obtain ⟨t₇, t₈, conv, rfl, hconv, h₄⟩ := runs_bind.mp h₃
        have hconvEnded := convertShipping_ended
          (shippingPayload req.address cartItems) hread.symm hconv
        cases conv with
        | error err =>
          obtain ⟨rfl, rfl⟩ := runs_pure.mp h₄
          rw [List.append_nil]
          exact hconvEnded.rewrap rfl
        | ok shippingPrice =>
          obtain ⟨rfl, rfl⟩ := runs_pure.mp h₄
          rw [List.append_nil]
          exact .ok _ hconvEnded.clean

/-! ## `PlaceOrder` -/

/-- A run either stops at a failed call and fails with its status, or no call has failed and it does
not fail. -/
def FailsAtFailure (t : List CheckoutEvent) (out : Outcome) : Prop :=
  (∃ status, out = .failed status ∧ StopsWith t status) ∨
    ((∀ status, out ≠ .failed status) ∧ Clean t)

theorem chargeAndShip_failsAtFailure {cs : CheckoutService} {req : PlaceOrderRequest}
    {orderID : String} {prep : OrderPrep} {t : List CheckoutEvent} {out : Outcome}
    (h : Runs (chargeAndShip cs req orderID prep) t out) {earlier : List CheckoutEvent}
    (hearlier : Clean earlier) : FailsAtFailure (earlier ++ t) out := by
  cases chargeAndShip_run h with
  | unpayable _ =>
    rw [List.append_nil]
    exact .inr ⟨nofun, hearlier⟩
  | @uncharged total _ flag svcAddr err =>
    refine .inl ⟨_, rfl, earlier ++ [⟨.booleanFlag "paymentUnreachable", flag⟩],
      ⟨.charge svcAddr total req.creditCard, .error err⟩, ?_, ?_, rfl⟩
    · rw [List.append_assoc]
      rfl
    · exact hearlier.append (clean_cons rfl clean_nil)
  | @unshipped total _ flag svcAddr tx answer err hread =>
    refine .inl ⟨_, rfl, earlier ++ [⟨.booleanFlag "paymentUnreachable", flag⟩,
      ⟨.charge svcAddr total req.creditCard, .ok tx⟩],
      ⟨.shipOrder (shippingPayload req.address prep.cartItems), answer⟩, ?_, ?_, ?_⟩
    · rw [List.append_assoc]
      rfl
    · exact hearlier.append (clean_cons rfl (clean_cons rfl clean_nil))
    · simp only [failure, hread]
  | @shipped total _ flag svcAddr tx answer trackingID hread reply rest hrest out hout =>
    refine .inr ⟨?_, hearlier.append (clean_cons rfl (clean_cons rfl (clean_cons ?_
      (clean_cons rfl (Call.IsAftermath.clean hrest)))))⟩
    · rintro status rfl
      rcases hout with hout | ⟨-, -, hout⟩ <;> cases hout
    · simp only [failure, hread]

theorem placeOrder_failsAtFailure {cs : CheckoutService} {req : PlaceOrderRequest}
    {t : List CheckoutEvent} {out : Outcome} (h : Runs (placeOrder cs req) t out) :
    FailsAtFailure t out := by
  obtain ⟨reply, t₁, rfl, h₁⟩ := runs_perform_bind.mp h
  cases reply with
  | error err =>
    obtain ⟨rfl, rfl⟩ := runs_pure.mp h₁
    exact .inl ⟨_, rfl, [], _, rfl, clean_nil, rfl⟩
  | ok orderID =>
    have huuid : Clean [⟨.newUUID, .ok orderID⟩] := clean_cons rfl clean_nil
    obtain ⟨t₂, t₃, r, rfl, hprepare, h₂⟩ := runs_bind.mp h₁
    have hended := prepare_ended hprepare
    cases r with
    | error err =>
      obtain ⟨rfl, rfl⟩ := runs_pure.mp h₂
      rw [List.append_nil]
      exact .inl ⟨_, rfl, StopsWith.of_ended huuid hended⟩
    | ok prep =>
      exact chargeAndShip_failsAtFailure h₂ (huuid.append hended.clean)

/-- **An order fails at the first failed call**, and with its status: in any run, `PlaceOrder` fails
with a status if and only if the last call of the run is the first needed one that has failed, and
this is its status. -/
theorem order_fails_iff (cs : CheckoutService) (req : PlaceOrderRequest)
    (t : List CheckoutEvent) (out : Outcome) (h : Runs (placeOrder cs req) t out)
    (status : Status) : out = .failed status ↔ StopsWith t status := by
  obtain ⟨status', rfl, hstops⟩ | ⟨hout, hclean⟩ := placeOrder_failsAtFailure h
  · constructor
    · intro heq
      cases heq
      exact hstops
    · intro hstops'
      rw [hstops.unique hstops']
  · constructor
    · intro heq
      exact absurd heq (hout status)
    · intro hstops
      exact absurd hstops (hclean.not_stopsWith status)

/-- With the shipping service down, the order stops at the shipment. -/
theorem order_fails_iff_down : StopsWith (sampleRun 2 (.error "down")).1
    (.wrapf .unavailable "shipping error: %+v"
      (.wrapf "failed POST to shipping service: %+v" (.external "down"))) :=
  (order_fails_iff {} sampleRequest _ _ (runs_answered _ _) _).mp sampleRun_down

end AstronomyShop
