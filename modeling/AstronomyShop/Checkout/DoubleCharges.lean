import AstronomyShop.Checkout.SharedCart
import AstronomyShop.Library.Totals

/-!
# Double charges

Two orders of one user can be charged for the same units: both read the cart before either
empties it, or an `EmptyCart` between them fails. These are the only ways.

* `Covered`: the invariant of a run. What charged orders have read is covered by what was
  added, and so is what is stored, unless a read is still waiting for its `EmptyCart`.
* `charged_at_most_added`: while every two reads of charged orders have a successful
  `EmptyCart` between them, no unit is charged twice.
-/

namespace AstronomyShop

open Interaction CartService

variable {ι : Type}

/-! ## Reads and charges -/

def Call.isCartRead : Call → Bool
  | .getCart _ => true
  | _ => false

/-- The quantity of a product in the order of a run: that of the cart it has read. -/
def orderedQuantity (productId : String) (t : List CheckoutEvent) : Int :=
  match t with
  | _ :: ⟨.getCart _, .ok cart⟩ :: _ => quantityOf productId cart.items
  | _ => 0

/-- That cart has the items whose total is charged. -/
theorem orderedQuantity_prepared {req : PlaceOrderRequest} (P : Preparation req)
    (productId orderID : String) (rest : List CheckoutEvent) :
    orderedQuantity productId (⟨.newUUID, .ok orderID⟩ :: P.trace ++ rest) =
      quantityOf productId (P.orderItems.map OrderItem.item) := by
  rw [P.orderItems_item]
  rfl

/-- The card was charged. -/
def Charged (t : List CheckoutEvent) : Prop := ∃ e ∈ t, ChargeSucceeded e

/-- Between any two reads of the cart by invocations in `S`, an `EmptyCart` succeeds. -/
def ReadsSeparated (S : Finset ι) (userId : String) (ls : List (Label ι Reply CartItem)) : Prop :=
  ∀ before between after i j cart cart', i ∈ S → j ∈ S →
    ls = before ++ .call i ⟨.getCart userId, .ok cart⟩ ::
      (between ++ .call j ⟨.getCart userId, .ok cart'⟩ :: after) →
    ∃ k, .call k ⟨.emptyCart userId, .ok ()⟩ ∈ between

/-- Some invocation in `S` has read the cart, and no `EmptyCart` has succeeded since. -/
def Pending (S : Finset ι) (userId : String) (ls : List (Label ι Reply CartItem)) : Prop :=
  ∃ before between i cart, i ∈ S ∧
    ls = before ++ .call i ⟨.getCart userId, .ok cart⟩ :: between ∧
    ∀ k, .call k ⟨.emptyCart userId, .ok ()⟩ ∉ between

/-- The quantity of a product that one call reads. -/
def readBy (productId userId : String) (e : CheckoutEvent) : Int :=
  match e with
  | ⟨.getCart user, .ok cart⟩ => if user = userId then quantityOf productId cart.items else 0
  | _ => 0

theorem readBy_eq_zero {productId userId : String} {e : CheckoutEvent}
    (h : ∀ cart, e ≠ ⟨.getCart userId, .ok cart⟩) : readBy productId userId e = 0 := by
  unfold readBy
  split
  · rename_i user cart
    rw [if_neg]
    intro huser
    subst huser
    exact h cart rfl
  · rfl

section

variable {userId : String} {S : Finset ι} {ls : List (Label ι Reply CartItem)}

theorem ReadsSeparated.of_append {ls' : List (Label ι Reply CartItem)}
    (h : ReadsSeparated S userId (ls ++ ls')) : ReadsSeparated S userId ls := by
  intro before between after i j cart cart' hi hj hls
  refine h before between (after ++ ls') i j cart cart' hi hj ?_
  rw [hls]
  simp

/-- A separated read comes when no read is pending. -/
theorem ReadsSeparated.not_pending {i : ι} {cart : Cart} (hi : i ∈ S)
    (h : ReadsSeparated S userId (ls ++ [.call i ⟨.getCart userId, .ok cart⟩])) :
    ¬ Pending S userId ls := by
  intro hpending
  obtain ⟨before, between, j, cart', hj, rfl, hnone⟩ := hpending
  obtain ⟨k, hk⟩ := h before between [] j i cart' cart hj hi (by simp)
  exact hnone k hk

/-- A pending read stays pending until an `EmptyCart` succeeds. -/
theorem Pending.snoc {l : Label ι Reply CartItem} (h : Pending S userId ls)
    (hl : ∀ k, l ≠ .call k ⟨.emptyCart userId, .ok ()⟩) : Pending S userId (ls ++ [l]) := by
  obtain ⟨before, between, i, cart, hi, rfl, hnone⟩ := h
  refine ⟨before, between ++ [l], i, cart, hi, by simp, ?_⟩
  intro k hk
  rcases List.mem_append.mp hk with hk | hk
  · exact hnone k hk
  · exact hl k (List.mem_singleton.mp hk).symm

end

/-- A call that reads a cart. -/
def isRead : Label ι Reply CartItem → Bool
  | .call _ e => e.op.isCartRead
  | .act _ => false

/-- Reads on two sides of a successful `EmptyCart`, one on each at most, are separated. -/
theorem readsSeparated_of_split {S : Finset ι} {userId : String}
    {pre post : List (Label ι Reply CartItem)} {k : ι} (hpre : pre.countP isRead ≤ 1)
    (hpost : post.countP isRead ≤ 1) :
    ReadsSeparated S userId (pre ++ .call k ⟨.emptyCart userId, .ok ()⟩ :: post) := by
  have hread : ∀ (i : ι) (cart : Cart),
      isRead (.call i ⟨.getCart userId, .ok cart⟩ : Label ι Reply CartItem) = true := fun _ _ => rfl
  intro before between after i j cart cart' _ _ hls
  refine ⟨k, ?_⟩
  rcases List.append_eq_append_iff.mp hls with ⟨left, rfl, hright⟩ | ⟨left, rfl, hright⟩
  · -- the first read is after the `EmptyCart`, and so is the second one
    cases left with
    | nil => simp at hright
    | cons l left =>
      rw [List.cons_append] at hright
      obtain ⟨-, rfl⟩ := List.cons.inj hright
      simp only [List.countP_append, List.countP_cons, hread, if_true] at hpost
      omega
  · cases left with
    | nil => simp at hright
    | cons l left =>
      rw [List.cons_append] at hright
      obtain ⟨rfl, hrest⟩ := List.cons.inj hright
      rcases List.append_eq_append_iff.mp hrest with ⟨mid, rfl, hmid⟩ | ⟨mid, rfl, hmid⟩
      · -- the second read is before the `EmptyCart` as well
        cases mid with
        | nil => simp at hmid
        | cons l mid =>
          obtain ⟨rfl, -⟩ := List.cons.inj hmid
          simp only [List.countP_append, List.countP_cons, hread, if_true] at hpre
          omega
      · cases mid with
        | nil => simp at hmid
        | cons l mid =>
          obtain ⟨rfl, -⟩ := List.cons.inj hmid
          exact List.mem_append_right _ List.mem_cons_self

variable [DecidableEq ι]

/-- The quantity of a product that the invocations in `S` have read. -/
def readTotal (S : Finset ι) (productId userId : String) (ls : List (Label ι Reply CartItem)) :
    Int :=
  (ls.map fun
    | .call i e => if i ∈ S then readBy productId userId e else 0
    | .act _ => 0).sum

/-- What the invocations in `S` have read is covered by what was added; while no read is
pending, what is stored is covered as well. The stored quantity is `stock` as an `int32`. -/
def Covered (S : Finset ι) (productId userId : String) (ls : List (Label ι Reply CartItem))
    (db : Db) : Prop :=
  ∃ stock : Int, 0 ≤ stock ∧
    quantityOf productId (storedItems db userId) = stock.bmod (2 ^ 32) ∧
    readTotal S productId userId ls ≤ added productId ls ∧
    (readTotal S productId userId ls + stock ≤ added productId ls ∨ Pending S userId ls)

section

variable {valkey userId productId : String} {S : Finset ι}
  {c c' : Config ι Call Reply Db Outcome} {ls : List (Label ι Reply CartItem)} {i : ι}
  {e : CheckoutEvent}

theorem readTotal_append (ls ls' : List (Label ι Reply CartItem)) :
    readTotal S productId userId (ls ++ ls') =
      readTotal S productId userId ls + readTotal S productId userId ls' := by
  simp [readTotal]

theorem readTotal_call (i : ι) (e : CheckoutEvent) :
    readTotal S productId userId [(.call i e : Label ι Reply CartItem)] =
      if i ∈ S then readBy productId userId e else 0 := by
  simp [readTotal]

theorem readTotal_act (item : CartItem) :
    readTotal S productId userId [(.act item : Label ι Reply CartItem)] = 0 := by
  simp [readTotal]

theorem bmod_le_self {n : Int} (hn : 0 ≤ n) : n.bmod (2 ^ 32) ≤ n := by
  rw [Int.bmod_def]
  split
  · omega
  · omega

theorem Covered.act {item : CartItem} (h : Covered S productId userId ls c.shared)
    (step : Step (shop valkey userId) c (.act item) c') (hq : 0 < item.quantity.toInt) :
    Covered S productId userId (ls ++ [.act item]) c'.shared := by
  obtain ⟨stock, h0, hstock, hread, hcover⟩ := h
  have hnew := @act_step _ _ _ _ productId _ _ _ step
  rw [hstock, Int.bmod_add_bmod] at hnew
  have hpending : Pending S userId ls → Pending S userId (ls ++ [.act item]) :=
    fun hp => hp.snoc fun k hk => by cases hk
  unfold Covered
  rw [added_append, readTotal_append, added_act, readTotal_act]
  by_cases hp : productId = item.productId
  · rw [if_pos hp] at hnew ⊢
    refine ⟨stock + item.quantity.toInt, by omega, hnew, by omega, hcover.imp ?_ hpending⟩
    omega
  · rw [if_neg hp] at hnew ⊢
    refine ⟨stock, h0, hnew, by omega, hcover.imp ?_ hpending⟩
    omega

/-- An `EmptyCart` that succeeds ends a pending read. -/
theorem Covered.emptied (h : Covered S productId userId ls c.shared)
    (step : Step (shop valkey userId) c (.call i ⟨.emptyCart userId, .ok ()⟩) c') :
    Covered S productId userId (ls ++ [.call i ⟨.emptyCart userId, .ok ()⟩]) c'.shared := by
  obtain ⟨stock, h0, -, hread, -⟩ := h
  have hzero : readBy productId userId ⟨.emptyCart userId, .ok ()⟩ = 0 := rfl
  unfold Covered
  rw [added_append, readTotal_append, added_call, readTotal_call, hzero, ite_self, add_zero,
    add_zero, emptyCart_step step]
  exact ⟨0, le_rfl, rfl, hread, .inl (by omega)⟩

/-- A read by an invocation in `S` while none is pending. -/
theorem Covered.read {cart : Cart} (h : Covered S productId userId ls c.shared)
    (step : Step (shop valkey userId) c (.call i ⟨.getCart userId, .ok cart⟩) c') (hi : i ∈ S)
    (hnone : ¬ Pending S userId ls) :
    Covered S productId userId (ls ++ [.call i ⟨.getCart userId, .ok cart⟩]) c'.shared := by
  obtain ⟨stock, h0, hstock, hread, hcover⟩ := h
  obtain ⟨hitems, hkept⟩ := getCart_step step
  have hquantity : readBy productId userId ⟨.getCart userId, .ok cart⟩ = stock.bmod (2 ^ 32) := by
    rw [← hstock, ← hitems]
    exact if_pos rfl
  have hle := bmod_le_self h0
  have hfree := hcover.resolve_right hnone
  unfold Covered
  rw [added_append, readTotal_append, added_call, readTotal_call, if_pos hi, hquantity, hkept]
  exact ⟨stock, h0, hstock, by omega, .inr ⟨ls, [], i, cart, hi, rfl, by simp⟩⟩

/-- Any other call. -/
theorem Covered.call (h : Covered S productId userId ls c.shared)
    (step : Step (shop valkey userId) c (.call i e) c')
    (hread : i ∈ S → ∀ cart, e ≠ ⟨.getCart userId, .ok cart⟩)
    (hempty : e ≠ ⟨.emptyCart userId, .ok ()⟩) :
    Covered S productId userId (ls ++ [.call i e]) c'.shared := by
  obtain ⟨stock, h0, hstock, hle, hcover⟩ := h
  have hzero : (if i ∈ S then readBy productId userId e else 0) = 0 := by
    split
    · rename_i hi
      exact readBy_eq_zero (hread hi)
    · rfl
  have hpending : Pending S userId ls → Pending S userId (ls ++ [.call i e]) := by
    intro hp
    refine hp.snoc fun k hk => ?_
    cases hk
    exact hempty rfl
  unfold Covered
  rw [added_append, readTotal_append, added_call, readTotal_call, hzero, add_zero, add_zero]
  rcases call_step step with hkept | hlost
  · rw [hkept]
    exact ⟨stock, h0, hstock, hle, hcover.imp id hpending⟩
  · rw [hlost]
    exact ⟨0, le_rfl, rfl, hle, hcover.imp (by omega) hpending⟩

theorem covered_of_run (h : Run (shop valkey userId) c ls c')
    (hempty : storedItems c.shared userId = [])
    (hpos : ∀ item, .act item ∈ ls → 0 < item.quantity.toInt)
    (hsep : ReadsSeparated S userId ls) : Covered S productId userId ls c'.shared := by
  induction h with
  | nil =>
    refine ⟨0, le_rfl, ?_, le_rfl, .inl le_rfl⟩
    rw [hempty]
    rfl
  | @snoc c₁ c₂ ls l before step ih =>
    have hcovered := ih (fun item hitem => hpos item (List.mem_append_left _ hitem)) hsep.of_append
    cases l with
    | act item => exact hcovered.act step (hpos item (by simp))
    | call i e =>
      by_cases hclear : e = ⟨.emptyCart userId, .ok ()⟩
      · subst hclear
        exact hcovered.emptied step
      · by_cases hread : i ∈ S ∧ ∃ cart, e = ⟨.getCart userId, .ok cart⟩
        · obtain ⟨hi, cart, rfl⟩ := hread
          exact hcovered.read step hi (hsep.not_pending hi)
        · exact hcovered.call step (fun hi cart he => hread ⟨hi, cart, he⟩) hclear

/-- What is read in all is what each invocation has read in its own trace. -/
theorem readTotal_eq_sum (S : Finset ι) (productId userId : String)
    (ls : List (Label ι Reply CartItem)) :
    readTotal S productId userId ls =
      ∑ i ∈ S, ((trace i ls).map (readBy productId userId)).sum := by
  rw [← total_eq_sum S fun _ => readBy productId userId]
  unfold readTotal total
  congr 1
  refine List.map_congr_left fun l _ => ?_
  cases l <;> rfl

end

theorem ChargeRun.not_getCart {cs : CheckoutService} {req : PlaceOrderRequest} {orderID : String}
    {prep : OrderPrep} {t : List CheckoutEvent} {out : Outcome}
    (h : ChargeRun cs req orderID prep t out) : ∀ e ∈ t, ∀ user, e.op ≠ .getCart user := by
  cases h with
  | unpayable _ => simp
  | uncharged _ _ _ _ => simp
  | unshipped _ _ _ _ _ => simp
  | shipped _ _ _ _ _ _ hrest _ =>
    intro e he user
    simp only [List.mem_cons] at he
    rcases he with rfl | rfl | rfl | rfl | he
    · simp
    · simp
    · simp
    · simp
    · intro hop
      have haftermath := hrest e he
      rw [hop] at haftermath
      exact haftermath

/-- A run under way that has charged the card has read the cart in its second call, and does
not read it again. -/
theorem trace_of_charged {cs : CheckoutService} {req : PlaceOrderRequest}
    {t : List CheckoutEvent} {q : Checkout Outcome} (h : Steps (placeOrder cs req) t q)
    (hcharged : Charged t) :
    ∃ orderID cart rest,
      t = ⟨.newUUID, .ok orderID⟩ :: ⟨.getCart req.userId, .ok cart⟩ :: rest ∧
        ∀ e ∈ rest, ∀ user, e.op ≠ .getCart user := by
  obtain ⟨t', out, hrun⟩ := h.exists_runs
  obtain ⟨e, he, hsucceeded⟩ := hcharged
  generalize hfull : t ++ t' = full at hrun
  cases placeOrder_run hrun with
  | unprepared hprep _ =>
    exact absurd ⟨e, hfull ▸ List.mem_append_left _ he, hsucceeded⟩ (not_mem_effects hprep).1
  | @prepared orderID P tail _ hcharge =>
    obtain ⟨rest, hP, hrest⟩ := P.trace_eq
    rw [hP] at hfull
    have hcut : ∀ e' ∈ t, e'.op = .newUUID ∨ e'.op = .getCart req.userId → e' ≠ e := by
      intro e' _ hop heq
      have hcall := isCharge_of_chargeSucceeded hsucceeded
      rw [← heq] at hcall
      rcases hop with hop | hop <;> rw [hop] at hcall <;> cases hcall
    match t, he, hfull, hcut with
    | [a], he, hfull, hcut =>
      obtain rfl := List.mem_singleton.mp he
      have ha : e = ⟨.newUUID, .ok orderID⟩ := (List.cons.inj hfull).1
      exact absurd rfl (hcut e he (.inl (by rw [ha])))
    | a :: b :: t₂, he, hfull, _ =>
      obtain ⟨ha, hfull'⟩ := List.cons.inj hfull
      obtain ⟨hb, hfull''⟩ := List.cons.inj hfull'
      refine ⟨orderID, P.cart, t₂, by rw [ha, hb], ?_⟩
      intro e' he' user hop
      have hmem : e' ∈ rest ++ tail := by
        rw [← show t₂ ++ t' = rest ++ tail from hfull'']
        exact List.mem_append_left _ he'
      rcases List.mem_append.mp hmem with hmem | hmem
      · have hcall := hrest e' hmem
        rw [hop] at hcall
        cases hcall
      · exact hcharge.not_getCart e' hmem user hop

theorem readBy_sum_of_charged {cs : CheckoutService} {req : PlaceOrderRequest}
    {t : List CheckoutEvent} {q : Checkout Outcome} (h : Steps (placeOrder cs req) t q)
    (hcharged : Charged t) (productId : String) :
    (t.map (readBy productId req.userId)).sum = orderedQuantity productId t := by
  obtain ⟨orderID, cart, rest, rfl, hrest⟩ := trace_of_charged h hcharged
  have hzero : (rest.map (readBy productId req.userId)).sum = 0 := by
    refine List.sum_eq_zero fun n hn => ?_
    obtain ⟨e, he, rfl⟩ := List.mem_map.mp hn
    exact readBy_eq_zero fun cart' heq => hrest e he req.userId (by rw [heq])
  rw [List.map_cons, List.map_cons, List.sum_cons, List.sum_cons, hzero]
  simp [readBy, orderedQuantity]

/-- **No unit is charged twice while reads are separated.** In any interleaving of any number
of `PlaceOrder` invocations of a user with additions to that user's cart, empty at the start:
charged orders whose reads of the cart all have a successful `EmptyCart` between them contain
no more of a product than was ever added. -/
theorem charged_at_most_added {valkey userId : String} {cs : ι → CheckoutService}
    {req : ι → PlaceOrderRequest} (hreq : ∀ i, (req i).userId = userId) {db : Db}
    (hempty : storedItems db userId = []) {ls : List (Label ι Reply CartItem)}
    {c : Config ι Call Reply Db Outcome}
    (h : Run (shop valkey userId) ⟨db, fun i => placeOrder (cs i) (req i)⟩ ls c)
    (hpos : ∀ item, .act item ∈ ls → 0 < item.quantity.toInt) {S : Finset ι}
    (hcharged : ∀ i ∈ S, Charged (trace i ls)) (hsep : ReadsSeparated S userId ls)
    (productId : String) :
    ∑ i ∈ S, orderedQuantity productId (trace i ls) ≤ added productId ls := by
  obtain ⟨-, -, -, hle, -⟩ := @covered_of_run _ _ valkey userId productId S _ _ _ h hempty hpos hsep
  rw [readTotal_eq_sum] at hle
  calc ∑ i ∈ S, orderedQuantity productId (trace i ls)
      = ∑ i ∈ S, ((trace i ls).map (readBy productId userId)).sum := by
        refine Finset.sum_congr rfl fun i hi => ?_
        rw [← hreq i]
        exact (readBy_sum_of_charged (h.steps i) (hcharged i hi) productId).symm
    _ ≤ added productId ls := hle

/-- The same order is submitted twice, and the second one reads the cart while the first one
has not emptied it. -/
def doubleSubmit : List (Label Bool Reply CartItem) :=
  [.act bulb] ++ bulbCharged.map (.call true) ++ bulbCharged.map (.call false)

theorem trace_doubleSubmit (i : Bool) : trace i doubleSubmit = bulbCharged := by
  unfold doubleSubmit
  rw [trace_append, trace_append, trace_map_call, trace_map_call, trace_act, trace_nil]
  cases i <;> simp

theorem added_doubleSubmit : added "bulb" doubleSubmit = 1 := by
  unfold doubleSubmit
  rw [added_append, added_append, added_map_call, added_map_call, added_act]
  decide

theorem positive_doubleSubmit {item : CartItem} (h : .act item ∈ doubleSubmit) :
    0 < item.quantity.toInt := by
  have hbulb : item = bulb := by simpa [doubleSubmit] using h
  rw [hbulb]
  decide

theorem charged_doubleSubmit (i : Bool) : Charged (trace i doubleSubmit) := by
  rw [trace_doubleSubmit]
  have hany : (bulbCharged.any fun e => e.op.isCharge) = true := by decide +kernel
  obtain ⟨e, he, hcharge⟩ := List.any_eq_true.mp hany
  exact ⟨e, he, chargeSucceeded_of_mem_sampleRun (List.mem_of_mem_take he) hcharge⟩

theorem orderedQuantity_doubleSubmit (i : Bool) :
    orderedQuantity "bulb" (trace i doubleSubmit) = 1 := by
  rw [trace_doubleSubmit]
  decide +kernel

theorem run_doubleSubmit : ∃ c, Run (shop "v" "u1")
    ⟨noCarts, fun _ => placeOrder {} sampleRequest⟩ doubleSubmit c := by
  have hadd : Step (shop "v" "u1") ⟨noCarts, fun _ : Bool => placeOrder {} sampleRequest⟩
      (.act bulb) ⟨withBulb noCarts, fun _ => placeOrder {} sampleRequest⟩ := addBulb_step rfl _
  obtain ⟨q, -, hfirst⟩ :=
    @run_bulbCharged Bool _ (fun _ => placeOrder {} sampleRequest) true rfl
  obtain ⟨q', -, hsecond⟩ := @run_bulbCharged Bool _
    (Function.update (fun _ => placeOrder {} sampleRequest) true q) false rfl
  exact ⟨_, ((run_singleton.mpr hadd).append hfirst).append hsecond⟩

/-- The sample order from a cart that was emptied before, which has no owner. -/
def refilledReply : (o : Call) → Reply o
  | .getCart _ => .ok ⟨"", [bulb]⟩
  | o => sampleReply 1 (.ok ⟨200, .json (.obj [("tracking_id", .str "t1")])⟩) o

/-- Its calls before `EmptyCart`. -/
def refilledCharged : List CheckoutEvent :=
  ((placeOrder {} sampleRequest).answered refilledReply).1.take 9

/-- The second order comes when the first one has emptied the cart and a bulb is added again. -/
def ordersInTurn : List (Label Bool Reply CartItem) :=
  (.act bulb :: bulbCharged.map (.call true)) ++
    .call true ⟨.emptyCart "u1", .ok ()⟩ :: (.act bulb :: refilledCharged.map (.call false))

theorem answer_of_mem_refilledCharged {e : CheckoutEvent} (he : e ∈ refilledCharged) :
    (shop "v" "u1").answer (withBulb (emptied (withBulb noCarts))) e.op e.reply
      (withBulb (emptied (withBulb noCarts))) := by
  have hall : (refilledCharged.all fun e => e.op.isQuiet) = true := by decide +kernel
  refine answer_of_isQuiet rfl (List.all_eq_true.mp hall e he) ?_
  rintro reply rfl
  exact reply_of_mem_answered (List.mem_of_mem_take he)

theorem run_ordersInTurn : ∃ c, Run (shop "v" "u1")
    ⟨noCarts, fun _ => placeOrder {} sampleRequest⟩ ordersInTurn c := by
  have hadd : Step (shop "v" "u1") ⟨noCarts, fun _ : Bool => placeOrder {} sampleRequest⟩
      (.act bulb) ⟨withBulb noCarts, fun _ => placeOrder {} sampleRequest⟩ := addBulb_step rfl _
  obtain ⟨q, hrest, hfirst⟩ :=
    @run_bulbCharged Bool _ (fun _ => placeOrder {} sampleRequest) true rfl
  cases hrest with
  | cons _ _ =>
    rename_i k _
    have hclear : Step (shop "v" "u1") ⟨withBulb noCarts, Function.update
        (fun _ => placeOrder {} sampleRequest) true (.call (.emptyCart "u1") k)⟩
        (.call true ⟨.emptyCart "u1", .ok ()⟩) ⟨emptied (withBulb noCarts), _⟩ :=
      .call (Function.update_self ..) (answer_emptyCart rfl)
    rw [Function.update_idem] at hclear
    have hagain : Step (shop "v" "u1") ⟨emptied (withBulb noCarts),
        Function.update (fun _ => placeOrder {} sampleRequest) true (k (.ok ()))⟩
        (.act bulb) ⟨withBulb (emptied (withBulb noCarts)), _⟩ := addBulb_step rfl _
    have hsteps : Steps (placeOrder {} sampleRequest)
        ((placeOrder {} sampleRequest).answered refilledReply).1 _ := runs_answered _ _
    rw [← List.take_append_drop 9 (Program.answered _ _).1] at hsteps
    obtain ⟨q', hcharged, -⟩ := hsteps.split
    have hsecond := @run_of_steps _ _ _ _ CartItem Bool _ (shop "v" "u1") false
      (withBulb (emptied (withBulb noCarts)))
      (Function.update (fun _ => placeOrder {} sampleRequest) true (k (.ok ()))) refilledCharged q'
      hcharged fun e he => answer_of_mem_refilledCharged he
    exact ⟨_, run_append_cons.mpr ⟨_, _, (run_singleton.mpr hadd).append hfirst, hclear,
      (run_singleton.mpr hagain).append hsecond⟩⟩

theorem trace_ordersInTurn :
    trace true ordersInTurn = bulbCharged ++ [⟨.emptyCart "u1", .ok ()⟩] ∧
      trace false ordersInTurn = refilledCharged := by
  unfold ordersInTurn
  simp only [trace_append, trace_act, trace_map_call, trace_call_self, if_true]
  rw [trace_call_ne (by decide), trace_act, trace_map_call]
  simp

theorem charged_ordersInTurn (i : Bool) : Charged (trace i ordersInTurn) := by
  cases i with
  | true =>
    have hany : (bulbCharged.any fun e => e.op.isCharge) = true := by decide +kernel
    obtain ⟨e, he, hcharge⟩ := List.any_eq_true.mp hany
    rw [trace_ordersInTurn.1]
    exact ⟨e, List.mem_append_left _ he,
      chargeSucceeded_of_mem_sampleRun (List.mem_of_mem_take he) hcharge⟩
  | false =>
    have hany : (refilledCharged.any fun e => e.op.isCharge) = true := by decide +kernel
    obtain ⟨e, he, hcharge⟩ := List.any_eq_true.mp hany
    obtain ⟨op, reply⟩ := e
    have hreply : reply = refilledReply op := reply_of_mem_answered (List.mem_of_mem_take he)
    rw [trace_ordersInTurn.2]
    cases op with
    | charge svcAddr amount card => exact ⟨_, he, svcAddr, amount, card, "tx1", by rw [hreply]; rfl⟩
    | _ => cases hcharge

/-- Two orders are charged, one after the other, for the two bulbs that were added. -/
theorem charged_at_most_added_in_turn :
    (∃ c, Run (shop "v" "u1") ⟨noCarts, fun _ => placeOrder {} sampleRequest⟩ ordersInTurn c) ∧
      (∀ i, Charged (trace i ordersInTurn)) ∧
      ∑ i, orderedQuantity "bulb" (trace i ordersInTurn) ≤ added "bulb" ordersInTurn := by
  have hsep : ReadsSeparated Finset.univ "u1" ordersInTurn :=
    readsSeparated_of_split (by decide +kernel) (by decide +kernel)
  have hpos : ∀ item, .act item ∈ ordersInTurn → 0 < item.quantity.toInt := by
    intro item hitem
    obtain rfl : item = bulb := by simpa [ordersInTurn] using hitem
    decide
  obtain ⟨c, hrun⟩ := run_ordersInTurn
  exact ⟨⟨c, hrun⟩, charged_ordersInTurn, @charged_at_most_added Bool _ "v" "u1" (fun _ => {})
    (fun _ => sampleRequest) (fun _ => rfl) noCarts rfl ordersInTurn c hrun hpos Finset.univ
    (fun i _ => charged_ordersInTurn i) hsep "bulb"⟩

/-- Both orders are charged for the one bulb. -/
theorem bulb_charged_twice :
    ¬ ∀ (ls : List (Label Bool Reply CartItem)) (c : Config Bool Call Reply Db Outcome)
      (S : Finset Bool),
      Run (shop "v" "u1") ⟨noCarts, fun _ : Bool => placeOrder {} sampleRequest⟩ ls c →
      (∀ item, .act item ∈ ls → 0 < item.quantity.toInt) →
      (∀ i ∈ S, Charged (trace i ls)) →
      ∀ productId, ∑ i ∈ S, orderedQuantity productId (trace i ls) ≤ added productId ls := by
  intro h
  obtain ⟨c, hrun⟩ := run_doubleSubmit
  have hle := h doubleSubmit c Finset.univ hrun (fun _ => positive_doubleSubmit)
    (fun i _ => charged_doubleSubmit i) "bulb"
  simp only [orderedQuantity_doubleSubmit, added_doubleSubmit] at hle
  exact absurd hle (by decide)

end AstronomyShop
