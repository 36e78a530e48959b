import AstronomyShop.Cart.Operations
import AstronomyShop.Checkout.Effects

/-!
# Checkouts on a shared cart

Any number of `PlaceOrder` runs of one user and `AddItem` requests of that user take turns on
the cart store (`shop`). A run of `PlaceOrder` reads the cart once, at its start, and empties
it once, at its end; nothing marks the cart in between.

* `stock_of_run`: with no `EmptyCart` on the way, the stored quantity of a product is what was
  there and what was added, as an `int32`.
* `checkout_conservation`: what is added before the read is ordered, what is added after the
  `EmptyCart` stays, and what is added in between is in neither.
-/

namespace AstronomyShop

open Interaction CartService

/-! ## The shop -/

/-- A remote call that is served, or fails before it is; when it is served, the caller gets
the answer or an error. -/
def RpcAnswered {α : Type} (valkey : String) (handler : Service (Except RpcException α)) (db : Db)
    (reply : Except String α) (db' : Db) : Prop :=
  (∃ r, Served (Answers valkey) handler db r db' ∧ ∀ a, reply = .ok a → r = .ok a) ∨
    (db' = db ∧ ∃ err, reply = .error err)

/-- The cart store as `PlaceOrder` calls it, with the additions of one user. All other calls
of `PlaceOrder` may be answered in any way. -/
def shop (valkey userId : String) : World Call Reply Db CartItem where
  answer db
    | .getCart user, reply, db' => RpcAnswered valkey (CartService.getCart valkey user) db reply db'
    | .emptyCart user, reply, db' =>
      RpcAnswered valkey (CartService.emptyCart valkey user) db reply db'
    | _, _, db' => db' = db
  act db item db' := Served (Answers valkey) (addItem valkey userId item) db (.ok ()) db'

variable {ι : Type}

/-- The quantity of a product that the additions of a run add up to. -/
def added (productId : String) (ls : List (Label ι Reply CartItem)) : Int :=
  (ls.map fun
    | .act item => if productId = item.productId then item.quantity.toInt else 0
    | .call _ _ => 0).sum

@[simp] theorem added_nil (productId : String) :
    added productId ([] : List (Label ι Reply CartItem)) = 0 := rfl

@[simp] theorem added_append (productId : String) (ls ls' : List (Label ι Reply CartItem)) :
    added productId (ls ++ ls') = added productId ls + added productId ls' := by
  simp [added]

theorem added_cons (productId : String) (l : Label ι Reply CartItem)
    (ls : List (Label ι Reply CartItem)) :
    added productId (l :: ls) = added productId [l] + added productId ls :=
  added_append productId [l] ls

theorem added_call (productId : String) (i : ι) (e : CheckoutEvent) :
    added productId [(.call i e : Label ι Reply CartItem)] = 0 := by
  simp [added]

theorem added_act (productId : String) (item : CartItem) :
    added productId [(.act item : Label ι Reply CartItem)] =
      if productId = item.productId then item.quantity.toInt else 0 := by
  simp [added]

theorem added_map_call (productId : String) (i : ι) (t : List CheckoutEvent) :
    added productId (t.map (.call i) : List (Label ι Reply CartItem)) = 0 := by
  induction t with
  | nil => rfl
  | cons e t ih =>
    rw [List.map_cons, added_cons, added_call, ih, add_zero]

/-! ## Single steps -/

section

variable [DecidableEq ι] {valkey userId productId : String}
  {c c' : Config ι Call Reply Db Outcome} {i : ι}

theorem act_step {item : CartItem} (h : Step (shop valkey userId) c (.act item) c') :
    quantityOf productId (storedItems c'.shared userId) =
      if productId = item.productId then
        (quantityOf productId (storedItems c.shared userId) + item.quantity.toInt).bmod (2 ^ 32)
      else quantityOf productId (storedItems c.shared userId) := by
  cases h with
  | act h => exact quantityOf_addToItems (served_addItem_ok h)

/-- A call of `PlaceOrder` keeps the stored lines or loses them. -/
theorem call_step {e : CheckoutEvent} (h : Step (shop valkey userId) c (.call i e) c') :
    storedItems c'.shared userId = storedItems c.shared userId ∨
      storedItems c'.shared userId = [] := by
  cases h with
  | @call s s' procs i o k hproc r h =>
    cases o with
    | getCart user =>
      rcases h with ⟨_, hserved, -⟩ | ⟨rfl, -⟩
      · exact served_getCart hserved
      · exact .inl rfl
    | emptyCart user =>
      rcases h with ⟨_, hserved, -⟩ | ⟨rfl, -⟩
      · exact served_emptyCart hserved
      · exact .inl rfl
    | _ =>
      obtain rfl : s' = s := h
      exact .inl rfl

theorem getCart_step {cart : Cart}
    (h : Step (shop valkey userId) c (.call i ⟨.getCart userId, .ok cart⟩) c') :
    cart.items = storedItems c.shared userId ∧
      storedItems c'.shared userId = storedItems c.shared userId := by
  cases h with
  | call hproc h =>
    rcases h with ⟨r, hserved, hr⟩ | ⟨-, err, hreply⟩
    · obtain rfl := hr cart rfl
      exact served_getCart_ok hserved
    · cases hreply

theorem emptyCart_step
    (h : Step (shop valkey userId) c (.call i ⟨.emptyCart userId, .ok ()⟩) c') :
    storedItems c'.shared userId = [] := by
  cases h with
  | call hproc h =>
    rcases h with ⟨r, hserved, hr⟩ | ⟨-, err, hreply⟩
    · obtain rfl := hr () rfl
      exact served_emptyCart_ok hserved
    · cases hreply

/-- Calls on the cart store. -/
def Call.isCartCall : Call → Bool
  | .getCart _ | .emptyCart _ => true
  | _ => false

theorem Call.IsAftermath.not_cartCall {o : Call} (h : o.IsAftermath) : o.isCartCall = false := by
  cases o <;> first | rfl | exact h.elim

theorem other_step {e : CheckoutEvent} (he : e.op.isCartCall = false)
    (h : Step (shop valkey userId) c (.call i e) c') : c'.shared = c.shared := by
  cases h with
  | @call s s' procs i o k hproc r h =>
    cases o with
    | getCart user => cases he
    | emptyCart user => cases he
    | _ => exact h

end

/-! ## A sample order -/

def bulb : CartItem := ⟨"bulb", 1⟩

/-- The store after one more bulb in the cart of the user `u1`. -/
def withBulb (db : Db) : Db := ((addItem "v" "u1" bulb).exec (respond "v") db).2

/-- The store with the cart of the user `u1` emptied. -/
def emptied (db : Db) : Db := ((emptyCart "v" "u1").exec (respond "v") db).2

/-- The sample order of one bulb, shipped. -/
def bulbOrder : List CheckoutEvent × Outcome :=
  sampleRun 1 (.ok ⟨200, .json (.obj [("tracking_id", .str "t1")])⟩)

/-- Its calls before `EmptyCart`. -/
def bulbCharged : List CheckoutEvent := bulbOrder.1.take 9

/-- Its calls after `EmptyCart`. -/
def bulbAftermath : List CheckoutEvent := bulbOrder.1.drop 10

theorem bulbOrder_eq :
    bulbOrder.1 = bulbCharged ++ ⟨.emptyCart "u1", .ok ()⟩ :: bulbAftermath := by
  have hany : (bulbOrder.1[9]?.any fun e => match e.op with
      | .emptyCart user => user == "u1"
      | _ => false) = true := by decide +kernel
  obtain ⟨⟨op, reply⟩, hget, hop⟩ := (Option.any_eq_true _ _).mp hany
  obtain ⟨hlt, hget⟩ := List.getElem?_eq_some_iff.mp hget
  have hmem : (⟨op, reply⟩ : CheckoutEvent) ∈ bulbOrder.1 := hget ▸ List.getElem_mem hlt
  have hreply := reply_of_mem_answered hmem
  cases op with
  | emptyCart user =>
    obtain rfl : user = "u1" := of_decide_eq_true hop
    obtain rfl : reply = .ok () := hreply
    unfold bulbCharged bulbAftermath
    rw [← hget, ← List.drop_eq_getElem_cons hlt, List.take_append_drop]
  | _ => cases hop

theorem bulbOrder_returned :
    ∃ order, bulbOrder.2 = .returned order ∧ order.items.map OrderItem.item = [bulb] := by
  have hout : (match bulbOrder.2 with
      | .returned order => order.items.map OrderItem.item == [bulb]
      | _ => false) = true := by decide +kernel
  split at hout
  · rename_i order horder
    exact ⟨order, horder, beq_iff_eq.mp hout⟩
  · cases hout

section

variable [DecidableEq ι]

theorem addBulb_step {db : Db} (h : ((addItem "v" "u1" bulb).exec (respond "v") db).1 = .ok ())
    (procs : ι → Checkout Outcome) :
    Step (shop "v" "u1") ⟨db, procs⟩ (.act bulb) ⟨withBulb db, procs⟩ := by
  have hserved := served_exec (answers_respond "v") (addItem "v" "u1" bulb) db
  rw [h] at hserved
  exact .act hserved

/-- A call that leaves the cart of the user `u1` as it is. -/
def Call.isQuiet : Call → Bool
  | .getCart user => user == "u1"
  | .emptyCart _ => false
  | _ => true

/-- Quiet calls change nothing, when the cart that they read is the one that is stored. -/
theorem answer_of_isQuiet {db : Db} {cart : Cart}
    (hdb : (getCart "v" "u1").exec (respond "v") db = (.ok cart, db)) {e : CheckoutEvent}
    (hop : e.op.isQuiet = true) (hread : ∀ reply, e = ⟨.getCart "u1", reply⟩ → reply = .ok cart) :
    (shop "v" "u1").answer db e.op e.reply db := by
  obtain ⟨op, reply⟩ := e
  cases op with
  | getCart user =>
    obtain rfl : user = "u1" := of_decide_eq_true hop
    obtain rfl := hread reply rfl
    have hserved := served_exec (answers_respond "v") (getCart "v" "u1") db
    rw [hdb] at hserved
    exact .inl ⟨_, hserved, by rintro _ ⟨⟩; rfl⟩
  | emptyCart user => cases hop
  | _ => rfl

/-- The calls before `EmptyCart` read one bulb and change nothing. -/
theorem answer_of_mem_bulbCharged {e : CheckoutEvent} (he : e ∈ bulbCharged) :
    (shop "v" "u1").answer (withBulb noCarts) e.op e.reply (withBulb noCarts) := by
  have hall : (bulbCharged.all fun e => e.op.isQuiet) = true := by decide +kernel
  refine answer_of_isQuiet rfl (List.all_eq_true.mp hall e he) ?_
  rintro reply rfl
  exact reply_of_mem_answered (List.mem_of_mem_take he)

theorem answer_emptyCart {db : Db} (h : ((emptyCart "v" "u1").exec (respond "v") db).1 = .ok ()) :
    (shop "v" "u1").answer db (.emptyCart "u1") (.ok ()) (emptied db) := by
  have hserved := served_exec (answers_respond "v") (emptyCart "v" "u1") db
  rw [h] at hserved
  exact .inl ⟨_, hserved, by rintro ⟨⟩ -; rfl⟩

theorem answer_of_mem_bulbAftermath {db : Db} {e : CheckoutEvent} (he : e ∈ bulbAftermath) :
    (shop "v" "u1").answer db e.op e.reply db := by
  have hall : (bulbAftermath.all fun e => !e.op.isCartCall) = true := by decide +kernel
  have hop := List.all_eq_true.mp hall e he
  obtain ⟨op, reply⟩ := e
  cases op with
  | getCart user => cases hop
  | emptyCart user => cases hop
  | _ => rfl

/-- One invocation gets as far as its `EmptyCart`, with one bulb in the cart. -/
theorem run_bulbCharged {procs : ι → Checkout Outcome} {i : ι}
    (hproc : procs i = placeOrder {} sampleRequest) :
    ∃ q, Steps q (⟨.emptyCart "u1", .ok ()⟩ :: bulbAftermath) (.pure bulbOrder.2) ∧
      Run (shop "v" "u1") ⟨withBulb noCarts, procs⟩ (bulbCharged.map (.call i))
        ⟨withBulb noCarts, Function.update procs i q⟩ := by
  have hsteps : Steps (procs i) bulbOrder.1 (.pure bulbOrder.2) := by
    rw [hproc]
    exact runs_answered _ _
  rw [bulbOrder_eq] at hsteps
  obtain ⟨q, hcharged, hrest⟩ := hsteps.split
  exact ⟨q, hrest, run_of_steps hcharged fun e he => answer_of_mem_bulbCharged he⟩

end

/-- A bulb is ordered, and a second one is added before the cart is emptied. -/
def lateBulb : List (Label Unit Reply CartItem) :=
  [.act bulb] ++ bulbCharged.map (.call ()) ++ [.act bulb] ++
    .call () ⟨.emptyCart "u1", .ok ()⟩ :: bulbAftermath.map (.call ())

theorem trace_lateBulb : trace () lateBulb = bulbOrder.1 := by
  rw [bulbOrder_eq]
  unfold lateBulb
  rw [trace_append, trace_append, trace_append, trace_map_call, trace_call_self, trace_map_call]
  simp [trace_act]

theorem added_lateBulb : added "bulb" lateBulb = 2 := by
  unfold lateBulb
  rw [added_append, added_append, added_append, added_cons _ (.call () _), added_map_call,
    added_map_call, added_call, added_act]
  decide

theorem emptyCart_lateBulb {reply : Except String Unit}
    (h : .call () ⟨.emptyCart "u1", reply⟩ ∈ lateBulb) : reply = .ok () := by
  have hmem := mem_trace.mpr h
  rw [trace_lateBulb] at hmem
  exact reply_of_mem_answered hmem

theorem run_lateBulb : Run (shop "v" "u1") ⟨noCarts, fun _ => placeOrder {} sampleRequest⟩
    lateBulb ⟨emptied (withBulb (withBulb noCarts)), fun _ => .pure bulbOrder.2⟩ := by
  have hfirst : Step (shop "v" "u1") ⟨noCarts, fun _ : Unit => placeOrder {} sampleRequest⟩
      (.act bulb) ⟨withBulb noCarts, fun _ => placeOrder {} sampleRequest⟩ := addBulb_step rfl _
  obtain ⟨q, hrest, hcharged⟩ :=
    @run_bulbCharged Unit _ (fun _ => placeOrder {} sampleRequest) () rfl
  cases hrest with
  | cons _ haftermath =>
    rename_i k
    have hsecond : Step (shop "v" "u1")
        ⟨withBulb noCarts, fun _ : Unit => .call (.emptyCart "u1") k⟩
        (.act bulb) ⟨withBulb (withBulb noCarts), fun _ => .call (.emptyCart "u1") k⟩ :=
      addBulb_step rfl _
    have hempty : (shop "v" "u1").answer (withBulb (withBulb noCarts)) (.emptyCart "u1") (.ok ())
        (emptied (withBulb (withBulb noCarts))) := answer_emptyCart rfl
    have hclear : Step (shop "v" "u1") ⟨withBulb (withBulb noCarts), fun _ : Unit =>
        .call (.emptyCart "u1") k⟩ (.call () ⟨.emptyCart "u1", .ok ()⟩)
        ⟨emptied (withBulb (withBulb noCarts)),
          Function.update (fun _ => .call (.emptyCart "u1") k) () (k (.ok ()))⟩ :=
      @Step.call _ _ _ _ _ Unit _ _ _ _ (fun _ => .call (.emptyCart "u1") k) () _ _ rfl _ hempty
    have hlast : Run (shop "v" "u1") ⟨emptied (withBulb (withBulb noCarts)), fun _ : Unit =>
        k (.ok ())⟩ (bulbAftermath.map (.call ()))
        ⟨emptied (withBulb (withBulb noCarts)), fun _ => .pure bulbOrder.2⟩ :=
      run_of_steps haftermath fun e he => answer_of_mem_bulbAftermath he
    have hcharge := ((run_singleton.mpr hfirst).append hcharged).append (run_singleton.mpr hsecond)
    exact run_append_cons.mpr ⟨_, _, hcharge, hclear, hlast⟩

/-! ## Conservation -/

section

variable [DecidableEq ι] {valkey userId productId : String}
  {c c' : Config ι Call Reply Db Outcome} {ls : List (Label ι Reply CartItem)}

/-- With no call on the cart store, the stored quantity grows by what is added. -/
theorem stock_of_run (h : Run (shop valkey userId) c ls c')
    (hcalls : ∀ i e, .call i e ∈ ls → e.op.isCartCall = false) {stock : Int}
    (hstock : quantityOf productId (storedItems c.shared userId) = stock.bmod (2 ^ 32)) :
    quantityOf productId (storedItems c'.shared userId) =
      (stock + added productId ls).bmod (2 ^ 32) := by
  induction h with
  | nil => simpa using hstock
  | @snoc c₁ c₂ ls l before step ih =>
    have hbefore := ih fun i e he => hcalls i e (List.mem_append_left _ he)
    rw [added_append]
    cases l with
    | call i e =>
      rw [other_step (hcalls i e (by simp)) step, hbefore, added_call, add_zero]
    | act item =>
      rw [act_step step, hbefore, added_act]
      split
      · rw [Int.bmod_add_bmod, add_assoc]
      · rw [add_zero]

end

/-- A preparation reads the cart first, and never calls the cart store again. -/
theorem Preparation.trace_eq {req : PlaceOrderRequest} (P : Preparation req) :
    ∃ rest, P.trace = ⟨.getCart req.userId, .ok P.cart⟩ :: rest ∧
      ∀ e ∈ rest, e.op.isCartCall = false := by
  refine ⟨P.lines.flatMap (PricedLine.trace req.userCurrency) ++
    [⟨.getQuote (shippingPayload req.address P.cart.items), P.quoteAnswer⟩,
      ⟨.convert (some P.shippingUSD) req.userCurrency, .ok P.shippingPrice⟩], rfl, ?_⟩
  intro e he
  simp only [PricedLine.trace, List.mem_append, List.mem_flatMap, List.mem_cons,
    List.not_mem_nil, or_false] at he
  rcases he with ⟨l, -, rfl | rfl⟩ | rfl | rfl <;> rfl

/-- The order has the cart lines, in order. -/
theorem Preparation.orderItems_item {req : PlaceOrderRequest} (P : Preparation req) :
    P.orderItems.map OrderItem.item = P.cart.items := by
  rw [P.lines_item]
  simp [Preparation.orderItems, PricedLine.orderItem]

/-- The calls of a run that returned an order, around its two calls on the cart store. -/
theorem trace_of_returned {cs : CheckoutService} {req : PlaceOrderRequest}
    {t : List CheckoutEvent} {order : OrderResult}
    (h : Runs (placeOrder cs req) t (.returned order)) :
    ∃ before between after cart reply,
      t = before ++ ⟨.getCart req.userId, .ok cart⟩ ::
        (between ++ ⟨.emptyCart req.userId, reply⟩ :: after) ∧
      (∀ e ∈ before ++ between ++ after, e.op.isCartCall = false) ∧
      order.items.map OrderItem.item = cart.items := by
  cases placeOrder_run h with
  | prepared orderID P hrun =>
    obtain ⟨rest, hP, hrest⟩ := P.trace_eq
    have horder := hrun.items_of_returned rfl
    cases hrun with
    | @shipped total htotal flag svcAddr tx answer trackingID hread reply after hafter _ hout =>
      refine ⟨[⟨.newUUID, .ok orderID⟩], rest ++ [⟨.booleanFlag "paymentUnreachable", flag⟩,
        ⟨.charge svcAddr total req.creditCard, .ok tx⟩,
        ⟨.shipOrder (shippingPayload req.address P.orderPrep.cartItems), answer⟩], after, P.cart,
        reply, ?_, ?_, ?_⟩
      · rw [hP]
        simp
      · intro e he
        simp only [List.mem_append, List.mem_cons, List.not_mem_nil, or_false] at he
        rcases he with (rfl | he | rfl | rfl | rfl) | he
        · rfl
        · exact hrest e he
        · rfl
        · rfl
        · rfl
        · exact (hafter e he).not_cartCall
      · rw [horder]
        exact P.orderItems_item

/-- **Checkout keeps what it reads and what comes after it.** One `PlaceOrder` that returns an
order after a successful `EmptyCart`, in any interleaving with additions to an empty cart: the
order has what was added before the cart was read, and the cart has what was added after it
was emptied, both as `int32`. What was added in between is in neither. -/
theorem checkout_conservation {valkey : String} {cs : CheckoutService} {req : PlaceOrderRequest}
    {db db' : Db} {ls : List (Label Unit Reply CartItem)} {order : OrderResult}
    (h : Run (shop valkey req.userId) ⟨db, fun _ : Unit => placeOrder cs req⟩ ls
      ⟨db', fun _ => .pure (.returned order)⟩)
    (hempty : storedItems db req.userId = [])
    (hok : ∀ reply, .call () ⟨.emptyCart req.userId, reply⟩ ∈ ls → reply = .ok ()) :
    ∃ before between after cart,
      ls = before ++ .call () ⟨.getCart req.userId, .ok cart⟩ ::
        (between ++ .call () ⟨.emptyCart req.userId, .ok ()⟩ :: after) ∧
      ∀ productId,
        quantityOf productId (order.items.map OrderItem.item) =
          (added productId before).bmod (2 ^ 32) ∧
        quantityOf productId (storedItems db' req.userId) =
          (added productId after).bmod (2 ^ 32) := by
  obtain ⟨t₁, t₂, t₃, cart, reply, htrace, hcalls, hitems⟩ := trace_of_returned (h.steps ())
  obtain ⟨before, rest, rfl, hbefore, hrest⟩ := exists_split_of_trace htrace
  obtain ⟨between, after, rfl, hbetween, hafter⟩ := exists_split_of_trace hrest
  obtain rfl : reply = .ok () := hok reply (by simp)
  refine ⟨before, between, after, cart, rfl, ?_⟩
  intro productId
  have hquiet : ∀ ls' : List (Label Unit Reply CartItem),
      (∀ e ∈ trace () ls', e.op.isCartCall = false) →
      ∀ i e, .call i e ∈ ls' → e.op.isCartCall = false :=
    fun ls' hls' i e he => hls' e (mem_trace.mpr he)
  obtain ⟨c₁, c₂, hrun₁, hread, hrun₂⟩ := run_append_cons.mp h
  obtain ⟨c₃, c₄, -, hclear, hrun₃⟩ := run_append_cons.mp hrun₂
  have hstart : quantityOf productId (storedItems db req.userId) = (0 : Int).bmod (2 ^ 32) := by
    rw [hempty]
    rfl
  have hcleared : quantityOf productId (storedItems c₄.shared req.userId) =
      (0 : Int).bmod (2 ^ 32) := by
    rw [emptyCart_step hclear]
    rfl
  have hfirst := stock_of_run hrun₁ (hquiet _ fun e he => hcalls e (by simp [← hbefore, he])) hstart
  have hlast := stock_of_run hrun₃ (hquiet _ fun e he => hcalls e (by simp [← hafter, he])) hcleared
  rw [zero_add] at hfirst hlast
  rw [hitems, (getCart_step hread).1]
  exact ⟨hfirst, hlast⟩

/-- The order with a late bulb. -/
theorem checkout_conservation_late_bulb : ∃ order, bulbOrder.2 = .returned order ∧
    ∃ before between after cart,
      lateBulb = before ++ .call () ⟨.getCart "u1", .ok cart⟩ ::
        (between ++ .call () ⟨.emptyCart "u1", .ok ()⟩ :: after) ∧
      ∀ productId,
        quantityOf productId (order.items.map OrderItem.item) =
          (added productId before).bmod (2 ^ 32) ∧
        quantityOf productId (storedItems (emptied (withBulb (withBulb noCarts))) "u1") =
          (added productId after).bmod (2 ^ 32) := by
  obtain ⟨order, horder, -⟩ := bulbOrder_returned
  have hrun := run_lateBulb
  rw [horder] at hrun
  exact ⟨order, horder, @checkout_conservation "v" {} sampleRequest noCarts _ lateBulb order hrun
    rfl fun _ => emptyCart_lateBulb⟩

/-- Two bulbs are added, one is ordered, and the cart is empty. -/
theorem late_bulb_lost :
    ¬ ∀ (ls : List (Label Unit Reply CartItem)) (order : OrderResult) (db' : Db),
      Run (shop "v" "u1") ⟨noCarts, fun _ : Unit => placeOrder {} sampleRequest⟩ ls
        ⟨db', fun _ => .pure (.returned order)⟩ →
      (∀ reply, .call () ⟨.emptyCart "u1", reply⟩ ∈ ls → reply = .ok ()) →
      ∀ productId, added productId ls ≤
        quantityOf productId (order.items.map OrderItem.item) +
          quantityOf productId (storedItems db' "u1") := by
  intro h
  obtain ⟨order, horder, hitems⟩ := bulbOrder_returned
  have hrun := run_lateBulb
  rw [horder] at hrun
  have hle := h lateBulb order _ hrun (fun _ => emptyCart_lateBulb) "bulb"
  rw [added_lateBulb, hitems] at hle
  exact absurd hle (by decide)

end AstronomyShop
