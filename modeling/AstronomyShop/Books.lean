import AstronomyShop.Accounting.Redelivery
import AstronomyShop.Cart.UniqueLines
import AstronomyShop.Checkout.Sending
import AstronomyShop.Checkout.SharedCart

/-!
# The books of the shop

Checkouts of any number of customers take turns with requests to the cart service. Each shipped
order is sent to Kafka, and the accounting service stores what it gets from there, in any order and
any number of times. What is stored of an order adds up to what its card was charged
(`books_balance`).

No cart lists a product twice, so that no order does; that is what accounting relies on when it uses
the product as part of a key.
-/

namespace AstronomyShop

open Interaction CartService UnitOfWork

/-! ## The storefront -/

/-- The cart store as `PlaceOrder` calls it, with requests of any users in between. The answers of
`shop` do not depend on its user. -/
def storefront (valkey : String) : World Call Reply Db Request where
  answer := (shop valkey "").answer
  act db request db' := ∃ r, Served (Answers valkey) (request.handle valkey) db r db'

/-- A cart that is read lists no product twice. -/
def CartReadUnique (e : CheckoutEvent) : Prop :=
  ∀ userId cart, e = ⟨.getCart userId, .ok cart⟩ → UniqueLines cart.items

section

variable {valkey : String} {db db' : Db}

/-- **What one call of a checkout keeps.** -/
theorem storefront_answer (hdb : LinesUnique db) {e : CheckoutEvent}
    (h : (storefront valkey).answer db e.op e.reply db') : LinesUnique db' ∧ CartReadUnique e := by
  obtain ⟨o, reply⟩ := e
  cases o with
  | getCart user =>
    rcases h with ⟨r, hserved, hr⟩ | ⟨rfl, err, hreply⟩
    · refine ⟨served_linesUnique hdb hserved fun t a hrun => (getCartAsync_dependable hrun).1, ?_⟩
      rintro userId cart ⟨⟩
      obtain rfl := hr cart rfl
      rw [(served_getCart_ok hserved).1]
      exact hdb user
    · refine ⟨hdb, ?_⟩
      rintro userId cart ⟨⟩
      cases hreply
  | emptyCart user =>
    refine ⟨?_, by rintro userId cart ⟨⟩⟩
    rcases h with ⟨r, hserved, -⟩ | ⟨rfl, -⟩
    · exact served_linesUnique hdb hserved fun t a hrun => (emptyCart_dependable hrun).1
    · exact hdb
  | _ =>
    obtain rfl : db' = db := h
    exact ⟨hdb, by rintro userId cart ⟨⟩⟩

def storefrontContract (valkey : String) : Contract (storefront valkey).answer where
  Inv := LinesUnique
  Routine _ := True
  Fine := CartReadUnique
  step hs _ h := storefront_answer hs h

variable {ι : Type} [DecidableEq ι] {c c' : Config ι Call Reply Db Outcome}
  {ls : List (Label ι Reply Request)}

/-- No checkout ever reads a cart with double lines. -/
theorem cartReadUnique_of_run (h : Run (storefront valkey) c ls c') (hc : LinesUnique c.shared)
    {i : ι} {userId : String} {cart : Cart} (hread : .call i ⟨.getCart userId, .ok cart⟩ ∈ ls) :
    UniqueLines cart.items := by
  have hrun := @Contract.run Call Reply _ Db Request ι _ _ (storefront valkey)
    (storefrontContract valkey) _ _ _ h hc
    (fun db request db' ⟨r, hserved⟩ hdb =>
      served_linesUnique hdb hserved fun t a hrun => (handle_dependable hrun).1)
    fun i t a _ => Contract.keeps_of_routine fun _ _ => trivial
  exact (hrun.2 i _ (mem_trace.mpr hread)).2 userId cart rfl

end

/-! ## Messages -/

/-- The order as the accounting service decodes it. -/
def OrderResult.toMessage (order : OrderResult) : Accounting.OrderResult where
  orderId := order.orderId
  shippingTrackingId := order.shippingTrackingId
  shippingCost := some order.shippingCost
  shippingAddress := order.shippingAddress
  items := order.items.map fun it => { item := some it.item, cost := some it.cost }

section

variable {req : PlaceOrderRequest} {t : List CheckoutEvent} {order : OrderResult}

theorem Invoiced.wellFormed (h : Invoiced req t order)
    (hlines : ∀ cart, ⟨.getCart req.userId, .ok cart⟩ ∈ t → UniqueLines cart.items)
    (haddress : order.shippingAddress.isSome = true) : order.toMessage.WellFormed := by
  refine ⟨?_, ?_, rfl, haddress⟩
  · intro item hitem
    obtain ⟨it, -, rfl⟩ := List.mem_map.mp hitem
    exact ⟨rfl, rfl⟩
  · cases h with
    | intro P orderId cart charged shipped tracking total_eq =>
      have hunique := hlines P.cart cart
      unfold UniqueLines at hunique
      rw [P.lines_item, List.map_map] at hunique
      simp only [OrderResult.toMessage, OrderPrep.orderResult, Preparation.orderPrep,
        Preparation.orderItems, List.map_map]
      exact hunique

end

/-! ## Booked amounts -/

/-- What a row contributes to the amount of its order. -/
def Accounting.Entity.amount : Accounting.Entity → Int
  | .order _ => 0
  | .orderItem row =>
    row.quantity.toInt * (row.itemCostUnits.toInt * 10 ^ 9 + row.itemCostNanos.toInt)
  | .shipping row => row.shippingCostUnits.toInt * 10 ^ 9 + row.shippingCostNanos.toInt

/-- The amount that is booked for an order. -/
def bookedTotal (orderId : String) (rows : List Accounting.Entity) : Int :=
  ((Accounting.rowsOf orderId rows).map Accounting.Entity.amount).sum

theorem sum_amount_rows (order : OrderResult) :
    (order.toMessage.rows.map Accounting.Entity.amount).sum =
      order.shippingCost.value + charges order.items := by
  have hitems : ∀ items : List OrderItem,
      ((items.map fun it => order.toMessage.itemEntity
        { item := some it.item, cost := some it.cost }).map Accounting.Entity.amount).sum =
        charges items := by
    intro items
    induction items with
    | nil => rfl
    | cons it items ih =>
      rw [List.map_cons, List.map_cons, List.sum_cons, ih, charges_cons]
      rfl
  have hsplit : order.toMessage.rows.map Accounting.Entity.amount =
      0 :: ((order.items.map fun it => order.toMessage.itemEntity
        { item := some it.item, cost := some it.cost }).map Accounting.Entity.amount ++
          [order.shippingCost.value]) := by
    simp only [Accounting.OrderResult.rows, OrderResult.toMessage, List.map_cons, List.map_append,
      List.map_map, List.map_nil]
    rfl
  rw [hsplit, List.sum_cons, List.sum_append, hitems, List.sum_singleton]
  omega

/-! ## Orders on their way to accounting -/

section

variable {ι : Type} [DecidableEq ι] {valkey : String} {cs : CheckoutService}
  {reqs : ι → PlaceOrderRequest} {db : Db} {ls : List (Label ι Reply Request)}
  {c : Config ι Call Reply Db Outcome} {order order' : OrderResult}

/-- The order is in a message of some checkout. -/
def Sent (ls : List (Label ι Reply Request)) (order : OrderResult) : Prop :=
  ∃ i e, .call i e ∈ ls ∧ e.op.message = some order

/-- A checkout is known by its order id and by its tracking id. -/
structure DistinctIds (ls : List (Label ι Reply Request)) : Prop where
  orderIds : ∀ i j id, .call i ⟨.newUUID, .ok id⟩ ∈ ls → .call j ⟨.newUUID, .ok id⟩ ∈ ls → i = j
  trackingIds : ∀ i j payload payload' answer answer' id,
    .call i ⟨.shipOrder payload, answer⟩ ∈ ls →
    .call j ⟨.shipOrder payload', answer'⟩ ∈ ls → readShipAnswer answer = .ok id →
      readShipAnswer answer' = .ok id → i = j

/-- The one charge of the checkout that has drawn the id of the order and has sent it. -/
structure ChargedFor (reqs : ι → PlaceOrderRequest) (ls : List (Label ι Reply Request))
    (order : OrderResult) (amount : Money) (i : ι) : Prop where
  sent : ∃ e, .call i e ∈ ls ∧ e.op.message = some order
  orderId : .call i ⟨.newUUID, .ok order.orderId⟩ ∈ ls
  charged : ∃ svcAddr tx, .call i ⟨.charge svcAddr amount (reqs i).creditCard, .ok tx⟩ ∈ ls
  once : (trace i ls).countP (fun e => e.op.isCharge) = 1

theorem exists_invoiced
    (h : Run (storefront valkey) ⟨db, fun i => placeOrder cs (reqs i)⟩ ls c)
    (hsent : Sent ls order) :
    ∃ i, (∃ e, .call i e ∈ ls ∧ e.op.message = some order) ∧
      Invoiced (reqs i) (trace i ls) order ∧
      ∀ e, .call i e ∈ ls → ∀ message, e.op.message = some message → message = order := by
  obtain ⟨i, e, he, hm⟩ := hsent
  obtain ⟨hinvoiced, hall⟩ := steps_sends (h.steps i) (mem_trace.mpr he) hm
  exact ⟨i, ⟨e, he, hm⟩, hinvoiced, fun e' he' => hall e' (mem_trace.mpr he')⟩

/-- A checkout that has charged its card has charged it once. -/
theorem charged_once (h : Run (storefront valkey) ⟨db, fun i => placeOrder cs (reqs i)⟩ ls c)
    {i : ι} {e : CheckoutEvent} (he : e ∈ trace i ls) (hcharge : e.op.isCharge = true) :
    (trace i ls).countP (fun e => e.op.isCharge) = 1 := by
  obtain ⟨t, out, hrun⟩ := (h.steps i).exists_runs
  have hle := placeOrder_charge_once hrun
  rw [List.countP_append] at hle
  exact Nat.le_antisymm ((Nat.le_add_right _ _).trans hle)
    (List.countP_pos_iff.mpr ⟨e, he, hcharge⟩)

theorem Invoiced.mem_orderId {req : PlaceOrderRequest} {t : List CheckoutEvent}
    (h : Invoiced req t order) : ⟨.newUUID, .ok order.orderId⟩ ∈ t := by
  cases h with
  | intro P orderId cart charged shipped tracking total_eq => exact orderId

theorem Invoiced.mem_trackingId {req : PlaceOrderRequest} {t : List CheckoutEvent}
    (h : Invoiced req t order) : ∃ payload answer, ⟨.shipOrder payload, answer⟩ ∈ t ∧
      readShipAnswer answer = .ok order.shippingTrackingId := by
  cases h with
  | intro P orderId cart charged shipped tracking total_eq => exact ⟨_, _, shipped, tracking⟩

/-- Two messages with one order id, or one tracking id, are the same order. -/
theorem sent_eq (h : Run (storefront valkey) ⟨db, fun i => placeOrder cs (reqs i)⟩ ls c)
    (hids : DistinctIds ls) (hsent : Sent ls order) (hsent' : Sent ls order')
    (hsame : order.orderId = order'.orderId ∨
      order.shippingTrackingId = order'.shippingTrackingId) : order = order' := by
  obtain ⟨j, e', he', hm'⟩ := hsent'
  obtain ⟨i, -, hi, hall⟩ := exists_invoiced h hsent
  obtain ⟨hj, -⟩ := steps_sends (h.steps j) (mem_trace.mpr he') hm'
  have hij : i = j := by
    rcases hsame with horder | htracking
    · exact hids.orderIds i j order.orderId (mem_trace.mp hi.mem_orderId)
        (horder ▸ mem_trace.mp hj.mem_orderId)
    · obtain ⟨payload, answer, hship, hread⟩ := hi.mem_trackingId
      obtain ⟨payload', answer', hship', hread'⟩ := hj.mem_trackingId
      exact hids.trackingIds i j _ _ _ _ _ (mem_trace.mp hship) (mem_trace.mp hship') hread
        (htracking ▸ hread')
  subst hij
  exact (hall e' he' order' hm').symm

/-- Orders from the storefront are stored as they are, and nothing else. -/
theorem stored_sent {admits : Accounting.Entity → Bool}
    (h : Run (storefront valkey) ⟨db, fun i => placeOrder cs (reqs i)⟩ ls c)
    (hdb : LinesUnique db) (hids : DistinctIds ls) {orders : List OrderResult}
    (hsent : ∀ order ∈ orders, Sent ls order)
    (haddress : ∀ order ∈ orders, order.shippingAddress.isSome = true)
    (hadmits : ∀ order ∈ orders, ∀ row ∈ order.toMessage.rows, admits row = true) :
    let stored := (Accounting.processAll (Tables.empty (S := Accounting.schema admits))
      (Accounting.delivered (orders.map OrderResult.toMessage))).tables.rows
    (∀ order ∈ orders, Accounting.rowsOf order.orderId stored = order.toMessage.rows) ∧
      ∀ row ∈ stored, ∃ order ∈ orders, row ∈ order.toMessage.rows := by
  have hwell : ∀ message ∈ orders.map OrderResult.toMessage, message.WellFormed := by
    intro message hmessage
    obtain ⟨order, horder, rfl⟩ := List.mem_map.mp hmessage
    obtain ⟨i, -, hi, -⟩ := exists_invoiced h (hsent order horder)
    refine hi.wellFormed (fun cart hcart => ?_) (haddress order horder)
    exact cartReadUnique_of_run h hdb (mem_trace.mp hcart)
  have htracking : ∀ m ∈ orders.map OrderResult.toMessage, ∀ m' ∈ orders.map OrderResult.toMessage,
      m.shippingTrackingId = m'.shippingTrackingId → m.orderId = m'.orderId := by
    intro m hm m' hm' hsame
    obtain ⟨order, horder, rfl⟩ := List.mem_map.mp hm
    obtain ⟨order', horder', rfl⟩ := List.mem_map.mp hm'
    rw [sent_eq h hids (hsent order horder) (hsent order' horder') (.inr hsame)]
  have hrows : ∀ m ∈ orders.map OrderResult.toMessage, ∀ row ∈ m.rows, admits row = true := by
    intro m hm
    obtain ⟨order, horder, rfl⟩ := List.mem_map.mp hm
    exact hadmits order horder
  have hstored := (Accounting.stored_delivered hwell htracking hrows).2
  refine ⟨fun order horder => ?_, fun row hrow => ?_⟩
  · rw [hstored]
    cases hfirst : Accounting.firstDelivery (orders.map OrderResult.toMessage) order.orderId with
    | none =>
      rw [Accounting.firstDelivery_eq_none_iff, List.map_map] at hfirst
      exact absurd (List.mem_map.mpr ⟨order, horder, rfl⟩) hfirst
    | some message =>
      obtain ⟨first, hmem, rfl⟩ := List.mem_map.mp (List.mem_of_find?_eq_some hfirst)
      have hid : first.toMessage.orderId = order.orderId := by
        simpa using List.find?_some hfirst
      rw [sent_eq h hids (hsent first hmem) (hsent order horder) (.inl hid)]
      rfl
  · have hmem : row ∈ Accounting.rowsOf row.orderId (Accounting.processAll Tables.empty
        (Accounting.delivered (orders.map OrderResult.toMessage))).tables.rows :=
      List.mem_filter.mpr ⟨hrow, by simp⟩
    rw [hstored] at hmem
    cases hfirst : Accounting.firstDelivery (orders.map OrderResult.toMessage) row.orderId with
    | none =>
      rw [hfirst] at hmem
      cases hmem
    | some message =>
      rw [hfirst] at hmem
      obtain ⟨first, hfirstMem, rfl⟩ := List.mem_map.mp (List.mem_of_find?_eq_some hfirst)
      exact ⟨first, hfirstMem, hmem⟩

/-- **The books balance.** However checkouts and cart requests take turns, and in whatever order and
number their messages arrive: of each order that arrives its rows are stored, and they add up to the
amount that its checkout has charged. The database never fails to save here, and an order without an
address is not among the messages: nothing of it would be stored. -/
theorem books_balance {admits : Accounting.Entity → Bool} (valkey : String) (cs : CheckoutService)
    (reqs : ι → PlaceOrderRequest) (db : Db) (hdb : LinesUnique db)
    (ls : List (Label ι Reply Request)) (c : Config ι Call Reply Db Outcome)
    (h : Run (storefront valkey) ⟨db, fun i => placeOrder cs (reqs i)⟩ ls c)
    (hids : DistinctIds ls) (orders : List OrderResult)
    (hsent : ∀ order ∈ orders, Sent ls order)
    (haddress : ∀ order ∈ orders, order.shippingAddress.isSome = true)
    (hadmits : ∀ order ∈ orders, ∀ row ∈ order.toMessage.rows, admits row = true) :
    let stored := (Accounting.processAll (Tables.empty (S := Accounting.schema admits))
      (Accounting.delivered (orders.map OrderResult.toMessage))).tables.rows
    (∀ row ∈ stored, ∃ order ∈ orders, row ∈ order.toMessage.rows) ∧
      ∀ order ∈ orders, Accounting.rowsOf order.orderId stored = order.toMessage.rows ∧
        ∃ i amount, ChargedFor reqs ls order amount i ∧
          (Chargeable order.shippingCost order.items →
            bookedTotal order.orderId stored = amount.value) := by
  obtain ⟨hrows, hnothing⟩ := stored_sent h hdb hids hsent haddress hadmits
  refine ⟨hnothing, fun order horder => ⟨hrows order horder, ?_⟩⟩
  obtain ⟨i, hmessage, hi, -⟩ := exists_invoiced h (hsent order horder)
  cases hi with
  | intro P orderId cart charged shipped tracking total_eq =>
    refine ⟨i, _, ⟨hmessage, mem_trace.mp orderId, ⟨_, _, mem_trace.mp charged⟩,
      charged_once h charged rfl⟩, fun hamounts => ?_⟩
    unfold bookedTotal
    rw [hrows _ horder, sum_amount_rows]
    exact (orderTotal_value hamounts total_eq).1.symm

end

/-! ## A sample -/

/-- A reply of the storefront, with the cart store up. -/
def bookReply : (o : Call) → Db → Reply o × Db
  | .getCart user, db =>
    let (r, db') := (CartService.getCart "v" user).exec (respond "v") db
    (r.mapError RpcException.detail, db')
  | .emptyCart user, db =>
    let (r, db') := (CartService.emptyCart "v" user).exec (respond "v") db
    (r.mapError RpcException.detail, db')
  | o, db => (sampleReply 1 (.ok ⟨200, .json (.obj [("tracking_id", .str "t1")])⟩) o, db)

theorem rpcAnswered_mapError {α : Type} {handler : Service (Except RpcException α)} (db : Db) :
    RpcAnswered "v" handler db ((handler.exec (respond "v") db).1.mapError RpcException.detail)
      (handler.exec (respond "v") db).2 := by
  refine .inl ⟨_, served_exec (answers_respond "v") handler db, fun a ha => ?_⟩
  cases hr : (handler.exec (respond "v") db).1 with
  | error ex =>
    rw [hr] at ha
    cases ha
  | ok b =>
    rw [hr] at ha
    cases ha
    rfl

theorem answer_bookReply (o : Call) (db : Db) :
    (storefront "v").answer db o (bookReply o db).1 (bookReply o db).2 := by
  cases o with
  | getCart user => exact rpcAnswered_mapError db
  | emptyCart user => exact rpcAnswered_mapError db
  | _ => rfl

/-- A bulb is in the cart and is ordered. -/
def bookedBulb : List (Label Unit Reply Request) × Config Unit Call Reply Db Outcome :=
  schedule bookReply (List.replicate 14 ())
    ⟨withBulb noCarts, fun _ => placeOrder ⟨"pay", "kafka:9092", true⟩
      { sampleRequest with address := some ⟨"Pier 39", "SF", "CA", "US", "94133"⟩ }⟩

/-- The message about it. -/
def bulbMessages : List OrderResult :=
  (trace () bookedBulb.1).filterMap fun e => e.op.message

/-- The order of the bulb. -/
def bookedOrder : OrderResult where
  orderId := "o1"
  shippingTrackingId := "t1"
  shippingCost := ⟨"USD", 5, 0⟩
  shippingAddress := some ⟨"Pier 39", "SF", "CA", "US", "94133"⟩
  items := [⟨bulb, ⟨"USD", 10, 500000000⟩⟩]

theorem bulbMessages_eq : bulbMessages = [bookedOrder] := by decide +kernel

theorem chargeable_bookedOrder : Chargeable bookedOrder.shippingCost bookedOrder.items where
  shipping_valid := by decide
  shipping_nonneg := by decide
  lines := by
    intro it hit
    obtain rfl := List.mem_singleton.mp hit
    exact ⟨by decide, by decide, by decide⟩
  range := by decide

theorem linesUnique_withBulb : LinesUnique (withBulb noCarts) :=
  served_linesUnique linesUnique_noCarts
    (served_exec (answers_respond "v") (addItem "v" "u1" bulb) noCarts) fun _ _ hrun =>
      (addItemAsync_dependable hrun).1

theorem sent_bookedOrder : Sent bookedBulb.1 bookedOrder := by
  have hmem : bookedOrder ∈ bulbMessages := bulbMessages_eq ▸ List.mem_singleton_self _
  obtain ⟨e, he, hm⟩ := List.mem_filterMap.mp hmem
  exact ⟨(), e, mem_trace.mp he, hm⟩

/-- The bulb is delivered twice, and is booked with what its card was charged. -/
theorem books_balance_bulb : ∃ amount,
    ChargedFor (fun _ : Unit => { sampleRequest with
      address := some ⟨"Pier 39", "SF", "CA", "US", "94133"⟩ }) bookedBulb.1 bookedOrder amount () ∧
      bookedTotal "o1" (Accounting.processAll (Tables.empty (S := Accounting.schema fun _ => true))
        (Accounting.delivered ([bookedOrder, bookedOrder].map OrderResult.toMessage))).tables.rows =
          amount.value := by
  have hmem : ∀ order ∈ [bookedOrder, bookedOrder], order = bookedOrder := by simp
  have hbooks := @books_balance Unit _ (fun _ => true) "v" ⟨"pay", "kafka:9092", true⟩
    (fun _ : Unit => { sampleRequest with
      address := some ⟨"Pier 39", "SF", "CA", "US", "94133"⟩ })
    (withBulb noCarts) linesUnique_withBulb bookedBulb.1 bookedBulb.2
    (run_schedule answer_bookReply _ _) ⟨fun _ _ _ _ _ => rfl, fun _ _ _ _ _ _ _ _ _ _ _ => rfl⟩
    [bookedOrder, bookedOrder] (fun order horder => hmem order horder ▸ sent_bookedOrder)
    (fun order horder => hmem order horder ▸ rfl) (fun _ _ _ _ => rfl)
  obtain ⟨-, ⟨⟩, amount, hcharge, htotal⟩ := hbooks.2 bookedOrder List.mem_cons_self
  exact ⟨amount, hcharge, htotal chargeable_bookedOrder⟩

end AstronomyShop
