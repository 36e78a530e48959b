import AstronomyShop.Library.Redelivery
import AstronomyShop.Accounting.Runs

/-!
# Orders that are delivered more than once

`ProcessMessage` does not look whether it has had an order before. The order row is added first
though, so a redelivered order makes it throw before anything is added.
-/

namespace AstronomyShop.Accounting

open UnitOfWork Redelivery

section

variable {admits : Entity → Bool} {tables : Tables (schema admits)} {orders : List OrderResult}

/-- Each order in a message that is processed while the database can be reached. -/
def delivered (orders : List OrderResult) : List Delivery :=
  orders.map fun order => ⟨.ok order, true⟩

/-- The order with this id that was delivered first. -/
def firstDelivery (orders : List OrderResult) (id : String) : Option OrderResult :=
  orders.find? fun order => order.orderId = id

theorem firstDelivery_eq_none_iff {id : String} :
    firstDelivery orders id = none ↔ id ∉ orders.map OrderResult.orderId := by
  unfold firstDelivery
  rw [List.find?_eq_none]
  simp

theorem firstDelivery_snoc_of_ne {order : OrderResult} {id : String} (h : order.orderId ≠ id) :
    firstDelivery (orders ++ [order]) id = firstDelivery orders id := by
  unfold firstDelivery
  rw [List.find?_append, List.find?_cons_of_neg (by simpa using h), List.find?_nil, Option.or_none]

theorem firstDelivery_snoc_of_mem {order : OrderResult}
    (h : order.orderId ∈ orders.map OrderResult.orderId) (id : String) :
    firstDelivery (orders ++ [order]) id = firstDelivery orders id := by
  by_cases hid : order.orderId = id
  · have hsome := mt firstDelivery_eq_none_iff.mp (not_not_intro (hid ▸ h))
    obtain ⟨first, hfirst⟩ := Option.ne_none_iff_exists'.mp hsome
    rw [hfirst]
    unfold firstDelivery at hfirst ⊢
    rw [List.find?_append, hfirst, Option.some_or]
  · exact firstDelivery_snoc_of_ne hid

theorem firstDelivery_snoc_self {order : OrderResult}
    (h : order.orderId ∉ orders.map OrderResult.orderId) :
    firstDelivery (orders ++ [order]) order.orderId = some order := by
  have hnone := firstDelivery_eq_none_iff.mpr h
  unfold firstDelivery at hnone ⊢
  rw [List.find?_append, hnone, Option.none_or]
  exact List.find?_cons_of_pos (by simp)

theorem delivered_snoc (orders : List OrderResult) (order : OrderResult) :
    delivered (orders ++ [order]) = delivered orders ++ [⟨.ok order, true⟩] :=
  List.map_append

theorem ordersOf_delivered (orders : List OrderResult) : ordersOf (delivered orders) = orders := by
  unfold ordersOf delivered
  rw [List.filterMap_map]
  exact List.filterMap_some

theorem order_mem_rowsAfter (keys : List Key) (order : OrderResult) :
    Key.order order.orderId ∈ keys ∨
      Key.order order.orderId ∈ (order.rowsAfter keys).map Entity.key := by
  unfold OrderResult.rowsAfter
  by_cases h : Key.order order.orderId ∈ keys
  · exact .inl h
  rw [if_neg h]
  refine .inr ?_
  split
  · exact List.mem_cons_self
  · exact List.mem_cons_self

theorem order_mem_trackedRows {messages : List Message} {order : OrderResult}
    (h : .ok order ∈ messages) :
    Key.order order.orderId ∈ (trackedRows messages).map Entity.key := by
  induction messages using List.reverseRecOn with
  | nil => cases h
  | append_singleton messages message ih =>
    rw [trackedRows_snoc, List.map_append, List.mem_append]
    rcases List.mem_append.mp h with h | h
    · exact .inl (ih h)
    · rw [← List.mem_singleton.mp h]
      exact order_mem_rowsAfter _ order

/-- The order ids that are tracked are those of the orders so far. -/
theorem order_mem_keys_iff {deliveries : List Delivery} {id : String} :
    Key.order id ∈ (processAll tables deliveries).tracker.keys ↔
      id ∈ (ordersOf deliveries).map OrderResult.orderId := by
  constructor
  · intro hmem
    obtain ⟨order, horder, h | ⟨p, h⟩ | h⟩ := mem_keys_processAll hmem
    · rw [Key.order.inj h]
      exact List.mem_map_of_mem horder
    · cases h
    · cases h
  · intro h
    obtain ⟨order, horder, rfl⟩ := List.mem_map.mp h
    rw [Tracker.keys_eq, tracker_processAll]
    exact order_mem_trackedRows (List.mem_map.mpr (mem_ordersOf.mp horder))

/-- A redelivered order changes nothing. -/
theorem process_of_known {c : DbContext (schema admits)} {delivery : Delivery} {order : OrderResult}
    (hmessage : delivery.message = .ok order) (h : Key.order order.orderId ∈ c.tracker.keys) :
    process c delivery = c := by
  have hthrows : Throws (track order) c.tracker [] := (throws_add h).bind
  obtain ⟨tracker, e, hextends, hrun⟩ := hthrows
  obtain rfl := hextends.eq_of_nil
  unfold process
  simp only [hmessage, hrun]

theorem processAll_firsts (tables : Tables (schema admits)) (orders : List OrderResult) :
    processAll tables (delivered orders) =
      processAll tables (delivered (firsts OrderResult.orderId orders)) := by
  unfold processAll delivered
  rw [List.foldl_map, List.foldl_map]
  apply foldl_firsts
  intro orders order hmem
  apply process_of_known rfl
  have hkeys : Key.order order.orderId ∈ (processAll tables (delivered orders)).tracker.keys := by
    rw [order_mem_keys_iff, ordersOf_delivered]
    exact hmem
  unfold processAll delivered at hkeys
  rw [List.foldl_map] at hkeys
  exact hkeys

/-- A new order is saved when nothing was refused before. -/
theorem processAll_new {order : OrderResult} (hwell : order.WellFormed)
    (hnew : ∀ earlier ∈ orders, earlier.orderId ≠ order.orderId ∧
      earlier.shippingTrackingId ≠ order.shippingTrackingId)
    (hadmits : ∀ earlier ∈ orders ++ [order], ∀ row ∈ earlier.rows, admits row = true)
    {c c' : DbContext (schema admits)} (hc : c = processAll Tables.empty (delivered orders))
    (hc' : c' = processAll Tables.empty (delivered (orders ++ [order]))) :
    c'.tracker.pending = [] ∧
      c'.tables.rows = c.tables.rows ++ (c.tracker.pending ++ order.rows) := by
  have hprocessed : Processed c ⟨.ok order, true⟩ c' := by
    rw [hc, hc', delivered_snoc]
    exact processed_snoc _ _ _
  have haddable : order.Addable c.tracker.keys := by
    rw [hc]
    exact addable_processAll hwell ((ordersOf_delivered orders).symm ▸ hnew)
  have hrows : ∀ row ∈ c.tracker.rows ++ order.rows,
      admits row = true ∧ row.key ∉ (Tables.empty (S := schema admits)).keys := by
    intro row hrow
    refine ⟨?_, List.not_mem_nil⟩
    rcases List.mem_append.mp hrow with hrow | hrow
    · rw [hc] at hrow
      obtain ⟨earlier, hearlier, hrow⟩ := mem_tracker_processAll hrow
      rw [ordersOf_delivered] at hearlier
      exact hadmits earlier (List.mem_append_left _ hearlier) row hrow
    · exact hadmits order (List.mem_append_right _ (List.mem_singleton_self _)) row hrow
  have hreached : DbContext.Reached Tables.empty c := hc ▸ reached_processAll _ _
  have howned : Owned c.tracker.rows := hc ▸ owned_processAll _ _
  rcases hprocessed.of_addable hreached howned haddable with ⟨-, hsaved⟩ | ⟨hrefused, -⟩
  · exact hsaved
  · exact absurd hrows hrefused

/-- Orders that are fine are stored as they come first. -/
theorem stored_delivered (hwell : ∀ order ∈ orders, order.WellFormed)
    (htracking : ∀ order ∈ orders, ∀ order' ∈ orders,
      order.shippingTrackingId = order'.shippingTrackingId → order.orderId = order'.orderId)
    (hadmits : ∀ order ∈ orders, ∀ row ∈ order.rows, admits row = true) :
    (processAll (Tables.empty (S := schema admits)) (delivered orders)).tracker.pending = [] ∧
    ∀ id,
      rowsOf id (processAll (Tables.empty (S := schema admits)) (delivered orders)).tables.rows =
        ((firstDelivery orders id).map OrderResult.rows).getD [] := by
  induction orders using List.reverseRecOn with
  | nil => exact ⟨rfl, fun id => rfl⟩
  | append_singleton orders order ih =>
    have hmem : order ∈ orders ++ [order] := List.mem_append_right _ (List.mem_singleton_self _)
    have hsub : ∀ earlier ∈ orders, earlier ∈ orders ++ [order] :=
      fun earlier hearlier => List.mem_append_left _ hearlier
    obtain ⟨hpending, hrows⟩ := ih (fun o ho => hwell o (hsub o ho))
      (fun o ho o' ho' => htracking o (hsub o ho) o' (hsub o' ho'))
      (fun o ho => hadmits o (hsub o ho))
    by_cases hknown : order.orderId ∈ orders.map OrderResult.orderId
    · rw [delivered_snoc, processAll_snoc, process_of_known rfl]
      · refine ⟨hpending, fun id => (hrows id).trans ?_⟩
        rw [firstDelivery_snoc_of_mem hknown]
      · rw [order_mem_keys_iff, ordersOf_delivered]
        exact hknown
    · have hnew : ∀ earlier ∈ orders, earlier.orderId ≠ order.orderId ∧
          earlier.shippingTrackingId ≠ order.shippingTrackingId := by
        intro earlier hearlier
        have hid : earlier.orderId ≠ order.orderId :=
          fun hid => hknown (hid ▸ List.mem_map_of_mem hearlier)
        exact ⟨hid, fun h => hid (htracking _ (hsub _ hearlier) _ hmem h)⟩
      obtain ⟨hpending', hrows'⟩ := processAll_new (hwell _ hmem) hnew hadmits rfl rfl
      refine ⟨hpending', fun id => ?_⟩
      rw [hrows', hpending, List.nil_append, rowsOf_append, hrows]
      by_cases hid : order.orderId = id
      · subst hid
        rw [firstDelivery_eq_none_iff.mpr hknown, firstDelivery_snoc_self hknown, rowsOf_rows]
        rfl
      · rw [firstDelivery_snoc_of_ne hid, rowsOf_rows_of_ne hid, List.append_nil]

/-- **Redelivery is idempotent**: of each order its first delivery is stored, and nothing else. Only
the first deliveries have to be fine. -/
theorem redelivery_idempotent (orders : List OrderResult)
    (hwell : ∀ order ∈ firsts OrderResult.orderId orders, order.WellFormed)
    (htracking : ∀ order ∈ firsts OrderResult.orderId orders,
      ∀ order' ∈ firsts OrderResult.orderId orders,
        order.shippingTrackingId = order'.shippingTrackingId → order.orderId = order'.orderId)
    (hadmits : ∀ order ∈ firsts OrderResult.orderId orders, ∀ row ∈ order.rows,
      admits row = true) :
    (∀ id,
      rowsOf id (processAll (Tables.empty (S := schema admits)) (delivered orders)).tables.rows =
        ((firstDelivery orders id).map OrderResult.rows).getD []) ∧
    (processAll (Tables.empty (S := schema admits)) (delivered orders)).tables.rows =
      (processAll (Tables.empty (S := schema admits))
        (delivered (firsts OrderResult.orderId orders))).tables.rows := by
  have hsame := processAll_firsts (Tables.empty (S := schema admits)) orders
  refine ⟨fun id => ?_, by rw [hsame]⟩
  have hfirst : firstDelivery (firsts OrderResult.orderId orders) id = firstDelivery orders id :=
    find?_firsts OrderResult.orderId orders id
  rw [hsame, (stored_delivered hwell htracking hadmits).2, hfirst]

end

/-- Another order comes in between, and the redelivered one has no cost. -/
theorem redelivery_idempotent_telescopes :
    rowsOf "o1" (processAll (Tables.empty (S := schema fun _ => true))
      (delivered [telescopeOrder "o1" "t1", telescopeOrder "o2" "t2",
        { telescopeOrder "o1" "t1" with shippingCost := none }])).tables.rows =
      (telescopeOrder "o1" "t1").rows :=
  (@redelivery_idempotent (fun _ => true)
    [telescopeOrder "o1" "t1", telescopeOrder "o2" "t2",
      { telescopeOrder "o1" "t1" with shippingCost := none }]
    (by decide +kernel) (by decide +kernel) (by decide +kernel)).1 "o1"

end AstronomyShop.Accounting
