import AstronomyShop.Accounting.Consumer

/-!
# What is tracked of an order

All rows of an order can be added when it has all its sub-messages, different products, and an
order id and a tracking id that are not tracked yet (`Addable`). Of another order, `ProcessMessage`
adds the rows before the first that it cannot add, and throws (`rowsAfter`, `adds_track`,
`throws_track`).
-/

namespace AstronomyShop.Accounting

open UnitOfWork

variable {admits : Entity → Bool}

/-! ## The rows of an order -/

def OrderItem.productId (item : OrderItem) : String := (item.item.getD {}).productId

/-- The row of an item, when both sub-messages are set. -/
def OrderResult.itemEntity (order : OrderResult) (item : OrderItem) : Entity :=
  .orderItem
    { itemCostCurrencyCode := (item.cost.getD {}).currencyCode
      itemCostUnits := (item.cost.getD {}).units
      itemCostNanos := (item.cost.getD {}).nanos
      productId := item.productId
      quantity := (item.item.getD {}).quantity
      orderId := order.orderId }

def OrderResult.shippingEntity (order : OrderResult) : Entity :=
  .shipping
    { shippingTrackingId := order.shippingTrackingId
      shippingCostCurrencyCode := (order.shippingCost.getD {}).currencyCode
      shippingCostUnits := (order.shippingCost.getD {}).units
      shippingCostNanos := (order.shippingCost.getD {}).nanos
      streetAddress := (order.shippingAddress.getD {}).streetAddress
      city := (order.shippingAddress.getD {}).city
      state := (order.shippingAddress.getD {}).state
      country := (order.shippingAddress.getD {}).country
      zipCode := (order.shippingAddress.getD {}).zipCode
      orderId := order.orderId }

/-- The rows of an order, in the order in which they are added. -/
def OrderResult.rows (order : OrderResult) : List Entity :=
  .order { id := order.orderId } :: (order.items.map order.itemEntity ++ [order.shippingEntity])

/-- All sub-messages are set, and no product is on two items. -/
structure OrderResult.WellFormed (order : OrderResult) : Prop where
  items : ∀ item ∈ order.items, item.cost.isSome = true ∧ item.item.isSome = true
  products : (order.items.map OrderItem.productId).Nodup
  shippingCost : order.shippingCost.isSome = true
  shippingAddress : order.shippingAddress.isSome = true

theorem OrderResult.wellFormed_iff {order : OrderResult} :
    order.WellFormed ↔
      (∀ item ∈ order.items, item.cost.isSome = true ∧ item.item.isSome = true) ∧
        (order.items.map OrderItem.productId).Nodup ∧
          order.shippingCost.isSome = true ∧ order.shippingAddress.isSome = true :=
  ⟨fun h => ⟨h.items, h.products, h.shippingCost, h.shippingAddress⟩,
    fun ⟨hitems, hproducts, hcost, haddress⟩ => ⟨hitems, hproducts, hcost, haddress⟩⟩

instance (order : OrderResult) : Decidable order.WellFormed :=
  decidable_of_iff _ OrderResult.wellFormed_iff.symm

/-- An order of one telescope. -/
def telescopeOrder (orderId shippingTrackingId : String) : OrderResult where
  orderId := orderId
  shippingTrackingId := shippingTrackingId
  shippingCost := some { currencyCode := "USD", units := 5 }
  shippingAddress := some {}
  items := [{ item := some ⟨"telescope", 1⟩, cost := some { currencyCode := "USD", units := 349 } }]

/-- All rows of the order can be added to tracked ones with these keys. -/
structure OrderResult.Addable (keys : List Key) (order : OrderResult) : Prop where
  orderId : Key.order order.orderId ∉ keys
  wellFormed : order.WellFormed
  shippingTrackingId : Key.shipping order.shippingTrackingId ∉ keys

instance (keys : List Key) (order : OrderResult) : Decidable (order.Addable keys) :=
  decidable_of_iff (Key.order order.orderId ∉ keys ∧ order.WellFormed ∧
      Key.shipping order.shippingTrackingId ∉ keys)
    ⟨fun ⟨hid, hwell, htracking⟩ => ⟨hid, hwell, htracking⟩,
      fun h => ⟨h.orderId, h.wellFormed, h.shippingTrackingId⟩⟩

/-- The items before the first one that has an unset sub-message or a product that is there
already. -/
def addableItems : List String → List OrderItem → List OrderItem
  | _, [] => []
  | products, item :: items =>
    if (item.cost.isSome = true ∧ item.item.isSome = true) ∧ item.productId ∉ products then
      item :: addableItems (item.productId :: products) items
    else []

/-- The rows that an order adds to tracked ones with these keys. -/
def OrderResult.rowsAfter (keys : List Key) (order : OrderResult) : List Entity :=
  if Key.order order.orderId ∈ keys then []
  else if order.Addable keys then order.rows
  else .order { id := order.orderId } :: (addableItems [] order.items).map order.itemEntity

theorem OrderResult.mem_rows {order : OrderResult} {row : Entity} :
    row ∈ order.rows ↔ row = .order { id := order.orderId } ∨
      (∃ item ∈ order.items, order.itemEntity item = row) ∨ row = order.shippingEntity := by
  unfold OrderResult.rows
  rw [List.mem_cons, List.mem_append, List.mem_singleton, List.mem_map]

theorem OrderResult.orderId_of_mem_rows {order : OrderResult} {row : Entity}
    (h : row ∈ order.rows) : row.orderId = order.orderId := by
  rcases OrderResult.mem_rows.mp h with rfl | ⟨item, -, rfl⟩ | rfl
  · rfl
  · rfl
  · rfl

/-- The rows of the order with this id. -/
def rowsOf (id : String) (rows : List Entity) : List Entity :=
  rows.filter fun row => row.orderId = id

theorem rowsOf_append (id : String) (rows rows' : List Entity) :
    rowsOf id (rows ++ rows') = rowsOf id rows ++ rowsOf id rows' :=
  List.filter_append ..

theorem rowsOf_rows (order : OrderResult) : rowsOf order.orderId order.rows = order.rows :=
  List.filter_eq_self.mpr fun _ hrow => decide_eq_true (OrderResult.orderId_of_mem_rows hrow)

theorem rowsOf_rows_of_ne {id : String} {order : OrderResult} (h : order.orderId ≠ id) :
    rowsOf id order.rows = [] := by
  refine List.filter_eq_nil_iff.mpr fun row hrow => ?_
  rw [OrderResult.orderId_of_mem_rows hrow]
  simpa using h

theorem OrderResult.key_of_mem_rows {order : OrderResult} {row : Entity} (h : row ∈ order.rows) :
    row.key = .order order.orderId ∨ (∃ p, row.key = .orderItem p order.orderId) ∨
      row.key = .shipping order.shippingTrackingId := by
  rcases OrderResult.mem_rows.mp h with rfl | ⟨item, -, rfl⟩ | rfl
  · exact .inl rfl
  · exact .inr (.inl ⟨item.productId, rfl⟩)
  · exact .inr (.inr rfl)

theorem addableItems_eq_iff {products : List String} {items : List OrderItem} :
    addableItems products items = items ↔
      (∀ item ∈ items, item.cost.isSome = true ∧ item.item.isSome = true) ∧
        (items.map OrderItem.productId).Nodup ∧ ∀ item ∈ items, item.productId ∉ products := by
  induction items generalizing products with
  | nil => simp [addableItems]
  | cons item items ih =>
    unfold addableItems
    rw [List.forall_mem_cons, List.forall_mem_cons, List.map_cons, List.nodup_cons]
    by_cases h : (item.cost.isSome = true ∧ item.item.isSome = true) ∧ item.productId ∉ products
    · rw [if_pos h, List.cons.injEq, ih]
      constructor
      · rintro ⟨-, hset, hnodup, hnew⟩
        refine ⟨⟨h.1, hset⟩, ⟨fun hmem => ?_, hnodup⟩, h.2, fun item' hitem' hmem => ?_⟩
        · obtain ⟨item', hitem', heq⟩ := List.mem_map.mp hmem
          exact hnew item' hitem' (List.mem_cons.mpr (.inl heq))
        · exact hnew item' hitem' (List.mem_cons_of_mem _ hmem)
      · rintro ⟨⟨-, hset⟩, ⟨hfirst, hnodup⟩, -, hnew⟩
        refine ⟨rfl, hset, hnodup, fun item' hitem' hmem => ?_⟩
        rcases List.mem_cons.mp hmem with heq | hmem
        · exact hfirst (heq ▸ List.mem_map_of_mem hitem')
        · exact hnew item' hitem' hmem
    · rw [if_neg h]
      refine iff_of_false (List.cons_ne_nil _ _).symm ?_
      rintro ⟨⟨hset, -⟩, -, hnew, -⟩
      exact h ⟨hset, hnew⟩

theorem addableItems_subset (products : List String) (items : List OrderItem) :
    addableItems products items ⊆ items := by
  induction items generalizing products with
  | nil => exact List.Subset.refl []
  | cons item items ih =>
    unfold addableItems
    split
    · exact List.cons_subset_cons item (ih _)
    · exact List.nil_subset _

/-! ## What is tracked -/

section

variable {code code' : Tracking admits Unit} {t : Tracker (schema admits)}
  {rows rows' : List Entity}

/-- The code adds these rows and goes through. -/
def Adds (code : Tracking admits Unit) (t : Tracker (schema admits)) (rows : List Entity) : Prop :=
  ∃ t', t.Extends rows t' ∧ code.run t = .ok () t'

/-- The code adds these rows and then throws. -/
def Throws (code : Tracking admits Unit) (t : Tracker (schema admits)) (rows : List Entity) :
    Prop :=
  ∃ t' e, t.Extends rows t' ∧ code.run t = .error e t'

theorem run_bind_of_ok {t' : Tracker (schema admits)} (h : code.run t = .ok () t') :
    (do code; code').run t = code'.run t' := by
  rw [EStateM.run_bind, h]

theorem Adds.bind (h : Adds code t rows)
    (h' : ∀ t', t.Extends rows t' → Adds code' t' rows') :
    Adds (do code; code') t (rows ++ rows') := by
  obtain ⟨t', hextends, hrun⟩ := h
  obtain ⟨t'', hextends', hrun'⟩ := h' t' hextends
  exact ⟨t'', hextends.trans hextends', (run_bind_of_ok hrun).trans hrun'⟩

theorem Adds.throws (h : Adds code t rows)
    (h' : ∀ t', t.Extends rows t' → Throws code' t' rows') :
    Throws (do code; code') t (rows ++ rows') := by
  obtain ⟨t', hextends, hrun⟩ := h
  obtain ⟨t'', e, hextends', hrun'⟩ := h' t' hextends
  exact ⟨t'', e, hextends.trans hextends', (run_bind_of_ok hrun).trans hrun'⟩

theorem Throws.bind (h : Throws code t rows) : Throws (do code; code') t rows := by
  obtain ⟨t', e, hextends, hrun⟩ := h
  refine ⟨t', e, hextends, ?_⟩
  rw [EStateM.run_bind, hrun]

theorem run_add (entity : Entity) (t : Tracker (schema admits)) :
    (add entity).run t = match t.add entity with
      | some t' => .ok () t'
      | none => .error "another instance with the same key value is already being tracked" t :=
  rfl

theorem adds_add {entity : Entity} (h : entity.key ∉ t.keys) : Adds (add entity) t [entity] := by
  obtain ⟨t', ht'⟩ := Option.ne_none_iff_exists'.mp (mt Tracker.add_eq_none_iff.mp h)
  refine ⟨t', Tracker.extends_of_add ht', ?_⟩
  rw [run_add, ht']

theorem throws_add {entity : Entity} (h : entity.key ∈ t.keys) : Throws (add entity) t [] := by
  have hrun := run_add entity t
  rw [Tracker.add_eq_none_iff.mpr h] at hrun
  exact ⟨t, _, t.extends_nil, hrun⟩

variable {order : OrderResult}

theorem adds_addItem {item : OrderItem} (hcost : item.cost.isSome = true)
    (hitem : item.item.isSome = true)
    (hnew : Key.orderItem item.productId order.orderId ∉ t.keys) :
    Adds (addItem order item) t [order.itemEntity item] := by
  obtain ⟨product, cost⟩ := item
  cases cost with
  | none => cases hcost
  | some cost =>
    cases product with
    | none => cases hitem
    | some product => exact adds_add hnew

theorem throws_addItem {item : OrderItem}
    (h : (item.cost.isSome = true ∧ item.item.isSome = true) →
      Key.orderItem item.productId order.orderId ∈ t.keys) :
    Throws (addItem order item) t [] := by
  obtain ⟨product, cost⟩ := item
  cases cost with
  | none => exact ⟨t, _, t.extends_nil, rfl⟩
  | some cost =>
    cases product with
    | none => exact ⟨t, _, t.extends_nil, rfl⟩
    | some product => exact throws_add (h ⟨rfl, rfl⟩)

/-- The items are added up to the first that cannot be. -/
theorem addItems_spec (order : OrderResult) (items : List OrderItem) {products : List String}
    (hproducts : ∀ p, Key.orderItem p order.orderId ∈ t.keys ↔ p ∈ products) :
    (addableItems products items = items → Adds (addItems order items) t
      (items.map order.itemEntity)) ∧
    (addableItems products items ≠ items → Throws (addItems order items) t
      ((addableItems products items).map order.itemEntity)) := by
  induction items generalizing products t with
  | nil => exact ⟨fun _ => ⟨t, t.extends_nil, rfl⟩, fun h => absurd rfl h⟩
  | cons item items ih =>
    unfold addableItems
    by_cases h : (item.cost.isSome = true ∧ item.item.isSome = true) ∧ item.productId ∉ products
    · have hadds : Adds (addItem order item) t [order.itemEntity item] :=
        adds_addItem h.1.1 h.1.2 (mt (hproducts _).mp h.2)
      have hrest : ∀ t' : Tracker (schema admits), t.Extends [order.itemEntity item] t' →
          ∀ p, Key.orderItem p order.orderId ∈ t'.keys ↔ p ∈ item.productId :: products := by
        intro t' hextends p
        rw [hextends.keys, List.mem_append, hproducts, List.mem_cons, or_comm]
        refine or_congr_left ?_
        show Key.orderItem p order.orderId ∈ [Key.orderItem item.productId order.orderId] ↔ _
        simp
      rw [if_pos h]
      refine ⟨fun heq => ?_, fun hne => ?_⟩
      · exact hadds.bind fun t' ht' => (ih (hrest t' ht')).1 (List.cons.inj heq).2
      · apply hadds.throws
        intro t' ht'
        exact (ih (hrest t' ht')).2 fun heq => hne (by rw [heq])
    · rw [if_neg h]
      refine ⟨fun heq => absurd heq.symm (List.cons_ne_nil _ _), fun _ => Throws.bind ?_⟩
      apply throws_addItem
      intro hset
      by_contra hnew
      exact h ⟨hset, mt (hproducts _).mpr hnew⟩

theorem adds_addShipping (hcost : order.shippingCost.isSome = true)
    (haddress : order.shippingAddress.isSome = true)
    (hnew : Key.shipping order.shippingTrackingId ∉ t.keys) :
    Adds (addShipping order) t [order.shippingEntity] := by
  obtain ⟨id, trackingId, cost, address, items⟩ := order
  cases cost with
  | none => cases hcost
  | some cost =>
    cases address with
    | none => cases haddress
    | some address => exact adds_add hnew

theorem throws_addShipping
    (h : order.shippingCost.isSome = true → order.shippingAddress.isSome = true →
      Key.shipping order.shippingTrackingId ∈ t.keys) :
    Throws (addShipping order) t [] := by
  obtain ⟨id, trackingId, cost, address, items⟩ := order
  cases cost with
  | none => exact ⟨t, _, t.extends_nil, rfl⟩
  | some cost =>
    cases address with
    | none => exact ⟨t, _, t.extends_nil, rfl⟩
    | some address => exact throws_add (h rfl rfl)

/-- The order of every row is there as well. -/
def Owned (rows : List Entity) : Prop :=
  ∀ row ∈ rows, Key.order row.orderId ∈ rows.map Entity.key

theorem Owned.orderItem_not_mem (h : Owned t.rows) (hid : Key.order order.orderId ∉ t.keys)
    (p : String) : Key.orderItem p order.orderId ∉ t.keys := by
  rw [t.keys_eq] at hid ⊢
  intro hmem
  obtain ⟨row, hrow, hkey⟩ := List.mem_map.mp hmem
  cases row with
  | order row => cases hkey
  | shipping row => cases hkey
  | orderItem row =>
    have horderId : row.orderId = order.orderId := (Key.orderItem.inj hkey).2
    exact hid (horderId ▸ h _ hrow)

theorem rowsAfter_of_mem {keys : List Key} (h : Key.order order.orderId ∈ keys) :
    order.rowsAfter keys = [] :=
  if_pos h

theorem rowsAfter_of_addable {keys : List Key} (h : order.Addable keys) :
    order.rowsAfter keys = order.rows := by
  unfold OrderResult.rowsAfter
  rw [if_neg h.orderId, if_pos h]

/-- The keys of the items of an order are new once its own row is. -/
theorem orderItem_mem_iff (howned : Owned t.rows) (hid : Key.order order.orderId ∉ t.keys)
    {t' : Tracker (schema admits)} (h : t.Extends [.order { id := order.orderId }] t')
    (p : String) : Key.orderItem p order.orderId ∈ t'.keys ↔ p ∈ ([] : List String) := by
  rw [h.keys, List.mem_append]
  refine iff_of_false ?_ List.not_mem_nil
  rintro (hmem | hmem)
  · exact howned.orderItem_not_mem hid p hmem
  · cases List.mem_singleton.mp hmem

theorem adds_track (howned : Owned t.rows) (h : order.Addable t.keys) :
    Adds (track order) t order.rows := by
  have hitems : addableItems [] order.items = order.items :=
    addableItems_eq_iff.mpr
      ⟨h.wellFormed.items, h.wellFormed.products, fun _ _ => List.not_mem_nil⟩
  apply (adds_add h.orderId).bind
  intro t₁ ht₁
  apply ((addItems_spec order order.items (orderItem_mem_iff howned h.orderId ht₁)).1 hitems).bind
  intro t₂ ht₂
  apply adds_addShipping h.wellFormed.shippingCost h.wellFormed.shippingAddress
  rw [ht₂.keys, ht₁.keys]
  intro hmem
  rcases List.mem_append.mp hmem with hmem | hmem
  · rcases List.mem_append.mp hmem with hmem | hmem
    · exact h.shippingTrackingId hmem
    · cases List.mem_singleton.mp hmem
  · obtain ⟨row, hrow, hkey⟩ := List.mem_map.mp hmem
    obtain ⟨item, -, rfl⟩ := List.mem_map.mp hrow
    cases hkey

theorem throws_track (howned : Owned t.rows) (h : ¬ order.Addable t.keys) :
    Throws (track order) t (order.rowsAfter t.keys) := by
  by_cases hid : Key.order order.orderId ∈ t.keys
  · rw [rowsAfter_of_mem hid]
    exact (throws_add hid).bind
  have hrows : order.rowsAfter t.keys =
      [.order { id := order.orderId }] ++ (addableItems [] order.items).map order.itemEntity := by
    unfold OrderResult.rowsAfter
    rw [if_neg hid, if_neg h]
    rfl
  rw [hrows]
  apply (adds_add hid).throws
  intro t₁ ht₁
  have hspec := addItems_spec order order.items (orderItem_mem_iff howned hid ht₁)
  by_cases hitems : addableItems [] order.items = order.items
  · rw [hitems, ← List.append_nil (order.items.map order.itemEntity)]
    apply (hspec.1 hitems).throws
    intro t₂ ht₂
    obtain ⟨hset, hproducts, -⟩ := addableItems_eq_iff.mp hitems
    apply throws_addShipping
    intro hcost haddress
    by_contra htracking
    rw [ht₂.keys, ht₁.keys, List.mem_append, List.mem_append, not_or, not_or] at htracking
    exact h ⟨hid, ⟨hset, hproducts, hcost, haddress⟩, htracking.1.1⟩
  · exact (hspec.2 hitems).bind

end

end AstronomyShop.Accounting
