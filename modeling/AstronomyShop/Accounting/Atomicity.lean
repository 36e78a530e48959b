import AstronomyShop.Accounting.Runs

/-!
# Orders that are stored in part

An order should be stored with all of its rows or not at all. This holds as long as no message
makes `ProcessMessage` throw after the order row was added (`Buildable`): what is then pending is
complete orders. Otherwise the next order that can be saved saves the rows of the broken one too.
-/

namespace AstronomyShop.Accounting

open UnitOfWork

/-- Each order id has all the rows of one of these orders, or none. -/
def Atomic (orders : List OrderResult) (rows : List Entity) : Prop :=
  ∀ id, rowsOf id rows = [] ∨
    ∃ order ∈ orders, order.orderId = id ∧ order.WellFormed ∧ rowsOf id rows = order.rows

/-- With rows of these keys tracked, building the order does not throw after its row was added. -/
def Buildable (keys : List Key) (message : Message) : Prop :=
  ∀ order, message = .ok order → Key.order order.orderId ∈ keys ∨ order.Addable keys

theorem buildable_ok_iff {keys : List Key} {order : OrderResult} :
    Buildable keys (.ok order) ↔ Key.order order.orderId ∈ keys ∨ order.Addable keys := by
  unfold Buildable
  simp

instance (keys : List Key) (message : Message) : Decidable (Buildable keys message) :=
  match message with
  | .error _ => isTrue (by rintro order ⟨⟩)
  | .ok _ => decidable_of_iff _ buildable_ok_iff.symm

section

variable {orders : List OrderResult} {rows rows' : List Entity}

theorem atomic_nil (orders : List OrderResult) : Atomic orders [] := fun _ => .inl rfl

theorem Atomic.mono {orders' : List OrderResult} (h : Atomic orders rows)
    (hsub : orders ⊆ orders') : Atomic orders' rows := by
  intro id
  rcases h id with hnil | ⟨order, horder, hrest⟩
  · exact .inl hnil
  · exact .inr ⟨order, hsub horder, hrest⟩

theorem atomic_rows {order : OrderResult} (horder : order ∈ orders) (h : order.WellFormed) :
    Atomic orders order.rows := by
  intro id
  by_cases hid : order.orderId = id
  · exact .inr ⟨order, horder, hid, h, hid ▸ rowsOf_rows order⟩
  · exact .inl (rowsOf_rows_of_ne hid)

theorem order_mem_of_rowsOf {order : OrderResult} (h : rowsOf order.orderId rows = order.rows) :
    .order { id := order.orderId } ∈ rows := by
  have hmem : .order { id := order.orderId } ∈ rowsOf order.orderId rows := by
    rw [h]
    exact List.mem_cons_self
  exact (List.mem_filter.mp hmem).1

theorem Atomic.append (h : Atomic orders rows) (h' : Atomic orders rows')
    (hdisjoint : ∀ row ∈ rows, ∀ row' ∈ rows', row.key ≠ row'.key) :
    Atomic orders (rows ++ rows') := by
  intro id
  rw [rowsOf_append]
  rcases h id with hnil | ⟨order, horder, rfl, hwell, hrows⟩
  · rw [hnil, List.nil_append]
    exact h' id
  · rcases h' order.orderId with hnil | ⟨order', -, hid, -, hrows'⟩
    · rw [hnil, List.append_nil]
      exact .inr ⟨order, horder, rfl, hwell, hrows⟩
    · -- Both would have the row of the order.
      rw [← hid] at hrows'
      have hmem := hid ▸ order_mem_of_rowsOf hrows'
      exact absurd rfl (hdisjoint _ (order_mem_of_rowsOf hrows) _ hmem)

end

section

variable {admits : Entity → Bool} {tables : Tables (schema admits)}
  {c c' : DbContext (schema admits)} {delivery : Delivery}

/-- No step of a run leaves an order half built. -/
def BuildableRun (tables : Tables (schema admits)) (deliveries : List Delivery) : Prop :=
  ∀ before delivery, before ++ [delivery] <+: deliveries →
    Buildable (processAll tables before).tracker.keys delivery.message

theorem buildableRun_nil (tables : Tables (schema admits)) : BuildableRun tables [] := by
  intro before delivery h
  have hnil := List.prefix_nil.mp h
  exact absurd hnil (List.append_ne_nil_of_right_ne_nil _ (List.cons_ne_nil _ _))

theorem buildableRun_snoc {deliveries : List Delivery} :
    BuildableRun tables (deliveries ++ [delivery]) ↔
      BuildableRun tables deliveries ∧
        Buildable (processAll tables deliveries).tracker.keys delivery.message := by
  constructor
  · intro h
    refine ⟨fun before delivery' hbefore => ?_, h deliveries delivery (List.prefix_refl _)⟩
    exact h before delivery' (hbefore.trans (List.prefix_append ..))
  · rintro ⟨h, hlast⟩ before delivery' hbefore
    rcases List.prefix_concat_iff.mp hbefore with heq | hbefore
    · obtain ⟨rfl, hdelivery⟩ := List.append_inj' heq rfl
      obtain rfl : delivery' = delivery := List.singleton_inj.mp hdelivery
      exact hlast
    · exact h before delivery' hbefore

theorem BuildableRun.earlier {deliveries before : List Delivery} (h : BuildableRun tables deliveries)
    (hbefore : before <+: deliveries) : BuildableRun tables before :=
  fun before' delivery h' => h before' delivery (h'.trans hbefore)

/-- What is stored and what is pending are complete orders. -/
structure AllAtomic (orders : List OrderResult) (c : DbContext (schema admits)) : Prop where
  stored : Atomic orders c.tables.rows
  pending : Atomic orders c.tracker.pending

theorem AllAtomic.mono {orders orders' : List OrderResult} (h : AllAtomic orders c)
    (hsub : orders ⊆ orders') : AllAtomic orders' c :=
  ⟨h.stored.mono hsub, h.pending.mono hsub⟩

theorem AllAtomic.track {orders : List OrderResult} (h : AllAtomic orders c) {order : OrderResult}
    (horder : order ∈ orders) (hwell : order.WellFormed) {tracker : Tracker (schema admits)}
    (hextends : c.tracker.Extends order.rows tracker) :
    AllAtomic orders { c with tracker := tracker } := by
  refine ⟨h.stored, ?_⟩
  rw [hextends.pending]
  apply h.pending.append (atomic_rows horder hwell)
  intro row hrow row' hrow'
  exact hextends.disjoint (c.tracker.pending_subset hrow) hrow'

theorem AllAtomic.save {orders : List OrderResult} (h : AllAtomic orders c) {accepted : Bool}
    (hsave : c.saveChanges accepted = some c') : AllAtomic orders c' := by
  obtain ⟨hinsert, htracker, hrows⟩ := DbContext.saveChanges_eq_some hsave
  constructor
  · rw [hrows]
    apply h.stored.append h.pending
    intro row hrow row' hrow' hkey
    apply hinsert.new hrow'
    show row'.key ∈ c.tables.keys
    rw [← hkey]
    exact List.mem_map_of_mem hrow
  · rw [htracker, Tracker.pending_acceptAllChanges]
    exact atomic_nil orders

theorem AllAtomic.processed {orders : List OrderResult} (h : AllAtomic orders c)
    (horders : ∀ order, delivery.message = .ok order → order ∈ orders)
    (hbuildable : Buildable c.tracker.keys delivery.message)
    (hprocessed : Processed c delivery c') : AllAtomic orders c' := by
  cases hprocessed with
  | unread hmessage => exact h
  | thrown hmessage hnot hextends =>
    have hknown := (hbuildable _ hmessage).resolve_right hnot
    rw [rowsAfter_of_mem hknown] at hextends
    refine ⟨h.stored, ?_⟩
    rw [hextends.pending, List.append_nil]
    exact h.pending
  | notSaved hmessage hadd hextends hsave =>
    exact h.track (horders _ hmessage) hadd.wellFormed hextends
  | saved hmessage hadd hextends hsave =>
    exact (h.track (horders _ hmessage) hadd.wellFormed hextends).save hsave

theorem allAtomic_processAll {earlier : List OrderResult} (htables : Atomic earlier tables.rows)
    {deliveries : List Delivery} (h : BuildableRun tables deliveries) :
    AllAtomic (earlier ++ ordersOf deliveries) (processAll tables deliveries) := by
  induction deliveries using List.reverseRecOn with
  | nil => exact ⟨htables.mono (List.subset_append_left _ _), atomic_nil _⟩
  | append_singleton deliveries delivery ih =>
    obtain ⟨hbefore, hstep⟩ := buildableRun_snoc.mp h
    apply ((ih hbefore).mono ?_).processed ?_ hstep (processed_snoc tables deliveries delivery)
    · intro order horder
      rcases List.mem_append.mp horder with hmem | hmem
      · exact List.mem_append_left _ hmem
      · obtain ⟨delivery', hdelivery', hmessage⟩ := mem_ordersOf.mp hmem
        exact List.mem_append_right _
          (mem_ordersOf.mpr ⟨delivery', List.mem_append_left _ hdelivery', hmessage⟩)
    · intro order hmessage
      exact List.mem_append_right _
        (mem_ordersOf.mpr ⟨delivery, List.mem_append_right _ (List.mem_singleton_self _), hmessage⟩)

/-- **Orders are stored whole** as long as no order is left half built. -/
theorem orders_stored_whole (tables : Tables (schema admits)) (earlier : List OrderResult)
    (htables : Atomic earlier tables.rows) (deliveries : List Delivery)
    (h : BuildableRun tables deliveries) :
    ∀ before, before <+: deliveries →
      Atomic (earlier ++ ordersOf before) (processAll tables before).tables.rows := by
  intro before hbefore
  exact (allAtomic_processAll htables (h.earlier hbefore)).stored

end

/-- A consumer that stores two orders, one of which it gets twice. -/
def twoOrders : List Delivery :=
  [⟨.ok (telescopeOrder "o1" "t1"), true⟩, ⟨.ok (telescopeOrder "o1" "t1"), true⟩,
    ⟨.ok (telescopeOrder "o2" "t2"), true⟩]

theorem buildableRun_twoOrders :
    BuildableRun (Tables.empty (S := schema fun _ => true)) twoOrders := by
  show BuildableRun _ ([] ++ [_] ++ [_] ++ [_])
  rw [buildableRun_snoc, buildableRun_snoc, buildableRun_snoc]
  exact ⟨⟨⟨buildableRun_nil _, by decide +kernel⟩, by decide +kernel⟩, by decide +kernel⟩

theorem orders_stored_whole_telescopes :
    Atomic (ordersOf twoOrders)
      (processAll (Tables.empty (S := schema fun _ => true)) twoOrders).tables.rows :=
  orders_stored_whole Tables.empty [] (atomic_nil []) twoOrders buildableRun_twoOrders twoOrders
    (List.prefix_refl twoOrders)

/-- The first order has no price on its item; the second is fine. -/
def brokenOrder : List Delivery :=
  [⟨.ok { telescopeOrder "o1" "t1" with items := [{ item := some ⟨"telescope", 1⟩ }] }, true⟩,
    ⟨.ok (telescopeOrder "o2" "t2"), true⟩]

/-- The row of the first order is saved with the second. -/
theorem order_stored_in_part :
    ¬ ∀ deliveries : List Delivery, Atomic (ordersOf deliveries)
      (processAll (Tables.empty (S := schema fun _ => true)) deliveries).tables.rows := by
  intro h
  have hrows : rowsOf "o1" (processAll (Tables.empty (S := schema fun _ => true))
      brokenOrder).tables.rows = [.order ⟨"o1"⟩] := by decide +kernel
  rcases h brokenOrder "o1" with hnil | ⟨order, -, -, -, horder⟩
  · rw [hrows] at hnil
    cases hnil
  · rw [hrows] at horder
    have hlength := congrArg List.length horder
    simp [OrderResult.rows] at hlength

end AstronomyShop.Accounting
