import AstronomyShop.Accounting.Tracking
import Mathlib.Data.List.Induction

/-!
# Runs of the accounting consumer

`Processed` says what a whole `ProcessMessage` can do. What a consumer has tracked depends on the
messages alone (`tracker_processAll`), not on the database or on which saves went through.
-/

namespace AstronomyShop.Accounting

open UnitOfWork

variable {admits : Entity → Bool}

/-! ## What a message does -/

/-- The rows that a message adds to tracked ones with these keys. -/
def addedBy (keys : List Key) : Message → List Entity
  | .ok order => order.rowsAfter keys
  | .error _ => []

/-- A message adds nothing, or the row of its order and others of its rows. -/
theorem addedBy_eq (keys : List Key) (message : Message) :
    addedBy keys message = [] ∨ ∃ order, message = .ok order ∧ ∃ rows, rows ⊆ order.rows ∧
      addedBy keys message = .order { id := order.orderId } :: rows := by
  cases message with
  | error e => exact .inl rfl
  | ok order =>
    rw [addedBy, OrderResult.rowsAfter]
    split
    · exact .inl rfl
    refine .inr ⟨order, rfl, ?_⟩
    split
    · exact ⟨_, List.subset_cons_self _ _, rfl⟩
    · refine ⟨_, fun row hrow => ?_, rfl⟩
      have hitems := addableItems_subset [] order.items
      exact List.mem_cons_of_mem _
        (List.mem_append_left _ (List.map_subset order.itemEntity hitems hrow))

theorem mem_addedBy {keys : List Key} {message : Message} {row : Entity}
    (h : row ∈ addedBy keys message) : ∃ order, message = .ok order ∧ row ∈ order.rows := by
  rcases addedBy_eq keys message with hnil | ⟨order, hmessage, rows, hrows, hadded⟩
  · rw [hnil] at h
    cases h
  · rw [hadded] at h
    exact ⟨order, hmessage, List.cons_subset.mpr ⟨List.mem_cons_self, hrows⟩ h⟩

theorem owned_append_addedBy {rows : List Entity} (h : Owned rows) (message : Message) :
    Owned (rows ++ addedBy (rows.map Entity.key) message) := by
  intro row hrow
  rw [List.map_append, List.mem_append]
  rcases List.mem_append.mp hrow with hrow | hrow
  · exact .inl (h row hrow)
  refine .inr ?_
  obtain ⟨order, hmessage, hmem⟩ := mem_addedBy hrow
  rw [OrderResult.orderId_of_mem_rows hmem]
  rcases addedBy_eq (rows.map Entity.key) message with hnil | ⟨order', hmessage', _, -, hadded⟩
  · rw [hnil] at hrow
    cases hrow
  · obtain rfl : order = order' := Except.ok.inj (hmessage.symm.trans hmessage')
    rw [hadded]
    exact List.mem_cons_self

/-- What `ProcessMessage` can do. -/
inductive Processed (c : DbContext (schema admits)) (delivery : Delivery) :
    DbContext (schema admits) → Prop
  | unread {e : String} (hmessage : delivery.message = .error e) : Processed c delivery c
  | thrown {order : OrderResult} {tracker : Tracker (schema admits)}
    (hmessage : delivery.message = .ok order) (h : ¬ order.Addable c.tracker.keys)
    (hextends : c.tracker.Extends (order.rowsAfter c.tracker.keys) tracker) :
    Processed c delivery { c with tracker := tracker }
  | notSaved {order : OrderResult} {tracker : Tracker (schema admits)}
    (hmessage : delivery.message = .ok order) (h : order.Addable c.tracker.keys)
    (hextends : c.tracker.Extends order.rows tracker)
    (hsave : DbContext.saveChanges { c with tracker := tracker } delivery.accepted = none) :
    Processed c delivery { c with tracker := tracker }
  | saved {order : OrderResult} {tracker : Tracker (schema admits)}
    {c' : DbContext (schema admits)}
    (hmessage : delivery.message = .ok order) (h : order.Addable c.tracker.keys)
    (hextends : c.tracker.Extends order.rows tracker)
    (hsave : DbContext.saveChanges { c with tracker := tracker } delivery.accepted = some c') :
    Processed c delivery c'

theorem processed {c : DbContext (schema admits)} (howned : Owned c.tracker.rows)
    (delivery : Delivery) : Processed c delivery (process c delivery) := by
  unfold process
  cases hmessage : delivery.message with
  | error e => exact .unread hmessage
  | ok order =>
    by_cases h : order.Addable c.tracker.keys
    · obtain ⟨tracker, hextends, hrun⟩ := adds_track howned h
      simp only [hrun]
      cases hsave : DbContext.saveChanges { c with tracker := tracker } delivery.accepted with
      | none => exact .notSaved hmessage h hextends hsave
      | some c' => exact .saved hmessage h hextends hsave
    · obtain ⟨tracker, e, hextends, hrun⟩ := throws_track howned h
      simp only [hrun]
      exact .thrown hmessage h hextends

/-! ## Runs -/

/-- The orders among some messages. -/
def ordersOf (deliveries : List Delivery) : List OrderResult :=
  deliveries.filterMap fun delivery => delivery.message.toOption

theorem mem_ordersOf {deliveries : List Delivery} {order : OrderResult} :
    order ∈ ordersOf deliveries ↔ ∃ delivery ∈ deliveries, delivery.message = .ok order := by
  unfold ordersOf
  rw [List.mem_filterMap]
  refine exists_congr fun delivery => and_congr_right fun _ => ?_
  cases delivery.message with
  | error e => exact iff_of_false (by rintro ⟨⟩) (by rintro ⟨⟩)
  | ok order' =>
    show some order' = some order ↔ Except.ok order' = Except.ok order
    rw [Option.some_inj, Except.ok.injEq]

section

variable {tables : Tables (schema admits)} {c c' : DbContext (schema admits)} {delivery : Delivery}

theorem Processed.tracker_rows (h : Processed c delivery c') :
    c'.tracker.rows = c.tracker.rows ++ addedBy c.tracker.keys delivery.message := by
  cases h with
  | unread hmessage =>
    rw [hmessage]
    exact (List.append_nil _).symm
  | thrown hmessage h hextends =>
    rw [hmessage]
    exact hextends.rows_eq
  | notSaved hmessage h hextends hsave =>
    rw [hmessage, addedBy, rowsAfter_of_addable h]
    exact hextends.rows_eq
  | saved hmessage h hextends hsave =>
    rw [hmessage, addedBy, rowsAfter_of_addable h, (DbContext.saveChanges_eq_some hsave).2.1,
      Tracker.rows_acceptAllChanges]
    exact hextends.rows_eq

theorem Processed.reached (h : Processed c delivery c') (hreached : DbContext.Reached tables c) :
    DbContext.Reached tables c' := by
  cases h with
  | unread hmessage => exact hreached
  | thrown hmessage h hextends => exact hreached.track hextends
  | notSaved hmessage h hextends hsave => exact hreached.track hextends
  | saved hmessage h hextends hsave => exact (hreached.track hextends).save hsave

/-- The rows that messages leave in the change tracker, whatever is saved in between. -/
def trackedRows (messages : List Message) : List Entity :=
  messages.foldl (fun rows message => rows ++ addedBy (rows.map Entity.key) message) []

theorem trackedRows_snoc (messages : List Message) (message : Message) :
    trackedRows (messages ++ [message]) =
      trackedRows messages ++ addedBy ((trackedRows messages).map Entity.key) message := by
  unfold trackedRows
  rw [List.foldl_append]
  rfl

theorem owned_trackedRows (messages : List Message) : Owned (trackedRows messages) := by
  induction messages using List.reverseRecOn with
  | nil => rintro row ⟨⟩
  | append_singleton messages message ih =>
    rw [trackedRows_snoc]
    exact owned_append_addedBy ih message

theorem mem_trackedRows {messages : List Message} {row : Entity} (h : row ∈ trackedRows messages) :
    ∃ order, .ok order ∈ messages ∧ row ∈ order.rows := by
  induction messages using List.reverseRecOn with
  | nil => cases h
  | append_singleton messages message ih =>
    rw [trackedRows_snoc] at h
    rcases List.mem_append.mp h with h | h
    · obtain ⟨order, hmem, hrow⟩ := ih h
      exact ⟨order, List.mem_append_left _ hmem, hrow⟩
    · obtain ⟨order, hmessage, hrow⟩ := mem_addedBy h
      exact ⟨order, List.mem_append_right _ (List.mem_singleton.mpr hmessage.symm), hrow⟩

theorem processAll_snoc (tables : Tables (schema admits)) (deliveries : List Delivery)
    (delivery : Delivery) :
    processAll tables (deliveries ++ [delivery]) =
      process (processAll tables deliveries) delivery := by
  unfold processAll
  rw [List.foldl_append]
  rfl

/-- **What is tracked is a function of the messages** alone. -/
theorem tracker_processAll (tables : Tables (schema admits)) (deliveries : List Delivery) :
    (processAll tables deliveries).tracker.rows =
      trackedRows (deliveries.map Delivery.message) := by
  induction deliveries using List.reverseRecOn with
  | nil => rfl
  | append_singleton deliveries delivery ih =>
    have howned : Owned (processAll tables deliveries).tracker.rows := ih ▸ owned_trackedRows _
    rw [processAll_snoc, (processed howned delivery).tracker_rows, List.map_append, ih,
      Tracker.keys_eq, ih]
    exact (trackedRows_snoc _ _).symm

theorem owned_processAll (tables : Tables (schema admits)) (deliveries : List Delivery) :
    Owned (processAll tables deliveries).tracker.rows := by
  rw [tracker_processAll]
  exact owned_trackedRows _

theorem processed_snoc (tables : Tables (schema admits)) (deliveries : List Delivery)
    (delivery : Delivery) :
    Processed (processAll tables deliveries) delivery
      (processAll tables (deliveries ++ [delivery])) := by
  rw [processAll_snoc]
  exact processed (owned_processAll tables deliveries) delivery

theorem reached_processAll (tables : Tables (schema admits)) (deliveries : List Delivery) :
    DbContext.Reached tables (processAll tables deliveries) := by
  induction deliveries using List.reverseRecOn with
  | nil => exact .start
  | append_singleton deliveries delivery ih =>
    exact (processed_snoc tables deliveries delivery).reached ih

theorem mem_tracker_processAll {deliveries : List Delivery} {row : Entity}
    (h : row ∈ (processAll tables deliveries).tracker.rows) :
    ∃ order ∈ ordersOf deliveries, row ∈ order.rows := by
  rw [tracker_processAll] at h
  obtain ⟨order, horder, hrow⟩ := mem_trackedRows h
  exact ⟨order, mem_ordersOf.mpr (List.mem_map.mp horder), hrow⟩

theorem mem_keys_processAll {deliveries : List Delivery} {k : Key}
    (h : k ∈ (processAll tables deliveries).tracker.keys) :
    ∃ order ∈ ordersOf deliveries, k = .order order.orderId ∨
      (∃ p, k = .orderItem p order.orderId) ∨ k = .shipping order.shippingTrackingId := by
  rw [Tracker.keys_eq] at h
  obtain ⟨row, hrow, rfl⟩ := List.mem_map.mp h
  obtain ⟨order, horder, hrow⟩ := mem_tracker_processAll hrow
  exact ⟨order, horder, order.key_of_mem_rows hrow⟩

/-- A well-formed order with a new order id and a new tracking id is addable. -/
theorem addable_processAll {deliveries : List Delivery} {order : OrderResult}
    (hwell : order.WellFormed)
    (hnew : ∀ earlier ∈ ordersOf deliveries, earlier.orderId ≠ order.orderId ∧
      earlier.shippingTrackingId ≠ order.shippingTrackingId) :
    order.Addable (processAll tables deliveries).tracker.keys := by
  refine ⟨fun hmem => ?_, hwell, fun hmem => ?_⟩
  · obtain ⟨earlier, hearlier, h | ⟨p, h⟩ | h⟩ := mem_keys_processAll hmem
    · exact (hnew earlier hearlier).1 (Key.order.inj h).symm
    · cases h
    · cases h
  · obtain ⟨earlier, hearlier, h | ⟨p, h⟩ | h⟩ := mem_keys_processAll hmem
    · cases h
    · cases h
    · exact (hnew earlier hearlier).2 (Key.shipping.inj h).symm

/-- What is pending can be inserted exactly when no tracked row was refused from the start. -/
theorem insertable_pending_iff (hreached : DbContext.Reached tables c)
    (howned : Owned c.tracker.rows) :
    c.tables.Insertable c.tracker.pending ↔
      ∀ row ∈ c.tracker.rows, admits row = true ∧ row.key ∉ tables.keys := by
  apply hreached.insertable_iff
  intro row hrow k hk
  rw [c.tracker.keys_eq]
  cases row with
  | order row => cases hk
  | orderItem row =>
    obtain rfl := List.mem_singleton.mp hk
    exact howned _ hrow
  | shipping row =>
    obtain rfl := List.mem_singleton.mp hk
    exact howned _ hrow

theorem Owned.extends {order : OrderResult} {t t' : Tracker (schema admits)} (h : Owned t.rows)
    (haddable : order.Addable t.keys) (hextends : t.Extends order.rows t') : Owned t'.rows := by
  rw [hextends.rows_eq, ← rowsAfter_of_addable haddable, t.keys_eq]
  exact owned_append_addedBy h (.ok order)

theorem insertable_extends_iff {order : OrderResult} {tracker : Tracker (schema admits)}
    (hreached : DbContext.Reached tables c) (howned : Owned c.tracker.rows)
    (haddable : order.Addable c.tracker.keys) (hextends : c.tracker.Extends order.rows tracker) :
    c.tables.Insertable tracker.pending ↔
      ∀ row ∈ c.tracker.rows ++ order.rows, admits row = true ∧ row.key ∉ tables.keys := by
  rw [← hextends.rows_eq]
  exact insertable_pending_iff (hreached.track hextends) (howned.extends haddable hextends)

/-- An addable order is saved with all that is pending, or nothing is stored. -/
theorem Processed.of_addable {order : OrderResult} (h : Processed c ⟨.ok order, true⟩ c')
    (hreached : DbContext.Reached tables c) (howned : Owned c.tracker.rows)
    (haddable : order.Addable c.tracker.keys) :
    ((∀ row ∈ c.tracker.rows ++ order.rows, admits row = true ∧ row.key ∉ tables.keys) ∧
      c'.tracker.pending = [] ∧
      c'.tables.rows = c.tables.rows ++ (c.tracker.pending ++ order.rows)) ∨
    (¬ (∀ row ∈ c.tracker.rows ++ order.rows, admits row = true ∧ row.key ∉ tables.keys) ∧
      c'.tables = c.tables) := by
  cases h with
  | unread hmessage => cases hmessage
  | thrown hmessage hnot hextends =>
    cases hmessage
    exact absurd haddable hnot
  | notSaved hmessage hadd hextends hsave =>
    cases hmessage
    refine .inr ⟨fun hrows => ?_, rfl⟩
    have hinsert := (insertable_extends_iff hreached howned haddable hextends).mpr hrows
    exact DbContext.saveChanges_eq_none_iff.mp hsave ⟨rfl, hinsert⟩
  | saved hmessage hadd hextends hsave =>
    cases hmessage
    obtain ⟨hinsert, htracker, hrows⟩ := DbContext.saveChanges_eq_some hsave
    refine .inl ⟨(insertable_extends_iff hreached howned haddable hextends).mp hinsert, ?_, ?_⟩
    · rw [htracker, Tracker.pending_acceptAllChanges]
    · rw [hrows, hextends.pending]

end

end AstronomyShop.Accounting
