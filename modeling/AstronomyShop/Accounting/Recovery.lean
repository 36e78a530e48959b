import AstronomyShop.Accounting.Runs

/-!
# Orders after a bad message

Rows that could not be saved stay in the change tracker and are part of every later save. So an
order is stored when it is processed exactly when the database would have taken all the rows that
earlier messages left there; one redelivery of an order that is stored already is enough to block
all later ones.
-/

namespace AstronomyShop.Accounting

open UnitOfWork

section

variable {admits : Entity → Bool} {tables : Tables (schema admits)}
  {c c' : DbContext (schema admits)} {order : OrderResult}

theorem Processed.stored_iff (h : Processed c ⟨.ok order, true⟩ c')
    (hreached : DbContext.Reached tables c) (howned : Owned c.tracker.rows)
    (haddable : order.Addable c.tracker.keys) (hinsertable : c.tables.Insertable order.rows) :
    (∀ row ∈ order.rows, row ∈ c'.tables.rows) ↔
      ∀ row ∈ c.tracker.rows, admits row = true ∧ row.key ∉ tables.keys := by
  have hown : ∀ row ∈ order.rows, admits row = true ∧ row.key ∉ tables.keys := by
    intro row hrow
    refine ⟨(hinsertable.2 row hrow).1, fun hmem => ?_⟩
    exact hinsertable.new hrow (hreached.consistent.mem_keys hmem)
  rcases h.of_addable hreached howned haddable with ⟨hrows, -, hstored⟩ | ⟨hrows, htables⟩
  · refine iff_of_true (fun row hrow => ?_) (List.forall_mem_append.mp hrows).1
    rw [hstored]
    exact List.mem_append_right _ (List.mem_append_right _ hrow)
  · refine iff_of_false (fun hstored => ?_) fun htracked => ?_
    · have hmem := hstored _ (List.mem_cons_self : Entity.order _ ∈ order.rows)
      rw [htables] at hmem
      exact hinsertable.new List.mem_cons_self (List.mem_map_of_mem hmem)
    · exact hrows (List.forall_mem_append.mpr ⟨htracked, hown⟩)

/-- **A new order is stored exactly when** the database refuses no row of earlier messages. -/
theorem order_stored_iff (tables : Tables (schema admits)) (deliveries : List Delivery)
    (order : OrderResult) (hwell : order.WellFormed)
    (hnew : ∀ earlier ∈ ordersOf deliveries, earlier.orderId ≠ order.orderId ∧
      earlier.shippingTrackingId ≠ order.shippingTrackingId)
    (hinsertable : (processAll tables deliveries).tables.Insertable order.rows) :
    (∀ row ∈ order.rows,
        row ∈ (processAll tables (deliveries ++ [⟨.ok order, true⟩])).tables.rows) ↔
      ∀ row ∈ trackedRows (deliveries.map Delivery.message),
        admits row = true ∧ row.key ∉ tables.keys := by
  rw [← tracker_processAll tables]
  exact (processed_snoc tables deliveries ⟨.ok order, true⟩).stored_iff
    (reached_processAll tables deliveries) (owned_processAll tables deliveries)
    (addable_processAll hwell hnew) hinsertable

end

/-- The tables after an earlier process has stored an order. -/
def telescopeStored : Tables (schema fun _ => true) :=
  (processAll Tables.empty [⟨.ok (telescopeOrder "o1" "t1"), true⟩]).tables

/-- Another order follows one that could not be saved at first. -/
theorem order_stored_iff_telescope :
    (telescopeOrder "o3" "t3").shippingEntity ∈ (processAll telescopeStored
      [⟨.ok (telescopeOrder "o2" "t2"), false⟩,
        ⟨.ok (telescopeOrder "o3" "t3"), true⟩]).tables.rows :=
  (order_stored_iff telescopeStored [⟨.ok (telescopeOrder "o2" "t2"), false⟩]
    (telescopeOrder "o3" "t3") (by decide +kernel) (by decide +kernel) (by decide +kernel)).mpr
    (by decide +kernel) _ (by decide +kernel)

/-- The stored order is delivered once more, and no order is stored after it. -/
theorem order_not_stored :
    ¬ ∀ (tables : Tables (schema fun _ => true)) (deliveries : List Delivery)
      (order : OrderResult), order.WellFormed →
      (∀ earlier ∈ ordersOf deliveries, earlier.orderId ≠ order.orderId ∧
        earlier.shippingTrackingId ≠ order.shippingTrackingId) →
      (processAll tables deliveries).tables.Insertable order.rows →
      ∀ row ∈ order.rows,
        row ∈ (processAll tables (deliveries ++ [⟨.ok order, true⟩])).tables.rows := by
  intro h
  have hstored := h telescopeStored [⟨.ok (telescopeOrder "o1" "t1"), true⟩]
    (telescopeOrder "o2" "t2") (by decide +kernel) (by decide +kernel) (by decide +kernel)
  revert hstored
  decide +kernel

end AstronomyShop.Accounting
