import AstronomyShop.Cart.History

/-!
# The owner of a cart

`EmptyCart` stores a cart of no user, and `AddItem` adds to a stored cart without a look at its
owner. A cart keeps its owner exactly when nothing is added after an `EmptyCart`
(`owner_kept_iff`).
-/

namespace AstronomyShop.CartService

open Interaction

section

variable {valkey userId : String} {db db' : Db}
  {exchanges : List (Update × Except RpcException Unit)}

/-- Updates of one user, one after the other. -/
abbrev UpdateSession (valkey userId : String) :
    Db → List (Update × Except RpcException Unit) → Db → Prop :=
  Session (Answers valkey) (fun u : Update => u.perform valkey userId)

/-- In every state that some updates of a user lead to and in which the stored cart has a line,
`GetCartAsync` returns a cart of that user. -/
def KeepsOwner (valkey userId : String) (exchanges : List (Update × Except RpcException Unit)) :
    Prop :=
  ∀ before after db, exchanges = before ++ after → UpdateSession valkey userId noCarts before db →
    storedItems db userId ≠ [] → ∀ cart db',
      Served (Answers valkey) (getCartAsync valkey userId) db (.ok cart) db' →
        cart.userId = userId

/-- Something is added after an `EmptyCart`. -/
def AddsAfterEmpty (updates : List Update) : Prop :=
  ∃ before after productId quantity, updates = before ++ .emptyCart :: after ∧
    .addItem productId quantity ∈ after

/-- The cart after an addition has a line, and its owner is still what it was. -/
theorem addToCart_owner {value : Option Cart} {cart : Cart} {productId : String}
    {quantity : Int32} (h : addToCart userId value productId quantity = .ok cart) :
    cart.items ≠ [] ∧ cart.userId = (value.map Cart.userId).getD userId := by
  have hitems := addToCart_items h
  refine ⟨?_, ?_⟩
  · intro hnil
    rw [hnil] at hitems
    unfold addToItems at hitems
    split at hitems
    · simp at hitems
    · rename_i line hone
      have hmap := Except.ok.inj hitems
      rw [List.map_eq_nil_iff] at hmap
      rw [hmap] at hone
      cases hone
    · cases hitems
  · cases value with
    | none =>
      cases h
      rfl
    | some old =>
      unfold addToCart at h
      dsimp only at h
      split at h
      · cases h
        rfl
      · cases h

/-- The owner of the stored cart: the user, or nobody once the cart has been emptied. -/
def ownerOf (userId : String) (updates : List Update) : Option String :=
  updates.foldl (fun owner u => match u with
    | .addItem _ _ => some (owner.getD userId)
    | .emptyCart => some "") none

theorem ownerOf_snoc (userId : String) (updates : List Update) (u : Update) :
    ownerOf userId (updates ++ [u]) = match u with
      | .addItem _ _ => some ((ownerOf userId updates).getD userId)
      | .emptyCart => some "" := by
  unfold ownerOf
  rw [List.foldl_append, List.foldl_cons, List.foldl_nil]

theorem owner_of_session (h : UpdateSession valkey userId noCarts exchanges db)
    (hok : ∀ exchange ∈ exchanges, exchange.2 = .ok ()) :
    (storedCart db userId).map Cart.userId = ownerOf userId (exchanges.map Prod.fst) := by
  induction h with
  | nil => rfl
  | @snoc before db₁ db₂ u reply h served ih =>
    rw [List.forall_mem_append, List.forall_mem_singleton] at hok
    obtain ⟨hbefore, rfl⟩ := hok
    obtain ⟨cart, hcart, hstored⟩ := served_update_ok served
    rw [List.map_append, List.map_singleton, ownerOf_snoc, hstored, ← ih hbefore]
    cases u with
    | addItem productId quantity => exact congrArg some (addToCart_owner hcart).2
    | emptyCart =>
      cases hcart
      rfl

theorem ownerOf_of_mem {updates : List Update} (h : .emptyCart ∈ updates) :
    ownerOf userId updates = some "" := by
  induction updates using List.reverseRecOn with
  | nil => cases h
  | append_singleton updates u ih =>
    rw [ownerOf_snoc]
    cases u with
    | emptyCart => rfl
    | addItem productId quantity =>
      have hbefore : Update.emptyCart ∈ updates := by simpa using h
      rw [ih hbefore]
      rfl

theorem ownerOf_of_not_mem {updates : List Update} (h : .emptyCart ∉ updates) :
    ownerOf userId updates = none ∨ ownerOf userId updates = some userId := by
  induction updates using List.reverseRecOn with
  | nil => exact .inl rfl
  | append_singleton updates u ih =>
    rw [ownerOf_snoc]
    rw [List.mem_append, List.mem_singleton, not_or] at h
    cases u with
    | emptyCart => exact absurd rfl h.2
    | addItem productId quantity =>
      rcases ih h.1 with hnone | hsome
      · exact .inr (by rw [hnone]; rfl)
      · exact .inr (by rw [hsome]; rfl)

/-- A stored cart with a line, emptied at some time before, is one that was added to after. -/
theorem addsAfterEmpty_of_lines (h : UpdateSession valkey userId noCarts exchanges db)
    (hok : ∀ exchange ∈ exchanges, exchange.2 = .ok ()) (hlines : storedItems db userId ≠ [])
    (hempty : .emptyCart ∈ exchanges.map Prod.fst) : AddsAfterEmpty (exchanges.map Prod.fst) := by
  cases h with
  | nil => cases hempty
  | @snoc before db₁ db₂ u reply h served =>
    rw [List.forall_mem_append, List.forall_mem_singleton] at hok
    obtain ⟨-, rfl⟩ := hok
    rw [List.map_append, List.map_singleton] at hempty ⊢
    cases u with
    | emptyCart => exact absurd (served_emptyCartAsync_ok served) hlines
    | addItem productId quantity =>
      have hbefore : Update.emptyCart ∈ before.map Prod.fst := by simpa using hempty
      obtain ⟨l₁, l₂, hsplit⟩ := List.append_of_mem hbefore
      refine ⟨l₁, l₂ ++ [.addItem productId quantity], productId, quantity, ?_, ?_⟩
      · simp [hsplit]
      · simp

theorem lines_of_addItem {productId : String} {quantity : Int32}
    (h : UpdateSession valkey userId noCarts
      (exchanges ++ [(.addItem productId quantity, .ok ())]) db) :
    storedItems db userId ≠ [] := by
  obtain ⟨db₁, -, served⟩ := session_snoc.mp h
  obtain ⟨cart, hcart, hstored⟩ := served_update_ok served
  rw [storedItems_eq, hstored]
  exact (addToCart_owner hcart).1

/-- A stored cart can be read. -/
theorem served_getCart_of_stored {cart : Cart} (h : storedCart db userId = some cart) :
    Served (Answers valkey) (getCartAsync valkey userId) db (.ok cart) db := by
  have hget : db.hashGet userId cartFieldName = .ok (some cart) := by
    unfold storedCart at h
    unfold Db.hashGet
    split at h
    · rename_i fields hhash
      rw [hhash]
      exact congrArg _ h
    · cases h
  have hanswer : Answers valkey db (.command valkey (.hashGet userId cartFieldName))
      (.ok (some cart)) db := .inl ⟨rfl, by rw [← hget]; rfl⟩
  have hopened : Answers valkey db (.isConnectionOpened valkey) true db := ⟨rfl, fun _ => rfl⟩
  exact .call hopened (.call hanswer (.pure _ _))

theorem AddsAfterEmpty.append {updates : List Update} (h : AddsAfterEmpty updates)
    (after : List Update) : AddsAfterEmpty (updates ++ after) := by
  obtain ⟨l₁, l₂, productId, quantity, hsplit, hadd⟩ := h
  refine ⟨l₁, l₂ ++ after, productId, quantity, ?_, List.mem_append_left _ hadd⟩
  rw [hsplit, List.append_assoc, List.cons_append]

/-- The owner of a cart with lines that `GetCart` returns. -/
theorem owner_of_getCart {cart : Cart} {db' : Db}
    (h : UpdateSession valkey userId noCarts exchanges db)
    (hok : ∀ exchange ∈ exchanges, exchange.2 = .ok ()) (hlines : storedItems db userId ≠ [])
    (served : Served (Answers valkey) (getCartAsync valkey userId) db (.ok cart) db') :
    ownerOf userId (exchanges.map Prod.fst) = some cart.userId := by
  obtain ⟨t, hrun, hpath⟩ := served_iff.mp served
  obtain ⟨rfl, -⟩ := getCart_ok hrun hpath
  rw [← owner_of_session h hok]
  rw [storedItems_eq] at hlines
  cases hstored : storedCart db userId with
  | none =>
    rw [hstored] at hlines
    exact absurd rfl hlines
  | some cart => rfl

/-- **A cart keeps its owner exactly when** nothing is added to it after an `EmptyCart`, over any
successful updates of a user. The owner is written with the first line of a new cart only, and
`EmptyCart` stores a cart of nobody. -/
theorem owner_kept_iff (h : UpdateSession valkey userId noCarts exchanges db)
    (hok : ∀ exchange ∈ exchanges, exchange.2 = .ok ()) :
    KeepsOwner valkey userId exchanges ↔
      userId = "" ∨ ¬ AddsAfterEmpty (exchanges.map Prod.fst) := by
  constructor
  · intro hkeeps
    by_contra hnot
    rw [not_or, not_not] at hnot
    obtain ⟨huser, before, after, productId, quantity, hsplit, hadd⟩ := hnot
    obtain ⟨mid, rest, rfl⟩ := List.append_of_mem hadd
    have hsplit' : exchanges.map Prod.fst =
        (before ++ .emptyCart :: mid) ++ .addItem productId quantity :: rest := by
      rw [hsplit, List.append_assoc, List.cons_append]
    obtain ⟨e₁, e₂, rfl, hmap₁, hmap₂⟩ := List.map_eq_append_iff.mp hsplit'
    obtain ⟨⟨u, reply⟩, e₃, rfl, rfl, -⟩ := List.map_eq_cons_iff.mp hmap₂
    obtain rfl : reply = .ok () := hok (.addItem productId quantity, reply) (by simp)
    rw [List.append_cons] at h hkeeps hok
    obtain ⟨db₁, hfirst, -⟩ := h.split
    have howner := owner_of_session hfirst fun exchange hmem =>
      hok exchange (List.mem_append_left _ hmem)
    rw [ownerOf_of_mem (by simp [hmap₁])] at howner
    obtain ⟨cart, hstored, hcart⟩ := Option.map_eq_some_iff.mp howner
    have hreturned := hkeeps _ _ db₁ rfl hfirst (lines_of_addItem hfirst) cart db₁
      (served_getCart_of_stored hstored)
    exact huser (hreturned.symm.trans hcart)
  · intro hcond before after db₁ hsplit hsession hlines cart db₂ served
    have hok₁ : ∀ exchange ∈ before, exchange.2 = .ok () := fun exchange hmem =>
      hok exchange (by rw [hsplit]; exact List.mem_append_left _ hmem)
    have howner := owner_of_getCart hsession hok₁ hlines served
    by_cases hempty : .emptyCart ∈ before.map Prod.fst
    · rw [ownerOf_of_mem hempty, Option.some_inj] at howner
      rcases hcond with rfl | hcond
      · exact howner.symm
      · apply absurd _ hcond
        rw [hsplit, List.map_append]
        exact (addsAfterEmpty_of_lines hsession hok₁ hlines hempty).append _
    · rcases @ownerOf_of_not_mem userId _ hempty with hnone | hsome
      · rw [hnone] at howner
        cases howner
      · rw [hsome, Option.some_inj] at howner
        exact howner.symm

end

/-- A cart with two additions, emptied at the end. -/
def filled : List (Update × Except RpcException Unit) :=
  [(.addItem "bulb" 1, .ok ()), (.addItem "bulb" 2, .ok ()), (.emptyCart, .ok ())]

/-- A cart that is emptied before its first line. -/
def refilled : List (Update × Except RpcException Unit) :=
  [(.emptyCart, .ok ()), (.addItem "bulb" 1, .ok ())]

def updatedDb (updates : List Update) : Db :=
  (converse (respond "v") (fun u : Update => u.perform "v" "u1") updates noCarts).2

theorem session_filled :
    UpdateSession "v" "u1" noCarts filled (updatedDb (filled.map Prod.fst)) :=
  session_converse (answers_respond "v") (filled.map Prod.fst) noCarts

theorem session_refilled :
    UpdateSession "v" "u1" noCarts refilled (updatedDb (refilled.map Prod.fst)) :=
  session_converse (answers_respond "v") (refilled.map Prod.fst) noCarts

theorem storedCart_refilled :
    storedCart (updatedDb (refilled.map Prod.fst)) "u1" = some ⟨"", [⟨"bulb", 1⟩]⟩ := rfl

theorem ok_of_mem_refilled : ∀ exchange ∈ refilled, exchange.2 = .ok () := by
  simp [refilled]

theorem not_addsAfterEmpty_filled : ¬ AddsAfterEmpty (filled.map Prod.fst) := by
  rintro ⟨before, after, productId, quantity, hsplit, hadd⟩
  obtain rfl : after = [] := by
    rcases before with _ | ⟨first, _ | ⟨second, _ | ⟨third, rest⟩⟩⟩
    all_goals simp [filled] at hsplit
    exact hsplit.2.2
  cases hadd

theorem addsAfterEmpty_refilled : AddsAfterEmpty (refilled.map Prod.fst) :=
  ⟨[], [.addItem "bulb" 1], "bulb", 1, rfl, List.mem_cons_self⟩

/-- The first of the carts keeps its owner, and the second does not. -/
theorem owner_kept_iff_refilled :
    UpdateSession "v" "u1" noCarts filled (updatedDb (filled.map Prod.fst)) ∧
      KeepsOwner "v" "u1" filled ∧
      UpdateSession "v" "u1" noCarts refilled (updatedDb (refilled.map Prod.fst)) ∧
      ¬ KeepsOwner "v" "u1" refilled := by
  have hfilled := owner_kept_iff session_filled (by simp [filled])
  have hrefilled := owner_kept_iff session_refilled ok_of_mem_refilled
  refine ⟨session_filled, hfilled.mpr (.inr not_addsAfterEmpty_filled), session_refilled, ?_⟩
  rw [hrefilled]
  rintro (huser | hnone)
  · exact absurd huser (by decide)
  · exact hnone addsAfterEmpty_refilled

/-- The cart that is filled again is a cart of nobody. -/
theorem owner_lost : ¬ ∀ userId exchanges db, UpdateSession "v" userId noCarts exchanges db →
    (∀ exchange ∈ exchanges, exchange.2 = .ok ()) → KeepsOwner "v" userId exchanges := by
  intro h
  have hlines : storedItems (updatedDb (refilled.map Prod.fst)) "u1" ≠ [] := by
    rw [storedItems_eq, storedCart_refilled]
    exact List.cons_ne_nil _ _
  have howner := h "u1" refilled _ session_refilled ok_of_mem_refilled refilled [] _
    (List.append_nil _).symm session_refilled hlines _ _
    (served_getCart_of_stored storedCart_refilled)
  exact absurd howner (by decide)

end AstronomyShop.CartService
