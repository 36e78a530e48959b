import AstronomyShop.Cart.History
import AstronomyShop.Library.MachineInt

/-!
# Positive quantities

The stored quantities are positive while only positive ones are added and no sum passes the bound of
an `int32` (`quantities_positive`); `CartService` checks neither.
-/

namespace AstronomyShop.CartService

open Interaction

/-- The same requests to `CartService`. -/
def Request.handle (valkeyAddress : String) :
    Request → Service (Except RpcException Response)
  | update userId (.addItem productId quantity) => do
    let r ← addItem valkeyAddress userId { productId := productId, quantity := quantity }
    return r.map fun _ => Response.empty
  | update userId .emptyCart => do
    return (← emptyCart valkeyAddress userId).map fun _ => Response.empty
  | getCart userId => do
    return (← CartService.getCart valkeyAddress userId).map Response.cart

/-- The quantity of a product that is added for a user since the last successful `EmptyCart`,
successfully or not. -/
def addedSince (userId productId : String)
    (exchanges : List (Request × Except RpcException Response)) : Int :=
  exchanges.foldl (fun n exchange => match exchange with
    | (.update user (.addItem added quantity), _) =>
      if user = userId ∧ added = productId then n + quantity.toInt else n
    | (.update user .emptyCart, .ok _) => if user = userId then 0 else n
    | _ => n) 0

section

variable {valkey userId productId : String} {db db' : Db}
  {exchanges : List (Request × Except RpcException Response)}

theorem addedSince_snoc (exchange : Request × Except RpcException Response) :
    addedSince userId productId (exchanges ++ [exchange]) = match exchange with
      | (.update user (.addItem added quantity), _) =>
        if user = userId ∧ added = productId then
          addedSince userId productId exchanges + quantity.toInt
        else addedSince userId productId exchanges
      | (.update user .emptyCart, .ok _) =>
        if user = userId then 0 else addedSince userId productId exchanges
      | _ => addedSince userId productId exchanges := by
  unfold addedSince
  rw [List.foldl_append, List.foldl_cons, List.foldl_nil]

/-- An update of `CartService` is one of a store, which may be the one with the bad address. -/
theorem served_handle_update {user : String} {u : Update} {r : Except RpcException Response}
    (h : Served (Answers valkey) ((Request.update user u).handle valkey) db r db') :
    ∃ address r', Served (Answers valkey) (u.perform address user) db r' db' ∧
      r = r'.map fun _ => Response.empty := by
  cases u with
  | addItem productId quantity =>
    obtain ⟨r', db₁, hserved, hpure⟩ := served_bind.mp h
    obtain ⟨rfl, rfl⟩ := served_pure.mp hpure
    exact ⟨valkey, r', hserved, rfl⟩
  | emptyCart =>
    obtain ⟨r', db₁, hserved, hpure⟩ := served_bind.mp h
    obtain ⟨rfl, rfl⟩ := served_pure.mp hpure
    obtain ⟨flag, db₂, hflag, hrest⟩ := served_call.mp hserved
    obtain rfl : db₂ = db := hflag
    cases flag with
    | true => exact ⟨badAddress, r', hrest, rfl⟩
    | false => exact ⟨valkey, r', hrest, rfl⟩

theorem served_handle_getCart {user : String} {r : Except RpcException Response}
    (h : Served (Answers valkey) ((Request.getCart user).handle valkey) db r db') :
    storedItems db' userId = storedItems db userId ∨ storedItems db' userId = [] := by
  obtain ⟨r', db₁, hserved, hpure⟩ := served_bind.mp h
  obtain ⟨-, rfl⟩ := served_pure.mp hpure
  exact served_getCart hserved

/-- The lines after an addition are old ones, the new one, or the one that was added to. -/
theorem mem_addToItems {items items' : List CartItem} {quantity : Int32} {line : CartItem}
    (h : addToItems items productId quantity = .ok items') (hline : line ∈ items') :
    line ∈ items ∨ line = { productId := productId, quantity := quantity } ∨
      ∃ old ∈ items, old.productId = productId ∧
        line = { old with quantity := old.quantity + quantity } := by
  unfold addToItems at h
  split at h
  · cases h
    rw [List.mem_append, List.mem_singleton] at hline
    rcases hline with hline | hline
    · exact .inl hline
    · exact .inr (.inl hline)
  · cases h
    obtain ⟨old, hold, rfl⟩ := List.mem_map.mp hline
    split
    · rename_i heq
      exact .inr (.inr ⟨old, hold, beq_iff_eq.mp heq, rfl⟩)
    · exact .inl hold
  · cases h

/-- Each line has a positive quantity, of at most what was added. -/
def LinesBounded (added : String → Int) (items : List CartItem) : Prop :=
  ∀ line ∈ items, 1 ≤ line.quantity.toInt ∧ line.quantity.toInt ≤ added line.productId

theorem LinesBounded.mono {added added' : String → Int} {items items' : List CartItem}
    (h : LinesBounded added items) (hadded : ∀ productId, added productId ≤ added' productId)
    (hitems : items' = items ∨ items' = []) : LinesBounded added' items' := by
  rcases hitems with rfl | rfl
  · intro line hline
    exact ⟨(h line hline).1, Int.le_trans (h line hline).2 (hadded _)⟩
  · intro line hline
    cases hline

theorem LinesBounded.addToItems {added : String → Int} {items items' : List CartItem}
    {quantity : Int32} (h : LinesBounded added items) (hpos : 1 ≤ quantity.toInt)
    (hnonneg : 0 ≤ added productId) (hbound : added productId + quantity.toInt < 2 ^ 31)
    (hitems : addToItems items productId quantity = .ok items') :
    LinesBounded (fun p => if productId = p then added p + quantity.toInt else added p) items' := by
  intro line hline
  rcases mem_addToItems hitems hline with hold | rfl | ⟨old, hold, hproduct, rfl⟩
  · obtain ⟨hone, hle⟩ := h line hold
    refine ⟨hone, ?_⟩
    dsimp only
    split
    · omega
    · exact hle
  · refine ⟨hpos, ?_⟩
    dsimp only
    rw [if_pos rfl]
    omega
  · obtain ⟨hone, hle⟩ := h old hold
    rw [hproduct] at hle
    have hsum : (old.quantity + quantity).toInt = old.quantity.toInt + quantity.toInt :=
      Int32.toInt_add_of_bounds (by omega) (by omega)
    dsimp only
    rw [hsum, hproduct, if_pos rfl]
    omega

/-- Only positive quantities are added. -/
def AddsPositive (exchanges : List (Request × Except RpcException Response)) : Prop :=
  ∀ user added quantity reply, (.update user (.addItem added quantity), reply) ∈ exchanges →
    1 ≤ quantity.toInt

/-- What is added of a product between two `EmptyCart`s is never more than an `int32` holds. -/
def AddsBounded (exchanges : List (Request × Except RpcException Response)) : Prop :=
  ∀ before after, exchanges = before ++ after → ∀ userId productId,
    addedSince userId productId before < 2 ^ 31

theorem AddsBounded.nil : AddsBounded [] := by
  intro before after hsplit userId productId
  obtain ⟨rfl, -⟩ := List.append_eq_nil_iff.mp hsplit.symm
  exact (by decide : (0 : Int) < 2 ^ 31)

theorem AddsBounded.snoc {exchange : Request × Except RpcException Response}
    (h : AddsBounded exchanges)
    (hlast : ∀ userId productId, addedSince userId productId (exchanges ++ [exchange]) < 2 ^ 31) :
    AddsBounded (exchanges ++ [exchange]) := by
  intro before after hsplit userId productId
  rcases List.eq_nil_or_concat' after with rfl | ⟨after, last, rfl⟩
  · rw [List.append_nil] at hsplit
    rw [← hsplit]
    exact hlast userId productId
  · rw [← List.append_assoc] at hsplit
    exact h before after (List.append_inj_left' hsplit rfl) userId productId

theorem addedSince_nonneg (hpos : AddsPositive exchanges) :
    0 ≤ addedSince userId productId exchanges := by
  induction exchanges using List.reverseRecOn with
  | nil => exact Int.le_refl 0
  | append_singleton exchanges exchange ih =>
    have hbefore := ih fun user added quantity reply hmem =>
      hpos user added quantity reply (List.mem_append_left _ hmem)
    rw [addedSince_snoc]
    split
    · rename_i user added quantity reply
      have hone := hpos user added quantity reply (by simp)
      split
      · omega
      · exact hbefore
    · split
      · exact Int.le_refl 0
      · exact hbefore
    · exact hbefore

/-- The additions of a longer history, but for the user of an `EmptyCart` that succeeds. -/
theorem addedSince_le_snoc {user : String} {u : Update} {r : Except RpcException Unit}
    (hpos : AddsPositive
      (exchanges ++ [(.update user u, r.map fun _ => Response.empty)]))
    (h : user = userId → u = .emptyCart → ∃ ex, r = .error ex) (productId : String) :
    addedSince userId productId exchanges ≤ addedSince userId productId
      (exchanges ++ [(.update user u, r.map fun _ => Response.empty)]) := by
  rw [addedSince_snoc]
  cases u with
  | addItem added quantity =>
    have hone := hpos user added quantity (r.map fun _ => Response.empty) (by simp)
    dsimp only
    split <;> omega
  | emptyCart =>
    by_cases huser : user = userId
    · obtain ⟨ex, rfl⟩ := h huser rfl
      exact Int.le_refl _
    · cases r with
      | error ex => exact Int.le_refl _
      | ok a => exact Int.le_of_eq (if_neg huser).symm

/-- So does an addition that is written. -/
theorem LinesBounded.addToCart {user productId : String} {quantity : Int32} {cart : Cart}
    {reply : Except RpcException Response}
    (hlines : LinesBounded (fun p => addedSince user p exchanges) (storedItems db user))
    (hbefore : AddsPositive exchanges) (hone : 1 ≤ quantity.toInt)
    (hbound : AddsBounded (exchanges ++ [(.update user (.addItem productId quantity), reply)]))
    (hcart : addToCart user (storedCart db user) productId quantity = .ok cart) :
    LinesBounded (fun p => addedSince user p
      (exchanges ++ [(.update user (.addItem productId quantity), reply)])) cart.items := by
  have hsum := hbound _ [] (List.append_nil _).symm user productId
  rw [addedSince_snoc] at hsum
  dsimp only at hsum
  rw [if_pos ⟨rfl, rfl⟩] at hsum
  have hadded := addToCart_items hcart
  rw [← storedItems_eq] at hadded
  have hnew := hlines.addToItems hone (addedSince_nonneg hbefore) hsum hadded
  intro line hline
  obtain ⟨hfirst, hsecond⟩ := hnew line hline
  refine ⟨hfirst, ?_⟩
  dsimp only at hsecond ⊢
  rw [addedSince_snoc]
  simpa only [true_and] using hsecond

/-- One request keeps the lines of a user bounded. -/
theorem linesBounded_of_served {request : Request} {r : Except RpcException Response}
    (hlines : LinesBounded (fun p => addedSince userId p exchanges) (storedItems db userId))
    (hpos : AddsPositive (exchanges ++ [(request, r)]))
    (hbound : AddsBounded (exchanges ++ [(request, r)]))
    (h : Served (Answers valkey) (request.handle valkey) db r db') :
    LinesBounded (fun p => addedSince userId p (exchanges ++ [(request, r)]))
      (storedItems db' userId) := by
  have hbefore : AddsPositive exchanges := fun user added quantity reply hmem =>
    hpos user added quantity reply (List.mem_append_left _ hmem)
  cases request with
  | getCart user =>
    have hsame : ∀ p, addedSince userId p (exchanges ++ [(.getCart user, r)]) =
        addedSince userId p exchanges := fun p => addedSince_snoc _
    exact hlines.mono (fun p => Int.le_of_eq (hsame p).symm) (served_handle_getCart h)
  | update user u =>
    obtain ⟨address, r', hserved, rfl⟩ := served_handle_update h
    obtain ⟨t, hrun, hpath⟩ := served_iff.mp hserved
    by_cases huser : user = userId
    · subst huser
      cases update_outcome hrun hpath with
      | unwritten ex herror hkept =>
        exact hlines.mono (addedSince_le_snoc hpos fun _ _ => ⟨ex, herror⟩) hkept.storedItems
      | written cart hcart hstored =>
        rw [storedItems_eq, hstored]
        cases u with
        | emptyCart =>
          cases hcart
          intro line hline
          cases hline
        | addItem productId quantity =>
          have hone := hpos user productId quantity (r'.map fun _ => Response.empty) (by simp)
          exact hlines.addToCart hbefore hone hbound hcart
    · exact hlines.mono (addedSince_le_snoc hpos fun heq => absurd heq huser)
        (update_kept_other hrun hpath huser).storedItems

theorem linesBounded_of_session
    (h : Session (Answers valkey) (Request.handle valkey) noCarts exchanges db)
    (hpos : AddsPositive exchanges) (hbound : AddsBounded exchanges) :
    LinesBounded (fun p => addedSince userId p exchanges) (storedItems db userId) := by
  induction h with
  | nil =>
    intro line hline
    cases hline
  | @snoc before db₁ db₂ request reply h served ih =>
    have hpos₁ : AddsPositive before := fun user added quantity reply hmem =>
      hpos user added quantity reply (List.mem_append_left _ hmem)
    have hbound₁ : AddsBounded before := fun l₁ l₂ hsplit =>
      hbound l₁ (l₂ ++ [(request, reply)]) (by rw [hsplit, List.append_assoc])
    exact linesBounded_of_served (ih hpos₁ hbound₁) hpos hbound served

/-- **Carts hold positive quantities** after any requests, failed ones included, when every
addition is of a positive quantity and what is added of a product between two `EmptyCart`s of a
user stays below 2³¹. Nothing in the service checks either. -/
theorem quantities_positive
    (h : Session (Answers valkey) (Request.handle valkey) noCarts exchanges db)
    (hpos : AddsPositive exchanges) (hbound : AddsBounded exchanges) (userId : String) :
    ∀ line ∈ storedItems db userId, 1 ≤ line.quantity.toInt := by
  intro line hline
  exact (linesBounded_of_session h hpos hbound line hline).1

end

/-- The exchanges of some requests to `CartService`, and the store after them. -/
def serviceSession (requests : List Request) :
    List (Request × Except RpcException Response) × Db :=
  converse (respond "v") (Request.handle "v") requests noCarts

theorem session_serviceSession (requests : List Request) :
    Session (Answers "v") (Request.handle "v") noCarts (serviceSession requests).1
      (serviceSession requests).2 :=
  session_converse (answers_respond "v") requests noCarts

/-- Bulbs are added, the cart is emptied, and bulbs are added again: in all they pass the bound. -/
def manyBulbs : List Request :=
  [.update "u1" (.addItem "bulb" 2000000000), .update "u1" .emptyCart,
    .update "u1" (.addItem "bulb" 2000000000), .update "u1" (.addItem "bulb" 1)]

theorem exchanges_manyBulbs : (serviceSession manyBulbs).1 =
    [(.update "u1" (.addItem "bulb" 2000000000), .ok .empty), (.update "u1" .emptyCart, .ok .empty),
      (.update "u1" (.addItem "bulb" 2000000000), .ok .empty),
      (.update "u1" (.addItem "bulb" 1), .ok .empty)] := rfl

theorem addsBounded_manyBulbs : AddsBounded (serviceSession manyBulbs).1 := by
  have hbulbs : (2000000000 : Int32).toInt = 2000000000 ∧ (1 : Int32).toInt = 1 := by decide
  refine .snoc (.snoc (.snoc (.snoc .nil ?_) ?_) ?_) ?_
  all_goals
    intro userId productId
    by_cases huser : "u1" = userId <;> by_cases hproduct : "bulb" = productId <;>
      simp [addedSince, huser, hproduct, hbulbs, Except.map]

theorem quantities_positive_bulb :
    storedItems (serviceSession manyBulbs).2 "u1" = [⟨"bulb", 2000000001⟩] ∧
      ∀ line ∈ storedItems (serviceSession manyBulbs).2 "u1", 1 ≤ line.quantity.toInt := by
  refine ⟨rfl, quantities_positive (session_serviceSession _) ?_ addsBounded_manyBulbs "u1"⟩
  rw [exchanges_manyBulbs]
  intro user added quantity reply hmem
  have hquantity : quantity = 2000000000 ∨ quantity = 1 := by
    simp at hmem
    tauto
  rcases hquantity with rfl | rfl <;> decide

/-- An addition of a negative quantity is stored as it is. -/
theorem negative_quantity_stored : ¬ ∀ exchanges db,
    Session (Answers "v") (Request.handle "v") noCarts exchanges db →
      ∀ userId, ∀ line ∈ storedItems db userId, 1 ≤ line.quantity.toInt := by
  intro h
  have hline : (⟨"bulb", -1⟩ : CartItem) ∈
      storedItems (serviceSession [.update "u1" (.addItem "bulb" (-1))]).2 "u1" :=
    List.mem_cons_self
  exact absurd (h _ _ (session_serviceSession _) _ _ hline) (by decide)

end AstronomyShop.CartService
