import AstronomyShop.Cart.Soundness

/-!
# Carts and the history of requests

What is stored for a user after any sequence of requests, in terms of the requests alone: the lines
are those of a quantity map, the sums of what was added since the last `EmptyCart` of the user
(`carts_refine_history`).
-/

namespace AstronomyShop.CartService

open Interaction

/-! ## The quantity map -/

/-- What is added for a user since the last `EmptyCart` of the user. -/
def additions (userId : String) (requests : List Request) : List CartItem :=
  requests.foldl (fun items request => match request with
    | .update user (.addItem productId quantity) =>
      if user = userId then items ++ [{ productId := productId, quantity := quantity }] else items
    | .update user .emptyCart => if user = userId then [] else items
    | .getCart _ => items) []

/-- The products of some additions, in the order in which they come first. -/
def products (items : List CartItem) : List String := (items.map CartItem.productId).eraseDups

/-- The lines for some additions: one line for each product, with the sum of its quantities as an
`int32`. -/
def linesOf (items : List CartItem) : List CartItem :=
  (products items).map fun productId =>
    { productId := productId, quantity := .ofInt (quantityOf productId items) }

theorem additions_snoc_getCart (userId user : String) (requests : List Request) :
    additions userId (requests ++ [.getCart user]) = additions userId requests := by
  simp [additions]

theorem additions_snoc_other {userId : String} {request : Request} (h : request.user ≠ userId)
    (requests : List Request) :
    additions userId (requests ++ [request]) = additions userId requests := by
  have hother : ∀ user u, request = .update user u → user ≠ userId := by
    rintro user u rfl
    exact h
  unfold additions
  rw [List.foldl_append, List.foldl_cons, List.foldl_nil]
  cases request with
  | getCart user => rfl
  | update user u =>
    cases u with
    | addItem productId quantity => exact if_neg (hother _ _ rfl)
    | emptyCart => exact if_neg (hother _ _ rfl)

theorem additions_snoc_addItem (userId productId : String) (quantity : Int32)
    (requests : List Request) :
    additions userId (requests ++ [.update userId (.addItem productId quantity)]) =
      additions userId requests ++ [{ productId := productId, quantity := quantity }] := by
  simp [additions]

theorem additions_snoc_emptyCart (userId : String) (requests : List Request) :
    additions userId (requests ++ [.update userId .emptyCart]) = [] := by
  simp [additions]

theorem eraseDups_snoc (l : List String) (a : String) :
    (l ++ [a]).eraseDups = if a ∈ l then l.eraseDups else l.eraseDups ++ [a] := by
  rw [List.eraseDups_append]
  split
  · rename_i h
    simp [List.removeAll, h]
  · rename_i h
    simp [List.removeAll, h, List.eraseDups_cons]

theorem products_snoc (items : List CartItem) (item : CartItem) :
    products (items ++ [item]) =
      if item.productId ∈ products items then products items
      else products items ++ [item.productId] := by
  unfold products
  rw [List.map_append, List.map_singleton, eraseDups_snoc]
  simp only [List.mem_eraseDups]

theorem nodup_products (items : List CartItem) : (products items).Nodup := by
  induction items using List.reverseRecOn with
  | nil => exact List.nodup_nil
  | append_singleton items item ih =>
    rw [products_snoc]
    split
    · exact ih
    · rename_i hnew
      rw [List.nodup_append]
      refine ⟨ih, List.nodup_singleton _, ?_⟩
      intro a ha b hb heq
      rw [List.mem_singleton] at hb
      rw [heq, hb] at ha
      exact hnew ha

theorem map_productId_linesOf (items : List CartItem) :
    (linesOf items).map CartItem.productId = products items := by
  unfold linesOf
  rw [List.map_map]
  exact List.map_id _

theorem uniqueLines_linesOf (items : List CartItem) : UniqueLines (linesOf items) := by
  unfold UniqueLines
  rw [map_productId_linesOf]
  exact nodup_products items

theorem quantityOf_snoc (items : List CartItem) (productId p : String) (quantity : Int32) :
    quantityOf p (items ++ [{ productId := productId, quantity := quantity }]) =
      quantityOf p items + if p = productId then quantity.toInt else 0 := by
  rw [quantityOf_append, quantityOf_singleton]

/-- The line of a product that is there gets the new quantity on top. -/
theorem linesOf_snoc_of_mem {items : List CartItem} {productId : String}
    (h : productId ∈ products items) (quantity : Int32) :
    linesOf (items ++ [{ productId := productId, quantity := quantity }]) =
      (linesOf items).map fun i =>
        if i.productId == productId then { i with quantity := i.quantity + quantity } else i := by
  unfold linesOf
  rw [products_snoc, if_pos h, List.map_map]
  apply List.map_congr_left
  intro p _
  rw [quantityOf_snoc, Function.comp_apply]
  by_cases hp : p = productId
  · simp [hp, Int32.ofInt_add]
  · simp [hp]

/-- A new product gets a line at the end. -/
theorem linesOf_snoc_of_not_mem {items : List CartItem} {productId : String}
    (h : productId ∉ products items) (quantity : Int32) :
    linesOf (items ++ [{ productId := productId, quantity := quantity }]) =
      linesOf items ++ [{ productId := productId, quantity := quantity }] := by
  have hzero : quantityOf productId items = 0 := by
    apply quantityOf_eq_zero
    intro item hitem heq
    apply h
    rw [products, List.mem_eraseDups, ← heq]
    exact List.mem_map_of_mem hitem
  unfold linesOf
  rw [products_snoc, if_neg h, List.map_append, List.map_singleton, quantityOf_snoc, if_pos rfl,
    hzero, Int.zero_add, Int32.ofInt_toInt]
  congr 1
  apply List.map_congr_left
  intro p hp
  have hne : p ≠ productId := fun heq => h (heq ▸ hp)
  rw [quantityOf_snoc, if_neg hne, Int.add_zero]

/-- An `AddItem` on the lines of some additions leaves the lines of one addition more. -/
theorem addToItems_linesOf (items : List CartItem) (productId : String) (quantity : Int32) :
    addToItems (linesOf items) productId quantity =
      .ok (linesOf (items ++ [{ productId := productId, quantity := quantity }])) := by
  have hfilter : ((linesOf items).filter fun i => i.productId == productId) =
      ((products items).filter (· == productId)).map fun p =>
        { productId := p, quantity := .ofInt (quantityOf p items) } := by
    unfold linesOf
    rw [List.filter_map]
    rfl
  unfold addToItems
  rw [hfilter]
  by_cases hmem : productId ∈ products items
  · have hone : (products items).filter (· == productId) = [productId] := by
      rw [List.filter_beq, List.count_eq_one_of_mem (nodup_products items) hmem]
      rfl
    rw [hone, linesOf_snoc_of_mem hmem]
    rfl
  · have hnone : (products items).filter (· == productId) = [] := by
      rw [List.filter_eq_nil_iff]
      intro p hp heq
      exact hmem (beq_iff_eq.mp heq ▸ hp)
    rw [hnone, linesOf_snoc_of_not_mem hmem]
    rfl

/-! ## A session from the empty store -/

section

variable {valkey userId : String} {db db' : Db} {request : Request}
  {r : Except RpcException Response}
  {exchanges : List (Request × Except RpcException Response)}

theorem Sound.storedCart_self (h : Sound db) : storedCart db "cart" = none := by
  unfold storedCart
  split
  · rename_i fields hhash
    exact absurd hhash (h.self fields)
  · rfl

/-- A request keeps the stored carts of all other users. -/
theorem storedCart_of_other (hdb : Sound db)
    (h : Served (Responds valkey) (request.perform valkey) db r db')
    (huser : request.user ≠ userId) :
    storedCart db' userId = storedCart db userId := by
  obtain ⟨t, hrun, hpath⟩ := served_iff.mp (h.mono answers_of_responds)
  have hkept : CartKept valkey userId db t db' := by
    cases request with
    | update user u =>
      obtain ⟨r', hrun', -⟩ := runs_update.mp hrun
      exact update_kept_other hrun' hpath huser
    | getCart user =>
      obtain ⟨r', hrun', -⟩ := runs_getCart.mp hrun
      exact getCart_kept hrun' hpath
  rcases hkept with hkept | ⟨rfl, -, hlost⟩
  · exact hkept
  · rw [hlost, hdb.storedCart_self]

/-- `GetCartAsync` returns the stored lines. -/
theorem served_getCart_lines (hdb : Sound db)
    (h : Served (Responds valkey) ((Request.getCart userId).perform valkey) db r db')
    (huser : userId ≠ "cart") :
    ∃ cart, r = .ok (.cart cart) ∧ cart.items = storedItems db userId ∧
      storedItems db' userId = storedItems db userId := by
  obtain ⟨-, response, rfl⟩ := served_request hdb h huser
  obtain ⟨t, hrun, hpath⟩ := served_iff.mp (h.mono answers_of_responds)
  obtain ⟨r', hrun', hr⟩ := runs_getCart.mp hrun
  cases r' with
  | error ex => cases hr
  | ok cart =>
    obtain ⟨rfl⟩ := hr
    obtain ⟨hitems, hkept⟩ := served_getCart_ok (served_iff.mpr ⟨t, hrun', hpath⟩)
    exact ⟨cart, rfl, hitems, hkept⟩

/-- One request takes the lines of a history to those of the longer one. -/
theorem storedItems_of_served (hdb : Sound db) {requests : List Request}
    (hitems : ∀ userId, storedItems db userId = linesOf (additions userId requests))
    (h : Served (Responds valkey) (request.perform valkey) db r db')
    (huser : request.user ≠ "cart") (userId : String) :
    storedItems db' userId = linesOf (additions userId (requests ++ [request])) := by
  by_cases hother : request.user = userId
  · subst hother
    cases request with
    | getCart user =>
      obtain ⟨cart, -, -, hkept⟩ := served_getCart_lines hdb h huser
      dsimp only [Request.user]
      rw [hkept, additions_snoc_getCart]
      exact hitems user
    | update user u =>
      obtain ⟨-, response, rfl⟩ := served_request hdb h huser
      dsimp only [Request.user]
      obtain ⟨t, hrun, hpath⟩ := served_iff.mp (h.mono answers_of_responds)
      obtain ⟨r', hrun', hr⟩ := runs_update.mp hrun
      cases r' with
      | error ex => cases hr
      | ok a =>
        have hserved : Served (Answers valkey) (u.perform valkey user) db (.ok ()) db' :=
          served_iff.mpr ⟨t, hrun', hpath⟩
        cases u with
        | addItem productId quantity =>
          have hadded := @served_addItem_ok _ _ _ _ _ ⟨productId, quantity⟩ hserved
          rw [hitems, addToItems_linesOf] at hadded
          rw [additions_snoc_addItem]
          exact (Except.ok.inj hadded).symm
        | emptyCart =>
          rw [additions_snoc_emptyCart, served_emptyCartAsync_ok hserved]
          rfl
  · rw [additions_snoc_other hother, ← hitems, storedItems_eq, storedItems_eq,
      storedCart_of_other hdb h hother]

theorem session_lines
    (h : Session (Responds valkey) (Request.perform valkey) noCarts exchanges db)
    (husers : ∀ exchange ∈ exchanges, exchange.1.user ≠ "cart") :
    Sound db ∧
      ∀ userId, storedItems db userId = linesOf (additions userId (exchanges.map Prod.fst)) := by
  induction h with
  | nil => exact ⟨sound_noCarts, fun userId => rfl⟩
  | @snoc before s₁ s₂ request reply h served ih =>
    rw [List.forall_mem_append] at husers
    obtain ⟨hbefore, hlast⟩ := husers
    obtain ⟨hdb, hitems⟩ := ih hbefore
    have huser : request.user ≠ "cart" := hlast (request, reply) List.mem_cons_self
    refine ⟨(served_request hdb served huser).1, fun userId => ?_⟩
    rw [List.map_append]
    exact storedItems_of_served hdb hitems served huser userId

/-- **The cart store refines a quantity map.** In any sequence of requests of users other than
`cart`, from the empty store and with all commands executed: every request succeeds; the stored
lines of each user are those of the user's additions since the last `EmptyCart`, no product on
two of them; `GetCartAsync` returns these lines; and a further request keeps the carts of all
other users. -/
theorem carts_refine_history
    (h : Session (Responds valkey) (Request.perform valkey) noCarts exchanges db)
    (husers : ∀ exchange ∈ exchanges, exchange.1.user ≠ "cart") :
    (∀ exchange ∈ exchanges, ∃ response, exchange.2 = .ok response) ∧
    (∀ userId, ((storedItems db userId).map CartItem.productId).Nodup ∧
      storedItems db userId = linesOf (additions userId (exchanges.map Prod.fst))) ∧
    (∀ before userId reply after, exchanges = before ++ (.getCart userId, reply) :: after →
      ∃ cart, reply = .ok (.cart cart) ∧
        cart.items = linesOf (additions userId (before.map Prod.fst))) ∧
    ∀ (request : Request) reply db',
      Served (Responds valkey) (request.perform valkey) db reply db' →
      ∀ userId, userId ≠ request.user → storedCart db' userId = storedCart db userId := by
  have hprefix : ∀ before (request : Request) reply after,
      exchanges = before ++ (request, reply) :: after →
      request.user ≠ "cart" ∧ ∃ db₁ db₂, Sound db₁ ∧
        (∀ userId, storedItems db₁ userId = linesOf (additions userId (before.map Prod.fst))) ∧
        Served (Responds valkey) (request.perform valkey) db₁ reply db₂ := by
    rintro before request reply after rfl
    rw [List.append_cons] at h
    obtain ⟨db₂, hfirst, -⟩ := h.split
    obtain ⟨db₁, hbefore, served⟩ := session_snoc.mp hfirst
    rw [List.forall_mem_append, List.forall_mem_cons] at husers
    obtain ⟨hdb₁, hitems⟩ := session_lines hbefore husers.1
    exact ⟨husers.2.1, db₁, db₂, hdb₁, hitems, served⟩
  obtain ⟨hdb, hitems⟩ := session_lines h husers
  refine ⟨?_, ?_, ?_, ?_⟩
  · intro exchange hmem
    obtain ⟨before, after, hsplit⟩ := List.append_of_mem hmem
    obtain ⟨huser, db₁, db₂, hdb₁, -, served⟩ := hprefix before exchange.1 exchange.2 after hsplit
    exact (served_request hdb₁ served huser).2
  · intro userId
    rw [hitems]
    exact ⟨uniqueLines_linesOf _, rfl⟩
  · intro before userId reply after hsplit
    obtain ⟨huser, db₁, db₂, hdb₁, hitems₁, served⟩ := hprefix before _ reply after hsplit
    obtain ⟨cart, hcart, hlines, -⟩ := served_getCart_lines hdb₁ served huser
    exact ⟨cart, hcart, hlines.trans (hitems₁ userId)⟩
  · intro request reply db' served userId hother
    exact storedCart_of_other hdb served hother.symm

end

/-- Two users, with a cart that is filled, read, emptied and filled again. -/
def sampleRequests : List Request :=
  [.update "u1" (.addItem "bulb" 2), .update "u2" (.addItem "bulb" 1),
    .update "u1" (.addItem "lens" 1), .getCart "u1", .update "u1" .emptyCart,
    .update "u1" (.addItem "lens" 3), .update "u1" (.addItem "lens" 1)]

def sampleSession : List (Request × Except RpcException Response) × Db :=
  converse (respondFrom false "v") (Request.perform "v") sampleRequests noCarts

theorem carts_refine_history_sample :
    storedItems sampleSession.2 "u1" = linesOf (additions "u1" (sampleSession.1.map Prod.fst)) := by
  have husers : ∀ exchange ∈ sampleSession.1, exchange.1.user ≠ "cart" := by decide +kernel
  have hsession : Session (Responds "v") (Request.perform "v") noCarts sampleSession.1
      sampleSession.2 := session_converse (responds_respondFrom false) sampleRequests noCarts
  exact ((carts_refine_history hsession husers).2.1 "u1").2

example : storedItems sampleSession.2 "u1" = [⟨"lens", 4⟩] := by decide +kernel

end AstronomyShop.CartService
