import AstronomyShop.Cart.Runs

/-!
# What the operations of the cart store do

For every way in which the commands of an operation may be answered: a successful operation
reads or changes the stored lines of its user as its name says, and one that fails keeps the
stored lines or loses them. They get lost when `EmptyCart` fails after its write, and for the
user `cart` when a connection is opened, which writes a test value at that key.

* `failed_update`: an update that fails keeps the stored cart, or has written it and fails at the
  expiry after it.
-/

namespace AstronomyShop.CartService

open Interaction

/-! ## The operations -/

section

variable {valkey address userId : String} {db db' : Db}

theorem storedItems_eq (db : Db) (userId : String) :
    storedItems db userId = ((storedCart db userId).map Cart.items).getD [] := by
  unfold storedItems storedCart
  cases db userId with
  | none => rfl
  | some entry => cases entry <;> rfl

/-- Stored lines that are kept, or lost with the cart. -/
theorem CartKept.storedItems {t : List StoreEvent} (h : CartKept address userId db t db') :
    storedItems db' userId = storedItems db userId ∨ storedItems db' userId = [] := by
  rw [storedItems_eq, storedItems_eq]
  rcases h with hkept | ⟨-, -, hlost⟩
  · rw [hkept]
    exact .inl rfl
  · rw [hlost]
    exact .inr rfl

/-- `GetCart` returns the stored lines and keeps them. -/
theorem served_getCart_ok {cart : Cart}
    (h : Served (Answers valkey) (getCart address userId) db (.ok cart) db') :
    cart.items = storedItems db userId ∧ storedItems db' userId = storedItems db userId := by
  obtain ⟨t, hrun, hpath⟩ := served_iff.mp h
  obtain ⟨rfl, hkept⟩ := getCart_ok hrun hpath
  rw [storedItems_eq, storedItems_eq, hkept]
  cases storedCart db userId with
  | none => exact ⟨rfl, rfl⟩
  | some cart => exact ⟨rfl, rfl⟩

/-- Whatever happens to a `GetCart`, the stored lines of every user are kept or lost. -/
theorem served_getCart {r : Except RpcException Cart} {other : String}
    (h : Served (Answers valkey) (getCart address other) db r db') :
    storedItems db' userId = storedItems db userId ∨ storedItems db' userId = [] := by
  obtain ⟨t, hrun, hpath⟩ := served_iff.mp h
  exact (getCart_kept hrun hpath).storedItems

/-- The lines of the cart that an addition writes. -/
theorem addToCart_items {stored : Option Cart} {cart : Cart} {productId : String}
    {quantity : Int32} (h : addToCart userId stored productId quantity = .ok cart) :
    addToItems ((stored.map Cart.items).getD []) productId quantity = .ok cart.items := by
  cases stored with
  | none =>
    cases h
    rfl
  | some old =>
    unfold addToCart at h
    dsimp only at h
    split at h
    · rename_i items hitems
      cases h
      exact hitems
    · cases h

/-- A successful update stores the cart that it writes. -/
theorem served_update_ok {u : Update}
    (h : Served (Answers valkey) (u.perform address userId) db (.ok ()) db') :
    ∃ cart, u.apply userId (storedCart db userId) = .ok cart ∧
      storedCart db' userId = some cart := by
  obtain ⟨t, hrun, hpath⟩ := served_iff.mp h
  cases update_outcome hrun hpath with
  | unwritten ex herror => cases herror
  | written cart hcart hstored => exact ⟨cart, hcart, hstored⟩

/-- A successful `AddItem` adds to the stored lines. -/
theorem served_addItem_ok {item : CartItem}
    (h : Served (Answers valkey) (addItem address userId item) db (.ok ()) db') :
    addToItems (storedItems db userId) item.productId item.quantity =
      .ok (storedItems db' userId) := by
  obtain ⟨cart, hcart, hstored⟩ :=
    @served_update_ok _ _ _ _ _ (.addItem item.productId item.quantity) h
  rw [storedItems_eq, storedItems_eq, hstored]
  exact addToCart_items hcart

/-- A successful `EmptyCart` leaves no line. -/
theorem served_emptyCartAsync_ok
    (h : Served (Answers valkey) (emptyCartAsync address userId) db (.ok ()) db') :
    storedItems db' userId = [] := by
  obtain ⟨cart, hcart, hstored⟩ := @served_update_ok _ _ _ _ _ .emptyCart h
  cases hcart
  rw [storedItems_eq, hstored]
  rfl

theorem served_emptyCartAsync {r : Except RpcException Unit} {other : String}
    (h : Served (Answers valkey) (emptyCartAsync address other) db r db') :
    storedItems db' userId = storedItems db userId ∨ storedItems db' userId = [] := by
  obtain ⟨t, hrun, hpath⟩ := served_iff.mp h
  have hrun' : Runs (Update.emptyCart.perform address other) t r := hrun
  by_cases hother : other = userId
  · subst hother
    cases update_outcome hrun' hpath with
    | unwritten ex herror hkept => exact hkept.storedItems
    | written cart hcart hstored hreply =>
      cases hcart
      rw [storedItems_eq, hstored]
      exact .inr rfl
  · exact (update_kept_other hrun' hpath hother).storedItems

theorem served_emptyCart_ok
    (h : Served (Answers valkey) (emptyCart address userId) db (.ok ()) db') :
    storedItems db' userId = [] := by
  obtain ⟨flag, db₁, -, h₁⟩ := served_call.mp h
  cases flag with
  | true => exact served_emptyCartAsync_ok h₁
  | false => exact served_emptyCartAsync_ok h₁

/-- Whatever happens to an `EmptyCart`, the stored lines of every user are kept or lost. -/
theorem served_emptyCart {r : Except RpcException Unit} {other : String}
    (h : Served (Answers valkey) (emptyCart address other) db r db') :
    storedItems db' userId = storedItems db userId ∨ storedItems db' userId = [] := by
  obtain ⟨flag, db₁, hflag, h₁⟩ := served_call.mp h
  obtain rfl : db₁ = db := hflag
  cases flag with
  | true => exact served_emptyCartAsync h₁
  | false => exact served_emptyCartAsync h₁

end

/-! ## Quantities -/

theorem quantityOf_append (productId : String) (items items' : List CartItem) :
    quantityOf productId (items ++ items') =
      quantityOf productId items + quantityOf productId items' := by
  unfold quantityOf
  rw [List.filter_append, List.map_append, List.sum_append]

theorem quantityOf_eq_zero {productId : String} {items : List CartItem}
    (h : ∀ item ∈ items, item.productId ≠ productId) : quantityOf productId items = 0 := by
  have hnone : (items.filter fun i => i.productId == productId) = [] := by
    rw [List.filter_eq_nil_iff]
    intro item hitem heq
    exact h item hitem (beq_iff_eq.mp heq)
  unfold quantityOf
  rw [hnone]
  rfl

theorem quantityOf_singleton (productId : String) (item : CartItem) :
    quantityOf productId [item] =
      if productId = item.productId then item.quantity.toInt else 0 := by
  unfold quantityOf
  split
  · rename_i heq
    simp [heq]
  · rename_i hne
    simp [Ne.symm hne]

/-- A change of quantities keeps the products of the lines. -/
theorem filter_map_quantity {items : List CartItem} {f : CartItem → CartItem}
    (hf : ∀ i, (f i).productId = i.productId) (productId : String) :
    (items.map f).filter (fun i => i.productId == productId) =
      (items.filter fun i => i.productId == productId).map f := by
  rw [List.filter_map]
  congr 1
  refine List.filter_congr fun i _ => ?_
  rw [Function.comp_apply, hf]

/-- Adding a product changes its own quantity only, which wraps around like an `int32`. -/
theorem quantityOf_addToItems {items items' : List CartItem} {added productId : String}
    {quantity : Int32} (h : addToItems items added quantity = .ok items') :
    quantityOf productId items' =
      if productId = added then (quantityOf productId items + quantity.toInt).bmod (2 ^ 32)
      else quantityOf productId items := by
  unfold addToItems at h
  split at h
  · rename_i hnone
    cases h
    rw [quantityOf_append, quantityOf_singleton]
    split
    · rename_i heq
      have h0 : quantityOf productId items = 0 := by
        unfold quantityOf
        rw [heq, hnone]
        rfl
      rw [h0, Int.zero_add]
      exact (Int32.toInt_bmod quantity).symm
    · exact Int.add_zero _
  · rename_i line hone
    cases h
    have hline : line.productId = added := by
      have hmem : line ∈ items.filter fun i => i.productId == added := by simp [hone]
      simpa using (List.mem_filter.mp hmem).2
    have hkeys : ∀ i : CartItem,
        (if i.productId == added then { i with quantity := i.quantity + quantity }
          else i).productId = i.productId := by
      intro i
      split <;> rfl
    unfold quantityOf
    rw [filter_map_quantity hkeys, List.map_map]
    split
    · rename_i heq
      rw [heq, hone]
      simp [hline, Int32.toInt_add]
    · rename_i hne
      congr 1
      refine List.map_congr_left fun i hi => ?_
      have hi' : i.productId = productId := by simpa using (List.mem_filter.mp hi).2
      simp [hi', hne]
  · cases h

/-! ## Failed updates -/

/-- **What a failed write leaves**, for every stored state and every choice of commands that
fail: the stored cart as it was, unless the one that failed is the expiry at the end; the cart is
then stored as by an update that succeeds. Opening a connection costs the user `cart` what is
stored. -/
theorem failed_update {u : Update} {valkey address userId : String} {db db' : Db}
    {t : List StoreEvent} {ex : RpcException}
    (h : Runs (u.perform address userId) t (.error ex)) (hpath : Path (Answers valkey) db t db')
    (huser : userId ≠ "cart" ∨ ⟨.isConnectionOpened address, true⟩ ∈ t) :
    (¬ ExpiryFailed address userId t → storedCart db' userId = storedCart db userId) ∧
      (ExpiryFailed address userId t → ∃ cart,
        u.apply userId (storedCart db userId) = .ok cart ∧ storedCart db' userId = some cart) := by
  cases update_outcome h hpath with
  | unwritten ex' herror hkept hexpiry =>
    refine ⟨fun _ => ?_, fun hfailed => absurd hfailed hexpiry⟩
    rcases hkept with hkept | ⟨hcart, hopened, -⟩
    · exact hkept
    · rcases huser with huser | huser
      · exact absurd hcart huser
      · exact absurd huser hopened
  | written cart hcart hstored hreply =>
    refine ⟨fun hexpiry => ?_, fun _ => ⟨cart, hcart, hstored⟩⟩
    rcases hreply with hreply | hfailed
    · cases hreply
    · exact absurd hfailed hexpiry

/-- An addition of a bulb to no cart, whose last command fails. -/
def bulbUnexpired : List StoreEvent :=
  [⟨.isConnectionOpened "v", true⟩, ⟨.command "v" (.hashGet "u1" "cart"), .ok none⟩,
    ⟨.command "v" (.hashSet "u1" "cart" ⟨"u1", [⟨"bulb", 1⟩]⟩), .ok ()⟩,
    ⟨.command "v" (.keyExpire "u1"), .error "timeout"⟩]

theorem runs_bulbUnexpired :
    Runs ((Update.addItem "bulb" 1).perform "v" "u1") bulbUnexpired (caught (.error "timeout")) :=
  .cons _ (.cons _ (.cons _ (.cons _ (.nil _))))

theorem path_bulbUnexpired : ∃ db, Path (Answers "v") noCarts bulbUnexpired db ∧
    storedCart db "u1" = some ⟨"u1", [⟨"bulb", 1⟩]⟩ :=
  ⟨_, .cons ⟨rfl, fun _ => rfl⟩ (.cons (.inl ⟨rfl, rfl⟩) (.cons (.inl ⟨rfl, rfl⟩)
    (.cons (.inr ⟨rfl, _, rfl⟩) (.nil _)))), rfl⟩

theorem failed_update_bulb : ∃ db, Path (Answers "v") noCarts bulbUnexpired db ∧
    ∃ cart, (Update.addItem "bulb" 1).apply "u1" none = .ok cart ∧
      storedCart db "u1" = some cart := by
  obtain ⟨db, hpath, -⟩ := path_bulbUnexpired
  exact ⟨db, hpath, (failed_update runs_bulbUnexpired hpath (.inl (by decide))).2 ⟨_, rfl⟩⟩

/-- An addition fails with its expiry, and the client who is told so has a bulb in the cart. -/
theorem failed_addition_stored : ¬ ∀ (u : Update) (userId : String) (db db' : Db)
    (t : List StoreEvent) (ex : RpcException), Runs (u.perform "v" userId) t (.error ex) →
    Path (Answers "v") db t db' → storedCart db' userId = storedCart db userId := by
  intro h
  obtain ⟨db, hpath, hstored⟩ := path_bulbUnexpired
  have hkept := h _ _ _ _ _ _ runs_bulbUnexpired hpath
  rw [hstored] at hkept
  cases hkept

end AstronomyShop.CartService
