import AstronomyShop.Cart.Operations
import AstronomyShop.Library.Contract
import Mathlib.Data.List.Nodup

/-!
# Operations that do not fail

While every command is executed (`Responds`), the operations of users other than `cart` succeed.
The store is then `Sound`: it has a cart or nothing at the key of such a user, and no cart lists a
product twice. This is the invariant of a contract (`cartContract`): the operations write sound
carts as long as they read sound ones.
-/

namespace AstronomyShop.CartService

open Interaction

variable {address valkey userId productId : String} {quantity : Int32} {db db' : Db}
  {t : List StoreEvent}

/-! ## Answers without failures -/

/-- How calls are answered when Valkey is at the given address and every command sent there is
executed. A connection may have to be opened at any time. -/
def Responds (valkey : String) (db : Db) : (o : StoreCall) → StoreReply o → Db → Prop
  | .booleanFlag _, _, db' => db' = db
  | .isConnectionOpened address, opened, db' => db' = db ∧ (opened = true → address = valkey)
  | .connect address, reply, db' => db' = db ∧ (reply = .ok () ↔ address = valkey)
  | .command address c, reply, db' =>
    if address = valkey then (reply, db') = c.respond db else db' = db ∧ ∃ err, reply = .error err

theorem answers_of_responds (db : Db) (o : StoreCall) (r : StoreReply o) (db' : Db)
    (h : Responds valkey db o r db') : Answers valkey db o r db' := by
  cases o with
  | booleanFlag name => exact h
  | isConnectionOpened address => exact h
  | connect address => exact ⟨h.1, h.2.mp⟩
  | command address c =>
    by_cases haddress : address = valkey
    · exact .inl ⟨haddress, (if_pos haddress).mp h⟩
    · exact .inr ((if_neg haddress).mp h)

/-- One way to respond, with connections that are open or have to be opened each time. -/
def respondFrom (opened : Bool) (valkey : String) : (o : StoreCall) → Db → StoreReply o × Db
  | .booleanFlag _, db => (false, db)
  | .isConnectionOpened address, db => (opened && address == valkey, db)
  | .connect address, db =>
    (if address = valkey then .ok () else .error "Wasn't able to connect to redis", db)
  | .command address c, db =>
    if address = valkey then c.respond db else (.error "No connection is active", db)

theorem responds_respondFrom (opened : Bool) (o : StoreCall) (db : Db) :
    Responds valkey db o (respondFrom opened valkey o db).1 (respondFrom opened valkey o db).2 := by
  cases o with
  | booleanFlag name => rfl
  | isConnectionOpened address =>
    refine ⟨rfl, fun hopened => ?_⟩
    rw [respondFrom, Bool.and_eq_true, beq_iff_eq] at hopened
    exact hopened.2
  | connect address =>
    refine ⟨rfl, ?_⟩
    by_cases haddress : address = valkey <;> simp [respondFrom, haddress]
  | command address c =>
    by_cases haddress : address = valkey <;> simp [Responds, respondFrom, haddress]

instance (o : StoreCall) : Nonempty (StoreReply o) := by
  cases o with
  | booleanFlag name => exact ⟨false⟩
  | isConnectionOpened address => exact ⟨false⟩
  | connect address => exact ⟨.ok ()⟩
  | command address c => exact ⟨.error wrongType⟩

/-! ## Sound stores -/

/-- No product is on two lines. -/
def UniqueLines (items : List CartItem) : Prop := (items.map CartItem.productId).Nodup

/-- What is stored at the key of a user other than `cart` is a cart without double lines; at the
key `cart` there is none. -/
structure Sound (db : Db) : Prop where
  user : ∀ userId, userId ≠ "cart" → ∀ s, db userId ≠ some (.string s)
  self : ∀ fields, db "cart" ≠ some (.hash fields)
  lines : ∀ userId, UniqueLines (storedItems db userId)

theorem sound_noCarts : Sound noCarts where
  user := by rintro userId - s ⟨⟩
  self := by rintro fields ⟨⟩
  lines userId := List.nodup_nil

/-- With one line at most for each product, an addition finds what it looks for. -/
theorem exists_addToItems {items : List CartItem} (h : UniqueLines items) (productId : String)
    (quantity : Int32) :
    ∃ items', addToItems items productId quantity = .ok items' ∧ UniqueLines items' := by
  unfold addToItems
  have hlen : (items.filter fun i => i.productId == productId).length ≤ 1 := by
    have hcount : (items.filter fun i => i.productId == productId).length =
        (items.map CartItem.productId).count productId := by
      rw [List.count, List.countP_map, List.countP_eq_length_filter]
      rfl
    rw [hcount]
    exact List.nodup_iff_count_le_one.mp h productId
  split
  · rename_i hnone
    refine ⟨_, rfl, ?_⟩
    unfold UniqueLines
    rw [List.map_append, List.nodup_append]
    refine ⟨h, List.nodup_singleton _, ?_⟩
    intro a ha b hb heq
    obtain ⟨line, hline, rfl⟩ := List.mem_map.mp ha
    have hb' : b = productId := by simpa using hb
    exact List.filter_eq_nil_iff.mp hnone line hline (by simp [heq, hb'])
  · refine ⟨_, rfl, ?_⟩
    unfold UniqueLines
    rw [List.map_map, List.map_congr_left (g := CartItem.productId)]
    · exact h
    · intro line _
      rw [Function.comp_apply]
      split <;> rfl
  · rename_i hsecond
    match hfilter : items.filter fun i => i.productId == productId with
    | [] => exact absurd hfilter (by assumption)
    | [line] => exact absurd hfilter (hsecond line)
    | line :: line' :: rest => simp [hfilter] at hlen

theorem addToCart_of_uniqueLines {value : Option Cart}
    (h : ∀ cart, value = some cart → UniqueLines cart.items) :
    ∃ cart, addToCart userId value productId quantity = .ok cart ∧ UniqueLines cart.items := by
  cases value with
  | none => exact ⟨_, rfl, List.nodup_singleton _⟩
  | some cart =>
    obtain ⟨items, hitems, hunique⟩ := exists_addToItems (h cart rfl) productId quantity
    refine ⟨{ cart with items := items }, ?_, hunique⟩
    simp only [addToCart, hitems]

/-! ## The contract -/

/-- Commands of the operations of users other than `cart`, with sound carts. -/
def Command.Routine : Command → Prop
  | .stringSet key _ => key = "cart"
  | .stringGet key => key = "cart"
  | .hashGet key field => key ≠ "cart" ∧ field = cartFieldName
  | .hashSet key field cart => key ≠ "cart" ∧ field = cartFieldName ∧ UniqueLines cart.items
  | .keyExpire _ => True

/-- Replies that an operation goes on with. -/
def Command.FineReply : (c : Command) → Except String c.Result → Prop
  | .hashGet _ _, reply =>
    ∃ value, reply = .ok value ∧ ∀ cart, value = some cart → UniqueLines cart.items
  | _, reply => ∃ a, reply = .ok a

/-- Replacing the entry of a user by a sound cart. -/
theorem Sound.update (h : Sound db) {fields : String → Option Cart} (huser : userId ≠ "cart")
    (hlines : ∀ cart, fields cartFieldName = some cart → UniqueLines cart.items) :
    Sound (Function.update db userId (some (.hash fields))) where
  user other hother s := by
    by_cases heq : other = userId
    · subst heq
      rw [Function.update_self]
      rintro ⟨⟩
    · rw [Function.update_of_ne heq]
      exact h.user other hother s
  self fields' := by
    rw [Function.update_of_ne huser.symm]
    exact h.self fields'
  lines other := by
    by_cases heq : other = userId
    · subst heq
      unfold storedItems
      rw [Function.update_self]
      dsimp only
      cases hcart : fields cartFieldName with
      | none => exact List.nodup_nil
      | some cart => exact hlines cart hcart
    · have hsame : storedItems (Function.update db userId (some (.hash fields))) other =
          storedItems db other := by
        unfold storedItems
        rw [Function.update_of_ne heq]
      rw [hsame]
      exact h.lines other

/-- So is a test value at the key `cart`. -/
theorem Sound.update_cart (h : Sound db) (value : String) :
    Sound (Function.update db "cart" (some (.string value))) where
  user other hother s := by
    rw [Function.update_of_ne hother]
    exact h.user other hother s
  self fields := by
    rw [Function.update_self]
    rintro ⟨⟩
  lines other := by
    unfold storedItems
    by_cases heq : other = "cart"
    · rw [heq, Function.update_self]
      exact List.nodup_nil
    · rw [Function.update_of_ne heq]
      exact h.lines other

/-- The key `cart` is never a hash. -/
theorem Sound.stringGet (h : Sound db) : ∃ a, db.stringGet "cart" = .ok a := by
  unfold Db.stringGet
  split
  · exact ⟨_, rfl⟩
  · exact ⟨_, rfl⟩
  · rename_i fields hhash
    exact absurd hhash (h.self fields)

/-- What a user has stored is a sound cart. -/
theorem Sound.hashGet (h : Sound db) (huser : userId ≠ "cart") :
    ∃ value, db.hashGet userId cartFieldName = .ok value ∧
      ∀ cart, value = some cart → UniqueLines cart.items := by
  unfold Db.hashGet
  split
  · exact ⟨none, rfl, by rintro cart ⟨⟩⟩
  · rename_i s hstring
    exact absurd hstring (h.user userId huser s)
  · rename_i fields hhash
    refine ⟨_, rfl, fun cart hcart => ?_⟩
    have hlines := h.lines userId
    unfold storedItems at hlines
    rw [hhash] at hlines
    dsimp only at hlines
    rwa [hcart] at hlines

/-- Storing a sound cart of a user succeeds. -/
theorem Sound.hashSet (h : Sound db) (huser : userId ≠ "cart") {cart : Cart}
    (hlines : UniqueLines cart.items) :
    Sound (db.hashSet userId cartFieldName cart).2 ∧
      ∃ a, (db.hashSet userId cartFieldName cart).1 = .ok a := by
  have hwritten : ∀ fields : String → Option Cart, ∀ cart',
      Function.update fields cartFieldName (some cart) cartFieldName = some cart' →
        UniqueLines cart'.items := by
    intro fields cart' hcart'
    rw [Function.update_self] at hcart'
    cases hcart'
    exact hlines
  unfold Db.hashSet
  split
  · exact ⟨h.update huser (hwritten _), (), rfl⟩
  · rename_i s hstring
    exact absurd hstring (h.user userId huser s)
  · exact ⟨h.update huser (hwritten _), (), rfl⟩

theorem Sound.respond (h : Sound db) {c : Command} (hc : c.Routine) :
    Sound (c.respond db).2 ∧ c.FineReply (c.respond db).1 := by
  cases c with
  | stringSet key value =>
    obtain rfl : key = "cart" := hc
    exact ⟨h.update_cart value, (), rfl⟩
  | stringGet key =>
    obtain rfl : key = "cart" := hc
    exact ⟨h, h.stringGet⟩
  | hashGet key field =>
    obtain ⟨huser, rfl⟩ : key ≠ "cart" ∧ field = cartFieldName := hc
    exact ⟨h, h.hashGet huser⟩
  | hashSet key field cart =>
    obtain ⟨huser, rfl, hlines⟩ :
      key ≠ "cart" ∧ field = cartFieldName ∧ UniqueLines cart.items := hc
    exact h.hashSet huser hlines
  | keyExpire key => exact ⟨h, (), rfl⟩

def StoreCall.Routine (valkey : String) : StoreCall → Prop
  | .booleanFlag _ => True
  | .isConnectionOpened _ => True
  | .connect address => address = valkey
  | .command address c => address = valkey ∧ c.Routine

def FineEvent : StoreEvent → Prop
  | ⟨.connect _, reply⟩ => reply = .ok ()
  | ⟨.command _ c, reply⟩ => c.FineReply reply
  | _ => True

/-- Sound stores answer routine calls without errors and stay sound. -/
def cartContract (valkey : String) : Contract (Responds valkey) where
  Inv := Sound
  Routine := StoreCall.Routine valkey
  Fine := FineEvent
  step {db db' e} hs hroutine h := by
    obtain ⟨o, reply⟩ := e
    cases o with
    | booleanFlag name =>
      obtain rfl : db' = db := h
      exact ⟨hs, trivial⟩
    | isConnectionOpened address =>
      obtain ⟨rfl, -⟩ := h
      exact ⟨hs, trivial⟩
    | connect address =>
      obtain ⟨rfl, hreply⟩ := h
      exact ⟨hs, hreply.mpr hroutine⟩
    | command address c =>
      obtain ⟨haddress, hc⟩ := hroutine
      obtain ⟨rfl, rfl⟩ := Prod.mk.inj ((if_pos haddress).mp h)
      exact hs.respond hc

/-! ## The operations keep the contract -/

/-- A run that keeps the contract and succeeds if all its replies are fine. -/
def Succeeds {ε α : Type} (valkey : String) (t : List StoreEvent) (r : Except ε α) : Prop :=
  (cartContract valkey).Keeps t ∧ ((∀ e ∈ t, FineEvent e) → ∃ a, r = .ok a)

theorem ConnectRun.succeeds {r : Except String Unit} (h : ConnectRun valkey t r) :
    Succeeds valkey t r := by
  cases h with
  | opened => exact ⟨by simp [cartContract, StoreCall.Routine], fun _ => ⟨(), rfl⟩⟩
  | unreachable err =>
    exact ⟨by simp [cartContract, StoreCall.Routine], fun hfine => by simp [FineEvent] at hfine⟩
  | unset err =>
    refine ⟨by simp [cartContract, StoreCall.Routine, Command.Routine], fun hfine => ?_⟩
    simp [FineEvent, Command.FineReply] at hfine
  | unread err =>
    refine ⟨by simp [cartContract, StoreCall.Routine, Command.Routine], fun hfine => ?_⟩
    simp [FineEvent, Command.FineReply] at hfine
  | connected value =>
    exact ⟨by simp [cartContract, StoreCall.Routine, Command.Routine], fun _ => ⟨(), rfl⟩⟩

theorem WriteRun.succeeds {cart : Cart} {r : Except String Unit}
    (h : WriteRun valkey userId cart t r) (huser : userId ≠ "cart")
    (hcart : UniqueLines cart.items) : Succeeds valkey t r := by
  cases h with
  | unwritten err =>
    refine ⟨by simp [cartContract, StoreCall.Routine, Command.Routine, huser, hcart], ?_⟩
    intro hfine
    simp [FineEvent, Command.FineReply] at hfine
  | unexpired err =>
    refine ⟨by simp [cartContract, StoreCall.Routine, Command.Routine, huser, hcart], ?_⟩
    intro hfine
    simp [FineEvent, Command.FineReply] at hfine
  | written =>
    exact ⟨by simp [cartContract, StoreCall.Routine, Command.Routine, huser, hcart],
      fun _ => ⟨(), rfl⟩⟩

theorem Succeeds.append {ε ε' α β : Type} {t₁ t₂ : List StoreEvent} {r : Except ε α}
    {r' : Except ε' β} (h₁ : Succeeds valkey t₁ r)
    (h₂ : (∀ e ∈ t₁, FineEvent e) → Succeeds valkey t₂ r') : Succeeds valkey (t₁ ++ t₂) r' := by
  refine ⟨Contract.keeps_append.mpr ⟨h₁.1, fun hfine => (h₂ hfine).1⟩, fun hfine => ?_⟩
  rw [List.forall_mem_append] at hfine
  exact (h₂ hfine.1).2 hfine.2

/-- An error does not happen, whatever is made of it. -/
theorem Succeeds.of_error {ε ε' α β : Type} {err : ε} {r : Except ε' β}
    (h : Succeeds valkey t (.error err : Except ε α)) : Succeeds valkey t r := by
  refine ⟨h.1, fun hfine => ?_⟩
  obtain ⟨a, ha⟩ := h.2 hfine
  cases ha

theorem Succeeds.caught {α : Type} {r : Except String α} (h : Succeeds valkey t r) :
    Succeeds valkey t (caught r) := by
  refine ⟨h.1, fun hfine => ?_⟩
  obtain ⟨a, rfl⟩ := h.2 hfine
  exact ⟨a, rfl⟩

theorem succeeds_hashGet_error {ε α : Type} {err : String} {r : Except ε α}
    (huser : userId ≠ "cart") :
    Succeeds valkey [⟨.command valkey (.hashGet userId cartFieldName), .error err⟩] r := by
  refine ⟨by simp [cartContract, StoreCall.Routine, Command.Routine, huser], fun hfine => ?_⟩
  simp [FineEvent, Command.FineReply] at hfine

theorem succeeds_hashGet {ε α : Type} {value : Option Cart} {r : Except ε α}
    (huser : userId ≠ "cart")
    (hrest : (∀ cart, value = some cart → UniqueLines cart.items) → Succeeds valkey t r) :
    Succeeds valkey (⟨.command valkey (.hashGet userId cartFieldName), .ok value⟩ :: t) r := by
  have hlines : FineEvent ⟨.command valkey (.hashGet userId cartFieldName), .ok value⟩ →
      ∀ cart, value = some cart → UniqueLines cart.items := by
    rintro ⟨value', heq, hlines⟩
    cases heq
    exact hlines
  refine ⟨⟨⟨rfl, huser, rfl⟩, fun hfine => (hrest (hlines hfine)).1⟩, fun hfine => ?_⟩
  rw [List.forall_mem_cons] at hfine
  exact (hrest (hlines hfine.1)).2 hfine.2

theorem update_succeeds {u : Update} {r : Except RpcException Unit}
    (h : Runs (u.perform valkey userId) t r) (huser : userId ≠ "cart") : Succeeds valkey t r := by
  cases u with
  | addItem productId quantity =>
    cases addItemAsync_run h with
    | unconnected connect => exact connect.succeeds.of_error
    | unread connect err => exact connect.succeeds.append fun _ => succeeds_hashGet_error huser
    | unmatched connect hcart =>
      refine connect.succeeds.append fun _ => succeeds_hashGet huser fun hlines => ?_
      obtain ⟨cart, hcart', -⟩ := addToCart_of_uniqueLines hlines
      rw [hcart'] at hcart
      cases hcart
    | write connect hcart write =>
      refine connect.succeeds.append fun _ => succeeds_hashGet huser fun hlines => ?_
      obtain ⟨cart, hcart', hunique⟩ := addToCart_of_uniqueLines hlines
      rw [hcart'] at hcart
      cases hcart
      exact (write.succeeds huser hunique).caught
  | emptyCart =>
    cases emptyCartAsync_run h with
    | unconnected connect => exact connect.succeeds.of_error
    | write connect write =>
      exact connect.succeeds.append fun _ => (write.succeeds huser List.nodup_nil).caught

theorem getCart_succeeds {r : Except RpcException Cart}
    (h : Runs (getCartAsync valkey userId) t r) (huser : userId ≠ "cart") :
    Succeeds valkey t r := by
  cases getCartAsync_run h with
  | unconnected connect => exact connect.succeeds.of_error
  | unread connect err => exact connect.succeeds.append fun _ => succeeds_hashGet_error huser
  | read connect value =>
    refine connect.succeeds.append fun _ => succeeds_hashGet huser fun _ => ?_
    exact ⟨trivial, fun _ => ⟨_, rfl⟩⟩

/-- An operation of a user other than `cart` makes routine calls and succeeds, as long as the
replies are fine. -/
theorem request_succeeds {request : Request} {r : Except RpcException Response}
    (h : Runs (request.perform valkey) t r) (huser : request.user ≠ "cart") :
    Succeeds valkey t r := by
  cases request with
  | update userId u =>
    obtain ⟨r', hrun, rfl⟩ := runs_update.mp h
    obtain ⟨hkeeps, hok⟩ := update_succeeds hrun huser
    refine ⟨hkeeps, fun hfine => ?_⟩
    obtain ⟨a, rfl⟩ := hok hfine
    exact ⟨_, rfl⟩
  | getCart userId =>
    obtain ⟨r', hrun, rfl⟩ := runs_getCart.mp h
    obtain ⟨hkeeps, hok⟩ := getCart_succeeds hrun huser
    refine ⟨hkeeps, fun hfine => ?_⟩
    obtain ⟨a, rfl⟩ := hok hfine
    exact ⟨_, rfl⟩

/-- A request of such a user on a sound store is answered, and the store stays sound. -/
theorem served_request {request : Request} {r : Except RpcException Response} (hdb : Sound db)
    (h : Served (Responds valkey) (request.perform valkey) db r db')
    (huser : request.user ≠ "cart") : Sound db' ∧ ∃ response, r = .ok response := by
  obtain ⟨t, hrun, hpath⟩ := served_iff.mp h
  obtain ⟨hkeeps, hok⟩ := request_succeeds hrun huser
  obtain ⟨hdb', hfine⟩ := @Contract.path _ _ _ _ (cartContract valkey) _ _ _ hpath hdb hkeeps
  exact ⟨hdb', hok hfine⟩

end AstronomyShop.CartService
