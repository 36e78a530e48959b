import AstronomyShop.Cart.Quantities

/-!
# One line for each product

Requests of any users take turns on Valkey, and any command may fail. Every operation writes a cart
that it has made of a cart read before, so no cart ever lists a product twice, and `SingleOrDefault`
finds one line at most: an operation that throws has had a failed command
(`carts_keep_unique_lines`).
-/

namespace AstronomyShop.CartService

open Interaction

/-- Valkey, with commands and connections that may fail. -/
def unreliableWorld (valkey : String) : World StoreCall StoreReply Db Empty where
  answer := Answers valkey
  act _ a _ := a.elim

/-- The connection or the command failed. -/
def Failed : StoreEvent → Prop
  | ⟨.connect _, reply⟩ => ∃ err, reply = .error err
  | ⟨.command _ _, reply⟩ => ∃ err, reply = .error err
  | _ => False

/-! ## The contract -/

/-- No cart lists a product twice. -/
def LinesUnique (db : Db) : Prop := ∀ userId, UniqueLines (storedItems db userId)

/-- Only carts with different products are written. -/
def WritesUnique : StoreCall → Prop
  | .command _ (.hashSet _ field cart) => field = cartFieldName → UniqueLines cart.items
  | _ => True

/-- Only carts with different products are read. -/
def ReadsUnique : StoreEvent → Prop
  | ⟨.command _ (.hashGet _ field), reply⟩ =>
    ∀ cart, reply = .ok (some cart) → field = cartFieldName → UniqueLines cart.items
  | _ => True

theorem linesUnique_noCarts : LinesUnique noCarts := fun _ => List.nodup_nil

section

variable {valkey address userId productId : String} {quantity : Int32} {db db' : Db}
  {t t₁ t₂ : List StoreEvent}

/-- Replacing an entry keeps the other carts. -/
theorem LinesUnique.update (h : LinesUnique db) {key : String} {entry : Entry}
    (hentry : ∀ fields, entry = .hash fields → ∀ cart, fields cartFieldName = some cart →
      UniqueLines cart.items) : LinesUnique (Function.update db key (some entry)) := by
  intro user
  by_cases heq : user = key
  · subst heq
    unfold storedItems
    rw [Function.update_self]
    cases entry with
    | string value => exact List.nodup_nil
    | hash fields =>
      dsimp only
      cases hcart : fields cartFieldName with
      | none => exact List.nodup_nil
      | some cart => exact hentry fields rfl cart hcart
  · have hsame : storedItems (Function.update db key (some entry)) user = storedItems db user := by
      unfold storedItems
      rw [Function.update_of_ne heq]
    rw [hsame]
    exact h user

theorem LinesUnique.cart (h : LinesUnique db) {fields : String → Option Cart} {cart : Cart}
    (hdb : db userId = some (.hash fields)) (hcart : fields cartFieldName = some cart) :
    UniqueLines cart.items := by
  have hlines := h userId
  unfold storedItems at hlines
  rw [hdb] at hlines
  dsimp only at hlines
  rwa [hcart] at hlines

theorem LinesUnique.hashSet (h : LinesUnique db) {key field : String} {cart : Cart}
    (hcart : field = cartFieldName → UniqueLines cart.items) :
    LinesUnique (db.hashSet key field cart).2 := by
  unfold Db.hashSet
  split
  · refine h.update ?_
    rintro _ ⟨⟩ cart' hcart'
    by_cases hfield : cartFieldName = field
    · rw [← hfield, Function.update_self] at hcart'
      cases hcart'
      exact hcart hfield.symm
    · rw [Function.update_of_ne hfield] at hcart'
      cases hcart'
  · exact h
  · rename_i fields hdb
    refine h.update ?_
    rintro _ ⟨⟩ cart' hcart'
    by_cases hfield : cartFieldName = field
    · rw [← hfield, Function.update_self] at hcart'
      cases hcart'
      exact hcart hfield.symm
    · rw [Function.update_of_ne hfield] at hcart'
      exact h.cart hdb hcart'

/-- A cart that is read is a stored one. -/
theorem LinesUnique.hashGet (h : LinesUnique db) {key : String} {cart : Cart}
    (hread : db.hashGet key cartFieldName = .ok (some cart)) : UniqueLines cart.items := by
  unfold Db.hashGet at hread
  split at hread
  · cases hread
  · cases hread
  · rename_i fields hdb
    exact h.cart hdb (Except.ok.inj hread)

/-- **What one command keeps**, executed or not. -/
theorem LinesUnique.answer (h : LinesUnique db) {e : StoreEvent} (hwrites : WritesUnique e.op)
    (hanswer : Answers valkey db e.op e.reply db') : LinesUnique db' ∧ ReadsUnique e := by
  obtain ⟨o, reply⟩ := e
  cases o with
  | booleanFlag name =>
    obtain rfl : db' = db := hanswer
    exact ⟨h, trivial⟩
  | isConnectionOpened address =>
    obtain ⟨rfl, -⟩ := hanswer
    exact ⟨h, trivial⟩
  | connect address =>
    obtain ⟨rfl, -⟩ := hanswer
    exact ⟨h, trivial⟩
  | command address c =>
    rcases hanswer with ⟨-, hrespond⟩ | ⟨rfl, err, rfl⟩
    · obtain ⟨rfl, rfl⟩ := Prod.mk.inj hrespond
      cases c with
      | stringSet key value => exact ⟨h.update (by rintro fields ⟨⟩), trivial⟩
      | stringGet key => exact ⟨h, trivial⟩
      | hashGet key field =>
        refine ⟨h, ?_⟩
        rintro cart hread rfl
        exact h.hashGet hread
      | hashSet key field cart => exact ⟨h.hashSet hwrites, trivial⟩
      | keyExpire key => exact ⟨h, trivial⟩
    · refine ⟨h, ?_⟩
      cases c with
      | hashGet key field =>
        rintro cart hread
        cases hread
      | _ => trivial

/-- Stores without double lines answer with carts without double lines, and stay so while only
such carts are written. -/
def linesContract (valkey : String) : Contract (Answers valkey) where
  Inv := LinesUnique
  Routine := WritesUnique
  Fine := ReadsUnique
  step hs hroutine h := hs.answer hroutine h

/-! ## The operations keep the contract -/

/-- A run that keeps the contract and goes wrong only after a failed command. -/
def Dependable {ε α : Type} (valkey : String) (t : List StoreEvent) (r : Except ε α) : Prop :=
  (linesContract valkey).Keeps t ∧
    ((∀ e ∈ t, ReadsUnique e) → (∃ e ∈ t, Failed e) ∨ ∃ a, r = .ok a)

theorem Dependable.append {ε ε' α β : Type} {r : Except ε α} {r' : Except ε' β}
    (h₁ : Dependable valkey t₁ r) (h₂ : (∀ e ∈ t₁, ReadsUnique e) → Dependable valkey t₂ r') :
    Dependable valkey (t₁ ++ t₂) r' := by
  refine ⟨Contract.keeps_append.mpr ⟨h₁.1, fun hfine => (h₂ hfine).1⟩, fun hfine => ?_⟩
  rw [List.forall_mem_append] at hfine
  rcases (h₂ hfine.1).2 hfine.2 with ⟨e, he, hfailed⟩ | hok
  · exact .inl ⟨e, List.mem_append_right _ he, hfailed⟩
  · exact .inr hok

/-- After a failed command the result does not matter. -/
theorem dependable_of_failed {ε α : Type} {r : Except ε α} {e : StoreEvent}
    (hwrites : ∀ e ∈ t, WritesUnique e.op) (he : e ∈ t) (hfailed : Failed e) :
    Dependable valkey t r :=
  ⟨Contract.keeps_of_routine hwrites, fun _ => .inl ⟨e, he, hfailed⟩⟩

theorem dependable_ok {ε α : Type} {a : α} (hwrites : ∀ e ∈ t, WritesUnique e.op) :
    Dependable valkey t (.ok a : Except ε α) :=
  ⟨Contract.keeps_of_routine hwrites, fun _ => .inr ⟨a, rfl⟩⟩

theorem Dependable.of_error {ε ε' α β : Type} {err : ε} {r : Except ε' β}
    (h : Dependable valkey t (.error err : Except ε α)) : Dependable valkey t r := by
  refine ⟨h.1, fun hfine => ?_⟩
  rcases h.2 hfine with hfailed | ⟨a, ha⟩
  · exact .inl hfailed
  · cases ha

theorem Dependable.map {ε ε' α β : Type} {r : Except ε α} {r' : Except ε' β}
    (h : Dependable valkey t r) (hmap : ∀ a, r = .ok a → ∃ b, r' = .ok b) :
    Dependable valkey t r' := by
  refine ⟨h.1, fun hfine => ?_⟩
  rcases h.2 hfine with hfailed | ⟨a, ha⟩
  · exact .inl hfailed
  · exact .inr (hmap a ha)

theorem Dependable.caught {α : Type} {r : Except String α} (h : Dependable valkey t r) :
    Dependable valkey t (caught r) := by
  apply h.map
  rintro a rfl
  exact ⟨a, rfl⟩

theorem ConnectRun.dependable {r : Except String Unit} (h : ConnectRun address t r) :
    Dependable valkey t r := by
  cases h with
  | opened => exact dependable_ok (by simp [WritesUnique])
  | unreachable err =>
    exact dependable_of_failed (e := ⟨.connect address, .error err⟩) (by simp [WritesUnique])
      (by simp) ⟨err, rfl⟩
  | unset err =>
    exact dependable_of_failed (e := ⟨.command address (.stringSet "cart" "OK"), .error err⟩)
      (by simp [WritesUnique]) (by simp) ⟨err, rfl⟩
  | unread err =>
    exact dependable_of_failed (e := ⟨.command address (.stringGet "cart"), .error err⟩)
      (by simp [WritesUnique]) (by simp) ⟨err, rfl⟩
  | connected value =>
    exact dependable_ok (by simp [WritesUnique])

theorem WriteRun.dependable {cart : Cart} {r : Except String Unit}
    (h : WriteRun address userId cart t r) (hcart : UniqueLines cart.items) :
    Dependable valkey t r := by
  cases h with
  | unwritten err =>
    exact dependable_of_failed
      (e := ⟨.command address (.hashSet userId cartFieldName cart), .error err⟩)
      (by simp [WritesUnique, hcart]) (by simp) ⟨err, rfl⟩
  | unexpired err =>
    exact dependable_of_failed (e := ⟨.command address (.keyExpire userId), .error err⟩)
      (by simp [WritesUnique, hcart]) (by simp) ⟨err, rfl⟩
  | written =>
    exact dependable_ok (by simp [WritesUnique, hcart])

theorem Dependable.booleanFlag {ε α : Type} {name : String} {flag : Bool} {r : Except ε α}
    (h : Dependable valkey t r) : Dependable valkey (⟨.booleanFlag name, flag⟩ :: t) r := by
  refine ⟨⟨trivial, fun _ => h.1⟩, fun hfine => ?_⟩
  rcases h.2 (List.forall_mem_cons.mp hfine).2 with ⟨e, he, hfailed⟩ | hok
  · exact .inl ⟨e, List.mem_cons_of_mem _ he, hfailed⟩
  · exact .inr hok

theorem dependable_unread {ε α : Type} {err : String} {r : Except ε α} :
    Dependable valkey [⟨.command address (.hashGet userId cartFieldName), .error err⟩] r :=
  dependable_of_failed (by simp [WritesUnique]) List.mem_cons_self ⟨err, rfl⟩

/-- What follows a read may rely on the cart that was read. -/
theorem dependable_hashGet {ε α : Type} {value : Option Cart} {r : Except ε α}
    (hrest : (∀ cart, value = some cart → UniqueLines cart.items) → Dependable valkey t r) :
    Dependable valkey (⟨.command address (.hashGet userId cartFieldName), .ok value⟩ :: t) r := by
  have hlines : ReadsUnique ⟨.command address (.hashGet userId cartFieldName), .ok value⟩ →
      ∀ cart, value = some cart → UniqueLines cart.items := by
    rintro hread cart rfl
    exact hread cart rfl rfl
  refine ⟨⟨trivial, fun hfine => (hrest (hlines hfine)).1⟩, fun hfine => ?_⟩
  rw [List.forall_mem_cons] at hfine
  rcases (hrest (hlines hfine.1)).2 hfine.2 with ⟨e, he, hfailed⟩ | hok
  · exact .inl ⟨e, List.mem_cons_of_mem _ he, hfailed⟩
  · exact .inr hok

theorem addItemAsync_dependable {r : Except RpcException Unit}
    (h : Runs (addItemAsync address userId productId quantity) t r) : Dependable valkey t r := by
  cases addItemAsync_run h with
  | unconnected connect => exact connect.dependable.of_error
  | unread connect err => exact connect.dependable.append fun _ => dependable_unread
  | unmatched connect hcart =>
    refine connect.dependable.append fun _ => dependable_hashGet fun hlines => ?_
    -- with one line for each product `SingleOrDefault` does not throw
    obtain ⟨cart, hcart', -⟩ := addToCart_of_uniqueLines hlines
    rw [hcart'] at hcart
    cases hcart
  | write connect hcart write =>
    refine connect.dependable.append fun _ => dependable_hashGet fun hlines => ?_
    obtain ⟨cart, hcart', hunique⟩ := addToCart_of_uniqueLines hlines
    rw [hcart'] at hcart
    cases hcart
    exact (write.dependable hunique).caught

theorem emptyCartAsync_dependable {r : Except RpcException Unit}
    (h : Runs (emptyCartAsync address userId) t r) : Dependable valkey t r := by
  cases emptyCartAsync_run h with
  | unconnected connect => exact connect.dependable.of_error
  | write connect write =>
    exact connect.dependable.append fun _ => (write.dependable List.nodup_nil).caught

theorem getCartAsync_dependable {r : Except RpcException Cart}
    (h : Runs (getCartAsync address userId) t r) : Dependable valkey t r := by
  cases getCartAsync_run h with
  | unconnected connect => exact connect.dependable.of_error
  | unread connect err => exact connect.dependable.append fun _ => dependable_unread
  | read connect value =>
    refine connect.dependable.append fun _ => dependable_hashGet fun _ => ?_
    exact ⟨trivial, fun _ => .inr ⟨_, rfl⟩⟩

theorem emptyCart_dependable {r : Except RpcException Unit}
    (h : Runs (emptyCart address userId) t r) : Dependable valkey t r := by
  obtain ⟨flag, t', rfl, hrest⟩ := runs_perform_bind.mp h
  cases flag with
  | true => exact (emptyCartAsync_dependable hrest).booleanFlag
  | false => exact (emptyCartAsync_dependable hrest).booleanFlag

/-- **Every request keeps the contract**, also one to the store with the bad address. -/
theorem handle_dependable {request : Request} {r : Except RpcException Response}
    (h : Runs (request.handle address) t r) : Dependable valkey t r := by
  cases request with
  | getCart userId =>
    obtain ⟨r', hrun, rfl⟩ := runs_bind_pure.mp h
    apply (getCartAsync_dependable hrun).map
    rintro a rfl
    exact ⟨_, rfl⟩
  | update userId u =>
    cases u with
    | addItem productId quantity =>
      obtain ⟨r', hrun, rfl⟩ := runs_bind_pure.mp h
      apply (addItemAsync_dependable hrun).map
      rintro a rfl
      exact ⟨_, rfl⟩
    | emptyCart =>
      obtain ⟨r', hrun, rfl⟩ := runs_bind_pure.mp h
      apply (emptyCart_dependable hrun).map
      rintro a rfl
      exact ⟨_, rfl⟩

/-- A program that keeps the contract leaves a store without double lines. -/
theorem served_linesUnique {α : Type} {p : Service α} {a : α} (hdb : LinesUnique db)
    (h : Served (Answers valkey) p db a db')
    (hp : ∀ t a, Runs p t a → (linesContract valkey).Keeps t) : LinesUnique db' := by
  obtain ⟨t, hrun, hpath⟩ := served_iff.mp h
  exact (@Contract.path _ _ _ _ (linesContract valkey) _ _ _ hpath hdb (hp t a hrun)).1

end

/-- **No cart lists a product twice**, in any interleaving of any requests and with any failures; a
request that ends in an exception has had a failed command. -/
theorem carts_keep_unique_lines {ι : Type} [DecidableEq ι] (valkey : String) (db : Db)
    (hdb : LinesUnique db) (requests : ι → Request) (ls : List (Label ι StoreReply Empty))
    (c : Config ι StoreCall StoreReply Db (Except RpcException Response))
    (h : Run (unreliableWorld valkey) ⟨db, fun i => (requests i).handle valkey⟩ ls c) :
    (∀ userId, UniqueLines (storedItems c.shared userId)) ∧
      ∀ i ex, c.procs i = .pure (.error ex) → ∃ e, .call i e ∈ ls ∧ Failed e := by
  have hrun := @Contract.run StoreCall StoreReply _ Db Empty ι _ _ (unreliableWorld valkey)
    (linesContract valkey) _ _ _ h hdb (fun _ a => a.elim) fun i t a hi => (handle_dependable hi).1
  refine ⟨hrun.1, ?_⟩
  intro i ex hi
  have hsteps := h.steps i
  rw [hi] at hsteps
  have hdep : Dependable valkey _ _ := handle_dependable hsteps
  rcases hdep.2 fun e he => (hrun.2 i e he).2 with ⟨e, he, hfailed⟩ | ⟨a, ha⟩
  · exact ⟨e, mem_trace.mp he, hfailed⟩
  · cases ha

/-- Two additions of a bulb that both read before either writes. -/
def bulbsAtOnce : List (Label Bool StoreReply Empty) ×
    Config Bool StoreCall StoreReply Db (Except RpcException Response) :=
  schedule (respond "v") [true, true, false, false, true, true, false, false]
    ⟨noCarts, fun _ => (Request.update "u1" (.addItem "bulb" 1)).handle "v"⟩

/-- The cart has one line afterwards. -/
theorem carts_keep_unique_lines_bulbs : UniqueLines (storedItems bulbsAtOnce.2.shared "u1") :=
  (carts_keep_unique_lines "v" noCarts linesUnique_noCarts
    (fun _ => .update "u1" (.addItem "bulb" 1)) bulbsAtOnce.1 bulbsAtOnce.2
    (run_schedule (answers_respond "v") _ _)).1 "u1"

end AstronomyShop.CartService
