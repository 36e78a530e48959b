import AstronomyShop.Cart.Store
import AstronomyShop.Library.Session

/-!
# The runs of the cart operations

What one run of an operation of `ValkeyCartStore` can look like, as a trace of calls and replies
together with its result, and what a run along a path leaves in the store.

Every operation first looks for an open connection (`ConnectRun`). `AddItemAsync` and
`EmptyCartAsync` end with the same two commands, the write of a cart and its expiry
(`WriteRun`). Commands write at one key only, so everything stored at other keys is kept
(`entry_of_path`).
-/

namespace AstronomyShop.CartService

open Interaction

abbrev StoreEvent := Event StoreReply

variable {address valkey userId productId : String} {quantity : Int32} {db db' : Db}
  {t : List StoreEvent}

/-! ## Shapes -/

/-- What the catch of an operation makes of its result. -/
def caught {α : Type} : Except String α → Except RpcException α
  | .ok a => .ok a
  | .error ex => .error { detail := "Can't access cart storage. " ++ ex }

theorem runs_catchAll {α : Type} {body : Throwing α} {r : Except RpcException α}
    (h : Runs (catchAll body) t r) : ∃ r', Runs body.run t r' ∧ r = caught r' := by
  obtain ⟨t₁, t₂, r', rfl, hbody, hrest⟩ := runs_bind.mp h
  cases r' with
  | ok a =>
    obtain ⟨rfl, rfl⟩ := runs_pure.mp hrest
    rw [List.append_nil]
    exact ⟨.ok a, hbody, rfl⟩
  | error ex =>
    obtain ⟨rfl, rfl⟩ := runs_pure.mp hrest
    rw [List.append_nil]
    exact ⟨.error ex, hbody, rfl⟩

theorem runs_command_bind {β : Type} {c : Command} {f : c.Result → Throwing β}
    {r : Except String β} (h : Runs (command address c >>= f).run t r) :
    (∃ a t', t = ⟨.command address c, .ok a⟩ :: t' ∧ Runs (f a).run t' r) ∨
      ∃ err, t = [⟨.command address c, .error err⟩] ∧ r = .error err := by
  obtain ⟨reply, t', rfl, hrest⟩ := runs_call.mp h
  cases reply with
  | ok a => exact .inl ⟨a, t', rfl, hrest⟩
  | error err =>
    obtain ⟨rfl, rfl⟩ := runs_pure.mp hrest
    exact .inr ⟨err, rfl, rfl⟩

/-- The runs of `EnsureRedisConnected`. -/
inductive ConnectRun (address : String) : List StoreEvent → Except String Unit → Prop
  | opened : ConnectRun address [⟨.isConnectionOpened address, true⟩] (.ok ())
  | unreachable (err : String) :
      ConnectRun address
        [⟨.isConnectionOpened address, false⟩, ⟨.connect address, .error err⟩] (.error err)
  | unset (err : String) :
      ConnectRun address
        [⟨.isConnectionOpened address, false⟩, ⟨.connect address, .ok ()⟩,
          ⟨.command address (.stringSet "cart" "OK"), .error err⟩] (.error err)
  | unread (err : String) :
      ConnectRun address
        [⟨.isConnectionOpened address, false⟩, ⟨.connect address, .ok ()⟩,
          ⟨.command address (.stringSet "cart" "OK"), .ok ()⟩,
          ⟨.command address (.stringGet "cart"), .error err⟩] (.error err)
  | connected (value : Option String) :
      ConnectRun address
        [⟨.isConnectionOpened address, false⟩, ⟨.connect address, .ok ()⟩,
          ⟨.command address (.stringSet "cart" "OK"), .ok ()⟩,
          ⟨.command address (.stringGet "cart"), .ok value⟩] (.ok ())

theorem ensureRedisConnected_run {r : Except String Unit}
    (h : Runs (ensureRedisConnected address).run t r) : ConnectRun address t r := by
  obtain ⟨opened, t₁, rfl, h₁⟩ := runs_call.mp h
  cases opened with
  | true =>
    obtain ⟨rfl, rfl⟩ := runs_pure.mp h₁
    exact .opened
  | false =>
    obtain ⟨reply, t₂, rfl, h₂⟩ := runs_call.mp h₁
    cases reply with
    | error err =>
      obtain ⟨rfl, rfl⟩ := runs_pure.mp h₂
      exact .unreachable err
    | ok a =>
      rcases runs_command_bind h₂ with ⟨⟨⟩, t₃, rfl, h₃⟩ | ⟨err, rfl, rfl⟩
      · rcases runs_command_bind h₃ with ⟨value, t₄, rfl, h₄⟩ | ⟨err, rfl, rfl⟩
        · obtain ⟨rfl, rfl⟩ := runs_pure.mp h₄
          exact .connected value
        · exact .unread err
      · exact .unset err

/-- The two commands at the end of a write: the cart, then its expiry. -/
inductive WriteRun (address userId : String) (cart : Cart) :
    List StoreEvent → Except String Unit → Prop
  | unwritten (err : String) :
      WriteRun address userId cart
        [⟨.command address (.hashSet userId cartFieldName cart), .error err⟩] (.error err)
  | unexpired (err : String) :
      WriteRun address userId cart
        [⟨.command address (.hashSet userId cartFieldName cart), .ok ()⟩,
          ⟨.command address (.keyExpire userId), .error err⟩] (.error err)
  | written :
      WriteRun address userId cart
        [⟨.command address (.hashSet userId cartFieldName cart), .ok ()⟩,
          ⟨.command address (.keyExpire userId), .ok ()⟩] (.ok ())

theorem write_run {cart : Cart} {r : Except String Unit}
    (h : Runs (do
      command address (.hashSet userId cartFieldName cart)
      command address (.keyExpire userId) : Throwing Unit).run t r) :
    WriteRun address userId cart t r := by
  rcases runs_command_bind h with ⟨⟨⟩, t₁, rfl, h₁⟩ | ⟨err, rfl, rfl⟩
  · obtain ⟨reply, t₂, rfl, h₂⟩ := runs_call.mp h₁
    obtain ⟨rfl, rfl⟩ := runs_pure.mp h₂
    cases r with
    | ok a => exact .written
    | error err => exact .unexpired err
  · exact .unwritten err

/-- The runs of `AddItemAsync`. -/
inductive AddItemRun (address userId productId : String) (quantity : Int32) :
    List StoreEvent → Except RpcException Unit → Prop
  | unconnected {t : List StoreEvent} {err : String} (connect : ConnectRun address t (.error err)) :
      AddItemRun address userId productId quantity t (caught (.error err))
  | unread {t : List StoreEvent} (connect : ConnectRun address t (.ok ())) (err : String) :
      AddItemRun address userId productId quantity
        (t ++ [⟨.command address (.hashGet userId cartFieldName), .error err⟩])
        (caught (.error err))
  | unmatched {t : List StoreEvent} (connect : ConnectRun address t (.ok ()))
      {value : Option Cart} {ex : String}
      (hcart : addToCart userId value productId quantity = .error ex) :
      AddItemRun address userId productId quantity
        (t ++ [⟨.command address (.hashGet userId cartFieldName), .ok value⟩])
        (caught (.error ex))
  | write {t t' : List StoreEvent} {r : Except String Unit}
      (connect : ConnectRun address t (.ok ())) {value : Option Cart} {cart : Cart}
      (hcart : addToCart userId value productId quantity = .ok cart)
      (write : WriteRun address userId cart t' r) :
      AddItemRun address userId productId quantity
        (t ++ ⟨.command address (.hashGet userId cartFieldName), .ok value⟩ :: t') (caught r)

/-- The runs of `EmptyCartAsync`. -/
inductive EmptyCartRun (address userId : String) :
    List StoreEvent → Except RpcException Unit → Prop
  | unconnected {t : List StoreEvent} {err : String} (connect : ConnectRun address t (.error err)) :
      EmptyCartRun address userId t (caught (.error err))
  | write {t t' : List StoreEvent} {r : Except String Unit}
      (connect : ConnectRun address t (.ok ())) (write : WriteRun address userId {} t' r) :
      EmptyCartRun address userId (t ++ t') (caught r)

/-- The runs of `GetCartAsync`. -/
inductive GetCartRun (address userId : String) :
    List StoreEvent → Except RpcException Cart → Prop
  | unconnected {t : List StoreEvent} {err : String} (connect : ConnectRun address t (.error err)) :
      GetCartRun address userId t (caught (.error err))
  | unread {t : List StoreEvent} (connect : ConnectRun address t (.ok ())) (err : String) :
      GetCartRun address userId
        (t ++ [⟨.command address (.hashGet userId cartFieldName), .error err⟩])
        (caught (.error err))
  | read {t : List StoreEvent} (connect : ConnectRun address t (.ok ())) (value : Option Cart) :
      GetCartRun address userId
        (t ++ [⟨.command address (.hashGet userId cartFieldName), .ok value⟩])
        (.ok (value.getD {}))

theorem addItemAsync_run {r : Except RpcException Unit}
    (h : Runs (addItemAsync address userId productId quantity) t r) :
    AddItemRun address userId productId quantity t r := by
  obtain ⟨r', hbody, rfl⟩ := runs_catchAll h
  rcases runs_exceptT_bind.mp hbody with ⟨⟨⟩, t₁, t₂, rfl, hconnect, h₁⟩ | ⟨err, hconnect, rfl⟩
  · have connect := ensureRedisConnected_run hconnect
    rcases runs_command_bind h₁ with ⟨value, t₃, rfl, h₂⟩ | ⟨err, rfl, rfl⟩
    · rcases runs_exceptT_bind.mp h₂ with ⟨cart, t₄, t₅, rfl, hcart, h₃⟩ | ⟨ex, hcart, rfl⟩
      · obtain ⟨rfl, hok⟩ := runs_pure.mp hcart
        exact .write connect hok.symm (write_run h₃)
      · obtain ⟨rfl, herror⟩ := runs_pure.mp hcart
        exact .unmatched connect herror.symm
    · exact .unread connect err
  · exact .unconnected (ensureRedisConnected_run hconnect)

theorem emptyCartAsync_run {r : Except RpcException Unit}
    (h : Runs (emptyCartAsync address userId) t r) : EmptyCartRun address userId t r := by
  obtain ⟨r', hbody, rfl⟩ := runs_catchAll h
  rcases runs_exceptT_bind.mp hbody with ⟨⟨⟩, t₁, t₂, rfl, hconnect, h₁⟩ | ⟨err, hconnect, rfl⟩
  · exact .write (ensureRedisConnected_run hconnect) (write_run h₁)
  · exact .unconnected (ensureRedisConnected_run hconnect)

theorem getCartAsync_run {r : Except RpcException Cart}
    (h : Runs (getCartAsync address userId) t r) : GetCartRun address userId t r := by
  obtain ⟨r', hbody, rfl⟩ := runs_catchAll h
  rcases runs_exceptT_bind.mp hbody with ⟨⟨⟩, t₁, t₂, rfl, hconnect, h₁⟩ | ⟨err, hconnect, rfl⟩
  · have connect := ensureRedisConnected_run hconnect
    rcases runs_command_bind h₁ with ⟨value, t₃, rfl, h₂⟩ | ⟨err, rfl, rfl⟩
    · obtain ⟨rfl, rfl⟩ := runs_pure.mp h₂
      exact .read connect value
    · exact .unread connect err
  · exact .unconnected (ensureRedisConnected_run hconnect)

/-! ## Updates -/

/-- The operations that write a cart. -/
inductive Update where
  | addItem (productId : String) (quantity : Int32)
  | emptyCart

def Update.perform (valkeyAddress userId : String) :
    Update → Service (Except RpcException Unit)
  | addItem productId quantity => addItemAsync valkeyAddress userId productId quantity
  | emptyCart => emptyCartAsync valkeyAddress userId

/-- The cart that an update writes over the stored one. -/
def Update.apply (userId : String) (stored : Option Cart) : Update → Except String Cart
  | addItem productId quantity => addToCart userId stored productId quantity
  | emptyCart => .ok {}

/-- A request for an operation of the store. -/
inductive Request where
  | update (userId : String) (u : Update)
  | getCart (userId : String)

inductive Response where
  | empty
  | cart (cart : Cart)

def Request.user : Request → String
  | update userId _ => userId
  | getCart userId => userId

def Request.perform (valkeyAddress : String) :
    Request → Service (Except RpcException Response)
  | update userId u => do return (← u.perform valkeyAddress userId).map fun _ => Response.empty
  | getCart userId => do return (← getCartAsync valkeyAddress userId).map Response.cart

theorem runs_update {u : Update} {r : Except RpcException Response} :
    Runs ((Request.update userId u).perform address) t r ↔
      ∃ r', Runs (u.perform address userId) t r' ∧ r = r'.map fun _ => Response.empty :=
  runs_bind_pure

theorem runs_getCart {r : Except RpcException Response} :
    Runs ((Request.getCart userId).perform address) t r ↔
      ∃ r', Runs (getCartAsync address userId) t r' ∧ r = r'.map Response.cart :=
  runs_bind_pure

/-! ## What a path leaves in the store -/

/-- The key at which a call writes. -/
def StoreCall.writes : StoreCall → Option String
  | .command _ (.stringSet key _) => some key
  | .command _ (.hashSet key _ _) => some key
  | _ => none

theorem Command.respond_error {c : Command} {err : String}
    (h : (.error err, db') = c.respond db) : db' = db := by
  cases c with
  | stringSet key value => cases h
  | stringGet key => exact (Prod.mk.inj h).2
  | hashGet key field => exact (Prod.mk.inj h).2
  | hashSet key field value =>
    change (.error err, db') = db.hashSet key field value at h
    unfold Db.hashSet at h
    split at h <;> cases h
    rfl
  | keyExpire key => cases h

/-- A failing command changes nothing. -/
theorem db_of_error {c : Command} {err : String}
    (h : Answers valkey db (.command address c) (.error err) db') : db' = db := by
  rcases h with ⟨-, hrespond⟩ | ⟨hdb, -⟩
  · exact Command.respond_error hrespond
  · exact hdb

theorem respond_of_ok {c : Command} {a : c.Result}
    (h : Answers valkey db (.command address c) (.ok a) db') : (.ok a, db') = c.respond db := by
  rcases h with ⟨-, hrespond⟩ | ⟨-, err, herror⟩
  · exact hrespond
  · cases herror

theorem entry_of_respond {c : Command} {key : String}
    (hkey : (StoreCall.command address c).writes ≠ some key) : (c.respond db).2 key = db key := by
  cases c with
  | stringGet key' => rfl
  | hashGet key' field => rfl
  | keyExpire key' => rfl
  | stringSet key' value =>
    have hne : key ≠ key' := fun heq => hkey (congrArg some heq.symm)
    exact Function.update_of_ne hne _ _
  | hashSet key' field value =>
    have hne : key ≠ key' := fun heq => hkey (congrArg some heq.symm)
    show (db.hashSet key' field value).2 key = db key
    unfold Db.hashSet
    split
    · exact Function.update_of_ne hne _ _
    · rfl
    · exact Function.update_of_ne hne _ _

/-- What is stored at a key changes only by a command that writes there. -/
theorem entry_of_answer {o : StoreCall} {r : StoreReply o} {key : String}
    (h : Answers valkey db o r db') (hkey : o.writes ≠ some key) : db' key = db key := by
  cases o with
  | booleanFlag name => rw [show db' = db from h]
  | isConnectionOpened address => rw [h.1]
  | connect address => rw [h.1]
  | command address c =>
    rcases h with ⟨-, hrespond⟩ | ⟨hdb, -⟩
    · rw [(Prod.mk.inj hrespond).2]
      exact entry_of_respond hkey
    · rw [hdb]

theorem entry_of_path {key : String} (h : Path (Answers valkey) db t db')
    (hkey : ∀ e ∈ t, e.op.writes ≠ some key) : db' key = db key := by
  refine @Path.preserves _ _ _ _ _ _ (fun db' => db' key = db key) t h ?_ rfl
  intro e he db₁ db₂ hanswer hdb₁
  rw [entry_of_answer hanswer (hkey e he)]
  exact hdb₁

/-- A read of the cart yields the stored cart. -/
theorem hashGet_ok {value : Option Cart}
    (h : Answers valkey db (.command address (.hashGet userId cartFieldName)) (.ok value) db') :
    db' = db ∧ value = storedCart db userId ∧ ∀ s, db userId ≠ some (.string s) := by
  have hrespond : (.ok value, db') = (db.hashGet userId cartFieldName, db) := respond_of_ok h
  obtain ⟨hvalue, rfl⟩ := Prod.mk.inj hrespond
  refine ⟨rfl, ?_⟩
  unfold Db.hashGet at hvalue
  unfold storedCart
  split at hvalue
  · rename_i hnone
    cases hvalue
    rw [hnone]
    exact ⟨rfl, by rintro s ⟨⟩⟩
  · cases hvalue
  · rename_i fields hhash
    cases hvalue
    rw [hhash]
    exact ⟨rfl, by rintro s ⟨⟩⟩

/-- A cart that is written is the one that is stored. -/
theorem hashSet_ok {cart : Cart}
    (h : Answers valkey db (.command address (.hashSet userId cartFieldName cart)) (.ok ()) db') :
    storedCart db' userId = some cart ∧ ∀ s, db userId ≠ some (.string s) := by
  have hrespond : (.ok (), db') = db.hashSet userId cartFieldName cart := respond_of_ok h
  unfold Db.hashSet at hrespond
  unfold storedCart
  split at hrespond
  · rename_i hnone
    cases hrespond
    rw [Function.update_self, hnone]
    exact ⟨Function.update_self .., by rintro s ⟨⟩⟩
  · cases hrespond
  · rename_i fields hhash
    cases hrespond
    rw [Function.update_self, hhash]
    exact ⟨Function.update_self .., by rintro s ⟨⟩⟩

theorem keyExpire_answer {r : Except String Unit}
    (h : Answers valkey db (.command address (.keyExpire userId)) r db') : db' = db := by
  ext key : 1
  exact entry_of_answer h (by rintro ⟨⟩)

theorem storedCart_congr (h : db' userId = db userId) :
    storedCart db' userId = storedCart db userId := by
  unfold storedCart
  rw [h]

/-- The test value written at the key `cart` when a connection is opened. -/
theorem stringSet_ok {key value : String}
    (h : Answers valkey db (.command address (.stringSet key value)) (.ok ()) db') :
    db' key = some (.string value) := by
  rw [(Prod.mk.inj (respond_of_ok h)).2]
  exact Function.update_self ..

/-- Connecting keeps the entry of a user, except that opening a connection overwrites the one of
the user `cart`. -/
theorem ConnectRun.entry {r : Except String Unit} (h : ConnectRun address t r)
    (hpath : Path (Answers valkey) db t db') :
    db' userId = db userId ∨
      userId = "cart" ∧ ⟨.isConnectionOpened address, true⟩ ∉ t ∧
        db' userId = some (.string "OK") := by
  by_cases huser : userId = "cart"
  · subst huser
    cases h with
    | opened => exact .inl (entry_of_path hpath (by simp [StoreCall.writes]))
    | unreachable err => exact .inl (entry_of_path hpath (by simp [StoreCall.writes]))
    | unset err =>
      obtain ⟨db₁, hopened, hrest⟩ := path_cons.mp hpath
      obtain ⟨db₂, hconnect, hset⟩ := path_cons.mp hrest
      rw [db_of_error (path_singleton.mp hset), hconnect.1, hopened.1]
      exact .inl rfl
    | unread err =>
      refine .inr ⟨rfl, by simp, ?_⟩
      obtain ⟨db₁, -, hrest⟩ := path_cons.mp hpath
      obtain ⟨db₂, -, hrest⟩ := path_cons.mp hrest
      obtain ⟨db₃, hset, hget⟩ := path_cons.mp hrest
      rw [entry_of_path hget (by simp [StoreCall.writes])]
      exact stringSet_ok hset
    | connected value =>
      refine .inr ⟨rfl, by simp, ?_⟩
      obtain ⟨db₁, -, hrest⟩ := path_cons.mp hpath
      obtain ⟨db₂, -, hrest⟩ := path_cons.mp hrest
      obtain ⟨db₃, hset, hget⟩ := path_cons.mp hrest
      rw [entry_of_path hget (by simp [StoreCall.writes])]
      exact stringSet_ok hset
  · refine .inl (entry_of_path hpath ?_)
    have hne : "cart" ≠ userId := Ne.symm huser
    cases h <;> simp [StoreCall.writes, hne]

/-- After a connection has been opened over the cart of a user, no hash command on it succeeds. -/
theorem ConnectRun.entry_of_hash {r : Except String Unit} (h : ConnectRun address t r)
    (hpath : Path (Answers valkey) db t db') (hhash : ∀ s, db' userId ≠ some (.string s)) :
    db' userId = db userId := by
  rcases @ConnectRun.entry _ _ userId _ _ _ _ h hpath with hentry | ⟨-, -, hentry⟩
  · exact hentry
  · exact absurd hentry (hhash "OK")

/-- An operation that writes nothing keeps the stored cart of its user, but for the one of the
user `cart` when it opens a connection. -/
def CartKept (address userId : String) (db : Db) (t : List StoreEvent) (db' : Db) : Prop :=
  storedCart db' userId = storedCart db userId ∨
    userId = "cart" ∧ ⟨.isConnectionOpened address, true⟩ ∉ t ∧ storedCart db' userId = none

theorem ConnectRun.kept {r : Except String Unit} (h : ConnectRun address t r)
    (hpath : Path (Answers valkey) db t db') : CartKept address userId db t db' := by
  rcases @ConnectRun.entry _ _ userId _ _ _ _ h hpath with hentry | ⟨huser, hopened, hentry⟩
  · exact .inl (storedCart_congr hentry)
  · refine .inr ⟨huser, hopened, ?_⟩
    unfold storedCart
    rw [hentry]

/-- What follows connecting without writing keeps what connecting has kept. -/
theorem CartKept.append {t₁ t₂ : List StoreEvent} {db₁ : Db}
    (h : CartKept address userId db t₁ db₁) (hpath : Path (Answers valkey) db₁ t₂ db')
    (hkeeps : ∀ e ∈ t₂, e.op.writes ≠ some userId ∧ e.op ≠ .isConnectionOpened address) :
    CartKept address userId db (t₁ ++ t₂) db' := by
  have hcart : storedCart db' userId = storedCart db₁ userId :=
    storedCart_congr (entry_of_path hpath fun e he => (hkeeps e he).1)
  rcases h with hkept | ⟨huser, hopened, hlost⟩
  · exact .inl (hcart.trans hkept)
  · refine .inr ⟨huser, ?_, hcart.trans hlost⟩
    intro hmem
    rcases List.mem_append.mp hmem with hmem | hmem
    · exact hopened hmem
    · exact (hkeeps _ hmem).2 rfl

/-- The last command of a run was the expiry of a cart, and it failed. -/
def ExpiryFailed (address userId : String) (t : List StoreEvent) : Prop :=
  ∃ err, t.getLast? = some ⟨.command address (.keyExpire userId), .error err⟩

theorem ConnectRun.not_expiryFailed {r : Except String Unit} (h : ConnectRun address t r) :
    ¬ ExpiryFailed address userId t := by
  rintro ⟨err, hlast⟩
  cases h <;> simp at hlast

/-- What an update leaves in the store: a cart it has kept, after an error, or the cart it
writes, and then an error can only come from the expiry. -/
inductive Update.Outcome (u : Update) (address userId : String) (db : Db) (t : List StoreEvent)
    (r : Except RpcException Unit) (db' : Db) : Prop
  | unwritten (ex : RpcException) (herror : r = .error ex)
      (hkept : CartKept address userId db t db') (hexpiry : ¬ ExpiryFailed address userId t)
  | written (cart : Cart) (hcart : u.apply userId (storedCart db userId) = .ok cart)
      (hstored : storedCart db' userId = some cart)
      (hreply : r = .ok () ∨ ExpiryFailed address userId t)

theorem WriteRun.outcome {u : Update} {cart : Cart} {t₁ t₂ : List StoreEvent} {db₁ : Db}
    {r : Except String Unit} (h : WriteRun address userId cart t₂ r)
    (hpath : Path (Answers valkey) db₁ t₂ db') (hkept : CartKept address userId db t₁ db₁)
    (hcart : (∀ s, db₁ userId ≠ some (.string s)) →
      u.apply userId (storedCart db userId) = .ok cart) :
    u.Outcome address userId db (t₁ ++ t₂) (caught r) db' := by
  cases h with
  | unwritten err =>
    refine .unwritten _ rfl ?_ (by simp [ExpiryFailed])
    have hdb : db' = db₁ := db_of_error (path_singleton.mp hpath)
    rcases hkept with hkept | ⟨huser, hopened, hlost⟩
    · exact .inl (by rw [hdb, hkept])
    · exact .inr ⟨huser, by simpa using hopened, by rw [hdb, hlost]⟩
  | unexpired err =>
    obtain ⟨db₂, hset, hexpire⟩ := path_cons.mp hpath
    obtain ⟨hstored, hhash⟩ := hashSet_ok hset
    refine .written cart (hcart hhash) ?_ (.inr ⟨err, by simp⟩)
    rw [keyExpire_answer (path_singleton.mp hexpire)]
    exact hstored
  | written =>
    obtain ⟨db₂, hset, hexpire⟩ := path_cons.mp hpath
    obtain ⟨hstored, hhash⟩ := hashSet_ok hset
    refine .written cart (hcart hhash) ?_ (.inl rfl)
    rw [keyExpire_answer (path_singleton.mp hexpire)]
    exact hstored

/-- **What an update does**, for every choice of commands that fail. -/
theorem update_outcome {u : Update} {r : Except RpcException Unit}
    (h : Runs (u.perform address userId) t r) (hpath : Path (Answers valkey) db t db') :
    u.Outcome address userId db t r db' := by
  cases u with
  | addItem productId quantity =>
    cases addItemAsync_run h with
    | unconnected connect =>
      exact .unwritten _ rfl (connect.kept hpath) connect.not_expiryFailed
    | unread connect err =>
      obtain ⟨db₁, hconnect, hget⟩ := path_append.mp hpath
      exact .unwritten _ rfl ((connect.kept hconnect).append hget (by simp [StoreCall.writes]))
        (by simp [ExpiryFailed])
    | unmatched connect hcart =>
      obtain ⟨db₁, hconnect, hget⟩ := path_append.mp hpath
      exact .unwritten _ rfl ((connect.kept hconnect).append hget (by simp [StoreCall.writes]))
        (by simp [ExpiryFailed])
    | @write t₁ t₂ r connect value cart hcart write =>
      obtain ⟨db₁, hconnect, hrest⟩ := path_append.mp hpath
      obtain ⟨db₂, hget, hwrite⟩ := path_cons.mp hrest
      have hkept : CartKept address userId db
          (t₁ ++ [⟨.command address (.hashGet userId cartFieldName), .ok value⟩]) db₂ :=
        (connect.kept hconnect).append (path_singleton.mpr hget) (by simp [StoreCall.writes])
      obtain ⟨rfl, rfl, hhash⟩ := hashGet_ok hget
      have hentry := connect.entry_of_hash hconnect hhash
      rw [List.append_cons]
      refine write.outcome hwrite hkept fun _ => ?_
      rw [← storedCart_congr hentry]
      exact hcart
  | emptyCart =>
    cases emptyCartAsync_run h with
    | unconnected connect =>
      exact .unwritten _ rfl (connect.kept hpath) connect.not_expiryFailed
    | write connect write =>
      obtain ⟨db₁, hconnect, hwrite⟩ := path_append.mp hpath
      exact write.outcome hwrite (connect.kept hconnect) fun _ => rfl

/-- An update keeps the carts of other users. -/
theorem update_kept_other {u : Update} {other : String} {r : Except RpcException Unit}
    (h : Runs (u.perform address other) t r) (hpath : Path (Answers valkey) db t db')
    (hne : other ≠ userId) : CartKept address userId db t db' := by
  have hwrite : ∀ {cart t' r'}, WriteRun address other cart t' r' →
      ∀ e ∈ t', e.op.writes ≠ some userId ∧ e.op ≠ .isConnectionOpened address := by
    intro cart t' r' write
    cases write <;> simp [StoreCall.writes, hne]
  cases u with
  | addItem productId quantity =>
    cases addItemAsync_run h with
    | unconnected connect => exact connect.kept hpath
    | unread connect err =>
      obtain ⟨db₁, hconnect, hget⟩ := path_append.mp hpath
      exact (connect.kept hconnect).append hget (by simp [StoreCall.writes])
    | unmatched connect hcart =>
      obtain ⟨db₁, hconnect, hget⟩ := path_append.mp hpath
      exact (connect.kept hconnect).append hget (by simp [StoreCall.writes])
    | write connect hcart write =>
      obtain ⟨db₁, hconnect, hrest⟩ := path_append.mp hpath
      refine (connect.kept hconnect).append hrest ?_
      rw [List.forall_mem_cons]
      exact ⟨by simp [StoreCall.writes], hwrite write⟩
  | emptyCart =>
    cases emptyCartAsync_run h with
    | unconnected connect => exact connect.kept hpath
    | write connect write =>
      obtain ⟨db₁, hconnect, hrest⟩ := path_append.mp hpath
      exact (connect.kept hconnect).append hrest (hwrite write)

/-- `GetCartAsync` keeps the carts of all users. -/
theorem getCart_kept {other : String} {r : Except RpcException Cart}
    (h : Runs (getCartAsync address other) t r) (hpath : Path (Answers valkey) db t db') :
    CartKept address userId db t db' := by
  cases getCartAsync_run h with
  | unconnected connect => exact connect.kept hpath
  | unread connect err =>
    obtain ⟨db₁, hconnect, hget⟩ := path_append.mp hpath
    exact (connect.kept hconnect).append hget (by simp [StoreCall.writes])
  | read connect value =>
    obtain ⟨db₁, hconnect, hget⟩ := path_append.mp hpath
    exact (connect.kept hconnect).append hget (by simp [StoreCall.writes])

/-- It returns the stored cart. -/
theorem getCart_ok {cart : Cart} (h : Runs (getCartAsync address userId) t (.ok cart))
    (hpath : Path (Answers valkey) db t db') :
    cart = (storedCart db userId).getD {} ∧ storedCart db' userId = storedCart db userId := by
  generalize hr : (.ok cart : Except RpcException Cart) = r at h
  cases getCartAsync_run h with
  | unconnected connect => cases hr
  | unread connect err => cases hr
  | read connect value =>
    cases hr
    obtain ⟨db₁, hconnect, hget⟩ := path_append.mp hpath
    obtain ⟨rfl, rfl, hhash⟩ := hashGet_ok (path_singleton.mp hget)
    have hkept := storedCart_congr (connect.entry_of_hash hconnect hhash)
    rw [hkept]
    exact ⟨rfl, rfl⟩

end AstronomyShop.CartService
