import AstronomyShop.Messages
import AstronomyShop.Library.Interleaving
import Mathlib.Algebra.Ring.Int.Defs
import Mathlib.Algebra.Ring.Nat

/-!
# The cart store

`ValkeyCartStore` and the handlers of `CartService` over it, as programs over the Valkey
commands they send. A cart is the value of the hash field `cart` at the key of its user, and
every operation writes a whole cart.

`Answers` says how commands may be answered: a command that reaches the server is executed,
and any command may fail before it does. Serialized carts are kept as the carts themselves.
-/

namespace AstronomyShop.CartService

open Interaction

/-! ## Valkey -/

/-- What is stored at a key. -/
inductive Entry where
  | string (value : String)
  | hash (fields : String → Option Cart)

abbrev Db := String → Option Entry

inductive Command where
  | stringSet (key value : String)
  | stringGet (key : String)
  | hashGet (key field : String)
  | hashSet (key field : String) (value : Cart)
  | keyExpire (key : String)

abbrev Command.Result : Command → Type
  | stringSet _ _ => Unit
  | stringGet _ => Option String
  | hashGet _ _ => Option Cart
  | hashSet _ _ _ => Unit
  | keyExpire _ => Unit

def wrongType : String := "WRONGTYPE Operation against a key holding the wrong kind of value"

def Db.stringGet (db : Db) (key : String) : Except String (Option String) :=
  match db key with
  | none => .ok none
  | some (.string value) => .ok (some value)
  | some (.hash _) => .error wrongType

def Db.hashGet (db : Db) (key field : String) : Except String (Option Cart) :=
  match db key with
  | none => .ok none
  | some (.string _) => .error wrongType
  | some (.hash fields) => .ok (fields field)

def Db.hashSet (db : Db) (key field : String) (value : Cart) : Except String Unit × Db :=
  match db key with
  | none =>
    (.ok (), Function.update db key
      (some (.hash (Function.update (fun _ => none) field (some value)))))
  | some (.string _) => (.error wrongType, db)
  | some (.hash fields) =>
    (.ok (), Function.update db key (some (.hash (Function.update fields field (some value)))))

/-- A command that is executed. Expiry is left out. -/
def Command.respond : (c : Command) → Db → Except String c.Result × Db
  | stringSet key value, db => (.ok (), Function.update db key (some (.string value)))
  | stringGet key, db => (db.stringGet key, db)
  | hashGet key field, db => (db.hashGet key field, db)
  | hashSet key field value, db => db.hashSet key field value
  | keyExpire _, db => (.ok (), db)

/-! ## Calls of the service -/

/-- `isConnectionOpened` and `connect` are about the connection of the store with the given
address, and `command` goes over it. -/
inductive StoreCall where
  | booleanFlag (name : String)
  | isConnectionOpened (valkeyAddress : String)
  | connect (valkeyAddress : String)
  | command (valkeyAddress : String) (c : Command)

abbrev StoreReply : StoreCall → Type
  | .booleanFlag _ => Bool
  | .isConnectionOpened _ => Bool
  | .connect _ => Except String Unit
  | .command _ c => Except String c.Result

abbrev Service := Program StoreCall StoreReply

/-- Code that may throw, with the text of the exception. -/
abbrev Throwing := ExceptT String Service

/-- `RpcException` with status `FailedPrecondition`. -/
structure RpcException where
  detail : String

def command (valkeyAddress : String) (c : Command) : Throwing c.Result :=
  ExceptT.mk (Program.perform (StoreCall.command valkeyAddress c))

/-! ## `ValkeyCartStore` -/

def cartFieldName : String := "cart"

/-- Opening a connection writes and reads a test value. -/
def ensureRedisConnected (valkeyAddress : String) : Throwing Unit := do
  let isRedisConnectionOpened ←
    ExceptT.lift (Program.perform (StoreCall.isConnectionOpened valkeyAddress))
  if isRedisConnectionOpened then
    return ()
  else
    ExceptT.mk (Program.perform (StoreCall.connect valkeyAddress))
    command valkeyAddress (.stringSet "cart" "OK")
    let _ ← command valkeyAddress (.stringGet "cart")

/-- The lines after a product was added; `SingleOrDefault` throws on a second match. -/
def addToItems (items : List CartItem) (productId : String) (quantity : Int32) :
    Except String (List CartItem) :=
  match items.filter fun i => i.productId == productId with
  | [] => .ok (items ++ [{ productId := productId, quantity := quantity }])
  | [_] => .ok (items.map fun i =>
      if i.productId == productId then { i with quantity := i.quantity + quantity } else i)
  | _ => .error "Sequence contains more than one matching element"

/-- The cart that `AddItemAsync` writes, from the value it has read. -/
def addToCart (userId : String) (value : Option Cart) (productId : String) (quantity : Int32) :
    Except String Cart :=
  match value with
  | none => .ok { userId := userId, items := [{ productId := productId, quantity := quantity }] }
  | some cart =>
    match addToItems cart.items productId quantity with
    | .ok items => .ok { cart with items := items }
    | .error ex => .error ex

/-- The catch of every operation of the store. -/
def catchAll {α : Type} (body : Throwing α) : Service (Except RpcException α) := do
  match ← body.run with
  | .ok a => return .ok a
  | .error ex => return .error { detail := "Can't access cart storage. " ++ ex }

def addItemAsync (valkeyAddress userId productId : String) (quantity : Int32) :
    Service (Except RpcException Unit) :=
  catchAll do
    ensureRedisConnected valkeyAddress
    let value ← command valkeyAddress (.hashGet userId cartFieldName)
    let cart ← ExceptT.mk (pure (addToCart userId value productId quantity))
    command valkeyAddress (.hashSet userId cartFieldName cart)
    command valkeyAddress (.keyExpire userId)

def emptyCartAsync (valkeyAddress userId : String) : Service (Except RpcException Unit) :=
  catchAll do
    ensureRedisConnected valkeyAddress
    command valkeyAddress (.hashSet userId cartFieldName {})
    command valkeyAddress (.keyExpire userId)

def getCartAsync (valkeyAddress userId : String) : Service (Except RpcException Cart) :=
  catchAll do
    ensureRedisConnected valkeyAddress
    let value ← command valkeyAddress (.hashGet userId cartFieldName)
    return value.getD {}

/-! ## `CartService` -/

def badAddress : String := "badhost:1234"

def addItem (valkeyAddress userId : String) (item : CartItem) :
    Service (Except RpcException Unit) :=
  addItemAsync valkeyAddress userId item.productId item.quantity

def getCart (valkeyAddress userId : String) : Service (Except RpcException Cart) :=
  getCartAsync valkeyAddress userId

def emptyCart (valkeyAddress userId : String) : Service (Except RpcException Unit) := do
  if ← Program.perform (StoreCall.booleanFlag "cartFailure") then
    emptyCartAsync badAddress userId
  else
    emptyCartAsync valkeyAddress userId

/-! ## Answers -/

/-- How calls may be answered when Valkey is at the given address: a connection can be opened
and used only there, and a command is executed or fails before it is. -/
def Answers (valkey : String) (db : Db) : (o : StoreCall) → StoreReply o → Db → Prop
  | .booleanFlag _, _, db' => db' = db
  | .isConnectionOpened address, opened, db' => db' = db ∧ (opened = true → address = valkey)
  | .connect address, reply, db' => db' = db ∧ (reply = .ok () → address = valkey)
  | .command address c, reply, db' =>
    (address = valkey ∧ (reply, db') = c.respond db) ∨ (db' = db ∧ ∃ err, reply = .error err)

/-- The answers while nothing fails, over open connections. -/
def respond (valkey : String) : (o : StoreCall) → Db → StoreReply o × Db
  | .booleanFlag _, db => (false, db)
  | .isConnectionOpened address, db => (decide (address = valkey), db)
  | .connect _, db => (.error "Wasn't able to connect to redis", db)
  | .command address c, db =>
    if address = valkey then c.respond db else (.error "No connection is active", db)

theorem answers_respond (valkey : String) (o : StoreCall) (db : Db) :
    Answers valkey db o (respond valkey o db).1 (respond valkey o db).2 := by
  cases o with
  | booleanFlag name => rfl
  | isConnectionOpened address => exact ⟨rfl, of_decide_eq_true⟩
  | connect address => exact ⟨rfl, by rintro ⟨⟩⟩
  | command address c =>
    by_cases haddress : address = valkey
    · have hrespond : respond valkey (.command address c) db = c.respond db := if_pos haddress
      rw [hrespond]
      exact .inl ⟨haddress, rfl⟩
    · have hrespond : respond valkey (.command address c) db =
          (.error "No connection is active", db) := if_neg haddress
      rw [hrespond]
      exact .inr ⟨rfl, _, rfl⟩

/-- The stored cart of a user. -/
def storedCart (db : Db) (userId : String) : Option Cart :=
  match db userId with
  | some (.hash fields) => fields cartFieldName
  | _ => none

/-- The lines of the stored cart of a user. -/
def storedItems (db : Db) (userId : String) : List CartItem :=
  match db userId with
  | some (.hash fields) => ((fields cartFieldName).map Cart.items).getD []
  | _ => []

/-- The quantity of a product in a list of lines. -/
def quantityOf (productId : String) (items : List CartItem) : Int :=
  ((items.filter fun i => i.productId == productId).map fun i => i.quantity.toInt).sum

end AstronomyShop.CartService

/-- The store without any cart. -/
def AstronomyShop.noCarts : AstronomyShop.CartService.Db := fun _ => none
