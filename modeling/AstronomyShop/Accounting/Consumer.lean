import AstronomyShop.Messages
import AstronomyShop.Library.UnitOfWork

/-!
# The accounting consumer

`Consumer` reads orders from Kafka and stores each of them as one row of the table `order`, one of
`orderitem` for each item and one of `shipping`. One `DbContext` lives as long as the consumer:
the rows of an order are added to it one by one, and an exception on the way, or a failed
`SaveChanges` at the end, is logged and leaves them there.
-/

namespace AstronomyShop.Accounting

open UnitOfWork

/-! ## Messages -/

/-- `OrderItem` as the generated C# code has it: each sub-message may be unset. -/
structure OrderItem where
  item : Option CartItem := none
  cost : Option Money := none
  deriving DecidableEq

structure OrderResult where
  orderId : String := ""
  shippingTrackingId : String := ""
  shippingCost : Option Money := none
  shippingAddress : Option Address := none
  items : List OrderItem := []
  deriving DecidableEq

/-- A message, as what `OrderResult.Parser.ParseFrom` makes of its bytes or throws. -/
abbrev Message := Except String OrderResult

/-! ## Entities -/

structure OrderEntity where
  id : String
  deriving DecidableEq

structure OrderItemEntity where
  itemCostCurrencyCode : String
  itemCostUnits : Int64
  itemCostNanos : Int32
  productId : String
  quantity : Int32
  orderId : String
  deriving DecidableEq

structure ShippingEntity where
  shippingTrackingId : String
  shippingCostCurrencyCode : String
  shippingCostUnits : Int64
  shippingCostNanos : Int32
  streetAddress : String
  city : String
  state : String
  country : String
  zipCode : String
  orderId : String
  deriving DecidableEq

/-- A row of one of the three tables. -/
inductive Entity where
  | order (row : OrderEntity)
  | orderItem (row : OrderItemEntity)
  | shipping (row : ShippingEntity)
  deriving DecidableEq

/-- The primary key of a row in its table. -/
inductive Key where
  | order (id : String)
  | orderItem (productId orderId : String)
  | shipping (shippingTrackingId : String)
  deriving DecidableEq

def Entity.key : Entity → Key
  | order row => .order row.id
  | orderItem row => .orderItem row.productId row.orderId
  | shipping row => .shipping row.shippingTrackingId

def Entity.orderId : Entity → String
  | order row => row.id
  | orderItem row => row.orderId
  | shipping row => row.orderId

/-- The foreign keys: the order of a row. -/
def Entity.references : Entity → List Key
  | order _ => []
  | orderItem row => [.order row.orderId]
  | shipping row => [.order row.orderId]

/-- The tables of `init.sql`. What else the database requires of a row on its own is left
open. -/
def schema (admits : Entity → Bool) : Schema Entity Key where
  key := Entity.key
  references := Entity.references
  admits := admits

/-! ## `ProcessMessage` -/

variable {admits : Entity → Bool}

/-- Code that works on the change tracker and may throw. What is tracked by then stays. -/
abbrev Tracking (admits : Entity → Bool) := EStateM String (Tracker (schema admits))

/-- `DbContext.Add`. -/
def add (entity : Entity) : Tracking admits Unit := fun tracker =>
  match tracker.add entity with
  | some tracker' => .ok () tracker'
  | none => .error "another instance with the same key value is already being tracked" tracker

/-- Reading a field of a sub-message. -/
def sub {α : Type} (message : Option α) : Tracking admits α :=
  match message with
  | some a => pure a
  | none => throw "Object reference not set to an instance of an object."

def addItem (order : OrderResult) (item : OrderItem) : Tracking admits Unit := do
  let cost ← sub item.cost
  let product ← sub item.item
  add (.orderItem
    { itemCostCurrencyCode := cost.currencyCode
      itemCostUnits := cost.units
      itemCostNanos := cost.nanos
      productId := product.productId
      quantity := product.quantity
      orderId := order.orderId })

def addItems (order : OrderResult) : List OrderItem → Tracking admits Unit
  | [] => pure ()
  | item :: items => do
    addItem order item
    addItems order items

def addShipping (order : OrderResult) : Tracking admits Unit := do
  let shippingCost ← sub order.shippingCost
  let shippingAddress ← sub order.shippingAddress
  add (.shipping
    { shippingTrackingId := order.shippingTrackingId
      shippingCostCurrencyCode := shippingCost.currencyCode
      shippingCostUnits := shippingCost.units
      shippingCostNanos := shippingCost.nanos
      streetAddress := shippingAddress.streetAddress
      city := shippingAddress.city
      state := shippingAddress.state
      country := shippingAddress.country
      zipCode := shippingAddress.zipCode
      orderId := order.orderId })

/-- `ProcessMessage` before `SaveChanges`. -/
def track (order : OrderResult) : Tracking admits Unit := do
  add (.order { id := order.orderId })
  addItems order order.items
  addShipping order

/-- A message, with whether the database can be reached when it is processed. -/
structure Delivery where
  message : Message
  accepted : Bool

/-- `ProcessMessage` with a context; every exception is logged. -/
def process (c : DbContext (schema admits)) (delivery : Delivery) : DbContext (schema admits) :=
  match delivery.message with
  | .error _ => c
  | .ok order =>
    match (track order).run c.tracker with
    | .error _ tracker => { c with tracker := tracker }
    | .ok _ tracker =>
      (DbContext.saveChanges { c with tracker := tracker } delivery.accepted).getD
        { c with tracker := tracker }

/-- There is no context when `DB_CONNECTION_STRING` is not set. -/
structure Consumer (admits : Entity → Bool) where
  dbContext : Option (DbContext (schema admits))

def processMessage (consumer : Consumer admits) (delivery : Delivery) : Consumer admits :=
  { dbContext := consumer.dbContext.map fun c => process c delivery }

/-- The messages that a consumer gets, one after the other. -/
def processAll (tables : Tables (schema admits)) (deliveries : List Delivery) :
    DbContext (schema admits) :=
  deliveries.foldl process (DbContext.start tables)

theorem foldl_processMessage (c : DbContext (schema admits)) (deliveries : List Delivery) :
    deliveries.foldl processMessage { dbContext := some c } =
      { dbContext := some (deliveries.foldl process c) } := by
  induction deliveries generalizing c with
  | nil => rfl
  | cons delivery deliveries ih => exact ih (process c delivery)

end AstronomyShop.Accounting
