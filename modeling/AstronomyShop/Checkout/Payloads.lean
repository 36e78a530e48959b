import AstronomyShop.Messages
import AstronomyShop.Library.Json
import Mathlib.Algebra.Ring.Int.Defs

/-!
# The JSON that checkout sends and reads

The requests to the shipping and email services are maps that `encoding/json` prints with
sorted keys; their values are messages of the generated Go code, whose fields are all
tagged `omitempty`. A repeated field of a decoded message is a nil slice when it has no
element.
-/

namespace AstronomyShop

open Wire

/-! ## Requests -/

/-- A repeated field as the protobuf decoder leaves it. -/
def repeated {α : Type} : List α → Option (List α)
  | [] => none
  | as => some as

/-- A repeated field inside a message; it is tagged `omitempty`. -/
def omitEmptyRepeated {α : Type} (name : String) (enc : α → Json) (as : List α) :
    List (String × Json) :=
  Go.omitEmpty name as.isEmpty (.arr (as.map enc))

def CartItem.toJson (item : CartItem) : Json :=
  .obj (Go.omitEmptyString "product_id" item.productId ++
    Go.omitEmptyInt "quantity" item.quantity.toInt)

def Address.toJson (a : Address) : Json :=
  .obj (Go.omitEmptyString "street_address" a.streetAddress ++ Go.omitEmptyString "city" a.city ++
    Go.omitEmptyString "state" a.state ++ Go.omitEmptyString "country" a.country ++
    Go.omitEmptyString "zip_code" a.zipCode)

def Money.toJson (m : Money) : Json :=
  .obj (Go.omitEmptyString "currency_code" m.currencyCode ++
    Go.omitEmptyInt "units" m.units.toInt ++ Go.omitEmptyInt "nanos" m.nanos.toInt)

def OrderItem.toJson (it : OrderItem) : Json :=
  .obj [("item", it.item.toJson), ("cost", it.cost.toJson)]

def OrderResult.toJson (o : OrderResult) : Json :=
  .obj (Go.omitEmptyString "order_id" o.orderId ++
    Go.omitEmptyString "shipping_tracking_id" o.shippingTrackingId ++
    [("shipping_cost", o.shippingCost.toJson)] ++
    Go.omitEmptyPointer "shipping_address" Address.toJson o.shippingAddress ++
    omitEmptyRepeated "items" OrderItem.toJson o.items)

/-- The body of the posts to `/get-quote` and `/ship-order`. -/
def shippingPayload (address : Option Address) (items : List CartItem) : Json :=
  .obj [("address", Go.pointer Address.toJson address),
    ("items", Go.slice CartItem.toJson (repeated items))]

/-- The body of the post to `/send_order_confirmation`. -/
def emailPayload (email : String) (order : OrderResult) : Json :=
  .obj [("email", .str email), ("order", order.toJson)]

/-! ## Responses -/

/-- `Unmarshal` into a `pb.Money`. -/
def readMoney : Json → Money → Option Money :=
  Go.readStruct
    [("currency_code", Go.stringField fun v m => { m with currencyCode := v }),
      ("units", Go.intField (-2 ^ 63) (2 ^ 63) fun n m => { m with units := .ofInt n }),
      ("nanos", Go.intField (-2 ^ 31) (2 ^ 31) fun n m => { m with nanos := .ofInt n })]

/-- `quoteResp` of `quoteShipping`. -/
structure QuoteResp where
  costUsd : Option Money := none

def readQuoteResp (j : Json) : Option QuoteResp :=
  Go.readStruct
    [("cost_usd", Go.pointerField {} QuoteResp.costUsd (fun v r => { r with costUsd := v })
      readMoney)] j {}

/-- `shipResp` of `shipOrder`. -/
structure ShipResp where
  trackingID : String := ""

def readShipResp (j : Json) : Option ShipResp :=
  Go.readStruct [("tracking_id", Go.stringField fun v r => { r with trackingID := v })] j {}

end AstronomyShop
