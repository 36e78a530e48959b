import AstronomyShop.Library.Double
import AstronomyShop.Library.Json

/-!
# The shipping service

`get_quote` of the shipping service: the JSON request is read into `GetQuoteRequest`, the
quantities are added up, the quote service is asked for the price of that many items, and
the price is split into dollars and cents. Arithmetic on `u32` wraps around, as it does in
a release build.

What a client can see of the endpoint is `QuoteAnswer`: actix answers a request that the
request type refuses with a status other than 200 and runs the handler otherwise; the
connection may fail at any time.
-/

namespace AstronomyShop.Shipping

open Wire ExactDouble

/-! ## Request and response types -/

structure CartItem where
  quantity : UInt32

structure Address where
  zipCode : String

structure GetQuoteRequest where
  items : List CartItem
  address : Option Address

structure Money where
  currencyCode : String
  units : UInt64
  nanos : UInt32

structure GetQuoteResponse where
  costUsd : Option Money

structure Quote where
  dollars : UInt64
  cents : UInt32

def readCartItem (j : Json) : Except Serde.Error CartItem := do
  let members ← Serde.structMembers ["quantity"] j
  let quantity ← Serde.required "quantity" (Serde.readUInt (2 ^ 32)) members
  return { quantity := .ofNat quantity }

def readAddress (j : Json) : Except Serde.Error Address := do
  let members ← Serde.structMembers ["zip_code"] j
  let zipCode ← Serde.required "zip_code" Serde.readString members
  return { zipCode }

def readGetQuoteRequest (j : Json) : Except Serde.Error GetQuoteRequest := do
  let members ← Serde.structMembers ["items", "address"] j
  let items ← Serde.required "items" (Serde.readVec readCartItem) members
  let address ← Serde.optional "address" readAddress members
  return { items, address }

def Money.toJson (m : Money) : Json :=
  .obj [("currency_code", .str m.currencyCode), ("units", .int m.units.toNat),
    ("nanos", .int m.nanos.toNat)]

def GetQuoteResponse.toJson (r : GetQuoteResponse) : Json :=
  .obj [("cost_usd", (r.costUsd.map Money.toJson).getD .null)]

/-! ## `get_quote` -/

def nanosMultiple : UInt32 := 10000000

def createQuoteFromFloat (value : Double) : Quote where
  dollars := .ofNat (value.floor.saturate (2 ^ 64))
  cents := .ofNat ((value * .finite 100).saturate (2 ^ 32)) % 100

/-- `request_quote`: what the quote service answers to a number of items. An error is any
failure on the way, up to an answer that is no number. -/
abbrev QuoteService := UInt32 → Except String Double

def createQuoteFromCount (quoteService : QuoteService) (count : UInt32) : Except String Quote :=
  match quoteService count with
  | .ok f => .ok (createQuoteFromFloat f)
  | .error err => .error err

def itemCount (req : GetQuoteRequest) : UInt32 :=
  (req.items.map CartItem.quantity).foldl (· + ·) 0

def getQuote (quoteService : QuoteService) (req : GetQuoteRequest) : Response :=
  match createQuoteFromCount quoteService (itemCount req) with
  | .error _ => ⟨500, .malformed⟩
  | .ok quote =>
    let reply : GetQuoteResponse :=
      { costUsd := some
          { currencyCode := "USD"
            units := quote.dollars
            nanos := quote.cents * nanosMultiple } }
    ⟨200, .json reply.toJson⟩

/-! ## `ship_order` -/

structure ShipOrderRequest where

structure ShipOrderResponse where
  trackingId : String

def readShipOrderRequest (j : Json) : Except Serde.Error ShipOrderRequest := do
  let _ ← Serde.structMembers [] j
  return {}

def ShipOrderResponse.toJson (r : ShipOrderResponse) : Json :=
  .obj [("tracking_id", .str r.trackingId)]

/-- `tid` is what `create_tracking_id` makes. -/
def shipOrder (_req : ShipOrderRequest) (tid : String) : Response :=
  let response : ShipOrderResponse := { trackingId := tid }
  ⟨200, .json response.toJson⟩

/-! ## What clients see -/

/-- What a client that posts `payload` to `/get-quote` can rely on, whatever gets lost or fails on
the way: status 200 means that the request type took the request. -/
def QuoteAnswer (payload : Json) (answer : Except String Response) : Prop :=
  ∀ resp, answer = .ok resp → resp.statusCode = 200 →
    ∃ req, readGetQuoteRequest payload = .ok req

/-- The answers of the handler are among these. -/
theorem quoteAnswer_getQuote {payload : Json} {req : GetQuoteRequest}
    (h : readGetQuoteRequest payload = .ok req) (quoteService : QuoteService) :
    QuoteAnswer payload (.ok (getQuote quoteService req)) :=
  fun _ _ _ => ⟨req, h⟩

/-- A refusal has another status. -/
theorem quoteAnswer_of_refused {payload : Json} {resp : Response} (h : resp.statusCode ≠ 200) :
    QuoteAnswer payload (.ok resp) := by
  rintro _ ⟨⟩ hstatus
  exact absurd hstatus h

end AstronomyShop.Shipping
