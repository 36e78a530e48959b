import AstronomyShop.Checkout.Payloads
import AstronomyShop.Checkout.Total
import AstronomyShop.Library.Program

/-!
# `PlaceOrder`

The handler of checkout as a program over the calls it makes (`Call`), each of which may
succeed or fail in any way its client can report (`Reply`). The definitions follow
`checkout/main.go` function by function; spans, logs and metrics are left out.

A Go error is kept as its format with the operands (`GoError`), unrendered. A nil slice and
an empty one are both the empty list. The handler ends in a response, in an error status, or
in a panic (`Outcome`).
-/

namespace AstronomyShop

open Interaction Wire

/-! ## Errors and outcomes -/

/-- An error from outside, or one of `fmt.Errorf`, with the error it wraps as last operand. -/
inductive GoError where
  | external (text : String)
  | errorf (format : String) (operands : List String)
  | wrapf (format : String) (cause : GoError)
  deriving DecidableEq, Repr

inductive Code where
  | internal
  | unavailable
  deriving DecidableEq, Repr

/-- A status error. In `verbatim` the text of the error is itself the format. -/
inductive Status where
  | errorf (code : Code) (format : String)
  | wrapf (code : Code) (format : String) (cause : GoError)
  | verbatim (code : Code) (err : GoError)
  deriving DecidableEq, Repr

def Status.code : Status → Code
  | errorf code _ => code
  | wrapf code _ _ => code
  | verbatim code _ => code

/-- `Must` on an error of the package `money`, or a call on the nil Kafka producer. -/
inductive Panic where
  | money (err : Money.Error)
  | nilKafkaProducer
  deriving DecidableEq, Repr

inductive Outcome where
  | returned (order : OrderResult)
  | failed (status : Status)
  | panicked (cause : Panic)
  deriving DecidableEq, Repr

/-! ## Calls and replies -/

/-- What the select statement of `sendToPostProcessor` ends with. -/
inductive KafkaReply where
  | success (offset : Int64)
  | error (err : String)
  | cancelledWaiting
  | cancelledSending
  deriving DecidableEq, Repr

inductive Call where
  | newUUID
  | getCart (userId : String)
  | getProduct (id : String)
  | convert (source : Option Money) (toCode : String)
  | getQuote (payload : Json)
  | booleanFlag (name : String)
  | charge (svcAddr : String) (amount : Money) (creditCard : Option CreditCardInfo)
  | shipOrder (payload : Json)
  | emptyCart (userId : String)
  | sendOrderConfirmation (payload : Json)
  | kafkaSend (message : OrderResult)
  | intFlag (name : String)
  | kafkaFlood (message : OrderResult) (count : Int)

/-- A failed call is reported with a text. -/
abbrev Reply : Call → Type
  | .newUUID => Except String String
  | .getCart _ => Except String Cart
  | .getProduct _ => Except String Product
  | .convert _ _ => Except String Money
  | .getQuote _ => Except String Response
  | .booleanFlag _ => Bool
  | .charge _ _ _ => Except String String
  | .shipOrder _ => Except String Response
  | .emptyCart _ => Except String Unit
  | .sendOrderConfirmation _ => Except String Response
  | .kafkaSend _ => KafkaReply
  | .intFlag _ => Int
  | .kafkaFlood _ _ => Unit

instance : (o : Call) → Inhabited (Reply o)
  | .newUUID => ⟨.error ""⟩
  | .getCart _ => ⟨.error ""⟩
  | .getProduct _ => ⟨.error ""⟩
  | .convert _ _ => ⟨.error ""⟩
  | .getQuote _ => ⟨.error ""⟩
  | .booleanFlag _ => ⟨false⟩
  | .charge _ _ _ => ⟨.error ""⟩
  | .shipOrder _ => ⟨.error ""⟩
  | .emptyCart _ => ⟨.error ""⟩
  | .sendOrderConfirmation _ => ⟨.error ""⟩
  | .kafkaSend _ => ⟨.cancelledSending⟩
  | .intFlag _ => ⟨0⟩
  | .kafkaFlood _ _ => ⟨()⟩

abbrev Checkout := Program Call Reply

abbrev CheckoutEvent := Event Reply

abbrev call (o : Call) : Checkout (Reply o) := Program.perform o

/-- The settings of the service that `PlaceOrder` reads. `kafkaProducerCreated` is whether
`KafkaProducerClient` is set. -/
structure CheckoutService where
  paymentSvcAddr : String := ""
  kafkaBrokerSvcAddr : String := ""
  kafkaProducerCreated : Bool := false

/-! ## The functions of the service -/

/-- How `quoteShipping` reads the answer to its post. -/
def readQuoteAnswer (answer : Except String Response) : Except GoError Money :=
  match answer with
  | .error err => .error (.wrapf "failed POST to shipping service: %+v" (.external err))
  | .ok resp =>
    if resp.statusCode ≠ 200 then
      .error (.errorf "failed POST to email service: expected 200, got %d"
        [toString resp.statusCode])
    else
      match resp.body with
      | .unreadable => .error (.errorf "failed to read shipping quote response: %+v" [])
      | .malformed => .error (.errorf "failed to unmarshal shipping quote: %+v" [])
      | .json j =>
        match readQuoteResp j with
        | none => .error (.errorf "failed to unmarshal shipping quote: %+v" [])
        | some quoteResp =>
          match quoteResp.costUsd with
          | none => .error (.errorf "shipping quote missing cost_usd field" [])
          | some costUsd => .ok costUsd

def quoteShipping (address : Option Address) (items : List CartItem) :
    Checkout (Except GoError Money) := do
  let answer ← call (.getQuote (shippingPayload address items))
  return readQuoteAnswer answer

def getUserCart (userID : String) : Checkout (Except GoError (List CartItem)) := do
  match ← call (.getCart userID) with
  | .error err =>
    return .error (.wrapf "failed to get user cart during checkout: %+v" (.external err))
  | .ok cart => return .ok cart.items

def emptyUserCart (userID : String) : Checkout (Except GoError Unit) := do
  match ← call (.emptyCart userID) with
  | .error err =>
    return .error (.wrapf "failed to empty user cart during checkout: %+v" (.external err))
  | .ok () => return .ok ()

def convertCurrency (source : Option Money) (toCurrency : String) :
    Checkout (Except GoError Money) := do
  match ← call (.convert source toCurrency) with
  | .error err => return .error (.wrapf "failed to convert currency: %+v" (.external err))
  | .ok result => return .ok result

/-- The loop over the cart lines; the lines before are in the result already. -/
def prepOrderItems : List CartItem → String → Checkout (Except GoError (List OrderItem))
  | [], _ => return .ok []
  | item :: items, userCurrency => do
    match ← call (.getProduct item.productId) with
    | .error _ => return .error (.errorf "failed to get product #%q" [item.productId])
    | .ok product =>
      match ← convertCurrency product.priceUsd userCurrency with
      | .error _ =>
        return .error (.errorf "failed to convert price of %q to %s" [item.productId, userCurrency])
      | .ok price =>
        match ← prepOrderItems items userCurrency with
        | .error err => return .error err
        | .ok out => return .ok ({ item := item, cost := price } :: out)

structure OrderPrep where
  orderItems : List OrderItem
  cartItems : List CartItem
  shippingCostLocalized : Money
  deriving DecidableEq, Repr

def prepareOrderItemsAndShippingQuoteFromCart (userID userCurrency : String)
    (address : Option Address) : Checkout (Except GoError OrderPrep) := do
  match ← getUserCart userID with
  | .error err => return .error (.wrapf "cart failure: %+v" err)
  | .ok cartItems =>
    match ← prepOrderItems cartItems userCurrency with
    | .error err => return .error (.wrapf "failed to prepare order: %+v" err)
    | .ok orderItems =>
      match ← quoteShipping address cartItems with
      | .error err => return .error (.wrapf "shipping quote failure: %+v" err)
      | .ok shippingUSD =>
        match ← convertCurrency (some shippingUSD) userCurrency with
        | .error err =>
          return .error (.wrapf "failed to convert shipping cost to currency: %+v" err)
        | .ok shippingPrice =>
          return .ok
            { orderItems := orderItems
              cartItems := cartItems
              shippingCostLocalized := shippingPrice }

def chargeCard (cs : CheckoutService) (amount : Money) (paymentInfo : Option CreditCardInfo) :
    Checkout (Except GoError String) := do
  let paymentUnreachable ← call (.booleanFlag "paymentUnreachable")
  let svcAddr := if paymentUnreachable then "badAddress:50051" else cs.paymentSvcAddr
  match ← call (.charge svcAddr amount paymentInfo) with
  | .error err => return .error (.wrapf "could not charge the card: %+v" (.external err))
  | .ok transactionId => return .ok transactionId

/-- How `shipOrder` reads the answer to its post. -/
def readShipAnswer (answer : Except String Response) : Except GoError String :=
  match answer with
  | .error err => .error (.wrapf "failed POST to shipping service: %+v" (.external err))
  | .ok resp =>
    if resp.statusCode ≠ 200 then
      .error (.errorf "failed POST to email service: expected 200, got %d"
        [toString resp.statusCode])
    else
      match resp.body with
      | .unreadable => .error (.errorf "failed to read ship order response: %+v" [])
      | .malformed => .error (.errorf "failed to unmarshal ship order response: %+v" [])
      | .json j =>
        match readShipResp j with
        | none => .error (.errorf "failed to unmarshal ship order response: %+v" [])
        | some shipResp =>
          if shipResp.trackingID = "" then
            .error (.errorf "ship order response missing tracking_id field" [])
          else
            .ok shipResp.trackingID

def shipOrder (address : Option Address) (items : List CartItem) :
    Checkout (Except GoError String) := do
  let answer ← call (.shipOrder (shippingPayload address items))
  return readShipAnswer answer

def sendOrderConfirmation (email : String) (order : OrderResult) :
    Checkout (Except GoError Unit) := do
  match ← call (.sendOrderConfirmation (emailPayload email order)) with
  | .error err => return .error (.wrapf "failed POST to email service: %+v" (.external err))
  | .ok resp =>
    if resp.statusCode ≠ 200 then
      return .error (.errorf "failed POST to email service: expected 200, got %d"
        [toString resp.statusCode])
    else
      return .ok ()

/-- Only a send that is cancelled before the producer takes the message returns early. -/
def sendToPostProcessor (result : OrderResult) : Checkout Unit := do
  match ← call (.kafkaSend result) with
  | .cancelledSending => return ()
  | _ =>
    let ffValue ← call (.intFlag "kafkaQueueProblems")
    if 0 < ffValue then
      call (.kafkaFlood result ffValue)

/-! ## `PlaceOrder` -/

/-- `PlaceOrder` from a shipped order on. -/
def completeOrder (cs : CheckoutService) (req : PlaceOrderRequest) (orderID : String)
    (prep : OrderPrep) (shippingTrackingID : String) : Checkout Outcome := do
  let _ ← emptyUserCart req.userId
  let orderResult : OrderResult :=
    { orderId := orderID
      shippingTrackingId := shippingTrackingID
      shippingCost := prep.shippingCostLocalized
      shippingAddress := req.address
      items := prep.orderItems }
  let _ ← sendOrderConfirmation req.email orderResult
  if cs.kafkaBrokerSvcAddr ≠ "" then
    if cs.kafkaProducerCreated then
      sendToPostProcessor orderResult
      return .returned orderResult
    else
      return .panicked .nilKafkaProducer
  else
    return .returned orderResult

/-- `PlaceOrder` from a prepared order on: total, charge, shipment. -/
def chargeAndShip (cs : CheckoutService) (req : PlaceOrderRequest) (orderID : String)
    (prep : OrderPrep) : Checkout Outcome := do
  match orderTotal req.userCurrency prep.shippingCostLocalized prep.orderItems with
  | .error err => return .panicked (.money err)
  | .ok total =>
    match ← chargeCard cs total req.creditCard with
    | .error err => return .failed (.wrapf .internal "failed to charge card: %+v" err)
    | .ok _ =>
      match ← shipOrder req.address prep.cartItems with
      | .error err => return .failed (.wrapf .unavailable "shipping error: %+v" err)
      | .ok shippingTrackingID => completeOrder cs req orderID prep shippingTrackingID

def placeOrder (cs : CheckoutService) (req : PlaceOrderRequest) : Checkout Outcome := do
  match ← call .newUUID with
  | .error _ => return .failed (.errorf .internal "failed to generate order uuid")
  | .ok orderID =>
    match ← prepareOrderItemsAndShippingQuoteFromCart req.userId req.userCurrency req.address with
    | .error err => return .failed (.verbatim .internal err)
    | .ok prep => chargeAndShip cs req orderID prep

end AstronomyShop
