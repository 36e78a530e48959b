import AstronomyShop.Accounting.Consumer
import AstronomyShop.Frontend.Prices
import AstronomyShop.Library.Varint

/-!
# The messages of the frontend

What `protos/demo.ts` makes of the messages of `pb/demo.proto`. A number of an `int64` field has to
be a safe integer, otherwise its decoder throws. How single values are written and read is left to
`@bufbuild/protobuf`.
-/

namespace AstronomyShop.Protos

open TaggedFields
open Frontend (longToNumber maxSafeInteger)

/-- What `longToNumber` throws. -/
def Unsafe (err : String) : Prop :=
  err = "Value is larger than Number.MAX_SAFE_INTEGER" ∨
    err = "Value is smaller than Number.MIN_SAFE_INTEGER"

def SafeInteger (n : Int64) : Prop := n.toInt.natAbs ≤ maxSafeInteger

theorem longToNumber_safe {n : Int64} (h : SafeInteger n) :
    longToNumber n = .ok (.ofInt n.toInt) := by
  unfold SafeInteger at h
  rw [longToNumber, if_neg (by omega), if_neg (by omega)]

theorem longToNumber_unsafe {n : Int64} (h : ¬ SafeInteger n) :
    ∃ err, Unsafe err ∧ longToNumber n = .error err := by
  unfold SafeInteger at h
  unfold longToNumber
  by_cases hlarge : maxSafeInteger < n.toInt
  · exact ⟨_, .inl rfl, if_pos hlarge⟩
  · refine ⟨_, .inr rfl, ?_⟩
    rw [if_neg hlarge, if_pos (by omega)]

/-- An `int64` field. A number that is read is held exactly. -/
def int64Codec (F : BinaryFormat) : Codec Unsafe Int64 where
  write := F.int64
  read bs :=
    match F.readInt64 bs with
    | .error err => .error err
    | .ok (n, bs) => (longToNumber n).map fun _ => (n, bs)
  Readable := SafeInteger
  reads n h _ rest := by
    rw [F.readInt64_int64]
    simp only [longToNumber_safe h, Except.map]
  refuses n h _ rest := by
    obtain ⟨err, herr, hthrow⟩ := longToNumber_unsafe h
    refine ⟨err, herr, ?_⟩
    rw [F.readInt64_int64]
    simp only [hthrow, Except.map]

/-! ## Fields -/

section

variable {M α : Type} (F : BinaryFormat) (number : Nat)

abbrev stringField (get : M → String) (set : String → M → M) : Field Unsafe M :=
  .scalar number 2 F.stringCodec "" get set

abbrev int32Field (get : M → Int32) (set : Int32 → M → M) : Field Unsafe M :=
  .scalar number 0 F.int32Codec 0 get set

abbrev boolField (get : M → Bool) (set : Bool → M → M) : Field Unsafe M :=
  .scalar number 0 F.boolCodec false get set

abbrev int64Field (get : M → Int64) (set : Int64 → M → M) : Field Unsafe M :=
  .scalar number 0 (int64Codec F) 0 get set

abbrev messageField (T : MessageType Unsafe α) (get : M → Option α) (set : Option α → M → M) :
    Field Unsafe M :=
  .optional number 2 (T.codec F) get set

abbrev messagesField (T : MessageType Unsafe α) (get : M → List α) (set : List α → M → M) :
    Field Unsafe M :=
  .repeated number 2 (T.codec F) get set

abbrev stringsField (get : M → List String) (set : List String → M → M) : Field Unsafe M :=
  .repeated number 2 F.stringCodec get set

end

/-! ## Messages -/

structure AddItemRequest where
  userId : String := ""
  item : Option CartItem := none
  deriving DecidableEq

structure EmptyCartRequest where
  userId : String := ""
  deriving DecidableEq

structure GetCartRequest where
  userId : String := ""
  deriving DecidableEq

protected structure Empty where
  deriving DecidableEq

structure ListRecommendationsRequest where
  userId : String := ""
  productIds : List String := []
  deriving DecidableEq

structure ListRecommendationsResponse where
  productIds : List String := []
  deriving DecidableEq

structure ListProductsResponse where
  products : List Product := []
  deriving DecidableEq

structure GetProductRequest where
  id : String := ""
  deriving DecidableEq

structure SearchProductsRequest where
  query : String := ""
  deriving DecidableEq

structure SearchProductsResponse where
  results : List Product := []
  deriving DecidableEq

structure GetQuoteRequest where
  address : Option Address := none
  items : List CartItem := []
  deriving DecidableEq

structure GetQuoteResponse where
  costUsd : Option Money := none
  deriving DecidableEq

structure ShipOrderRequest where
  address : Option Address := none
  items : List CartItem := []
  deriving DecidableEq

structure ShipOrderResponse where
  trackingId : String := ""
  deriving DecidableEq

structure GetSupportedCurrenciesResponse where
  currencyCodes : List String := []
  deriving DecidableEq

structure CurrencyConversionRequest where
  source : Option Money := none
  toCode : String := ""
  deriving DecidableEq

structure ChargeRequest where
  amount : Option Money := none
  creditCard : Option CreditCardInfo := none
  deriving DecidableEq

structure ChargeResponse where
  transactionId : String := ""
  deriving DecidableEq

structure SendOrderConfirmationRequest where
  email : String := ""
  order : Option Accounting.OrderResult := none
  deriving DecidableEq

structure PlaceOrderResponse where
  order : Option Accounting.OrderResult := none
  deriving DecidableEq

structure AdRequest where
  contextKeys : List String := []
  deriving DecidableEq

structure Ad where
  redirectUrl : String := ""
  text : String := ""
  deriving DecidableEq

structure AdResponse where
  ads : List Ad := []
  deriving DecidableEq

structure Flag where
  name : String := ""
  description : String := ""
  enabled : Bool := false
  deriving DecidableEq

structure GetFlagRequest where
  name : String := ""
  deriving DecidableEq

structure GetFlagResponse where
  flag : Option Flag := none
  deriving DecidableEq

structure CreateFlagRequest where
  name : String := ""
  description : String := ""
  enabled : Bool := false
  deriving DecidableEq

structure CreateFlagResponse where
  flag : Option Flag := none
  deriving DecidableEq

structure UpdateFlagRequest where
  name : String := ""
  enabled : Bool := false
  deriving DecidableEq

structure UpdateFlagResponse where
  deriving DecidableEq

structure ListFlagsRequest where
  deriving DecidableEq

structure ListFlagsResponse where
  flag : List Flag := []
  deriving DecidableEq

structure DeleteFlagRequest where
  name : String := ""
  deriving DecidableEq

structure DeleteFlagResponse where
  deriving DecidableEq

variable (F : BinaryFormat)

def cartItem : MessageType Unsafe CartItem where
  base := {}
  fields :=
    [stringField F 1 CartItem.productId fun a m => { m with productId := a },
      int32Field F 2 CartItem.quantity fun a m => { m with quantity := a }]
  restored _ := .scalar rfl (.scalar rfl (.nil _))

def addItemRequest : MessageType Unsafe AddItemRequest where
  base := {}
  fields :=
    [stringField F 1 AddItemRequest.userId fun a m => { m with userId := a },
      messageField F 2 (cartItem F) AddItemRequest.item fun a m => { m with item := a }]
  restored _ := .scalar rfl (.optional rfl (.nil _))

def emptyCartRequest : MessageType Unsafe EmptyCartRequest where
  base := {}
  fields :=
    [stringField F 1 EmptyCartRequest.userId fun a m => { m with userId := a }]
  restored _ := .scalar rfl (.nil _)

def getCartRequest : MessageType Unsafe GetCartRequest where
  base := {}
  fields :=
    [stringField F 1 GetCartRequest.userId fun a m => { m with userId := a }]
  restored _ := .scalar rfl (.nil _)

def cart : MessageType Unsafe Cart where
  base := {}
  fields :=
    [stringField F 1 Cart.userId fun a m => { m with userId := a },
      messagesField F 2 (cartItem F) Cart.items fun as m => { m with items := as }]
  restored _ :=
    .scalar rfl (.repeated rfl (fun _ _ => rfl) (fun _ _ _ => rfl) (.nil _))

def empty : MessageType Unsafe Protos.Empty where
  base := {}
  fields := []
  restored _ := .nil _

def listRecommendationsRequest : MessageType Unsafe ListRecommendationsRequest where
  base := {}
  fields :=
    [stringField F 1 ListRecommendationsRequest.userId fun a m => { m with userId := a },
      stringsField F 2 ListRecommendationsRequest.productIds
        fun as m => { m with productIds := as }]
  restored _ :=
    .scalar rfl (.repeated rfl (fun _ _ => rfl) (fun _ _ _ => rfl) (.nil _))

def listRecommendationsResponse : MessageType Unsafe ListRecommendationsResponse where
  base := {}
  fields :=
    [stringsField F 1 ListRecommendationsResponse.productIds
      fun as m => { m with productIds := as }]
  restored _ := .repeated rfl (fun _ _ => rfl) (fun _ _ _ => rfl) (.nil _)

def money : MessageType Unsafe Money where
  base := {}
  fields :=
    [stringField F 1 Money.currencyCode fun a m => { m with currencyCode := a },
      int64Field F 2 Money.units fun a m => { m with units := a },
      int32Field F 3 Money.nanos fun a m => { m with nanos := a }]
  restored _ := .scalar rfl (.scalar rfl (.scalar rfl (.nil _)))

def product : MessageType Unsafe Product where
  base := {}
  fields :=
    [stringField F 1 Product.id fun a m => { m with id := a },
      stringField F 2 Product.name fun a m => { m with name := a },
      stringField F 3 Product.description fun a m => { m with description := a },
      stringField F 4 Product.picture fun a m => { m with picture := a },
      messageField F 5 (money F) Product.priceUsd fun a m => { m with priceUsd := a },
      stringsField F 6 Product.categories fun as m => { m with categories := as }]
  restored _ := .scalar rfl (.scalar rfl (.scalar rfl (.scalar rfl (.optional rfl
    (.repeated rfl (fun _ _ => rfl) (fun _ _ _ => rfl) (.nil _))))))

def listProductsResponse : MessageType Unsafe ListProductsResponse where
  base := {}
  fields :=
    [messagesField F 1 (product F) ListProductsResponse.products
      fun as m => { m with products := as }]
  restored _ := .repeated rfl (fun _ _ => rfl) (fun _ _ _ => rfl) (.nil _)

def getProductRequest : MessageType Unsafe GetProductRequest where
  base := {}
  fields :=
    [stringField F 1 GetProductRequest.id fun a m => { m with id := a }]
  restored _ := .scalar rfl (.nil _)

def searchProductsRequest : MessageType Unsafe SearchProductsRequest where
  base := {}
  fields :=
    [stringField F 1 SearchProductsRequest.query fun a m => { m with query := a }]
  restored _ := .scalar rfl (.nil _)

def searchProductsResponse : MessageType Unsafe SearchProductsResponse where
  base := {}
  fields :=
    [messagesField F 1 (product F) SearchProductsResponse.results
      fun as m => { m with results := as }]
  restored _ := .repeated rfl (fun _ _ => rfl) (fun _ _ _ => rfl) (.nil _)

def address : MessageType Unsafe Address where
  base := {}
  fields :=
    [stringField F 1 Address.streetAddress fun a m => { m with streetAddress := a },
      stringField F 2 Address.city fun a m => { m with city := a },
      stringField F 3 Address.state fun a m => { m with state := a },
      stringField F 4 Address.country fun a m => { m with country := a },
      stringField F 5 Address.zipCode fun a m => { m with zipCode := a }]
  restored _ :=
    .scalar rfl (.scalar rfl (.scalar rfl (.scalar rfl (.scalar rfl (.nil _)))))

def getQuoteRequest : MessageType Unsafe GetQuoteRequest where
  base := {}
  fields :=
    [messageField F 1 (address F) GetQuoteRequest.address fun a m => { m with address := a },
      messagesField F 2 (cartItem F) GetQuoteRequest.items fun as m => { m with items := as }]
  restored _ :=
    .optional rfl (.repeated rfl (fun _ _ => rfl) (fun _ _ _ => rfl) (.nil _))

def getQuoteResponse : MessageType Unsafe GetQuoteResponse where
  base := {}
  fields :=
    [messageField F 1 (money F) GetQuoteResponse.costUsd fun a m => { m with costUsd := a }]
  restored _ := .optional rfl (.nil _)

def shipOrderRequest : MessageType Unsafe ShipOrderRequest where
  base := {}
  fields :=
    [messageField F 1 (address F) ShipOrderRequest.address fun a m => { m with address := a },
      messagesField F 2 (cartItem F) ShipOrderRequest.items fun as m => { m with items := as }]
  restored _ :=
    .optional rfl (.repeated rfl (fun _ _ => rfl) (fun _ _ _ => rfl) (.nil _))

def shipOrderResponse : MessageType Unsafe ShipOrderResponse where
  base := {}
  fields :=
    [stringField F 1 ShipOrderResponse.trackingId fun a m => { m with trackingId := a }]
  restored _ := .scalar rfl (.nil _)

def getSupportedCurrenciesResponse : MessageType Unsafe GetSupportedCurrenciesResponse where
  base := {}
  fields :=
    [stringsField F 1 GetSupportedCurrenciesResponse.currencyCodes
      fun as m => { m with currencyCodes := as }]
  restored _ := .repeated rfl (fun _ _ => rfl) (fun _ _ _ => rfl) (.nil _)

def currencyConversionRequest : MessageType Unsafe CurrencyConversionRequest where
  base := {}
  fields :=
    [messageField F 1 (money F) CurrencyConversionRequest.source
        fun a m => { m with source := a },
      stringField F 2 CurrencyConversionRequest.toCode fun a m => { m with toCode := a }]
  restored _ := .optional rfl (.scalar rfl (.nil _))

def creditCardInfo : MessageType Unsafe CreditCardInfo where
  base := {}
  fields :=
    [stringField F 1 CreditCardInfo.creditCardNumber
        fun a m => { m with creditCardNumber := a },
      int32Field F 2 CreditCardInfo.creditCardCvv fun a m => { m with creditCardCvv := a },
      int32Field F 3 CreditCardInfo.creditCardExpirationYear
        fun a m => { m with creditCardExpirationYear := a },
      int32Field F 4 CreditCardInfo.creditCardExpirationMonth
        fun a m => { m with creditCardExpirationMonth := a }]
  restored _ := .scalar rfl (.scalar rfl (.scalar rfl (.scalar rfl (.nil _))))

def chargeRequest : MessageType Unsafe ChargeRequest where
  base := {}
  fields :=
    [messageField F 1 (money F) ChargeRequest.amount fun a m => { m with amount := a },
      messageField F 2 (creditCardInfo F) ChargeRequest.creditCard
        fun a m => { m with creditCard := a }]
  restored _ := .optional rfl (.optional rfl (.nil _))

def chargeResponse : MessageType Unsafe ChargeResponse where
  base := {}
  fields :=
    [stringField F 1 ChargeResponse.transactionId fun a m => { m with transactionId := a }]
  restored _ := .scalar rfl (.nil _)

def orderItem : MessageType Unsafe Accounting.OrderItem where
  base := {}
  fields :=
    [messageField F 1 (cartItem F) Accounting.OrderItem.item fun a m => { m with item := a },
      messageField F 2 (money F) Accounting.OrderItem.cost fun a m => { m with cost := a }]
  restored _ := .optional rfl (.optional rfl (.nil _))

def orderResult : MessageType Unsafe Accounting.OrderResult where
  base := {}
  fields :=
    [stringField F 1 Accounting.OrderResult.orderId fun a m => { m with orderId := a },
      stringField F 2 Accounting.OrderResult.shippingTrackingId
        fun a m => { m with shippingTrackingId := a },
      messageField F 3 (money F) Accounting.OrderResult.shippingCost
        fun a m => { m with shippingCost := a },
      messageField F 4 (address F) Accounting.OrderResult.shippingAddress
        fun a m => { m with shippingAddress := a },
      messagesField F 5 (orderItem F) Accounting.OrderResult.items
        fun as m => { m with items := as }]
  restored _ := .scalar rfl (.scalar rfl (.optional rfl (.optional rfl
    (.repeated rfl (fun _ _ => rfl) (fun _ _ _ => rfl) (.nil _)))))

def sendOrderConfirmationRequest : MessageType Unsafe SendOrderConfirmationRequest where
  base := {}
  fields :=
    [stringField F 1 SendOrderConfirmationRequest.email fun a m => { m with email := a },
      messageField F 2 (orderResult F) SendOrderConfirmationRequest.order
        fun a m => { m with order := a }]
  restored _ := .scalar rfl (.optional rfl (.nil _))

/-- The number 4 is not in use. -/
def placeOrderRequest : MessageType Unsafe PlaceOrderRequest where
  base := {}
  fields :=
    [stringField F 1 PlaceOrderRequest.userId fun a m => { m with userId := a },
      stringField F 2 PlaceOrderRequest.userCurrency fun a m => { m with userCurrency := a },
      messageField F 3 (address F) PlaceOrderRequest.address
        fun a m => { m with address := a },
      stringField F 5 PlaceOrderRequest.email fun a m => { m with email := a },
      messageField F 6 (creditCardInfo F) PlaceOrderRequest.creditCard
        fun a m => { m with creditCard := a }]
  restored _ :=
    .scalar rfl (.scalar rfl (.optional rfl (.scalar rfl (.optional rfl (.nil _)))))

def placeOrderResponse : MessageType Unsafe PlaceOrderResponse where
  base := {}
  fields :=
    [messageField F 1 (orderResult F) PlaceOrderResponse.order
      fun a m => { m with order := a }]
  restored _ := .optional rfl (.nil _)

def adRequest : MessageType Unsafe AdRequest where
  base := {}
  fields :=
    [stringsField F 1 AdRequest.contextKeys fun as m => { m with contextKeys := as }]
  restored _ := .repeated rfl (fun _ _ => rfl) (fun _ _ _ => rfl) (.nil _)

def ad : MessageType Unsafe Ad where
  base := {}
  fields :=
    [stringField F 1 Ad.redirectUrl fun a m => { m with redirectUrl := a },
      stringField F 2 Ad.text fun a m => { m with text := a }]
  restored _ := .scalar rfl (.scalar rfl (.nil _))

def adResponse : MessageType Unsafe AdResponse where
  base := {}
  fields := [messagesField F 1 (ad F) AdResponse.ads fun as m => { m with ads := as }]
  restored _ := .repeated rfl (fun _ _ => rfl) (fun _ _ _ => rfl) (.nil _)

def flag : MessageType Unsafe Flag where
  base := {}
  fields :=
    [stringField F 1 Flag.name fun a m => { m with name := a },
      stringField F 2 Flag.description fun a m => { m with description := a },
      boolField F 3 Flag.enabled fun a m => { m with enabled := a }]
  restored _ := .scalar rfl (.scalar rfl (.scalar rfl (.nil _)))

def getFlagRequest : MessageType Unsafe GetFlagRequest where
  base := {}
  fields :=
    [stringField F 1 GetFlagRequest.name fun a m => { m with name := a }]
  restored _ := .scalar rfl (.nil _)

def getFlagResponse : MessageType Unsafe GetFlagResponse where
  base := {}
  fields :=
    [messageField F 1 (flag F) GetFlagResponse.flag fun a m => { m with flag := a }]
  restored _ := .optional rfl (.nil _)

def createFlagRequest : MessageType Unsafe CreateFlagRequest where
  base := {}
  fields :=
    [stringField F 1 CreateFlagRequest.name fun a m => { m with name := a },
      stringField F 2 CreateFlagRequest.description fun a m => { m with description := a },
      boolField F 3 CreateFlagRequest.enabled fun a m => { m with enabled := a }]
  restored _ := .scalar rfl (.scalar rfl (.scalar rfl (.nil _)))

def createFlagResponse : MessageType Unsafe CreateFlagResponse where
  base := {}
  fields :=
    [messageField F 1 (flag F) CreateFlagResponse.flag fun a m => { m with flag := a }]
  restored _ := .optional rfl (.nil _)

def updateFlagRequest : MessageType Unsafe UpdateFlagRequest where
  base := {}
  fields :=
    [stringField F 1 UpdateFlagRequest.name fun a m => { m with name := a },
      boolField F 2 UpdateFlagRequest.enabled fun a m => { m with enabled := a }]
  restored _ := .scalar rfl (.scalar rfl (.nil _))

def updateFlagResponse : MessageType Unsafe UpdateFlagResponse where
  base := {}
  fields := []
  restored _ := .nil _

def listFlagsRequest : MessageType Unsafe ListFlagsRequest where
  base := {}
  fields := []
  restored _ := .nil _

def listFlagsResponse : MessageType Unsafe ListFlagsResponse where
  base := {}
  fields :=
    [messagesField F 1 (flag F) ListFlagsResponse.flag fun as m => { m with flag := as }]
  restored _ := .repeated rfl (fun _ _ => rfl) (fun _ _ _ => rfl) (.nil _)

def deleteFlagRequest : MessageType Unsafe DeleteFlagRequest where
  base := {}
  fields :=
    [stringField F 1 DeleteFlagRequest.name fun a m => { m with name := a }]
  restored _ := .scalar rfl (.nil _)

def deleteFlagResponse : MessageType Unsafe DeleteFlagResponse where
  base := {}
  fields := []
  restored _ := .nil _

/-! ## All messages -/

inductive MessageName where
  | cartItem
  | addItemRequest
  | emptyCartRequest
  | getCartRequest
  | cart
  | empty
  | listRecommendationsRequest
  | listRecommendationsResponse
  | product
  | listProductsResponse
  | getProductRequest
  | searchProductsRequest
  | searchProductsResponse
  | getQuoteRequest
  | getQuoteResponse
  | shipOrderRequest
  | shipOrderResponse
  | address
  | money
  | getSupportedCurrenciesResponse
  | currencyConversionRequest
  | creditCardInfo
  | chargeRequest
  | chargeResponse
  | orderItem
  | orderResult
  | sendOrderConfirmationRequest
  | placeOrderRequest
  | placeOrderResponse
  | adRequest
  | adResponse
  | ad
  | flag
  | getFlagRequest
  | getFlagResponse
  | createFlagRequest
  | createFlagResponse
  | updateFlagRequest
  | updateFlagResponse
  | listFlagsRequest
  | listFlagsResponse
  | deleteFlagRequest
  | deleteFlagResponse

namespace MessageName

abbrev Message : MessageName → Type
  | cartItem => CartItem
  | addItemRequest => AddItemRequest
  | emptyCartRequest => EmptyCartRequest
  | getCartRequest => GetCartRequest
  | cart => Cart
  | empty => Protos.Empty
  | listRecommendationsRequest => ListRecommendationsRequest
  | listRecommendationsResponse => ListRecommendationsResponse
  | product => Product
  | listProductsResponse => ListProductsResponse
  | getProductRequest => GetProductRequest
  | searchProductsRequest => SearchProductsRequest
  | searchProductsResponse => SearchProductsResponse
  | getQuoteRequest => GetQuoteRequest
  | getQuoteResponse => GetQuoteResponse
  | shipOrderRequest => ShipOrderRequest
  | shipOrderResponse => ShipOrderResponse
  | address => Address
  | money => Money
  | getSupportedCurrenciesResponse => GetSupportedCurrenciesResponse
  | currencyConversionRequest => CurrencyConversionRequest
  | creditCardInfo => CreditCardInfo
  | chargeRequest => ChargeRequest
  | chargeResponse => ChargeResponse
  | orderItem => Accounting.OrderItem
  | orderResult => Accounting.OrderResult
  | sendOrderConfirmationRequest => SendOrderConfirmationRequest
  | placeOrderRequest => PlaceOrderRequest
  | placeOrderResponse => PlaceOrderResponse
  | adRequest => AdRequest
  | adResponse => AdResponse
  | ad => Ad
  | flag => Flag
  | getFlagRequest => GetFlagRequest
  | getFlagResponse => GetFlagResponse
  | createFlagRequest => CreateFlagRequest
  | createFlagResponse => CreateFlagResponse
  | updateFlagRequest => UpdateFlagRequest
  | updateFlagResponse => UpdateFlagResponse
  | listFlagsRequest => ListFlagsRequest
  | listFlagsResponse => ListFlagsResponse
  | deleteFlagRequest => DeleteFlagRequest
  | deleteFlagResponse => DeleteFlagResponse

/-- The functions `encode` and `decode` of the message. -/
def fns : (name : MessageName) → MessageType Unsafe name.Message
  | cartItem => Protos.cartItem F
  | addItemRequest => Protos.addItemRequest F
  | emptyCartRequest => Protos.emptyCartRequest F
  | getCartRequest => Protos.getCartRequest F
  | cart => Protos.cart F
  | empty => Protos.empty
  | listRecommendationsRequest => Protos.listRecommendationsRequest F
  | listRecommendationsResponse => Protos.listRecommendationsResponse F
  | product => Protos.product F
  | listProductsResponse => Protos.listProductsResponse F
  | getProductRequest => Protos.getProductRequest F
  | searchProductsRequest => Protos.searchProductsRequest F
  | searchProductsResponse => Protos.searchProductsResponse F
  | getQuoteRequest => Protos.getQuoteRequest F
  | getQuoteResponse => Protos.getQuoteResponse F
  | shipOrderRequest => Protos.shipOrderRequest F
  | shipOrderResponse => Protos.shipOrderResponse F
  | address => Protos.address F
  | money => Protos.money F
  | getSupportedCurrenciesResponse => Protos.getSupportedCurrenciesResponse F
  | currencyConversionRequest => Protos.currencyConversionRequest F
  | creditCardInfo => Protos.creditCardInfo F
  | chargeRequest => Protos.chargeRequest F
  | chargeResponse => Protos.chargeResponse F
  | orderItem => Protos.orderItem F
  | orderResult => Protos.orderResult F
  | sendOrderConfirmationRequest => Protos.sendOrderConfirmationRequest F
  | placeOrderRequest => Protos.placeOrderRequest F
  | placeOrderResponse => Protos.placeOrderResponse F
  | adRequest => Protos.adRequest F
  | adResponse => Protos.adResponse F
  | ad => Protos.ad F
  | flag => Protos.flag F
  | getFlagRequest => Protos.getFlagRequest F
  | getFlagResponse => Protos.getFlagResponse F
  | createFlagRequest => Protos.createFlagRequest F
  | createFlagResponse => Protos.createFlagResponse F
  | updateFlagRequest => Protos.updateFlagRequest F
  | updateFlagResponse => Protos.updateFlagResponse
  | listFlagsRequest => Protos.listFlagsRequest
  | listFlagsResponse => Protos.listFlagsResponse F
  | deleteFlagRequest => Protos.deleteFlagRequest F
  | deleteFlagResponse => Protos.deleteFlagResponse

end MessageName

/-- The amounts of money in an order. -/
def orderAmounts (order : Accounting.OrderResult) : List Money :=
  order.shippingCost.toList ++ order.items.flatMap fun it => it.cost.toList

/-- The amounts of money in a message. -/
def MessageName.amounts : (name : MessageName) → name.Message → List Money
  | money, m => [m]
  | product, m => m.priceUsd.toList
  | listProductsResponse, m => m.products.flatMap fun p => p.priceUsd.toList
  | searchProductsResponse, m => m.results.flatMap fun p => p.priceUsd.toList
  | getQuoteResponse, m => m.costUsd.toList
  | currencyConversionRequest, m => m.source.toList
  | chargeRequest, m => m.amount.toList
  | orderItem, m => m.cost.toList
  | orderResult, m => orderAmounts m
  | sendOrderConfirmationRequest, m => m.order.toList.flatMap orderAmounts
  | placeOrderResponse, m => m.order.toList.flatMap orderAmounts
  | _, _ => []

/-! ## What can be read -/

section

variable {M α : Type} {number : Nat} {T : MessageType Unsafe M} {m : M}

/-- The values of the field can be read. -/
def FieldReadable (f : Field Unsafe M) (m : M) : Prop := ∀ a ∈ f.values m, f.codec.Readable a

theorem readable_iff_fields : T.Readable m ↔ ∀ f ∈ T.fields, FieldReadable f m := Iff.rfl

@[simp] theorem stringField_readable {get : M → String} {set : String → M → M} :
    FieldReadable (stringField F number get set) m := fun _ _ => trivial

@[simp] theorem int32Field_readable {get : M → Int32} {set : Int32 → M → M} :
    FieldReadable (int32Field F number get set) m := fun _ _ => trivial

@[simp] theorem boolField_readable {get : M → Bool} {set : Bool → M → M} :
    FieldReadable (boolField F number get set) m := fun _ _ => trivial

@[simp] theorem stringsField_readable {get : M → List String} {set : List String → M → M} :
    FieldReadable (stringsField F number get set) m := fun _ _ => trivial

@[simp] theorem int64Field_readable {get : M → Int64} {set : Int64 → M → M} :
    FieldReadable (int64Field F number get set) m ↔ SafeInteger (get m) := by
  show (∀ a ∈ (if get m = 0 then [] else [get m]), SafeInteger a) ↔ _
  split
  · rename_i hzero
    rw [hzero]
    exact iff_of_true (by simp) (by simp [SafeInteger, maxSafeInteger])
  · simp

@[simp] theorem messageField_readable {T' : MessageType Unsafe α} {get : M → Option α}
    {set : Option α → M → M} :
    FieldReadable (messageField F number T' get set) m ↔ ∀ a ∈ (get m).toList, T'.Readable a :=
  Iff.rfl

@[simp] theorem messagesField_readable {T' : MessageType Unsafe α} {get : M → List α}
    {set : List α → M → M} :
    FieldReadable (messagesField F number T' get set) m ↔ ∀ a ∈ get m, T'.Readable a :=
  Iff.rfl

end

@[simp] theorem cartItem_readable (m : CartItem) : (cartItem F).Readable m := by
  rw [readable_iff_fields]
  simp [cartItem]

@[simp] theorem money_readable (m : Money) :
    (money F).Readable m ↔ SafeInteger m.units := by
  rw [readable_iff_fields]
  simp [money]

@[simp] theorem product_readable (m : Product) :
    (product F).Readable m ↔ ∀ a ∈ m.priceUsd.toList, SafeInteger a.units := by
  rw [readable_iff_fields]
  simp [product]

@[simp] theorem address_readable (m : Address) : (address F).Readable m := by
  rw [readable_iff_fields]
  simp [address]

@[simp] theorem creditCardInfo_readable (m : CreditCardInfo) : (creditCardInfo F).Readable m := by
  rw [readable_iff_fields]
  simp [creditCardInfo]

@[simp] theorem orderItem_readable (m : Accounting.OrderItem) :
    (orderItem F).Readable m ↔ ∀ a ∈ m.cost.toList, SafeInteger a.units := by
  rw [readable_iff_fields]
  simp [orderItem]

@[simp] theorem orderResult_readable (m : Accounting.OrderResult) :
    (orderResult F).Readable m ↔ ∀ a ∈ orderAmounts m, SafeInteger a.units := by
  unfold orderAmounts
  rw [readable_iff_fields, List.forall_mem_append, List.forall_mem_flatMap]
  simp [orderResult]

@[simp] theorem ad_readable (m : Ad) : (ad F).Readable m := by
  rw [readable_iff_fields]
  simp [ad]

@[simp] theorem flag_readable (m : Flag) : (flag F).Readable m := by
  rw [readable_iff_fields]
  simp [flag]

/-- What decides whether a message can be read are its amounts. -/
theorem fns_readable (name : MessageName) (m : name.Message) :
    (name.fns F).Readable m ↔ ∀ a ∈ name.amounts m, SafeInteger a.units := by
  cases name with
  | cartItem | money | product | address | creditCardInfo | orderItem | orderResult | ad | flag =>
    simp [MessageName.fns, MessageName.amounts]
  | listProductsResponse =>
    rw [MessageName.amounts, List.forall_mem_flatMap, readable_iff_fields]
    simp [MessageName.fns, Protos.listProductsResponse]
  | searchProductsResponse =>
    rw [MessageName.amounts, List.forall_mem_flatMap, readable_iff_fields]
    simp [MessageName.fns, Protos.searchProductsResponse]
  | sendOrderConfirmationRequest =>
    rw [MessageName.amounts, List.forall_mem_flatMap, readable_iff_fields]
    simp [MessageName.fns, Protos.sendOrderConfirmationRequest]
  | placeOrderResponse =>
    rw [MessageName.amounts, List.forall_mem_flatMap, readable_iff_fields]
    simp [MessageName.fns, Protos.placeOrderResponse]
  | _ =>
    rw [readable_iff_fields]
    simp [MessageName.fns, MessageName.amounts, Protos.addItemRequest, Protos.emptyCartRequest,
      Protos.getCartRequest, Protos.cart, Protos.empty, Protos.listRecommendationsRequest,
      Protos.listRecommendationsResponse, Protos.getProductRequest,
      Protos.searchProductsRequest, Protos.getQuoteRequest, Protos.getQuoteResponse,
      Protos.shipOrderRequest, Protos.shipOrderResponse, Protos.getSupportedCurrenciesResponse,
      Protos.currencyConversionRequest, Protos.chargeRequest, Protos.chargeResponse,
      Protos.placeOrderRequest, Protos.adRequest, Protos.adResponse, Protos.getFlagRequest,
      Protos.getFlagResponse, Protos.createFlagRequest, Protos.createFlagResponse,
      Protos.updateFlagRequest, Protos.updateFlagResponse, Protos.listFlagsRequest,
      Protos.listFlagsResponse, Protos.deleteFlagRequest, Protos.deleteFlagResponse]

variable {F}

/-- **Messages are read back.** The records of a message, with any records in between that the
frontend does not know, are decoded to the message if all its amounts have safe units; otherwise the
decoder throws. -/
theorem messages_read_back (name : MessageName) (m : name.Message)
    (rs : List (Record Unsafe name.Message)) (hfits : ∀ r ∈ rs, r.Fits F (name.fns F))
    (hrecords : rs.filter Record.isKnown = (name.fns F).records m) :
    ((∀ a ∈ name.amounts m, SafeInteger a.units) →
        (name.fns F).decode F (rs.flatMap (Record.write F)) = .ok m) ∧
      ((∃ a ∈ name.amounts m, ¬ SafeInteger a.units) → ∃ err, Unsafe err ∧
        (name.fns F).decode F (rs.flatMap (Record.write F)) = .error err) := by
  obtain ⟨hread, hrefused⟩ := MessageType.decode_of_records hfits hrecords
  rw [fns_readable] at hread hrefused
  refine ⟨hread, ?_⟩
  rintro ⟨a, ha, hunsafe⟩
  exact hrefused fun hall => hunsafe (hall a ha)

/-- An amount with a field that the frontend does not know. -/
def extendedMoney : List (Record Unsafe Money) :=
  (money protobuf).records ⟨"USD", 5, 0⟩ ++ [.unknown 120 [1]]

theorem messages_read_back_extended :
    (money protobuf).decode protobuf (extendedMoney.flatMap (Record.write protobuf)) =
      .ok ⟨"USD", 5, 0⟩ := by
  have hsize : ((money protobuf).encode protobuf ⟨"USD", 5, 0⟩).length < 2 ^ 32 := by
    decide +kernel
  have hfits : ∀ r ∈ extendedMoney, r.Fits protobuf (money protobuf) := by
    intro r hr
    rcases List.mem_append.mp hr with hr | hr
    · exact MessageType.fits_of_mem_records hsize hr
    · obtain rfl := List.mem_singleton.mp hr
      exact ⟨by decide, by decide, by decide, by decide, fun rest => rfl⟩
  have hrecords : extendedMoney.filter Record.isKnown =
      (money protobuf).records ⟨"USD", 5, 0⟩ := rfl
  refine (messages_read_back .money ⟨"USD", 5, 0⟩ extendedMoney hfits hrecords).1 ?_
  intro a ha
  obtain rfl := List.mem_singleton.mp ha
  simp [SafeInteger, maxSafeInteger]

end AstronomyShop.Protos
