import Mathlib.Tactic.Common

/-!
# The messages of the shop

The messages of `pb/demo.proto` that the modelled services exchange, as the generated Go
code declares them: `int64` and `int32` fields are fixed-width integers, a sub-message that
may be unset is an `Option`, a repeated field is a list. A getter of the generated code on
an unset sub-message reads the zero value of the field (`Option.getD`).
-/

namespace AstronomyShop

/-- `Money`: whole units and billionths of a unit of a currency. -/
structure Money where
  currencyCode : String := ""
  units : Int64 := 0
  nanos : Int32 := 0
  deriving DecidableEq, Repr

structure CartItem where
  productId : String := ""
  quantity : Int32 := 0
  deriving DecidableEq, Repr

structure Cart where
  userId : String := ""
  items : List CartItem := []
  deriving DecidableEq, Repr

structure Address where
  streetAddress : String := ""
  city : String := ""
  state : String := ""
  country : String := ""
  zipCode : String := ""
  deriving DecidableEq, Repr

structure Product where
  id : String := ""
  name : String := ""
  description : String := ""
  picture : String := ""
  priceUsd : Option Money := none
  categories : List String := []
  deriving DecidableEq, Repr

structure CreditCardInfo where
  creditCardNumber : String := ""
  creditCardCvv : Int32 := 0
  creditCardExpirationYear : Int32 := 0
  creditCardExpirationMonth : Int32 := 0
  deriving DecidableEq, Repr

/-- `OrderItem`; checkout sets both sub-messages of every item it builds. -/
structure OrderItem where
  item : CartItem
  cost : Money
  deriving DecidableEq, Repr

structure OrderResult where
  orderId : String
  shippingTrackingId : String
  shippingCost : Money
  shippingAddress : Option Address
  items : List OrderItem
  deriving DecidableEq, Repr

structure PlaceOrderRequest where
  userId : String := ""
  userCurrency : String := ""
  address : Option Address := none
  email : String := ""
  creditCard : Option CreditCardInfo := none
  deriving DecidableEq, Repr

end AstronomyShop
