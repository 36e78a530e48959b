import AstronomyShop.Library.Result
import AstronomyShop.Library.Program
import AstronomyShop.Library.Interleaving
import AstronomyShop.Library.Totals
import AstronomyShop.Library.Session
import AstronomyShop.Library.Contract
import AstronomyShop.Library.UnitOfWork
import AstronomyShop.Library.Redelivery
import AstronomyShop.Library.Double
import AstronomyShop.Library.Json
import AstronomyShop.Library.MachineInt
import AstronomyShop.Library.Digits
import AstronomyShop.Library.NearestDouble
import AstronomyShop.Library.DecimalText
import AstronomyShop.Library.Machine
import AstronomyShop.Library.WorkingCopy
import AstronomyShop.Messages
import AstronomyShop.Checkout.Money
import AstronomyShop.Checkout.Signs
import AstronomyShop.Checkout.ExactSum
import AstronomyShop.Checkout.Total
import AstronomyShop.Checkout.LineOrder
import AstronomyShop.Checkout.Payloads
import AstronomyShop.Shipping.Service
import AstronomyShop.Shipping.Counting
import AstronomyShop.Checkout.QuoteFormat
import AstronomyShop.Checkout.PlaceOrder
import AstronomyShop.Checkout.QuotedAmount
import AstronomyShop.Checkout.Producer
import AstronomyShop.Checkout.Runs
import AstronomyShop.Checkout.Charging
import AstronomyShop.Checkout.Effects
import AstronomyShop.Currency.Service
import AstronomyShop.Currency.Accuracy
import AstronomyShop.Currency.Splitting
import AstronomyShop.Currency.Server
import AstronomyShop.Currency.Refusals
import AstronomyShop.Rendering
import AstronomyShop.Frontend.Prices
import AstronomyShop.Frontend.CartTotal
import AstronomyShop.Cart.Store
import AstronomyShop.Cart.Runs
import AstronomyShop.Cart.Operations
import AstronomyShop.Cart.Soundness
import AstronomyShop.Cart.History
import AstronomyShop.Cart.Owners
import AstronomyShop.Cart.Quantities
import AstronomyShop.Cart.Interleavings
import AstronomyShop.ProductCatalog.Service
import AstronomyShop.ProductCatalog.Reload
import AstronomyShop.Recommendation.Service
import AstronomyShop.Recommendation.Exclusion
import AstronomyShop.Recommendation.Cache
import AstronomyShop.Frontend.Recommendations
import AstronomyShop.FeatureFlags.Editors
import AstronomyShop.Automation.Restart
import AstronomyShop.Automation.Attempts
import AstronomyShop.Accounting.Consumer
import AstronomyShop.Accounting.Tracking
import AstronomyShop.Accounting.Runs
import AstronomyShop.Accounting.Atomicity
import AstronomyShop.Accounting.Recovery
import AstronomyShop.Accounting.Redelivery
import AstronomyShop.Checkout.SharedCart
import AstronomyShop.Checkout.DoubleCharges
import AstronomyShop.Cart.UniqueLines
import AstronomyShop.Checkout.Sending
import AstronomyShop.Books
import AstronomyShop.Frontend.Protos
import AstronomyShop.Ad.Service
import AstronomyShop.Ad.CpuLoad
import AstronomyShop.Frontend.Session
import AstronomyShop.FeatureFlags.TemporaryFlag
import AstronomyShop.Payment.Charge
import AstronomyShop.Payment.PaidOrders
import AstronomyShop.PagerDuty.Oncall
import AstronomyShop.Quote.Service
import AstronomyShop.Checkout.ShippingCost
import AstronomyShop.Checkout.Failures
import AstronomyShop.Currency.Conversions
import AstronomyShop.WorkingShop
