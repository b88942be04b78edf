import SubscriptionBilling.Access.KeyMaterial
import SubscriptionBilling.Access.KeySet
import SubscriptionBilling.Access.Token
import SubscriptionBilling.Access.Verifier
import SubscriptionBilling.Audit.Entry
import SubscriptionBilling.Catalog.Feature
import SubscriptionBilling.Catalog.Limits
import SubscriptionBilling.Catalog.Offer
import SubscriptionBilling.Catalog.Plan
import SubscriptionBilling.Catalog.Price
import SubscriptionBilling.Catalog.Product
import SubscriptionBilling.Catalog.Tier
import SubscriptionBilling.Checkout.Customer
import SubscriptionBilling.Checkout.Order
import SubscriptionBilling.Checkout.ReturnUrl
import SubscriptionBilling.Context
import SubscriptionBilling.Crypto.Base64
import SubscriptionBilling.Crypto.Curve
import SubscriptionBilling.Crypto.Hmac
import SubscriptionBilling.Crypto.Rsa
import SubscriptionBilling.Crypto.Sha256
import SubscriptionBilling.Decimal.Basic
import SubscriptionBilling.Decimal.Binary64
import SubscriptionBilling.Decimal.Reader
import SubscriptionBilling.Failure
import SubscriptionBilling.Fields.Problem
import SubscriptionBilling.Fields.Record
import SubscriptionBilling.Fields.Value
import SubscriptionBilling.Fields.WholeText
import SubscriptionBilling.Http.Bearer
import SubscriptionBilling.Http.CrossOrigin
import SubscriptionBilling.Http.Form
import SubscriptionBilling.Http.Identifier
import SubscriptionBilling.Http.Message
import SubscriptionBilling.Http.Presentation
import SubscriptionBilling.Http.RateLimit
import SubscriptionBilling.Http.Resource
import SubscriptionBilling.Http.Server
import SubscriptionBilling.Identity.Background
import SubscriptionBilling.Identity.Client
import SubscriptionBilling.Identity.Dispatch
import SubscriptionBilling.Identity.Retry
import SubscriptionBilling.Json.Basic
import SubscriptionBilling.Json.Reader
import SubscriptionBilling.Json.Token
import SubscriptionBilling.Json.Writer
import SubscriptionBilling.Ledger.Entry
import SubscriptionBilling.Network.Basic
import SubscriptionBilling.Network.Endpoint
import SubscriptionBilling.Network.Message
import SubscriptionBilling.Payment.Basic
import SubscriptionBilling.Payment.Gateway
import SubscriptionBilling.Payment.Janua
import SubscriptionBilling.Payment.Stripe
import SubscriptionBilling.Proofs.ActiveTiers
import SubscriptionBilling.Proofs.Arrivals
import SubscriptionBilling.Proofs.BookedAmounts
import SubscriptionBilling.Proofs.CancellationSearch
import SubscriptionBilling.Proofs.CaseRuns
import SubscriptionBilling.Proofs.ChargingUpstreams
import SubscriptionBilling.Proofs.CheckoutCalls
import SubscriptionBilling.Proofs.CheckoutCourses
import SubscriptionBilling.Proofs.CheckoutExits
import SubscriptionBilling.Proofs.Consistency
import SubscriptionBilling.Proofs.Convergence
import SubscriptionBilling.Proofs.Counters
import SubscriptionBilling.Proofs.CountryRoutes
import SubscriptionBilling.Proofs.CustomerSlots
import SubscriptionBilling.Proofs.Deliveries
import SubscriptionBilling.Proofs.EitherOrder
import SubscriptionBilling.Proofs.Entitlements
import SubscriptionBilling.Proofs.ExactlyOnce
import SubscriptionBilling.Proofs.Finality
import SubscriptionBilling.Proofs.FiniteAmounts
import SubscriptionBilling.Proofs.GrantEffects
import SubscriptionBilling.Proofs.HardCaps
import SubscriptionBilling.Proofs.HeldSubscriptions
import SubscriptionBilling.Proofs.Histories
import SubscriptionBilling.Proofs.IdentityPosts
import SubscriptionBilling.Proofs.Issuers
import SubscriptionBilling.Proofs.LabelSuffixes
import SubscriptionBilling.Proofs.LowerCase
import SubscriptionBilling.Proofs.MinorUnits
import SubscriptionBilling.Proofs.Mishaps
import SubscriptionBilling.Proofs.MoneyEvents
import SubscriptionBilling.Proofs.Operations
import SubscriptionBilling.Proofs.OwnRows
import SubscriptionBilling.Proofs.PlanSpellings
import SubscriptionBilling.Proofs.Processing
import SubscriptionBilling.Proofs.ProviderCalls
import SubscriptionBilling.Proofs.Purchases
import SubscriptionBilling.Proofs.QuotaViews
import SubscriptionBilling.Proofs.Reachability
import SubscriptionBilling.Proofs.Readings
import SubscriptionBilling.Proofs.Records
import SubscriptionBilling.Proofs.Redelivery
import SubscriptionBilling.Proofs.RefundTotals
import SubscriptionBilling.Proofs.Retries
import SubscriptionBilling.Proofs.ReturnHosts
import SubscriptionBilling.Proofs.Revocation
import SubscriptionBilling.Proofs.SellingProducts
import SubscriptionBilling.Proofs.ServiceWrites
import SubscriptionBilling.Proofs.SignatureGate
import SubscriptionBilling.Proofs.Signatures
import SubscriptionBilling.Proofs.SlugGrammar
import SubscriptionBilling.Proofs.StaleRecords
import SubscriptionBilling.Proofs.StorageRules
import SubscriptionBilling.Proofs.StoreWrites
import SubscriptionBilling.Proofs.StrictDocuments
import SubscriptionBilling.Proofs.SuccessfulCheckouts
import SubscriptionBilling.Proofs.SupersededSubscriptions
import SubscriptionBilling.Proofs.TierMoves
import SubscriptionBilling.Proofs.TierNotices
import SubscriptionBilling.Proofs.Timestamps
import SubscriptionBilling.Proofs.TokenVerdicts
import SubscriptionBilling.Proofs.Transitions
import SubscriptionBilling.Proofs.TranslatedEvents
import SubscriptionBilling.Proofs.Translation
import SubscriptionBilling.Proofs.Turns
import SubscriptionBilling.Proofs.UnpayablePlans
import SubscriptionBilling.Proofs.UpperCase
import SubscriptionBilling.Proofs.UpstreamRecords
import SubscriptionBilling.Proofs.UrlParts
import SubscriptionBilling.Proofs.UsageAccounting
import SubscriptionBilling.Proofs.WrittenDocuments
import SubscriptionBilling.Routing.Provider
import SubscriptionBilling.Routing.Router
import SubscriptionBilling.Service.Basic
import SubscriptionBilling.Service.Subscription
import SubscriptionBilling.Settings
import SubscriptionBilling.Store.AuditTrail
import SubscriptionBilling.Store.Column
import SubscriptionBilling.Store.Counters
import SubscriptionBilling.Store.Database
import SubscriptionBilling.Store.Fault
import SubscriptionBilling.Store.Ledger
import SubscriptionBilling.Store.Subscribers
import SubscriptionBilling.Subscriber
import SubscriptionBilling.Text.Blank
import SubscriptionBilling.Text.CaseMap
import SubscriptionBilling.Text.CodeRange
import SubscriptionBilling.Text.Digits
import SubscriptionBilling.Text.Encoding
import SubscriptionBilling.Text.Letters
import SubscriptionBilling.Text.Quoted
import SubscriptionBilling.Text.Split
import SubscriptionBilling.Text.Whole
import SubscriptionBilling.Time.Calendar
import SubscriptionBilling.Time.Moment
import SubscriptionBilling.Time.Reader
import SubscriptionBilling.Url.Address
import SubscriptionBilling.Url.Basic
import SubscriptionBilling.Url.Escape
import SubscriptionBilling.Url.HostName
import SubscriptionBilling.Url.Punycode
import SubscriptionBilling.Usage.Counter
import SubscriptionBilling.Usage.FeatureUsage
import SubscriptionBilling.Usage.Meter
import SubscriptionBilling.Webhook.Delivery
import SubscriptionBilling.Webhook.Event
import SubscriptionBilling.Webhook.Intake
import SubscriptionBilling.Webhook.JanuaPayload
import SubscriptionBilling.Webhook.Processing
import SubscriptionBilling.Webhook.Signature
import SubscriptionBilling.Webhook.StripePayload
import SubscriptionBilling.Webhook.Transition
