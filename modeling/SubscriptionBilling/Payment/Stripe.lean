import SubscriptionBilling.Catalog.Price
import SubscriptionBilling.Payment.Basic

/-! The direct processor. Its calls take named arguments and answer with objects. -/
namespace SubscriptionBilling.Stripe
open Payment

/-- A call under the secret key of the settings; every way in which it can go wrong makes the
provider unavailable. Without time to wait no call is made. -/
def call (s : Settings) (e : Endpoint) (operation : String) (arguments : List (String × Json)) :
    Online Json := do
  if s.stripeSecretKey.isEmpty then
    throw (.billing (.providerNotConfigured .stripe "stripe_secret_key"))
  if !s.providerTimeoutSeconds.isPositive then
    throw (unavailable .stripe (operation ++ " timed out"))
  match ← Online.ask e (.arguments arguments) with
  | some (.object v) => return v
  | some .timeout => throw (unavailable .stripe (operation ++ " timed out"))
  | some (.refusal reason) =>
    throw (unavailable .stripe (if reason.isEmpty then "<empty message>" else reason))
  | _ => throw (unavailable .stripe "no reply")

def partOf (v : Json) (name : String) : Except Failure Json :=
  match v.field? name with
  | some a => .ok a
  | none => .error .missingAttribute

/-- A retried creation answers with the same customer. -/
def idempotencyKey (subscriberId : String) : String := "customer-create-" ++ subscriberId

def createCustomer (s : Settings) (c : NewCustomer) : Online Json := do
  let reply ← call s .stripeCustomer "customer.create"
    [("email", .string c.email), ("name", optionalText c.name),
      ("metadata", .object [("userId", .string c.subscriberId)]),
      ("idempotency_key", .string (idempotencyKey c.subscriberId))]
  partOf reply "id"

/-- The metadata is put on the session and on the subscription that it starts. -/
def createCheckout (s : Settings) (o : CheckoutOrder) : Online CheckoutSession := do
  let some price := Price.id? s o.plan.tier o.plan.interval
    | throw (.billing (.providerNotConfigured .stripe
        ("price id for " ++ o.plan.tier.name ++ " " ++ o.plan.interval.name)))
  let reply ← call s .stripeCheckout "checkout.session.create"
    [("customer", o.customer),
      ("line_items", .array [.object [("price", .string price), ("quantity", .int 1)]]),
      ("mode", .string "subscription"), ("success_url", .string o.successUrl),
      ("cancel_url", .string o.cancelUrl), ("metadata", .object o.metadata),
      ("subscription_data", .object [("metadata", .object o.metadata)])]
  let id ← partOf reply "id"
  let url ← partOf reply "url"
  session id url

def createPortal (s : Settings) (customer returnUrl : String) : Online Json := do
  let reply ← call s .stripePortal "billing_portal.session.create"
    [("customer", .string customer), ("return_url", .string returnUrl)]
  partOf reply "url"

/-- The subscription ends with the period that is paid for. -/
def cancelSubscription (s : Settings) (subscriptionId : String) : Online Unit := do
  let _ ← call s .stripeSubscription "subscription.modify"
    [("id", .string subscriptionId), ("cancel_at_period_end", .bool true)]

def fieldOrNull (v : Json) (name : String) : Json := (v.field? name).getD .null

/-- The first line item of a session; nothing when there is none, a failure when they are no
list. -/
def firstItem (session : Json) : Except Failure (Option Json) :=
  match fieldOrNull (fieldOrNull session "line_items") "data" with
  | .array items => .ok items.head?
  | .string _ => .ok none
  | items => if items.truthy then .error .wrongShape else .ok none

/-- The product of the first line item, which is written out or named by its id. -/
def productOf (session : Json) : Except Failure Json := do
  let some item ← firstItem session | return .null
  match fieldOrNull (fieldOrNull item "price") "product" with
  | .string id => return .string id
  | product => return fieldOrNull product "id"

def checkoutProduct (s : Settings) (sessionId : String) : Online Json := do
  let reply ← call s .stripeCheckoutLookup "checkout.session.retrieve"
    [("id", .string sessionId), ("expand", .array [.string "line_items"])]
  productOf reply

end SubscriptionBilling.Stripe
