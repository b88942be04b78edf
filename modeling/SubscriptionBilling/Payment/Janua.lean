import SubscriptionBilling.Network.Message
import SubscriptionBilling.Payment.Basic

/-! The broker. It is called over HTTP and passes charges on to the processor that the route
names. -/
namespace SubscriptionBilling.Janua
open Payment

def baseUrl (s : Settings) : String := trimSlashes s.januaApiUrl

def headers (s : Settings) : List (String × String) :=
  [("content-type", "application/json"), ("authorization", "Bearer " ++ s.januaApiKey)]

/-- The document of a successful response; one without content counts as an empty object. -/
def accept (operation : String) (status : Nat) (content : Content) : Except Failure Json :=
  if status < 200 ∨ 300 ≤ status then
    .error (unavailable .janua (operation ++ " returned " ++ Nat.repr status))
  else if content.isEmpty then .ok (.object [])
  else
    match content.read with
    | .ok v => .ok v
    | .error cause => .error (.unreadableDocument cause)

def post (s : Settings) (e : Endpoint) (operation path : String) (body : List (String × Json)) :
    Online Json := do
  if (baseUrl s).isEmpty || s.januaApiKey.isEmpty then
    throw (.billing (.providerNotConfigured .janua "janua_api_url/janua_api_key"))
  match ← Online.post e (baseUrl s ++ path) (headers s) (.document (.object body)) with
  | some (.response status content) => accept operation status content
  | some (.broken kind message) =>
    throw (unavailable .janua (operation ++ ": " ++ brokenText kind message))
  | some .unusable => throw .unexpectedTransport
  | _ => throw (unavailable .janua (operation ++ ": " ++ noReplyText))

/-- A field of a reply, null when it is missing; a reply has to be an object. -/
def replyField (v : Json) (name : String) : Except Failure Json :=
  match v with
  | .object fields => .ok ((fields.lookup name).getD .null)
  | _ => .error .missingAttribute

/-- A field without which the reply is of no use. -/
def neededField (operation : String) (v : Json) (name : String) : Except Failure Json := do
  let a ← replyField v name
  if a.truthy then return a
  else throw (unavailable .janua (operation ++ " returned no " ++ name))

def upstream (r : Route) : Json := optionalText (r.upstream.map Upstream.name)

def createCustomer (s : Settings) (c : NewCustomer) : Online Json := do
  let reply ← post s .januaCustomer "customer.create" "/api/billing/customers"
    [("email", .string c.email), ("name", optionalText c.name),
      ("country_code", .string c.country), ("provider", upstream c.route),
      ("organization_id", optionalText c.organizationId),
      ("metadata", .object
        [("userId", .string c.subscriberId), ("product", .string Product.home.name),
          ("orgId", optionalText c.organizationId)])]
  neededField "customer.create" reply "customer_id"

/-- The name that the broker has for a plan: product, base, and the interval unless it is a
month. -/
def planId (p : Plan) : String :=
  p.product.name ++ "_" ++ p.base.name ++
    match p.interval with
    | .monthly => ""
    | .yearly => "_yearly"

def createCheckout (s : Settings) (o : CheckoutOrder) : Online CheckoutSession := do
  let reply ← post s .januaCheckout "checkout.create" "/api/billing/checkout"
    [("customer_id", o.customer), ("customer_email", .string o.email),
      ("plan_id", .string (planId o.plan)), ("country_code", .string o.country),
      ("provider", upstream o.route), ("organization_id", optionalText o.organizationId),
      ("success_url", .string o.successUrl), ("cancel_url", .string o.cancelUrl),
      ("metadata", .object o.metadata)]
  let url ← neededField "checkout.create" reply "checkout_url"
  let id ← replyField reply "session_id"
  session (if id.truthy then id else .string "") url

def createPortal (s : Settings) (customer : String) (r : Route) (returnUrl : String) :
    Online Json := do
  let reply ← post s .januaPortal "portal.create" "/api/billing/portal"
    [("customer_id", .string customer), ("provider", upstream r),
      ("return_url", .string returnUrl)]
  neededField "portal.create" reply "portal_url"

def cancelSubscription (s : Settings) (subscriptionId : String) (r : Route) : Online Unit := do
  let _ ← post s .januaCancel "subscription.cancel"
    ("/api/billing/subscriptions/" ++ subscriptionId ++ "/cancel")
    [("provider", upstream r), ("immediate", .bool false)]

end SubscriptionBilling.Janua
