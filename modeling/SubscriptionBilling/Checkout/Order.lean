import SubscriptionBilling.Checkout.Customer
import SubscriptionBilling.Checkout.ReturnUrl
import SubscriptionBilling.Store.AuditTrail

/-! Checkouts. A checkout changes no tier: that is left to the provider's own notice. What can be
refused is refused before any provider is called. -/
namespace SubscriptionBilling

/-- Where a checkout leads back to, as far as the caller says so. -/
structure ReturnUrls where
  success : Option String := none
  cancel : Option String := none
  deriving DecidableEq, Repr

structure CheckoutRequest where
  subscriberId : String
  plan : Option String := none
  product : Option Product := none
  country : Option String := none
  returnUrls : ReturnUrls := {}
  organizationId : Option String := none
  extraMetadata : List (String × Json) := []

structure CheckoutResult where
  url : String
  provider : String
  sessionId : String
  deriving DecidableEq, Repr

namespace Checkout

/-- The first text, unless it is missing or empty. -/
def textOr (s : Option String) (fallback : String) : String :=
  (s.filter fun t => !t.isEmpty).getD fallback

def defaultSuccessUrl (s : Settings) : String :=
  s.webUrl ++ "/billing/success?session_id=\x7bCHECKOUT_SESSION_ID\x7d"

def defaultCancelUrl (s : Settings) : String := s.webUrl ++ "/billing/cancel"

/-- The metadata of a purchase: whose it is and what is bought. -/
def metadata (r : CheckoutRequest) (plan : Plan) (product : Product) : List (String × Json) :=
  let own : List (String × Json) :=
    [("userId", .string r.subscriberId), ("plan", .string plan.slug),
      ("product", .string product.name)]
  let organization : List (String × Json) :=
    match r.organizationId.filter fun t => !t.isEmpty with
    | some id => [("orgId", .string id)]
    | none => []
  r.extraMetadata.foldl (fun fs f => Json.setField f.1 f.2 fs) (own ++ organization)

def note (r : CheckoutRequest) (plan : Plan) (product : Product) (route : Route)
    (sessionId : String) : AuditNote :=
  ⟨r.subscriberId, .upgradeInitiated, .medium,
    [("plan", .string plan.slug), ("product", .string product.name),
      ("provider", .string route.label), ("session_id", .string sessionId),
      ("organization_id", Json.ofOption Json.string r.organizationId)]⟩

def order (c : Context) (r : CheckoutRequest) (u : Subscriber) (plan : Plan) (product : Product)
    (route : Route) (country : String) (customer : Json) : CheckoutOrder :=
  { customer := customer
    email := u.email
    plan := plan
    route := route
    country := country
    successUrl := textOr r.returnUrls.success (defaultSuccessUrl c.settings)
    cancelUrl := textOr r.returnUrls.cancel (defaultCancelUrl c.settings)
    metadata := metadata r plan product
    organizationId := r.organizationId }

/-- Starts a checkout. The session exists at the provider once it is made, so a note in the audit
trail that cannot be written does not undo it. -/
def create (c : Context) (r : CheckoutRequest) : Service CheckoutResult := do
  let slug := textOr r.plan Plan.defaultSlug
  let some plan := Plan.ofSlug? slug | throw (.billing (.unknownPlan slug))
  let some u ← Service.read c fun db => db.subscriber? r.subscriberId
    | throw (.billing (.subscriberNotFound r.subscriberId))
  if plan.tier ≤ u.tier then throw (.billing (.alreadyAtOrAboveTier u.tier plan.tier))
  let router := Router.ofSettings c.settings
  let product := r.product.getD plan.product
  let country := router.normalizeCountry
    ((r.country.filter fun t => !t.isEmpty).or u.countryCode)
  let route := router.route (some country) product
  let customer ← u.ensureCustomer c route country r.organizationId
  let session ← Service.online (Payment.createCheckout c.settings route.provider
    (order c r u plan product route country customer))
  Service.besides (Service.commit c do
    let _ ← (note r plan product route session.id).log c)
  return ⟨session.url, route.label, session.id⟩

/-- Whether a return URL may be used, or a failure when the web application's own host cannot be
read. -/
def trusts (s : Settings) (url : Option String) : Except Failure Bool :=
  match ReturnUrl.isTrusted? s url none none with
  | some b => .ok b
  | none => .error .unknownName

/-- A checkout for a user of another product, who is led back to that product. Its return URL is
looked at before anything else. -/
def createExternal (c : Context) (user : String) (plan returnUrl : Option String)
    (product : Option Product) : Service CheckoutResult := do
  if !(← trusts c.settings returnUrl) then throw (.billing (.untrustedRedirect returnUrl))
  create c
    { subscriberId := user
      plan := plan
      product := product
      returnUrls := ⟨returnUrl, returnUrl⟩
      extraMetadata := [("janua_user_id", .string user), ("source", .string "external")] }

end Checkout
end SubscriptionBilling
