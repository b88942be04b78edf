import SubscriptionBilling.Http.Bearer
import SubscriptionBilling.Http.CrossOrigin
import SubscriptionBilling.Http.Form
import SubscriptionBilling.Http.Presentation
import SubscriptionBilling.Http.RateLimit
import SubscriptionBilling.Http.Resource
import SubscriptionBilling.Url.Escape
import SubscriptionBilling.Webhook.Intake

/-! The service over HTTP. A body that cannot be read is answered before the caller is known, the
caller is known before the fields are read, and only calls with readable fields count against a
rate limit. -/
namespace SubscriptionBilling.Http

/-- An answer given early, by a failure or by a response that is ready. -/
inductive Stop where
  | failure (f : Failure)
  | response (r : Response)

/-- The end of a request with problems. Text with unpaired surrogates is a text as such, but nothing
can be done with it; problems are reported only when all the values at fault can be written. -/
def Stop.ofProblems (found : List Located) : Stop :=
  let reported := found.filter fun p => p.problem ≠ .brokenText
  if reported.isEmpty || reported.any (fun p => !p.writable) then .failure .unencodable
  else .response (Response.problems reported)

structure Server where
  world : World := {}
  windows : List Window := []

abbrev Handler := ExceptT Stop (StateM Server)

namespace Handler

def service (x : Service α) : Handler α := fun s =>
  let (r, w) := x s.world
  (r.mapError Stop.failure, { s with world := w })

def checked (r : Checked α) : Handler α := fun s =>
  (r.mapError Stop.ofProblems, s)

def ready (r : Except Response α) : Handler α := fun s => (r.mapError Stop.response, s)

/-- Counts a call to a resource and stops when there were too many. -/
def limited (c : Context) (r : Request) (rule : RateRule) (resource : String) : Handler Unit :=
  fun s =>
    let (admitted, windows) := countCall s.windows rule c.now r.client resource
    let answer := Response.document 429
      (.object [("error", .string ("Rate limit exceeded: " ++ rule.text))])
    (if admitted then .ok () else .error (.response answer), { s with windows := windows })

end Handler

open Handler

def webhook (c : Context) (r : Request) (p : Provider) (header : String) : Handler Response := do
  let v := Signature.Verifier.make c.settings none none none
  let receipt ← service (Delivery.handle c v p r.body (r.header? header))
  return Response.document receipt.status receipt.body

def upgrade (c : Context) (r : Request) : Handler Response := do
  let body ← ready (bodyContent r)
  let id ← service (subscriberId c r)
  let form ← checked (ofBody UpgradeForm.ofFields body)
  let result ← service (Checkout.create c
    { subscriberId := id
      plan := form.plan
      product := form.product
      country := form.country
      returnUrls := ⟨form.successUrl, form.cancelUrl⟩
      organizationId := form.organizationId })
  return Response.document 200 (checkoutDocument result)

def portal (c : Context) (r : Request) : Handler Response := do
  let body ← ready (bodyContent r)
  let id ← service (subscriberId c r)
  let returnUrl ← checked (ofBody portalReturnUrl body)
  match ← service (Subscription.portal c id returnUrl) with
  | .string url => return Response.document 200 (.object [("portalUrl", .string url)])
  | _ => throw (.failure .invalidRecord)

def history (c : Context) (r : Request) : Handler Response := do
  let id ← service (subscriberId c r)
  let limit ← checked (optionalQuery r "limit" historyLimit)
  let entries ← service
    (Subscription.history c id (limit.getD Subscription.defaultHistoryLimit))
  return Response.document 200 (historyDocument entries)

/-- A call of the public checkout; a user is led to the provider's page. -/
def externalCheckout (c : Context) (r : Request) : Handler Response := do
  let query ← checked (CheckoutQuery.ofRequest r)
  limited c r (RateRule.perMinute 10) r.path
  let result ← service
    (Checkout.createExternal c query.userId (some query.plan) (some query.returnUrl)
      query.product)
  return Response.redirect 302 (Url.location result.url)

def plans (c : Context) (r : Request) : Handler Response := do
  let country ← checked (optionalQuery r "country_code" (sizedText 0 (some 2)))
  return Response.document 200 (offersDocument ((Router.ofSettings c.settings).offers country))

def tierLimits (name : String) : Handler Response := do
  let tier ← checked (Checked.found ["path", "tier"] (Fields.listed Tier.ofName? (.string name)))
  return Response.document 200 (limitsDocument tier)

/-- Whether the store answers; a store that does not is no failure here. -/
def storeHealth (c : Context) (r : Request) : Handler Response := do
  limited c r (RateRule.perMinute 100) r.path
  let answer (status store : String) := Response.document 200
    (.object [("status", .string status), ("database", .string store)])
  match c.strike .session with
  | .ok _ => return answer "healthy" "connected"
  | .error .storage => return answer "unhealthy" "disconnected"
  | .error f => throw (.failure f)

def respond (c : Context) (r : Request) : Resource → Handler Response
  | .health =>
    return Response.document 200
      (.object [("status", .string "healthy"), ("service", .string "billing-engine")])
  | .storeHealth => storeHealth c r
  | .stripeWebhook => webhook c r .stripe "stripe-signature"
  | .januaWebhook => webhook c r .janua "x-janua-signature"
  | .plans => plans c r
  | .tierLimits tier => tierLimits tier
  | .checkout => externalCheckout c r
  | .upgrade => upgrade c r
  | .portal => portal c r
  | .status => do
    let id ← service (subscriberId c r)
    return Response.document 200 (statusDocument (← service (Subscription.status c id)))
  | .cancel => do
    let id ← service (subscriberId c r)
    return Response.document 200 (cancellationDocument (← service (Subscription.cancel c id)))
  | .history => history c r
  | .usage => do
    let id ← service (subscriberId c r)
    return Response.document 200 (usageDocument (← service (Meter.summary c id)))
  | .liveness => return Response.document 200 (.object [("status", .string "ok")])

/-- A failure that nothing is prepared for is answered without regard to the origin. -/
def Stop.answer (request : Request) : Stop → Response
  | .response r => CrossOrigin.annotate request r
  | .failure f =>
    let r := Response.ofFailure f
    if r.status = 500 then r else CrossOrigin.annotate request r

/-- The address of another path, with the query of the request. -/
def Request.addressAt (r : Request) (path : String) : String :=
  "http://" ++ r.host ++ Url.pathText path ++
    if r.query.isEmpty then "" else "?" ++ Url.queryText r.query

def dispatch (c : Context) (r : Request) (s : Server) : Response × Server :=
  match destination r.method r.path with
  | .resource resource =>
    match respond c r resource s with
    | (.ok answer, s) => (CrossOrigin.annotate r answer, s)
    | (.error stop, s) => (stop.answer r, s)
  | .otherMethod allowed =>
    (CrossOrigin.annotate r
      ((Response.detail 405 "Method Not Allowed").withHeader "allow" allowed), s)
  | .otherPath path =>
    (CrossOrigin.annotate r (Response.redirect 307 (Url.location (r.addressAt path))), s)
  | .nowhere => (CrossOrigin.annotate r (Response.detail 404 "Not Found"), s)

/-- A response without its content, as a request for headers alone gets it. -/
def Response.headOnly (r : Response) : Response := { r with content := .empty }

/-- Answers a request. -/
def Server.answer (c : Context) (r : Request) (s : Server) : Response × Server :=
  match CrossOrigin.question? r with
  | some q => (CrossOrigin.preflight q, s)
  | none =>
    let (answer, s) := dispatch c r s
    (if r.method = "HEAD" then answer.headOnly else answer, s)

end SubscriptionBilling.Http
