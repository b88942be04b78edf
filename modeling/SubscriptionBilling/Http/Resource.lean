/-! The resources of the service and the addresses they are found at. -/
namespace SubscriptionBilling.Http

inductive Resource where
  | health
  | storeHealth
  | stripeWebhook
  | januaWebhook
  | plans
  | tierLimits (tier : String)
  | checkout
  | upgrade
  | portal
  | status
  | cancel
  | history
  | usage
  | liveness
  deriving DecidableEq, Repr

namespace Resource

/-- The one method that a resource answers. -/
def method : Resource → String
  | stripeWebhook => "POST"
  | januaWebhook => "POST"
  | upgrade => "POST"
  | portal => "POST"
  | cancel => "POST"
  | _ => "GET"

def fixedPaths : List (String × Resource) :=
  [("/api/v1/health/", health), ("/api/v1/health/db", storeHealth),
    ("/api/v1/billing/webhook", stripeWebhook), ("/api/v1/billing/webhook/janua", januaWebhook),
    ("/api/v1/billing/plans", plans), ("/api/v1/billing/checkout", checkout),
    ("/api/v1/billing/upgrade", upgrade), ("/api/v1/billing/portal", portal),
    ("/api/v1/billing/status", status), ("/api/v1/billing/cancel", cancel),
    ("/api/v1/billing/history", history), ("/api/v1/billing/usage", usage),
    ("/healthz", liveness)]

/-- The segments of a path; a path starts with a slash. -/
def segments (path : String) : List String := path.splitOn "/"

/-- A path without the end of a line behind it. -/
def lineText (path : String) : String :=
  match path.toList.reverse with
  | '\n' :: rest => String.ofList rest.reverse
  | _ => path

def atPath? (path : String) : Option Resource :=
  match fixedPaths.lookup (lineText path) with
  | some r => some r
  | none =>
    match segments (lineText path) with
    | ["", "api", "v1", "billing", "plans", tier, "limits"] =>
      if tier.isEmpty then none else some (tierLimits tier)
    | _ => none

/-- The other spelling of a path: without the slashes at its end, or with one. -/
def otherSpelling (path : String) : String :=
  if path.endsWith "/" then
    String.ofList ((path.toList.reverse.dropWhile (· = '/')).reverse)
  else path ++ "/"

end Resource

/-- Where a request leads. -/
inductive Destination where
  | resource (r : Resource)
  | otherMethod (allowed : String)
  | otherPath (path : String)
  | nowhere
  deriving DecidableEq, Repr

/-- A path that is found only in its other spelling leads there; the root has no other spelling. -/
def destination (method path : String) : Destination :=
  match Resource.atPath? path with
  | some r => if r.method = method then .resource r else .otherMethod r.method
  | none =>
    if path ≠ "/" ∧ (Resource.atPath? (Resource.otherSpelling path)).isSome then
      .otherPath (Resource.otherSpelling path)
    else .nowhere

end SubscriptionBilling.Http
