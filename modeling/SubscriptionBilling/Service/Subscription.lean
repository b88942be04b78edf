import SubscriptionBilling.Checkout.Order
import SubscriptionBilling.Store.Ledger

/-! What subscribers can do with their subscription: look at it and at its history, go to the
provider's portal, and ask for its end. Nothing here changes a tier. -/
namespace SubscriptionBilling

structure SubscriptionStatus where
  subscriberId : String
  tier : Tier
  startedAt : Option Moment
  expiresAt : Option Moment
  isActive : Bool
  billingProvider : Option Provider
  upstreamProvider : Option String
  deriving DecidableEq, Repr

/-- A cancellation that was asked for; it takes effect when the provider says so. -/
structure CancellationRequest where
  subscriptionId : String
  provider : String
  deriving DecidableEq, Repr

namespace Subscription

def require (c : Context) (id : String) : Service Subscriber := do
  let some u ← Service.read c fun db => db.subscriber? id
    | throw (.billing (.subscriberNotFound id))
  return u

def status (c : Context) (id : String) : Service SubscriptionStatus := do
  let u ← require c id
  return ⟨u.id, u.tier, u.tierStartedAt, u.tierExpiresAt, u.isActive c.moment, u.billingProvider,
    u.upstreamProvider⟩

def defaultHistoryLimit : Int := 20

def history (c : Context) (id : String) (limit : Int) : Service (List LedgerEntry) :=
  Service.commit c fun db => do
    Column.checkWhole limit
    return (db.history id limit, db)

def defaultPortalReturnUrl (s : Settings) : String := s.webUrl ++ "/billing"

/-- The address of the portal of the provider that charges the subscriber. -/
def portal (c : Context) (id : String) (returnUrl : Option String) : Service Json := do
  if let some url := returnUrl.filter fun t => !t.isEmpty then
    if !(← Checkout.trusts c.settings (some url)) then
      throw (.billing (.untrustedRedirect (some url)))
  let u ← require c id
  let p := u.activeProvider
  let some customer := u.heldId p | throw (.billing (.noBillingAccount id p))
  let route := (Router.ofSettings c.settings).routeExisting p u.countryCode
  Service.online (Payment.createPortal c.settings p customer route
    (Checkout.textOr returnUrl (defaultPortalReturnUrl c.settings)))

/-- Asks the provider to end the subscription with the period that is paid for. -/
def cancel (c : Context) (id : String) : Service CancellationRequest := do
  let u ← require c id
  match u.providerSubscriptionId.filter fun t => !t.isEmpty, u.billingProvider with
  | some subscription, some p =>
    let route := (Router.ofSettings c.settings).routeExisting p u.countryCode
    Service.online (Payment.cancelSubscription c.settings p subscription route)
    return ⟨subscription, route.label⟩
  | _, _ => throw (.billing (.noActiveSubscription id))

end Subscription
end SubscriptionBilling
