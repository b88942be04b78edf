import SubscriptionBilling.Failure
import SubscriptionBilling.Fields.Record

/-! What happened at a payment provider, in terms that are common to all of them. -/
namespace SubscriptionBilling

inductive EventKind where
  | subscriptionCreated
  | subscriptionUpdated
  | subscriptionCancelled
  | subscriptionPaused
  | subscriptionResumed
  | paymentSucceeded
  | paymentFailed
  | checkoutCompleted
  | refundIssued
  deriving DecidableEq, Repr, Inhabited

namespace EventKind

def all : List EventKind :=
  [subscriptionCreated, subscriptionUpdated, subscriptionCancelled, subscriptionPaused,
    subscriptionResumed, paymentSucceeded, paymentFailed, checkoutCompleted, refundIssued]

def name : EventKind → String
  | subscriptionCreated => "subscription_created"
  | subscriptionUpdated => "subscription_updated"
  | subscriptionCancelled => "subscription_cancelled"
  | subscriptionPaused => "subscription_paused"
  | subscriptionResumed => "subscription_resumed"
  | paymentSucceeded => "payment_succeeded"
  | paymentFailed => "payment_failed"
  | checkoutCompleted => "checkout_completed"
  | refundIssued => "refund_issued"

def ofName? (s : String) : Option EventKind := all.find? fun k => k.name = s

end EventKind

structure ProviderEvent where
  provider : Provider
  eventId : String
  kind : EventKind
  eventType : String
  customerId : Option String := none
  subscriberId : Option String := none
  subscriptionId : Option String := none
  planSlug : Option String := none
  planTier : Option String := none
  periodStart : Option Moment := none
  periodEnd : Option Moment := none
  amount : Decimal := Decimal.zero
  currency : String := "USD"
  organizationId : Option String := none
  identityUserId : Option String := none
  productId : Option String := none
  checkoutSessionId : Option String := none
  upstreamProvider : Option String := none
  metadata : List (String × Json) := []

namespace ProviderEvent
open Fields

def ofFields (fs : List (String × Json)) : Parse ProviderEvent := do
  let provider ← required fs "provider" (listed Provider.ofName?)
  let eventId ← required fs "provider_event_id" text
  let kind ← required fs "kind" (listed EventKind.ofName?)
  let eventType ← required fs "provider_event_type" text
  let customerId ← optional fs "customer_id" text
  let subscriberId ← optional fs "subscriber_id" text
  let subscriptionId ← optional fs "subscription_id" text
  let planSlug ← optional fs "plan_slug" text
  let planTier ← optional fs "plan_tier" text
  let periodStart ← optional fs "period_start" moment
  let periodEnd ← optional fs "period_end" moment
  let amount ← withDefault fs "amount" Decimal.zero shownDecimal
  let currency ← withDefault fs "currency" "USD" text
  let organizationId ← optional fs "organization_id" text
  let identityUserId ← optional fs "identity_user_id" text
  let productId ← optional fs "product_id" text
  let checkoutSessionId ← optional fs "checkout_session_id" text
  let upstreamProvider ← optional fs "upstream_provider" text
  let metadata ← withDefault fs "metadata" [] object
  return ⟨provider, eventId, kind, eventType, customerId, subscriberId, subscriptionId, planSlug,
    planTier, periodStart, periodEnd, amount, currency, organizationId, identityUserId, productId,
    checkoutSessionId, upstreamProvider, metadata⟩

end ProviderEvent

/-- A field that cannot be read makes its whole record invalid. Text with unpaired surrogates is a
text as such, but nothing can be done with it. -/
def Fields.check (p : Fields.Parse α) : Except Failure α :=
  p.mapError fun problem => if problem = .brokenText then .unencodable else .invalidRecord

def Moment.TimestampError.failure : Moment.TimestampError → Failure
  | beyondWord => .timestampBeyondWord
  | beyondYearWord => .timestampBeyondYearWord
  | beyondCalendar => .timestampBeyondCalendar

/-- An optional count of seconds as a moment. -/
def timestamp? : Option Int → Except Failure (Option Moment)
  | none => .ok none
  | some n =>
    match Moment.ofTimestamp n with
    | .ok m => .ok (some m)
    | .error e => .error e.failure

end SubscriptionBilling
