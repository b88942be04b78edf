import SubscriptionBilling.Catalog.Price
import SubscriptionBilling.Webhook.Event

/-! Deliveries of the broker: one envelope for all types, with amounts in major units and the name
of the processor behind it. -/
namespace SubscriptionBilling.JanuaPayload
open Fields

structure Payload where
  id : String
  type : String
  customerId : String
  subscriptionId : Option String
  planId : Option String
  upstream : Option String
  status : Option String
  amount : Option Decimal
  currency : Option String
  periodStart : Option Int
  periodEnd : Option Int
  userId : Option String
  organizationId : Option String

/-- The user and the organization that were attached to the purchase. -/
def readMetadata (fs : List (String × Json)) : Parse (Option String × Option String) :=
  withDefault fs "metadata" (none, none) fun v => do
    let m ← object v
    let userId ← optional m "userId" text
    let organizationId ← optional m "orgId" text
    let _ ← optional m "product" text
    return (userId, organizationId)

def Payload.ofFields (fs : List (String × Json)) : Parse Payload := do
  let id ← required fs "id" text
  let type ← required fs "type" text
  let data ← required fs "data" object
  let customerId ← required data "customer_id" text
  let subscriptionId ← optional data "subscription_id" text
  let planId ← optional data "plan_id" text
  let upstream ← optional data "provider" text
  let status ← optional data "status" text
  let amount ← optional data "amount" decimal
  let currency ← optional data "currency" text
  let periodStart ← optional data "current_period_start" whole
  let periodEnd ← optional data "current_period_end" whole
  let (userId, organizationId) ← readMetadata data
  let _ ← optional fs "timestamp" text
  return ⟨id, type, customerId, subscriptionId, planId, upstream, status, amount, currency,
    periodStart, periodEnd, userId, organizationId⟩

def kindOf? : String → Option EventKind
  | "subscription.created" => some .subscriptionCreated
  | "subscription.updated" => some .subscriptionUpdated
  | "subscription.cancelled" => some .subscriptionCancelled
  | "subscription.paused" => some .subscriptionPaused
  | "subscription.resumed" => some .subscriptionResumed
  | "payment.succeeded" => some .paymentSucceeded
  | "payment.failed" => some .paymentFailed
  | "payment.refunded" => some .refundIssued
  | _ => none

def statusMetadata : Option String → List (String × Json)
  | some s => if s.isEmpty then [] else [("status", .string s)]
  | none => []

/-- The event a payload stands for; nothing for types that are not acted on. -/
def Payload.toEvent? (p : Payload) : Except Failure (Option ProviderEvent) :=
  match kindOf? p.type with
  | none => .ok none
  | some kind => do
    let periodStart ← timestamp? p.periodStart
    let periodEnd ← timestamp? p.periodEnd
    return some
      { provider := .janua
        eventId := p.id
        kind := kind
        eventType := p.type
        customerId := some p.customerId
        subscriberId := p.userId
        subscriptionId := p.subscriptionId
        planSlug := p.planId
        periodStart := periodStart
        periodEnd := periodEnd
        amount := p.amount.getD Decimal.zero
        currency := Text.upper (Price.currencyOr "USD" p.currency)
        organizationId := p.organizationId
        upstreamProvider := p.upstream
        metadata := statusMetadata p.status }

end SubscriptionBilling.JanuaPayload
