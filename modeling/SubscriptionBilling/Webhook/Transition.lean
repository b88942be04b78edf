import SubscriptionBilling.Catalog.Plan
import SubscriptionBilling.Identity.Dispatch
import SubscriptionBilling.Store.Subscribers
import SubscriptionBilling.Webhook.Event

/-! What an event does to the subscriber it is about: the change of the record, the note in the
audit trail, the booking in the ledger and the work left for the identity system. -/
namespace SubscriptionBilling

structure Transition where
  change : Option SubscriberChange := none
  note : Option AuditNote := none
  posting : Option Posting := none
  tasks : List IdentityTask := []

namespace ProviderEvent

/-- The tier that an event grants: that of its plan, or else the tier it names itself. -/
def grantedTier (e : ProviderEvent) : Option Tier :=
  match e.planSlug.bind Plan.ofSlug? with
  | some plan => some plan.tier
  | none => e.planTier.bind Tier.ofName?

/-- A text that is there and not empty. -/
def filled (s : Option String) : Option String := s.filter fun t => !t.isEmpty

def textField (s : Option String) : Json := Json.ofOption Json.string s

/-- The booking of an event. Later facts replace earlier ones of the same name, and those without a
value are left out. -/
def posting (e : ProviderEvent) (u : Subscriber) (kind : EntryKind) (status : EntryStatus)
    (amount : Decimal) (facts : List (String × Json)) : Posting :=
  let own : List (String × Json) :=
    [("provider_event_type", .string e.eventType), ("subscription_id", textField e.subscriptionId),
      ("customer_id", textField e.customerId), ("plan", textField e.planSlug),
      ("upstream_provider", textField e.upstreamProvider),
      ("organization_id", textField e.organizationId),
      ("checkout_session_id", textField e.checkoutSessionId)]
  let all := (e.metadata ++ facts).foldl (fun fs f => Json.setField f.1 f.2 fs) own
  { subscriberId := u.id
    kind := kind
    amount := amount
    currency := Text.upper e.currency
    status := status
    provider := e.provider
    eventId := e.eventId
    metadata := withoutNulls all }

def booked (e : ProviderEvent) (u : Subscriber) (kind : EntryKind) : Posting :=
  e.posting u kind .succeeded e.amount []

def note (e : ProviderEvent) (u : Subscriber) (action : AuditAction) (severity : Severity)
    (facts : List (String × Json)) : AuditNote :=
  ⟨u.id, action, severity,
    facts ++ [("provider", .string e.provider.name), ("event_id", .string e.eventId)]⟩

/-- The notice of a new subscription, when an organization is named. -/
def tierNotification (e : ProviderEvent) (u : Subscriber) : List IdentityTask :=
  match filled e.organizationId with
  | none => []
  | some organization =>
    let customer := (filled e.customerId).or (filled (u.customerId e.provider))
    [.tierNotification organization (customer.getD u.id) e.planSlug]

/-- A purchase whose plan is not known is booked as such and changes nothing. -/
def unrecognized (e : ProviderEvent) (u : Subscriber) : Transition :=
  { posting := some (e.posting u .subscriptionCreated .succeeded e.amount
      [("unrecognized_plan", .bool true)]) }

/-- `ended` says that the ledger already knows of the end of the subscription. -/
def onCreated (now : Moment) (ended : Bool) (e : ProviderEvent) (u : Subscriber) : Transition :=
  match e.grantedTier with
  | none => e.unrecognized u
  | some tier =>
    if (filled e.subscriptionId).isSome && ended then
      { posting := some (e.posting u .subscriptionCreated .succeeded e.amount
          [("stale_subscription", .bool true)]) }
    else
      { change := some
          { tier := some (some tier)
            tierStartedAt := some (some (e.periodStart.getD now))
            tierExpiresAt := some e.periodEnd
            billingProvider := some (some e.provider)
            upstreamProvider := some e.upstreamProvider
            providerSubscriptionId := some e.subscriptionId }
        note := some (e.note u .subscriptionActivated .medium
          [("tier", .string tier.name), ("subscription_id", textField e.subscriptionId)])
        posting := some (e.booked u .subscriptionCreated)
        tasks := e.tierNotification u ++
          match filled e.identityUserId, filled e.productId with
          | some user, some product => [.roleUpgrade user (some product)]
          | _, _ => [] }

/-- Whether an event names another subscription than the subscriber's own. -/
def isOther (e : ProviderEvent) (own : String) : Bool :=
  match filled e.subscriptionId with
  | some named => own ≠ named
  | none => false

/-- Only the period of the subscriber's own subscription moves its end. -/
def onUpdated (e : ProviderEvent) (u : Subscriber) : Transition :=
  match u.providerSubscriptionId, e.periodEnd with
  | some own, some periodEnd =>
    if e.isOther own then {} else { change := some { tierExpiresAt := some (some periodEnd) } }
  | _, _ => {}

/-- The end of a subscription that is not the subscriber's own is booked and changes nothing. -/
def onCancelled (e : ProviderEvent) (u : Subscriber) : Transition :=
  match (filled u.providerSubscriptionId).filter e.isOther with
  | some _ =>
    { posting := some (e.posting u .subscriptionCancelled .succeeded Decimal.zero
        [("stale_subscription", .bool true)]) }
  | none =>
    { change := some
        { tier := some (some .community)
          tierExpiresAt := some none
          providerSubscriptionId := some none }
      note := some (e.note u .subscriptionCancelled .medium
        [("previous_tier", .string u.tier.name), ("subscription_id", textField e.subscriptionId)])
      posting := some (e.posting u .subscriptionCancelled .succeeded Decimal.zero []) }

def onResumed (e : ProviderEvent) : Transition :=
  match e.grantedTier with
  | none => {}
  | some tier =>
    { change := some
        { tier := some (some tier)
          billingProvider := some (some e.provider)
          tierExpiresAt := e.periodEnd.map some
          providerSubscriptionId := (filled e.subscriptionId).map some } }

/-- The tier is kept: the provider tries again in its own time. -/
def onPaymentFailed (e : ProviderEvent) (u : Subscriber) : Transition :=
  { note := some (e.note u .paymentFailed .high
      [("amount", .string e.amount.text), ("currency", .string e.currency)])
    posting := some (e.posting u .paymentFailed .failed e.amount []) }

def onCheckoutCompleted (now : Moment) (e : ProviderEvent) (u : Subscriber) : Transition :=
  match e.grantedTier with
  | none => e.unrecognized u
  | some tier =>
    { change := some
        { tier := some (some tier)
          tierStartedAt := some (some now)
          billingProvider := some (some e.provider)
          upstreamProvider := (filled e.upstreamProvider).map some
          providerSubscriptionId := (filled e.subscriptionId).map some }
      note := some (e.note u .subscriptionActivated .medium
        [("tier", .string tier.name), ("checkout_session_id", textField e.checkoutSessionId)])
      posting := some (e.booked u .subscriptionCreated)
      tasks := e.tierNotification u ++
        match filled e.identityUserId, filled e.productId, filled e.checkoutSessionId with
        | some user, some product, _ => [.roleUpgrade user (some product)]
        | some user, none, some session => [.checkoutRoleUpgrade user session e.provider]
        | _, _, _ => [] }

/-- What an event does to the subscriber it is about. -/
def transition (now : Moment) (ended : Bool) (e : ProviderEvent) (u : Subscriber) : Transition :=
  match e.kind with
  | .subscriptionCreated => e.onCreated now ended u
  | .subscriptionUpdated => e.onUpdated u
  | .subscriptionCancelled => e.onCancelled u
  | .subscriptionPaused => {}
  | .subscriptionResumed => e.onResumed
  | .paymentSucceeded => { posting := some (e.booked u .paymentSucceeded) }
  | .paymentFailed => e.onPaymentFailed u
  | .checkoutCompleted => e.onCheckoutCompleted now u
  | .refundIssued => { posting := some (e.booked u .refunded) }

end ProviderEvent
end SubscriptionBilling
