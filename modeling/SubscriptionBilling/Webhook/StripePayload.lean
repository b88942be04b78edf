import SubscriptionBilling.Catalog.Price
import SubscriptionBilling.Json.Reader
import SubscriptionBilling.Webhook.Event

/-! Deliveries of the direct processor: an envelope with the type and the object it is about, whose
amounts are in the smallest unit of the currency. -/
namespace SubscriptionBilling.StripePayload
open Fields

structure Payload where
  id : String
  type : String
  subject : List (String × Json)

def Payload.ofFields (fs : List (String × Json)) : Parse Payload := do
  let id ← required fs "id" text
  let type ← required fs "type" text
  let data ← required fs "data" object
  let body ← required data "object" object
  let _ ← required fs "created" whole
  let _ ← withDefault fs "livemode" false truth
  return ⟨id, type, body⟩

/-- What was attached to an object when it was made. -/
structure Metadata where
  userId : Option String := none
  identityUserId : Option String := none
  plan : Option String := none
  organizationId : Option String := none

def Metadata.ofFields (fs : List (String × Json)) : Parse Metadata := do
  let userId ← optional fs "userId" text
  let identityUserId ← optional fs "janua_user_id" text
  let plan ← optional fs "plan" text
  let organizationId ← optional fs "orgId" text
  let _ ← optional fs "product" text
  let _ ← optional fs "source" text
  return ⟨userId, identityUserId, plan, organizationId⟩

def readMetadata (fs : List (String × Json)) : Parse Metadata :=
  withDefault fs "metadata" {} fun v => do Metadata.ofFields (← object v)

/-- The price of a subscription's item; `product` is an id or a whole object with one. -/
structure ItemPrice where
  id : String
  product : Json
  unitAmount : Option Int

def ItemPrice.ofItem (item : Json) : Parse ItemPrice := do
  let fs ← required (← object item) "price" object
  let id ← required fs "id" text
  let product ← withDefault fs "product" .null .ok
  let unitAmount ← optional fs "unit_amount" whole
  return ⟨id, product, unitAmount⟩

def ItemPrice.productId (p : ItemPrice) : Json :=
  match p.product with
  | .object fs => (fs.lookup "id").getD .null
  | v => v

structure Subscription where
  id : String
  customer : String
  status : String
  currency : Option String
  periodStart : Option Int
  periodEnd : Option Int
  prices : List ItemPrice
  metadata : Metadata

def readPrices (fs : List (String × Json)) : Parse (List ItemPrice) :=
  withDefault fs "items" [] fun v => do
    withDefault (← object v) "data" [] fun data => do (← items data).mapM ItemPrice.ofItem

def Subscription.ofFields (fs : List (String × Json)) : Parse Subscription := do
  let id ← required fs "id" text
  let customer ← required fs "customer" text
  let status ← required fs "status" text
  let currency ← optional fs "currency" text
  let periodStart ← optional fs "current_period_start" whole
  let periodEnd ← optional fs "current_period_end" whole
  let prices ← readPrices fs
  let metadata ← readMetadata fs
  return ⟨id, customer, status, currency, periodStart, periodEnd, prices, metadata⟩

/-- The currency of an event, in capitals. -/
def eventCurrency (currency : Option String) : String :=
  Text.upper (Price.currencyOr Price.defaultCurrency currency)

def Payload.event (p : Payload) (kind : EventKind) : ProviderEvent :=
  { provider := .stripe, eventId := p.id, kind := kind, eventType := p.type }

def checkoutEvent (p : Payload) : Parse ProviderEvent := do
  let fs := p.subject
  let id ← required fs "id" text
  let customer ← optional fs "customer" text
  let subscription ← optional fs "subscription" text
  let amount ← optional fs "amount_total" whole
  let currency ← optional fs "currency" text
  let m ← readMetadata fs
  return { p.event .checkoutCompleted with
    customerId := customer
    subscriberId := m.userId
    subscriptionId := subscription
    planSlug := m.plan
    amount := Price.fromMinorUnits amount currency
    currency := eventCurrency currency
    organizationId := m.organizationId
    identityUserId := m.identityUserId
    checkoutSessionId := some id }

/-- The first item decides about price and product; its price id stands in for the plan when the
plan is not named. -/
def subscriptionEvent (s : Settings) (p : Payload) (kind : EventKind) :
    Except Failure ProviderEvent := do
  let sub ← check (Subscription.ofFields p.subject)
  let price := sub.prices.head?
  let periodStart ← timestamp? sub.periodStart
  let periodEnd ← timestamp? sub.periodEnd
  let productId ← check (nullable text ((price.map ItemPrice.productId).getD .null))
  return { p.event kind with
    customerId := some sub.customer
    subscriberId := sub.metadata.userId
    subscriptionId := some sub.id
    planSlug := sub.metadata.plan
    planTier := (price.bind fun i => Price.tierOf? s i.id).map Tier.name
    periodStart := periodStart
    periodEnd := periodEnd
    amount := Price.fromMinorUnits (price.bind ItemPrice.unitAmount) sub.currency
    currency := eventCurrency sub.currency
    organizationId := sub.metadata.organizationId
    identityUserId := sub.metadata.identityUserId
    productId := productId
    metadata := [("status", .string sub.status)] }

def invoiceEvent (p : Payload) (kind : EventKind) : Parse ProviderEvent := do
  let fs := p.subject
  let id ← required fs "id" text
  let customer ← required fs "customer" text
  let subscription ← optional fs "subscription" text
  let due ← withDefault fs "amount_due" 0 whole
  let paid ← withDefault fs "amount_paid" 0 whole
  let currency ← optional fs "currency" text
  let amount := if kind = .paymentSucceeded then paid else due
  return { p.event kind with
    customerId := some customer
    subscriptionId := subscription
    amount := Price.fromMinorUnits (some amount) currency
    currency := eventCurrency currency
    metadata := [("invoice_id", .string id)] }

def refundEvent (p : Payload) : Parse ProviderEvent := do
  let fs := p.subject
  let id ← required fs "id" text
  let customer ← optional fs "customer" text
  let amount ← withDefault fs "amount_refunded" 0 whole
  let currency ← optional fs "currency" text
  return { p.event .refundIssued with
    customerId := customer
    amount := Price.fromMinorUnits (some amount) currency
    currency := eventCurrency currency
    metadata := [("charge_id", .string id)] }

/-- The event a payload stands for; nothing for types that are not acted on. -/
def Payload.toEvent? (s : Settings) (p : Payload) : Except Failure (Option ProviderEvent) :=
  match p.type with
  | "checkout.session.completed" => (check (checkoutEvent p)).map some
  | "customer.subscription.created" => (subscriptionEvent s p .subscriptionCreated).map some
  | "customer.subscription.updated" => (subscriptionEvent s p .subscriptionUpdated).map some
  | "customer.subscription.deleted" => (subscriptionEvent s p .subscriptionCancelled).map some
  | "invoice.payment_succeeded" => (check (invoiceEvent p .paymentSucceeded)).map some
  | "invoice.payment_failed" => (check (invoiceEvent p .paymentFailed)).map some
  | "charge.refunded" => (check (refundEvent p)).map some
  | _ => .ok none

end SubscriptionBilling.StripePayload
