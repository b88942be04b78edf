import SubscriptionBilling.Catalog.Tier
import SubscriptionBilling.Failure
import SubscriptionBilling.Fields.Record
import SubscriptionBilling.Routing.Provider

/-! Subscribers: their tier and when it ends, and their accounts with the payment providers. When a
subscriber was first and last written is kept where it is known; nothing depends on it. -/
namespace SubscriptionBilling

structure Subscriber where
  id : String
  email : String
  name : Option String
  countryCode : Option String
  tier : Tier
  tierStartedAt : Option Moment
  tierExpiresAt : Option Moment
  stripeCustomerId : Option String
  januaCustomerId : Option String
  billingProvider : Option Provider
  upstreamProvider : Option String
  providerSubscriptionId : Option String
  createdAt : Option Moment := none
  updatedAt : Option Moment := none
  deriving DecidableEq, Repr

namespace Subscriber

/-- The id that a provider knows the subscriber by. -/
def customerId (s : Subscriber) : Provider → Option String
  | .stripe => s.stripeCustomerId
  | .janua => s.januaCustomerId

def setCustomerId (s : Subscriber) (p : Provider) (id : Option String) : Subscriber :=
  match p with
  | .stripe => { s with stripeCustomerId := id }
  | .janua => { s with januaCustomerId := id }

/-- A paid tier that has not ended. -/
def isActive (s : Subscriber) (now : Moment) : Bool :=
  !s.tier.isBase &&
    match s.tierExpiresAt with
    | none => true
    | some t => now.instant < t.instant

/-- An end on a clock of unknown offset cannot be compared with the present. -/
def activity (s : Subscriber) (now : Moment) : Except Failure Bool :=
  match s.tierExpiresAt with
  | some ⟨_, none⟩ => if s.tier.isBase then .ok false else .error .mixedClocks
  | _ => .ok (s.isActive now)

/-- Whether an optional text is there and not empty. -/
def hasText (s : Option String) : Bool :=
  match s with
  | some t => !t.isEmpty
  | none => false

/-- The provider that charges the subscriber: the recorded one, or the broker when there is an
account with it alone, or the direct processor. -/
def activeProvider (s : Subscriber) : Provider :=
  match s.billingProvider with
  | some p => p
  | none =>
    if hasText s.januaCustomerId && !hasText s.stripeCustomerId then .janua else .stripe

open Fields

def ofFields (fields : List (String × Json)) : Parse Subscriber := do
  let id ← required fields "id" text
  let email ← required fields "email" text
  let name ← optional fields "name" text
  let countryCode ← optional fields "country_code" text
  let tier ← withDefault fields "subscription_tier" .community (listed Tier.ofName?)
  let tierStartedAt ← optional fields "tier_started_at" moment
  let tierExpiresAt ← optional fields "tier_expires_at" moment
  let stripeCustomerId ← optional fields "stripe_customer_id" text
  let januaCustomerId ← optional fields "janua_customer_id" text
  let billingProvider ← optional fields "billing_provider" (listed Provider.ofName?)
  let upstreamProvider ← optional fields "upstream_provider" text
  let providerSubscriptionId ← optional fields "provider_subscription_id" text
  let createdAt ← optional fields "created_at" moment
  let updatedAt ← optional fields "updated_at" moment
  return ⟨id, email, name, countryCode, tier, tierStartedAt, tierExpiresAt, stripeCustomerId,
    januaCustomerId, billingProvider, upstreamProvider, providerSubscriptionId, createdAt,
    updatedAt⟩

end Subscriber
end SubscriptionBilling
