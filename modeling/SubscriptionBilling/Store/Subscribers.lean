import SubscriptionBilling.Context
import SubscriptionBilling.Store.Database

/-! Subscribers in the store. Their ids, their ids with each provider and their subscription ids are
unique, as far as they are there. -/
namespace SubscriptionBilling

/-- A change to a subscriber: `none` keeps a field, `some none` clears it. -/
structure SubscriberChange where
  tier : Option (Option Tier) := none
  tierStartedAt : Option (Option Moment) := none
  tierExpiresAt : Option (Option Moment) := none
  billingProvider : Option (Option Provider) := none
  upstreamProvider : Option (Option String) := none
  providerSubscriptionId : Option (Option String) := none
  stripeCustomerId : Option (Option String) := none
  deriving DecidableEq, Repr

/-- The store keeps what the clock shows, as if the clock were in UTC. -/
def Moment.stored (m : Moment) : Moment := ⟨m.wall, some 0⟩

namespace SubscriberChange
open Fields

/-- A field that is given, even as null. -/
def given (fields : List (String × Json)) (name : String) (read : Json → Parse α) :
    Parse (Option (Option α)) :=
  withDefault fields name none fun v => (nullable read v).map some

def ofFields (fs : List (String × Json)) : Parse SubscriberChange := do
  let tier ← given fs "subscription_tier" (listed Tier.ofName?)
  let tierStartedAt ← given fs "tier_started_at" moment
  let tierExpiresAt ← given fs "tier_expires_at" moment
  let billingProvider ← given fs "billing_provider" (listed Provider.ofName?)
  let upstreamProvider ← given fs "upstream_provider" text
  let providerSubscriptionId ← given fs "provider_subscription_id" text
  let stripeCustomerId ← given fs "stripe_customer_id" text
  return ⟨tier, tierStartedAt, tierExpiresAt, billingProvider, upstreamProvider,
    providerSubscriptionId, stripeCustomerId⟩

def apply (c : SubscriberChange) (u : Subscriber) : Subscriber :=
  { u with
    tier := (c.tier.getD (some u.tier)).getD u.tier
    tierStartedAt := (c.tierStartedAt.map (·.map Moment.stored)).getD u.tierStartedAt
    tierExpiresAt := (c.tierExpiresAt.map (·.map Moment.stored)).getD u.tierExpiresAt
    billingProvider := c.billingProvider.getD u.billingProvider
    upstreamProvider := c.upstreamProvider.getD u.upstreamProvider
    providerSubscriptionId := c.providerSubscriptionId.getD u.providerSubscriptionId
    stripeCustomerId := c.stripeCustomerId.getD u.stripeCustomerId }

/-- Every subscriber has a tier. -/
def clearsTier (c : SubscriberChange) : Bool := c.tier = some none

end SubscriberChange

/-- Whether two optional values are there and equal. -/
def meet (a b : Option String) : Bool := a.isSome && a = b

/-- Whether two subscribers claim the same id with a provider or the same subscription. -/
def Subscriber.clashes (a b : Subscriber) : Bool :=
  meet a.stripeCustomerId b.stripeCustomerId || meet a.januaCustomerId b.januaCustomerId ||
    meet a.providerSubscriptionId b.providerSubscriptionId

namespace Database

def subscriber? (db : Database) (id : String) : Option Subscriber :=
  db.subscribers.find? fun u => u.id = id

/-- The subscriber that a provider knows by an id. -/
def subscriberOf? (db : Database) (p : Provider) (customerId : String) : Option Subscriber :=
  db.subscribers.find? fun u => u.customerId p = some customerId

/-- Puts a subscriber in the place of the one with the same id. -/
def replace (db : Database) (u : Subscriber) : Except Failure Database :=
  if db.subscribers.any fun v => v.id ≠ u.id && v.clashes u then .error .constraint
  else .ok { db with subscribers := db.subscribers.map fun v => if v.id = u.id then u else v }

def addSubscriber (db : Database) (u : Subscriber) : Except Failure Database :=
  if db.subscribers.any fun v => v.id = u.id || v.clashes u then .error .constraint
  else .ok { db with subscribers := db.subscribers ++ [u] }

end Database

namespace Subscriber

/-- Moments as the store keeps them. -/
def stored (u : Subscriber) : Subscriber :=
  { u with
    tierStartedAt := u.tierStartedAt.map Moment.stored
    tierExpiresAt := u.tierExpiresAt.map Moment.stored }

def add (u : Subscriber) : Transaction Unit := fun db => do
  let db ← db.addSubscriber u.stored
  return ((), db)

/-- Writes a change; an empty one writes nothing. -/
def change (c : Context) (id : String) (ch : SubscriberChange) : Transaction Unit := fun db => do
  c.strike .subscriberWrite
  if ch = {} then return ((), db)
  match db.subscriber? id with
  | none => return ((), db)
  | some u =>
    if ch.clearsTier then throw .constraint
    let db ← db.replace (ch.apply u)
    return ((), db)

/-- Gives a subscriber an id with a provider if there is none yet, and says whether it did. -/
def assignCustomerId (id : String) (p : Provider) (customerId : Option String) :
    Transaction Bool := fun db =>
  match db.subscriber? id with
  | none => .ok (false, db)
  | some u =>
    if (u.customerId p).isSome then .ok (false, db)
    else do
      let db ← db.replace (u.setCustomerId p customerId)
      return (true, db)

end Subscriber
end SubscriptionBilling
