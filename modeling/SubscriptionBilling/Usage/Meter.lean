import SubscriptionBilling.Catalog.Limits
import SubscriptionBilling.Service.Subscription
import SubscriptionBilling.Store.Counters
import SubscriptionBilling.Usage.FeatureUsage

/-! Metering use against the daily caps of tiers. Days are days in UTC. Recording and checking do
not wait for each other; consuming checks and counts in one step and never passes the cap. -/
namespace SubscriptionBilling

/-- The result of an attempt to use a feature once: the new count, or the present one when it is
refused. -/
structure Consumption where
  allowed : Bool
  feature : Feature
  count : Int
  limit : Option Int
  deriving DecidableEq, Repr

structure UsageSummary where
  subscriberId : String
  tier : Tier
  date : Date
  features : List FeatureUsage
  deriving DecidableEq, Repr

namespace Meter

def today (c : Context) : Date := c.moment.utcDate

/-- A cap that applies to a tier. -/
def capOf (t : Tier) (f : Feature) : Option Int :=
  if t.isUnlimited then none else (t.dailyCap f).map Int.ofNat

def tierOf (c : Context) (id : String) : Service Tier := do
  return (← Subscription.require c id).tier

/-- Counts one use, whatever the cap. -/
def record (c : Context) (id : String) (f : Feature) : Service Int :=
  Service.commit c (CounterKey.increment ⟨id, f, today c⟩ 1)

/-- Whether the count of the day is below the cap. -/
def isBelowCap (c : Context) (id : String) (f : Feature) : Service Bool := do
  match capOf (← tierOf c id) f with
  | none => return true
  | some cap =>
    if cap = 0 then return false
    let used ← Service.read c fun db => db.count ⟨id, f, today c⟩
    return used < cap

/-- Adds one to a counter below a cap. No count is below a cap of zero or less, so such a cap is
refused without the store. -/
def takeBelow (c : Context) (k : CounterKey) (cap : Int) : Service (Option Int) :=
  if cap ≤ 0 then return none else Service.commit c (k.incrementBelow cap)

/-- Counts one use if the cap allows it. -/
def consume (c : Context) (id : String) (f : Feature) : Service Consumption := do
  let key : CounterKey := ⟨id, f, today c⟩
  match capOf (← tierOf c id) f with
  | none => return ⟨true, f, ← Service.commit c (key.increment 1), none⟩
  | some cap =>
    match ← takeBelow c key cap with
    | some count => return ⟨true, f, count, some cap⟩
    | none => return ⟨false, f, ← Service.read c fun db => db.count key, some cap⟩

def usageOf (t : Tier) (counts : List (Feature × Int)) (f : Feature) : FeatureUsage :=
  ⟨f, (counts.lookup f).getD 0, (capOf t f).getD (-1)⟩

/-- The use of every feature on the present day. -/
def summary (c : Context) (id : String) : Service UsageSummary := do
  let tier ← tierOf c id
  let counts ← Service.read c fun db => db.countsOn id (today c)
  return ⟨id, tier, today c, Feature.all.map (usageOf tier counts)⟩

end Meter
end SubscriptionBilling
