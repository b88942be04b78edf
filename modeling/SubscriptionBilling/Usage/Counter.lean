import SubscriptionBilling.Catalog.Feature
import SubscriptionBilling.Time.Calendar

/-! Counters of use: one for each subscriber, feature and day. -/
namespace SubscriptionBilling

structure CounterKey where
  subscriberId : String
  feature : Feature
  date : Date
  deriving DecidableEq, Repr

structure UsageCounter where
  id : Nat
  key : CounterKey
  count : Int
  deriving DecidableEq, Repr

end SubscriptionBilling
