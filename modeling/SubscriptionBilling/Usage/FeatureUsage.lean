import SubscriptionBilling.Catalog.Feature
import SubscriptionBilling.Fields.Record

/-! How much of a feature's daily cap is used; a negative limit is unlimited. -/
namespace SubscriptionBilling

structure FeatureUsage where
  feature : Feature
  used : Int
  limit : Int
  deriving DecidableEq, Repr

namespace FeatureUsage
open Fields

/-- What is left of the cap, never below zero; nothing when there is no cap. -/
def remaining (u : FeatureUsage) : Option Int :=
  if u.limit < 0 then none else some (max 0 (u.limit - u.used))

def ofFields (fs : List (String × Json)) : Parse FeatureUsage := do
  let feature ← required fs "feature" (listed Feature.ofName?)
  let used ← required fs "used" whole
  let limit ← required fs "limit" whole
  return ⟨feature, used, limit⟩

end FeatureUsage
end SubscriptionBilling
