import SubscriptionBilling.Catalog.Feature
import SubscriptionBilling.Catalog.Tier

/-! What each tier includes: a daily cap for every metered feature and the limits that are not
metered. -/
namespace SubscriptionBilling

/-- The most uses of a feature in a day; `none` is unlimited and zero is not included. -/
def Tier.dailyCap : Tier → Feature → Option Nat
  | .community, .esgCalculation => some 5
  | .community, .monteCarloSimulation => some 2
  | .community, .apiRequest => some 500
  | .community, _ => some 0
  | .essentials, .esgCalculation => some 20
  | .essentials, .monteCarloSimulation => some 10
  | .essentials, .goalProbability => some 5
  | .essentials, .scenarioAnalysis => some 3
  | .essentials, .portfolioRebalance => some 0
  | .essentials, .apiRequest => some 5000
  | .pro, _ => none

/-- A cap as it is shown, with -1 for unlimited. -/
def shownCap : Option Nat → Int
  | none => -1
  | some n => n

/-- Limits that are not metered; `none` is unlimited. -/
structure TierLimits where
  maxSpaces : Nat
  maxProviderConnections : Option Nat
  allowedProviders : Option (List String)
  mlCategorization : Bool
  monteCarloMaxIterations : Nat
  monteCarloMaxScenarios : Nat
  storageBytes : Nat
  lifeBeat : Bool
  householdViews : Bool
  collectiblesValuation : Bool
  deriving DecidableEq, Repr

def megabyte : Nat := 1024 * 1024
def gigabyte : Nat := 1024 * megabyte

def Tier.limits : Tier → TierLimits
  | .community => ⟨1, some 0, some [], false, 1000, 3, 0, false, false, false⟩
  | .essentials => ⟨2, some 3, some ["belvo", "bitso"], true, 5000, 6, 500 * megabyte, false, false,
      false⟩
  | .pro => ⟨5, none, none, true, 10000, 12, 5 * gigabyte, true, true, true⟩

end SubscriptionBilling
