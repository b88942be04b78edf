import SubscriptionBilling.Catalog.Tier
import SubscriptionBilling.Decimal.Basic
import SubscriptionBilling.Text.CaseMap

/-! The list of tiers with their prices, in pesos for Mexico and in dollars elsewhere. -/
namespace SubscriptionBilling

structure Offer where
  tier : Tier
  price : Decimal
  currency : String
  features : List String
  deriving Repr

namespace Offer

def pesoPrice : Tier → Decimal
  | .community => ⟨false, 0, 0⟩
  | .essentials => ⟨false, 79, 0⟩
  | .pro => ⟨false, 199, 0⟩

def dollarPrice : Tier → Decimal
  | .community => ⟨false, 0, 0⟩
  | .essentials => ⟨false, 499, -2⟩
  | .pro => ⟨false, 1199, -2⟩

def featuresOf : Tier → List String
  | .community =>
    ["5 ESG calculations/day", "2 Monte Carlo simulations/day", "1 space (personal)",
      "500 API requests/day", "Community support"]
  | .essentials =>
    ["20 ESG calculations/day", "10 Monte Carlo simulations/day", "AI categorization",
      "2 spaces (personal + business)", "Belvo + Bitso connections", "500 MB document storage",
      "Email support (48hr SLA)"]
  | .pro =>
    ["Unlimited ESG calculations", "Unlimited Monte Carlo simulations",
      "All provider connections", "Collectibles valuation", "Life Beat / estate planning",
      "Household views", "5 spaces, 5 GB storage", "Priority support (24hr SLA)"]

def mexico : String := "MX"

/-- The offers in a country, which is given in any letter case. -/
def listFor (country : String) : List Offer :=
  if Text.upper country = mexico then
    Tier.all.map fun t => ⟨t, pesoPrice t, "MXN", featuresOf t⟩
  else
    Tier.all.map fun t => ⟨t, dollarPrice t, "USD", featuresOf t⟩

end Offer
end SubscriptionBilling
