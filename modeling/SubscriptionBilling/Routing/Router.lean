import SubscriptionBilling.Catalog.Offer
import SubscriptionBilling.Catalog.Product
import SubscriptionBilling.Routing.Provider
import SubscriptionBilling.Settings
import SubscriptionBilling.Text.Blank
import SubscriptionBilling.Text.CaseMap
import SubscriptionBilling.Text.Letters

/-! Which provider charges a subscriber, decided from the country and the product alone. -/
namespace SubscriptionBilling
open Text

structure Route where
  provider : Provider
  upstream : Option Upstream
  deriving DecidableEq, Repr

namespace Route

def direct : Route := ⟨.stripe, none⟩

/-- The name shown to callers: the processor that charges in the end. -/
def label (r : Route) : String :=
  match r.upstream with
  | some u => u.name
  | none => r.provider.name

end Route

/-- `federated` says that the broker is in use; products in `directProducts` (in lower case) never
go through it. -/
structure Router where
  federated : Bool
  directProducts : List String
  defaultCountry : String
  deriving Repr

namespace Router

/-- A router with the given values, or those of the settings; an empty default country counts as
not given. -/
def make (s : Settings) (federated : Option Bool) (directProducts : Option (List String))
    (defaultCountry : Option String) : Router :=
  let country := defaultCountry.getD ""
  ⟨federated.getD s.federatedBillingEnabled,
    (directProducts.getD s.directBillingProducts).map lower,
    upper (if country.isEmpty then s.defaultCountryCode else country)⟩

def ofSettings (s : Settings) : Router := make s none none none

/-- A country code is two letters; anything else stands for the default country. -/
def normalizeCountry (r : Router) (country : Option String) : String :=
  let code := upper (trimBlank (country.getD ""))
  if code.length = 2 ∧ code.toList.all isLetter then code else r.defaultCountry

def upstreamFor (country : String) : Upstream :=
  if country = Offer.mexico then .conekta else .polar

def brokerRoute (r : Router) (country : Option String) : Route :=
  ⟨.janua, some (upstreamFor (r.normalizeCountry country))⟩

def route (r : Router) (country : Option String) (product : Product) : Route :=
  if !r.federated || r.directProducts.contains product.name then Route.direct
  else r.brokerRoute country

/-- The route of a subscriber who is already charged by a provider. -/
def routeExisting (r : Router) (p : Provider) (country : Option String) : Route :=
  match p with
  | .stripe => Route.direct
  | .janua => r.brokerRoute country

/-- The offers in a caller's country. -/
def offers (r : Router) (country : Option String) : List Offer :=
  Offer.listFor (r.normalizeCountry country)

end Router
end SubscriptionBilling
