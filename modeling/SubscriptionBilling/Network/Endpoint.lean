import SubscriptionBilling.Routing.Provider

/-! The places outside that the service calls. -/
namespace SubscriptionBilling

inductive Endpoint where
  | stripeCustomer
  | stripeCheckout
  | stripeCheckoutLookup
  | stripePortal
  | stripeSubscription
  | januaCustomer
  | januaCheckout
  | januaPortal
  | januaCancel
  | identityRoles
  | identityTier
  | keySet
  deriving DecidableEq, Repr, Inhabited

namespace Endpoint

def all : List Endpoint :=
  [stripeCustomer, stripeCheckout, stripeCheckoutLookup, stripePortal, stripeSubscription,
    januaCustomer, januaCheckout, januaPortal, januaCancel, identityRoles, identityTier, keySet]

def name : Endpoint → String
  | stripeCustomer => "stripe.customer.create"
  | stripeCheckout => "stripe.checkout.create"
  | stripeCheckoutLookup => "stripe.checkout.retrieve"
  | stripePortal => "stripe.portal.create"
  | stripeSubscription => "stripe.subscription.modify"
  | januaCustomer => "janua.customers"
  | januaCheckout => "janua.checkout"
  | januaPortal => "janua.portal"
  | januaCancel => "janua.cancel"
  | identityRoles => "identity.roles"
  | identityTier => "identity.tier"
  | keySet => "jwks"

def ofName? (s : String) : Option Endpoint := all.find? fun e => e.name = s

/-- The payment provider an endpoint belongs to. -/
def provider? : Endpoint → Option Provider
  | stripeCustomer => some .stripe
  | stripeCheckout => some .stripe
  | stripeCheckoutLookup => some .stripe
  | stripePortal => some .stripe
  | stripeSubscription => some .stripe
  | januaCustomer => some .janua
  | januaCheckout => some .janua
  | januaPortal => some .janua
  | januaCancel => some .janua
  | identityRoles => none
  | identityTier => none
  | keySet => none

end Endpoint
end SubscriptionBilling
