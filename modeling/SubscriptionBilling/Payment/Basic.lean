import SubscriptionBilling.Catalog.Plan
import SubscriptionBilling.Network.Basic
import SubscriptionBilling.Routing.Router

/-! What the service asks of a payment provider, whichever one it is. -/
namespace SubscriptionBilling

structure NewCustomer where
  subscriberId : String
  email : String
  name : Option String
  route : Route
  country : String
  organizationId : Option String

/-- `customer` is the id as the provider wrote it. The metadata comes back on the events of the
purchase. -/
structure CheckoutOrder where
  customer : Json
  email : String
  plan : Plan
  route : Route
  country : String
  successUrl : String
  cancelUrl : String
  metadata : List (String × Json)
  organizationId : Option String

structure CheckoutSession where
  id : String
  url : String
  deriving DecidableEq, Repr

namespace Payment

def unavailable (p : Provider) (reason : String) : Failure :=
  .billing (.providerUnavailable p reason)

/-- A session is known by texts alone. -/
def session (id url : Json) : Except Failure CheckoutSession :=
  match id, url with
  | .string i, .string u => .ok ⟨i, u⟩
  | _, _ => .error .invalidRecord

def optionalText : Option String → Json := Json.ofOption Json.string

end Payment
end SubscriptionBilling
