import SubscriptionBilling.Payment.Gateway
import SubscriptionBilling.Service.Basic
import SubscriptionBilling.Store.Column
import SubscriptionBilling.Store.Subscribers

/-! One customer for each subscriber and provider. -/
namespace SubscriptionBilling

namespace Subscriber

/-- A text that is there and not empty. -/
def heldId (u : Subscriber) (p : Provider) : Option String :=
  (u.customerId p).filter fun t => !t.isEmpty

/-- Stores an id as a provider wrote it. -/
def keepCustomerId (id : String) (p : Provider) (given : Json) : Transaction Bool := fun db => do
  assignCustomerId id p (← Column.text given) db

/-- The subscriber's id with the provider of a route. A known one is used without a call; a new one
is stored after the provider has made it, unless the slot was filled in the meantime. -/
def ensureCustomer (c : Context) (u : Subscriber) (r : Route) (country : String)
    (organizationId : Option String) : Service Json := do
  match u.heldId r.provider with
  | some id => return .string id
  | none =>
    let id ← Service.online (Payment.createCustomer c.settings r.provider
      ⟨u.id, u.email, u.name, r, country, organizationId⟩)
    if ← Service.commit c (keepCustomerId u.id r.provider id) then return id
    let current ← Service.read c fun db => db.subscriber? u.id
    match current.bind fun v => v.heldId r.provider with
    | some winner => return .string winner
    | none => return id

end Subscriber
end SubscriptionBilling
