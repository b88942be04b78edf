import SubscriptionBilling.Webhook.JanuaPayload
import SubscriptionBilling.Webhook.StripePayload

/-! From the bytes of a delivery to the event in it. -/
namespace SubscriptionBilling.Delivery
open Fields

def fieldsOf (body : List UInt8) : Except Failure (List (String × Json)) :=
  match Json.ofUtf8 body with
  | .ok (.object fs) => .ok fs
  | _ => .error .invalidRecord

/-- The event in a body; nothing for a type that is not acted on. -/
def event? (s : Settings) (p : Provider) (body : List UInt8) :
    Except Failure (Option ProviderEvent) := do
  let fs ← fieldsOf body
  match p with
  | .stripe => (← check (StripePayload.Payload.ofFields fs)).toEvent? s
  | .janua => (← check (JanuaPayload.Payload.ofFields fs)).toEvent?

end SubscriptionBilling.Delivery
