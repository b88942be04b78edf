import SubscriptionBilling.Proofs.CustomerSlots
import SubscriptionBilling.Proofs.PlanSpellings
import SubscriptionBilling.Proofs.TierMoves
import SubscriptionBilling.Proofs.TranslatedEvents

/-! What is bought is what is granted. A checkout tells the provider of its plan, in the metadata, by a
price or by a name; the provider's notice brings that back, and the event in it grants the tier of the
plan. -/
namespace SubscriptionBilling

namespace Price

end Price

namespace Json

end Json

namespace Fields
variable {fields : List (String × Json)} {name other : String} {v : Json}

/-! A field is read as before when another one is set. -/

end Fields

namespace StripePayload

/-- An object has metadata in which every field of the given ones stands with its value. -/
def Payload.Carries (p : Payload) (m : List (String × Json)) : Prop :=
  ∃ fields, p.subject.lookup "metadata" = some (.object fields) ∧
    ∀ name v, m.lookup name = some v → fields.lookup name = some v

/-- The payload with metadata on its object, in the place of what is there. -/
def Payload.withMetadata (p : Payload) (m : List (String × Json)) : Payload :=
  { p with subject := Json.setField "metadata" (.object m) p.subject }

theorem carries_withMetadata (p : Payload) (m : List (String × Json)) :
    (p.withMetadata m).Carries m :=
  ⟨m, by rw [Payload.withMetadata, Json.lookup_setField, if_pos rfl], fun _ _ h => h⟩

section WithMetadata
variable {s : Settings} {p : Payload} {m : List (String × Json)} {read : Metadata}

end WithMetadata

end StripePayload

/-! What grants a tier. -/

namespace Call

/-- An argument of a call. -/
def argument? (call : Call) (name : String) : Option Json :=
  match call.request with
  | .arguments fields => fields.lookup name
  | _ => none

/-- A field of the document that a call posts. -/
def posted? (call : Call) (name : String) : Option Json :=
  match call.request with
  | .post _ _ (.document (.object fields)) => fields.lookup name
  | _ => none

end Call

section Calls
variable (s : Settings) (o : CheckoutOrder)

end Calls

/-- Calls of a kind are made on top of earlier ones. -/
theorem made_of_asks {P : Call → Prop} {before after : List Call}
    (path : Relation.ReflTransGen (Asks P) before after) :
    ∃ made, after = before ++ made ∧ ∀ call ∈ made, P call := by
  induction path with
  | refl => exact ⟨[], by simp⟩
  | tail _ hask ih =>
    obtain ⟨made, rfl, hmade⟩ := ih
    obtain ⟨call, hcall, rfl⟩ := hask
    refine ⟨made ++ [call], by simp, ?_⟩
    simpa [or_imp, forall_and, hcall] using hmade

namespace Checkout
variable (c : Context) (r : CheckoutRequest) (plan : Plan)

/-- A field of the metadata of a checkout is the checkout's own, unless an extra field takes its place. -/
theorem lookup_metadata_of_plain {r : CheckoutRequest} {name : String}
    (plain : ∀ f ∈ r.extraMetadata, f.1 ≠ name) (product : Product) :
    (metadata r plan product).lookup name =
      (metadata { r with extraMetadata := [] } plan product).lookup name := by
  rw [metadata, Json.lookup_foldl_setField plain]
  rfl

theorem lookup_metadata {r : CheckoutRequest} (plain : ∀ f ∈ r.extraMetadata, f.1 ≠ "plan")
    (product : Product) : (metadata r plan product).lookup "plan" = some (.string plan.slug) :=
  lookup_metadata_of_plain plan plain product

end Checkout
end SubscriptionBilling
