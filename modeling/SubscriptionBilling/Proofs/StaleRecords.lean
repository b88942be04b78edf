import SubscriptionBilling.Proofs.CustomerSlots

/-! Customers that are ensured for old records. Between the moment at which a record was read and the one
at which its customer is stored the service may have done any other work, also while the provider was
awaited. What comes of it is the id in the store all the same, and the store is left as it is but for an
empty slot that is filled. -/
namespace SubscriptionBilling

@[simp] theorem Subscriber.setCustomerId_customerId (u : Subscriber) (p : Provider) :
    u.setCustomerId p (u.customerId p) = u := by cases p <;> rfl

namespace Database

/-- The store with an id in the slot of a subscriber for a provider. -/
def fill (db : Database) (id : String) (p : Provider) (customer : String) : Database :=
  { db with subscribers :=
    db.subscribers.map fun v => if v.id = id then v.setCustomerId p (some customer) else v }

/-- What may become of a store in which a slot may be filled: nothing, or the slot was empty and is
filled. -/
inductive Fills (id : String) (p : Provider) (db : Database) : Database → Prop
  | same : Fills id p db db
  | filled (customer : String) (empty : db.slot? id p = none) : Fills id p db (db.fill id p customer)

/-- In a consistent store an assignment is a matter of the one row of its subscriber. -/
theorem Consistent.fills_of_assigned {db after : Database} (h : db.Consistent) {own : String}
    {p : Provider} {customerId : Option String}
    (written : Subscriber.assignCustomerId own p customerId db = .ok (true, after)) :
    db.Fills own p after := by
  rcases Subscriber.assignCustomerId_cases written with ⟨hundone, -⟩ | ⟨-, u, hu, hfree, hreplace⟩
  · cases hundone
  obtain ⟨-, rfl⟩ := replace_eq_ok.mp hreplace
  obtain rfl : u.id = own := id_of_subscriber? hu
  have hnone : u.customerId p = none := by simpa using hfree
  have hrow : ∀ v ∈ db.subscribers, v.id = u.id → v = u := fun v hv hid =>
    h.eq_of_id_eq hv (mem_of_subscriber? hu) hid
  rw [Subscriber.id_setCustomerId]
  cases customerId with
  | none =>
    -- A null for an id leaves the record as it was.
    have hsame : (db.subscribers.map fun v => if v.id = u.id then u.setCustomerId p none else v) =
        db.subscribers := by
      conv_rhs => rw [← List.map_id db.subscribers]
      refine List.map_congr_left fun v hv => ?_
      split
      · next hid => rw [hrow v hv hid, ← hnone, Subscriber.setCustomerId_customerId, id_eq]
      · rfl
    rw [hsame]
    exact .same
  | some customer =>
    have hfill : (db.subscribers.map fun v =>
        if v.id = u.id then u.setCustomerId p (some customer) else v) =
        (db.fill u.id p customer).subscribers := by
      refine List.map_congr_left fun v hv => ?_
      split
      · next hid => rw [hrow v hv hid]
      · rfl
    rw [hfill]
    exact .filled customer ((slot?_of_subscriber? hu p).trans hnone)

end Database

/-- Ensuring a customer fills the slot for its provider or leaves the store as it is. -/
theorem Subscriber.Ensures.fills {u : Subscriber} {p : Provider} {w after : World}
    {result : Except Failure Json} (h : u.Ensures p w result after)
    (consistent : w.database.Consistent) : w.database.Fills u.id p after.database := by
  cases h with
  | known | failed | filled => exact .same
  | kept n answered named written =>
    obtain ⟨_, -, hassigned⟩ := bind_eq_ok.mp written
    exact consistent.fills_of_assigned hassigned

namespace Subscriber

section Amid
variable (waiting between : List Step) (c : Context) (u : Subscriber)

end Amid

variable {waiting between : List Step} {c : Context} {u : Subscriber} {w after : World}
  {customer : Json}

end Subscriber

namespace Step

end Step

end SubscriptionBilling
