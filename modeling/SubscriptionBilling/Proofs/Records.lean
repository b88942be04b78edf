import SubscriptionBilling.Proofs.Reachability

/-! What an arrival does to the records of subscribers. It edits one record, that of the subscriber it
is about, and nobody's ids with the providers. -/
namespace SubscriptionBilling

/-- The change that a transition makes, which may be the empty one. -/
def Transition.edit (t : Transition) : SubscriberChange := t.change.getD {}

theorem Transition.subscribers_result (c : Context) (u : Subscriber) (t : Transition)
    (db : Database) : (t.result c u db).subscribers = (db.amend u.id t.edit).subscribers := by
  unfold result edit
  cases t.change <;> simp

namespace ProviderEvent

theorem mem_of_subject? {e : ProviderEvent} {db : Database} {u : Subscriber}
    (h : e.subject? db = some u) : u ∈ db.subscribers := by
  unfold subject? at h
  split at h
  · exact Database.mem_of_subscriber? h
  · obtain ⟨id, -, hu⟩ := Option.bind_eq_some_iff.mp h
    exact List.mem_of_find?_eq_some hu

/-- In a consistent store the subscriber that an event is about is the one of that id. -/
theorem subscriber?_of_subject? {e : ProviderEvent} {db : Database} {u : Subscriber}
    (consistent : db.Consistent) (h : e.subject? db = some u) : db.subscriber? u.id = some u :=
  consistent.subscriber?_eq_some_iff.mpr ⟨mem_of_subject? h, rfl⟩

/-- Somebody has the id of the subscriber that an event is about. -/
theorem exists_subscriber?_of_subject? {e : ProviderEvent} {db : Database} {u : Subscriber}
    (h : e.subject? db = some u) : ∃ v, db.subscriber? u.id = some v := by
  rw [← Option.isSome_iff_exists, Database.subscriber?, List.find?_isSome]
  exact ⟨u, mem_of_subject? h, by simp⟩

/-- An event that names no subscriber goes by the provider's id. -/
theorem subject?_of_customerId {e : ProviderEvent}
    (h : e.kind ≠ .checkoutCompleted ∨ filled e.subscriberId = none) (db : Database) :
    e.subject? db = (filled e.customerId).bind (db.subscriberOf? e.provider) := by
  unfold subject?
  split
  · next hk hs =>
    rw [hk, hs] at h
    rcases h with h | h
    · exact absurd rfl h
    · cases h
  · rfl

/-- No event edits an id with a provider. -/
theorem customerId_edit (now : Moment) (ended : Bool) (e : ProviderEvent) (u v : Subscriber)
    (p : Provider) :
    ((e.transition now ended u).edit.apply v).customerId p = v.customerId p := by
  have hstripe : (e.transition now ended u).edit.stripeCustomerId = none := by
    unfold Transition.edit
    cases hch : (e.transition now ended u).change with
    | none => rfl
    | some ch => exact (change_eq_some_iff.mp hch).keeps.2.2
  cases p with
  | stripe => simp only [Subscriber.customerId, SubscriberChange.apply, hstripe, Option.getD_none]
  | janua => rfl

/-- Whether an event puts a subscription into the record: it grants a tier and names the subscription,
and a creation must not find its end in the ledger. -/
def Stores (e : ProviderEvent) (ended : Bool) (s : String) : Prop :=
  e.grantedTier.isSome = true ∧
    (e.kind = .subscriptionCreated ∧ e.subscriptionId = some s ∧ (s = "" ∨ ended = false) ∨
      (e.kind = .subscriptionResumed ∨ e.kind = .checkoutCompleted) ∧
        filled e.subscriptionId = some s)

theorem stores_iff {now : Moment} {ended : Bool} {e : ProviderEvent} {u : Subscriber} {s : String} :
    (e.transition now ended u).edit.providerSubscriptionId = some (some s) ↔ e.Stores ended s := by
  unfold Transition.edit
  constructor
  · intro h
    cases hch : (e.transition now ended u).change with
    | none =>
      rw [hch] at h
      cases h
    | some ch =>
      rw [hch, Option.getD_some] at h
      cases writes_of_change hch with
      | created kind granted running =>
        have own : e.subscriptionId = some s := Option.some.inj h
        refine ⟨by rw [granted]; rfl, .inl ⟨kind, own, or_iff_not_imp_left.mpr fun hne => ?_⟩⟩
        rwa [filled_eq_some_iff.mpr ⟨own, hne⟩] at running
      | updated _ _ _ _ => cases h
      | cancelled _ _ => cases h
      | resumed kind granted =>
        obtain ⟨_, own, hstored⟩ := Option.map_eq_some_iff.mp h
        exact ⟨by rw [granted]; rfl, .inr ⟨.inl kind, Option.some.inj hstored ▸ own⟩⟩
      | bought kind granted =>
        obtain ⟨_, own, hstored⟩ := Option.map_eq_some_iff.mp h
        exact ⟨by rw [granted]; rfl, .inr ⟨.inr kind, Option.some.inj hstored ▸ own⟩⟩
  · rintro ⟨hgranted, ⟨kind, own, hrunning⟩ | ⟨kind | kind, own⟩⟩ <;>
      obtain ⟨tier, granted⟩ := Option.isSome_iff_exists.mp hgranted
    · have running : ((filled e.subscriptionId).isSome && ended) = false := by
        rcases hrunning with rfl | hended
        · rw [own]
          rfl
        · rw [hended, Bool.and_false]
      rw [(Writes.created kind granted running).change, Option.getD_some, own]
    · rw [(Writes.resumed kind granted).change, Option.getD_some, own, Option.map_some]
    · rw [(Writes.bought kind granted).change, Option.getD_some, own, Option.map_some]

end ProviderEvent

namespace Arrival

/-- The record of the subscriber takes the edit, every other one stays. -/
theorem subscriber?_of_settles {a : Arrival} {db : Database} {u : Subscriber}
    (h : a.event.Settles a.context db u) (id : String) :
    (a.after db).subscriber? id =
      if id = u.id then
        (db.subscriber? u.id).map (a.event.transitionAt a.context db u).edit.apply
      else db.subscriber? id := by
  rw [after_of_settles h]
  unfold Database.subscriber?
  rw [Transition.subscribers_result]
  exact Database.subscriber?_amend db u.id id _

/-- In a consistent store the edit meets just the one record. -/
theorem subscribers_of_settles {a : Arrival} {db : Database} {u : Subscriber}
    (consistent : db.Consistent) (h : a.event.Settles a.context db u) :
    (a.after db).subscribers = db.subscribers.map fun v =>
      if v.id = u.id then (a.event.transitionAt a.context db u).edit.apply v else v := by
  rw [after_of_settles h, Transition.subscribers_result, consistent.subscribers_amend]

theorem subscriber?_after (a : Arrival) (db : Database) (id : String) :
    ((a.after db).subscriber? id).map (fun v => v.id) = (db.subscriber? id).map fun v => v.id := by
  rcases a.after_cases db with hdb | ⟨u, hs⟩
  · rw [hdb]
  · rw [subscriber?_of_settles hs]
    split
    · next hid =>
      rw [hid, Option.map_map]
      rfl
    · rfl

/-- Whoever a provider knows by an id before an arrival is known by it afterwards. -/
theorem subscriberOf?_after {db : Database} (consistent : db.Consistent) (a : Arrival)
    (p : Provider) (customerId : String) :
    ((a.after db).subscriberOf? p customerId).map (fun v => v.id) =
      (db.subscriberOf? p customerId).map fun v => v.id := by
  rcases a.after_cases db with hdb | ⟨u, hs⟩
  · rw [hdb]
  · unfold Database.subscriberOf?
    rw [subscribers_of_settles consistent hs, List.find?_map, Option.map_map]
    have hid : (fun v : Subscriber => v.id) ∘ (fun v : Subscriber => if v.id = u.id then
        (a.event.transitionAt a.context db u).edit.apply v else v) = fun v => v.id := by
      funext v
      simp only [Function.comp]
      split <;> rfl
    have hkey : (fun v : Subscriber => decide (v.customerId p = some customerId)) ∘
        (fun v => if v.id = u.id then (a.event.transitionAt a.context db u).edit.apply v else v) =
        fun v => decide (v.customerId p = some customerId) := by
      funext v
      simp only [Function.comp]
      split
      · rw [ProviderEvent.transitionAt, ProviderEvent.customerId_edit]
      · rfl
    rw [hid, hkey]

/-- Arrivals do not change who an event is about. -/
theorem subject?_after {db : Database} (consistent : db.Consistent) (a : Arrival)
    (e : ProviderEvent) :
    (e.subject? (a.after db)).map (fun v => v.id) = (e.subject? db).map fun v => v.id := by
  unfold ProviderEvent.subject?
  split
  · exact subscriber?_after a db _
  · cases ProviderEvent.filled e.customerId with
    | none => rfl
    | some id => exact subscriberOf?_after consistent a e.provider id

theorem subject?_run {db : Database} (consistent : db.Consistent) (arrivals : List Arrival)
    (e : ProviderEvent) :
    (e.subject? (run arrivals db)).map (fun v => v.id) = (e.subject? db).map fun v => v.id := by
  induction arrivals generalizing db with
  | nil => rfl
  | cons a rest ih => exact (ih (consistent.arrived a)).trans (subject?_after consistent a e)

end Arrival
end SubscriptionBilling
