import SubscriptionBilling.Proofs.Records

/-! Taking back what was granted. A grant puts its subscription into the record, so the provider's
notice of its end is not stale there. But such a notice goes by the provider's id for its customer,
and a completed checkout that names its subscriber does not. -/
namespace SubscriptionBilling

/-- What the end of a subscription does to the record that holds it. -/
def SubscriberChange.revocation : SubscriberChange where
  tier := some (some .community)
  tierExpiresAt := some none
  providerSubscriptionId := some none

/-- A record without a subscription clashes with nobody that it did not clash with before. -/
theorem Subscriber.clashes_revoked {u v : Subscriber} (h : v.clashes u = false) :
    v.clashes (SubscriberChange.revocation.apply u) = false := by
  simp only [Subscriber.clashes, Bool.or_eq_false_iff] at h ⊢
  refine ⟨h.1, ?_⟩
  simp only [meet, SubscriberChange.apply, SubscriberChange.revocation, Option.getD_some]
  cases v.providerSubscriptionId <;> rfl

namespace ProviderEvent

/-- An event that gives a tier and is no cancellation puts its subscription into the record. -/
theorem stores_of_tier {e : ProviderEvent} {s : String} {tier : Tier} {now : Moment} {ended : Bool}
    {u : Subscriber} (kind : e.kind ≠ .subscriptionCancelled)
    (own : filled e.subscriptionId = some s)
    (h : (e.transition now ended u).edit.tier = some (some tier)) :
    (e.transition now ended u).edit.providerSubscriptionId = some (some s) := by
  unfold Transition.edit at h ⊢
  cases hch : (e.transition now ended u).change with
  | none =>
    rw [hch] at h
    cases h
  | some ch =>
    rw [hch, Option.getD_some] at h
    rw [Option.getD_some]
    cases writes_of_change hch with
    | created hkind granted running => rw [(filled_eq_some_iff.mp own).1]
    | updated hkind active same ends => cases h
    | cancelled hkind same => exact absurd hkind kind
    | resumed hkind granted => rw [own, Option.map_some]
    | bought hkind granted => rw [own, Option.map_some]

/-- The end of a subscription is no other one's where the record holds that subscription or none. -/
theorem same_of_holds {e : ProviderEvent} {s : String} {u : Subscriber}
    (own : e.subscriptionId = some s)
    (holds : u.providerSubscriptionId = none ∨ u.providerSubscriptionId = some s) :
    (filled u.providerSubscriptionId).filter e.isOther = none := by
  rw [Option.filter_eq_none_iff]
  intro t ht hother
  obtain ⟨ht, hne⟩ := filled_eq_some_iff.mp ht
  rcases holds with hnone | hsome
  · rw [hnone] at ht
    cases ht
  · obtain rfl := Option.some.inj (ht.symm.trans hsome)
    simp [isOther, filled_eq_some_iff.mpr ⟨own, hne⟩] at hother

end ProviderEvent

namespace Arrival

/-- An arrival that gives a subscriber a tier for a provider's customer and subscription. -/
structure Grants (a : Arrival) (db : Database) (u : Subscriber) (c s : String) : Prop where
  kind : a.event.kind = .subscriptionCreated ∨ a.event.kind = .subscriptionResumed ∨
    a.event.kind = .checkoutCompleted
  customer : ProviderEvent.filled a.event.customerId = some c
  subscription : ProviderEvent.filled a.event.subscriptionId = some s
  settles : a.event.Settles a.context db u
  tier : ∃ tier, (a.event.transitionAt a.context db u).edit.tier = some (some tier)

/-- The record after a grant holds the subscription, under the ids that it had. -/
theorem Grants.record {a : Arrival} {db : Database} {u : Subscriber} {c s : String}
    (h : a.Grants db u c s) (consistent : db.Consistent) :
    ∃ v, (a.after db).subscriber? u.id = some v ∧ v.providerSubscriptionId = some s ∧
      ∀ p, v.customerId p = u.customerId p := by
  have kind : a.event.kind ≠ .subscriptionCancelled := by
    rcases h.kind with hk | hk | hk <;> rw [hk] <;> decide
  obtain ⟨tier, htier⟩ := h.tier
  have hstores := ProviderEvent.stores_of_tier kind h.subscription htier
  refine ⟨(a.event.transitionAt a.context db u).edit.apply u, ?_, ?_, ?_⟩
  · rw [subscriber?_of_settles h.settles, if_pos rfl,
      ProviderEvent.subscriber?_of_subject? consistent h.settles.subject, Option.map_some]
  · simp only [ProviderEvent.transitionAt, SubscriberChange.apply, hstores, Option.getD_some]
  · exact ProviderEvent.customerId_edit _ _ _ _ _

/-- A grant that goes by the customer is one to the subscriber whom the provider knows by it. -/
theorem Grants.customerId {a : Arrival} {db : Database} {u : Subscriber} {c s : String}
    (h : a.Grants db u c s)
    (byCustomer : a.event.kind ≠ .checkoutCompleted ∨
      ProviderEvent.filled a.event.subscriberId = none) :
    u.customerId a.event.provider = some c := by
  have hsubject := h.settles.subject
  rw [ProviderEvent.subject?_of_customerId byCustomer, h.customer, Option.bind_some] at hsubject
  simpa using List.find?_some hsubject

/-- An undisturbed cancellation in its time is processed for the subscriber that holds the
subscription. -/
theorem settles_cancelled {a : Arrival} {db : Database} {u : Subscriber} {s : String}
    (consistent : db.Consistent) (kind : a.event.kind = .subscriptionCancelled)
    (own : a.event.subscriptionId = some s) (holds : u.providerSubscriptionId = some s)
    (subject : a.event.subject? db = some u)
    (fresh : db.books a.event.provider a.event.eventId = false) (calm : a.context.fault = none)
    (inTime : a.context.settings.webhookDeadlineSeconds.isPositive = true) :
    a.event.Settles a.context db u := by
  have hstrike := strike_of_undisturbed calm
  have same := ProviderEvent.same_of_holds own (.inr holds)
  refine ⟨inTime, hstrike _, hstrike _, .inr fresh, subject, ?_, fun _ => hstrike _, ?_⟩
  · intro ch hch
    obtain rfl : ch = .revocation :=
      Option.some.inj (hch.symm.trans (ProviderEvent.Writes.cancelled kind same).change)
    refine ⟨hstrike _, fun _ v hv => ⟨rfl, fun w hw hne => ?_⟩⟩
    have hmem := ProviderEvent.mem_of_subject? subject
    obtain rfl := consistent.eq_of_id_eq (Database.mem_of_subscriber? hv) hmem
      (Database.id_of_subscriber? hv)
    have hwv : w ≠ v := fun h => hne (congrArg Subscriber.id h)
    exact Subscriber.clashes_revoked (consistent.distinct hw hmem hwv).2
  · intro p hp
    simp only [ProviderEvent.transitionAt, ProviderEvent.transition, kind] at hp
    obtain ⟨facts, hposting⟩ := a.event.onCancelled_posting u
    obtain rfl := Option.some.inj (hp.symm.trans hposting)
    have hzero : (bookedAmount? Decimal.zero).isSome = true := by decide +kernel
    exact ⟨hstrike _, fresh, hzero⟩

/-- The record after the end of a subscription, when it held no other one. -/
theorem subscriber?_of_cancelled_of_same {a : Arrival} {db : Database} {u : Subscriber}
    (consistent : db.Consistent) (kind : a.event.kind = .subscriptionCancelled)
    (same : (ProviderEvent.filled u.providerSubscriptionId).filter a.event.isOther = none)
    (settles : a.event.Settles a.context db u) :
    (a.after db).subscriber? u.id = some (SubscriberChange.revocation.apply u) := by
  have hedit : (a.event.transitionAt a.context db u).edit = .revocation := by
    rw [Transition.edit, ProviderEvent.transitionAt,
      (ProviderEvent.Writes.cancelled kind same).change]
    rfl
  rw [subscriber?_of_settles settles, if_pos rfl, hedit,
    ProviderEvent.subscriber?_of_subject? consistent settles.subject, Option.map_some]

/-- The record after the end of the very subscription that it held. -/
theorem subscriber?_of_cancelled {a : Arrival} {db : Database} {u : Subscriber} {s : String}
    (consistent : db.Consistent) (kind : a.event.kind = .subscriptionCancelled)
    (own : a.event.subscriptionId = some s) (holds : u.providerSubscriptionId = some s)
    (settles : a.event.Settles a.context db u) :
    (a.after db).subscriber? u.id = some (SubscriberChange.revocation.apply u) :=
  subscriber?_of_cancelled_of_same consistent kind (ProviderEvent.same_of_holds own (.inr holds))
    settles

end Arrival

/-- The notice that what an event granted has ended. -/
structure ProviderEvent.Ends (grant e : ProviderEvent) : Prop where
  kind : e.kind = .subscriptionCancelled
  provider : e.provider = grant.provider
  customerId : e.customerId = grant.customerId
  subscriptionId : e.subscriptionId = grant.subscriptionId

/-- Nothing is left of a subscription in the record. -/
def Subscriber.IsUnsubscribed (u : Subscriber) : Prop :=
  u.tier = .community ∧ u.tierExpiresAt = none ∧ u.providerSubscriptionId = none

namespace Arrival

/-- A grant is taken back by the notice of its end exactly if the subscriber is known to the provider
by the customer that both name. It is whenever the grant went by the customer; only a completed
checkout that names its subscriber may be for somebody else's customer. -/
theorem revoked_iff {db₀ db : Database} (reachable : db₀.Reachable) {grant cancel : Arrival}
    {u : Subscriber} {c s : String} (granted : grant.Grants db₀ u c s) (between : List Arrival)
    (idle : ∀ k ∈ trace between (grant.after db₀), k.1.isProcessed k.2 = false)
    (later : run between (grant.after db₀) = db) (ends : grant.event.Ends cancel.event)
    (fresh : db.books cancel.event.provider cancel.event.eventId = false) :
    (grant.event.kind ≠ .checkoutCompleted ∨
        ProviderEvent.filled grant.event.subscriberId = none →
      u.customerId grant.event.provider = some c) ∧
    (u.customerId grant.event.provider = some c → cancel.context.fault = none →
      cancel.context.settings.webhookDeadlineSeconds.isPositive = true →
      cancel.isProcessed db = true) ∧
    (cancel.isProcessed db = true →
      ((∃ v, (cancel.after db).subscriber? u.id = some v ∧ v.IsUnsubscribed) ↔
        u.customerId grant.event.provider = some c)) := by
  have consistent₀ : db₀.Consistent := reachable.consistent
  obtain rfl : grant.after db₀ = db := (run_eq_self idle).symm.trans later
  have consistent := consistent₀.arrived grant
  obtain ⟨v, hv, holds, hids⟩ := granted.record consistent₀
  have hid : v.id = u.id := Database.id_of_subscriber? hv
  have own : cancel.event.subscriptionId = some s :=
    ends.subscriptionId.trans (ProviderEvent.filled_eq_some_iff.mp granted.subscription).1
  have hsubject : cancel.event.subject? (grant.after db₀) =
      (grant.after db₀).subscriberOf? grant.event.provider c := by
    have hkind : cancel.event.kind ≠ .checkoutCompleted := by
      rw [ends.kind]
      decide
    rw [ProviderEvent.subject?_of_customerId (.inl hkind), ends.customerId, granted.customer,
      ends.provider, Option.bind_some]
  have hknown : u.customerId grant.event.provider = some c →
      cancel.event.subject? (grant.after db₀) = some v := by
    intro hu
    rw [hsubject, consistent.subscriberOf?_eq_some_iff]
    exact ⟨Database.mem_of_subscriber? hv, (hids _).trans hu⟩
  refine ⟨granted.customerId, fun hu calm inTime => ?_, fun processed => ⟨?_, fun hu => ?_⟩⟩
  · exact isProcessed_iff.mpr
      ⟨v, settles_cancelled consistent ends.kind own holds (hknown hu) fresh calm inTime⟩
  · rintro ⟨w, hw, -, -, hnone⟩
    -- Somebody else's record is written, so the one of the grant would still hold the subscription.
    by_contra hu
    obtain ⟨x, hx⟩ := isProcessed_iff.mp processed
    have hxc := (consistent.subscriberOf?_eq_some_iff.mp (hsubject.symm.trans hx.subject)).2
    have hne : u.id ≠ x.id := by
      intro hux
      have hvx : v = x := consistent.eq_of_id_eq (Database.mem_of_subscriber? hv)
        (ProviderEvent.mem_of_subject? hx.subject) (hid.trans hux)
      exact hu ((hids _).symm.trans (hvx ▸ hxc))
    rw [subscriber?_of_settles hx, if_neg hne, hv] at hw
    obtain rfl := Option.some.inj hw
    rw [holds] at hnone
    cases hnone
  · obtain ⟨x, hx⟩ := isProcessed_iff.mp processed
    obtain rfl : v = x := Option.some.inj ((hknown hu).symm.trans hx.subject)
    refine ⟨_, hid ▸ subscriber?_of_cancelled consistent ends.kind own holds hx, ?_⟩
    exact ⟨rfl, rfl, rfl⟩

theorem revoked_after_creation :
    let created := brokered .subscriptionCreated "subscription.created" "evt_1"
    let cancelled := brokered .subscriptionCancelled "subscription.cancelled" "evt_2"
    let db₀ := Database.ofCustomer "u" "u@example.com" .janua "cus"
    ((created.after db₀).subscriber? "u").map (fun v => v.tier) = some .pro ∧
      cancelled.isProcessed (created.after db₀) = true ∧
      ∃ v, (cancelled.after (created.after db₀)).subscriber? "u" = some v ∧ v.IsUnsubscribed := by
  intro created cancelled db₀
  let u : Subscriber :=
    (Subscriber.enrolled "u" "u@example.com" none none .community).setCustomerId .janua (some "cus")
  have processed : created.isProcessed db₀ = true := by decide +kernel
  have granted : created.Grants db₀ u "cus" "sub" := by
    obtain ⟨w, settles⟩ := isProcessed_iff.mp processed
    obtain rfl : w = u := Option.some.inj (settles.subject.symm.trans (by rfl))
    exact ⟨.inl rfl, by decide, by decide, settles, .pro, by decide +kernel⟩
  have ends : created.event.Ends cancelled.event := ⟨rfl, rfl, rfl, rfl⟩
  obtain ⟨hcustomer, hprocessed, hrevoked⟩ :=
    revoked_iff (Database.reachable_ofCustomer _ _ _ _) granted [] (by simp [trace]) rfl ends
      (by decide +kernel)
  have hknown := hcustomer (.inl (by decide))
  have hcancelled := hprocessed hknown rfl (by decide +kernel)
  exact ⟨by decide +kernel, hcancelled, (hrevoked hcancelled).mpr hknown⟩

/-- One subscriber whom the direct processor knows, and one whom it does not. -/
def customerAndNewcomer : Database where
  subscribers := (Database.ofCustomer "w" "w@example.com" .stripe "cus").subscribers ++
    [Subscriber.enrolled "u" "u@example.com" none none .community]

theorem reachable_customerAndNewcomer : customerAndNewcomer.Reachable :=
  (Database.reachable_ofCustomer "w" "w@example.com" .stripe "cus").enrolled "u" "u@example.com" none
    none .community (by rfl)

/-- A checkout that names its subscriber and is paid by another one's customer: the notice of its end
is processed for the other one, and the tier stays. -/
theorem checkout_not_revoked :
    let bought : Arrival := ⟨{ settings := {}, now := 0 },
      { provider := .stripe, eventId := "evt_1", kind := .checkoutCompleted
        eventType := "checkout.session.completed", customerId := some "cus", subscriberId := some "u"
        subscriptionId := some "sub", planSlug := some "pro" }⟩
    let cancelled : Arrival := ⟨{ settings := {}, now := 0 },
      { provider := .stripe, eventId := "evt_2", kind := .subscriptionCancelled
        eventType := "customer.subscription.deleted", customerId := some "cus"
        subscriptionId := some "sub", planSlug := some "pro" }⟩
    let db := bought.after customerAndNewcomer
    customerAndNewcomer.Reachable ∧
      bought.Grants customerAndNewcomer
        (Subscriber.enrolled "u" "u@example.com" none none .community) "cus" "sub" ∧
      bought.event.Ends cancelled.event ∧ db.books .stripe "evt_2" = false ∧
      cancelled.isProcessed db = true ∧
      ¬∃ v, (cancelled.after db).subscriber? "u" = some v ∧ v.IsUnsubscribed := by
  intro bought cancelled db
  have granted : bought.Grants customerAndNewcomer
      (Subscriber.enrolled "u" "u@example.com" none none .community) "cus" "sub" := by
    obtain ⟨w, settles⟩ := isProcessed_iff.mp
      (show bought.isProcessed customerAndNewcomer = true by decide +kernel)
    obtain rfl : w = Subscriber.enrolled "u" "u@example.com" none none .community :=
      Option.some.inj (settles.subject.symm.trans (by rfl))
    exact ⟨.inr (.inr rfl), by decide, by decide, settles, .pro, by decide +kernel⟩
  have htier : ((cancelled.after db).subscriber? "u").map (fun v => v.tier) = some .pro := by
    decide +kernel
  refine ⟨reachable_customerAndNewcomer, granted, ⟨rfl, rfl, rfl, rfl⟩, by decide +kernel,
    by decide +kernel, ?_⟩
  rintro ⟨v, hv, hbase, -, -⟩
  rw [hv, Option.map_some, hbase] at htier
  cases htier

end Arrival
end SubscriptionBilling
