import SubscriptionBilling.Proofs.Processing

/-! What the transitions of all kinds of events have in common: which of them book, under which name
they book, and which parts of a subscriber they leave alone. -/
namespace SubscriptionBilling

/-- The kinds of events that are booked in the ledger. -/
def EventKind.isBooked : EventKind → Bool
  | .subscriptionUpdated => false
  | .subscriptionPaused => false
  | .subscriptionResumed => false
  | _ => true

namespace ProviderEvent

theorem filled_eq_some_iff {s : Option String} {t : String} :
    filled s = some t ↔ s = some t ∧ t ≠ "" := by
  unfold filled
  rw [Option.filter_eq_some_iff]
  simp

/-- The end of a subscription is always booked, as stale or not. -/
theorem onCancelled_posting (e : ProviderEvent) (u : Subscriber) :
    ∃ facts, (e.onCancelled u).posting =
      some (e.posting u .subscriptionCancelled .succeeded Decimal.zero facts) := by
  unfold onCancelled
  split <;> exact ⟨_, rfl⟩

theorem onCreated_posting (now : Moment) (ended : Bool) (e : ProviderEvent) (u : Subscriber) :
    ∃ facts, (e.onCreated now ended u).posting =
      some (e.posting u .subscriptionCreated .succeeded e.amount facts) := by
  unfold onCreated
  split
  · exact ⟨_, rfl⟩
  · split <;> exact ⟨_, rfl⟩

theorem onCheckoutCompleted_posting (now : Moment) (e : ProviderEvent) (u : Subscriber) :
    ∃ facts, (e.onCheckoutCompleted now u).posting =
      some (e.posting u .subscriptionCreated .succeeded e.amount facts) := by
  unfold onCheckoutCompleted
  split <;> exact ⟨_, rfl⟩

/-- An update writes nothing but the record. -/
theorem onUpdated_quiet (e : ProviderEvent) (u : Subscriber) :
    (e.onUpdated u).note = none ∧ (e.onUpdated u).posting = none ∧ (e.onUpdated u).tasks = [] := by
  unfold onUpdated
  split
  · split <;> exact ⟨rfl, rfl, rfl⟩
  · exact ⟨rfl, rfl, rfl⟩

theorem onResumed_quiet (e : ProviderEvent) :
    e.onResumed.note = none ∧ e.onResumed.posting = none ∧ e.onResumed.tasks = [] := by
  unfold onResumed
  split <;> exact ⟨rfl, rfl, rfl⟩

/-- A kind that is booked is booked by an entry of the event's own. -/
theorem posting_of_booked {e : ProviderEvent} (h : e.kind.isBooked = true) (now : Moment)
    (ended : Bool) (u : Subscriber) :
    ∃ kind status amount facts, (e.transition now ended u).posting =
      some (e.posting u kind status amount facts) := by
  unfold transition
  generalize e.kind = kind at h ⊢
  cases kind with
  | subscriptionCreated => exact ⟨_, _, _, onCreated_posting now ended e u⟩
  | subscriptionCancelled => exact ⟨_, _, _, onCancelled_posting e u⟩
  | paymentSucceeded => exact ⟨_, _, _, _, rfl⟩
  | paymentFailed => exact ⟨_, _, _, _, rfl⟩
  | checkoutCompleted => exact ⟨_, _, _, onCheckoutCompleted_posting now e u⟩
  | refundIssued => exact ⟨_, _, _, _, rfl⟩
  | _ => cases h

/-- A kind that is not booked is not noted either, and leaves no work. -/
theorem quiet_of_not_booked {e : ProviderEvent} (h : e.kind.isBooked = false) (now : Moment)
    (ended : Bool) (u : Subscriber) :
    (e.transition now ended u).note = none ∧ (e.transition now ended u).posting = none ∧
      (e.transition now ended u).tasks = [] := by
  unfold transition
  generalize e.kind = kind at h ⊢
  cases kind with
  | subscriptionUpdated => exact onUpdated_quiet e u
  | subscriptionPaused => exact ⟨rfl, rfl, rfl⟩
  | subscriptionResumed => exact onResumed_quiet e
  | _ => cases h

/-- The changes that events make to a subscriber, one form for each kind that makes any. -/
inductive Writes (now : Moment) (ended : Bool) (e : ProviderEvent) (u : Subscriber) :
    SubscriberChange → Prop
  | created {tier : Tier} (kind : e.kind = .subscriptionCreated)
      (granted : e.grantedTier = some tier)
      (running : ((filled e.subscriptionId).isSome && ended) = false) :
      Writes now ended e u
        { tier := some (some tier)
          tierStartedAt := some (some (e.periodStart.getD now))
          tierExpiresAt := some e.periodEnd
          billingProvider := some (some e.provider)
          upstreamProvider := some e.upstreamProvider
          providerSubscriptionId := some e.subscriptionId }
  | updated {own : String} {periodEnd : Moment} (kind : e.kind = .subscriptionUpdated)
      (active : u.providerSubscriptionId = some own) (same : e.isOther own = false)
      (ends : e.periodEnd = some periodEnd) :
      Writes now ended e u { tierExpiresAt := some (some periodEnd) }
  | cancelled (kind : e.kind = .subscriptionCancelled)
      (same : (filled u.providerSubscriptionId).filter e.isOther = none) :
      Writes now ended e u
        { tier := some (some .community)
          tierExpiresAt := some none
          providerSubscriptionId := some none }
  | resumed {tier : Tier} (kind : e.kind = .subscriptionResumed)
      (granted : e.grantedTier = some tier) :
      Writes now ended e u
        { tier := some (some tier)
          billingProvider := some (some e.provider)
          tierExpiresAt := e.periodEnd.map some
          providerSubscriptionId := (filled e.subscriptionId).map some }
  | bought {tier : Tier} (kind : e.kind = .checkoutCompleted)
      (granted : e.grantedTier = some tier) :
      Writes now ended e u
        { tier := some (some tier)
          tierStartedAt := some (some now)
          billingProvider := some (some e.provider)
          upstreamProvider := (filled e.upstreamProvider).map some
          providerSubscriptionId := (filled e.subscriptionId).map some }

theorem writes_of_change {now : Moment} {ended : Bool} {e : ProviderEvent} {u : Subscriber}
    {ch : SubscriberChange} (h : (e.transition now ended u).change = some ch) :
    e.Writes now ended u ch := by
  unfold transition at h
  cases hk : e.kind <;> simp only [hk] at h
  case subscriptionCreated =>
    unfold onCreated at h
    split at h
    · cases h
    · next tier ht =>
      split at h
      · cases h
      · next hr =>
        cases h
        exact .created hk ht (Bool.eq_false_iff.mpr hr)
  case subscriptionUpdated =>
    unfold onUpdated at h
    split at h
    · next own periodEnd hown hend =>
      split at h
      · cases h
      · next hs =>
        cases h
        exact .updated hk hown (Bool.eq_false_iff.mpr hs) hend
    · cases h
  case subscriptionCancelled =>
    unfold onCancelled at h
    split at h
    · cases h
    · next hs =>
      cases h
      exact .cancelled hk hs
  case subscriptionResumed =>
    unfold onResumed at h
    split at h
    · cases h
    · next tier ht =>
      cases h
      exact .resumed hk ht
  case checkoutCompleted =>
    unfold onCheckoutCompleted at h
    split at h
    · cases h
    · next tier ht =>
      cases h
      exact .bought hk ht
  all_goals cases h

theorem Writes.change {now : Moment} {ended : Bool} {e : ProviderEvent} {u : Subscriber}
    {ch : SubscriberChange} (h : e.Writes now ended u ch) :
    (e.transition now ended u).change = some ch := by
  cases h with
  | created kind granted running => simp [transition, kind, onCreated, granted, running]
  | updated kind active same ends => simp [transition, kind, onUpdated, active, same, ends]
  | cancelled kind same => simp only [transition, kind, onCancelled, same]
  | resumed kind granted => simp only [transition, kind, onResumed, granted]
  | bought kind granted => simp only [transition, kind, onCheckoutCompleted, granted]

/-- The forms of `Writes` are all that an event can change. -/
theorem change_eq_some_iff {now : Moment} {ended : Bool} {e : ProviderEvent} {u : Subscriber}
    {ch : SubscriberChange} :
    (e.transition now ended u).change = some ch ↔ e.Writes now ended u ch :=
  ⟨writes_of_change, Writes.change⟩

/-- No event takes a tier away without giving another one, and none writes an id with a
provider. -/
theorem Writes.keeps {now : Moment} {ended : Bool} {e : ProviderEvent} {u : Subscriber}
    {ch : SubscriberChange} (h : e.Writes now ended u ch) :
    ch ≠ {} ∧ ch.clearsTier = false ∧ ch.stripeCustomerId = none := by
  cases h <;> simp [SubscriberChange.clearsTier]

end ProviderEvent
end SubscriptionBilling
