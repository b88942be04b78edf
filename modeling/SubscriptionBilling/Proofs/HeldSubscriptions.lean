import SubscriptionBilling.Proofs.Refusals
import SubscriptionBilling.Proofs.Revocation

/-! What updates and cancellations do to a subscriber that holds a subscription. They pass it by only
if they name another one. Whether they come from the provider that charges the subscriber is not
asked, and the broker need not name any subscription. -/
namespace SubscriptionBilling

/-- Whether two records of a subscriber show the same tier, end and subscription. -/
def Subscriber.AgreesWith (v u : Subscriber) : Prop :=
  v.tier = u.tier ∧ v.tierExpiresAt = u.tierExpiresAt ∧
    v.providerSubscriptionId = u.providerSubscriptionId

/-- A subscriber that holds a subscription does not agree with the record that is left by its end. -/
theorem Subscriber.not_agreesWith_revoked {u : Subscriber} {own : String}
    (holds : u.providerSubscriptionId = some own) :
    ¬(SubscriberChange.revocation.apply u).AgreesWith u := by
  rintro ⟨-, -, hsame⟩
  rw [holds] at hsame
  cases hsame

theorem Subscriber.agreesWith_extended_iff {u : Subscriber} {periodEnd : Option Moment} :
    (SubscriberChange.apply { tierExpiresAt := periodEnd.map some } u).AgreesWith u ↔
      ∀ m, periodEnd = some m → u.tierExpiresAt = some m.stored := by
  cases periodEnd <;> simp [AgreesWith, SubscriberChange.apply, eq_comm]

namespace ProviderEvent
variable {e : ProviderEvent} {u : Subscriber} {own : String}

/-- A cancellation takes a subscription away unless it names another one. -/
theorem edit_cancelled (kind : e.kind = .subscriptionCancelled)
    (holds : u.providerSubscriptionId = some own) (now : Moment) (ended : Bool) :
    (e.transition now ended u).edit = if own ≠ "" ∧ e.isOther own = true then {} else .revocation := by
  have hfilled : (filled u.providerSubscriptionId).filter e.isOther =
      if own ≠ "" ∧ e.isOther own = true then some own else none := by
    rw [holds]
    unfold filled
    by_cases hown : own = "" <;> by_cases hother : e.isOther own = true <;>
      simp [Option.filter, hown, hother]
  split
  · next h =>
    rw [if_pos h] at hfilled
    simp only [Transition.edit, transition, kind, onCancelled, hfilled, Option.getD_none]
  · next h =>
    rw [if_neg h] at hfilled
    rw [Transition.edit, (Writes.cancelled kind hfilled).change]
    rfl

/-- An update moves the end of a subscription unless it names another one, or no end. -/
theorem edit_updated_of_holds (kind : e.kind = .subscriptionUpdated)
    (holds : u.providerSubscriptionId = some own) (now : Moment) (ended : Bool) :
    (e.transition now ended u).edit =
      if e.isOther own = true then {} else { tierExpiresAt := e.periodEnd.map some } := by
  simp only [Transition.edit, transition, kind, onUpdated, holds]
  cases e.periodEnd <;> cases hother : e.isOther own <;> simp [hother]

end ProviderEvent

namespace Arrival

/-- Whether an arrival leaves a subscriber's tier, its end and the subscription as they were. -/
def Spares (a : Arrival) (db : Database) (u : Subscriber) : Prop :=
  ∃ v, (a.after db).subscriber? u.id = some v ∧ v.AgreesWith u

variable {a : Arrival} {db : Database} {u : Subscriber} {own : String}

/-- An arrival spares its subscriber if it is not processed, or as far as its edit does. -/
theorem spares_iff (consistent : db.Consistent) (subject : a.event.subject? db = some u) :
    a.Spares db u ↔ a.isProcessed db = false ∨
      ((a.event.transitionAt a.context db u).edit.apply u).AgreesWith u := by
  have hrow : db.subscriber? u.id = some u :=
    ProviderEvent.subscriber?_of_subject? consistent subject
  cases hp : a.isProcessed db with
  | false =>
    have hspared : a.Spares db u :=
      ⟨u, by rw [after_eq_of_not_processed hp, hrow], rfl, rfl, rfl⟩
    simp only [hspared, true_or]
  | true =>
    obtain ⟨w, hs⟩ := isProcessed_iff.mp hp
    obtain rfl := Option.some.inj (subject.symm.trans hs.subject)
    have hrecord := subscriber?_of_settles hs u.id
    rw [if_pos rfl, hrow, Option.map_some] at hrecord
    simp only [Spares, hrecord, Option.some.injEq, exists_eq_left', Bool.true_eq_false, false_or]

/-- A subscriber that holds a subscription is spared by the cancellations that name another one, and
by the updates that name another one or show no other end; besides, by those that are not processed.
Without a disturbance all are processed the first time. Which provider charges the subscriber makes
no difference. -/
theorem spares_holder_iff (reachable : db.Reachable) (subject : a.event.subject? db = some u)
    (holds : u.providerSubscriptionId = some own) :
    (a.event.kind = .subscriptionCancelled →
      (a.Spares db u ↔
        a.isProcessed db = false ∨ own ≠ "" ∧ a.event.isOther own = true)) ∧
    (a.event.kind = .subscriptionUpdated →
      (a.Spares db u ↔
        a.isProcessed db = false ∨ a.event.isOther own = true ∨
          ∀ periodEnd, a.event.periodEnd = some periodEnd →
            u.tierExpiresAt = some periodEnd.stored)) ∧
    (a.event.kind = .subscriptionUpdated ∨ a.event.kind = .subscriptionCancelled →
      db.books a.event.provider a.event.eventId = false → a.context.fault = none →
      a.context.settings.webhookDeadlineSeconds.isPositive = true → a.isProcessed db = true) := by
  have consistent := reachable.consistent
  refine ⟨fun kind => ?_, fun kind => ?_, fun kind fresh calm inTime => isProcessed_iff.mpr
    ⟨u, settles_of_undisturbed consistent kind subject fresh calm inTime⟩⟩
  · rw [spares_iff consistent subject, ProviderEvent.transitionAt,
      ProviderEvent.edit_cancelled kind holds]
    split
    · next hother => simp [hother, Subscriber.AgreesWith]
    · next hown => simp only [hown, Subscriber.not_agreesWith_revoked holds]
  · rw [spares_iff consistent subject, ProviderEvent.transitionAt,
      ProviderEvent.edit_updated_of_holds kind holds]
    split
    · next hother => simp [hother, Subscriber.AgreesWith]
    · next hown => simp only [hown, Subscriber.agreesWith_extended_iff, Bool.false_eq_true, false_or]

/-- A cancellation by the broker takes away what the direct processor charges for if it names no
subscription, or the same one. -/
theorem spares_holder_of_purchase :
    let cancelled (subscription : Option String) : Arrival :=
      ⟨directPurchase.context, { (brokered .subscriptionCancelled "" "evt_2").event with
        subscriptionId := subscription }⟩
    let db := directPurchase.after Database.customerOfBoth
    ∃ u, db.subscriber? "u" = some u ∧ u.tier = .pro ∧ u.billingProvider = some .stripe ∧
      u.providerSubscriptionId = some "sub" ∧ (cancelled (some "jsub")).Spares db u ∧
      ¬(cancelled none).Spares db u ∧ ¬(cancelled (some "sub")).Spares db u := by
  intro cancelled db
  have reachable : db.Reachable := Database.reachable_customerOfBoth.arrived directPurchase
  have hrecord : (db.subscriber? "u").map (fun u => (u.tier, u.billingProvider,
      u.providerSubscriptionId)) = some (.pro, some .stripe, some "sub") := by
    decide +kernel
  obtain ⟨u, hu, hfields⟩ := Option.map_eq_some_iff.mp hrecord
  obtain ⟨htier, hprovider, holds⟩ : u.tier = .pro ∧ u.billingProvider = some .stripe ∧
      u.providerSubscriptionId = some "sub" := by simpa using hfields
  have subject : ∀ subscription, (cancelled subscription).event.subject? db = some u :=
    fun _ => hu
  have hspares (subscription : Option String) :=
    (spares_holder_iff reachable (subject subscription) holds).1 rfl
  have inTime : directPurchase.context.settings.webhookDeadlineSeconds.isPositive = true := by
    decide +kernel
  have hprocessed (subscription : Option String) : (cancelled subscription).isProcessed db = true :=
    (spares_holder_iff reachable (subject subscription) holds).2.2 (.inr rfl) (by rfl) rfl inTime
  refine ⟨u, hu, htier, hprovider, holds, (hspares _).mpr (.inr (by decide)), ?_, ?_⟩
  · rw [hspares, hprocessed]
    decide
  · rw [hspares, hprocessed]
    decide

end Arrival
end SubscriptionBilling
