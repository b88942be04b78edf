import SubscriptionBilling.Proofs.Records

/-! Second deliveries of updates and resumptions. No entry of the ledger tells that such an event was
processed before, so it is processed again, and what it wrote at first is written over whatever was
written since. -/
namespace SubscriptionBilling

/-- A change that is made twice is made once. -/
theorem SubscriberChange.apply_apply (ch : SubscriberChange) (u : Subscriber) :
    ch.apply (ch.apply u) = ch.apply u := by
  have hkeep : ∀ {α : Type} (x : Option α) (d : α), x.getD (x.getD d) = x.getD d := by
    intro α x d
    cases x <;> rfl
  have htier : ∀ (x : Option (Option Tier)) (t : Tier),
      (x.getD (some ((x.getD (some t)).getD t))).getD ((x.getD (some t)).getD t) =
        (x.getD (some t)).getD t := by
    rintro (_ | _ | _) t <;> rfl
  simp only [apply, hkeep, htier]

/-- A change that a record shows already changes nothing. -/
theorem SubscriberChange.apply_eq_self_iff {ch : SubscriberChange} {u : Subscriber} :
    ch.apply u = u ↔
      (∀ tier, ch.tier = some (some tier) → u.tier = tier) ∧
      (∀ m, ch.tierStartedAt = some m → u.tierStartedAt = m.map Moment.stored) ∧
      (∀ m, ch.tierExpiresAt = some m → u.tierExpiresAt = m.map Moment.stored) ∧
      (∀ p, ch.billingProvider = some p → u.billingProvider = p) ∧
      (∀ s, ch.upstreamProvider = some s → u.upstreamProvider = s) ∧
      (∀ s, ch.providerSubscriptionId = some s → u.providerSubscriptionId = s) ∧
      ∀ s, ch.stripeCustomerId = some s → u.stripeCustomerId = s := by
  have hkeep : ∀ {α : Type} (x : Option α) (d : α), x.getD d = d ↔ ∀ y, x = some y → d = y := by
    intro α x d
    cases x <;> simp [eq_comm]
  have hmap : ∀ (x : Option (Option Moment)) (d : Option Moment),
      (x.map (Option.map Moment.stored)).getD d = d ↔
        ∀ m, x = some m → d = m.map Moment.stored := by
    intro x d
    cases x <;> simp [eq_comm]
  have htier : ∀ (x : Option (Option Tier)) (t : Tier),
      (x.getD (some t)).getD t = t ↔ ∀ tier, x = some (some tier) → t = tier := by
    rintro (_ | _ | _) t <;> simp [eq_comm]
  obtain ⟨⟩ := u
  simp only [apply, Subscriber.mk.injEq, true_and, and_true]
  rw [htier, hmap, hmap]
  simp only [hkeep]
  tauto

namespace ProviderEvent

/-- Whether a record shows already what an update or a resumption has to say. -/
def IsShownBy (e : ProviderEvent) (u : Subscriber) : Prop :=
  match e.kind with
  | .subscriptionUpdated =>
    ∀ own periodEnd, u.providerSubscriptionId = some own → e.isOther own = false →
      e.periodEnd = some periodEnd → u.tierExpiresAt = some periodEnd.stored
  | .subscriptionResumed =>
    ∀ tier, e.grantedTier = some tier →
      u.tier = tier ∧
        (∀ periodEnd, e.periodEnd = some periodEnd → u.tierExpiresAt = some periodEnd.stored) ∧
        u.billingProvider = some e.provider ∧
        ∀ s, filled e.subscriptionId = some s → u.providerSubscriptionId = some s
  | _ => True

variable {e : ProviderEvent} {u : Subscriber}

theorem edit_updated (kind : e.kind = .subscriptionUpdated) (now : Moment) (ended : Bool) :
    (e.transition now ended u).edit.apply u = u ↔ e.IsShownBy u := by
  simp only [transition, kind, IsShownBy, onUpdated, SubscriberChange.apply_eq_self_iff]
  cases hown : u.providerSubscriptionId with
  | none => simp [Transition.edit]
  | some own =>
    cases hend : e.periodEnd with
    | none => simp [Transition.edit]
    | some periodEnd => cases hother : e.isOther own <;> simp [Transition.edit, hother]

theorem edit_resumed (kind : e.kind = .subscriptionResumed) (now : Moment) (ended : Bool) :
    (e.transition now ended u).edit.apply u = u ↔ e.IsShownBy u := by
  simp only [transition, kind, IsShownBy, onResumed, SubscriberChange.apply_eq_self_iff]
  cases htier : e.grantedTier with
  | none => simp [Transition.edit]
  | some tier =>
    cases e.periodEnd <;> cases filled e.subscriptionId <;>
      simp [Transition.edit]

/-- Such an event changes nothing in a record exactly if the record shows it. -/
theorem edit_eq_self_iff (kind : e.kind = .subscriptionUpdated ∨ e.kind = .subscriptionResumed)
    (now : Moment) (ended : Bool) :
    (e.transition now ended u).edit.apply u = u ↔ e.IsShownBy u := by
  rcases kind with kind | kind
  · exact edit_updated kind now ended
  · exact edit_resumed kind now ended

/-- A record shows what it takes from an update or a resumption. -/
theorem isShownBy_edit (kind : e.kind = .subscriptionUpdated ∨ e.kind = .subscriptionResumed)
    (now : Moment) (ended : Bool) : e.IsShownBy ((e.transition now ended u).edit.apply u) := by
  rcases kind with kind | kind
  · have hown : ((e.onUpdated u).edit.apply u).providerSubscriptionId =
        u.providerSubscriptionId := by
      unfold onUpdated
      split
      · split <;> rfl
      · rfl
    have hsame : ∀ v : Subscriber, v.providerSubscriptionId = u.providerSubscriptionId →
        e.onUpdated v = e.onUpdated u := by
      intro v hv
      unfold onUpdated
      rw [hv]
    rw [← edit_updated kind now ended]
    simp only [transition, kind, hsame _ hown, SubscriberChange.apply_apply]
  · rw [← edit_resumed kind now ended]
    simp only [transition, kind, SubscriberChange.apply_apply]

end ProviderEvent

namespace Arrival

/-- An arrival of a kind that is not booked touches nothing but records. -/
theorem records_only {a : Arrival} (h : a.event.kind.isBooked = false) (db : Database) :
    (a.after db).ledger = db.ledger ∧ (a.after db).audit = db.audit ∧
      (a.after db).usage = db.usage ∧ a.tasks db = [] := by
  cases hp : a.isProcessed db with
  | false =>
    obtain ⟨hafter, htasks⟩ := inert_of_not_processed hp
    rw [hafter]
    exact ⟨rfl, rfl, rfl, htasks⟩
  | true =>
    obtain ⟨u, hs⟩ := isProcessed_iff.mp hp
    obtain ⟨hnote, -, htasks⟩ := ProviderEvent.quiet_of_not_booked h a.context.moment
      (a.event.hasEnded db) u
    refine ⟨ledger_after_of_not_booked db h, ?_, ?_, ?_⟩
    · rw [after_of_settles hs]
      simp only [Transition.result, ProviderEvent.transitionAt, hnote, Option.map_none,
        Option.toList_none, List.append_nil]
    · rw [after_of_settles hs]
      rfl
    · simp only [tasks, answer_of_settles hs, ProviderEvent.transitionAt, htasks]
      rfl

/-- Such an arrival, when it is processed, changes nothing exactly if its edit does not. -/
theorem after_eq_self_iff {a : Arrival} {db : Database} {u : Subscriber}
    (consistent : db.Consistent) (h : a.event.kind.isBooked = false)
    (settles : a.event.Settles a.context db u) :
    a.after db = db ↔ (a.event.transitionAt a.context db u).edit.apply u = u := by
  have hu : db.subscriber? u.id = some u :=
    ProviderEvent.subscriber?_of_subject? consistent settles.subject
  constructor
  · intro hafter
    have hrow := subscriber?_of_settles settles u.id
    rw [hafter, if_pos rfl, hu, Option.map_some] at hrow
    exact (Option.some.inj hrow).symm
  · intro hedit
    have hrows : (a.after db).subscribers = db.subscribers := by
      rw [subscribers_of_settles consistent settles]
      conv_rhs => rw [← List.map_id db.subscribers]
      refine List.map_congr_left fun v hv => ?_
      split
      · next hid =>
        obtain rfl := consistent.eq_of_id_eq hv (ProviderEvent.mem_of_subject? settles.subject) hid
        exact hedit
      · rfl
    obtain ⟨hledger, haudit, husage, -⟩ := records_only h db
    generalize a.after db = after at *
    cases after
    cases db
    simp_all

/-- A second delivery books nothing, notes nothing and leaves no work, but it is not inert: it writes
the record again unless that shows the event still. In particular it writes nothing over a record
that nobody wrote in between. -/
theorem redelivered {db₀ db : Database} (reachable : db₀.Reachable) {first again : Arrival}
    (between : List Arrival)
    (kind : first.event.kind = .subscriptionUpdated ∨ first.event.kind = .subscriptionResumed)
    (processed : first.isProcessed db₀ = true) (same : again.event = first.event)
    (later : run between (first.after db₀) = db) :
    ((again.after db).ledger = db.ledger ∧ (again.after db).audit = db.audit ∧
      again.tasks db = []) ∧
    ∃ u, again.event.subject? db = some u ∧
      (first.event.subject? db₀).map (fun v => v.id) = some u.id ∧
      (again.after db = db ↔ again.isProcessed db = false ∨ again.event.IsShownBy u) ∧
      (db.subscriber? u.id = (first.after db₀).subscriber? u.id → again.after db = db) := by
  obtain ⟨u₀, hfirst⟩ := isProcessed_iff.mp processed
  have consistent₀ : db₀.Consistent := reachable.consistent
  have consistent : db.Consistent := later ▸ (consistent₀.arrived first).run between
  rw [← same] at kind
  have hquiet : again.event.kind.isBooked = false := by
    rcases kind with kind | kind <;> rw [kind] <;> rfl
  obtain ⟨hledger, haudit, -, htasks⟩ := records_only hquiet db
  have hsubject : (again.event.subject? db).map (fun v => v.id) = some u₀.id := by
    rw [← later, subject?_run (consistent₀.arrived first), subject?_after consistent₀, same,
      hfirst.subject]
    rfl
  obtain ⟨u, hu, hid⟩ := Option.map_eq_some_iff.mp hsubject
  have hiff : again.after db = db ↔
      again.isProcessed db = false ∨ again.event.IsShownBy u := by
    cases hp : again.isProcessed db with
    | false => simp only [after_eq_of_not_processed hp, true_or]
    | true =>
      obtain ⟨v, hv⟩ := isProcessed_iff.mp hp
      obtain rfl := Option.some.inj (hu.symm.trans hv.subject)
      rw [after_eq_self_iff consistent hquiet hv, ProviderEvent.transitionAt,
        ProviderEvent.edit_eq_self_iff kind]
      simp only [Bool.true_eq_false, false_or]
  refine ⟨⟨hledger, haudit, htasks⟩, u, hu, ?_, hiff, fun hrow => hiff.mpr (.inr ?_)⟩
  · rw [hfirst.subject, hid]
    rfl
  · rw [ProviderEvent.subscriber?_of_subject? consistent hu, hid, subscriber?_of_settles hfirst,
      if_pos rfl, ProviderEvent.subscriber?_of_subject? consistent₀ hfirst.subject] at hrow
    rw [Option.some.inj hrow, ← same]
    exact ProviderEvent.isShownBy_edit kind _ _

/-- A resumption that is delivered again after the cancellation gives the tier back. -/
theorem redelivered_after_cancellation :
    let resumed := brokered .subscriptionResumed "subscription.resumed" "evt_1"
    let cancelled := brokered .subscriptionCancelled "subscription.cancelled" "evt_2"
    let db₀ := Database.ofCustomer "u" "u@example.com" .janua "cus"
    let db := run [cancelled] (resumed.after db₀)
    db₀.Reachable ∧ resumed.isProcessed db₀ = true ∧ resumed.tasks db = [] ∧
      (db.subscriber? "u").map (fun v => v.tier) = some .community ∧
      ((resumed.after db).subscriber? "u").map (fun v => v.tier) = some .pro ∧
      resumed.after db ≠ db := by
  intro resumed cancelled db₀ db
  have reachable : db₀.Reachable := Database.reachable_ofCustomer _ _ _ _
  have processed : resumed.isProcessed db₀ = true := by decide +kernel
  have hbefore : (db.subscriber? "u").map (fun v => v.tier) = some .community := by decide +kernel
  have hafter : ((resumed.after db).subscriber? "u").map (fun v => v.tier) = some .pro := by
    decide +kernel
  obtain ⟨⟨-, -, htasks⟩, -⟩ := redelivered reachable [cancelled] (.inr rfl) processed rfl rfl
  refine ⟨reachable, processed, htasks, hbefore, hafter, fun h => ?_⟩
  rw [h, hbefore] at hafter
  cases hafter

end Arrival
end SubscriptionBilling
