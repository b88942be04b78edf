import SubscriptionBilling.Proofs.Convergence

/-! Two notices of one purchase at the direct processor: that the subscription of a customer was
created, and that the checkout of a subscriber was completed. They arrive in no certain order, and it
makes no difference which one is first, except for when the tier began and for the numbers of the new
rows. Neither notice can tell from the store whether the other one was there. -/
namespace SubscriptionBilling

namespace EventKind

/-- The kinds that announce a subscription. -/
def announces : EventKind → Bool
  | .subscriptionCreated => true
  | .checkoutCompleted => true
  | _ => false

theorem cases_of_announces {k : EventKind} (h : k.announces = true) :
    k = .subscriptionCreated ∨ k = .checkoutCompleted := by
  revert h
  cases k <;> decide

end EventKind

namespace ProviderEvent
variable {e : ProviderEvent} {u v : Subscriber} {now : Moment} {ended : Bool}

/-- An announcement does not ask for more of a record than whose it is. -/
theorem transition_congr (kind : e.kind.announces = true) (id : v.id = u.id)
    (customer : v.customerId e.provider = u.customerId e.provider) (now : Moment) (ended : Bool) :
    e.transition now ended v = e.transition now ended u := by
  rcases EventKind.cases_of_announces kind with hkind | hkind
  · simp only [transition, hkind, onCreated, unrecognized, booked, posting, note, tierNotification,
      id, customer]
  · simp only [transition, hkind, onCheckoutCompleted, unrecognized, booked, posting, note,
      tierNotification, id, customer]

/-- An announcement is booked as the beginning of a subscription. -/
theorem kind_of_posting (kind : e.kind.announces = true) {p : Posting}
    (h : (e.transition now ended u).posting = some p) : p.kind = .subscriptionCreated := by
  rcases EventKind.cases_of_announces kind with hkind | hkind <;>
    simp only [transition, hkind] at h
  · obtain ⟨facts, hposting⟩ := onCreated_posting now ended e u
    obtain rfl := Option.some.inj (h.symm.trans hposting)
    rfl
  · obtain ⟨facts, hposting⟩ := onCheckoutCompleted_posting now e u
    obtain rfl := Option.some.inj (h.symm.trans hposting)
    rfl

end ProviderEvent

namespace Arrival
variable {a b : Arrival} {db : Database} {u v : Subscriber}

/-- An announcement books the end of no subscription. -/
theorem cancels_after (kind : a.event.kind.announces = true) (p : Provider) (s : String) :
    (a.after db).cancels p s = db.cancels p s := by
  rcases a.after_cases db with hsame | ⟨u, hs⟩
  · rw [hsame]
  · have hnew : (((a.event.transitionAt a.context db u).posting.bind fun p =>
        p.entry? db.nextEntry a.context.moment).toList.any fun row => row.cancels p s) = false := by
      refine List.any_eq_false.mpr fun row hrow => ?_
      obtain ⟨posting, hposting, hentry⟩ := Option.bind_eq_some_iff.mp (Option.mem_toList.mp hrow)
      obtain ⟨amount, -, rfl⟩ := Option.map_eq_some_iff.mp hentry
      simp [LedgerEntry.cancels, ProviderEvent.kind_of_posting kind hposting]
    rw [after_of_settles hs, Database.cancels, Transition.result, List.any_append, hnew,
      Bool.or_false, Database.cancels]

theorem hasEnded_after (kind : a.event.kind.announces = true) (e : ProviderEvent) :
    e.hasEnded (a.after db) = e.hasEnded db := by
  unfold ProviderEvent.hasEnded
  split
  · exact cancels_after kind _ _
  · rfl

/-- Whoever an event is about, it is about the same record after another event has edited it. -/
theorem subject?_after_of_settles (consistent : db.Consistent)
    (hb : b.event.Settles b.context db u) (ha : a.event.subject? db = some u) :
    a.event.subject? (b.after db) = some ((b.event.transitionAt b.context db u).edit.apply u) := by
  have hid := subject?_after consistent b a.event
  rw [ha, Option.map_some] at hid
  obtain ⟨v, hv, hvu⟩ := Option.map_eq_some_iff.mp hid
  have hrecord := ProviderEvent.subscriber?_of_subject? (consistent.arrived b) hv
  have hrow := ProviderEvent.subscriber?_of_subject? consistent ha
  rw [hvu, subscriber?_of_settles hb, if_pos rfl, hrow, Option.map_some] at hrecord
  rw [hv, hrecord]

/-- Two announcements under different ids, which are about the same subscriber as far as they are
about anybody. -/
structure Concur (db : Database) (a b : Arrival) : Prop where
  first : a.event.kind.announces = true
  second : b.event.kind.announces = true
  distinct : ¬(a.event.provider = b.event.provider ∧ a.event.eventId = b.event.eventId)
  subject : ∀ u v, a.event.subject? db = some u → b.event.subject? db = some v → u = v

theorem Concur.symm (h : Concur db a b) : Concur db b a :=
  ⟨h.second, h.first, fun hsame => h.distinct ⟨hsame.1.symm, hsame.2.symm⟩,
    fun u v hu hv => (h.subject v u hv hu).symm⟩

/-- What one announcement would do does not depend on whether the other one was there. -/
theorem Concur.transitionAt_after (h : Concur db a b) :
    a.event.transitionAt a.context (b.after db) ((b.event.transitionAt b.context db u).edit.apply u) =
      a.event.transitionAt a.context db u := by
  rw [ProviderEvent.transitionAt, hasEnded_after h.second]
  refine ProviderEvent.transition_congr h.first ?_ ?_ _ _
  · rfl
  · exact ProviderEvent.customerId_edit _ _ _ _ _ _

/-- The other subscribers stay as they are. -/
theorem forall_others_iff {P : Subscriber → Prop} (consistent : db.Consistent)
    (hb : b.event.Settles b.context db u) :
    (∀ w ∈ (b.after db).subscribers, w.id ≠ u.id → P w) ↔
      ∀ w ∈ db.subscribers, w.id ≠ u.id → P w := by
  rw [subscribers_of_settles consistent hb, List.forall_mem_map]
  refine forall₂_congr fun w _ => ?_
  split
  · next hid => simp [hid]
  · rfl

/-- One announcement passes after the other one as it did before. -/
theorem Concur.passes_after_iff (h : Concur db a b) (consistent : db.Consistent)
    (hb : b.event.Settles b.context db u) (ha : a.event.subject? db = some u) :
    (a.event.transitionAt a.context db u).Passes a.context
        ((b.event.transitionAt b.context db u).edit.apply u) (b.after db) ↔
      (a.event.transitionAt a.context db u).Passes a.context u db := by
  have hmem := ProviderEvent.mem_of_subject? ha
  have hmem' := ProviderEvent.mem_of_subject? (subject?_after_of_settles consistent hb ha)
  have hadmits : ∀ ch, (a.event.transitionAt a.context db u).change = some ch →
      ((b.after db).Admits u.id ch ↔ db.Admits u.id ch) := by
    intro ch hch
    have hafter := ProviderEvent.admits_iff (consistent.arrived b) hmem'
      (h.transitionAt_after.symm ▸ hch)
    rw [hasEnded_after h.second] at hafter
    rw [ProviderEvent.admits_iff consistent hmem hch]
    exact hafter.trans (forall₂_congr fun s _ => forall_others_iff (u := u) consistent hb)
  have hbooks : ∀ p, (a.event.transitionAt a.context db u).posting = some p →
      (b.after db).books p.provider p.eventId = db.books p.provider p.eventId := by
    intro p hp
    obtain ⟨-, hprovider, hid⟩ := ProviderEvent.booked_of_posting hp
    rw [hprovider, hid]
    exact books_after_of_ne fun hsame => h.distinct ⟨hsame.1.symm, hsame.2.symm⟩
  constructor
  · refine fun passes => ⟨fun ch hch => ?_, passes.note, fun p hp => ?_⟩
    · exact ⟨(passes.change ch hch).1, (hadmits ch hch).mp (passes.change ch hch).2⟩
    · exact hbooks p hp ▸ passes.posting p hp
  · refine fun passes => ⟨fun ch hch => ?_, passes.note, fun p hp => ?_⟩
    · exact ⟨(passes.change ch hch).1, (hadmits ch hch).mpr (passes.change ch hch).2⟩
    · exact (hbooks p hp).symm ▸ passes.posting p hp

theorem Concur.settles_after_iff (h : Concur db a b) (consistent : db.Consistent)
    (hb : b.event.Settles b.context db u) (ha : a.event.subject? db = some u) :
    a.event.Settles a.context (b.after db) ((b.event.transitionAt b.context db u).edit.apply u) ↔
      a.event.Settles a.context db u := by
  have hbooks : (b.after db).books a.event.provider a.event.eventId =
      db.books a.event.provider a.event.eventId :=
    books_after_of_ne fun hsame => h.distinct ⟨hsame.1.symm, hsame.2.symm⟩
  have hpasses := h.passes_after_iff consistent hb ha
  rw [← h.transitionAt_after (u := u)] at hpasses
  constructor
  · intro settles
    refine ⟨settles.inTime, settles.opened, settles.checked, hbooks ▸ settles.unbooked, ha, ?_⟩
    rw [← h.transitionAt_after (u := u)]
    exact hpasses.mp settles.passes
  · intro settles
    refine ⟨settles.inTime, settles.opened, settles.checked, hbooks.symm ▸ settles.unbooked,
      subject?_after_of_settles consistent hb ha, hpasses.mpr ?_⟩
    rw [h.transitionAt_after]
    exact settles.passes

/-- Whether an announcement is processed does not depend on whether the other one was. -/
theorem Concur.isProcessed_after (h : Concur db a b) (consistent : db.Consistent) :
    a.isProcessed (b.after db) = a.isProcessed db := by
  rcases b.after_cases db with hsame | ⟨u, hb⟩
  · rw [hsame]
  rw [Bool.eq_iff_iff, isProcessed_iff, isProcessed_iff]
  constructor
  · rintro ⟨v, hv⟩
    have hid := subject?_after consistent b a.event
    rw [hv.subject, Option.map_some] at hid
    obtain ⟨w, hw, -⟩ := Option.map_eq_some_iff.mp hid.symm
    obtain rfl := h.subject w u hw hb.subject
    have hsubject := subject?_after_of_settles consistent hb hw
    obtain rfl := Option.some.inj (hsubject.symm.trans hv.subject)
    exact ⟨w, (h.settles_after_iff consistent hb hw).mp hv⟩
  · rintro ⟨v, hv⟩
    obtain rfl := h.subject v u hv.subject hb.subject
    exact ⟨_, (h.settles_after_iff consistent hb hv.subject).mpr hv⟩

end Arrival

/-- A record without the time at which its tier began. -/
def Subscriber.undated (u : Subscriber) : Subscriber := { u with tierStartedAt := none }

/-- A row without its number. -/
def LedgerEntry.unnumbered (row : LedgerEntry) : LedgerEntry := { row with id := 0 }

def AuditEntry.unnumbered (row : AuditEntry) : AuditEntry := { row with id := 0 }

/-- Two stores that grew out of one and agree in all but the times at which tiers began, the numbers
of the new rows and their order. -/
structure Database.AgreeFrom (db first second : Database) : Prop where
  subscribers : first.subscribers.map Subscriber.undated = second.subscribers.map Subscriber.undated
  ledger : ((first.ledger.drop db.ledger.length).map LedgerEntry.unnumbered).Perm
    ((second.ledger.drop db.ledger.length).map LedgerEntry.unnumbered)
  audit : ((first.audit.drop db.audit.length).map AuditEntry.unnumbered).Perm
    ((second.audit.drop db.audit.length).map AuditEntry.unnumbered)

theorem Database.AgreeFrom.refl (db after : Database) : db.AgreeFrom after after :=
  ⟨rfl, .refl _, .refl _⟩

namespace Transition

/-- The number under which a posting is booked does not matter but for itself. -/
theorem unnumbered_rows (t : Transition) (number : Nat) (now : Moment) :
    (t.posting.bind fun p => p.entry? number now).toList.map LedgerEntry.unnumbered =
      (t.posting.bind fun p => p.entry? 0 now).toList := by
  cases t.posting with
  | none => rfl
  | some p => cases hp : bookedAmount? p.amount <;> simp [Posting.entry?, hp, LedgerEntry.unnumbered]

theorem unnumbered_notes (t : Transition) (number : Nat) (now : Moment) :
    (t.note.map fun n => n.entry number now).toList.map AuditEntry.unnumbered =
      (t.note.map fun n => n.entry 0 now).toList := by
  cases t.note <;> rfl

/-- The rows of two transitions, one after the other, are the same in either order. -/
theorem agreeFrom_result {db : Database} {c c' : Context} {u u' v v' : Subscriber}
    {t t' : Transition}
    (subscribers : (t'.result c' v' (t.result c u db)).subscribers.map Subscriber.undated =
      (t.result c v (t'.result c' u' db)).subscribers.map Subscriber.undated) :
    db.AgreeFrom (t'.result c' v' (t.result c u db)) (t.result c v (t'.result c' u' db)) where
  subscribers := subscribers
  ledger := by
    simp only [result, List.append_assoc, List.drop_left, List.map_append, unnumbered_rows]
    exact List.perm_append_comm
  audit := by
    simp only [result, List.append_assoc, List.drop_left, List.map_append, unnumbered_notes]
    exact List.perm_append_comm

end Transition

namespace ProviderEvent

/-- The direct processor names no other processor behind it. -/
theorem IsTranslated.upstream_of_direct {e : ProviderEvent} (h : e.IsTranslated)
    (direct : e.provider = .stripe) : e.upstreamProvider = none := by
  cases h with
  | direct translation => exact (StripePayload.isSourceOf_toEvent? translation).upstream
  | brokered translation =>
    cases (JanuaPayload.facts_of_toEvent? translation).1.symm.trans direct

/-- What a creation writes, if anything. -/
theorem edit_of_created {e : ProviderEvent} (kind : e.kind = .subscriptionCreated) (now : Moment)
    (ended : Bool) (u : Subscriber) :
    (e.transition now ended u).edit = {} ∨ ∃ tier, e.grantedTier = some tier ∧
      (e.transition now ended u).edit =
        { tier := some (some tier)
          tierStartedAt := some (some (e.periodStart.getD now))
          tierExpiresAt := some e.periodEnd
          billingProvider := some (some e.provider)
          upstreamProvider := some e.upstreamProvider
          providerSubscriptionId := some e.subscriptionId } := by
  simp only [Transition.edit, transition, kind, onCreated]
  split
  · exact .inl rfl
  · next tier granted =>
    split
    · exact .inl rfl
    · exact .inr ⟨tier, granted, rfl⟩

/-- What a completed checkout writes, if anything. -/
theorem edit_of_bought {e : ProviderEvent} (kind : e.kind = .checkoutCompleted) (now : Moment)
    (ended : Bool) (u : Subscriber) :
    (e.transition now ended u).edit = {} ∨ ∃ tier, e.grantedTier = some tier ∧
      (e.transition now ended u).edit =
        { tier := some (some tier)
          tierStartedAt := some (some now)
          billingProvider := some (some e.provider)
          upstreamProvider := (filled e.upstreamProvider).map some
          providerSubscriptionId := (filled e.subscriptionId).map some } := by
  simp only [Transition.edit, transition, kind, onCheckoutCompleted]
  split
  · exact .inl rfl
  · next tier granted => exact .inr ⟨tier, granted, rfl⟩

/-- A creation and a completed checkout for the same subscription, which grant the same tier as far as
they grant any, write the same in either order, but for when the tier began. -/
theorem edits_commute {created bought : ProviderEvent} {u v : Subscriber} {now now' : Moment}
    {ended ended' : Bool} (creation : created.kind = .subscriptionCreated)
    (completion : bought.kind = .checkoutCompleted) (provider : created.provider = bought.provider)
    (upstream : bought.upstreamProvider = none)
    (subscription : created.subscriptionId = bought.subscriptionId)
    (tier : ∀ t t', created.grantedTier = some t → bought.grantedTier = some t' → t = t')
    (x : Subscriber) :
    ((bought.transition now' ended' v).edit.apply
        ((created.transition now ended u).edit.apply x)).undated =
      ((created.transition now ended u).edit.apply
        ((bought.transition now' ended' v).edit.apply x)).undated := by
  rcases edit_of_created creation now ended u with hcreated | ⟨t, granted, hcreated⟩
  · rw [hcreated]
    rfl
  rcases edit_of_bought completion now' ended' v with hbought | ⟨t', granted', hbought⟩
  · rw [hbought]
    rfl
  obtain rfl := tier t t' granted granted'
  have hkept : ((filled bought.subscriptionId).map some).getD bought.subscriptionId =
      bought.subscriptionId := by
    cases hfilled : filled bought.subscriptionId with
    | none => rfl
    | some named => rw [(filled_eq_some_iff.mp hfilled).1, Option.map_some, Option.getD_some]
  have hnone : filled (none : Option String) = none := rfl
  rw [hcreated, hbought]
  simp only [SubscriberChange.apply, Subscriber.undated, provider, upstream, hnone, subscription,
    hkept, Option.getD_some, Option.getD_none, Option.map_none, Option.map_some]

end ProviderEvent

namespace Arrival

/-- The two notices of one purchase at the direct processor: the creation of a subscription for a
customer, and the completed checkout of the subscriber who is that customer. -/
structure OfOnePurchase (db : Database) (u : Subscriber) (created bought : Arrival) : Prop where
  creation : created.event.kind = .subscriptionCreated
  completion : bought.event.kind = .checkoutCompleted
  translated : created.event.IsTranslated ∧ bought.event.IsTranslated
  direct : created.event.provider = .stripe ∧ bought.event.provider = .stripe
  distinct : created.event.eventId ≠ bought.event.eventId
  customer : ∃ customer, created.event.customerId = some customer ∧
    db.subscriberOf? .stripe customer = some u
  owner : bought.event.subscriberId = some u.id
  subscription : ∃ s, s ≠ "" ∧ created.event.subscriptionId = some s ∧
    bought.event.subscriptionId = some s
  tier : ∀ t t', created.event.grantedTier = some t → bought.event.grantedTier = some t' → t = t'

variable {db : Database} {u : Subscriber} {created bought : Arrival}

/-- An empty id names no subscriber, so a checkout with one goes by the customer. -/
theorem OfOnePurchase.concur (h : OfOnePurchase db u created bought) (consistent : db.Consistent)
    (unnamed : u.id = "" → ∀ w, bought.event.subject? db = some w → w = u) :
    Concur db created bought where
  first := by rw [h.creation]; rfl
  second := by rw [h.completion]; rfl
  distinct hsame := h.distinct hsame.2
  subject v w hv hw := by
    obtain ⟨customer, hcustomer, hu⟩ := h.customer
    have hne : created.event.kind ≠ .checkoutCompleted := by rw [h.creation]; decide
    rw [ProviderEvent.subject?_of_customerId (.inl hne), hcustomer, h.direct.1] at hv
    obtain ⟨c, hc, hfound⟩ := Option.bind_eq_some_iff.mp hv
    obtain ⟨hsame, -⟩ := ProviderEvent.filled_eq_some_iff.mp hc
    obtain rfl := Option.some.inj hsame
    obtain rfl := Option.some.inj (hu.symm.trans hfound)
    by_cases hid : u.id = ""
    · exact (unnamed hid w hw).symm
    · have hnamed : ProviderEvent.filled bought.event.subscriberId = some u.id :=
        ProviderEvent.filled_eq_some_iff.mpr ⟨h.owner, hid⟩
      simp only [ProviderEvent.subject?, h.completion, hnamed] at hw
      have hmem : u ∈ db.subscribers := List.mem_of_find?_eq_some hu
      obtain ⟨hw, hwid⟩ := consistent.subscriber?_eq_some_iff.mp hw
      exact consistent.eq_of_id_eq hmem hw hwid.symm

/-- Two announcements that are both processed leave the same in either order, if their edits do. -/
theorem Concur.agreeFrom_of_settles {a b : Arrival} (h : Concur db a b) (consistent : db.Consistent)
    (ha : a.event.Settles a.context db u) (hb : b.event.Settles b.context db u)
    (commute : ∀ x : Subscriber,
      ((b.event.transitionAt b.context db u).edit.apply
          ((a.event.transitionAt a.context db u).edit.apply x)).undated =
        ((a.event.transitionAt a.context db u).edit.apply
          ((b.event.transitionAt b.context db u).edit.apply x)).undated) :
    db.AgreeFrom (run [a, b] db) (run [b, a] db) := by
  have hab := (h.symm.settles_after_iff consistent ha hb.subject).mpr hb
  have hba := (h.settles_after_iff consistent hb ha.subject).mpr ha
  have hsubscribers : (b.after (a.after db)).subscribers.map Subscriber.undated =
      (a.after (b.after db)).subscribers.map Subscriber.undated := by
    rw [subscribers_of_settles (consistent.arrived a) hab, subscribers_of_settles consistent ha,
      subscribers_of_settles (consistent.arrived b) hba, subscribers_of_settles consistent hb,
      h.transitionAt_after, h.symm.transitionAt_after]
    simp only [List.map_map]
    refine List.map_congr_left fun x _ => ?_
    by_cases hid : x.id = u.id
    · simpa [hid] using commute x
    · simp [hid]
  have hfirst := after_of_settles hab
  have hsecond := after_of_settles hba
  rw [h.symm.transitionAt_after] at hfirst
  rw [h.transitionAt_after] at hsecond
  rw [hfirst, hsecond, after_of_settles ha, after_of_settles hb] at hsubscribers
  rw [run_cons, run_cons, run_nil, run_cons, run_cons, run_nil, hfirst, hsecond,
    after_of_settles ha, after_of_settles hb]
  exact Transition.agreeFrom_result hsubscribers

/-- The two notices of one purchase leave the same in either order, whenever they arrive and whatever
disturbs them: the same records but for when the tier began, and the same new rows but for their
numbers. Where the subscriber's id is empty, the checkout must not be another customer's. -/
theorem either_order_agrees (consistent : db.Consistent) (purchase : OfOnePurchase db u created bought)
    (unnamed : u.id = "" → ∀ w, bought.event.subject? db = some w → w = u) :
    db.AgreeFrom (run [created, bought] db) (run [bought, created] db) := by
  have concur := purchase.concur consistent unnamed
  have hcreated := concur.isProcessed_after consistent
  have hbought := concur.symm.isProcessed_after consistent
  cases hc : created.isProcessed db with
  | false =>
    rw [hc] at hcreated
    have hsame : run [created, bought] db = run [bought, created] db := by
      simp only [run_cons, run_nil, after_eq_of_not_processed hc, after_eq_of_not_processed hcreated]
    exact hsame ▸ .refl db _
  | true =>
    cases hb : bought.isProcessed db with
    | false =>
      rw [hb] at hbought
      have hsame : run [created, bought] db = run [bought, created] db := by
        simp only [run_cons, run_nil, after_eq_of_not_processed hb, after_eq_of_not_processed hbought]
      exact hsame ▸ .refl db _
    | true =>
      obtain ⟨v, hcreates⟩ := isProcessed_iff.mp hc
      obtain ⟨w, hbuys⟩ := isProcessed_iff.mp hb
      obtain rfl := concur.subject v w hcreates.subject hbuys.subject
      refine concur.agreeFrom_of_settles consistent hcreates hbuys fun x => ?_
      obtain ⟨s, -, hs, hs'⟩ := purchase.subscription
      exact ProviderEvent.edits_commute purchase.creation purchase.completion
        (purchase.direct.1.trans purchase.direct.2.symm)
        (purchase.translated.2.upstream_of_direct purchase.direct.2) (hs.trans hs'.symm)
        purchase.tier x

/-- The payload of the creation of the subscription `sub` for a customer. -/
def createdPayload (customer : String) : StripePayload.Payload where
  id := "evt_1"
  type := "customer.subscription.created"
  subject :=
    [("id", .string "sub"), ("customer", .string customer), ("status", .string "active"),
      ("metadata", .object [("plan", .string "pro")])]

/-- The payload of the completed checkout of the subscription `sub` by a subscriber. -/
def boughtPayload (customer subscriber : String) : StripePayload.Payload where
  id := "evt_2"
  type := "checkout.session.completed"
  subject :=
    [("id", .string "cs"), ("customer", .string customer), ("subscription", .string "sub"),
      ("metadata", .object [("userId", .string subscriber), ("plan", .string "pro")])]

/-- The creation, on the first day of 1970. -/
def createdFor (customer : String) : Arrival where
  context := { settings := {}, now := 60 }
  event :=
    { provider := .stripe, eventId := "evt_1", kind := .subscriptionCreated
      eventType := "customer.subscription.created", customerId := some customer
      subscriptionId := some "sub", planSlug := some "pro"
      metadata := [("status", .string "active")] }

/-- The completed checkout, a minute earlier. -/
def boughtBy (customer subscriber : String) : Arrival where
  context := { settings := {}, now := 0 }
  event :=
    { provider := .stripe, eventId := "evt_2", kind := .checkoutCompleted
      eventType := "checkout.session.completed", customerId := some customer
      subscriberId := some subscriber, subscriptionId := some "sub", planSlug := some "pro"
      checkoutSessionId := some "cs" }

theorem ofOnePurchase {db : Database} {u : Subscriber} {customer : String}
    (owner : db.subscriberOf? .stripe "cus" = some u)
    (translated : (boughtPayload customer u.id).toEvent? {} =
      .ok (some (boughtBy customer u.id).event)) :
    OfOnePurchase db u (createdFor "cus") (boughtBy customer u.id) where
  creation := rfl
  completion := rfl
  translated := ⟨.direct (show (createdPayload "cus").toEvent? {} = _ by rfl), .direct translated⟩
  direct := ⟨rfl, rfl⟩
  distinct := by
    change "evt_1" ≠ "evt_2"
    decide
  customer := ⟨"cus", rfl, owner⟩
  owner := rfl
  subscription := ⟨"sub", by decide, rfl, rfl⟩
  tier t t' granted granted' := Option.some.inj (granted.symm.trans granted')

/-- Both notices of a purchase grant the tier, and both times at which it began occur. -/
theorem either_order_agrees_for_customer :
    let db := Database.ofCustomer "u" "u@example.com" .stripe "cus"
    let arrivals := [createdFor "cus", boughtBy "cus" "u"]
    db.AgreeFrom (run arrivals db) (run arrivals.reverse db) ∧
      (run arrivals db).ledger.length = 2 ∧ (run arrivals db).audit.length = 2 ∧
      ((run arrivals db).subscribers.map fun v => (v.tier, v.tierStartedAt)) =
        [(.pro, some (Moment.ofSeconds 0))] ∧
      ((run arrivals.reverse db).subscribers.map fun v => (v.tier, v.tierStartedAt)) =
        [(.pro, some (Moment.ofSeconds 60))] := by
  intro db arrivals
  have consistent : db.Consistent := (Database.reachable_ofCustomer _ _ _ _).consistent
  let u : Subscriber :=
    (Subscriber.enrolled "u" "u@example.com" none none .community).setCustomerId .stripe (some "cus")
  have owner : db.subscriberOf? .stripe "cus" = some u := by rfl
  have purchase : OfOnePurchase db u (createdFor "cus") (boughtBy "cus" "u") :=
    ofOnePurchase owner (by rfl)
  exact ⟨either_order_agrees consistent purchase fun hid => absurd hid (by decide),
    by decide +kernel, by decide +kernel, by decide +kernel, by decide +kernel⟩

/-- A checkout of the subscriber with the empty id goes by its customer. Where that is somebody else,
the subscription is the one's whose notice is first. -/
theorem order_shows_for_empty_id :
    let db : Database :=
      { subscribers := (Database.ofCustomer "" "u@example.com" .stripe "cus").subscribers ++
          (Database.ofCustomer "w" "w@example.com" .stripe "cus_2").subscribers }
    let arrivals := [createdFor "cus", boughtBy "cus_2" ""]
    ∃ u, db.Reachable ∧ OfOnePurchase db u (createdFor "cus") (boughtBy "cus_2" "") ∧
      db.books .stripe "evt_1" = false ∧ db.books .stripe "evt_2" = false ∧
      ¬db.AgreeFrom (run arrivals db) (run arrivals.reverse db) := by
  intro db arrivals
  have reachable : db.Reachable :=
    ((Database.reachable_ofCustomer "" "u@example.com" .stripe "cus").enrolled "w" "w@example.com"
      none none .community (by rfl)).assigned "w" .stripe (some "cus_2") (by rfl)
  refine ⟨(Subscriber.enrolled "" "u@example.com" none none .community).setCustomerId .stripe
    (some "cus"), reachable, ofOnePurchase (by rfl) (by rfl), rfl, rfl, fun agree => ?_⟩
  have htiers := congrArg (List.map Subscriber.tier) agree.subscribers
  exact absurd htiers (by decide +kernel)

end Arrival

end SubscriptionBilling
