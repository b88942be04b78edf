import SubscriptionBilling.Proofs.Entitlements

/-! Whether a tier that was just granted is active. A creation writes the end of its period, and so
does a resumption that names one. A completed checkout and any other resumption keep the end that the
record has, and where that is the end of an earlier subscription and has passed, the new tier counts
as expired from the start. -/
namespace SubscriptionBilling

namespace Subscriber
variable {u : Subscriber} {now : Moment}

/-- Whether the end in a record has passed. -/
def HasLapsed (u : Subscriber) (now : Moment) : Prop :=
  ∃ t, u.tierExpiresAt = some t ∧ t.instant ≤ now.instant

theorem isActive_iff : u.isActive now = true ↔ u.tier ≠ .community ∧ ¬u.HasLapsed now := by
  unfold isActive HasLapsed
  cases u.tierExpiresAt <;> simp [Tier.isBase]

/-- The store keeps the end of a tier in UTC. -/
def EndsInUtc (u : Subscriber) : Prop := ∀ t, u.tierExpiresAt = some t → t.zone = some 0

/-- An end in UTC can be compared with the present. -/
theorem EndsInUtc.activity (h : u.EndsInUtc) (now : Moment) :
    u.activity now = .ok (u.isActive now) := by
  unfold Subscriber.activity
  split
  · next wall hend => cases h _ hend
  · rfl

theorem EndsInUtc.apply (h : u.EndsInUtc) (ch : SubscriberChange) : (ch.apply u).EndsInUtc := by
  intro t ht
  unfold SubscriberChange.apply at ht
  cases hch : ch.tierExpiresAt with
  | none =>
    simp only [hch, Option.map_none, Option.getD_none] at ht
    exact h t ht
  | some written =>
    simp only [hch, Option.map_some, Option.getD_some] at ht
    obtain ⟨m, -, rfl⟩ := Option.map_eq_some_iff.mp ht
    rfl

end Subscriber

namespace Database

/-- What a new record has, and no id with a provider and no event takes away, every record of a
reachable store has. -/
theorem Reachable.records {P : Subscriber → Prop}
    (enrolled : ∀ id email name countryCode tier,
      P (Subscriber.enrolled id email name countryCode tier))
    (reassigned : ∀ {u v : Subscriber}, P u → u.IsReassigned v → P v)
    (edited : ∀ {u : Subscriber} (e : ProviderEvent) (now : Moment) (ended : Bool), P u →
      P ((e.transition now ended u).edit.apply u))
    {db : Database} (h : db.Reachable) : ∀ u ∈ db.subscribers, P u := by
  have written : ∀ {db after : Database} {id : String}, Write id db after →
      (∀ u ∈ db.subscribers, P u) → ∀ u ∈ after.subscribers, P u := by
    intro db after id hwrite hdb v hv
    obtain ⟨u, hu, same⟩ := hwrite.reassigns hv
    exact reassigned (hdb u hu) same
  induction h with
  | empty => exact fun u hu => nomatch hu
  | enrolled id email name countryCode tier before added ih =>
    obtain ⟨mid, hadd, hpair⟩ := bind_eq_ok.mp added
    obtain ⟨-, rfl⟩ := Prod.mk.inj (pure_eq_ok.mp hpair)
    obtain ⟨-, rfl⟩ := addSubscriber_eq_ok.mp hadd
    intro u hu
    rcases List.mem_append.mp hu with hu | hu
    · exact ih u hu
    · rw [List.mem_singleton.mp hu]
      exact enrolled id email name countryCode tier
  | arrived a before ih =>
    rcases a.after_cases _ with hsame | ⟨u, settles⟩
    · rwa [hsame]
    · rw [Arrival.subscribers_of_settles before.consistent settles]
      refine List.forall_mem_map.mpr fun v hv => ?_
      split
      · next hid =>
        have hu := ProviderEvent.mem_of_subject? settles.subject
        obtain rfl := before.consistent.eq_of_id_eq hv hu hid
        exact edited _ _ _ (ih _ hu)
      · exact ih v hv
  | assigned id p customerId before assigned ih =>
    have hwrite : Write id _ _ := .assigned p customerId assigned
    exact written hwrite ih
  | noted c n before noted ih => exact written (.noted c n rfl noted) ih
  | counted k amount before counted ih => exact written (.counted k amount rfl counted) ih
  | countedBelow k cap before counted ih => exact written (.countedBelow k cap rfl counted) ih

theorem Reachable.endsInUtc {db : Database} (h : db.Reachable) :
    ∀ u ∈ db.subscribers, u.EndsInUtc := by
  refine h.records (fun _ _ _ _ _ => nofun) ?_ fun e now ended hu => hu.apply _
  rintro u v hu ⟨_, _, rfl⟩
  exact hu

end Database

namespace ProviderEvent
variable {e : ProviderEvent} {u : Subscriber} {tier : Tier} {now : Moment} {ended : Bool}

/-- Whether an event that grants a tier leaves the end in the record as it is. -/
def KeepsEnd (e : ProviderEvent) : Prop :=
  e.kind = .checkoutCompleted ∨ e.kind = .subscriptionResumed ∧ e.periodEnd = none

/-- A grant writes its own tier. -/
theorem grantedTier_of_edit (kind : e.kind.Grants)
    (grants : (e.transition now ended u).edit.tier = some (some tier)) :
    e.grantedTier = some tier := by
  unfold Transition.edit at grants
  cases hch : (e.transition now ended u).change with
  | none =>
    rw [hch] at grants
    cases grants
  | some ch =>
    rw [hch, Option.getD_some] at grants
    rcases (writes_of_change hch).tier with hkeeps | ⟨written, hwrites, hgives⟩
    · cases hkeeps.symm.trans grants
    · obtain rfl : written = tier := by simpa [hwrites] using grants
      cases hgives with
      | granted _ granted => exact granted
      | ended hkind =>
        rcases kind with kind | kind | kind <;> cases kind.symm.trans hkind

/-- A grant keeps the end in the record, or writes that of its own period. -/
theorem tierExpiresAt_of_grant (kind : e.kind.Grants)
    (grants : (e.transition now ended u).edit.tier = some (some tier)) :
    (e.KeepsEnd → (e.transition now ended u).edit.tierExpiresAt = none) ∧
      (¬e.KeepsEnd → (e.transition now ended u).edit.tierExpiresAt = some e.periodEnd) := by
  unfold Transition.edit at grants ⊢
  cases hch : (e.transition now ended u).change with
  | none =>
    rw [hch] at grants
    cases grants
  | some ch =>
    rw [Option.getD_some]
    unfold KeepsEnd
    cases writes_of_change hch with
    | created hkind granted running => simp [hkind]
    | updated hkind active same ends =>
      rcases kind with kind | kind | kind <;> cases kind.symm.trans hkind
    | cancelled hkind same => rcases kind with kind | kind | kind <;> cases kind.symm.trans hkind
    | resumed hkind granted => cases hend : e.periodEnd <;> simp [hkind]
    | bought hkind granted => simp [hkind]

/-- A grant has not lapsed if neither an end that it keeps nor an end that it writes has passed. -/
theorem not_hasLapsed_iff_of_grant (kind : e.kind.Grants)
    (grants : (e.transition now ended u).edit.tier = some (some tier)) (present : Moment) :
    ¬((e.transition now ended u).edit.apply u).HasLapsed present ↔
      (e.KeepsEnd → ¬u.HasLapsed present) ∧
        (¬e.KeepsEnd → ∀ m, e.periodEnd = some m → present.instant < m.stored.instant) := by
  obtain ⟨hkeeps, hwrites⟩ := tierExpiresAt_of_grant kind grants
  unfold Subscriber.HasLapsed
  by_cases hkept : e.KeepsEnd
  · simp only [SubscriberChange.apply, hkeeps hkept, hkept, Option.map_none, Option.getD_none,
      forall_true_left, not_true, IsEmpty.forall_iff, and_true]
  · simp [SubscriberChange.apply, hwrites hkept, hkept]

end ProviderEvent

namespace Arrival

/-- Right after a grant whose own period is not over the tier is active, unless the grant keeps the end
of an earlier subscription and that has passed. That is all for events as they are delivered. Others
may grant the base tier, which is never active, or end on a clock that is not in UTC, of which the
store keeps the time of day. -/
theorem granted_is_active_iff {a : Arrival} {db : Database} {u : Subscriber} {tier : Tier}
    (reachable : db.Reachable) (kind : a.event.kind.Grants)
    (settles : a.event.Settles a.context db u)
    (grants : (a.event.transitionAt a.context db u).edit.tier = some (some tier)) (now : Moment)
    (running : ∀ m, a.event.periodEnd = some m → now.instant < m.instant) :
    ∃ v, (a.after db).subscriber? u.id = some v ∧ v.tier = tier ∧
      v.activity now = .ok (v.isActive now) ∧
      (v.isActive now = true ↔ tier ≠ .community ∧ (a.event.KeepsEnd → ¬u.HasLapsed now) ∧
        (¬a.event.KeepsEnd → ∀ m, a.event.periodEnd = some m → now.instant < m.stored.instant)) ∧
      ∀ s p body, Delivery.event? s p body = .ok (some a.event) →
        (v.isActive now = true ↔ ¬(a.event.KeepsEnd ∧ u.HasLapsed now)) := by
  have hmem := ProviderEvent.mem_of_subject? settles.subject
  have hrow : db.subscriber? u.id = some u :=
    reachable.consistent.subscriber?_eq_some_iff.mpr ⟨hmem, rfl⟩
  have hutc := (reachable.endsInUtc u hmem).apply (a.event.transitionAt a.context db u).edit
  have htier : ((a.event.transitionAt a.context db u).edit.apply u).tier = tier := by
    simp only [SubscriberChange.apply, grants, Option.getD_some]
  have hlapsed : ¬((a.event.transitionAt a.context db u).edit.apply u).HasLapsed now ↔ _ :=
    ProviderEvent.not_hasLapsed_iff_of_grant kind grants now
  have hactive : ((a.event.transitionAt a.context db u).edit.apply u).isActive now = true ↔ _ :=
    Subscriber.isActive_iff
  rw [htier, hlapsed] at hactive
  refine ⟨_, by rw [subscriber?_of_settles settles, if_pos rfl, hrow, Option.map_some], htier,
    hutc.activity now, hactive, fun s p body event => ?_⟩
  have hpaid : tier ≠ .community :=
    (Delivery.standsFor_of_grantedTier event (ProviderEvent.grantedTier_of_edit kind grants)).paid
  have hstored : ∀ m, a.event.periodEnd = some m → now.instant < m.stored.instant := by
    intro m hm
    have hzone := Delivery.zone_of_periodEnd event hm
    have hinstant := running m hm
    simpa [Moment.stored, Moment.instant, hzone] using hinstant
  rw [hactive, not_and]
  exact ⟨fun h => h.2.1, fun h => ⟨hpaid, h, fun _ => hstored⟩⟩

/-- A completed checkout after the end of an earlier subscription grants a tier that is not active. -/
theorem granted_is_active_iff_of_lapsed :
    let created : Arrival :=
      { directPurchase with event :=
          { directPurchase.event with periodEnd := some (Moment.ofSeconds 86400) } }
    let bought : Arrival :=
      { context := { settings := {}, now := 172800 }
        event :=
          { provider := .stripe, eventId := "evt_2", kind := .checkoutCompleted, eventType := ""
            subscriberId := some "u", subscriptionId := some "new", planSlug := some "pro" } }
    let db := created.after (Database.ofCustomer "u" "u@example.com" .stripe "cus")
    db.Reachable ∧ bought.event.periodEnd = none ∧ bought.isProcessed db = true ∧
      ∃ v, (bought.after db).subscriber? "u" = some v ∧ v.tier = .pro ∧
        v.providerSubscriptionId = some "new" ∧
        v.activity bought.context.moment = .ok false := by
  intro created bought db
  have reachable : db.Reachable :=
    (Database.reachable_ofCustomer "u" "u@example.com" .stripe "cus").arrived created
  have processed : bought.isProcessed db = true := by decide +kernel
  obtain ⟨u, settles⟩ := isProcessed_iff.mp processed
  have hfound : db.subscriber? "u" = some u := settles.subject
  have hend : (db.subscriber? "u").map (fun u => u.tierExpiresAt) =
      some (some (Moment.ofSeconds 86400)) := by
    decide +kernel
  rw [hfound, Option.map_some, Option.some.injEq] at hend
  have grants : (bought.event.transitionAt bought.context db u).edit.tier = some (some .pro) := rfl
  obtain ⟨v, hv, htier, hactivity, hactive, -⟩ := granted_is_active_iff reachable
    (.inr (.inr rfl)) settles grants bought.context.moment nofun
  have hid : u.id = "u" := Database.id_of_subscriber? hfound
  rw [hid] at hv
  have hinactive : v.isActive bought.context.moment = false := by
    rw [Bool.eq_false_iff, ne_eq, hactive]
    exact fun h => h.2.1 (.inl rfl) ⟨_, hend, by decide⟩
  have hsubscription : ((bought.after db).subscriber? "u").map (fun v => v.providerSubscriptionId) =
      some (some "new") := by
    decide +kernel
  rw [hv, Option.map_some, Option.some.injEq] at hsubscription
  exact ⟨reachable, rfl, processed, v, hv, htier, hsubscription, hinactive ▸ hactivity⟩

end Arrival
end SubscriptionBilling
