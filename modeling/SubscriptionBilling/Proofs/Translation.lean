import SubscriptionBilling.Proofs.Readings
import SubscriptionBilling.Proofs.Timestamps
import SubscriptionBilling.Webhook.Delivery

/-! What becomes of a body. It fails to give an event in two ways: its record is invalid, or one of
the two times of a subscription's period is no moment. -/
namespace SubscriptionBilling
open Fields

/-- A reading that does not meet broken text fails, if at all, as an invalid record. -/
theorem check_of_reads {P : α → Prop} {x : Parse α} (h : Reads P x) :
    (∃ a, x = .ok a ∧ check x = .ok a ∧ P a) ∨ check x = .error .invalidRecord := by
  cases x with
  | ok a => exact .inl ⟨a, rfl, rfl, h⟩
  | error problem => exact .inr (by rw [check, Except.mapError, if_neg h])

theorem check_eq_ok {x : Parse α} {a : α} : check x = .ok a ↔ x = .ok a := by
  cases x <;> simp [check, Except.mapError]

theorem toOption_check (x : Parse α) : (check x).toOption = x.toOption := by
  cases x <;> rfl

/-- The first and the last second of a period, as far as they are given. -/
abbrev Period := Option Int × Option Int

/-- The first of the two times of a period that is no moment is off the clock. -/
def Period.IsOffClock (period : Period) : Prop :=
  (∃ n, period.1 = some n ∧ Moment.IsOffClock n) ∨
    (∀ n, period.1 = some n → Moment.IsInCalendar n) ∧
      ∃ n, period.2 = some n ∧ Moment.IsOffClock n

namespace Failure

/-- The failures of times that are off the clock. -/
def isOffClock : Failure → Bool
  | .timestampBeyondWord => true
  | .timestampBeyondYearWord => true
  | _ => false

/-- The failures that are put down to the payload. -/
def liesInPayload : Failure → Bool
  | .invalidRecord => true
  | .timestampBeyondCalendar => true
  | _ => false

end Failure

/-- A step that fails over a time off the clock in one case, and over the payload, if at all, in
every other. -/
structure FailsOffClock (case : Prop) (x : Except Failure α) : Prop where
  off : case → ∃ f, f.isOffClock = true ∧ x = .error f
  on : ¬case → ∀ f, x = .error f → f.liesInPayload = true

namespace FailsOffClock
variable {case : Prop} {x : Except Failure α}

theorem ok (a : α) : FailsOffClock False (.ok a : Except Failure α) :=
  ⟨False.elim, fun _ _ h => nomatch h⟩

theorem check {P : α → Prop} {x : Parse α} (h : Reads P x) :
    FailsOffClock False (Fields.check x) := by
  refine ⟨False.elim, fun _ f hf => ?_⟩
  rcases check_of_reads h with ⟨a, -, hok, -⟩ | hinvalid
  · rw [hok] at hf
    cases hf
  · rw [hinvalid] at hf
    cases hf
    rfl

theorem map {g : α → β} (h : FailsOffClock case x) : FailsOffClock case (x.map g) := by
  constructor
  · intro hc
    obtain ⟨f, hf, rfl⟩ := h.off hc
    exact ⟨f, hf, rfl⟩
  · intro hc f hf
    cases x with
    | ok a => cases hf
    | error e =>
      cases hf
      exact h.on hc _ rfl

/-- What follows a step cannot fail. -/
theorem andThen {y : α → Except Failure β} (h : FailsOffClock False x)
    (hy : ∀ a, ∃ b, y a = .ok b) : FailsOffClock False (x >>= y) := by
  refine ⟨False.elim, fun _ f hf => ?_⟩
  cases x with
  | ok a =>
    obtain ⟨b, hb⟩ := hy a
    cases hb.symm.trans hf
  | error g =>
    cases hf
    exact h.on id _ rfl

/-- A step that does not look at the period comes first. -/
theorem bind {y : α → Except Failure β} {period? : α → Option Period} (hx : FailsOffClock False x)
    (hy : ∀ a, x = .ok a → FailsOffClock (∃ ends ∈ period? a, ends.IsOffClock) (y a)) :
    FailsOffClock (∃ ends ∈ x.toOption.bind period?, ends.IsOffClock) (x >>= y) := by
  cases x with
  | ok a => exact hy a rfl
  | error f =>
    refine ⟨fun ⟨_, hnone, _⟩ => (nomatch hnone), fun _ g hg => ?_⟩
    cases hg
    exact hx.on id f rfl

end FailsOffClock

theorem Moment.IsInCalendar.isOnClock {seconds : Int} (h : IsInCalendar seconds) :
    ¬IsOffClock seconds := by
  unfold IsInCalendar at h
  unfold IsOffClock
  omega

/-- A count of seconds is a moment in UTC. -/
theorem zone_of_timestamp? {time : Option Int} {read : Option Moment}
    (h : timestamp? time = .ok read) : ∀ m, read = some m → m.zone = some 0 := by
  rintro m rfl
  unfold timestamp? at h
  split at h
  · cases h
  · next n =>
    rcases Moment.ofTimestamp_cases n with ⟨-, hm⟩ | ⟨-, e, -, hm⟩ | ⟨-, -, hm⟩ <;> rw [hm] at h
    · cases h
      rfl
    · cases h
    · cases h

/-- A time that was given, if it was, is a moment, off the clock, or in no year of the calendar. -/
theorem timestamp?_cases (time : Option Int) :
    ((∀ n, time = some n → Moment.IsInCalendar n) ∧ ∃ m, timestamp? time = .ok m) ∨
    (∃ n, time = some n ∧ Moment.IsOffClock n ∧
      ∃ f, f.isOffClock = true ∧ timestamp? time = .error f) ∨
    (∃ n, time = some n ∧ ¬Moment.IsInCalendar n ∧ ¬Moment.IsOffClock n ∧
      timestamp? time = .error .timestampBeyondCalendar) := by
  cases time with
  | none => exact .inl ⟨by simp, none, rfl⟩
  | some n =>
    rcases Moment.ofTimestamp_cases n with ⟨hin, h⟩ | ⟨hoff, e, he, h⟩ | ⟨hout, hon, h⟩
    · exact .inl ⟨by simpa using hin, some (Moment.ofSeconds n), by simp only [timestamp?, h]⟩
    · refine .inr (.inl ⟨n, rfl, hoff, e.failure, ?_, by simp only [timestamp?, h]⟩)
      cases e with
      | beyondCalendar => exact absurd rfl he
      | _ => rfl
    · exact .inr (.inr ⟨n, rfl, hout, hon, by simp only [timestamp?, h]; rfl⟩)

/-- What is made of a period fails over a time off the clock exactly if the period does, as long as
what follows does not. -/
theorem failsOffClock_period (period : Period)
    {make : Option Moment → Option Moment → Except Failure α}
    (h : ∀ a b, FailsOffClock False (make a b)) :
    FailsOffClock (∃ ends ∈ some period, ends.IsOffClock)
      (do let a ← timestamp? period.1; let b ← timestamp? period.2; make a b) := by
  obtain ⟨start, stop⟩ := period
  simp only [Option.mem_some_iff, exists_eq_left', Period.IsOffClock]
  rcases timestamp?_cases start with ⟨hin, a, ha⟩ | ⟨n, hn, hoff, f, hf, ha⟩ |
    ⟨n, hn, hout, hon, ha⟩
  · rcases timestamp?_cases stop with ⟨hin', b, hb⟩ | ⟨n, hn, hoff, f, hf, hb⟩ |
      ⟨n, hn, hout, hon, hb⟩
    · rw [ha, hb]
      refine ⟨?_, fun _ => (h a b).on id⟩
      rintro (⟨n, hn, hoff⟩ | ⟨-, n, hn, hoff⟩)
      · exact absurd hoff (hin n hn).isOnClock
      · exact absurd hoff (hin' n hn).isOnClock
    · rw [ha, hb]
      exact ⟨fun _ => ⟨f, hf, rfl⟩, fun hc => absurd (.inr ⟨hin, n, hn, hoff⟩) hc⟩
    · rw [ha, hb]
      refine ⟨?_, fun _ f hf => by cases hf; rfl⟩
      rintro (⟨m, hm, hoff⟩ | ⟨-, m, hm, hoff⟩)
      · exact absurd hoff (hin m hm).isOnClock
      · exact absurd (Option.some.inj (hn.symm.trans hm) ▸ hoff) hon
  · rw [ha]
    exact ⟨fun _ => ⟨f, hf, rfl⟩, fun hc => absurd (.inl ⟨n, hn, hoff⟩) hc⟩
  · rw [ha]
    refine ⟨?_, fun _ f hf => by cases hf; rfl⟩
    rintro (⟨m, hm, hoff⟩ | ⟨hin, -⟩)
    · exact absurd (Option.some.inj (hn.symm.trans hm) ▸ hoff) hon
    · exact absurd (hin n hn) hout

namespace StripePayload

/-- The types that are about a subscription and its period. -/
def subscriptionKind? : String → Option EventKind
  | "customer.subscription.created" => some .subscriptionCreated
  | "customer.subscription.updated" => some .subscriptionUpdated
  | "customer.subscription.deleted" => some .subscriptionCancelled
  | _ => none

/-- The types that are about one payment of any kind, and what is read of them. -/
def paymentEvent? (p : Payload) : Option (Parse ProviderEvent) :=
  match p.type with
  | "checkout.session.completed" => some (checkoutEvent p)
  | "invoice.payment_succeeded" => some (invoiceEvent p .paymentSucceeded)
  | "invoice.payment_failed" => some (invoiceEvent p .paymentFailed)
  | "charge.refunded" => some (refundEvent p)
  | _ => none

/-- A payload is about a subscription, about a payment, or not acted on. -/
theorem toEvent?_eq (s : Settings) (p : Payload) :
    p.toEvent? s =
      match subscriptionKind? p.type, paymentEvent? p with
      | some kind, _ => (subscriptionEvent s p kind).map some
      | none, some x => (check x).map some
      | none, none => .ok none := by
  unfold Payload.toEvent? subscriptionKind? paymentEvent?
  generalize p.type = type
  split <;> simp [*]

/-- An event comes of what is read of a subscription or of a payment. -/
theorem toEvent?_cases {s : Settings} {p : Payload} {e : ProviderEvent}
    (h : p.toEvent? s = .ok (some e)) :
    (∃ kind, subscriptionKind? p.type = some kind ∧ subscriptionEvent s p kind = .ok e) ∨
      subscriptionKind? p.type = none ∧ paymentEvent? p = some (.ok e) := by
  rw [toEvent?_eq] at h
  cases hk : subscriptionKind? p.type with
  | some kind =>
    simp only [hk] at h
    obtain ⟨_, he, hsome⟩ := map_eq_ok.mp h
    obtain rfl := Option.some.inj hsome
    exact .inl ⟨kind, rfl, he⟩
  | none =>
    simp only [hk] at h
    cases hx : paymentEvent? p with
    | none =>
      simp only [hx] at h
      cases h
    | some x =>
      simp only [hx] at h
      obtain ⟨_, he, hsome⟩ := map_eq_ok.mp h
      obtain rfl := Option.some.inj hsome
      exact .inr ⟨rfl, congrArg some (check_eq_ok.mp he)⟩

/-- The period that a payload gives for a subscription. -/
def Payload.period? (p : Payload) : Option Period := do
  let _ ← subscriptionKind? p.type
  let sub ← (Subscription.ofFields p.subject).toOption
  return (sub.periodStart, sub.periodEnd)

theorem failsOffClock_subscriptionEvent {s : Settings} {p : Payload} {kind : EventKind}
    (h : AreEncodable p.subject) :
    FailsOffClock (∃ ends ∈ (Subscription.ofFields p.subject).toOption.bind fun sub =>
      some (sub.periodStart, sub.periodEnd), Period.IsOffClock ends) (subscriptionEvent s p kind) := by
  have hreads := reads_subscription h
  rw [← toOption_check]
  refine FailsOffClock.bind (.check hreads) fun sub hsub => ?_
  rw [check_eq_ok.mp hsub] at hreads
  refine failsOffClock_period (sub.periodStart, sub.periodEnd) fun a b => ?_
  have hproduct : ((sub.prices.head?.map ItemPrice.productId).getD .null).isEncodable = true := by
    cases hprice : sub.prices.head? with
    | none => rfl
    | some price => exact isEncodable_productId (hreads price (List.mem_of_mem_head? hprice))
  exact (FailsOffClock.check (readsAny_nullable (readsAny_text _ hproduct))).andThen fun _ => ⟨_, rfl⟩

theorem reads_paymentEvent? {p : Payload} {x : Parse ProviderEvent} (h : AreEncodable p.subject)
    (hx : paymentEvent? p = some x) : ReadsAny x := by
  unfold paymentEvent? at hx
  split at hx <;> cases hx
  · exact readsAny_checkoutEvent h
  · exact readsAny_invoiceEvent _ h
  · exact readsAny_invoiceEvent _ h
  · exact readsAny_refundEvent h

theorem failsOffClock_toEvent? (s : Settings) {p : Payload} (h : AreEncodable p.subject) :
    FailsOffClock (∃ ends ∈ p.period?, ends.IsOffClock) (p.toEvent? s) := by
  rw [toEvent?_eq, Payload.period?]
  cases hk : subscriptionKind? p.type with
  | some kind => exact (failsOffClock_subscriptionEvent h).map
  | none =>
    have hnone : ¬∃ ends ∈ (none : Option Period), ends.IsOffClock := by simp
    rw [Option.bind_eq_bind, Option.bind_none, eq_false hnone]
    cases hx : paymentEvent? p with
    | some x => exact (FailsOffClock.check (reads_paymentEvent? h hx)).map
    | none => exact .ok _

/-- The id of the first price of a payload's subscription. -/
def Payload.priceId? (p : Payload) : Option String := do
  let _ ← subscriptionKind? p.type
  let sub ← (Subscription.ofFields p.subject).toOption
  let price ← sub.prices.head?
  return price.id

theorem subscriptionKind?_ne_resumed (type : String) :
    subscriptionKind? type ≠ some .subscriptionResumed := by
  unfold subscriptionKind?
  split <;> simp

/-- Every event comes from the direct processor, which knows of no other processor and of no
resumptions, only a first price makes it name a tier, and its period ends in UTC. -/
structure Payload.IsSourceOf (s : Settings) (p : Payload) (e : ProviderEvent) : Prop where
  provider : e.provider = .stripe
  upstream : e.upstreamProvider = none
  kind : e.kind ≠ .subscriptionResumed
  planTier : e.planTier = (p.priceId?.bind (Price.tierOf? s)).map Tier.name
  periodEnd : ∀ m, e.periodEnd = some m → m.zone = some 0

theorem isSourceOf_subscriptionEvent {s : Settings} {p : Payload} {kind : EventKind}
    {e : ProviderEvent} (hk : subscriptionKind? p.type = some kind)
    (h : subscriptionEvent s p kind = .ok e) : p.IsSourceOf s e := by
  unfold subscriptionEvent at h
  simp only [bind_eq_ok, pure_eq_ok, check_eq_ok] at h
  obtain ⟨sub, hsub, _, -, _, hend, _, -, rfl⟩ := h
  refine ⟨rfl, rfl, fun hresumed => ?_, ?_, zone_of_timestamp? hend⟩
  · obtain rfl : kind = .subscriptionResumed := hresumed
    exact subscriptionKind?_ne_resumed _ hk
  · cases hprice : sub.prices.head? <;> simp [Payload.priceId?, hk, hsub, hprice, Except.toOption]

theorem isSourceOf_paymentEvent? {s : Settings} {p : Payload} {x : Parse ProviderEvent}
    {e : ProviderEvent} (hk : subscriptionKind? p.type = none) (hx : paymentEvent? p = some x)
    (h : x = .ok e) : p.IsSourceOf s e := by
  have hprice : p.priceId? = none := by simp [Payload.priceId?, hk]
  subst h
  unfold paymentEvent? at hx
  split at hx
  · have h := Option.some.inj hx
    simp only [checkoutEvent, bind_eq_ok, pure_eq_ok] at h
    obtain ⟨_, -, _, -, _, -, _, -, _, -, _, -, rfl⟩ := h
    exact ⟨rfl, rfl, nofun, by rw [hprice]; rfl, nofun⟩
  · have h := Option.some.inj hx
    simp only [invoiceEvent, bind_eq_ok, pure_eq_ok] at h
    obtain ⟨_, -, _, -, _, -, _, -, _, -, _, -, rfl⟩ := h
    exact ⟨rfl, rfl, nofun, by rw [hprice]; rfl, nofun⟩
  · have h := Option.some.inj hx
    simp only [invoiceEvent, bind_eq_ok, pure_eq_ok] at h
    obtain ⟨_, -, _, -, _, -, _, -, _, -, _, -, rfl⟩ := h
    exact ⟨rfl, rfl, nofun, by rw [hprice]; rfl, nofun⟩
  · have h := Option.some.inj hx
    simp only [refundEvent, bind_eq_ok, pure_eq_ok] at h
    obtain ⟨_, -, _, -, _, -, _, -, rfl⟩ := h
    exact ⟨rfl, rfl, nofun, by rw [hprice]; rfl, nofun⟩
  · cases hx

theorem isSourceOf_toEvent? {s : Settings} {p : Payload} {e : ProviderEvent}
    (h : p.toEvent? s = .ok (some e)) : p.IsSourceOf s e := by
  rcases toEvent?_cases h with ⟨kind, hk, he⟩ | ⟨hk, hx⟩
  · exact isSourceOf_subscriptionEvent hk he
  · exact isSourceOf_paymentEvent? hk hx rfl

end StripePayload

namespace JanuaPayload

/-- The period that a payload of a type that is acted on gives. -/
def Payload.period? (p : Payload) : Option Period :=
  (kindOf? p.type).bind fun _ => some (p.periodStart, p.periodEnd)

theorem failsOffClock_toEvent? (p : Payload) :
    FailsOffClock (∃ ends ∈ p.period?, ends.IsOffClock) p.toEvent? := by
  unfold Payload.toEvent? Payload.period?
  cases kindOf? p.type with
  | none =>
    have hnone : ¬∃ ends ∈ (none : Option Period), ends.IsOffClock := by simp
    rw [Option.bind_none, eq_false hnone]
    exact .ok _
  | some kind => exact failsOffClock_period (p.periodStart, p.periodEnd) fun _ _ => .ok _

/-- The broker's events name no tier, and their periods end in UTC. -/
theorem facts_of_toEvent? {p : Payload} {e : ProviderEvent} (h : p.toEvent? = .ok (some e)) :
    e.provider = .janua ∧ e.planTier = none ∧ ∀ m, e.periodEnd = some m → m.zone = some 0 := by
  unfold Payload.toEvent? at h
  split at h
  · cases h
  · simp only [bind_eq_ok, pure_eq_ok] at h
    obtain ⟨_, -, _, hend, hsome⟩ := h
    obtain rfl := Option.some.inj hsome
    exact ⟨rfl, rfl, zone_of_timestamp? hend⟩

end JanuaPayload

namespace Delivery

/-- The period in a body, where there would be an event but for its times. -/
def period? (p : Provider) (body : List UInt8) : Option Period :=
  (fieldsOf body).toOption.bind fun fs =>
    match p with
    | .stripe => (StripePayload.Payload.ofFields fs).toOption.bind StripePayload.Payload.period?
    | .janua => (JanuaPayload.Payload.ofFields fs).toOption.bind JanuaPayload.Payload.period?

theorem failsOffClock_fieldsOf (body : List UInt8) : FailsOffClock False (fieldsOf body) := by
  refine ⟨False.elim, fun _ f hf => ?_⟩
  unfold fieldsOf at hf
  split at hf <;> cases hf
  rfl

theorem areEncodable_of_fieldsOf {body : List UInt8} {fs : List (String × Json)}
    (h : fieldsOf body = .ok fs) : AreEncodable fs := by
  unfold fieldsOf at h
  split at h
  · next fields hread =>
    cases h
    exact Json.isEncodable_object.mp (Json.ofUtf8_isEncodable hread)
  · cases h

/-- A body fails to give an event over a time off the clock exactly if its period is so, and over
itself, if at all, otherwise. -/
theorem failsOffClock_event? (s : Settings) (p : Provider) (body : List UInt8) :
    FailsOffClock (∃ ends ∈ period? p body, ends.IsOffClock) (event? s p body) := by
  refine FailsOffClock.bind (failsOffClock_fieldsOf body) fun fs hfs => ?_
  have henc := areEncodable_of_fieldsOf hfs
  cases p with
  | stripe =>
    have hreads := StripePayload.reads_ofFields henc
    simp only [← toOption_check (StripePayload.Payload.ofFields fs)]
    refine FailsOffClock.bind (.check hreads) fun payload hpayload => ?_
    rw [check_eq_ok.mp hpayload] at hreads
    exact StripePayload.failsOffClock_toEvent? s hreads
  | janua =>
    simp only [← toOption_check (JanuaPayload.Payload.ofFields fs)]
    exact FailsOffClock.bind (.check (JanuaPayload.readsAny_ofFields henc)) fun payload _ =>
      JanuaPayload.failsOffClock_toEvent? payload

/-- The event in a body comes from the payload of the provider that sent it. -/
theorem event?_eq_some {s : Settings} {p : Provider} {body : List UInt8} {e : ProviderEvent} :
    event? s p body = .ok (some e) ↔
      ∃ fs, fieldsOf body = .ok fs ∧
        match p with
        | .stripe => ∃ payload, StripePayload.Payload.ofFields fs = .ok payload ∧
            payload.toEvent? s = .ok (some e)
        | .janua => ∃ payload, JanuaPayload.Payload.ofFields fs = .ok payload ∧
            payload.toEvent? = .ok (some e) := by
  unfold event?
  rw [bind_eq_ok]
  cases p with
  | stripe => simp only [bind_eq_ok, check_eq_ok]
  | janua => simp only [bind_eq_ok, check_eq_ok]

/-- The id of the first price in a body. -/
def priceId? (p : Provider) (body : List UInt8) : Option String :=
  (fieldsOf body).toOption.bind fun fs =>
    match p with
    | .stripe => (StripePayload.Payload.ofFields fs).toOption.bind StripePayload.Payload.priceId?
    | .janua => none

/-- An event is one of the provider that delivers it. -/
theorem provider_of_event? {s : Settings} {p : Provider} {body : List UInt8} {e : ProviderEvent}
    (h : event? s p body = .ok (some e)) : e.provider = p := by
  obtain ⟨fs, -, h⟩ := event?_eq_some.mp h
  cases p with
  | stripe =>
    obtain ⟨payload, -, h⟩ := h
    exact (StripePayload.isSourceOf_toEvent? h).provider
  | janua =>
    obtain ⟨payload, -, h⟩ := h
    exact (JanuaPayload.facts_of_toEvent? h).1

/-- An event of the direct processor's names no processor behind it and resumes nothing. -/
theorem direct_of_event? {s : Settings} {p : Provider} {body : List UInt8} {e : ProviderEvent}
    (h : event? s p body = .ok (some e)) (direct : e.provider = .stripe) :
    e.upstreamProvider = none ∧ e.kind ≠ .subscriptionResumed := by
  obtain rfl : e.provider = p := provider_of_event? h
  obtain ⟨fs, -, h⟩ := event?_eq_some.mp h
  rw [direct] at h
  obtain ⟨payload, -, h⟩ := h
  exact ⟨(StripePayload.isSourceOf_toEvent? h).upstream, (StripePayload.isSourceOf_toEvent? h).kind⟩

/-- The tier that an event names is the one that the first price in its body is configured for. -/
theorem planTier_of_event? {s : Settings} {p : Provider} {body : List UInt8} {e : ProviderEvent}
    (h : event? s p body = .ok (some e)) :
    e.planTier = ((priceId? p body).bind (Price.tierOf? s)).map Tier.name := by
  obtain ⟨fs, hfs, h⟩ := event?_eq_some.mp h
  cases p with
  | stripe =>
    obtain ⟨payload, hpayload, h⟩ := h
    simp [priceId?, hfs, hpayload, Except.toOption, (StripePayload.isSourceOf_toEvent? h).planTier]
  | janua =>
    obtain ⟨payload, -, h⟩ := h
    simp [priceId?, hfs, Except.toOption, (JanuaPayload.facts_of_toEvent? h).2.1]

/-- The period of a delivered event ends in UTC. -/
theorem zone_of_periodEnd {s : Settings} {p : Provider} {body : List UInt8} {e : ProviderEvent}
    (h : event? s p body = .ok (some e)) {m : Moment} (hm : e.periodEnd = some m) :
    m.zone = some 0 := by
  obtain ⟨fs, -, h⟩ := event?_eq_some.mp h
  cases p with
  | stripe =>
    obtain ⟨payload, -, h⟩ := h
    exact (StripePayload.isSourceOf_toEvent? h).periodEnd m hm
  | janua =>
    obtain ⟨payload, -, h⟩ := h
    exact (JanuaPayload.facts_of_toEvent? h).2.2 m hm

end Delivery
end SubscriptionBilling
