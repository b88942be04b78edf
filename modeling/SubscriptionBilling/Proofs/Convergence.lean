import SubscriptionBilling.Proofs.ExactlyOnce
import SubscriptionBilling.Proofs.Refusals
import SubscriptionBilling.Proofs.Revocation
import SubscriptionBilling.Proofs.TranslatedEvents

/-! Notices of one subscription in any order and with any repetitions. As soon as one of them is a
cancellation, they all leave the subscriber without the subscription: what comes before the
cancellation is taken back by it, and what comes after it finds the end in the ledger or no
subscription in the record. The search in the ledger is the weak point, for it misses ids with a
NUL. -/
namespace SubscriptionBilling
namespace Arrival

/-- An undisturbed notice, in its time, of what became of one subscription of a provider, whose
customer is mapped to a subscriber. -/
structure Concerns (db : Database) (u : Subscriber) (p : Provider) (s : String) (a : Arrival) :
    Prop where
  kind : a.event.kind = .subscriptionCreated ∨ a.event.kind = .subscriptionUpdated ∨
    a.event.kind = .subscriptionCancelled
  provider : a.event.provider = p
  subject : a.event.subject? db = some u
  subscription : a.event.subscriptionId = some s
  translated : a.event.IsTranslated
  calm : a.context.fault = none
  inTime : a.context.settings.webhookDeadlineSeconds.isPositive = true

/-- Whether a cancellation among some arrivals is booked. -/
def EndIsBooked (arrivals : List Arrival) (p : Provider) (db : Database) : Prop :=
  ∃ a ∈ arrivals, a.event.kind = .subscriptionCancelled ∧ db.books p a.event.eventId = true

/-- A creation that brings a subscription back although the ledger holds its end. -/
def Slips (p : Provider) (s : String) (k : Arrival × Database) : Prop :=
  k.1.event.kind = .subscriptionCreated ∧ k.2.ends p s = true ∧ k.1.Revives s k.2

/-- What stays true while notices of a subscription arrive: the record holds no other one, and none
at all from the first cancellation on, whose entry stays. -/
structure Tracks (arrivals : List Arrival) (id : String) (p : Provider) (s : String)
    (db : Database) : Prop where
  consistent : db.Consistent
  about : ∀ a ∈ arrivals, (a.event.subject? db).map (fun v => v.id) = some id
  holds : ∀ v, db.subscriber? id = some v →
    v.providerSubscriptionId = none ∨ v.providerSubscriptionId = some s
  ended : EndIsBooked arrivals p db →
    db.ends p s = true ∧ ∀ v, db.subscriber? id = some v → v.IsUnsubscribed

section Steps
variable {arrivals : List Arrival} {db₀ db : Database} {u v : Subscriber} {p : Provider}
  {id s : String} {a : Arrival}

/-- The notices are about the one record under the id. -/
theorem Tracks.subject (h : Tracks arrivals id p s db) (ha : a ∈ arrivals) :
    ∃ v, a.event.subject? db = some v ∧ v.id = id ∧ db.subscriber? id = some v := by
  obtain ⟨v, hv, hid⟩ := Option.map_eq_some_iff.mp (h.about a ha)
  exact ⟨v, hv, hid, hid ▸ ProviderEvent.subscriber?_of_subject? h.consistent hv⟩

theorem Tracks.about_after (h : Tracks arrivals id p s db) (b : Arrival) :
    ∀ a ∈ arrivals, (a.event.subject? (b.after db)).map (fun v => v.id) = some id := by
  intro a ha
  rw [subject?_after h.consistent b, h.about a ha]

/-- The record after a notice that is processed. -/
theorem Tracks.record_of_settles (h : Tracks arrivals id p s db) (ha : a ∈ arrivals)
    (processed : a.isProcessed db = true) :
    ∃ v, db.subscriber? id = some v ∧ a.event.Settles a.context db v ∧
      (a.after db).subscriber? id = some ((a.event.transitionAt a.context db v).edit.apply v) := by
  obtain ⟨v, hsubject, hid, hv⟩ := h.subject ha
  obtain ⟨w, hw⟩ := isProcessed_iff.mp processed
  obtain rfl := Option.some.inj (hsubject.symm.trans hw.subject)
  refine ⟨v, hv, hw, ?_⟩
  rw [subscriber?_of_settles hw, if_pos hid.symm, hid, hv, Option.map_some]

/-- A cancellation takes effect the first time, and is booked from then on. -/
theorem Tracks.cancelled (h : Tracks arrivals id p s db) (ha : a ∈ arrivals)
    (concerns : a.Concerns db₀ u p s) (kind : a.event.kind = .subscriptionCancelled) :
    Tracks arrivals id p s (a.after db) ∧ (a.after db).books p a.event.eventId = true := by
  obtain ⟨v, hsubject, hid, hv⟩ := h.subject ha
  have same := ProviderEvent.same_of_holds concerns.subscription (h.holds v hv)
  cases hbooks : db.books p a.event.eventId with
  | true =>
    have hidle : a.isProcessed db = false := by
      by_contra hp
      obtain ⟨w, hw⟩ := isProcessed_iff.mp (Bool.not_eq_false _ ▸ hp)
      have hfree := books_eq_false_of_settles hw (by rw [kind]; rfl)
      rw [concerns.provider, hbooks] at hfree
      cases hfree
    rw [after_eq_of_not_processed hidle]
    exact ⟨h, hbooks⟩
  | false =>
    have hs : a.event.Settles a.context db v :=
      settles_of_undisturbed h.consistent (.inr kind) hsubject (concerns.provider ▸ hbooks)
        concerns.calm concerns.inTime
    have hprocessed := isProcessed_iff.mpr ⟨v, hs⟩
    have hrecord := subscriber?_of_cancelled_of_same h.consistent kind same hs
    rw [hid] at hrecord
    have hends := ends_of_cancelled kind concerns.subscription concerns.translated hprocessed
    rw [concerns.provider] at hends
    have hbooked : isBookedAs p a.event.eventId (a, db) = true := by
      simp [isBookedAs, hprocessed, kind, EventKind.isBooked, concerns.provider]
    refine ⟨⟨h.consistent.arrived a, h.about_after a, ?_, fun _ => ⟨hends, ?_⟩⟩,
      (books_after a db p _).mpr (.inr hbooked)⟩
    · intro w hw
      obtain rfl := Option.some.inj (hrecord.symm.trans hw)
      exact .inl rfl
    · intro w hw
      obtain rfl := Option.some.inj (hrecord.symm.trans hw)
      exact ⟨rfl, rfl, rfl⟩

variable (distinct : ∀ a ∈ arrivals, ∀ b ∈ arrivals, a.event.eventId = b.event.eventId →
  a.event = b.event)
include distinct

/-- Only cancellations book ends. -/
theorem endIsBooked_before (ha : a ∈ arrivals) (kind : a.event.kind ≠ .subscriptionCancelled)
    (h : EndIsBooked arrivals p (a.after db)) : EndIsBooked arrivals p db := by
  obtain ⟨c, hc, hkind, hbooks⟩ := h
  rcases (books_after a db p c.event.eventId).mp hbooks with hbefore | hbooked
  · exact ⟨c, hc, hkind, hbefore⟩
  · simp only [isBookedAs, Bool.and_eq_true, decide_eq_true_eq] at hbooked
    have hsame := distinct a ha c hc hbooked.2
    exact absurd (hsame ▸ hkind) kind

/-- A notice that leaves the record alone, or only moves the end of a subscription that is there. -/
theorem Tracks.of_same_record (h : Tracks arrivals id p s db) (ha : a ∈ arrivals)
    (kind : a.event.kind ≠ .subscriptionCancelled)
    (hrecord : ∀ v, (a.after db).subscriber? id = some v → ∃ w, db.subscriber? id = some w ∧
      v.providerSubscriptionId = w.providerSubscriptionId ∧ (w.IsUnsubscribed → v = w)) :
    Tracks arrivals id p s (a.after db) where
  consistent := h.consistent.arrived a
  about := h.about_after a
  holds := by
    intro v hv
    obtain ⟨w, hw, hid, -⟩ := hrecord v hv
    rw [hid]
    exact h.holds w hw
  ended := by
    intro hend
    obtain ⟨hends, hun⟩ := h.ended (endIsBooked_before distinct ha kind hend)
    refine ⟨Database.ends_of_isPrefix (ledger_grows a db) hends, fun v hv => ?_⟩
    obtain ⟨w, hw, -, hsame⟩ := hrecord v hv
    rw [hsame (hun w hw)]
    exact hun w hw

/-- An update moves the end of the subscription in the record, if there is one. -/
theorem Tracks.updated (h : Tracks arrivals id p s db) (ha : a ∈ arrivals)
    (kind : a.event.kind = .subscriptionUpdated) :
    Tracks arrivals id p s (a.after db) := by
  refine h.of_same_record distinct ha (by rw [kind]; decide) fun v hv => ?_
  cases hp : a.isProcessed db with
  | false =>
    rw [after_eq_of_not_processed hp] at hv
    exact ⟨v, hv, rfl, fun _ => rfl⟩
  | true =>
    obtain ⟨w, hw, hs, hafter⟩ := h.record_of_settles ha hp
    obtain rfl := Option.some.inj (hafter.symm.trans hv)
    refine ⟨w, hw, ?_⟩
    unfold Transition.edit ProviderEvent.transitionAt
    cases hch : (a.event.transition a.context.moment (a.event.hasEnded db) w).change with
    | none => exact ⟨rfl, fun _ => rfl⟩
    | some ch =>
      cases ProviderEvent.writes_of_change hch with
      | updated _ active _ _ =>
        refine ⟨rfl, fun hun => ?_⟩
        rw [hun.2.2] at active
        cases active
      | created hk _ _ => cases hk.symm.trans kind
      | cancelled hk _ => cases hk.symm.trans kind
      | resumed hk _ => cases hk.symm.trans kind
      | bought hk _ => cases hk.symm.trans kind

/-- A creation keeps what is tracked, unless it slips past the end in the ledger. -/
theorem Tracks.created (h : Tracks arrivals id p s db) (ha : a ∈ arrivals)
    (concerns : a.Concerns db₀ u p s) (kind : a.event.kind = .subscriptionCreated) :
    Tracks arrivals id p s (a.after db) ∨ Slips p s (a, db) := by
  have hkind : a.event.kind ≠ .subscriptionCancelled := by
    rw [kind]
    decide
  cases hp : a.isProcessed db with
  | false =>
    rw [after_eq_of_not_processed hp]
    exact .inl h
  | true =>
    obtain ⟨w, hw, hs, hafter⟩ := h.record_of_settles ha hp
    cases hch : (a.event.transitionAt a.context db w).change with
    | none =>
      refine .inl (h.of_same_record distinct ha hkind fun v hv => ⟨w, hw, ?_⟩)
      obtain rfl := Option.some.inj (hafter.symm.trans hv)
      simp [Transition.edit, hch]
    | some ch =>
      cases ProviderEvent.writes_of_change hch with
      | created _ granted running =>
        have hstores : (a.event.transitionAt a.context db w).edit.providerSubscriptionId =
            some (some s) := by
          rw [Transition.edit, hch, Option.getD_some, concerns.subscription]
        cases hends : db.ends p s with
        | true => exact .inr ⟨kind, hends, w, hs, .inr hstores⟩
        | false =>
          have hopen : ¬EndIsBooked arrivals p db := by
            intro hend
            rw [(h.ended hend).1] at hends
            cases hends
          refine .inl ⟨h.consistent.arrived a, h.about_after a, fun v hv => .inr ?_, fun hend =>
            absurd (endIsBooked_before distinct ha hkind hend) hopen⟩
          obtain rfl := Option.some.inj (hafter.symm.trans hv)
          simp only [SubscriberChange.apply, hstores, Option.getD_some]
      | updated hk _ _ _ => cases hk.symm.trans kind
      | cancelled hk _ => cases hk.symm.trans kind
      | resumed hk _ => cases hk.symm.trans kind
      | bought hk _ => cases hk.symm.trans kind

/-- What one notice does: it keeps what is tracked, books a cancellation, or slips. -/
theorem Tracks.step (h : Tracks arrivals id p s db) (ha : a ∈ arrivals)
    (concerns : a.Concerns db₀ u p s) :
    Slips p s (a, db) ∨ Tracks arrivals id p s (a.after db) ∧
      (a.event.kind = .subscriptionCancelled → (a.after db).books p a.event.eventId = true) := by
  rcases concerns.kind with kind | kind | kind
  · rcases h.created distinct ha concerns kind with htracks | hslips
    · exact .inr ⟨htracks, fun hc => absurd (kind.symm.trans hc) (by decide)⟩
    · exact .inl hslips
  · exact .inr ⟨h.updated distinct ha kind, fun hc => absurd (kind.symm.trans hc) (by decide)⟩
  · have hcancelled := h.cancelled ha concerns kind
    exact .inr ⟨hcancelled.1, fun _ => hcancelled.2⟩

end Steps

/-- What is booked stays booked. -/
theorem books_run {db : Database} {p : Provider} {eventId : String} (rest : List Arrival)
    (h : db.books p eventId = true) : (run rest db).books p eventId = true :=
  run_induction (P := fun db => db.books p eventId = true)
    (fun a db hdb => (books_after a db p eventId).mpr (.inl hdb)) rest h

/-- A run of notices slips somewhere, or keeps what is tracked and books every cancellation. -/
theorem Tracks.run {arrivals : List Arrival} {db₀ : Database} {u : Subscriber} {p : Provider}
    {id s : String} (distinct : ∀ a ∈ arrivals, ∀ b ∈ arrivals,
      a.event.eventId = b.event.eventId → a.event = b.event)
    (concern : ∀ a ∈ arrivals, a.Concerns db₀ u p s) (rest : List Arrival)
    (part : ∀ a ∈ rest, a ∈ arrivals) {db : Database} (h : Tracks arrivals id p s db) :
    (∃ k ∈ trace rest db, Slips p s k) ∨ Tracks arrivals id p s (Arrival.run rest db) ∧
      ∀ a ∈ rest, a.event.kind = .subscriptionCancelled →
        (Arrival.run rest db).books p a.event.eventId = true := by
  induction rest generalizing db with
  | nil => exact .inr ⟨h, fun a ha => nomatch ha⟩
  | cons b rest ih =>
    obtain ⟨hb, hrest⟩ := List.forall_mem_cons.mp part
    rcases h.step distinct hb (concern b hb) with hslips | ⟨hafter, hbooks⟩
    · exact .inl ⟨_, List.mem_cons_self, hslips⟩
    · rcases ih hrest hafter with ⟨k, hk, hslips⟩ | ⟨hrun, hcancelled⟩
      · exact .inl ⟨k, List.mem_cons_of_mem _ hk, hslips⟩
      · refine .inr ⟨hrun, List.forall_mem_cons.mpr ⟨fun kind => ?_, hcancelled⟩⟩
        exact books_run rest (hbooks kind)

/-- Nothing slips past the end of a subscription whose id has no NUL. -/
theorem nul_of_slips {p : Provider} {s : String} {k : Arrival × Database} (named : s ≠ "")
    (own : k.1.event.subscriptionId = some s) (provider : k.1.event.provider = p)
    (h : Slips p s k) : '\x00' ∈ s.toList := by
  obtain ⟨kind, hends, hrevives⟩ := h
  by_contra plain
  obtain ⟨-, -, hkind⟩ := (revives_iff named own k.2).mp hrevives
  rw [provider, Database.cancels_of_ends plain hends, kind] at hkind
  simp at hkind

/-- Notices of one subscription, each any number of times and in any order, leave the subscriber
without it once a cancellation is among them. The exception is a subscription with a NUL in its id,
and there a creation that slips past the end that the ledger holds already. -/
theorem converges {db : Database} {u : Subscriber} {p : Provider} {s : String}
    (consistent : db.Consistent) (named : s ≠ "")
    (free : u.providerSubscriptionId = none ∨ u.providerSubscriptionId = some s)
    {arrivals : List Arrival} (concern : ∀ a ∈ arrivals, a.Concerns db u p s)
    (distinct : ∀ a ∈ arrivals, ∀ b ∈ arrivals,
      a.event.eventId = b.event.eventId → a.event = b.event)
    (fresh : ∀ a ∈ arrivals, db.books p a.event.eventId = false)
    (ended : ∃ a ∈ arrivals, a.event.kind = .subscriptionCancelled) :
    (∃ v, (run arrivals db).subscriber? u.id = some v ∧ v.IsUnsubscribed) ∨
      '\x00' ∈ s.toList ∧ ∃ k ∈ trace arrivals db, k.1.event.kind = .subscriptionCreated ∧
        k.2.ends p s = true ∧ k.1.Revives s k.2 := by
  have start : Tracks arrivals u.id p s db := by
    refine ⟨consistent, fun a ha => by rw [(concern a ha).subject]; rfl, fun v hv => ?_, ?_⟩
    · obtain ⟨a, ha, -⟩ := ended
      have hu := ProviderEvent.subscriber?_of_subject? consistent (concern a ha).subject
      rwa [Option.some.inj (hv.symm.trans hu)]
    · rintro ⟨a, ha, -, hbooks⟩
      rw [fresh a ha] at hbooks
      cases hbooks
  rcases start.run distinct concern arrivals fun _ ha => ha with ⟨k, hk, hslips⟩ | ⟨hrun, hbooks⟩
  · have hmem := mem_of_mem_trace hk
    have hnul := nul_of_slips named (concern _ hmem).subscription (concern _ hmem).provider hslips
    exact .inr ⟨hnul, k, hk, hslips⟩
  · obtain ⟨a, ha, kind⟩ := ended
    obtain ⟨v, -, -, hv⟩ := hrun.subject ha
    exact .inl ⟨v, hv, (hrun.ended ⟨a, ha, kind, hbooks a ha kind⟩).2 v hv⟩

/-- The creation finds no end of a subscription whose id has a NUL. -/
example :
    let noticed (kind : EventKind) (eventId : String) : Arrival :=
      ⟨{ settings := {}, now := 0 },
        { (brokered kind "" eventId).event with subscriptionId := some "s\x00" }⟩
    let arrivals := [noticed .subscriptionCancelled "evt_1", noticed .subscriptionCreated "evt_2"]
    ((run arrivals (Database.ofCustomer "u" "u@example.com" .janua "cus")).subscriber? "u").map
      (fun v => v.tier) = some .pro := by
  decide +kernel

/-- The end of a subscription arrives before its creation, and again after an update. -/
theorem converges_from_end_first :
    let created := brokered .subscriptionCreated "subscription.created" "evt_1"
    let updated := brokered .subscriptionUpdated "subscription.updated" "evt_2"
    let cancelled := brokered .subscriptionCancelled "subscription.cancelled" "evt_3"
    let arrivals := [cancelled, created, updated, created, cancelled]
    let db := Database.ofCustomer "u" "u@example.com" .janua "cus"
    ((created.after db).subscriber? "u").map (fun v => v.tier) = some .pro ∧
      ∃ v, (run arrivals db).subscriber? "u" = some v ∧ v.IsUnsubscribed := by
  intro created updated cancelled arrivals db
  let u : Subscriber :=
    (Subscriber.enrolled "u" "u@example.com" none none .community).setCustomerId .janua (some "cus")
  have hmem : ∀ a ∈ arrivals, a = cancelled ∨ a = created ∨ a = updated := by
    intro a ha
    simp only [arrivals, List.mem_cons, List.not_mem_nil, or_false] at ha
    tauto
  have concern : ∀ a ∈ arrivals, a.Concerns db u .janua "sub" := by
    intro a ha
    rcases hmem a ha with rfl | rfl | rfl
    · exact ⟨.inr (.inr rfl), rfl, by rfl, rfl,
        .brokered (show (brokerPayload "subscription.cancelled" "evt_3").toEvent? = _ by rfl), rfl,
        by decide +kernel⟩
    · exact ⟨.inl rfl, rfl, by rfl, rfl,
        .brokered (show (brokerPayload "subscription.created" "evt_1").toEvent? = _ by rfl), rfl,
        by decide +kernel⟩
    · exact ⟨.inr (.inl rfl), rfl, by rfl, rfl,
        .brokered (show (brokerPayload "subscription.updated" "evt_2").toEvent? = _ by rfl), rfl,
        by decide +kernel⟩
  have distinct : ∀ a ∈ arrivals, ∀ b ∈ arrivals,
      a.event.eventId = b.event.eventId → a.event = b.event := by
    intro a ha b hb
    rcases hmem a ha with rfl | rfl | rfl <;> rcases hmem b hb with rfl | rfl | rfl <;>
      first | exact fun _ => rfl | exact fun h => absurd h (by decide)
  have consistent : db.Consistent := (Database.reachable_ofCustomer _ _ _ _).consistent
  have hruns := converges consistent (by decide) (.inl rfl) concern distinct
    (fun _ _ => rfl) ⟨cancelled, List.mem_cons_self, rfl⟩
  have plain : '\x00' ∉ "sub".toList := by decide
  exact ⟨by decide +kernel, hruns.resolve_right fun h => plain h.1⟩

end Arrival
end SubscriptionBilling
