import SubscriptionBilling.Proofs.HeldSubscriptions
import SubscriptionBilling.Proofs.MoneyEvents
import SubscriptionBilling.Proofs.TranslatedEvents

/-! Late notices of a subscription that its subscriber has replaced by another one. They leave the
record alone, and the end of the old subscription is booked as stale. A subscription with an empty id
is not protected in this way: a cancellation counts it as none. -/
namespace SubscriptionBilling

/-- An event of a subscription other than the one that is held. What tells of money, and a pause, may
name no subscription at all. -/
inductive ProviderEvent.IsSuperseded (e : ProviderEvent) (own : String) : Prop
  | named {s : String}
      (kind : e.kind.isMonetary = true ∨ e.kind = .subscriptionUpdated ∨
        e.kind = .subscriptionCancelled)
      (names : e.subscriptionId = some s) (filled : s ≠ "") (other : s ≠ own)
  | unnamed (kind : e.kind.isMonetary = true) (silent : e.subscriptionId = none)

/-- An entry that books the end of a subscription which was not the one its subscriber held. -/
structure LedgerEntry.BooksStaleEnd (row : LedgerEntry) (e : ProviderEvent) (u : Subscriber) :
    Prop where
  kind : row.kind = .subscriptionCancelled
  owner : row.subscriberId = u.id
  books : row.books e.provider e.eventId = true
  nothing : row.amount.coefficient = 0
  stale : row.metadata.lookup "stale_subscription" = some (.bool true)

namespace ProviderEvent
variable {e : ProviderEvent} {u : Subscriber} {own : String}

theorem isOther_of_names {s : String} (names : e.subscriptionId = some s) (hfilled : s ≠ "")
    (other : s ≠ own) : e.isOther own = true := by
  simp [isOther, filled_eq_some_iff.mpr ⟨names, hfilled⟩, other.symm]

/-- Only events of the first form concern subscriptions as such. -/
theorem IsSuperseded.isOther (h : e.IsSuperseded own) (kind : e.kind.isMonetary = false) :
    e.isOther own = true := by
  cases h with
  | named _ names filled other => exact isOther_of_names names filled other
  | unnamed monetary silent => cases monetary.symm.trans kind

theorem IsSuperseded.kind (h : e.IsSuperseded own) :
    e.kind.isMonetary = true ∨ e.kind = .subscriptionUpdated ∨ e.kind = .subscriptionCancelled := by
  cases h with
  | named kind names filled other => exact kind
  | unnamed kind silent => exact .inl kind

/-- Nothing is edited for a superseded subscription, unless the end of one finds an empty id. -/
theorem edit_of_superseded (holds : u.providerSubscriptionId = some own)
    (superseded : e.IsSuperseded own) (counts : own ≠ "" ∨ e.kind ≠ .subscriptionCancelled)
    (now : Moment) (ended : Bool) : (e.transition now ended u).edit = {} := by
  rcases superseded.kind with kind | kind | kind
  · rw [Transition.edit, transition_of_monetary kind]
    rfl
  · rw [edit_updated_of_holds kind holds, if_pos (superseded.isOther (by rw [kind]; rfl))]
  · have hown : own ≠ "" := counts.resolve_right fun h => h kind
    rw [edit_cancelled kind holds, if_pos ⟨hown, superseded.isOther (by rw [kind]; rfl)⟩]

/-- The end of a superseded subscription is booked as stale and not noted. -/
theorem transition_of_stale_end (kind : e.kind = .subscriptionCancelled)
    (holds : u.providerSubscriptionId = some own) (hown : own ≠ "") (other : e.isOther own = true)
    (now : Moment) (ended : Bool) :
    e.transition now ended u =
      { posting := some (e.posting u .subscriptionCancelled .succeeded Decimal.zero
          [("stale_subscription", .bool true)]) } := by
  have hfilled : (filled u.providerSubscriptionId).filter e.isOther = some own := by
    rw [filled_eq_some_iff.mpr ⟨holds, hown⟩]
    simp [Option.filter, other]
  simp only [transition, kind, onCancelled, hfilled]

end ProviderEvent

namespace Arrival
variable {a : Arrival} {db : Database} {u : Subscriber} {own : String}

/-- A notice of a superseded subscription leaves the records as they are. -/
theorem subscribers_after_of_superseded (holds : u.providerSubscriptionId = some own)
    (subject : a.event.subject? db = some u) (superseded : a.event.IsSuperseded own)
    (counts : own ≠ "" ∨ a.event.kind ≠ .subscriptionCancelled) :
    (a.after db).subscribers = db.subscribers := by
  rcases a.after_cases db with hsame | ⟨w, hs⟩
  · rw [hsame]
  · obtain rfl := Option.some.inj (subject.symm.trans hs.subject)
    rw [after_of_settles hs, Transition.subscribers_result, ProviderEvent.transitionAt,
      ProviderEvent.edit_of_superseded holds superseded counts, Database.amend_empty]

/-- The end of a superseded subscription, when it is processed, adds one entry and nothing else. -/
theorem books_stale_end (holds : u.providerSubscriptionId = some own) (hown : own ≠ "")
    (kind : a.event.kind = .subscriptionCancelled) (other : a.event.isOther own = true)
    (settles : a.event.Settles a.context db u) :
    ∃ row : LedgerEntry, (a.after db).ledger = db.ledger ++ [row] ∧
      row.BooksStaleEnd a.event u ∧ (a.after db).audit = db.audit := by
  have hzero : bookedAmount? Decimal.zero = some ⟨false, 0, -2⟩ := by decide +kernel
  have hflag : Json.bool true ≠ .null := by simp
  rw [after_of_settles settles, ProviderEvent.transitionAt,
    ProviderEvent.transition_of_stale_end kind holds hown other]
  simp only [Transition.result, Option.bind_some, Posting.entry?, ProviderEvent.posting, hzero,
    Option.map_some, Option.toList_some, Option.map_none, Option.toList_none, List.append_nil]
  refine ⟨_, rfl, ⟨rfl, rfl, ?_, rfl, ?_⟩, trivial⟩
  · simp [LedgerEntry.books]
  · exact ProviderEvent.lookup_posting_of_fact rfl hflag u .subscriptionCancelled .succeeded Decimal.zero

/-- Late notices of superseded subscriptions, in any order and with any repetitions and disturbances,
leave all records as they are. Each cancellation among them that is processed leaves one entry, which
says that it was stale, and no note. A subscriber whose own subscription has an empty id is safe from
all of them but cancellations. -/
theorem superseded_is_inert (holds : u.providerSubscriptionId = some own)
    {arrivals : List Arrival} (subject : ∀ a ∈ arrivals, a.event.subject? db = some u)
    (superseded : ∀ a ∈ arrivals, a.event.IsSuperseded own)
    (counts : own ≠ "" ∨ ∀ a ∈ arrivals, a.event.kind ≠ .subscriptionCancelled) :
    (∀ s ∈ trace arrivals db, s.2.subscribers = db.subscribers) ∧
    (run arrivals db).subscribers = db.subscribers ∧
    ∀ s ∈ trace arrivals db, s.1.event.kind = .subscriptionCancelled →
      s.1.isProcessed s.2 = true → ∃ row : LedgerEntry, row.BooksStaleEnd s.1.event u ∧
        (s.1.after s.2).ledger = s.2.ledger ++ [row] ∧ (s.1.after s.2).audit = s.2.audit ∧
        (run arrivals db).ledger.filter
          (fun r => r.books s.1.event.provider s.1.event.eventId) = [row] := by
  have kept : ∀ a ∈ arrivals, ∀ mid : Database, mid.subscribers = db.subscribers →
      (a.after mid).subscribers = db.subscribers := by
    intro a ha mid hmid
    have hsubject := (ProviderEvent.subject?_congr hmid a.event).trans (subject a ha)
    have hcounts : own ≠ "" ∨ a.event.kind ≠ .subscriptionCancelled := counts.imp_right fun h => h a ha
    exact (subscribers_after_of_superseded holds hsubject (superseded a ha) hcounts).trans hmid
  obtain ⟨htrace, hend⟩ := subscribers_run_of_kept kept
  refine ⟨htrace, hend, fun s hs kind processed => ?_⟩
  have hmem : s.1 ∈ arrivals := mem_of_mem_trace hs
  have hown : own ≠ "" := counts.resolve_right fun h => h s.1 hmem kind
  have hother := (superseded s.1 hmem).isOther (by rw [kind]; rfl)
  obtain ⟨w, settles⟩ := isProcessed_iff.mp processed
  have hsubject := (ProviderEvent.subject?_congr (htrace s hs) s.1.event).trans (subject s.1 hmem)
  obtain rfl := Option.some.inj (hsubject.symm.trans settles.subject)
  obtain ⟨row, hledger, stale, haudit⟩ := books_stale_end holds hown kind hother settles
  have hbooked : isBookedAs s.1.event.provider s.1.event.eventId s = true := by
    simp [isBookedAs, processed, kind, EventKind.isBooked]
  have hadded : row ∈ (s.1.after s.2).ledger := by simp [hledger]
  exact ⟨row, stale, hledger, haudit, filter_books_run hs hbooked hadded stale.books⟩

/-- A notice of the direct processor to its customer `cus`, at the start of 1970. -/
def directNotice (kind : EventKind) (eventId : String) (subscription : Option String) : Arrival where
  context := { settings := {}, now := 0 }
  event :=
    { provider := .stripe, eventId := eventId, kind := kind, eventType := ""
      customerId := some "cus", subscriptionId := subscription
      periodEnd := some (Moment.ofSeconds 86400) }

/-- The end of an old subscription, told twice with an update and a failed payment in between, spares
the one that was bought since. -/
theorem superseded_is_inert_after_purchase :
    let db := directPurchase.after (Database.ofCustomer "u" "u@example.com" .stripe "cus")
    let ended := directNotice .subscriptionCancelled "evt_2" (some "old")
    let arrivals := [ended, directNotice .subscriptionUpdated "evt_3" (some "old"),
      directNotice .paymentFailed "evt_4" none, ended]
    (db.subscribers.map fun u => (u.tier, u.providerSubscriptionId)) = [(.pro, some "sub")] ∧
      (run arrivals db).subscribers = db.subscribers ∧ ended.isProcessed db = true ∧
      ∃ row : LedgerEntry, row.metadata.lookup "stale_subscription" = some (.bool true) ∧
        (run arrivals db).ledger.filter (fun r => r.books .stripe "evt_2") = [row] := by
  intro db ended arrivals
  have hrecord : (db.subscriber? "u").map (fun u => u.providerSubscriptionId) = some (some "sub") := by
    decide +kernel
  obtain ⟨u, hu, holds⟩ := Option.map_eq_some_iff.mp hrecord
  have hsubject : db.subscriberOf? .stripe "cus" = db.subscriber? "u" := by rfl
  have hmem : ∀ a ∈ arrivals, a = ended ∨ a = directNotice .subscriptionUpdated "evt_3" (some "old") ∨
      a = directNotice .paymentFailed "evt_4" none := by
    intro a ha
    simp only [arrivals, List.mem_cons, List.not_mem_nil, or_false] at ha
    tauto
  have subject : ∀ a ∈ arrivals, a.event.subject? db = some u := by
    intro a ha
    rcases hmem a ha with rfl | rfl | rfl <;> exact hsubject.trans hu
  have superseded : ∀ a ∈ arrivals, a.event.IsSuperseded "sub" := by
    intro a ha
    rcases hmem a ha with rfl | rfl | rfl
    · exact .named (.inr (.inr rfl)) rfl (by decide) (by decide)
    · exact .named (.inr (.inl rfl)) rfl (by decide) (by decide)
    · exact .unnamed rfl rfl
  have processed : ended.isProcessed db = true := by decide +kernel
  obtain ⟨-, hend, hcancelled⟩ := superseded_is_inert holds subject superseded (.inl (by decide))
  obtain ⟨row, stale, -, -, hrow⟩ := hcancelled (ended, db) List.mem_cons_self rfl processed
  exact ⟨by decide +kernel, hend, processed, row, stale.stale, hrow⟩

/-- The end of an old subscription takes away one with an empty id. -/
theorem empty_id_is_not_spared :
    let bought : Arrival :=
      { directPurchase with event := { directPurchase.event with subscriptionId := some "" } }
    let db := bought.after (Database.ofCustomer "u" "u@example.com" .stripe "cus")
    let ended := directNotice .subscriptionCancelled "evt_2" (some "old")
    ∃ u, ended.event.subject? db = some u ∧ u.providerSubscriptionId = some "" ∧ u.tier = .pro ∧
      ended.event.IsSuperseded "" ∧ ended.isProcessed db = true ∧
      ((ended.after db).subscriber? u.id).map (fun v => v.tier) = some .community ∧
      (ended.after db).audit.length = db.audit.length + 1 := by
  intro bought db ended
  have hrecord : (db.subscriberOf? .stripe "cus").map (fun u =>
      (u.id, u.providerSubscriptionId, u.tier)) = some ("u", some "", .pro) := by
    decide +kernel
  obtain ⟨u, hu, hfields⟩ := Option.map_eq_some_iff.mp hrecord
  obtain ⟨hid, holds, htier⟩ : u.id = "u" ∧ u.providerSubscriptionId = some "" ∧ u.tier = .pro := by
    simpa using hfields
  refine ⟨u, hu, holds, htier, .named (.inr (.inr rfl)) rfl (by decide) (by decide),
    by decide +kernel, ?_, by decide +kernel⟩
  rw [hid]
  decide +kernel

end Arrival
end SubscriptionBilling
