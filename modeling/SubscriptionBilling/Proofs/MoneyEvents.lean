import Mathlib.Data.List.Forall2
import Mathlib.Tactic.Linarith
import SubscriptionBilling.Proofs.ExactlyOnce
import SubscriptionBilling.Proofs.FiniteAmounts
import SubscriptionBilling.Proofs.Refusals

/-! Notices of payments, refunds and pauses. None of them touches a record. What tells of money is
booked under its id once, as it was told first, and a payment that failed is noted besides. -/
namespace SubscriptionBilling

namespace EventKind

/-- The kinds that tell of money, and pauses. -/
def isMonetary : EventKind → Bool
  | .subscriptionPaused => true
  | .paymentSucceeded => true
  | .paymentFailed => true
  | .refundIssued => true
  | _ => false

/-- The kind of the entry under which money is booked. -/
def moneyEntry? : EventKind → Option EntryKind
  | .paymentSucceeded => some .paymentSucceeded
  | .paymentFailed => some .paymentFailed
  | .refundIssued => some .refunded
  | _ => none

theorem isBooked_of_moneyEntry? {k : EventKind} (h : k.moneyEntry?.isSome = true) :
    k.isBooked = true := by
  cases k <;> first | rfl | cases h

theorem isMonetary_of_moneyEntry? {k : EventKind} {kind : EntryKind} (h : k.moneyEntry? = some kind) :
    k.isMonetary = true := by
  cases k <;> first | rfl | cases h

theorem moneyEntry?_eq_failed_iff {k : EventKind} :
    k.moneyEntry? = some .paymentFailed ↔ k = .paymentFailed := by
  cases k <;> decide

end EventKind

namespace ProviderEvent

/-- The booking of money, which failed to move if the payment did. -/
def moneyPosting (e : ProviderEvent) (u : Subscriber) (kind : EntryKind) : Posting :=
  e.posting u kind (if kind = .paymentFailed then .failed else .succeeded) e.amount []

/-- The note of a payment that failed. -/
def failureNote (e : ProviderEvent) (u : Subscriber) : AuditNote :=
  e.note u .paymentFailed .high
    [("amount", .string e.amount.text), ("currency", .string e.currency)]

/-- Money is booked, failures are noted, and that is all. -/
theorem transition_of_monetary {e : ProviderEvent} (h : e.kind.isMonetary = true) (now : Moment)
    (ended : Bool) (u : Subscriber) :
    e.transition now ended u =
      { note := if e.kind = .paymentFailed then some (e.failureNote u) else none
        posting := e.kind.moneyEntry?.map (e.moneyPosting u) } := by
  unfold transition
  cases kind : e.kind with
  | subscriptionPaused => rfl
  | paymentSucceeded => rfl
  | paymentFailed => rfl
  | refundIssued => rfl
  | _ =>
    rw [kind] at h
    cases h

/-- Who an event is about can be seen in the records alone. -/
theorem subject?_congr {db after : Database} (h : after.subscribers = db.subscribers)
    (e : ProviderEvent) : e.subject? after = e.subject? db := by
  have hlookup : after.subscriber? = db.subscriber? := by
    funext id
    rw [Database.subscriber?, h, Database.subscriber?]
  have hcustomer : after.subscriberOf? = db.subscriberOf? := by
    funext p customer
    rw [Database.subscriberOf?, h, Database.subscriberOf?]
  rw [subject?, hlookup, hcustomer, subject?]

end ProviderEvent

/-- What an entry says of an event that tells of money. An empty id names no customer. -/
structure LedgerEntry.Records (row : LedgerEntry) (db : Database) (e : ProviderEvent) : Prop where
  owner : ∃ u ∈ db.subscribers, u.id = row.subscriberId ∧
    ∃ customer, customer ≠ "" ∧ e.customerId = some customer ∧ u.customerId e.provider = some customer
  kind : e.kind.moneyEntry? = some row.kind
  currency : row.currency = Text.upper e.currency
  amount : bookedAmount? e.amount = some row.amount
  status : row.status = .failed ↔ e.kind = .paymentFailed

theorem LedgerEntry.Records.congr {row : LedgerEntry} {db after : Database} {e : ProviderEvent}
    (h : row.Records after e) (same : after.subscribers = db.subscribers) : row.Records db e :=
  ⟨same ▸ h.owner, h.kind, h.currency, h.amount, h.status⟩

/-- An entry of the audit trail that notes what a failed payment's entry in the ledger books. -/
structure AuditEntry.Reports (note : AuditEntry) (row : LedgerEntry) : Prop where
  action : note.action = .paymentFailed
  owner : note.subscriberId = row.subscriberId
  provider : note.facts.lookup "provider" = some (.string row.provider.name)
  event : note.facts.lookup "event_id" = some (.string row.eventId)

namespace Arrival

/-- An undisturbed arrival, in its time, of an event that tells of money below ten billions, or of a
pause. -/
structure IsMonetary (a : Arrival) : Prop where
  kind : a.event.kind.isMonetary = true
  amount : a.event.amount.magnitude < 10 ^ 10
  calm : a.context.fault = none
  inTime : a.context.settings.webhookDeadlineSeconds.isPositive = true

/-- Whether an arrival is to be booked in a store: it tells of money, its customer is known, and its
id is not booked yet. -/
def isDue (db : Database) (a : Arrival) : Bool :=
  a.event.kind.moneyEntry?.isSome && (a.event.subject? db).isSome &&
    !db.books a.event.provider a.event.eventId

/-- The first arrival that is to be booked under a provider's id. -/
def firstDue (arrivals : List Arrival) (db : Database) (p : Provider) (eventId : String) :
    Option Arrival :=
  arrivals.find? fun a => a.isDue db && (a.event.provider = p && a.event.eventId = eventId)

section Steps
variable {a : Arrival} {db : Database} {u : Subscriber}

/-- Nothing keeps an undisturbed arrival, in its time, from being processed if it tells of money that the
ledger can keep, or of a pause. -/
theorem settles_of_kept (kind : a.event.kind.isMonetary = true)
    (kept : (bookedAmount? a.event.amount).isSome = true) (calm : a.context.fault = none)
    (inTime : a.context.settings.webhookDeadlineSeconds.isPositive = true)
    (subject : a.event.subject? db = some u)
    (fresh : db.books a.event.provider a.event.eventId = false) :
    a.event.Settles a.context db u := by
  have hstrike := strike_of_undisturbed calm
  have hform := ProviderEvent.transition_of_monetary kind a.context.moment (a.event.hasEnded db) u
  refine ⟨inTime, hstrike _, hstrike _, .inr fresh, subject, ?_, fun _ => hstrike _, ?_⟩
  · intro ch hch
    rw [ProviderEvent.transitionAt, hform] at hch
    cases hch
  · intro posting hposting
    rw [ProviderEvent.transitionAt, hform] at hposting
    obtain ⟨kind, -, rfl⟩ := Option.map_eq_some_iff.mp hposting
    exact ⟨hstrike _, fresh, kept⟩

theorem IsMonetary.kept (h : a.IsMonetary) : (bookedAmount? a.event.amount).isSome = true := by
  rw [isSome_bookedAmount?, Binary64.isFinite_ofDecimal h.amount]

/-- Money that cannot be kept is not processed. -/
theorem kept_of_settles {kind : EntryKind} (settles : a.event.Settles a.context db u)
    (money : a.event.kind.moneyEntry? = some kind) : (bookedAmount? a.event.amount).isSome = true := by
  have hform := ProviderEvent.transition_of_monetary (EventKind.isMonetary_of_moneyEntry? money)
    a.context.moment (a.event.hasEnded db) u
  have hposting : (a.event.transitionAt a.context db u).posting =
      some (a.event.moneyPosting u kind) := by
    rw [ProviderEvent.transitionAt, hform, money, Option.map_some]
  exact (settles.passes.posting _ hposting).2.2

/-- No event that tells of money touches a record. -/
theorem subscribers_after_of_monetary (h : a.event.kind.isMonetary = true) (db : Database) :
    (a.after db).subscribers = db.subscribers := by
  rcases a.after_cases db with hsame | ⟨u, hs⟩
  · rw [hsame]
  · rw [after_of_settles hs, Transition.subscribers_result, ProviderEvent.transitionAt,
      ProviderEvent.transition_of_monetary h, Transition.edit, Option.getD_none,
      Database.amend_empty]

/-- The entry that books money under the next number. -/
def moneyRow (a : Arrival) (db : Database) (u : Subscriber) (kind : EntryKind) (amount : Decimal) :
    LedgerEntry :=
  { a.event.moneyPosting u kind with
    amount := amount, id := db.nextEntry, createdAt := a.context.moment }

/-- Money that is processed adds its entry, and a note if the payment failed, and nothing else. -/
theorem after_of_money {kind : EntryKind} {amount : Decimal} (settles : a.event.Settles a.context db u)
    (money : a.event.kind.moneyEntry? = some kind)
    (booked : bookedAmount? a.event.amount = some amount) :
    a.after db =
      { db with
        ledger := db.ledger ++ [a.moneyRow db u kind amount]
        audit := db.audit ++ if kind = .paymentFailed then
          [(a.event.failureNote u).entry db.nextAudit a.context.moment] else [] } := by
  have hform := ProviderEvent.transition_of_monetary (EventKind.isMonetary_of_moneyEntry? money)
    a.context.moment (a.event.hasEnded db) u
  have hentry : Posting.entry? (a.event.moneyPosting u kind) db.nextEntry a.context.moment =
      some (a.moneyRow db u kind amount) := by
    change (bookedAmount? a.event.amount).map _ = _
    rw [booked, Option.map_some]
    rfl
  rw [after_of_settles settles, ProviderEvent.transitionAt, hform]
  simp only [Transition.result, money, Option.map_some, Option.elim_none, Option.bind_some, hentry,
    Option.toList_some, ← EventKind.moneyEntry?_eq_failed_iff, Option.some.injEq]
  split <;> rfl

theorem records_moneyRow {kind : EntryKind} {amount : Decimal}
    (subject : a.event.subject? db = some u) (money : a.event.kind.moneyEntry? = some kind)
    (booked : bookedAmount? a.event.amount = some amount) :
    (a.moneyRow db u kind amount).Records db a.event where
  owner := by
    have hkind : a.event.kind ≠ .checkoutCompleted := by
      intro hkind
      rw [hkind] at money
      cases money
    rw [ProviderEvent.subject?_of_customerId (.inl hkind)] at subject
    obtain ⟨customer, hcustomer, hfound⟩ := Option.bind_eq_some_iff.mp subject
    obtain ⟨hnamed, hne⟩ := ProviderEvent.filled_eq_some_iff.mp hcustomer
    refine ⟨u, List.mem_of_find?_eq_some hfound, rfl, customer, hne, hnamed, ?_⟩
    simpa using List.find?_some hfound
  kind := money
  currency := rfl
  amount := booked
  status := by
    rw [← EventKind.moneyEntry?_eq_failed_iff, money, Option.some.injEq]
    change (if kind = .paymentFailed then EntryStatus.failed else .succeeded) = .failed ↔ _
    split <;> simp_all

theorem reports_failureNote (e : ProviderEvent) (u : Subscriber) (number : Nat) (now : Moment)
    {row : LedgerEntry} (owner : row.subscriberId = u.id) (provider : row.provider = e.provider)
    (event : row.eventId = e.eventId) : ((e.failureNote u).entry number now).Reports row where
  action := rfl
  owner := owner.symm
  provider := by
    rw [provider]
    rfl
  event := by
    rw [event]
    rfl

/-- An arrival that is not due leaves the store as it is. -/
theorem IsMonetary.after_of_not_due (h : a.IsMonetary) (due : a.isDue db = false) :
    a.after db = db := by
  rcases a.after_cases db with hsame | ⟨u, hs⟩
  · exact hsame
  cases money : a.event.kind.moneyEntry? with
  | some kind =>
    have hfree := books_eq_false_of_settles hs (EventKind.isBooked_of_moneyEntry? (by rw [money]; rfl))
    simp [isDue, money, hs.subject, hfree] at due
  | none =>
    have hfailed : a.event.kind ≠ .paymentFailed := by
      rw [ne_eq, ← EventKind.moneyEntry?_eq_failed_iff, money]
      exact nofun
    rw [after_of_settles hs, ProviderEvent.transitionAt,
      ProviderEvent.transition_of_monetary h.kind, money, if_neg hfailed]
    simp [Transition.result]

/-- An arrival that is due adds the entry of its event, and a note if the payment failed. -/
theorem IsMonetary.after_of_due (h : a.IsMonetary) (due : a.isDue db = true) :
    ∃ row notes, a.after db = { db with ledger := db.ledger ++ [row], audit := db.audit ++ notes } ∧
      row.Records db a.event ∧
      (∀ p eventId, row.books p eventId = (a.event.provider = p && a.event.eventId = eventId)) ∧
      List.Forall₂ AuditEntry.Reports notes ([row].filter fun r => r.kind = .paymentFailed) := by
  simp only [isDue, Bool.and_eq_true, Bool.not_eq_true', Option.isSome_iff_exists] at due
  obtain ⟨⟨⟨kind, money⟩, u, subject⟩, fresh⟩ := due
  obtain ⟨amount, booked⟩ := Option.isSome_iff_exists.mp h.kept
  have hsettles := settles_of_kept h.kind h.kept h.calm h.inTime subject fresh
  refine ⟨a.moneyRow db u kind amount, _, after_of_money hsettles money booked,
    records_moneyRow subject money booked, fun _ _ => rfl, ?_⟩
  by_cases hkind : kind = .paymentFailed
  · subst hkind
    exact .cons (reports_failureNote _ _ _ _ rfl rfl rfl) .nil
  · have hrow : ¬(a.moneyRow db u kind amount).kind = .paymentFailed := hkind
    simp [hkind, hrow]

end Steps

/-- What a run of notices adds to the ledger and to the audit trail. -/
structure Bookkeeping (arrivals : List Arrival) (db : Database) (rows : List LedgerEntry)
    (notes : List AuditEntry) : Prop where
  /-- Nothing is booked under an id of which nothing is due. -/
  unbooked : ∀ p eventId, firstDue arrivals db p eventId = none →
    ∀ row ∈ rows, row.books p eventId = false
  /-- Under any other id there is one entry, for what is due first. -/
  booked : ∀ p eventId a, firstDue arrivals db p eventId = some a →
    ∃ row, rows.filter (fun r => r.books p eventId) = [row] ∧ row.Records db a.event
  /-- The entries of failed payments are noted one by one. -/
  noted : List.Forall₂ AuditEntry.Reports notes (rows.filter fun r => r.kind = .paymentFailed)

section Runs
variable {a : Arrival} {rest : List Arrival} {db after : Database} {row : LedgerEntry}
  {p : Provider} {eventId : String}

theorem firstDue_cons (a : Arrival) (rest : List Arrival) (db : Database) (p : Provider)
    (eventId : String) : firstDue (a :: rest) db p eventId =
      if a.isDue db ∧ a.event.provider = p ∧ a.event.eventId = eventId then some a
      else firstDue rest db p eventId := by
  unfold firstDue
  rw [List.find?_cons]
  split <;> simp_all

/-- What is booked under an id is due no more, and everything else is due as before. -/
theorem firstDue_of_entry (rest : List Arrival) (subscribers : after.subscribers = db.subscribers)
    (ledger : after.ledger = db.ledger ++ [row]) :
    firstDue rest after p eventId =
      if row.books p eventId then none else firstDue rest db p eventId := by
  have hbooks : ∀ p eventId, after.books p eventId = (db.books p eventId || row.books p eventId) := by
    intro p eventId
    simp [Database.books, ledger]
  induction rest with
  | nil =>
    simp [firstDue]
  | cons b rest ih =>
    rw [firstDue_cons, firstDue_cons, ih]
    by_cases hnamed : b.event.provider = p ∧ b.event.eventId = eventId
    · obtain ⟨rfl, rfl⟩ := hnamed
      simp only [isDue, ProviderEvent.subject?_congr subscribers, hbooks]
      cases row.books b.event.provider b.event.eventId <;> simp
    · simp [hnamed]

/-- A notice that is not due does not count. -/
theorem Bookkeeping.cons_of_not_due {rows : List LedgerEntry} {notes : List AuditEntry}
    (h : Bookkeeping rest db rows notes) (due : a.isDue db = false) :
    Bookkeeping (a :: rest) db rows notes := by
  have hfirst : ∀ p eventId, firstDue (a :: rest) db p eventId = firstDue rest db p eventId := by
    intro p eventId
    rw [firstDue_cons, due]
    simp
  refine ⟨fun p eventId hnone => ?_, fun p eventId b hsome => ?_, h.noted⟩
  · exact h.unbooked p eventId (hfirst p eventId ▸ hnone)
  · exact h.booked p eventId b (hfirst p eventId ▸ hsome)

/-- A notice that is due counts for its id from then on. -/
theorem Bookkeeping.cons_of_due {rows : List LedgerEntry} {notes own : List AuditEntry}
    (h : Bookkeeping rest after rows notes) (due : a.isDue db = true)
    (subscribers : after.subscribers = db.subscribers) (ledger : after.ledger = db.ledger ++ [row])
    (records : row.Records db a.event)
    (books : ∀ p eventId, row.books p eventId =
      (a.event.provider = p && a.event.eventId = eventId))
    (reports : List.Forall₂ AuditEntry.Reports own ([row].filter fun r => r.kind = .paymentFailed)) :
    Bookkeeping (a :: rest) db (row :: rows) (own ++ notes) := by
  have hfirst : ∀ p eventId, firstDue (a :: rest) db p eventId =
      if row.books p eventId then some a else firstDue rest after p eventId := by
    intro p eventId
    rw [firstDue_cons, firstDue_of_entry rest subscribers ledger, books, due]
    split <;> simp_all
  refine ⟨fun p eventId hnone => ?_, fun p eventId b hsome => ?_, ?_⟩
  · rw [hfirst] at hnone
    cases hrow : row.books p eventId with
    | true => simp [hrow] at hnone
    | false =>
      rw [hrow] at hnone
      exact List.forall_mem_cons.mpr ⟨hrow, h.unbooked p eventId hnone⟩
  · rw [hfirst] at hsome
    cases hrow : row.books p eventId with
    | true =>
      obtain rfl : a = b := by simpa [hrow] using hsome
      have hnone : firstDue rest after p eventId = none := by
        rw [firstDue_of_entry rest subscribers ledger, hrow, if_pos rfl]
      have hrows : rows.filter (fun r => r.books p eventId) = [] :=
        List.filter_eq_nil_iff.mpr fun r hr => by simp [h.unbooked p eventId hnone r hr]
      exact ⟨row, by simp [hrow, hrows], records⟩
    | false =>
      obtain ⟨r, hr, hrecords⟩ := h.booked p eventId b (by simpa [hrow] using hsome)
      exact ⟨r, by simpa [hrow] using hr, hrecords.congr subscribers⟩
  · rw [← List.singleton_append, List.filter_append]
    exact List.rel_append reports h.noted

/-- What every run adds is the bookkeeping of its notices. -/
theorem exists_bookkeeping {arrivals : List Arrival} (monetary : ∀ a ∈ arrivals, a.IsMonetary)
    (db : Database) :
    ∃ rows notes, (run arrivals db).ledger = db.ledger ++ rows ∧
      (run arrivals db).audit = db.audit ++ notes ∧ Bookkeeping arrivals db rows notes := by
  induction arrivals generalizing db with
  | nil =>
    refine ⟨[], [], by simp, by simp, ?_, ?_, .nil⟩
    · exact fun p eventId _ row hrow => nomatch hrow
    · exact fun p eventId a h => by simp [firstDue] at h
  | cons a rest ih =>
    obtain ⟨ha, hrest⟩ := List.forall_mem_cons.mp monetary
    obtain ⟨rows, notes, hledger, haudit, bookkeeping⟩ := ih hrest (a.after db)
    cases due : a.isDue db with
    | false =>
      rw [ha.after_of_not_due due] at hledger haudit bookkeeping
      refine ⟨rows, notes, ?_, ?_, bookkeeping.cons_of_not_due due⟩
      · rw [run_cons, ha.after_of_not_due due, hledger]
      · rw [run_cons, ha.after_of_not_due due, haudit]
    | true =>
      obtain ⟨row, own, hafter, records, books, reports⟩ := ha.after_of_due due
      refine ⟨row :: rows, own ++ notes, ?_, ?_, bookkeeping.cons_of_due due
        (subscribers_after_of_monetary ha.kind db) (by rw [hafter]) records books reports⟩
      · rw [run_cons, hledger, hafter, List.append_assoc, List.singleton_append]
      · rw [run_cons, haudit, hafter, List.append_assoc]

end Runs

/-- However often, in whatever order and for whomever notices of payments, refunds and pauses arrive,
the records stay as they are. Of the notices of money under one id that is not booked yet, the first
one for a known customer is booked, and nothing else is; the entries of failed payments are noted one
by one. -/
theorem money_is_booked_once {arrivals : List Arrival} (monetary : ∀ a ∈ arrivals, a.IsMonetary)
    (db : Database) :
    (∀ s ∈ trace arrivals db, s.2.subscribers = db.subscribers) ∧
    (run arrivals db).subscribers = db.subscribers ∧
    ∃ rows notes, (run arrivals db).ledger = db.ledger ++ rows ∧
      (run arrivals db).audit = db.audit ++ notes ∧ Bookkeeping arrivals db rows notes := by
  have kept : ∀ a ∈ arrivals, ∀ mid : Database, mid.subscribers = db.subscribers →
      (a.after mid).subscribers = db.subscribers :=
    fun a ha mid hmid => (subscribers_after_of_monetary (monetary a ha).kind mid).trans hmid
  obtain ⟨htrace, hend⟩ := subscribers_run_of_kept kept
  exact ⟨htrace, hend, exists_bookkeeping monetary db⟩

/-- The direct processor's notice of money for a customer. -/
def ofMoney (kind : EventKind) (eventId customer : String) (cents : Nat) : Arrival where
  context := { settings := {}, now := 0 }
  event :=
    { provider := .stripe, eventId := eventId, kind := kind, eventType := ""
      customerId := some customer, amount := ⟨false, cents, -2⟩, currency := "usd" }

/-- A payment told twice and with another amount, one by a stranger, one that failed, a pause and a
refund. -/
def moneyNotices : List Arrival :=
  [ofMoney .paymentSucceeded "evt_1" "cus" 1250, ofMoney .paymentSucceeded "evt_2" "stranger" 700,
    ofMoney .paymentSucceeded "evt_1" "cus" 9900, ofMoney .paymentFailed "evt_3" "cus" 500,
    ofMoney .subscriptionPaused "evt_4" "cus" 0, ofMoney .refundIssued "evt_5" "cus" 300]

theorem money_is_booked_once_of_notices :
    let db := Database.ofCustomer "u" "u@example.com" .stripe "cus"
    (∀ a ∈ moneyNotices, a.IsMonetary) ∧ (run moneyNotices db).subscribers = db.subscribers ∧
      (run moneyNotices db).ledger.map (fun row => (row.eventId, row.status)) =
        [("evt_1", .succeeded), ("evt_3", .failed), ("evt_5", .succeeded)] ∧
      (run moneyNotices db).audit.length = 1 ∧
      ∃ row, (run moneyNotices db).ledger.filter (fun r => r.books .stripe "evt_1") = [row] ∧
        row.Records db (ofMoney .paymentSucceeded "evt_1" "cus" 1250).event := by
  intro db
  have monetary : ∀ a ∈ moneyNotices, a.IsMonetary := by
    have hnotice : ∀ kind eventId customer cents, kind.isMonetary = true → cents < 10 ^ 12 →
        (ofMoney kind eventId customer cents).IsMonetary := by
      intro kind eventId customer cents hkind hcents
      have inTime : ({} : Settings).webhookDeadlineSeconds.isPositive = true := by decide +kernel
      refine ⟨hkind, ?_, rfl, inTime⟩
      have hbound : (cents : ℚ) < 10 ^ 12 := by exact_mod_cast hcents
      simp only [ofMoney, Decimal.magnitude]
      norm_num
      linarith
    simp only [moneyNotices, List.forall_mem_cons]
    exact ⟨hnotice _ _ _ _ rfl (by decide), hnotice _ _ _ _ rfl (by decide),
      hnotice _ _ _ _ rfl (by decide), hnotice _ _ _ _ rfl (by decide),
      hnotice _ _ _ _ rfl (by decide), hnotice _ _ _ _ rfl (by decide), by simp⟩
  obtain ⟨-, hsubscribers, rows, notes, hledger, -, bookkeeping⟩ := money_is_booked_once monetary db
  have hfirst : firstDue moneyNotices db .stripe "evt_1" =
      some (ofMoney .paymentSucceeded "evt_1" "cus" 1250) := by
    rfl
  refine ⟨monetary, hsubscribers, by decide +kernel, by decide +kernel, ?_⟩
  rw [hledger]
  exact bookkeeping.booked .stripe "evt_1" _ hfirst

end Arrival
end SubscriptionBilling
