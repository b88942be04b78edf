import SubscriptionBilling.Proofs.Reachability

/-! Events take effect exactly once in runs with disturbances and repetitions. Such a run ends like
the undisturbed run of just the arrivals that it processed, and no booked event is processed twice
under one id. -/
namespace SubscriptionBilling

/-- The entries of the ledger that book a notice of a provider. -/
def Database.bookings (db : Database) (p : Provider) (eventId : String) : Nat :=
  db.ledger.countP fun e => e.books p eventId

theorem Database.bookings_eq_zero_iff {db : Database} {p : Provider} {eventId : String} :
    db.bookings p eventId = 0 ↔ db.books p eventId = false := by
  unfold bookings books
  rw [List.countP_eq_zero, List.any_eq_false]

namespace Arrival

/-- A duplicate check may miss a booking only where the ledger itself refuses a second one. -/
def IsBacked (a : Arrival) : Prop :=
  a.context.fault = some .missedDuplicate → a.event.kind.isBooked = true

/-- Whether an arrival is processed and booked under a provider's id. -/
def isBookedAs (p : Provider) (eventId : String) (s : Arrival × Database) : Bool :=
  s.1.isProcessed s.2 && s.1.event.kind.isBooked && s.1.event.provider = p &&
    s.1.event.eventId = eventId

/-- The processed arrivals of a run, without their disturbances. -/
def kept (arrivals : List Arrival) (db : Database) : List Arrival :=
  ((trace arrivals db).filter fun s => s.1.isProcessed s.2).map fun s => s.1.calm

theorem kept_cons_of_processed {a : Arrival} {rest : List Arrival} {db : Database}
    (h : a.isProcessed db = true) : kept (a :: rest) db = a.calm :: kept rest (a.after db) := by
  simp [kept, trace, h]

theorem kept_cons_of_not_processed {a : Arrival} {rest : List Arrival} {db : Database}
    (h : a.isProcessed db = false) : kept (a :: rest) db = kept rest db := by
  simp [kept, trace, h, after_eq_of_not_processed h]

/-- The ledger itself makes sure that a booked event was not booked before. -/
theorem books_eq_false_of_settles {c : Context} {db : Database} {e : ProviderEvent} {u : Subscriber}
    (h : e.Settles c db u) (hk : e.kind.isBooked = true) :
    db.books e.provider e.eventId = false := by
  obtain ⟨kind, status, amount, facts, hp⟩ :=
    ProviderEvent.posting_of_booked hk c.moment (e.hasEnded db) u
  exact (h.passes.posting _ hp).2.1

/-- What settles under a disturbance settles in the same way without it. -/
theorem settles_calm {c : Context} {db : Database} {e : ProviderEvent} {u : Subscriber}
    (h : e.Settles c db u) (backed : c.fault = some .missedDuplicate → e.kind.isBooked = true) :
    e.Settles c.calm db u where
  inTime := h.inTime
  opened := rfl
  checked := rfl
  unbooked := by
    rcases h.unbooked with hm | hb
    · exact .inr (books_eq_false_of_settles h (backed hm))
    · exact .inr hb
  subject := h.subject
  passes := h.passes.calm

/-- An arrival that is processed is answered and leaves the store the same without its
disturbance. -/
theorem calm_of_processed {a : Arrival} {db : Database} (backed : a.IsBacked)
    (h : a.isProcessed db = true) :
    a.calm.isProcessed db = true ∧ a.calm.answer db = a.answer db ∧ a.calm.after db = a.after db := by
  obtain ⟨u, hs⟩ := isProcessed_iff.mp h
  have hc : a.calm.event.Settles a.calm.context db u := settles_calm hs backed
  refine ⟨isProcessed_iff.mpr ⟨u, hc⟩, ?_, ?_⟩
  · rw [answer_of_settles hc, answer_of_settles hs]
    rfl
  · rw [after_of_settles hc, after_of_settles hs]
    rfl

/-- The undisturbed run meets the very stores in which the arrivals were processed. -/
theorem trace_kept {arrivals : List Arrival} (db : Database) (backed : ∀ a ∈ arrivals, a.IsBacked) :
    trace (kept arrivals db) db =
      ((trace arrivals db).filter fun s => s.1.isProcessed s.2).map fun s => (s.1.calm, s.2) := by
  induction arrivals generalizing db with
  | nil => rfl
  | cons a rest ih =>
    have hrest := fun db => ih db fun b hb => backed b (List.mem_cons_of_mem a hb)
    cases h : a.isProcessed db with
    | true =>
      have hafter := (calm_of_processed (backed a List.mem_cons_self) h).2.2
      rw [kept_cons_of_processed h, trace, hafter, hrest]
      simp [trace, h]
    | false =>
      rw [kept_cons_of_not_processed h, hrest]
      simp [trace, h, after_eq_of_not_processed h]

theorem run_kept {arrivals : List Arrival} (db : Database) (backed : ∀ a ∈ arrivals, a.IsBacked) :
    run (kept arrivals db) db = run arrivals db := by
  induction arrivals generalizing db with
  | nil => rfl
  | cons a rest ih =>
    have hrest := fun db => ih db fun b hb => backed b (List.mem_cons_of_mem a hb)
    cases h : a.isProcessed db with
    | true =>
      have hafter := (calm_of_processed (backed a List.mem_cons_self) h).2.2
      rw [kept_cons_of_processed h, run_cons, hafter, hrest, run_cons]
    | false =>
      rw [kept_cons_of_not_processed h, hrest, run_cons, after_eq_of_not_processed h]

/-- A processed event adds one entry under its own id if its kind is booked, and none otherwise. -/
theorem bookings_after (a : Arrival) (db : Database) (p : Provider) (eventId : String) :
    (a.after db).bookings p eventId =
      db.bookings p eventId + (isBookedAs p eventId (a, db)).toNat := by
  cases hp : a.isProcessed db with
  | false => simp [isBookedAs, hp, after_eq_of_not_processed hp]
  | true =>
    cases hk : a.event.kind.isBooked with
    | false =>
      unfold Database.bookings
      rw [ledger_after_of_not_booked db hk]
      simp [isBookedAs, hk]
    | true =>
      obtain ⟨u, hs⟩ := isProcessed_iff.mp hp
      obtain ⟨posting, amount, -, hprovider, hid, -, hledger⟩ := ledger_of_settles hs hk
      unfold Database.bookings
      rw [hledger, List.countP_append, List.countP_singleton]
      congr 1
      simp only [isBookedAs, hp, hk, LedgerEntry.books, hprovider, hid, Bool.and_true, Bool.true_and]
      split
      · next h => rw [h]; rfl
      · next h => rw [Bool.eq_false_iff.mpr h]; rfl

/-- What is booked after an arrival was booked before it, or is what the arrival books. -/
theorem books_after (a : Arrival) (db : Database) (p : Provider) (eventId : String) :
    (a.after db).books p eventId = true ↔
      db.books p eventId = true ∨ isBookedAs p eventId (a, db) = true := by
  have books_iff : ∀ after : Database, after.books p eventId = true ↔ after.bookings p eventId ≠ 0 :=
    fun after => by rw [ne_eq, Database.bookings_eq_zero_iff, Bool.not_eq_false]
  rw [books_iff, books_iff, bookings_after]
  cases isBookedAs p eventId (a, db) <;> simp

/-- Nothing is booked by an arrival but under its own id. -/
theorem books_after_of_ne {a : Arrival} {db : Database} {p : Provider} {eventId : String}
    (h : ¬(a.event.provider = p ∧ a.event.eventId = eventId)) :
    (a.after db).books p eventId = db.books p eventId := by
  rw [Bool.eq_iff_iff, books_after]
  have hother : isBookedAs p eventId (a, db) = false := by
    rw [Bool.eq_false_iff]
    intro hbooked
    simp only [isBookedAs, Bool.and_eq_true, decide_eq_true_eq] at hbooked
    exact h ⟨hbooked.1.2, hbooked.2⟩
  simp [hother]

/-- How often a run processes and books an event under a provider's id. -/
def timesBooked (arrivals : List Arrival) (db : Database) (p : Provider) (eventId : String) : Nat :=
  (trace arrivals db).countP (isBookedAs p eventId)

theorem timesBooked_cons (a : Arrival) (rest : List Arrival) (db : Database) (p : Provider)
    (eventId : String) :
    timesBooked (a :: rest) db p eventId =
      timesBooked rest (a.after db) p eventId + (isBookedAs p eventId (a, db)).toNat := by
  simp only [timesBooked, trace, List.countP_cons]
  cases isBookedAs p eventId (a, db) <;> rfl

/-- The ledger accounts for every processed arrival of a booked kind. -/
theorem bookings_run (arrivals : List Arrival) (db : Database) (p : Provider) (eventId : String) :
    (run arrivals db).bookings p eventId =
      db.bookings p eventId + timesBooked arrivals db p eventId := by
  induction arrivals generalizing db with
  | nil => rfl
  | cons a rest ih =>
    rw [run_cons, ih, bookings_after, timesBooked_cons]
    omega

theorem bookings_eq_zero_of_isBookedAs {a : Arrival} {db : Database} {p : Provider}
    {eventId : String} (h : isBookedAs p eventId (a, db) = true) : db.bookings p eventId = 0 := by
  simp only [isBookedAs, Bool.and_eq_true, decide_eq_true_eq] at h
  obtain ⟨⟨⟨hp, hk⟩, rfl⟩, rfl⟩ := h
  obtain ⟨u, hs⟩ := isProcessed_iff.mp hp
  exact Database.bookings_eq_zero_iff.mpr (books_eq_false_of_settles hs hk)

/-- Nothing is booked under an id that was taken from the start, and nothing twice. -/
theorem timesBooked_le (arrivals : List Arrival) (db : Database) (p : Provider) (eventId : String) :
    timesBooked arrivals db p eventId ≤ 1 ∧
      (0 < db.bookings p eventId → timesBooked arrivals db p eventId = 0) := by
  induction arrivals generalizing db with
  | nil => exact ⟨Nat.zero_le 1, fun _ => rfl⟩
  | cons a rest ih =>
    obtain ⟨hle, hzero⟩ := ih (a.after db)
    have hafter := bookings_after a db p eventId
    rw [timesBooked_cons]
    cases h : isBookedAs p eventId (a, db) with
    | false =>
      rw [h] at hafter
      simp only [Bool.toNat_false, Nat.add_zero] at hafter ⊢
      exact ⟨hle, fun hpos => hzero (hafter ▸ hpos)⟩
    | true =>
      have hfree := bookings_eq_zero_of_isBookedAs h
      rw [h, hfree] at hafter
      have hrest := hzero (by rw [hafter]; exact Nat.one_pos)
      exact ⟨by rw [hrest]; exact Nat.le_refl 1, fun hpos => by omega⟩

/-- The entry of a processed arrival is the only one under its id when the run ends. -/
theorem filter_books_run {arrivals : List Arrival} {db : Database} {s : Arrival × Database}
    {p : Provider} {eventId : String} (hs : s ∈ trace arrivals db)
    (processed : isBookedAs p eventId s = true) {row : LedgerEntry}
    (added : row ∈ (s.1.after s.2).ledger) (books : row.books p eventId = true) :
    (run arrivals db).ledger.filter (fun r => r.books p eventId) = [row] := by
  have hpos : 0 < timesBooked arrivals db p eventId := List.countP_pos_iff.mpr ⟨s, hs, processed⟩
  obtain ⟨hle, hzero⟩ := timesBooked_le arrivals db p eventId
  have hone : (run arrivals db).bookings p eventId = 1 := by
    have hrun := bookings_run arrivals db p eventId
    omega
  rw [Database.bookings, List.countP_eq_length_filter, List.length_eq_one_iff] at hone
  obtain ⟨only, hfilter⟩ := hone
  have hmem : row ∈ (run arrivals db).ledger.filter (fun r => r.books p eventId) :=
    List.mem_filter.mpr ⟨(ledger_run_of_mem_trace hs).subset added, books⟩
  rw [hfilter, List.mem_singleton] at hmem
  rw [hfilter, hmem]

/-- Whatever is disturbed, repeated or unknown leaves no trace: the run ends like the undisturbed run
of the arrivals it processed, which meets the same stores and gives the same answers, and each
booked event is processed at most once under its id. -/
theorem exactly_once (arrivals : List Arrival) (db : Database)
    (backed : ∀ a ∈ arrivals, a.IsBacked) :
    (∀ s ∈ trace arrivals db, s.1.isProcessed s.2 = false →
      s.1.after s.2 = s.2 ∧ s.1.tasks s.2 = []) ∧
    run (kept arrivals db) db = run arrivals db ∧
    trace (kept arrivals db) db =
      ((trace arrivals db).filter fun s => s.1.isProcessed s.2).map (fun s => (s.1.calm, s.2)) ∧
    (∀ s ∈ trace arrivals db, s.1.isProcessed s.2 = true → s.1.calm.answer s.2 = s.1.answer s.2) ∧
    ∀ p eventId, timesBooked arrivals db p eventId ≤ 1 ∧
      (run arrivals db).bookings p eventId =
        db.bookings p eventId + timesBooked arrivals db p eventId := by
  refine ⟨fun s _ h => inert_of_not_processed h, run_kept db backed, trace_kept db backed, ?_, ?_⟩
  · intro s hs h
    have hmem : s.1 ∈ arrivals := mem_of_mem_trace hs
    exact (calm_of_processed (backed s.1 hmem) h).2.1
  · intro p eventId
    exact ⟨(timesBooked_le arrivals db p eventId).1, bookings_run arrivals db p eventId⟩

/-- A purchase arrives three times: the ledger fails, then it is processed, then it is repeated while
the duplicate check misses it. -/
def purchaseThrice : List Arrival :=
  let bought : ProviderEvent :=
    { provider := .stripe, eventId := "evt", kind := .subscriptionCreated, eventType := "created"
      customerId := some "cus", subscriptionId := some "sub", planTier := some "pro" }
  [⟨⟨{}, 0, some (.fails .ledgerWrite .storage)⟩, bought⟩, ⟨⟨{}, 1, none⟩, bought⟩,
    ⟨⟨{}, 2, some .missedDuplicate⟩, bought⟩]

theorem exactly_once_purchase :
    let db := Database.ofCustomer "u" "u@example.com" .stripe "cus"
    (∀ a ∈ purchaseThrice, a.IsBacked) ∧ (trace purchaseThrice db).length = 3 ∧
      (kept purchaseThrice db).length = 1 ∧
      run (kept purchaseThrice db) db = run purchaseThrice db ∧
      timesBooked purchaseThrice db .stripe "evt" ≤ 1 ∧
      (run purchaseThrice db).bookings .stripe "evt" = 1 := by
  intro db
  have backed : ∀ a ∈ purchaseThrice, a.IsBacked := by
    simp [purchaseThrice, IsBacked, EventKind.isBooked]
  obtain ⟨-, hrun, -, -, hbooked⟩ := exactly_once purchaseThrice db backed
  exact ⟨backed, rfl, by decide +kernel, hrun, (hbooked .stripe "evt").1, by decide +kernel⟩

end Arrival
end SubscriptionBilling
