import Mathlib.Tactic.Common
import SubscriptionBilling.Store.Counters
import SubscriptionBilling.Webhook.Processing

/-! The writes of a transaction as total functions of the store, beside the conditions under which
they go through. A disturbance can only stop a write: what is written does not depend on it. -/
namespace SubscriptionBilling

theorem bind_eq_ok {x : Except ε α} {f : α → Except ε β} {b : β} :
    (x >>= f) = .ok b ↔ ∃ a, x = .ok a ∧ f a = .ok b := by
  cases x <;> simp [bind, Except.bind]

theorem pure_eq_ok {a b : α} : (pure a : Except ε α) = .ok b ↔ b = a := by
  simp [pure, Except.pure, eq_comm]

theorem map_eq_ok {x : Except ε α} {f : α → β} {b : β} :
    x.map f = .ok b ↔ ∃ a, x = .ok a ∧ f a = b := by
  cases x <;> simp [Except.map]

theorem toOption_eq_some {x : Except ε α} {a : α} : x.toOption = some a ↔ x = .ok a := by
  cases x <;> simp [Except.toOption]

theorem throw_ne_ok {f : Failure} {a : α} : (throw f : Except Failure α) ≠ .ok a := by
  simp [throw, throwThe, MonadExceptOf.throw]

/-- A failure ends the work, whatever was to follow. -/
theorem throw_bind {f : ε} {g : α → Except ε β} :
    ((throw f : Except ε α) >>= g) = throw f := rfl

/-- A check that refuses lets everything else through. -/
theorem guard_eq_ok {p : Prop} [Decidable p] {reason : ε} {x : Except ε α} {a : α} :
    (if p then throw reason else x) = .ok a ↔ ¬p ∧ x = .ok a := by
  by_cases hp : p <;> simp [hp, throw, throwThe, MonadExceptOf.throw]

/-- A check that fails for a reason of its own passes whenever the work fails for another one. -/
theorem guard_eq_error {p : Prop} [Decidable p] {reason problem : ε} {x : Except ε α}
    (h : reason ≠ problem) :
    (if p then throw reason else x) = .error problem ↔ ¬p ∧ x = .error problem := by
  by_cases hp : p <;> simp [hp, throw, throwThe, MonadExceptOf.throw, h]

/-- Both halves of a transaction succeed, the second one in the store that the first one leaves. -/
theorem Transaction.bind_eq_ok {t : Transaction α} {f : α → Transaction β} {db : Database}
    {r : β × Database} :
    (t >>= f) db = .ok r ↔ ∃ a mid, t db = .ok (a, mid) ∧ f a mid = .ok r := by
  change (t db >>= fun p => f p.1 p.2) = .ok r ↔ _
  rw [SubscriptionBilling.bind_eq_ok, Prod.exists]

theorem Transaction.pure_eq_ok {a : α} {db : Database} {r : α × Database} :
    (pure a : Transaction α) db = .ok r ↔ r = (a, db) := SubscriptionBilling.pure_eq_ok

theorem Transaction.query_bind {f : Database → α} {g : α → Transaction β} {db : Database} :
    (Transaction.query f >>= g) db = g (f db) db := rfl

/-- A transaction whose answer nobody needs. -/
theorem Transaction.discard_eq_ok {t : Transaction α} {db : Database} {r : Unit × Database} :
    (t >>= fun _ => pure ()) db = .ok r ↔ ∃ a mid, t db = .ok (a, mid) ∧ r = ((), mid) := by
  simp only [Transaction.bind_eq_ok, Transaction.pure_eq_ok]

theorem strike_bind_eq_ok {c : Context} {p : FaultPoint} {x : Except Failure α} {a : α} :
    (c.strike p >>= fun _ => x) = .ok a ↔ c.strike p = .ok () ∧ x = .ok a := by
  rw [bind_eq_ok]
  exact ⟨fun ⟨_, h⟩ => h, fun h => ⟨(), h⟩⟩

theorem strike_of_undisturbed {c : Context} (h : c.fault = none) (p : FaultPoint) :
    c.strike p = .ok () := by
  rw [Context.strike, h]
  rfl

/-- The same circumstances with nothing to disturb the work. -/
def Context.calm (c : Context) : Context := { c with fault := none }

@[simp] theorem SubscriberChange.id_apply (ch : SubscriberChange) (u : Subscriber) :
    (ch.apply u).id = u.id := rfl

@[simp] theorem SubscriberChange.apply_empty (u : Subscriber) :
    ({} : SubscriberChange).apply u = u := rfl

namespace Database

/-- A lookup by id answers with that id. -/
theorem id_of_subscriber? {db : Database} {id : String} {u : Subscriber}
    (h : db.subscriber? id = some u) : u.id = id := by
  simpa using List.find?_some h

theorem mem_of_subscriber? {db : Database} {id : String} {u : Subscriber}
    (h : db.subscriber? id = some u) : u ∈ db.subscribers := List.mem_of_find?_eq_some h

/-- Writes a change over the record under an id. -/
def amend (db : Database) (id : String) (ch : SubscriberChange) : Database :=
  match db.subscriber? id with
  | none => db
  | some u =>
    if ch = {} then db
    else { db with subscribers := db.subscribers.map fun v => if v.id = id then ch.apply u else v }

/-- What the store checks before a change: the tier stays, and no other subscriber claims an id that
the changed one has. -/
def Admits (db : Database) (id : String) (ch : SubscriberChange) : Prop :=
  ch ≠ {} → ∀ u, db.subscriber? id = some u →
    ch.clearsTier = false ∧ ∀ v ∈ db.subscribers, v.id ≠ id → v.clashes (ch.apply u) = false

/-- Nobody has the id. -/
theorem amend_of_none {db : Database} {id : String} (h : db.subscriber? id = none)
    (ch : SubscriberChange) : db.amend id ch = db := by simp only [amend, h]

@[simp] theorem amend_empty (db : Database) (id : String) : db.amend id {} = db := by
  unfold amend
  split <;> simp

theorem amend_of_some {db : Database} {id : String} {u : Subscriber}
    (h : db.subscriber? id = some u) {ch : SubscriberChange} (hch : ch ≠ {}) :
    db.amend id ch =
      { db with subscribers := db.subscribers.map fun v => if v.id = id then ch.apply u else v } := by
  simp only [amend, h, if_neg hch]

@[simp] theorem ledger_amend (db : Database) (id : String) (ch : SubscriberChange) :
    (db.amend id ch).ledger = db.ledger := by
  unfold amend; split <;> [rfl; (split <;> rfl)]

@[simp] theorem usage_amend (db : Database) (id : String) (ch : SubscriberChange) :
    (db.amend id ch).usage = db.usage := by
  unfold amend; split <;> [rfl; (split <;> rfl)]

@[simp] theorem audit_amend (db : Database) (id : String) (ch : SubscriberChange) :
    (db.amend id ch).audit = db.audit := by
  unfold amend; split <;> [rfl; (split <;> rfl)]

/-- A record that is put in the place of the one with its id is found there, every other one stays. -/
theorem subscriber?_put {db : Database} {u w : Subscriber} (h : db.subscriber? w.id = some u)
    (i : String) :
    Database.subscriber?
      { db with subscribers := db.subscribers.map fun v => if v.id = w.id then w else v } i =
      if i = w.id then some w else db.subscriber? i := by
  -- A row keeps its id, so the first match stands where it stood.
  have hkey : (fun v : Subscriber => decide (v.id = i)) ∘
      (fun v => if v.id = w.id then w else v) = fun v => decide (v.id = i) := by
    funext v
    by_cases hv : v.id = w.id <;> simp [hv]
  have hid : u.id = w.id := id_of_subscriber? h
  unfold subscriber? at h ⊢
  rw [List.find?_map, hkey]
  by_cases hi : i = w.id
  · rw [hi, h]
    simp [hid]
  · rw [if_neg hi]
    cases hf : db.subscribers.find? fun v => decide (v.id = i) with
    | none => rfl
    | some v =>
      have hv : v.id = i := by simpa using List.find?_some hf
      simp [hv, hi]

/-- The record under the amended id takes the change, every other one stays. -/
theorem subscriber?_amend (db : Database) (id i : String) (ch : SubscriberChange) :
    (db.amend id ch).subscriber? i =
      if i = id then (db.subscriber? id).map ch.apply else db.subscriber? i := by
  cases hu : db.subscriber? id with
  | none =>
    rw [amend_of_none hu]
    split
    · next hi => rw [hi, hu]; rfl
    · rfl
  | some u =>
    by_cases hch : ch = {}
    · rw [hch, amend_empty]
      split
      · next hi => rw [hi, hu]; rfl
      · rfl
    · obtain rfl : u.id = id := id_of_subscriber? hu
      rw [amend_of_some hu hch]
      exact subscriber?_put (w := ch.apply u) hu i

/-- A record is put in its place unless another subscriber claims one of its ids. -/
theorem replace_eq_ok {db after : Database} {u : Subscriber} :
    db.replace u = .ok after ↔
      (∀ v ∈ db.subscribers, v.id ≠ u.id → v.clashes u = false) ∧
        after = { db with subscribers := db.subscribers.map fun v => if v.id = u.id then u else v } := by
  unfold replace
  cases hany : db.subscribers.any fun v => decide (v.id ≠ u.id) && v.clashes u with
  | true =>
    obtain ⟨v, hv, h⟩ := List.any_eq_true.mp hany
    simp only [Bool.and_eq_true, decide_eq_true_eq] at h
    simp only [if_true, reduceCtorEq, false_iff, not_and]
    intro hno
    rw [hno v hv h.1] at h
    exact absurd h.2 Bool.false_ne_true
  | false =>
    have hno : ∀ v ∈ db.subscribers, v.id ≠ u.id → v.clashes u = false := by
      intro v hv hne
      have h := List.any_eq_false.mp hany v hv
      simpa [hne] using h
    simp only [Bool.false_eq_true, if_false, Except.ok.injEq]
    exact ⟨fun h => ⟨hno, h.symm⟩, fun h => h.2.symm⟩

/-- A record is added unless another subscriber has its id or claims one of its ids elsewhere. -/
theorem addSubscriber_eq_ok {db after : Database} {u : Subscriber} :
    db.addSubscriber u = .ok after ↔
      (∀ v ∈ db.subscribers, v.id ≠ u.id ∧ v.clashes u = false) ∧
        after = { db with subscribers := db.subscribers ++ [u] } := by
  unfold addSubscriber
  have hfree : (db.subscribers.any fun v => decide (v.id = u.id) || v.clashes u) = false ↔
      ∀ v ∈ db.subscribers, v.id ≠ u.id ∧ v.clashes u = false := by
    simp [List.any_eq_false]
  rw [← hfree]
  cases db.subscribers.any fun v => decide (v.id = u.id) || v.clashes u <;> simp [eq_comm]

/-- Counters stand beside the subscribers. -/
theorem subscribers_increment (db : Database) (k : CounterKey) (amount : Int) :
    (db.increment k amount).2.subscribers = db.subscribers := by
  unfold increment
  split <;> rfl

theorem subscribers_incrementBelow (db : Database) (k : CounterKey) (cap : Int) :
    (db.incrementBelow k cap).2.subscribers = db.subscribers := by
  unfold incrementBelow
  split
  · rfl
  · split
    · rfl
    · split <;> rfl

end Database

/-- A change goes through when the store admits it, and then it is written. -/
theorem Subscriber.change_eq_ok {c : Context} {id : String} {ch : SubscriberChange}
    {db : Database} {r : Unit × Database} :
    Subscriber.change c id ch db = .ok r ↔
      c.strike .subscriberWrite = .ok () ∧ db.Admits id ch ∧ r = ((), db.amend id ch) := by
  unfold Subscriber.change
  rw [strike_bind_eq_ok, and_congr_right_iff]
  intro _
  by_cases hch : ch = {}
  · subst hch
    have hadm : db.Admits id {} := fun h => absurd rfl h
    rw [if_pos rfl, Database.amend_empty]
    simp only [hadm, true_and]
    exact pure_eq_ok
  rw [if_neg hch]
  cases hu : db.subscriber? id with
  | none =>
    have hadm : db.Admits id ch := by
      intro _ u h
      rw [hu] at h
      cases h
    rw [Database.amend_of_none hu]
    simp only [hadm, true_and]
    exact pure_eq_ok
  | some u =>
    have hid : u.id = id := Database.id_of_subscriber? hu
    have hadm : db.Admits id ch ↔ ch.clearsTier = false ∧
        ∀ v ∈ db.subscribers, v.id ≠ id → v.clashes (ch.apply u) = false := by
      simp [Database.Admits, hch, hu]
    rw [hadm, Database.amend_of_some hu hch]
    cases ht : ch.clearsTier with
    | true => simp [throw_bind, throw_ne_ok]
    | false =>
      simp only [Bool.false_eq_true, if_false, bind_eq_ok, Database.replace_eq_ok,
        SubscriberChange.id_apply, hid, pure_eq_ok, true_and]
      exact ⟨fun ⟨_, ⟨hno, hafter⟩, hr⟩ => ⟨hno, hafter ▸ hr⟩, fun ⟨hno, hr⟩ => ⟨_, ⟨hno, rfl⟩, hr⟩⟩

@[simp] theorem Subscriber.id_setCustomerId (u : Subscriber) (p : Provider) (customerId : Option String) :
    (u.setCustomerId p customerId).id = u.id := by cases p <;> rfl

/-- An id is assigned to a subscriber who has none with the provider yet, and otherwise nothing
happens. -/
theorem Subscriber.assignCustomerId_cases {id : String} {p : Provider} {customerId : Option String}
    {db after : Database} {done : Bool}
    (h : Subscriber.assignCustomerId id p customerId db = .ok (done, after)) :
    (done = false ∧ after = db) ∨
      (done = true ∧ ∃ u, db.subscriber? id = some u ∧ (u.customerId p).isSome = false ∧
        db.replace (u.setCustomerId p customerId) = .ok after) := by
  unfold Subscriber.assignCustomerId at h
  split at h
  · cases h
    exact .inl ⟨rfl, rfl⟩
  next u hu =>
  split at h
  · cases h
    exact .inl ⟨rfl, rfl⟩
  next hfree =>
  obtain ⟨_, hreplace, hr⟩ := bind_eq_ok.mp h
  obtain ⟨rfl, rfl⟩ := Prod.mk.inj (pure_eq_ok.mp hr)
  exact .inr ⟨rfl, u, hu, by simpa using hfree, hreplace⟩

theorem Subscriber.eq_of_unassigned {id : String} {p : Provider} {customerId : Option String}
    {db after : Database}
    (h : Subscriber.assignCustomerId id p customerId db = .ok (false, after)) : after = db := by
  rcases Subscriber.assignCustomerId_cases h with ⟨-, hsame⟩ | ⟨hdone, -⟩
  · exact hsame
  · cases hdone

theorem CounterKey.increment_eq_ok {k : CounterKey} {amount : Int} {db : Database}
    {r : Int × Database} :
    k.increment amount db = .ok r ↔ Column.checkWhole amount = .ok () ∧ r = db.increment k amount := by
  unfold CounterKey.increment
  simp only [bind_eq_ok, pure_eq_ok]
  exact ⟨fun ⟨_, h⟩ => h, fun h => ⟨(), h⟩⟩

theorem CounterKey.incrementBelow_eq_ok {k : CounterKey} {cap : Int} {db : Database}
    {r : Option Int × Database} :
    k.incrementBelow cap db = .ok r ↔
      Column.checkWhole cap = .ok () ∧ r = db.incrementBelow k cap := by
  unfold CounterKey.incrementBelow
  simp only [bind_eq_ok, pure_eq_ok]
  exact ⟨fun ⟨_, h⟩ => h, fun h => ⟨(), h⟩⟩

/-- The entry of the audit trail that a note becomes. -/
def AuditNote.entry (n : AuditNote) (id : Nat) (now : Moment) : AuditEntry :=
  { n with facts := withoutNulls n.facts, id := id, createdAt := now }

/-- The number of the next entry of the audit trail. -/
def Database.nextAudit (db : Database) : Nat := nextId (db.audit.map fun e => e.id)

/-- The number of the next entry of the ledger. -/
def Database.nextEntry (db : Database) : Nat := nextId (db.ledger.map fun e => e.id)

theorem AuditNote.log_eq_ok {c : Context} {n : AuditNote} {db : Database}
    {r : AuditEntry × Database} :
    n.log c db = .ok r ↔ c.strike .auditWrite = .ok () ∧
      r = (n.entry db.nextAudit c.moment,
        { db with audit := db.audit ++ [n.entry db.nextAudit c.moment] }) := by
  unfold AuditNote.log
  rw [strike_bind_eq_ok]
  exact and_congr_right fun _ => pure_eq_ok

/-- A note stands beside the subscribers. -/
theorem AuditNote.subscribers_of_log {c : Context} {n : AuditNote} {db after : Database}
    {entry : AuditEntry} (h : n.log c db = .ok (entry, after)) :
    after.subscribers = db.subscribers := by
  obtain ⟨-, hr⟩ := AuditNote.log_eq_ok.mp h
  rw [(Prod.mk.inj hr).2]

theorem Posting.book_eq_ok {c : Context} {p : Posting} {db : Database}
    {r : LedgerEntry × Database} :
    p.book c db = .ok r ↔ c.strike .ledgerWrite = .ok () ∧
      db.books p.provider p.eventId = false ∧
      ∃ e, p.entry? db.nextEntry c.moment = some e ∧
        r = (e, { db with ledger := db.ledger ++ [e] }) := by
  unfold Posting.book
  rw [strike_bind_eq_ok, and_congr_right_iff]
  intro _
  cases hb : db.books p.provider p.eventId with
  | true => simp [throw_bind, throw_ne_ok]
  | false =>
    simp only [Bool.false_eq_true, if_false, true_and, Database.nextEntry]
    cases p.entry? (nextId (db.ledger.map fun e => e.id)) c.moment with
    | none => simp [throw_ne_ok]
    | some e => simp [pure_eq_ok]

/-- The duplicate check reads only. -/
theorem isBooked_eq_ok {c : Context} {first : Bool} {p : Provider} {eventId : String}
    {db : Database} {r : Bool × Database} :
    isBooked c first p eventId db = .ok r ↔ c.strike .duplicateCheck = .ok () ∧
      r = (!(first && c.fault = some .missedDuplicate) && db.books p eventId, db) := by
  unfold isBooked
  rw [strike_bind_eq_ok, and_congr_right_iff]
  intro _
  cases hf : first && decide (c.fault = some .missedDuplicate) with
  | true => simp [pure_eq_ok]
  | false => simp [pure_eq_ok]

namespace Transition

/-- The store after a transition, when all of it is written. -/
def result (c : Context) (u : Subscriber) (t : Transition) (db : Database) : Database where
  subscribers := (t.change.elim db (db.amend u.id)).subscribers
  ledger := db.ledger ++ (t.posting.bind fun p => p.entry? db.nextEntry c.moment).toList
  usage := db.usage
  audit := db.audit ++ (t.note.map fun n => n.entry db.nextAudit c.moment).toList

/-- What has to hold for all of a transition to be written. -/
structure Passes (c : Context) (u : Subscriber) (db : Database) (t : Transition) : Prop where
  change : ∀ ch, t.change = some ch → c.strike .subscriberWrite = .ok () ∧ db.Admits u.id ch
  note : t.note.isSome → c.strike .auditWrite = .ok ()
  posting : ∀ p, t.posting = some p → c.strike .ledgerWrite = .ok () ∧
    db.books p.provider p.eventId = false ∧ (bookedAmount? p.amount).isSome

/-- What passes under a disturbance passes without one. -/
theorem Passes.calm {c : Context} {u : Subscriber} {db : Database} {t : Transition}
    (h : t.Passes c u db) : t.Passes c.calm u db where
  change ch hch := ⟨rfl, (h.change ch hch).2⟩
  note _ := rfl
  posting p hp := ⟨rfl, (h.posting p hp).2⟩

/-- The three parts of a transition, each of which may be missing. -/
theorem write_eq (c : Context) (u : Subscriber) (t : Transition) :
    t.write c u =
      t.change.elim (pure ()) (Subscriber.change c u.id) >>= fun _ =>
      (t.note.elim (pure ()) fun n => n.log c >>= fun _ => pure ()) >>= fun _ =>
      t.posting.elim (pure ()) fun p => p.book c >>= fun _ => pure () := by
  obtain ⟨change, note, posting, tasks⟩ := t
  cases note with
  | none => cases change <;> cases posting <;> rfl
  | some n =>
    cases change <;> cases posting <;>
      (simp only [Option.elim, bind_assoc, pure_bind]; rfl)

theorem change_part_eq_ok {c : Context} {id : String} {change : Option SubscriberChange}
    {db : Database} {r : Unit × Database} :
    (change.elim (pure ()) (Subscriber.change c id) : Transaction Unit) db = .ok r ↔
      (∀ ch, change = some ch → c.strike .subscriberWrite = .ok () ∧ db.Admits id ch) ∧
        r = ((), change.elim db (db.amend id)) := by
  cases change with
  | none => simp [Transaction.pure_eq_ok]
  | some ch => simp [Subscriber.change_eq_ok, and_assoc]

theorem note_part_eq_ok {c : Context} {note : Option AuditNote} {db : Database}
    {r : Unit × Database} :
    (note.elim (pure ()) fun n => n.log c >>= fun _ => pure () : Transaction Unit) db = .ok r ↔
      (note.isSome → c.strike .auditWrite = .ok ()) ∧
        r = ((), { db with audit :=
          db.audit ++ (note.map fun n => n.entry db.nextAudit c.moment).toList }) := by
  cases note with
  | none => simp [Transaction.pure_eq_ok]
  | some n =>
    simp only [Option.elim, Transaction.discard_eq_ok, AuditNote.log_eq_ok]
    simp [and_assoc]

theorem posting_part_eq_ok {c : Context} {posting : Option Posting} {db : Database}
    {r : Unit × Database} :
    (posting.elim (pure ()) fun p => p.book c >>= fun _ => pure () : Transaction Unit) db = .ok r ↔
      (∀ p, posting = some p → c.strike .ledgerWrite = .ok () ∧
        db.books p.provider p.eventId = false ∧ (bookedAmount? p.amount).isSome) ∧
        r = ((), { db with ledger :=
          db.ledger ++ (posting.bind fun p => p.entry? db.nextEntry c.moment).toList }) := by
  cases posting with
  | none => simp [Transaction.pure_eq_ok]
  | some p =>
    simp only [Option.elim, Transaction.discard_eq_ok, Posting.book_eq_ok]
    cases hb : bookedAmount? p.amount with
    | none => simp [Posting.entry?, hb]
    | some a => simp [Posting.entry?, hb, and_assoc]

/-- A transition is written exactly when all its parts pass, and then as a whole. -/
theorem write_eq_ok {c : Context} {u : Subscriber} {db : Database} {t : Transition}
    {r : Unit × Database} :
    t.write c u db = .ok r ↔ t.Passes c u db ∧ r = ((), t.result c u db) := by
  -- The first part leaves the ledger as it was, so the posting may be checked in the first store.
  have hledger : (t.change.elim db (db.amend u.id)).ledger = db.ledger := by
    cases t.change <;> simp
  have haudit : (t.change.elim db (db.amend u.id)).audit = db.audit := by
    cases t.change <;> simp
  have husage : (t.change.elim db (db.amend u.id)).usage = db.usage := by
    cases t.change <;> simp
  rw [write_eq, Transaction.bind_eq_ok]
  simp only [change_part_eq_ok, Transaction.bind_eq_ok, note_part_eq_ok, posting_part_eq_ok,
    Prod.mk.injEq]
  constructor
  · rintro ⟨_, _, ⟨hchange, -, rfl⟩, _, _, ⟨hnote, -, rfl⟩, hposting, rfl⟩
    refine ⟨⟨hchange, hnote, fun p hp => ?_⟩, ?_⟩
    · simpa [Database.books, hledger] using hposting p hp
    · simp only [result, Database.nextEntry, Database.nextAudit, hledger, haudit, husage]
  · rintro ⟨⟨hchange, hnote, hposting⟩, rfl⟩
    refine ⟨(), _, ⟨hchange, trivial, rfl⟩, (), _, ⟨hnote, trivial, rfl⟩, fun p hp => ?_, ?_⟩
    · simpa [Database.books, hledger] using hposting p hp
    · simp only [result, Database.nextEntry, Database.nextAudit, hledger, haudit, husage]

end Transition
end SubscriptionBilling
