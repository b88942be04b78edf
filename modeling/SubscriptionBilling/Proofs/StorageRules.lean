import SubscriptionBilling.Proofs.Operations

/-! The rules of the store over whole runs. What it keeps unique stays unique, the ledger and the audit
trail are only added to, and a transaction with a write that would break a rule, wherever in the
transaction it stands, leaves nothing behind. -/
namespace SubscriptionBilling

theorem lt_nextId {ids : List Nat} {n : Nat} (h : n ∈ ids) : n < nextId ids := by
  have hfold : ∀ (ids : List Nat) (start : Nat), start ≤ ids.foldl max start ∧
      ∀ n ∈ ids, n ≤ ids.foldl max start := by
    intro ids
    induction ids with
    | nil => simp
    | cons m rest ih =>
      intro start
      obtain ⟨hstart, hrest⟩ := ih (max start m)
      rw [List.foldl_cons]
      refine ⟨by omega, List.forall_mem_cons.mpr ⟨by omega, hrest⟩⟩
  exact Nat.lt_succ_of_le ((hfold ids 0).2 n h)

/-- A table to which rows have been added at most, under larger numbers than those that were there. -/
def Grows (id : α → Nat) (before after : List α) : Prop :=
  ∃ new, after = before ++ new ∧ ∀ old ∈ before, ∀ row ∈ new, id old < id row

namespace Grows
variable {id : α → Nat} {before mid after : List α}

theorem refl (rows : List α) : Grows id rows rows := ⟨[], by simp, by simp⟩

theorem trans (h : Grows id before mid) (h' : Grows id mid after) : Grows id before after := by
  obtain ⟨first, rfl, hfirst⟩ := h
  obtain ⟨second, rfl, hsecond⟩ := h'
  refine ⟨first ++ second, by rw [List.append_assoc], fun old hold row hrow => ?_⟩
  rcases List.mem_append.mp hrow with hrow | hrow
  · exact hfirst old hold row hrow
  · exact hsecond old (List.mem_append_left _ hold) row hrow

/-- Rows under the next number. -/
theorem append {new : List α} (numbered : ∀ row ∈ new, id row = nextId (before.map id)) :
    Grows id before (before ++ new) := by
  refine ⟨new, rfl, fun old hold row hrow => ?_⟩
  rw [numbered row hrow]
  exact lt_nextId (List.mem_map_of_mem hold)

end Grows

namespace Database

/-- A store whose ledger and audit trail have been added to at most. -/
structure Extends (before after : Database) : Prop where
  ledger : Grows (fun e : LedgerEntry => e.id) before.ledger after.ledger
  audit : Grows (fun e : AuditEntry => e.id) before.audit after.audit

namespace Extends
variable {before mid after : Database}

theorem of_eq (ledger : after.ledger = before.ledger) (audit : after.audit = before.audit) :
    before.Extends after :=
  ⟨ledger ▸ .refl _, audit ▸ .refl _⟩

theorem refl (db : Database) : db.Extends db := of_eq rfl rfl

theorem trans (h : before.Extends mid) (h' : mid.Extends after) : before.Extends after :=
  ⟨h.ledger.trans h'.ledger, h.audit.trans h'.audit⟩

end Extends

theorem ledger_and_audit_increment (db : Database) (k : CounterKey) (amount : Int) :
    (db.increment k amount).2.ledger = db.ledger ∧ (db.increment k amount).2.audit = db.audit := by
  unfold increment
  split <;> exact ⟨rfl, rfl⟩

theorem ledger_and_audit_incrementBelow (db : Database) (k : CounterKey) (cap : Int) :
    (db.incrementBelow k cap).2.ledger = db.ledger ∧
      (db.incrementBelow k cap).2.audit = db.audit := by
  unfold incrementBelow
  split
  · exact ⟨rfl, rfl⟩
  · split
    · exact ⟨rfl, rfl⟩
    · split <;> exact ⟨rfl, rfl⟩

theorem Write.extends {db after : Database} {id : String} (h : Write id db after) :
    db.Extends after := by
  cases h with
  | assigned p customerId written =>
    rcases Subscriber.assignCustomerId_cases written with ⟨-, rfl⟩ | ⟨-, u, -, -, hreplace⟩
    · exact .refl _
    · obtain ⟨-, rfl⟩ := replace_eq_ok.mp hreplace
      exact .of_eq rfl rfl
  | noted c n about written =>
    obtain ⟨-, hr⟩ := AuditNote.log_eq_ok.mp written
    obtain ⟨-, rfl⟩ := Prod.mk.inj hr
    exact ⟨.refl _, .append fun row hrow => by rw [List.mem_singleton.mp hrow]; rfl⟩
  | counted k amount own written =>
    obtain rfl := congrArg Prod.snd (CounterKey.increment_eq_ok.mp written).2
    obtain ⟨hledger, haudit⟩ := ledger_and_audit_increment db k amount
    exact .of_eq hledger haudit
  | countedBelow k cap own written =>
    obtain rfl := congrArg Prod.snd (CounterKey.incrementBelow_eq_ok.mp written).2
    obtain ⟨hledger, haudit⟩ := ledger_and_audit_incrementBelow db k cap
    exact .of_eq hledger haudit

/-- A transition adds one entry to each of the two tables at most. -/
theorem extends_result (c : Context) (u : Subscriber) (t : Transition) (db : Database) :
    db.Extends (t.result c u db) where
  ledger := by
    refine .append fun row hrow => ?_
    obtain ⟨p, -, hentry⟩ := Option.bind_eq_some_iff.mp (Option.mem_toList.mp hrow)
    obtain ⟨_, -, rfl⟩ := Option.map_eq_some_iff.mp hentry
    rfl
  audit := by
    refine .append fun row hrow => ?_
    obtain ⟨n, -, rfl⟩ := Option.map_eq_some_iff.mp (Option.mem_toList.mp hrow)
    rfl

end Database

namespace Step

theorem extends_after (s : Step) (w : World) : w.database.Extends (s.after w).database := by
  cases s.moves w with
  | own path =>
    exact Database.kept_by_writes (P := w.database.Extends)
      (fun hwrite hdb => hdb.trans hwrite.extends) path (.refl _)
  | enrolled written =>
    obtain ⟨after, hadd, hpair⟩ := bind_eq_ok.mp written
    obtain ⟨-, hafter⟩ := Prod.mk.inj (pure_eq_ok.mp hpair)
    obtain ⟨-, rfl⟩ := Database.addSubscriber_eq_ok.mp hadd
    rw [hafter]
    exact .of_eq rfl rfl
  | @arrived e brings settled =>
    rw [settled]
    rcases (⟨s.context, e⟩ : Arrival).after_cases w.database with hsame | ⟨u, hs⟩
    · exact .of_eq (by rw [hsame]) (by rw [hsame])
    · rw [Arrival.after_of_settles hs]
      exact Database.extends_result _ _ _ _

theorem extends_run (steps : List Step) (w : World) :
    w.database.Extends (run steps w).database :=
  run_induction (P := fun after => w.database.Extends after.database)
    (fun s _ after h => h.trans (s.extends_after after)) (.refl _)

end Step

/-- The writes of which the service's transactions are made. -/
inductive Statement where
  | add (u : Subscriber)
  | change (id : String) (ch : SubscriberChange)
  | assign (id : String) (p : Provider) (customerId : Option String)
  | log (n : AuditNote)
  | book (p : Posting)
  | increment (k : CounterKey) (amount : Int)
  | incrementBelow (k : CounterKey) (cap : Int)

namespace Statement
variable {c : Context} {db after : Database}

def perform (c : Context) : Statement → Transaction Unit
  | add u => u.add
  | change id ch => Subscriber.change c id ch
  | assign id p customerId => Subscriber.assignCustomerId id p customerId >>= fun _ => pure ()
  | log n => n.log c >>= fun _ => pure ()
  | book p => p.book c >>= fun _ => pure ()
  | increment k amount => k.increment amount >>= fun _ => pure ()
  | incrementBelow k cap => k.incrementBelow cap >>= fun _ => pure ()

/-- The store with a write in it, whether or not the store lets it in. -/
def written (c : Context) (db : Database) : Statement → Database
  | add u => { db with subscribers := db.subscribers ++ [u.stored] }
  | change id ch => db.amend id ch
  | assign id p customerId =>
    match db.subscriber? id with
    | none => db
    | some u =>
      if (u.customerId p).isSome then db
      else
        { db with subscribers :=
          db.subscribers.map fun v => if v.id = id then u.setCustomerId p customerId else v }
  | log n => { db with audit := db.audit ++ [n.entry db.nextAudit c.moment] }
  | book p => { db with ledger := db.ledger ++ (p.entry? db.nextEntry c.moment).toList }
  | increment k amount => (db.increment k amount).2
  | incrementBelow k cap => (db.incrementBelow k cap).2

/-- The store lets a write in as it is, or not at all. -/
theorem written_of_perform {s : Statement} (h : s.perform c db = .ok ((), after)) :
    after = s.written c db := by
  cases s with
  | add u =>
    obtain ⟨_, hadd, hpair⟩ := bind_eq_ok.mp h
    obtain ⟨-, rfl⟩ := Prod.mk.inj (pure_eq_ok.mp hpair)
    exact (Database.addSubscriber_eq_ok.mp hadd).2
  | change id ch => exact (Prod.mk.inj (Subscriber.change_eq_ok.mp h).2.2).2
  | assign id p customerId =>
    obtain ⟨done, mid, hassign, hpair⟩ := Transaction.discard_eq_ok.mp h
    obtain ⟨-, rfl⟩ := Prod.mk.inj hpair
    unfold Subscriber.assignCustomerId at hassign
    unfold written
    split at hassign
    · next hu =>
      cases hassign
      simp only [hu]
    next u hu =>
    obtain rfl : u.id = id := Database.id_of_subscriber? hu
    simp only [hu]
    split at hassign
    · next hfull =>
      cases hassign
      rw [if_pos hfull]
    · next hfree =>
      obtain ⟨_, hreplace, hpair⟩ := bind_eq_ok.mp hassign
      obtain ⟨-, rfl⟩ := Prod.mk.inj (pure_eq_ok.mp hpair)
      rw [if_neg hfree]
      simpa using (Database.replace_eq_ok.mp hreplace).2
  | log n =>
    obtain ⟨_, mid, hlog, hpair⟩ := Transaction.discard_eq_ok.mp h
    obtain ⟨-, rfl⟩ := Prod.mk.inj hpair
    exact (Prod.mk.inj (AuditNote.log_eq_ok.mp hlog).2).2
  | book p =>
    obtain ⟨_, mid, hbook, hpair⟩ := Transaction.discard_eq_ok.mp h
    obtain ⟨-, rfl⟩ := Prod.mk.inj hpair
    obtain ⟨-, -, e, hentry, hr⟩ := Posting.book_eq_ok.mp hbook
    rw [written, hentry]
    exact (Prod.mk.inj hr).2
  | increment k amount =>
    obtain ⟨_, mid, hcount, hpair⟩ := Transaction.discard_eq_ok.mp h
    obtain ⟨-, rfl⟩ := Prod.mk.inj hpair
    exact congrArg Prod.snd (CounterKey.increment_eq_ok.mp hcount).2
  | incrementBelow k cap =>
    obtain ⟨_, mid, hcount, hpair⟩ := Transaction.discard_eq_ok.mp h
    obtain ⟨-, rfl⟩ := Prod.mk.inj hpair
    exact congrArg Prod.snd (CounterKey.incrementBelow_eq_ok.mp hcount).2

/-- A write that the store lets in breaks none of its rules. -/
theorem consistent_of_perform (consistent : db.Consistent) {s : Statement}
    (h : s.perform c db = .ok ((), after)) : after.Consistent := by
  cases s with
  | add u => exact consistent.enrolled h
  | change id ch =>
    obtain ⟨-, admitted, hr⟩ := Subscriber.change_eq_ok.mp h
    obtain ⟨-, rfl⟩ := Prod.mk.inj hr
    exact consistent.amend admitted
  | assign id p customerId =>
    obtain ⟨_, mid, hassign, hpair⟩ := Transaction.discard_eq_ok.mp h
    obtain ⟨-, rfl⟩ := Prod.mk.inj hpair
    exact consistent.assigned hassign
  | log n =>
    obtain ⟨_, mid, hlog, hpair⟩ := Transaction.discard_eq_ok.mp h
    obtain ⟨-, rfl⟩ := Prod.mk.inj hpair
    exact consistent.noted hlog
  | book p =>
    obtain ⟨_, mid, hbook, hpair⟩ := Transaction.discard_eq_ok.mp h
    obtain ⟨-, rfl⟩ := Prod.mk.inj hpair
    exact consistent.booked hbook
  | increment k amount =>
    obtain ⟨_, mid, hcount, hpair⟩ := Transaction.discard_eq_ok.mp h
    obtain ⟨-, rfl⟩ := Prod.mk.inj hpair
    exact consistent.counted hcount
  | incrementBelow k cap =>
    obtain ⟨_, mid, hcount, hpair⟩ := Transaction.discard_eq_ok.mp h
    obtain ⟨-, rfl⟩ := Prod.mk.inj hpair
    exact consistent.countedBelow hcount

/-- The store refuses a write that would break one of its rules. -/
theorem refused_of_breaking (consistent : db.Consistent) {s : Statement}
    (breaking : ¬(s.written c db).Consistent) : ∃ f, s.perform c db = .error f := by
  cases h : s.perform c db with
  | error f => exact ⟨f, rfl⟩
  | ok r =>
    have hafter := consistent_of_perform consistent h
    rw [written_of_perform h] at hafter
    exact absurd hafter breaking

/-- A transaction of several writes. -/
def performAll (c : Context) : List Statement → Transaction Unit
  | [] => pure ()
  | s :: rest => s.perform c >>= fun _ => performAll c rest

/-- The store with several writes in it, whether or not the store lets them in. -/
def writtenAll (c : Context) (db : Database) (statements : List Statement) : Database :=
  statements.foldl (written c) db

/-- Some write of a transaction would break a rule of the store. -/
def Breaks (c : Context) (db : Database) (statements : List Statement) : Prop :=
  ∃ before s rest, statements = before ++ s :: rest ∧
    ¬(s.written c (writtenAll c db before)).Consistent

/-- What all writes together would break, the last one would. -/
theorem breaks_of_writtenAll {statements : List Statement} (consistent : db.Consistent)
    (broken : ¬(writtenAll c db statements).Consistent) : Breaks c db statements := by
  rcases List.eq_nil_or_concat statements with rfl | ⟨before, s, rfl⟩
  · exact absurd consistent broken
  · exact ⟨before, s, [], List.concat_eq_append, by simpa [writtenAll] using broken⟩

/-- A transaction that goes through lets in all its writes, each of them into a store whose rules it
does not break. -/
theorem not_breaks_of_performAll {statements : List Statement} (consistent : db.Consistent)
    (h : performAll c statements db = .ok ((), after)) : ¬Breaks c db statements := by
  induction statements generalizing db with
  | nil =>
    rintro ⟨before, s, rest, hsplit, -⟩
    cases before <;> cases hsplit
  | cons s rest ih =>
    obtain ⟨_, mid, hs, hrest⟩ := Transaction.bind_eq_ok.mp h
    have hmid : mid.Consistent := consistent_of_perform consistent hs
    rw [written_of_perform hs] at hmid hrest
    rintro ⟨before, t, after, hsplit, hbreaking⟩
    cases before with
    | nil =>
      obtain ⟨rfl, rfl⟩ := List.cons.inj hsplit
      exact hbreaking hmid
    | cons first before =>
      obtain ⟨rfl, rfl⟩ := List.cons.inj hsplit
      exact ih hmid hrest ⟨before, t, after, rfl, hbreaking⟩

end Statement

namespace Service
variable {c : Context}

theorem commit_of_error {t : Transaction α} {f : Failure} {w : World}
    (h : t w.database = .error f) : ∃ g, commit c t w = (.error g, w) := by
  unfold commit
  cases c.strike .session with
  | error g => exact ⟨g, rfl⟩
  | ok _ => exact ⟨f, by simp only [Transaction.attempt, h]⟩

/-- A transaction with a write that would break a rule commits nothing at all. -/
theorem commit_of_breaks {statements : List Statement} {w : World}
    (consistent : w.database.Consistent) (breaks : Statement.Breaks c w.database statements) :
    ∃ f, commit c (Statement.performAll c statements) w = (.error f, w) := by
  cases h : Statement.performAll c statements w.database with
  | error f => exact commit_of_error h
  | ok r => exact absurd breaks (Statement.not_breaks_of_performAll consistent h)

/-- Work in one transaction that comes to a write which would break a rule is undone, whatever it has
written before. -/
theorem atomically_of_breaking {x : Service α} {y : Unit → Service β} {s : Statement} {a : α}
    {w mid : World} (reached : x w = (.ok a, mid)) (consistent : mid.database.Consistent)
    (breaking : ¬(s.written c mid.database).Consistent) :
    ∃ f after, atomically c (x >>= fun _ => commit c (s.perform c) >>= y) w = (.error f, after) ∧
      after.database = w.database := by
  obtain ⟨_, hrefused⟩ := Statement.refused_of_breaking consistent breaking
  obtain ⟨f, hcommit⟩ := commit_of_error (c := c) hrefused
  unfold atomically
  cases c.strike .session with
  | error g => exact ⟨g, w, rfl, rfl⟩
  | ok _ =>
    simp only [bind_of_ok reached, bind_of_error hcommit]
    exact ⟨_, _, rfl, rfl⟩

end Service

/-- The writes of a transition, in their order. -/
def Transition.statements (u : Subscriber) (t : Transition) : List Statement :=
  (t.change.map (Statement.change u.id)).toList ++ (t.note.map Statement.log).toList ++
    (t.posting.map Statement.book).toList

theorem Transition.write_eq_performAll (c : Context) (u : Subscriber) (t : Transition) :
    t.write c u = Statement.performAll c (t.statements u) := by
  rw [write_eq]
  obtain ⟨change, note, posting, tasks⟩ := t
  cases change <;> cases note <;> cases posting <;>
    simp [statements, Statement.performAll, Statement.perform]

/-- An event one of whose writes would break a rule is not processed, and it leaves no trace. -/
theorem Arrival.inert_of_breaks {a : Arrival} {db : Database} {u : Subscriber}
    (consistent : db.Consistent) (subject : a.event.subject? db = some u)
    (breaks : Statement.Breaks a.context db
      ((a.event.transitionAt a.context db u).statements u)) :
    a.isProcessed db = false ∧ a.after db = db := by
  cases h : a.isProcessed db with
  | false => exact ⟨rfl, after_eq_of_not_processed h⟩
  | true =>
    obtain ⟨v, settles⟩ := isProcessed_iff.mp h
    obtain rfl : v = u := Option.some.inj (settles.subject.symm.trans subject)
    have hwrite := Transition.write_eq_ok.mpr ⟨settles.passes, rfl⟩
    rw [Transition.write_eq_performAll] at hwrite
    exact absurd breaks (Statement.not_breaks_of_performAll consistent hwrite)

namespace Step

/-- Whatever the service does and whatever disturbs it: what the store keeps unique is unique at every
point, the ledger and the audit trail are added to at most, and a transaction that comes to a write
which would break a rule leaves the store as it was, be it an event's, one of writes alone, or one
around any other work. -/
theorem storage_rules {start : World} (consistent : start.database.Consistent)
    (past later : List Step) :
    (run past start).database.Consistent ∧
    (run past start).database.Extends (run (past ++ later) start).database ∧
    (∀ (a : Arrival) u, a.event.subject? (run past start).database = some u →
      Statement.Breaks a.context (run past start).database
        ((a.event.transitionAt a.context (run past start).database u).statements u) →
      a.isProcessed (run past start).database = false ∧
        a.after (run past start).database = (run past start).database) ∧
    (∀ c statements w, w.database = (run past start).database →
      Statement.Breaks c w.database statements →
      ∃ f, Service.commit c (Statement.performAll c statements) w = (.error f, w)) ∧
    ∀ c (x : Service Unit) (y : Unit → Service Unit) (s : Statement) w mid,
      w.database = (run past start).database → x w = (.ok (), mid) → mid.database.Consistent →
      ¬(s.written c mid.database).Consistent →
      ∃ f after, Service.atomically c (x >>= fun _ => Service.commit c (s.perform c) >>= y) w =
        (.error f, after) ∧ after.database = (run past start).database := by
  have hpast := consistent_run past consistent
  refine ⟨hpast, ?_, fun a u => Arrival.inert_of_breaks hpast, fun c statements w hw => ?_,
    fun c x y s w mid hw reached hmid breaking => ?_⟩
  · rw [run_append]
    exact extends_run later _
  · exact Service.commit_of_breaks (hw ▸ hpast)
  · exact hw ▸ Service.atomically_of_breaking reached hmid breaking

/-- A purchase is booked, and the next step only adds to it. When the purchase is delivered again and
the duplicate check misses it, its record and its note are written and the booking is refused; then
neither of the two stays. -/
theorem storage_rules_after_purchase :
    let c := Arrival.directPurchase.context
    let e := Arrival.directPurchase.event
    let repeated : Arrival := ⟨{ c with fault := some .missedDuplicate }, e⟩
    let purchase : Step := ⟨c, .process e, fun _ => []⟩
    let payment : Step := ⟨c, .process (Arrival.brokered .paymentSucceeded "" "evt_2").event, fun _ => []⟩
    let start : World := { database := Database.customerOfBoth }
    let db := (run [purchase] start).database
    db.ledger.length = 1 ∧ db.Extends (run [purchase, payment] start).database ∧
    ∃ u, e.subject? db = some u ∧
      Statement.Breaks repeated.context db
        ((repeated.event.transitionAt repeated.context db u).statements u) ∧
      repeated.after db = db := by
  intro c e repeated purchase payment start db
  have hconsistent : start.database.Consistent := Database.reachable_customerOfBoth.consistent
  obtain ⟨hdb, hextends, hevents, -⟩ := storage_rules hconsistent [purchase] [payment]
  have hbroken : (e.subject? db).map (fun u => decide
      ((Statement.writtenAll repeated.context db
        ((repeated.event.transitionAt repeated.context db u).statements u)).ledger.Pairwise
          fun row other => row.books other.provider other.eventId = false)) = some false := by
    decide +kernel
  obtain ⟨u, hu, hledger⟩ := Option.map_eq_some_iff.mp hbroken
  have hbreaks := Statement.breaks_of_writtenAll hdb fun h => of_decide_eq_false hledger h.ledger
  exact ⟨by decide +kernel, hextends, u, hu, hbreaks, (hevents repeated u hu hbreaks).2⟩

end Step
end SubscriptionBilling
