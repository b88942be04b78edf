import Mathlib.Algebra.Ring.Int.Defs
import SubscriptionBilling.Proofs.Counters
import SubscriptionBilling.Proofs.OwnRows
import SubscriptionBilling.Proofs.StorageRules

/-! Histories of subscribers. A history is the newest part of the subscriber's entries, later ones first,
and a longer one goes on where a shorter one ends. Its limit is a whole number of the store: one that
does not fit is refused. -/
namespace SubscriptionBilling

namespace LedgerEntry

/-- Whether an entry was booked before another one. Of one moment the smaller number came first. -/
def IsOlder (e f : LedgerEntry) : Prop :=
  e.createdAt.instant < f.createdAt.instant ∨
    e.createdAt.instant = f.createdAt.instant ∧ e.id < f.id

theorem IsOlder.ne {e f : LedgerEntry} (h : e.IsOlder f) : e ≠ f := by
  rintro rfl
  unfold IsOlder at h
  omega

end LedgerEntry

namespace Database

theorem newerFirst_iff {e f : LedgerEntry} :
    newerFirst e f = true ↔ f.createdAt.instant < e.createdAt.instant ∨
      f.createdAt.instant = e.createdAt.instant ∧ f.id ≤ e.id := by
  simp [newerFirst]

theorem newerFirst_trans (e f g : LedgerEntry) (h : newerFirst e f = true)
    (h' : newerFirst f g = true) : newerFirst e g = true := by
  rw [newerFirst_iff] at h h' ⊢
  omega

theorem newerFirst_total (e f : LedgerEntry) : (newerFirst e f || newerFirst f e) = true := by
  rw [Bool.or_eq_true, newerFirst_iff, newerFirst_iff]
  omega

/-- A number of its own for every entry of the ledger, as the primary key of the table demands. -/
def Numbered (db : Database) : Prop := db.ledger.Pairwise fun e f => e.id ≠ f.id

theorem Numbered.append {db : Database} (h : db.Numbered) {e : LedgerEntry}
    (next : e.id = db.nextEntry) : (db.ledger ++ [e]).Pairwise fun e f => e.id ≠ f.id := by
  refine List.pairwise_append.mpr ⟨h, List.pairwise_singleton _ _, fun f hf g hg => ?_⟩
  obtain rfl := List.mem_singleton.mp hg
  have hlt := lt_nextId (List.mem_map_of_mem (f := fun e : LedgerEntry => e.id) hf)
  rw [next]
  exact hlt.ne

theorem Numbered.arrived {db : Database} (h : db.Numbered) (a : Arrival) : (a.after db).Numbered := by
  rcases a.after_cases db with hsame | ⟨u, hs⟩
  · rwa [hsame]
  rw [Arrival.after_of_settles hs, Numbered, Transition.result]
  cases hentry : (a.event.transitionAt a.context db u).posting.bind fun p =>
      p.entry? db.nextEntry a.context.moment with
  | none =>
    rw [Option.toList_none, List.append_nil]
    exact h
  | some e =>
    obtain ⟨p, -, hp⟩ := Option.bind_eq_some_iff.mp hentry
    obtain ⟨_, -, rfl⟩ := Option.map_eq_some_iff.mp hp
    exact h.append rfl

/-- Whatever the service does, the entries keep numbers of their own. -/
theorem Reachable.numbered {db : Database} (h : db.Reachable) : db.Numbered := by
  induction h with
  | empty => exact .nil
  | arrived a before ih => exact ih.arrived a
  | enrolled id email name countryCode tier before written ih =>
    obtain ⟨_, hadd, hpair⟩ := bind_eq_ok.mp written
    obtain ⟨-, rfl⟩ := Prod.mk.inj (pure_eq_ok.mp hpair)
    obtain ⟨-, rfl⟩ := addSubscriber_eq_ok.mp hadd
    exact ih
  | assigned id p customerId before written ih =>
    rcases Subscriber.assignCustomerId_cases written with ⟨-, rfl⟩ | ⟨-, u, -, -, hreplace⟩
    · exact ih
    · obtain ⟨-, rfl⟩ := replace_eq_ok.mp hreplace
      exact ih
  | noted c n before written ih =>
    obtain ⟨-, hr⟩ := AuditNote.log_eq_ok.mp written
    obtain ⟨-, rfl⟩ := Prod.mk.inj hr
    exact ih
  | counted k amount before written ih =>
    obtain rfl := congrArg Prod.snd (CounterKey.increment_eq_ok.mp written).2
    rw [Numbered, (ledger_and_audit_increment _ k amount).1]
    exact ih
  | countedBelow k cap before written ih =>
    obtain rfl := congrArg Prod.snd (CounterKey.incrementBelow_eq_ok.mp written).2
    rw [Numbered, (ledger_and_audit_incrementBelow _ k cap).1]
    exact ih

/-- The entries of a subscriber, later ones first. -/
def chronicle (db : Database) (id : String) : List LedgerEntry :=
  (db.own id).ledger.mergeSort newerFirst

section Chronicles
variable {db : Database} {id : String}

theorem perm_chronicle : (db.chronicle id).Perm (db.own id).ledger := List.mergeSort_perm _ _

/-- Numbers of their own make the order a strict one. -/
theorem pairwise_chronicle (numbered : db.Numbered) (id : String) :
    (db.chronicle id).Pairwise fun e f => f.IsOlder e := by
  have hsorted : (db.chronicle id).Pairwise fun e f => newerFirst e f = true :=
    List.pairwise_mergeSort newerFirst_trans newerFirst_total _
  have hown : (db.own id).ledger.Pairwise fun e f => e.id ≠ f.id :=
    numbered.sublist List.filter_sublist
  have hnumbers : (db.chronicle id).Pairwise fun e f => e.id ≠ f.id :=
    perm_chronicle.symm.pairwise hown fun h => h.symm
  refine (hsorted.and hnumbers).imp fun {e f} h => ?_
  obtain ⟨horder, hne⟩ := h
  rcases newerFirst_iff.mp horder with hlt | ⟨hsame, hle⟩
  · exact .inl hlt
  · exact .inr ⟨hsame, lt_of_le_of_ne hle hne.symm⟩

/-- What is left out of a beginning comes after all of it. -/
theorem older_of_notMem_take (numbered : db.Numbered) {n : Nat} {e f : LedgerEntry}
    (own : e ∈ db.chronicle id) (omitted : e ∉ (db.chronicle id).take n)
    (shown : f ∈ (db.chronicle id).take n) : e.IsOlder f := by
  have hsplit := pairwise_chronicle numbered id
  rw [← List.take_append_drop n (db.chronicle id)] at hsplit own
  obtain ⟨-, -, hacross⟩ := List.pairwise_append.mp hsplit
  exact hacross f shown e ((List.mem_append.mp own).resolve_left omitted)

theorem history_eq_take {limit : Int} (h : 0 ≤ limit) :
    db.history id limit = (db.chronicle id).take limit.toNat := by
  rw [history_eq_own]
  exact if_neg (Int.not_lt.mpr h)

end Chronicles
end Database

namespace Subscription
variable {c : Context}

/-- A limit that fits is met from the store as it is. -/
theorem history_of_fits (opened : c.strike .session = .ok ()) {limit : Int}
    (fits : Column.fits limit = true) (w : World) (id : String) :
    history c id limit w = (.ok (w.database.history id limit), w) := by
  refine Service.commit_of_opened opened ?_
  rw [Column.checkWhole, fits]
  rfl

theorem history_of_not_fits (opened : c.strike .session = .ok ()) {limit : Int}
    (vast : Column.fits limit = false) (w : World) (id : String) :
    history c id limit w = (.error .beyondColumn, w) := by
  simp only [history, Service.commit, opened, Transaction.attempt, Column.checkWhole, vast]
  rfl

/-- Within the whole numbers of the store, a history shows the newest of the subscriber's entries and
nothing else, each once and later ones first. As many are shown as the limit and the ledger allow, what
is left out is older than all of them, and a larger limit only adds to the end. -/
theorem history_is_newest_prefix (opened : c.strike .session = .ok ()) {w : World}
    (numbered : w.database.Numbered) (id : String) {k n : Int} (positive : 1 ≤ k) (within : k ≤ n)
    (fits : n < 2 ^ 63) :
    ∃ shown more : List LedgerEntry,
      history c id k w = (.ok shown, w) ∧ history c id n w = (.ok more, w) ∧
      (∀ e ∈ shown, e ∈ w.database.ledger ∧ e.subscriberId = id) ∧ shown.Nodup ∧
      shown.Pairwise (fun e f => f.IsOlder e) ∧
      (∀ e ∈ w.database.ledger, e.subscriberId = id → e ∉ shown → ∀ f ∈ shown, e.IsOlder f) ∧
      (shown.length : Int) = min k (w.database.ledger.countP fun e => e.subscriberId = id) ∧
      List.IsPrefix shown more := by
  have hword : ∀ limit : Int, 1 ≤ limit → limit < 2 ^ 63 → Column.fits limit = true := by
    intro limit hpos hlt
    have hbound : ((twoTo 63 : Nat) : Int) = 2 ^ 63 := rfl
    simp only [Column.fits, Bool.and_eq_true, decide_eq_true_eq, hbound]
    omega
  have hmem : ∀ e, e ∈ w.database.chronicle id ↔ e ∈ w.database.ledger ∧ e.subscriberId = id :=
    fun e => by rw [Database.perm_chronicle.mem_iff]; simp [Database.own, Database.rowsOf]
  have hlength : (w.database.chronicle id).length =
      w.database.ledger.countP fun e => e.subscriberId = id := by
    rw [Database.perm_chronicle.length_eq, List.countP_eq_length_filter]
    rfl
  have hsorted := Database.pairwise_chronicle numbered id
  have hshown : ((w.database.chronicle id).take k.toNat).Pairwise fun e f => f.IsOlder e :=
    hsorted.sublist (List.take_sublist _ _)
  refine ⟨(w.database.chronicle id).take k.toNat, (w.database.chronicle id).take n.toNat,
    ?_, ?_, fun e he => (hmem e).mp (List.mem_of_mem_take he), hshown.imp fun h => h.ne.symm, hshown,
    fun e he own omitted f hf => ?_, ?_, ?_⟩
  · rw [history_of_fits opened (hword k positive (by omega)), Database.history_eq_take (by omega)]
  · rw [history_of_fits opened (hword n (by omega) fits), Database.history_eq_take (by omega)]
  · exact Database.older_of_notMem_take numbered ((hmem e).mpr ⟨he, own⟩) omitted hf
  · rw [List.length_take, hlength]
    omega
  · exact List.take_prefix_take_left (by omega)

/-- Three payments, the second of them booked after the clock was set back. -/
def clockSetBack : World where
  database :=
    let paid (eventId : String) (now : Int) : Arrival :=
      ⟨{ settings := {}, now := now },
        { provider := .stripe, eventId := eventId, kind := .paymentSucceeded, eventType := ""
          customerId := some "cus" }⟩
    Arrival.run [paid "evt_1" 100, paid "evt_2" 50, paid "evt_3" 100]
      (Database.ofCustomer "u" "u@example.com" .stripe "cus")

theorem numbered_clockSetBack : clockSetBack.database.Numbered :=
  ((Database.reachable_ofCustomer _ _ _ _).run _).numbered

theorem history_is_newest_prefix_after_set_back :
    let c : Context := { settings := {}, now := 200 }
    c.strike .session = .ok () ∧ clockSetBack.database.Numbered ∧
      clockSetBack.database.ledger.map (fun e => (e.id, e.createdAt)) =
        [(1, .ofSeconds 100), (2, .ofSeconds 50), (3, .ofSeconds 100)] ∧
      ∃ shown more, history c "u" 2 clockSetBack = (.ok shown, clockSetBack) ∧
        history c "u" 20 clockSetBack = (.ok more, clockSetBack) ∧ shown.length = 2 ∧
        shown.Pairwise (fun e f => f.IsOlder e) ∧ List.IsPrefix shown more := by
  intro c
  have opened : c.strike .session = .ok () := rfl
  obtain ⟨shown, more, hshown, hmore, -, -, hsorted, -, hlength, hprefix⟩ :=
    history_is_newest_prefix opened numbered_clockSetBack "u" (k := 2) (n := 20) (by decide) (by decide)
      (by decide)
  have hrows : (clockSetBack.database.ledger.countP fun e => e.subscriberId = "u") = 3 := by
    decide +kernel
  rw [hrows] at hlength
  exact ⟨opened, numbered_clockSetBack, by decide +kernel, shown, more, hshown, hmore, by omega, hsorted,
    hprefix⟩

/-- A limit beyond the whole numbers of the store shows nothing at all, although there are entries. -/
theorem no_history_beyond_word :
    let c : Context := { settings := {}, now := 200 }
    c.strike .session = .ok () ∧ clockSetBack.database.Numbered ∧ (1 : Int) ≤ 2 ^ 63 ∧
      (clockSetBack.database.ledger.countP fun e => e.subscriberId = "u") = 3 ∧
      ¬∃ shown, (history c "u" (2 ^ 63) clockSetBack).1 = .ok shown := by
  intro c
  refine ⟨rfl, numbered_clockSetBack, by decide, by decide +kernel, ?_⟩
  rw [history_of_not_fits rfl (by decide +kernel)]
  rintro ⟨shown, h⟩
  cases h

end Subscription
end SubscriptionBilling
