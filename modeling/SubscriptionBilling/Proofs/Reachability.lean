import SubscriptionBilling.Proofs.Arrivals
import SubscriptionBilling.Proofs.Consistency

/-! The stores that the service can bring about. Subscribers are enrolled without any account, and
after that events arrive, ids with providers are assigned, notes are logged and uses are counted, in
any order. All of this keeps the store consistent. -/
namespace SubscriptionBilling

/-- A subscriber as enrolled: known to no provider yet. -/
def Subscriber.enrolled (id email : String) (name countryCode : Option String) (tier : Tier) :
    Subscriber where
  id := id
  email := email
  name := name
  countryCode := countryCode
  tier := tier
  tierStartedAt := none
  tierExpiresAt := none
  stripeCustomerId := none
  januaCustomerId := none
  billingProvider := none
  upstreamProvider := none
  providerSubscriptionId := none

namespace Database

/-- The stores that are left by the service's own work, starting from the empty one. -/
inductive Reachable : Database → Prop
  | empty : Reachable {}
  | enrolled {db after : Database} (id email : String) (name countryCode : Option String)
      (tier : Tier) (before : Reachable db)
      (written : (Subscriber.enrolled id email name countryCode tier).add db = .ok ((), after)) :
      Reachable after
  | arrived {db : Database} (a : Arrival) (before : Reachable db) : Reachable (a.after db)
  | assigned {db after : Database} {done : Bool} (id : String) (p : Provider)
      (customerId : Option String) (before : Reachable db)
      (written : Subscriber.assignCustomerId id p customerId db = .ok (done, after)) :
      Reachable after
  | noted {db after : Database} {entry : AuditEntry} (c : Context) (n : AuditNote)
      (before : Reachable db) (written : n.log c db = .ok (entry, after)) : Reachable after
  | counted {db after : Database} {count : Int} (k : CounterKey) (amount : Int)
      (before : Reachable db) (written : k.increment amount db = .ok (count, after)) :
      Reachable after
  | countedBelow {db after : Database} {count : Option Int} (k : CounterKey) (cap : Int)
      (before : Reachable db) (written : k.incrementBelow cap db = .ok (count, after)) :
      Reachable after

/-- The store with one subscriber, whom a provider knows. -/
def ofCustomer (id email : String) (p : Provider) (customerId : String) : Database where
  subscribers :=
    [(Subscriber.enrolled id email none none .community).setCustomerId p (some customerId)]

theorem reachable_ofCustomer (id email : String) (p : Provider) (customerId : String) :
    (ofCustomer id email p customerId).Reachable := by
  have enrolled := Reachable.enrolled id email none none .community .empty rfl
  have assigned : Subscriber.assignCustomerId id p (some customerId)
      { subscribers := [(Subscriber.enrolled id email none none .community).stored] } =
      .ok (true, ofCustomer id email p customerId) := by
    cases p <;>
      simp [Subscriber.assignCustomerId, Database.subscriber?, Subscriber.enrolled,
        Subscriber.stored, Subscriber.customerId, Subscriber.setCustomerId, replace, ofCustomer,
        bind, Except.bind] <;>
      rfl
  exact enrolled.assigned id p (some customerId) assigned

/-- The store with one subscriber, whom both providers know by the same id. -/
def customerOfBoth : Database where
  subscribers :=
    (ofCustomer "u" "u@example.com" .stripe "cus").subscribers.map fun u =>
      u.setCustomerId .janua (some "cus")

theorem reachable_customerOfBoth : customerOfBoth.Reachable :=
  (reachable_ofCustomer "u" "u@example.com" .stripe "cus").assigned "u" .janua (some "cus") (by rfl)

theorem Reachable.run {db : Database} (h : db.Reachable) (arrivals : List Arrival) :
    (Arrival.run arrivals db).Reachable :=
  Arrival.run_induction (fun a _ hdb => hdb.arrived a) arrivals h

/-- The subscribers after a transition, whatever else it writes. -/
theorem Consistent.result {db : Database} (h : db.Consistent) {c : Context} {u : Subscriber}
    {t : Transition} (hp : t.Passes c u db) : (t.result c u db).Consistent where
  subscribers := by
    cases hch : t.change with
    | none => simpa only [Transition.result, hch, Option.elim_none] using h.subscribers
    | some ch =>
      simpa only [Transition.result, hch, Option.elim_some] using
        (h.amend (hp.change ch hch).2).subscribers
  ledger := by
    cases hpost : t.posting with
    | none => simpa [Transition.result, hpost] using h.ledger
    | some p =>
      obtain ⟨-, hfree, hamount⟩ := hp.posting p hpost
      obtain ⟨amount, hamount⟩ := Option.isSome_iff_exists.mp hamount
      have hentry := h.append_entry
        (e := { p with amount := amount, id := db.nextEntry, createdAt := c.moment }) hfree
      simpa only [Transition.result, hpost, Option.bind_some, Posting.entry?, hamount,
        Option.map_some, Option.toList_some] using hentry
  usage := h.usage

theorem Consistent.arrived {db : Database} (h : db.Consistent) (a : Arrival) :
    (a.after db).Consistent := by
  rcases a.after_cases db with hdb | ⟨u, hs⟩
  · rwa [hdb]
  · rw [Arrival.after_of_settles hs]
    exact h.result hs.passes

theorem Consistent.run {db : Database} (h : db.Consistent) (arrivals : List Arrival) :
    (Arrival.run arrivals db).Consistent :=
  Arrival.run_induction (fun a _ hdb => hdb.arrived a) arrivals h

theorem Consistent.enrolled {db after : Database} (h : db.Consistent) {u : Subscriber}
    (hw : u.add db = .ok ((), after)) : after.Consistent := by
  obtain ⟨mid, ha, hw⟩ := bind_eq_ok.mp hw
  obtain ⟨-, rfl⟩ := Prod.mk.inj (pure_eq_ok.mp hw)
  exact h.addSubscriber ha

theorem Consistent.assigned {db after : Database} (h : db.Consistent) {done : Bool} {id : String}
    {p : Provider} {customerId : Option String}
    (hw : Subscriber.assignCustomerId id p customerId db = .ok (done, after)) : after.Consistent := by
  rcases Subscriber.assignCustomerId_cases hw with ⟨-, rfl⟩ | ⟨-, u, -, -, hreplace⟩
  · exact h
  · exact h.replace hreplace

theorem Consistent.noted {db after : Database} (h : db.Consistent) {c : Context} {n : AuditNote}
    {entry : AuditEntry} (hw : n.log c db = .ok (entry, after)) : after.Consistent := by
  obtain ⟨-, hr⟩ := AuditNote.log_eq_ok.mp hw
  obtain ⟨-, rfl⟩ := Prod.mk.inj hr
  exact ⟨h.subscribers, h.ledger, h.usage⟩

theorem Consistent.booked {db after : Database} (h : db.Consistent) {c : Context} {p : Posting}
    {entry : LedgerEntry} (hw : p.book c db = .ok (entry, after)) : after.Consistent := by
  obtain ⟨-, hfree, e, hentry, hr⟩ := Posting.book_eq_ok.mp hw
  obtain ⟨-, rfl⟩ := Prod.mk.inj hr
  obtain ⟨amount, -, rfl⟩ := Option.map_eq_some_iff.mp hentry
  exact ⟨h.subscribers, h.append_entry hfree, h.usage⟩

theorem Consistent.counted {db after : Database} (h : db.Consistent) {k : CounterKey}
    {amount count : Int} (hw : k.increment amount db = .ok (count, after)) : after.Consistent := by
  obtain rfl := congrArg Prod.snd (CounterKey.increment_eq_ok.mp hw).2
  exact h.increment k amount

theorem Consistent.countedBelow {db after : Database} (h : db.Consistent) {k : CounterKey}
    {cap : Int} {count : Option Int} (hw : k.incrementBelow cap db = .ok (count, after)) :
    after.Consistent := by
  obtain rfl := congrArg Prod.snd (CounterKey.incrementBelow_eq_ok.mp hw).2
  exact h.incrementBelow k cap

/-- Whatever the service does, its store stays consistent. -/
theorem Reachable.consistent {db : Database} (h : db.Reachable) : db.Consistent := by
  induction h with
  | empty => exact .empty
  | enrolled id email name countryCode tier before written ih => exact ih.enrolled written
  | arrived a before ih => exact ih.arrived a
  | assigned id p customerId before written ih => exact ih.assigned written
  | noted c n before written ih => exact ih.noted written
  | counted k amount before written ih => exact ih.counted written
  | countedBelow k cap before written ih => exact ih.countedBelow written

end Database

/-- A notice of the broker about its customer `cus` and the subscription `sub`. -/
def Arrival.brokered (kind : EventKind) (type eventId : String) : Arrival where
  context := { settings := {}, now := 0 }
  event :=
    { provider := .janua, eventId := eventId, kind := kind, eventType := type
      customerId := some "cus", subscriptionId := some "sub", planSlug := some "pro" }

/-- The purchase of the subscription `sub` at the direct processor by its customer `cus`. -/
def Arrival.directPurchase : Arrival where
  context := { settings := {}, now := 0 }
  event :=
    { provider := .stripe, eventId := "evt_1", kind := .subscriptionCreated
      eventType := "customer.subscription.created", customerId := some "cus"
      subscriptionId := some "sub", planSlug := some "pro" }

end SubscriptionBilling
