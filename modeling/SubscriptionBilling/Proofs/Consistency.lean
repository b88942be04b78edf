import Mathlib.Data.List.Pairwise
import SubscriptionBilling.Proofs.StoreWrites
import SubscriptionBilling.Store.Counters

/-! What the store keeps unique: the ids of subscribers, their ids with each provider, their
subscriptions, the notices that are booked and the keys of counters. Every write keeps it so, and
lookups in such a store find the one row there is. -/
namespace SubscriptionBilling

theorem meet_comm (x y : Option String) : meet x y = meet y x := by
  unfold meet
  by_cases h : x = y
  · rw [h]
  · simp [h, Ne.symm h]

theorem Subscriber.clashes_comm (u v : Subscriber) : u.clashes v = v.clashes u := by
  simp only [Subscriber.clashes, meet_comm u.stripeCustomerId, meet_comm u.januaCustomerId,
    meet_comm u.providerSubscriptionId]

/-- Two subscribers that do not clash hold different ids with a provider. -/
theorem Subscriber.customerId_ne {u v : Subscriber} (h : u.clashes v = false) (p : Provider)
    {id : String} (hu : u.customerId p = some id) : v.customerId p ≠ some id := by
  intro hv
  cases p <;> simp_all [Subscriber.clashes, Subscriber.customerId, meet]

namespace Database

structure Consistent (db : Database) : Prop where
  subscribers : db.subscribers.Pairwise fun u v => u.id ≠ v.id ∧ u.clashes v = false
  ledger : db.ledger.Pairwise fun e f => e.books f.provider f.eventId = false
  usage : db.usage.Pairwise fun a b => a.key ≠ b.key

theorem Consistent.empty : Consistent {} := ⟨.nil, .nil, .nil⟩

section Lookups

variable {db : Database} (h : db.Consistent)
include h

theorem Consistent.distinct {u v : Subscriber} (hu : u ∈ db.subscribers) (hv : v ∈ db.subscribers)
    (hne : u ≠ v) : u.id ≠ v.id ∧ u.clashes v = false := by
  have hsymm : Std.Symm fun u v : Subscriber => u.id ≠ v.id ∧ u.clashes v = false :=
    ⟨fun a b hab => ⟨hab.1.symm, (b.clashes_comm a).trans hab.2⟩⟩
  exact h.subscribers.forall hu hv hne

theorem Consistent.eq_of_id_eq {u v : Subscriber} (hu : u ∈ db.subscribers)
    (hv : v ∈ db.subscribers) (hid : u.id = v.id) : u = v := by
  by_contra hne
  exact (h.distinct hu hv hne).1 hid

theorem Consistent.eq_of_customerId {u v : Subscriber} {p : Provider} {id : String}
    (hu : u ∈ db.subscribers) (hv : v ∈ db.subscribers) (hui : u.customerId p = some id)
    (hvi : v.customerId p = some id) : u = v := by
  by_contra hne
  exact Subscriber.customerId_ne (h.distinct hu hv hne).2 p hui hvi

theorem Consistent.subscriber?_eq_some_iff {id : String} {u : Subscriber} :
    db.subscriber? id = some u ↔ u ∈ db.subscribers ∧ u.id = id := by
  constructor
  · exact fun hu => ⟨mem_of_subscriber? hu, id_of_subscriber? hu⟩
  · rintro ⟨hu, rfl⟩
    cases hf : db.subscriber? u.id with
    | none => exact absurd (List.find?_eq_none.mp hf u hu) (by simp)
    | some v => rw [h.eq_of_id_eq (mem_of_subscriber? hf) hu (id_of_subscriber? hf)]

theorem Consistent.subscriberOf?_eq_some_iff {p : Provider} {id : String} {u : Subscriber} :
    db.subscriberOf? p id = some u ↔ u ∈ db.subscribers ∧ u.customerId p = some id := by
  constructor
  · intro hu
    exact ⟨List.mem_of_find?_eq_some hu, by simpa using List.find?_some hu⟩
  · rintro ⟨hu, hid⟩
    cases hf : db.subscriberOf? p id with
    | none => exact absurd (List.find?_eq_none.mp hf u hu) (by simp [hid])
    | some v =>
      have hv : v.customerId p = some id := by simpa using List.find?_some hf
      rw [h.eq_of_customerId (List.mem_of_find?_eq_some hf) hu hv hid]

/-- In a consistent store a change meets the one row of its id. -/
theorem Consistent.subscribers_amend (id : String) (ch : SubscriberChange) :
    (db.amend id ch).subscribers =
      db.subscribers.map fun v => if v.id = id then ch.apply v else v := by
  cases hu : db.subscriber? id with
  | none =>
    have hno : ∀ v ∈ db.subscribers, v.id ≠ id := by
      intro v hv hid
      rw [h.subscriber?_eq_some_iff.mpr ⟨hv, hid⟩] at hu
      cases hu
    rw [amend_of_none hu]
    conv_lhs => rw [← List.map_id db.subscribers]
    exact List.map_congr_left fun v hv => (if_neg (hno v hv)).symm
  | some u =>
    have hrow : ∀ v ∈ db.subscribers, v.id = id → v = u := fun v hv hid =>
      h.eq_of_id_eq hv (mem_of_subscriber? hu) (hid.trans (id_of_subscriber? hu).symm)
    by_cases hch : ch = {}
    · rw [hch, amend_empty]
      simp
    · rw [amend_of_some hu hch]
      refine List.map_congr_left fun v hv => ?_
      split
      · next hid => rw [hrow v hv hid]
      · rfl

end Lookups

/-- A record keeps the store consistent when it clashes with no other one. -/
theorem Consistent.pairwise_map {db : Database} (h : db.Consistent) {u : Subscriber}
    (hno : ∀ v ∈ db.subscribers, v.id ≠ u.id → v.clashes u = false) :
    (db.subscribers.map fun v => if v.id = u.id then u else v).Pairwise
      fun v w => v.id ≠ w.id ∧ v.clashes w = false := by
  rw [List.pairwise_map]
  refine h.subscribers.imp_of_mem fun {v w} hv hw hvw => ?_
  by_cases hvu : v.id = u.id
  · have hwu : w.id ≠ u.id := fun hwu => hvw.1 (hvu.trans hwu.symm)
    rw [if_pos hvu, if_neg hwu]
    exact ⟨hwu.symm, (u.clashes_comm w).trans (hno w hw hwu)⟩
  · rw [if_neg hvu]
    by_cases hwu : w.id = u.id
    · rw [if_pos hwu]
      exact ⟨hvu, hno v hv hvu⟩
    · rw [if_neg hwu]
      exact hvw

theorem Consistent.replace {db after : Database} (h : db.Consistent) {u : Subscriber}
    (hr : db.replace u = .ok after) : after.Consistent := by
  obtain ⟨hno, rfl⟩ := replace_eq_ok.mp hr
  exact ⟨h.pairwise_map hno, h.ledger, h.usage⟩

theorem Consistent.amend {db : Database} (h : db.Consistent) {id : String} {ch : SubscriberChange}
    (admitted : db.Admits id ch) : (db.amend id ch).Consistent := by
  cases hu : db.subscriber? id with
  | none => rwa [amend_of_none hu]
  | some u =>
    by_cases hch : ch = {}
    · rwa [hch, amend_empty]
    · have hid : (ch.apply u).id = id := (ch.id_apply u).trans (id_of_subscriber? hu)
      have hreplace : db.replace (ch.apply u) = .ok (db.amend id ch) := by
        rw [replace_eq_ok, hid]
        exact ⟨(admitted hch u hu).2, amend_of_some hu hch⟩
      exact h.replace hreplace

theorem Consistent.addSubscriber {db after : Database} (h : db.Consistent) {u : Subscriber}
    (ha : db.addSubscriber u = .ok after) : after.Consistent := by
  obtain ⟨hfree, rfl⟩ := addSubscriber_eq_ok.mp ha
  refine ⟨List.pairwise_append.mpr ⟨h.subscribers, List.pairwise_singleton _ _, ?_⟩,
    h.ledger, h.usage⟩
  intro v hv w hw
  obtain rfl := List.mem_singleton.mp hw
  exact hfree v hv

/-- An entry that books what was not booked keeps the ledger free of repetitions. -/
theorem Consistent.append_entry {db : Database} (h : db.Consistent) {e : LedgerEntry}
    (hfree : db.books e.provider e.eventId = false) :
    (db.ledger ++ [e]).Pairwise fun e f => e.books f.provider f.eventId = false := by
  refine List.pairwise_append.mpr ⟨h.ledger, List.pairwise_singleton _ _, ?_⟩
  intro f hf g hg
  obtain rfl := List.mem_singleton.mp hg
  exact Bool.eq_false_iff.mpr (List.any_eq_false.mp hfree f hf)

theorem Consistent.addCounter {db : Database} (h : db.Consistent) {k : CounterKey} {count : Int}
    (hk : db.counter? k = none) : (db.addCounter k count).Consistent := by
  refine ⟨h.subscribers, h.ledger, ?_⟩
  refine List.pairwise_append.mpr ⟨h.usage, List.pairwise_singleton _ _, ?_⟩
  intro a ha b hb
  obtain rfl := List.mem_singleton.mp hb
  simpa using List.find?_eq_none.mp hk a ha

theorem Consistent.setCount {db : Database} (h : db.Consistent) {k : CounterKey} {count : Int} :
    (db.setCount k count).Consistent := by
  have hkey : ∀ c : UsageCounter, (if c.key = k then { c with count := count } else c).key = c.key := by
    intro c
    split <;> rfl
  refine ⟨h.subscribers, h.ledger, List.pairwise_map.mpr (h.usage.imp fun {a b} hab => ?_)⟩
  rwa [hkey a, hkey b]

theorem Consistent.increment {db : Database} (h : db.Consistent) (k : CounterKey) (amount : Int) :
    (db.increment k amount).2.Consistent := by
  unfold Database.increment
  split
  · next hk => exact h.addCounter hk
  · exact h.setCount

theorem Consistent.incrementBelow {db : Database} (h : db.Consistent) (k : CounterKey) (cap : Int) :
    (db.incrementBelow k cap).2.Consistent := by
  unfold Database.incrementBelow
  split
  · exact h
  · split
    · next hk => exact h.addCounter hk
    · split
      · exact h.setCount
      · exact h

end Database
end SubscriptionBilling
