import SubscriptionBilling.Proofs.ServiceWrites

/-! What the meter does to its counters. A use adds one to the counter of its key, which is made when it
is missing, and an attempt that is refused does nothing. -/
namespace SubscriptionBilling

namespace Database

/-- The rows of a counter. -/
def counters (db : Database) (k : CounterKey) : List UsageCounter :=
  db.usage.filter fun c => c.key = k

/-- A counter stands at a number: in one row, or in no row as long as it has not been used. -/
def StandsAt (db : Database) (k : CounterKey) (n : Nat) : Prop :=
  (db.counters k).map (·.count) = if n = 0 then [] else [(n : Int)]

variable {db after : Database} {k other : CounterKey}

theorem counter?_eq_head? (db : Database) (k : CounterKey) :
    db.counter? k = (db.counters k).head? := List.head?_filter.symm

theorem counters_addCounter (db : Database) (k other : CounterKey) (count : Int) :
    (db.addCounter k count).counters other =
      db.counters other ++ if k = other then [⟨nextId (db.usage.map fun c => c.id), k, count⟩] else [] := by
  simp only [addCounter, counters, List.filter_append, List.filter_cons, List.filter_nil,
    decide_eq_true_eq]

theorem counters_setCount (db : Database) (k other : CounterKey) (count : Int) :
    (db.setCount k count).counters other =
      (db.counters other).map fun c => if c.key = k then { c with count := count } else c := by
  have hkey : (fun c : UsageCounter => decide (c.key = other)) ∘
      (fun c => if c.key = k then { c with count := count } else c) =
      fun c => decide (c.key = other) := by
    funext c
    by_cases hc : c.key = k <;> simp [hc]
  simp only [setCount, counters, List.filter_map, hkey]

/-- Every other counter stays as it is, row by row. -/
theorem counters_increment_of_ne (h : other ≠ k) (amount : Int) :
    (db.increment k amount).2.counters other = db.counters other := by
  unfold increment
  split
  · rw [counters_addCounter, if_neg h.symm, List.append_nil]
  · rw [counters_setCount]
    conv_rhs => rw [← List.map_id (db.counters other)]
    refine List.map_congr_left fun c hc => if_neg ?_
    have hkey : c.key = other := by simpa [counters] using (List.mem_filter.mp hc).2
    rwa [hkey]

theorem StandsAt.count {n : Nat} (h : db.StandsAt k n) : db.count k = n := by
  unfold StandsAt at h
  have hhead : (db.counter? k).map (·.count) = if n = 0 then none else some (n : Int) := by
    rw [counter?_eq_head?, ← List.head?_map, h]
    split <;> rfl
  rw [Database.count, hhead]
  split
  · next hn => rw [hn]; rfl
  · rfl

/-- A use of its own moves a counter on by one. -/
theorem StandsAt.increment {n : Nat} (h : db.StandsAt k n) :
    (db.increment k 1).2.StandsAt k (n + 1) := by
  have hcount := h.count
  unfold StandsAt at h ⊢
  unfold Database.increment
  rw [if_neg n.succ_ne_zero]
  cases hrow : db.counter? k with
  | none =>
    have hnone : db.counters k = [] := List.head?_eq_none_iff.mp (counter?_eq_head? db k ▸ hrow)
    have hzero : n = 0 := by
      by_contra hn
      rw [hnone, if_neg hn] at h
      cases h
    rw [counters_addCounter, if_pos rfl, hnone, hzero]
    rfl
  | some c =>
    rw [Database.count, hrow] at hcount
    have hrows : db.counters k = [c] := by
      have hhead : (db.counters k).head? = some c := counter?_eq_head? db k ▸ hrow
      obtain ⟨rest, hrest⟩ := List.head?_eq_some_iff.mp hhead
      rw [hrest] at h ⊢
      split at h
      · cases h
      · rw [List.map_eq_nil_iff.mp (List.cons.inj h).2]
    have hkey : c.key = k := by simpa using List.find?_some hrow
    have hc : c.count = n := by simpa using hcount
    rw [counters_setCount, hrows]
    simp [hkey, hc]

theorem StandsAt.of_empty (h : db.usage = []) : db.StandsAt k 0 := by
  rw [StandsAt, counters, h]
  rfl

theorem StandsAt.congr {n : Nat} (h : db.StandsAt k n) (rows : after.counters k = db.counters k) :
    after.StandsAt k n := by
  rwa [StandsAt, rows]

/-- Below its cap a counter is added to, and at it nothing happens. -/
theorem incrementBelow_eq (db : Database) (k : CounterKey) (cap : Int) :
    db.incrementBelow k cap =
      if 0 < cap ∧ db.count k < cap then (some (db.increment k 1).1, (db.increment k 1).2)
      else (none, db) := by
  unfold incrementBelow increment Database.count
  by_cases hcap : cap ≤ 0
  · rw [if_pos hcap, if_neg (by omega)]
  · rw [if_neg hcap]
    cases db.counter? k with
    | none => simp [show 0 < cap by omega]
    | some c => by_cases hbelow : c.count < cap <;> simp [hbelow, show 0 < cap by omega]

theorem fst_increment (db : Database) (k : CounterKey) (amount : Int) :
    (db.increment k amount).1 = db.count k + amount := by
  unfold increment Database.count
  cases db.counter? k <;> simp

end Database

namespace Service
variable {c : Context}

/-- With the store at hand a transaction goes through as such. -/
theorem commit_of_opened (opened : c.strike .session = .ok ()) {t : Transaction α} {w : World} {a : α}
    {after : Database} (h : t w.database = .ok (a, after)) :
    commit c t w = (.ok a, { w with database := after }) := by
  simp only [commit, opened, Transaction.attempt, h]

theorem read_of_opened (opened : c.strike .session = .ok ()) (f : Database → α) (w : World) :
    read c f w = (.ok (f w.database), w) := commit_of_opened opened rfl

end Service

namespace Subscription
variable {c : Context} {id : String} {w : World}

theorem require_of_some (opened : c.strike .session = .ok ()) {u : Subscriber}
    (h : w.database.subscriber? id = some u) : require c id w = (.ok u, w) := by
  rw [require, bind_of_ok (Service.read_of_opened opened _ w), h]
  rfl

theorem require_of_none (opened : c.strike .session = .ok ())
    (h : w.database.subscriber? id = none) :
    require c id w = (.error (.billing (.subscriberNotFound id)), w) := by
  rw [require, bind_of_ok (Service.read_of_opened opened _ w), h]
  rfl

end Subscription

namespace Meter
variable {c : Context} {id : String} {w : World} {f : Feature}

/-- The counter of a use on the present day. -/
def keyOf (c : Context) (id : String) (f : Feature) : CounterKey := ⟨id, f, today c⟩

/-- Caps are small. -/
theorem checkWhole_capOf {t : Tier} {cap : Int} (h : capOf t f = some cap) :
    Column.checkWhole cap = .ok () := by
  cases t <;> cases f <;> revert h <;> rintro ⟨⟩ <;> decide +kernel

theorem record_of_opened (opened : c.strike .session = .ok ()) (id : String) (f : Feature) (w : World) :
    record c id f w = (.ok (w.database.increment (keyOf c id f) 1).1,
      { w with database := (w.database.increment (keyOf c id f) 1).2 }) :=
  Service.commit_of_opened opened (CounterKey.increment_eq_ok.mpr ⟨by decide +kernel, rfl⟩)

/-- The answer to an attempt to use a feature, from the count before it and the cap. -/
def verdict (f : Feature) (count : Int) : Option Int → Consumption
  | none => ⟨true, f, count + 1, none⟩
  | some cap =>
    if 0 < cap ∧ count < cap then ⟨true, f, count + 1, some cap⟩ else ⟨false, f, count, some cap⟩

theorem takeBelow_of_opened (opened : c.strike .session = .ok ()) (k : CounterKey) {cap : Int}
    (fits : Column.checkWhole cap = .ok ()) (w : World) :
    takeBelow c k cap w =
      if 0 < cap ∧ w.database.count k < cap then
        (.ok (some (w.database.increment k 1).1),
          { w with database := (w.database.increment k 1).2 })
      else (.ok none, w) := by
  unfold takeBelow
  by_cases hcap : cap ≤ 0
  · rw [if_pos hcap, if_neg (by omega)]
    rfl
  · rw [if_neg hcap, Service.commit_of_opened opened
      (CounterKey.incrementBelow_eq_ok.mpr ⟨fits, Prod.eta _⟩), Database.incrementBelow_eq]
    split <;> rfl

theorem consume_of_none (opened : c.strike .session = .ok ())
    (h : w.database.subscriber? id = none) (f : Feature) :
    consume c id f w = (.error (.billing (.subscriberNotFound id)), w) := by
  have htier : tierOf c id w = (.error (.billing (.subscriberNotFound id)), w) :=
    bind_of_error (Subscription.require_of_none opened h)
  exact bind_of_error htier

/-- An attempt that is allowed is a use, and one that is refused is nothing. -/
theorem consume_of_some (opened : c.strike .session = .ok ()) {u : Subscriber}
    (h : w.database.subscriber? id = some u) (f : Feature) :
    consume c id f w =
      let answer := verdict f (w.database.count (keyOf c id f)) (capOf u.tier f)
      (.ok answer, if answer.allowed
        then { w with database := (w.database.increment (keyOf c id f) 1).2 } else w) := by
  have htier : tierOf c id w = (.ok u.tier, w) :=
    bind_of_ok (Subscription.require_of_some opened h)
  unfold consume
  rw [bind_of_ok htier]
  cases hcap : capOf u.tier f with
  | none =>
    refine (bind_of_ok (record_of_opened opened id f w)).trans ?_
    rw [Database.fst_increment]
    rfl
  | some cap =>
    have htake := takeBelow_of_opened opened (keyOf c id f) (checkWhole_capOf hcap) w
    unfold verdict
    split at htake
    · next hbelow =>
      refine (bind_of_ok htake).trans ?_
      simp only [if_pos hbelow, Database.fst_increment]
      rfl
    · next hfull =>
      refine (bind_of_ok htake).trans ?_
      simp only [if_neg hfull]
      exact bind_of_ok (Service.read_of_opened opened _ w)

end Meter
end SubscriptionBilling
