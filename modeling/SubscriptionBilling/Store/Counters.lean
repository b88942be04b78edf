import SubscriptionBilling.Store.Column
import SubscriptionBilling.Store.Database

/-! Counters in the store, one for each key. A counter changes in one step: it is made when it is
missing and added to otherwise. -/
namespace SubscriptionBilling

namespace Database

def counter? (db : Database) (k : CounterKey) : Option UsageCounter :=
  db.usage.find? fun c => c.key = k

/-- The count under a key; a missing counter stands at zero. -/
def count (db : Database) (k : CounterKey) : Int := ((db.counter? k).map fun c => c.count).getD 0

/-- The counts of a subscriber on a day, for the features that were used. -/
def countsOn (db : Database) (subscriberId : String) (day : Date) : List (Feature × Int) :=
  (db.usage.filter fun c => c.key.subscriberId = subscriberId && c.key.date = day).map
    fun c => (c.key.feature, c.count)

def addCounter (db : Database) (k : CounterKey) (count : Int) : Database :=
  { db with usage := db.usage ++ [⟨nextId (db.usage.map fun c => c.id), k, count⟩] }

def setCount (db : Database) (k : CounterKey) (count : Int) : Database :=
  { db with usage := db.usage.map fun c => if c.key = k then { c with count := count } else c }

/-- Adds to a counter and answers with its new count. -/
def increment (db : Database) (k : CounterKey) (amount : Int) : Int × Database :=
  match db.counter? k with
  | none => (amount, db.addCounter k amount)
  | some c => (c.count + amount, db.setCount k (c.count + amount))

/-- Adds one to a counter that is below a cap. -/
def incrementBelow (db : Database) (k : CounterKey) (cap : Int) : Option Int × Database :=
  if cap ≤ 0 then (none, db)
  else
    match db.counter? k with
    | none => (some 1, db.addCounter k 1)
    | some c =>
      if c.count < cap then (some (c.count + 1), db.setCount k (c.count + 1)) else (none, db)

end Database

namespace CounterKey

def increment (k : CounterKey) (amount : Int) : Transaction Int := fun db => do
  Column.checkWhole amount
  return db.increment k amount

def incrementBelow (k : CounterKey) (cap : Int) : Transaction (Option Int) := fun db => do
  Column.checkWhole cap
  return db.incrementBelow k cap

end CounterKey
end SubscriptionBilling
