import SubscriptionBilling.Context
import SubscriptionBilling.Store.Database

/-! The ledger in the store. Entries are only ever added, and no notice is booked twice. -/
namespace SubscriptionBilling

namespace Database

def books (db : Database) (p : Provider) (eventId : String) : Bool :=
  db.ledger.any fun e => e.books p eventId

/-- Whether the ledger knows of the end of a subscription. -/
def cancels (db : Database) (p : Provider) (subscriptionId : String) : Bool :=
  db.ledger.any fun e => e.cancels p subscriptionId

/-- Later entries first; of one moment, those with the larger number. -/
def newerFirst (a b : LedgerEntry) : Bool :=
  b.createdAt.instant < a.createdAt.instant ||
    (b.createdAt.instant = a.createdAt.instant && b.id ≤ a.id)

/-- The newest entries of a subscriber; a negative limit does not limit them. -/
def history (db : Database) (subscriberId : String) (limit : Int) : List LedgerEntry :=
  let entries := (db.ledger.filter fun e => e.subscriberId = subscriberId).mergeSort newerFirst
  if limit < 0 then entries else entries.take limit.toNat

end Database

namespace Posting

/-- The entry that books a posting under a number. -/
def entry? (p : Posting) (id : Nat) (now : Moment) : Option LedgerEntry :=
  (bookedAmount? p.amount).map fun amount => { p with amount := amount, id := id, createdAt := now }

/-- Books a posting. -/
def book (c : Context) (p : Posting) : Transaction LedgerEntry := fun db => do
  c.strike .ledgerWrite
  if db.books p.provider p.eventId then throw .constraint
  match p.entry? (nextId (db.ledger.map fun e => e.id)) c.moment with
  | none => throw .invalidRecord
  | some e => return (e, { db with ledger := db.ledger ++ [e] })

end Posting

/-- Whether a notice is booked already; `first` marks the check that a fault may spoil. -/
def isBooked (c : Context) (first : Bool) (p : Provider) (eventId : String) :
    Transaction Bool := fun db => do
  c.strike .duplicateCheck
  if first && c.fault = some .missedDuplicate then return (false, db)
  return (db.books p eventId, db)

end SubscriptionBilling
