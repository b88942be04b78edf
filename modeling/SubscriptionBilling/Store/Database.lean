import SubscriptionBilling.Audit.Entry
import SubscriptionBilling.Ledger.Entry
import SubscriptionBilling.Subscriber
import SubscriptionBilling.Usage.Counter

/-! The stored records, and transactions over them: a transaction that fails changes nothing. -/
namespace SubscriptionBilling

/-- Rows stand in the order in which they were added. -/
structure Database where
  subscribers : List Subscriber := []
  ledger : List LedgerEntry := []
  usage : List UsageCounter := []
  audit : List AuditEntry := []

/-- The number of the next row: one more than the largest so far. -/
def nextId (ids : List Nat) : Nat := ids.foldl max 0 + 1

abbrev Transaction := StateT Database (Except Failure)

namespace Transaction

/-- Reads from the store. -/
def query (f : Database → α) : Transaction α := fun db => .ok (f db, db)

/-- Runs a transaction; one that fails leaves the store as it was. -/
def attempt (t : Transaction α) (db : Database) : Except Failure α × Database :=
  match t db with
  | .ok (a, after) => (.ok a, after)
  | .error f => (.error f, db)

end Transaction
end SubscriptionBilling
