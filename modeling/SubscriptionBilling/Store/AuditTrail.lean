import SubscriptionBilling.Context
import SubscriptionBilling.Store.Database

/-! The audit trail in the store. Entries are only ever added. -/
namespace SubscriptionBilling

/-- Adds a note; facts without a value are left out. -/
def AuditNote.log (c : Context) (n : AuditNote) : Transaction AuditEntry := fun db => do
  c.strike .auditWrite
  let e : AuditEntry :=
    { n with
      facts := withoutNulls n.facts
      id := nextId (db.audit.map fun e => e.id)
      createdAt := c.moment }
  return (e, { db with audit := db.audit ++ [e] })

def Database.auditOf (db : Database) (subscriberId : String) : List AuditEntry :=
  db.audit.filter fun e => e.subscriberId = subscriberId

end SubscriptionBilling
