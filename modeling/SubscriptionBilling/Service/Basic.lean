import SubscriptionBilling.Context
import SubscriptionBilling.Network.Basic
import SubscriptionBilling.Store.Database

/-! Work that uses the store and calls other systems. Each use of the store is a transaction of its
own, so no transaction waits for a call. Key sets are kept once they were fetched. -/
namespace SubscriptionBilling

/-- `keySets` are the key sets that were fetched last, by the addresses they came from. -/
structure World where
  database : Database := {}
  network : Network := {}
  keySets : List (String × Json) := []

/-- The most key sets that are kept. -/
def World.maxKeySets : Nat := 4

def World.keepKeySet (w : World) (url : String) (set : Json) : World :=
  { w with keySets := ((url, set) :: w.keySets.filter fun s => s.1 ≠ url).take maxKeySets }

abbrev Service := ExceptT Failure (StateM World)

namespace Service

/-- Runs a transaction and keeps what it changes, if it succeeds. -/
def commit (c : Context) (t : Transaction α) : Service α := fun w =>
  match c.strike .session with
  | .error f => (.error f, w)
  | .ok _ =>
    let (r, db) := t.attempt w.database
    (r, { w with database := db })

def read (c : Context) (f : Database → α) : Service α := commit c (Transaction.query f)

def online (x : Online α) : Service α := fun w =>
  let (r, n) := x w.network
  (r, { w with network := n })

/-- Work whose changes of the store are all undone when it fails. -/
def atomically (c : Context) (x : Service α) : Service α := fun w =>
  match c.strike .session with
  | .error f => (.error f, w)
  | .ok _ =>
    match x w with
    | (.ok a, after) => (.ok a, after)
    | (.error f, after) => (.error f, { after with database := w.database })

/-- Work whose failure is let go. -/
def besides (x : Service Unit) : Service Unit := fun w =>
  let (_, w) := x w
  (.ok (), w)

end Service
end SubscriptionBilling
