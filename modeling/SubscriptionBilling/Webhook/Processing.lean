import SubscriptionBilling.Store.AuditTrail
import SubscriptionBilling.Store.Ledger
import SubscriptionBilling.Webhook.Transition

/-! Processing one event in one transaction. -/
namespace SubscriptionBilling

inductive Outcome where
  | processed
  | duplicate
  | unmapped
  | ignored
  deriving DecidableEq, Repr

def Outcome.name : Outcome → String
  | processed => "processed"
  | duplicate => "duplicate"
  | unmapped => "unmapped"
  | ignored => "ignored"

/-- The outcome of an event and the work it leaves. -/
structure Processed where
  outcome : Outcome
  tasks : List IdentityTask := []
  deriving DecidableEq, Repr

namespace ProviderEvent

/-- The subscriber that an event is about: a completed checkout names it, any other event goes by
the provider's id for it. -/
def subject? (e : ProviderEvent) (db : Database) : Option Subscriber :=
  match e.kind, filled e.subscriberId with
  | .checkoutCompleted, some id => db.subscriber? id
  | _, _ => (filled e.customerId).bind (db.subscriberOf? e.provider)

/-- Whether the ledger knows of the end of the subscription that an event names. -/
def hasEnded (e : ProviderEvent) (db : Database) : Bool :=
  match e.subscriptionId with
  | some id => db.cancels e.provider id
  | none => false

end ProviderEvent

/-- Carries out a transition: the record first, then the audit trail, then the ledger. -/
def Transition.write (c : Context) (u : Subscriber) (t : Transition) : Transaction Unit := do
  if let some ch := t.change then Subscriber.change c u.id ch
  if let some n := t.note then let _ ← n.log c
  if let some p := t.posting then let _ ← p.book c

namespace ProviderEvent

/-- The transaction of an event. An event that is booked already is dropped, and so is one about
nobody who is known. -/
def apply (c : Context) (e : ProviderEvent) : Transaction Processed := do
  if ← isBooked c true e.provider e.eventId then return ⟨.duplicate, []⟩
  match ← Transaction.query e.subject? with
  | none => return ⟨.unmapped, []⟩
  | some u =>
    let ended ← Transaction.query e.hasEnded
    let t := e.transition c.moment ended u
    t.write c u
    return ⟨.processed, t.tasks⟩

/-- No work is done when its time is up before it starts. -/
def limited (c : Context) (t : Transaction α) : Transaction α := fun db =>
  if c.settings.webhookDeadlineSeconds.isPositive then t db else .error .deadline

/-- Processes an event. When its booking turns out to exist, another delivery was first. -/
def process (c : Context) (e : ProviderEvent) (db : Database) :
    Except Failure Processed × Database :=
  let opened : Transaction Processed := fun db => do c.strike .session; e.apply c db
  match (limited c opened).attempt db with
  | (.error .constraint, db) =>
    match (isBooked c false e.provider e.eventId).attempt db with
    | (.ok true, db) => (.ok ⟨.duplicate, []⟩, db)
    | (.ok false, db) => (.error .constraint, db)
    | (.error f, db) => (.error f, db)
  | r => r

end ProviderEvent

/-- Whether the piece of work at a place starts. -/
def Context.start (c : Context) (place : Nat) : Except Failure Unit :=
  if c.fault = some (.unstarted place) then .error .crash else c.strike .scheduling

/-- The work that starts, one piece after the other from a place on. What does not start is passed
over. -/
def startedFrom (c : Context) (place : Nat) : List IdentityTask → List IdentityTask
  | [] => []
  | t :: rest =>
    match c.start place with
    | .ok _ => t :: startedFrom c (place + 1) rest
    | .error _ => startedFrom c (place + 1) rest

/-- The work that is left to run, as far as it starts. -/
def scheduled (c : Context) (p : Processed) : List IdentityTask := startedFrom c 0 p.tasks

end SubscriptionBilling
