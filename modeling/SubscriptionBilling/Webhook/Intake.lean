import SubscriptionBilling.Service.Basic
import SubscriptionBilling.Webhook.Delivery
import SubscriptionBilling.Webhook.Processing
import SubscriptionBilling.Webhook.Signature

/-! Deliveries from end to end. A provider delivers again whatever is not received, so only what may
be different the next time is answered that way. -/
namespace SubscriptionBilling

inductive Receipt where
  | secretMissing
  | invalidSignature
  | invalidPayload
  | handled (outcome : Outcome)
  | deadlinePassed
  | storageUnavailable
  | processingFailed
  deriving DecidableEq, Repr

namespace Receipt

def error? : Receipt → Option String
  | secretMissing => some "webhook secret not configured"
  | invalidSignature => some "invalid signature"
  | invalidPayload => some "invalid payload"
  | handled _ => none
  | deadlinePassed => some "processing deadline exceeded"
  | storageUnavailable => some "storage unavailable"
  | processingFailed => some "processing failed"

/-- Whether the delivery is taken, for good or ill. -/
def received : Receipt → Bool
  | invalidSignature => true
  | invalidPayload => true
  | handled _ => true
  | _ => false

def status (r : Receipt) : Nat := if r.received then 200 else 503

def body (r : Receipt) : Json :=
  .object (("received", .bool r.received) ::
    match r with
    | handled o => [("status", .string o.name)]
    | _ => [("error", Json.ofOption Json.string r.error?)])

end Receipt

namespace Delivery

/-- The answer when processing fails. -/
def failed : Failure → Receipt
  | .deadline => .deadlinePassed
  | .storage => .storageUnavailable
  | .constraint => .storageUnavailable
  | _ => .processingFailed

/-- What is known of a delivery before it is processed: an answer, or the event in it. A time that
does not fit its type is no matter of the payload. -/
def read (c : Context) (v : Signature.Verifier) (p : Provider) (body : List UInt8)
    (signature : Option String) : Except Failure (Receipt ⊕ ProviderEvent) :=
  match v.verify c.now p body signature with
  | .error .secretMissing => .ok (.inl .secretMissing)
  | .error .uncomparable => .error .uncomparableSignature
  | .error _ => .ok (.inl .invalidSignature)
  | .ok _ =>
    match event? c.settings p body with
    | .error .invalidRecord => .ok (.inl .invalidPayload)
    | .error .timestampBeyondCalendar => .ok (.inl .invalidPayload)
    | .error f => .error f
    | .ok none => .ok (.inl (.handled .ignored))
    | .ok (some e) => .ok (.inr e)

/-- Takes a delivery: its answer, the work it leaves, and the store afterwards. -/
def receive (c : Context) (v : Signature.Verifier) (p : Provider) (body : List UInt8)
    (signature : Option String) (db : Database) :
    Except Failure (Receipt × List IdentityTask) × Database :=
  match read c v p body signature with
  | .error f => (.error f, db)
  | .ok (.inl r) => (.ok (r, []), db)
  | .ok (.inr e) =>
    match e.process c db with
    | (.ok r, db) => (.ok (.handled r.outcome, scheduled c r), db)
    | (.error f, db) => (.ok (failed f, []), db)

end Delivery

/-- Runs work that was left to itself, one piece after the other; the pieces tell nobody how they
end. -/
def runTasks (c : Context) : List IdentityTask → Online Unit
  | [] => return
  | t :: rest => do
    let _ ← (t.run (Dispatcher.ofSettings c.settings c.moment)).outcome
    runTasks c rest

/-- Processes an event and runs the work it leaves. -/
def ProviderEvent.handle (c : Context) (e : ProviderEvent) : Service Outcome := fun w =>
  match e.process c w.database with
  | (.error f, db) => (.error f, { w with database := db })
  | (.ok r, db) =>
    (do Service.online (runTasks c (scheduled c r)); return r.outcome : Service Outcome)
      { w with database := db }

/-- Takes a delivery and runs the work it leaves. -/
def Delivery.handle (c : Context) (v : Signature.Verifier) (p : Provider) (body : List UInt8)
    (signature : Option String) : Service Receipt := fun w =>
  match receive c v p body signature w.database with
  | (.error f, db) => (.error f, { w with database := db })
  | (.ok (r, tasks), db) =>
    (do Service.online (runTasks c tasks); return r : Service Receipt) { w with database := db }

end SubscriptionBilling
