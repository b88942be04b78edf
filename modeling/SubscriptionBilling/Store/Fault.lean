import SubscriptionBilling.Failure

/-! Disturbances of the store: where one strikes and what it does there. -/
namespace SubscriptionBilling

inductive FaultPoint where
  | duplicateCheck
  | ledgerWrite
  | subscriberWrite
  | auditWrite
  | session
  | scheduling
  deriving DecidableEq, Repr

inductive Disturbance where
  | storage
  | crash
  | hang
  deriving DecidableEq, Repr

/-- Work that hangs is ended by its deadline. -/
def Disturbance.failure : Disturbance → Failure
  | storage => .storage
  | crash => .crash
  | hang => .deadline

inductive Fault where
  | fails (point : FaultPoint) (disturbance : Disturbance)
  /-- The first duplicate check answers no, as if another delivery had been recorded just after
  it. -/
  | missedDuplicate
  /-- Of the work that is left to run by itself, the piece at a place does not start. -/
  | unstarted (place : Nat)
  deriving DecidableEq, Repr

/-- What a fault, if there is one, does at a point. -/
def Fault.strike (f : Option Fault) (p : FaultPoint) : Except Failure Unit :=
  match f with
  | some (.fails q d) => if q = p then .error d.failure else .ok ()
  | _ => .ok ()

end SubscriptionBilling
