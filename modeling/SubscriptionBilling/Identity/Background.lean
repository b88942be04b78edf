/-! Work that runs on its own until it ends or the time to wait for it is up. -/
namespace SubscriptionBilling

inductive Behaviour where
  | succeeds
  | fails
  | hangs
  deriving DecidableEq, Repr

inductive TaskEnd where
  | finished
  | failed
  | cancelled
  deriving DecidableEq, Repr

def TaskEnd.name : TaskEnd → String
  | finished => "finished"
  | failed => "failed"
  | cancelled => "cancelled"

/-- How a task ends: one that is cancelled before it starts never runs, one that hangs is cancelled
when the wait is over. -/
def Behaviour.ending (b : Behaviour) (cancelledBefore : Bool) : TaskEnd :=
  if cancelledBefore then .cancelled
  else
    match b with
    | succeeds => .finished
    | fails => .failed
    | hangs => .cancelled

end SubscriptionBilling
