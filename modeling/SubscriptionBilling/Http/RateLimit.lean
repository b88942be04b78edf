/-! Limits on how often a client may call a resource. A window starts with the first call that is
counted and covers a fixed time; calls over the limit are counted too. -/
namespace SubscriptionBilling.Http

structure RateRule where
  calls : Nat
  seconds : Int
  text : String
  deriving DecidableEq, Repr

def RateRule.perMinute (calls : Nat) : RateRule := ⟨calls, 60, Nat.repr calls ++ " per 1 minute"⟩

structure Window where
  client : String
  resource : String
  start : Int
  count : Nat
  deriving DecidableEq, Repr

namespace Window

def isOf (w : Window) (client resource : String) : Bool :=
  w.client = client && w.resource = resource

end Window

/-- The window of a client and resource that is open at a time. -/
def openWindow? (ws : List Window) (rule : RateRule) (now : Int) (client resource : String) :
    Option Window :=
  ws.find? fun w => w.isOf client resource && now < w.start + rule.seconds

/-- Counts a call and says whether it is within the limit. -/
def countCall (ws : List Window) (rule : RateRule) (now : Int) (client resource : String) :
    Bool × List Window :=
  let w := (openWindow? ws rule now client resource).getD ⟨client, resource, now, 0⟩
  let counted := { w with count := w.count + 1 }
  (counted.count ≤ rule.calls, counted :: ws.filter fun v => !v.isOf client resource)

end SubscriptionBilling.Http
