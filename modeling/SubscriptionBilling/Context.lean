import SubscriptionBilling.Settings
import SubscriptionBilling.Store.Fault

/-! The circumstances of a piece of work: the settings, the time, and what disturbs it. -/
namespace SubscriptionBilling

/-- `now` counts seconds since the start of 1970 in UTC. -/
structure Context where
  settings : Settings
  now : Int
  fault : Option Fault := none

namespace Context

def moment (c : Context) : Moment := Moment.ofSeconds c.now

def strike (c : Context) (p : FaultPoint) : Except Failure Unit := Fault.strike c.fault p

end Context
end SubscriptionBilling
