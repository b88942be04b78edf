import SubscriptionBilling.Network.Basic

/-! Trying again, with waits that double up to a longest one. -/
namespace SubscriptionBilling.Retry

/-- The wait after the `n`-th failed attempt: half a second, doubled each time, up to the longest
one; a longest wait below zero stands for none. -/
def wait (longest : Rat) (n : Nat) : Rat :=
  let doubled := mkRat (twoTo (n - 1)) 2
  if longest < doubled then (if longest.num < 0 then 0 else longest) else doubled

def isRetryable : Failure → Bool
  | .identityCall _ retryable => retryable
  | _ => false

/-- Attempts a call after `done` failed attempts and at most `left` times more; the last failure is
let go. -/
def attempt (work : String) (longest : Rat) (call : Online Unit) (done : Nat) : Nat → Online Unit
  | 0 => return
  | left + 1 => do
    match ← call.outcome with
    | .ok _ => return
    | .error f =>
      if isRetryable f && left ≠ 0 then
        Online.pause work (wait longest (done + 1))
        attempt work longest call (done + 1) left

end SubscriptionBilling.Retry
