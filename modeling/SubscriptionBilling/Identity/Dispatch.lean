import SubscriptionBilling.Identity.Client
import SubscriptionBilling.Identity.Retry
import SubscriptionBilling.Payment.Gateway

/-! Passing purchases on to the identity system, as work that runs on its own and tells nobody when
it fails. -/
namespace SubscriptionBilling
open Identity

structure Dispatcher where
  settings : Settings
  now : Moment
  productRoles : List (String × String)
  maxAttempts : Nat
  longestWait : Rat

namespace Dispatcher

/-- The roles that products grant unless others are given. -/
def defaultRoles : List (String × String) := [("prod_foundry", "foundry_tier")]

def defaultLongestWait : Rat := 8

/-- Zero attempts stand for those of the settings; one attempt is always made. -/
def make (s : Settings) (now : Moment) (productRoles : Option (List (String × String)))
    (maxAttempts : Option Int) (longestWait : Option Rat) : Dispatcher :=
  let given := maxAttempts.getD 0
  let n := if given = 0 then s.identityDispatchMaxAttempts else given
  ⟨s, now, productRoles.getD defaultRoles, max 1 n.toNat, longestWait.getD defaultLongestWait⟩

def ofSettings (s : Settings) (now : Moment) : Dispatcher := make s now none none none

/-- The role that a product grants; an empty product id is none. -/
def roleFor (d : Dispatcher) (product : Option String) : Option String :=
  match product with
  | some p => if p.isEmpty then none else d.productRoles.lookup p
  | none => none

def retrying (d : Dispatcher) (work : String) (call : Online Unit) : Online Unit :=
  Retry.attempt work d.longestWait call 0 d.maxAttempts

/-- Grants the role of a product. No role, or no way to reach the identity system, means no
call. -/
def upgradeRole (d : Dispatcher) (work user : String) (product : Option String) : Online Unit :=
  match d.roleFor product with
  | none => return
  | some role =>
    if role.isEmpty || !canGrantRoles d.settings then return
    else d.retrying work (addRole d.settings user role)

/-- The product in an answer about a session. Without an answer there is none; one that is a list or
an object cannot be looked up. -/
def productId : Except Failure Json → Except Failure (Option String)
  | .ok (.string id) => .ok (some id)
  | .ok (.array items) => if items.isEmpty then .ok none else .error .wrongShape
  | .ok (.object fields) => if fields.isEmpty then .ok none else .error .wrongShape
  | _ => .ok none

/-- Grants the role of the product that a checkout session sold. -/
def upgradeRoleForCheckout (d : Dispatcher) (work user session : String) (p : Provider) :
    Online Unit := do
  let product ← (Payment.checkoutProduct d.settings p session).outcome
  d.upgradeRole work user (← productId product)

def notifyTier (d : Dispatcher) (work organization customer : String) (plan : Option String) :
    Online Unit :=
  if canNotify d.settings then
    d.retrying work (notify d.settings d.now organization customer plan)
  else return

end Dispatcher

/-- Work for the identity system that is left to run by itself. -/
inductive IdentityTask where
  | tierNotification (organization customer : String) (plan : Option String)
  | roleUpgrade (user : String) (product : Option String)
  | checkoutRoleUpgrade (user session : String) (provider : Provider)
  deriving DecidableEq, Repr

namespace IdentityTask

def name : IdentityTask → String
  | tierNotification organization _ _ => "identity-tier-notification-" ++ organization
  | roleUpgrade user _ => "identity-role-upgrade-" ++ user
  | checkoutRoleUpgrade user _ _ => "identity-role-upgrade-" ++ user

def run (d : Dispatcher) (t : IdentityTask) : Online Unit :=
  match t with
  | tierNotification organization customer plan => d.notifyTier t.name organization customer plan
  | roleUpgrade user product => d.upgradeRole t.name user product
  | checkoutRoleUpgrade user session p => d.upgradeRoleForCheckout t.name user session p

end IdentityTask
end SubscriptionBilling
