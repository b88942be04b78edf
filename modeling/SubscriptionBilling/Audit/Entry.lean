import SubscriptionBilling.Json.Basic
import SubscriptionBilling.Time.Moment

/-! The audit trail of billing. -/
namespace SubscriptionBilling

inductive AuditAction where
  | upgradeInitiated
  | subscriptionActivated
  | subscriptionCancelled
  | paymentFailed
  deriving DecidableEq, Repr, Inhabited

namespace AuditAction

def all : List AuditAction :=
  [upgradeInitiated, subscriptionActivated, subscriptionCancelled, paymentFailed]

def name : AuditAction → String
  | upgradeInitiated => "BILLING_UPGRADE_INITIATED"
  | subscriptionActivated => "SUBSCRIPTION_ACTIVATED"
  | subscriptionCancelled => "SUBSCRIPTION_CANCELLED"
  | paymentFailed => "PAYMENT_FAILED"

def ofName? (s : String) : Option AuditAction := all.find? fun a => a.name = s

end AuditAction

inductive Severity where
  | low
  | medium
  | high
  deriving DecidableEq, Repr, Inhabited

namespace Severity

def all : List Severity := [low, medium, high]

def name : Severity → String
  | low => "low"
  | medium => "medium"
  | high => "high"

def ofName? (s : String) : Option Severity := all.find? fun a => a.name = s

end Severity

structure AuditNote where
  subscriberId : String
  action : AuditAction
  severity : Severity
  facts : List (String × Json)

structure AuditEntry extends AuditNote where
  id : Nat
  createdAt : Moment

/-- Fields with a value. -/
def withoutNulls (fields : List (String × Json)) : List (String × Json) :=
  fields.filter fun f => match f.2 with
    | .null => false
    | _ => true

end SubscriptionBilling
