import SubscriptionBilling.Fields.Record
import SubscriptionBilling.Routing.Provider
import SubscriptionBilling.Store.Column

/-! The billing ledger: one entry for each notice of a provider that is booked. -/
namespace SubscriptionBilling

inductive EntryKind where
  | subscriptionCreated
  | subscriptionUpdated
  | subscriptionCancelled
  | paymentSucceeded
  | paymentFailed
  | refunded
  deriving DecidableEq, Repr, Inhabited

namespace EntryKind

def all : List EntryKind :=
  [subscriptionCreated, subscriptionUpdated, subscriptionCancelled, paymentSucceeded,
    paymentFailed, refunded]

def name : EntryKind → String
  | subscriptionCreated => "subscription_created"
  | subscriptionUpdated => "subscription_updated"
  | subscriptionCancelled => "subscription_cancelled"
  | paymentSucceeded => "payment_succeeded"
  | paymentFailed => "payment_failed"
  | refunded => "refunded"

def ofName? (s : String) : Option EntryKind := all.find? fun k => k.name = s

end EntryKind

inductive EntryStatus where
  | succeeded
  | failed
  deriving DecidableEq, Repr, Inhabited

namespace EntryStatus

def all : List EntryStatus := [succeeded, failed]

def name : EntryStatus → String
  | succeeded => "succeeded"
  | failed => "failed"

def ofName? (s : String) : Option EntryStatus := all.find? fun k => k.name = s

end EntryStatus

/-- What is to be booked. -/
structure Posting where
  subscriberId : String
  kind : EntryKind
  amount : Decimal
  currency : String
  status : EntryStatus
  provider : Provider
  eventId : String
  metadata : List (String × Json)

/-- What was booked, under its number and at its time. -/
structure LedgerEntry extends Posting where
  id : Nat
  createdAt : Moment

namespace Posting
open Fields

def ofFields (fs : List (String × Json)) : Parse Posting := do
  let subscriberId ← required fs "subscriber_id" text
  let kind ← required fs "type" (listed EntryKind.ofName?)
  let amount ← withDefault fs "amount" Decimal.zero shownDecimal
  let currency ← withDefault fs "currency" "USD" text
  let status ← withDefault fs "status" .succeeded (listed EntryStatus.ofName?)
  let provider ← required fs "provider" (listed Provider.ofName?)
  let eventId ← required fs "provider_event_id" text
  let metadata ← withDefault fs "event_metadata" [] object
  return ⟨subscriberId, kind, amount, currency, status, provider, eventId, metadata⟩

end Posting

namespace LedgerEntry

/-- Whether an entry books a notice of a provider. -/
def books (e : LedgerEntry) (p : Provider) (eventId : String) : Bool :=
  e.provider = p && e.eventId = eventId

def subscriptionText? (e : LedgerEntry) : Option String :=
  (e.metadata.lookup "subscription_id").bind Column.comparedText?

/-- Whether an entry books the end of a subscription. -/
def cancels (e : LedgerEntry) (p : Provider) (subscriptionId : String) : Bool :=
  e.provider = p && e.kind = .subscriptionCancelled && e.subscriptionText? = some subscriptionId

end LedgerEntry

/-- An amount as the ledger keeps it: the nearest number of 64 bits, to two places. A zero has no
sign; an amount out of reach is not kept. -/
def bookedAmount? (d : Decimal) : Option Decimal :=
  match Binary64.ofDecimal d with
  | .finite negative m e => (Binary64.finite (negative && m ≠ 0) m e).toCents?
  | _ => none

end SubscriptionBilling
