import SubscriptionBilling.Catalog.Tier
import SubscriptionBilling.Json.Reader
import SubscriptionBilling.Routing.Provider

/-! Everything that can go wrong in a call, as causes. Billing errors carry a text, a status and
facts about the cause for the caller; the others are known by their kind alone. -/
namespace SubscriptionBilling

inductive BillingError where
  | providerUnavailable (provider : Provider) (reason : String)
  | providerNotConfigured (provider : Provider) (missing : String)
  | alreadyAtOrAboveTier (current requested : Tier)
  | untrustedRedirect (returnUrl : Option String)
  | invalidSignature (provider : Provider) (reason : String)
  | webhookSecretMissing (provider : Provider)
  | subscriberNotFound (id : String)
  | noBillingAccount (id : String) (provider : Provider)
  | noActiveSubscription (id : String)
  | unknownPlan (slug : String)
  deriving DecidableEq, Repr

namespace BillingError

def message : BillingError → String
  | providerUnavailable p _ => "Payment provider " ++ p.name ++ " is unavailable"
  | providerNotConfigured p missing =>
    "Payment provider " ++ p.name ++ " is not configured: " ++ missing
  | alreadyAtOrAboveTier current _ => "Subscriber is already on the " ++ current.name ++ " tier"
  | untrustedRedirect _ => "return_url host is not allowed"
  | invalidSignature p _ => "Invalid " ++ p.name ++ " webhook signature"
  | webhookSecretMissing p => p.name ++ " webhook secret is not configured"
  | subscriberNotFound _ => "Subscriber not found"
  | noBillingAccount _ p => "No " ++ p.name ++ " billing account for this subscriber"
  | noActiveSubscription _ => "No active subscription to cancel"
  | unknownPlan slug => "Unknown plan: " ++ slug

def code : BillingError → String
  | providerUnavailable .. => "BILLING_PROVIDER_UNAVAILABLE"
  | providerNotConfigured .. => "BILLING_PROVIDER_NOT_CONFIGURED"
  | alreadyAtOrAboveTier .. => "BILLING_ALREADY_AT_OR_ABOVE_TIER"
  | untrustedRedirect .. => "BILLING_UNTRUSTED_REDIRECT"
  | invalidSignature .. => "BILLING_INVALID_SIGNATURE"
  | webhookSecretMissing .. => "BILLING_WEBHOOK_SECRET_MISSING"
  | subscriberNotFound .. => "BILLING_SUBSCRIBER_NOT_FOUND"
  | noBillingAccount .. => "BILLING_NO_CUSTOMER"
  | noActiveSubscription .. => "BILLING_NO_ACTIVE_SUBSCRIPTION"
  | unknownPlan .. => "BILLING_UNKNOWN_PLAN"

/-- The status a request is answered with. -/
def status : BillingError → Nat
  | providerUnavailable .. => 503
  | providerNotConfigured .. => 503
  | alreadyAtOrAboveTier .. => 409
  | untrustedRedirect .. => 400
  | invalidSignature .. => 400
  | webhookSecretMissing .. => 503
  | subscriberNotFound .. => 404
  | noBillingAccount .. => 404
  | noActiveSubscription .. => 404
  | unknownPlan .. => 400

def context : BillingError → Json
  | providerUnavailable p reason =>
    .object [("provider", .string p.name), ("reason", .string reason)]
  | providerNotConfigured p missing =>
    .object [("provider", .string p.name), ("missing", .string missing)]
  | alreadyAtOrAboveTier current requested =>
    .object [("current_tier", .string current.name), ("requested_tier", .string requested.name)]
  | untrustedRedirect url => .object [("return_url", Json.ofOption Json.string url)]
  | invalidSignature p reason =>
    .object [("provider", .string p.name), ("reason", .string reason)]
  | webhookSecretMissing p => .object [("provider", .string p.name)]
  | subscriberNotFound id => .object [("subscriber_id", .string id)]
  | noBillingAccount id p =>
    .object [("subscriber_id", .string id), ("provider", .string p.name)]
  | noActiveSubscription id => .object [("subscriber_id", .string id)]
  | unknownPlan slug => .object [("plan", .string slug)]

end BillingError

inductive Failure where
  | billing (error : BillingError)
  /-- The caller is turned away with a status; `challenge` asks for a bearer token. -/
  | refused (status : Nat) (detail : String) (challenge : Bool)
  | identityCall (message : String) (retryable : Bool)
  | invalidRecord
  | unknownName
  | timestampBeyondWord
  | timestampBeyondYearWord
  | timestampBeyondCalendar
  | mixedClocks
  | uncomparableSignature
  | missingAttribute
  | unreadableDocument (cause : Json.ReadError)
  | unreadableAddress
  | unusableKeySet
  | missingKeyPart
  | unsupportedKey
  | unsuitedSecret
  | unsuitedKey
  /-- Text with unpaired surrogates, or beyond ASCII in a header, cannot be sent or stored. -/
  | unencodable
  /-- Numbers that are not finite cannot be written. -/
  | unwritable
  | invalidAddress
  | relativeAddress
  /-- A value is not of the shape that it is used in. -/
  | wrongShape
  | beyondColumn
  | unstorable
  | constraint
  | storage
  | crash
  | deadline
  | aborted
  | unexpectedTransport
  deriving DecidableEq, Repr

end SubscriptionBilling
