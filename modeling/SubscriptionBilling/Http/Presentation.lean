import SubscriptionBilling.Catalog.Offer
import SubscriptionBilling.Usage.Meter

/-! Results as the documents that responses carry. -/
namespace SubscriptionBilling.Http

def textOrNull : Option String → Json := Json.ofOption Json.string

def momentOrNull : Option Moment → Json := Json.ofOption fun m => .string m.text

def checkoutDocument (r : CheckoutResult) : Json :=
  .object
    [("checkoutUrl", .string r.url), ("provider", .string r.provider),
      ("sessionId", .string r.sessionId)]

def statusDocument (s : SubscriptionStatus) : Json :=
  .object
    [("tier", .string s.tier.name), ("startedAt", momentOrNull s.startedAt),
      ("expiresAt", momentOrNull s.expiresAt), ("isActive", .bool s.isActive),
      ("billingProvider", textOrNull (s.billingProvider.map Provider.name)),
      ("upstreamProvider", textOrNull s.upstreamProvider)]

def cancellationMessage : String := "Cancellation requested; access continues until the period ends"

def cancellationDocument (r : CancellationRequest) : Json :=
  .object
    [("subscriptionId", .string r.subscriptionId), ("provider", .string r.provider),
      ("cancelAtPeriodEnd", .bool true), ("message", .string cancellationMessage)]

def entryDocument (e : LedgerEntry) : Json :=
  .object
    [("id", .int e.id), ("type", .string e.kind.name), ("amount", .string e.amount.text),
      ("currency", .string e.currency), ("status", .string e.status.name),
      ("provider", .string e.provider.name), ("createdAt", .string e.createdAt.text),
      ("metadata", .object e.metadata)]

def historyDocument (entries : List LedgerEntry) : Json :=
  .object [("events", .array (entries.map entryDocument))]

def usageDocument (s : UsageSummary) : Json :=
  .object
    [("tier", .string s.tier.name), ("usageDate", .string s.date.text),
      ("usage", .object (s.features.map fun u =>
        (u.feature.name, .object [("used", .int u.used), ("limit", .int u.limit)])))]

def offerDocument (o : Offer) : Json :=
  .object
    [("id", .string o.tier.name), ("name", .string o.tier.title), ("tier", .string o.tier.name),
      ("price", .string o.price.text), ("currency", .string o.currency),
      ("interval", .string "month"), ("features", .array (o.features.map Json.string))]

def offersDocument (offers : List Offer) : Json :=
  .object [("plans", .array (offers.map offerDocument))]

def countOrNull : Option Nat → Json := Json.ofOption fun n => .int n

def limitsDocument (t : Tier) : Json :=
  let l := t.limits
  .object
    [("tier", .string t.name),
      ("dailyCaps", .object (Feature.all.map fun f => (f.name, .int (shownCap (t.dailyCap f))))),
      ("maxSpaces", .int l.maxSpaces),
      ("maxProviderConnections", countOrNull l.maxProviderConnections),
      ("allowedProviders",
        Json.ofOption (fun ps => .array (ps.map Json.string)) l.allowedProviders),
      ("mlCategorization", .bool l.mlCategorization),
      ("monteCarloMaxIterations", .int l.monteCarloMaxIterations),
      ("monteCarloMaxScenarios", .int l.monteCarloMaxScenarios),
      ("storageBytes", .int l.storageBytes), ("lifeBeat", .bool l.lifeBeat),
      ("householdViews", .bool l.householdViews),
      ("collectiblesValuation", .bool l.collectiblesValuation)]

end SubscriptionBilling.Http
