import SubscriptionBilling.Catalog.Plan
import SubscriptionBilling.Settings

/-! Prices of the direct processor: the configured id for each paid tier and interval, amounts in
the smallest unit of a currency. -/
namespace SubscriptionBilling.Price

/-- All price ids in their order, an empty one meaning that none is configured. -/
def configured (s : Settings) : List (Tier × Interval × String) :=
  [(.essentials, .monthly, s.stripePriceIdEssentials),
    (.essentials, .yearly, s.stripePriceIdEssentialsYearly),
    (.pro, .monthly, s.stripePriceIdPro), (.pro, .yearly, s.stripePriceIdProYearly)]

def id? (s : Settings) (t : Tier) (i : Interval) : Option String :=
  ((configured s).find? fun p => p.1 = t && p.2.1 = i && !p.2.2.isEmpty).map fun p => p.2.2

/-- The tier that a price id stands for. -/
def tierOf? (s : Settings) (id : String) : Option Tier :=
  if id.isEmpty then none else ((configured s).find? fun p => p.2.2 = id).map fun p => p.1

/-- Currencies without a smaller unit. -/
def zeroDecimalCurrencies : List String :=
  ["bif", "clp", "djf", "gnf", "jpy", "kmf", "krw", "mga", "pyg", "rwf", "ugx", "vnd", "vuv",
    "xaf", "xof", "xpf"]

def defaultCurrency : String := "usd"

/-- The given currency, or the default one when it is missing or empty. -/
def currencyOr (fallback : String) (currency : Option String) : String :=
  match currency with
  | some c => if c.isEmpty then fallback else c
  | none => fallback

def isZeroDecimal (currency : Option String) : Bool :=
  zeroDecimalCurrencies.contains (Text.lower (currencyOr defaultCurrency currency))

/-- An amount in major units; the smallest unit is a hundredth, except where there is none. -/
def fromMinorUnits (amount : Option Int) (currency : Option String) : Decimal :=
  let n := amount.getD 0
  if isZeroDecimal currency then Decimal.ofInt n else Decimal.hundredths n

end SubscriptionBilling.Price
