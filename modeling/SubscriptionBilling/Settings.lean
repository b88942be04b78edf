import SubscriptionBilling.Fields.Record
import SubscriptionBilling.Json.Reader
import SubscriptionBilling.Text.CaseMap

/-! The settings of the service, their defaults, and reading them from environment variables. -/
namespace SubscriptionBilling

inductive Environment where
  | local
  | dev
  | staging
  | production
  deriving DecidableEq, Repr, Inhabited

namespace Environment

def all : List Environment := [.local, dev, staging, production]

def name : Environment → String
  | .local => "local"
  | dev => "dev"
  | staging => "staging"
  | production => "production"

def ofName? (s : String) : Option Environment := all.find? fun e => e.name = s

end Environment

structure Settings where
  environment : Environment := .local
  appName : String := "Billing Engine"
  apiVersion : String := "1.0.0"
  debug : Bool := false
  dbUser : String := "billing"
  dbPassword : String := "billing"
  dbHost : String := "localhost"
  dbPort : Int := 5432
  dbName : String := "billing"
  dbPoolSize : Int := 10
  dbPoolOverflow : Int := 5
  otelServiceName : String := "billing-engine"
  otelServiceVersion : String := "1.0.0"
  axiomToken : Option String := none
  axiomDataset : Option String := none
  rateLimitStorageUri : String := "memory://"
  webUrl : String := "http://localhost:3000"
  authJwtSecret : String := ""
  authJwksUrl : Option String := none
  authIssuer : Option String := none
  authAudience : Option String := none
  stripeSecretKey : String := ""
  stripeWebhookSecret : String := ""
  stripeWebhookToleranceSeconds : Int := 300
  stripePriceIdEssentials : String := ""
  stripePriceIdEssentialsYearly : String := ""
  stripePriceIdPro : String := ""
  stripePriceIdProYearly : String := ""
  stripeFoundryProductId : String := "prod_foundry"
  januaApiUrl : String := ""
  januaApiKey : String := ""
  januaBillingEnabled : Bool := true
  januaWebhookSecret : String := ""
  januaAdminKey : String := ""
  tierNotificationSecret : String := ""
  defaultCountryCode : String := "US"
  directBillingProducts : List String := []
  checkoutAllowedHostSuffixes : List String := [".madfam.io", ".dhan.am", ".enclii.com"]
  providerTimeoutSeconds : Binary64 := Binary64.ofQuotient false 10 1
  webhookDeadlineSeconds : Binary64 := Binary64.ofQuotient false 8 1
  identityDispatchTimeoutSeconds : Binary64 := Binary64.ofQuotient false 5 1
  identityDispatchMaxAttempts : Int := 3

namespace Settings
open Fields

def databaseUrl (s : Settings) : String :=
  "postgresql://" ++ s.dbUser ++ ":" ++ s.dbPassword ++ "@" ++ s.dbHost ++ ":" ++
    toString s.dbPort ++ "/" ++ s.dbName

/-- The broker can be used only when it is enabled and has a key. -/
def federatedBillingEnabled (s : Settings) : Bool := s.januaBillingEnabled && !s.januaApiKey.isEmpty

def isProduction (s : Settings) : Bool := s.environment = .production

def originsOf : Environment → List String
  | .local => ["http://localhost:3000", "http://localhost:3001"]
  | _ => ["https://app.dhan.am", "https://admin.dhan.am"]

def corsAllowedOrigins (s : Settings) : List String := originsOf s.environment

def texts (v : Json) : Parse (List String) := do (← items v).mapM text

/-- Sets the setting of a name; other names are ignored. -/
def assign (s : Settings) (name : String) (v : Json) : Parse Settings :=
  match name with
  | "environment" => (listed Environment.ofName? v).map ({ s with environment := · })
  | "app_name" => (text v).map ({ s with appName := · })
  | "api_version" => (text v).map ({ s with apiVersion := · })
  | "debug" => (truth v).map ({ s with debug := · })
  | "db_user" => (text v).map ({ s with dbUser := · })
  | "db_password" => (text v).map ({ s with dbPassword := · })
  | "db_host" => (text v).map ({ s with dbHost := · })
  | "db_port" => (whole v).map ({ s with dbPort := · })
  | "db_name" => (text v).map ({ s with dbName := · })
  | "db_pool_size" => (whole v).map ({ s with dbPoolSize := · })
  | "db_pool_overflow" => (whole v).map ({ s with dbPoolOverflow := · })
  | "otel_service_name" => (text v).map ({ s with otelServiceName := · })
  | "otel_service_version" => (text v).map ({ s with otelServiceVersion := · })
  | "axiom_token" => (nullable text v).map ({ s with axiomToken := · })
  | "axiom_dataset" => (nullable text v).map ({ s with axiomDataset := · })
  | "rate_limit_storage_uri" => (text v).map ({ s with rateLimitStorageUri := · })
  | "web_url" => (text v).map ({ s with webUrl := · })
  | "auth_jwt_secret" => (text v).map ({ s with authJwtSecret := · })
  | "auth_jwks_url" => (nullable text v).map ({ s with authJwksUrl := · })
  | "auth_issuer" => (nullable text v).map ({ s with authIssuer := · })
  | "auth_audience" => (nullable text v).map ({ s with authAudience := · })
  | "stripe_secret_key" => (text v).map ({ s with stripeSecretKey := · })
  | "stripe_webhook_secret" => (text v).map ({ s with stripeWebhookSecret := · })
  | "stripe_webhook_tolerance_seconds" =>
    (whole v).map ({ s with stripeWebhookToleranceSeconds := · })
  | "stripe_price_id_essentials" => (text v).map ({ s with stripePriceIdEssentials := · })
  | "stripe_price_id_essentials_yearly" =>
    (text v).map ({ s with stripePriceIdEssentialsYearly := · })
  | "stripe_price_id_pro" => (text v).map ({ s with stripePriceIdPro := · })
  | "stripe_price_id_pro_yearly" => (text v).map ({ s with stripePriceIdProYearly := · })
  | "stripe_foundry_product_id" => (text v).map ({ s with stripeFoundryProductId := · })
  | "janua_api_url" => (text v).map ({ s with januaApiUrl := · })
  | "janua_api_key" => (text v).map ({ s with januaApiKey := · })
  | "janua_billing_enabled" => (truth v).map ({ s with januaBillingEnabled := · })
  | "janua_webhook_secret" => (text v).map ({ s with januaWebhookSecret := · })
  | "janua_admin_key" => (text v).map ({ s with januaAdminKey := · })
  | "tier_notification_secret" => (text v).map ({ s with tierNotificationSecret := · })
  | "default_country_code" => (text v).map ({ s with defaultCountryCode := · })
  | "direct_billing_products" => (texts v).map ({ s with directBillingProducts := · })
  | "checkout_allowed_host_suffixes" =>
    (texts v).map ({ s with checkoutAllowedHostSuffixes := · })
  | "provider_timeout_seconds" => (float v).map ({ s with providerTimeoutSeconds := · })
  | "webhook_deadline_seconds" => (float v).map ({ s with webhookDeadlineSeconds := · })
  | "identity_dispatch_timeout_seconds" =>
    (float v).map ({ s with identityDispatchTimeoutSeconds := · })
  | "identity_dispatch_max_attempts" =>
    (whole v).map ({ s with identityDispatchMaxAttempts := · })
  | _ => .ok s

/-- The settings whose variables hold a document instead of plain text. -/
def documentNames : List String := ["direct_billing_products", "checkout_allowed_host_suffixes"]

inductive LoadError where
  | unreadableDocument
  | tooDeep
  | invalid
  deriving DecidableEq, Repr

/-- Variables by name in lower case; of several with one name, the last one counts. -/
def byName (environment : List (String × String)) : List (String × String) :=
  environment.foldl
    (fun named e =>
      let name := Text.lower e.1
      named.filter (fun other => other.1 ≠ name) ++ [(name, e.2)]) []

/-- A variable as the setting it names; a document that is null counts as not set. -/
def settingOf? (entry : String × String) : Except LoadError (Option (String × Json)) :=
  let name := entry.1
  if documentNames.contains name then
    match Json.ofString Json.lenient entry.2 with
    | .error .tooDeep => .error .tooDeep
    | .error _ => .error .unreadableDocument
    | .ok .null => .ok none
    | .ok v => .ok (some (name, v))
  else .ok (some (name, .string entry.2))

/-- Settings from environment variables: all documents are read before any value is checked. -/
def load (environment : List (String × String)) : Except LoadError Settings := do
  let entries ← (byName environment).mapM settingOf?
  match (entries.filterMap id).foldlM (fun s e => s.assign e.1 e.2) ({} : Settings) with
  | .ok s => .ok s
  | .error _ => .error .invalid

def json (s : Settings) : Json :=
  let str := Json.string
  let opt := Json.ofOption Json.string
  let list (vs : List String) := Json.array (vs.map Json.string)
  .object
    [("environment", str s.environment.name), ("app_name", str s.appName),
      ("api_version", str s.apiVersion), ("debug", .bool s.debug), ("db_user", str s.dbUser),
      ("db_password", str s.dbPassword), ("db_host", str s.dbHost), ("db_port", .int s.dbPort),
      ("db_name", str s.dbName), ("db_pool_size", .int s.dbPoolSize),
      ("db_pool_overflow", .int s.dbPoolOverflow), ("otel_service_name", str s.otelServiceName),
      ("otel_service_version", str s.otelServiceVersion), ("axiom_token", opt s.axiomToken),
      ("axiom_dataset", opt s.axiomDataset), ("rate_limit_storage_uri", str s.rateLimitStorageUri),
      ("web_url", str s.webUrl), ("auth_jwt_secret", str s.authJwtSecret),
      ("auth_jwks_url", opt s.authJwksUrl), ("auth_issuer", opt s.authIssuer),
      ("auth_audience", opt s.authAudience), ("stripe_secret_key", str s.stripeSecretKey),
      ("stripe_webhook_secret", str s.stripeWebhookSecret),
      ("stripe_webhook_tolerance_seconds", .int s.stripeWebhookToleranceSeconds),
      ("stripe_price_id_essentials", str s.stripePriceIdEssentials),
      ("stripe_price_id_essentials_yearly", str s.stripePriceIdEssentialsYearly),
      ("stripe_price_id_pro", str s.stripePriceIdPro),
      ("stripe_price_id_pro_yearly", str s.stripePriceIdProYearly),
      ("stripe_foundry_product_id", str s.stripeFoundryProductId),
      ("janua_api_url", str s.januaApiUrl), ("janua_api_key", str s.januaApiKey),
      ("janua_billing_enabled", .bool s.januaBillingEnabled),
      ("janua_webhook_secret", str s.januaWebhookSecret), ("janua_admin_key", str s.januaAdminKey),
      ("tier_notification_secret", str s.tierNotificationSecret),
      ("default_country_code", str s.defaultCountryCode),
      ("direct_billing_products", list s.directBillingProducts),
      ("checkout_allowed_host_suffixes", list s.checkoutAllowedHostSuffixes),
      ("provider_timeout_seconds", .float s.providerTimeoutSeconds),
      ("webhook_deadline_seconds", .float s.webhookDeadlineSeconds),
      ("identity_dispatch_timeout_seconds", .float s.identityDispatchTimeoutSeconds),
      ("identity_dispatch_max_attempts", .int s.identityDispatchMaxAttempts)]

end Settings
end SubscriptionBilling
