import SubscriptionBilling.Crypto.Hmac
import SubscriptionBilling.Network.Message
import SubscriptionBilling.Settings
import SubscriptionBilling.Time.Moment

/-! The identity system: granting a role to a user, and telling it about a new subscription in a
signed message. -/
namespace SubscriptionBilling.Identity

def baseUrl (s : Settings) : String := trimSlashes s.januaApiUrl

def canGrantRoles (s : Settings) : Bool := !(baseUrl s).isEmpty && !s.januaAdminKey.isEmpty

def canNotify (s : Settings) : Bool := !(baseUrl s).isEmpty && !s.tierNotificationSecret.isEmpty

/-- The characters of a response that a failure quotes. -/
def quotedLength : Nat := 200

def statusMessage (status : Nat) (content : Content) : String :=
  Nat.repr status ++ " - " ++ String.ofList (content.asText.toList.take quotedLength)

/-- Whether a reply is a success; a broken connection and a status of 500 or more may be tried
again. -/
def judge : Option Reply → Except Failure Unit
  | some (.response status content) =>
    if status < 400 then .ok ()
    else .error (.identityCall (statusMessage status content) (500 ≤ status))
  | some (.broken kind message) =>
    .error (.identityCall ("request error: " ++ brokenText kind message) true)
  | some .unusable => .error .unexpectedTransport
  | _ => .error (.identityCall ("request error: " ++ noReplyText) true)

def post (e : Endpoint) (url : String) (headers : List (String × String)) (body : String) :
    Online Unit := do
  judge (← Online.post e url (("content-type", "application/json") :: headers) (.text body))

def roleBody (role : String) : String :=
  (Json.object [("add_role", .string role)]).write Json.spaced

def addRole (s : Settings) (user role : String) : Online Unit :=
  post .identityRoles (baseUrl s ++ "/internal/users/" ++ user ++ "/roles")
    [("authorization", "Bearer " ++ s.januaAdminKey)] (roleBody role)

def notificationBody (now : Moment) (organization customer : String) (plan : Option String) :
    String :=
  (Json.object
    [("type", .string "subscription.created"),
      ("data", .object
        [("customer_id", .string customer), ("plan_id", Json.ofOption Json.string plan),
          ("organization_id", .string organization)]),
      ("timestamp", .string now.offsetStyleText)]).write Json.compact

/-- The signature covers the bytes that are sent. -/
def notify (s : Settings) (now : Moment) (organization customer : String) (plan : Option String) :
    Online Unit :=
  let body := notificationBody now organization customer plan
  post .identityTier (baseUrl s ++ "/api/v1/webhooks/dhanam/subscription")
    [("x-dhanam-signature", Hmac.sign s.tierNotificationSecret (Hmac.bytesOf body))] body

end SubscriptionBilling.Identity
