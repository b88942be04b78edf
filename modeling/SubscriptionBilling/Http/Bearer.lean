import SubscriptionBilling.Access.Verifier
import SubscriptionBilling.Http.Message
import SubscriptionBilling.Service.Basic
import SubscriptionBilling.Text.Blank

/-! Who a request comes from: the subject of its bearer token. -/
namespace SubscriptionBilling.Http

def bearerStart : List Char := "Bearer ".toList

/-- The token in a request. -/
def bearerToken (r : Request) : Except Failure String :=
  let header := ((r.header? "authorization").getD "").toList
  if bearerStart.isPrefixOf header then
    .ok (Text.trimBlank (String.ofList (header.drop bearerStart.length)))
  else .error (.refused 401 "Authorization header missing or invalid" true)

/-- The subject of verified claims; an e-mail address that is no text makes them invalid. -/
def subjectOf (claims : List (String × Json)) : Except Failure String :=
  match claims.lookup "email" with
  | none => subject
  | some .null => subject
  | some (.string _) => subject
  | some (.brokenText _) => subject
  | some _ => .error .invalidRecord
where
  subject :=
    match claims.lookup "sub" with
    | some (.string s) => .ok s
    | some (.brokenText _) => .error .unencodable
    | _ => .error .invalidRecord

/-- The key set that will be answered with, if there is one. -/
def offeredKeySet (n : Network) : Option Json :=
  match (n.replies .keySet).head? with
  | some (.object v) => some v
  | _ => none

/-- Fetches a key set and keeps it, if there was one. -/
def fetchKeySet (v : Token.Verifier) : Service Unit := do
  let reply ← Service.online (Online.ask .keySet (.fetch v.fetchedFrom))
  match reply with
  | some (.object set) => fun w => (.ok (), w.keepKeySet v.keySetUrl set)
  | _ => return

/-- The subscriber that a request is made for. Keys are fetched only from an address whose key set
is not kept. -/
def subscriberId (c : Context) (r : Request) : Service String := do
  let token ← bearerToken r
  let v := Token.Verifier.make c.settings none none none none
  let kept ← fun w => (.ok (w.keySets.lookup v.keySetUrl), w)
  let offered ← fun w => (.ok (offeredKeySet w.network), w)
  let verification := v.verify c.now (kept.orElse fun _ => offered) token
  if verification.fetched && kept.isNone then fetchKeySet v
  match verification.result with
  | .ok claims => subjectOf claims
  | .error e => throw e.failure

end SubscriptionBilling.Http
