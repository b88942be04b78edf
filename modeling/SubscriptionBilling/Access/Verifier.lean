import SubscriptionBilling.Access.KeyMaterial
import SubscriptionBilling.Access.KeySet
import SubscriptionBilling.Settings
import SubscriptionBilling.Url.Basic

/-! Verifying bearer tokens under a shared secret, or under a public key of a key set that is
fetched when its address is configured. -/
namespace SubscriptionBilling.Token
open Text

structure Verifier where
  secret : String
  keySetUrl : String
  expectation : Expectation

/-- The given values, or those of the settings. -/
def Verifier.make (s : Settings) (secret keySetUrl issuer audience : Option String) : Verifier :=
  ⟨secret.getD s.authJwtSecret, (keySetUrl.orElse fun _ => s.authJwksUrl).getD "",
    ⟨(issuer.orElse fun _ => s.authIssuer).getD "",
      (audience.orElse fun _ => s.authAudience).getD ""⟩⟩

inductive Key where
  | shared (secret : String)
  | listed (key : SetKey)

def Key.algorithm : Key → String
  | shared _ => "HS256"
  | listed _ => "RS256"

/-- Whether a signature is good. A key that does not fit the algorithm gives no answer. -/
def Key.verifies (k : Key) (p : Parts) : Except TokenError Bool :=
  match k with
  | shared secret =>
    if KeyMaterial.isPresentIn secret then .error .unsuitedSecret
    else .ok (p.signature = Hmac.digest (Hmac.bytesOf secret) p.signedBytes)
  | listed (.rsaPublic key) => .ok (Rsa.verify key p.signedBytes p.signature)
  | listed .rsaPrivate => .error .missingAttribute
  | listed .symmetric => .error .unsuitedSecret
  | listed .otherFamily => .error .unsuitedKey

/-- Signature first, then the claims. -/
def Parts.check (p : Parts) (k : Key) (e : Expectation) (now : Int) :
    Except TokenError (List (String × Json)) := do
  if !p.names k.algorithm then throw .invalid
  if !(← k.verifies p) then throw .invalid
  let claims ← p.claims
  checkClaims e now claims
  return claims

/-- The outcome of a verification, and whether the key set was needed for it. -/
structure Verification where
  result : Except TokenError (List (String × Json))
  fetched : Bool

/-- Whether key sets can be fetched from an address. -/
def checkAddress (url : String) : Except TokenError Unit :=
  match Url.split? url with
  | none => .error .unreadableAddress
  | some parts => if parts.scheme = "http" ∨ parts.scheme = "https" then .ok () else .error .invalid

def Parts.keyId? (p : Parts) : Option String :=
  match p.header.lookup "kid" with
  | some (.string s) => some s
  | _ => none

/-- A token that is well-formed, with an address that keys can be fetched from. -/
def Verifier.prepare (v : Verifier) (token : String) : Except TokenError Parts := do
  checkAddress v.keySetUrl
  let p ← Parts.ofString token
  let _ ← p.claims
  return p

/-- Verifies a token. With a key set address the token has to be well-formed before keys are
fetched. -/
def Verifier.verify (v : Verifier) (now : Int) (served : Option Json) (token : String) :
    Verification :=
  if v.keySetUrl.isEmpty then
    if v.secret.isEmpty then ⟨.error .notConfigured, false⟩
    else ⟨(Parts.ofString token).bind fun p => p.check (.shared v.secret) v.expectation now, false⟩
  else
    match v.prepare token with
    | .error e => ⟨.error e, false⟩
    | .ok p =>
      ⟨(keyFor served p.keyId?).bind fun k => p.check (.listed k) v.expectation now, true⟩

/-- An address without blanks, brackets and the mark of an empty fragment around it. -/
def fetchAddress (url : String) : String :=
  let cs := trimCharsBy isBlank url.toList
  let cs := match cs, cs.getLast? with
    | '<' :: inner, some '>' => trimCharsBy isBlank inner.dropLast
    | _, _ => cs
  let cs := match dropPrefix? "URL:".toList cs with
    | some rest => trimCharsBy isBlank rest
    | none => cs
  String.ofList ((dropEnding? ['#'] cs).getD cs)

def Verifier.fetchedFrom (v : Verifier) : String := fetchAddress v.keySetUrl

end SubscriptionBilling.Token
