import SubscriptionBilling.Crypto.Base64
import SubscriptionBilling.Crypto.Hmac
import SubscriptionBilling.Failure
import SubscriptionBilling.Json.Reader
import SubscriptionBilling.Text.Split
import SubscriptionBilling.Text.Whole

/-! Bearer tokens: three parts in base 64, a header, claims and a signature over the first two. Here
they are taken apart and their claims are checked; nothing is said about the signature. -/
namespace SubscriptionBilling.Token
open Text

inductive TokenError where
  | notConfigured
  | expired
  | invalid
  | tooDeep
  | unreadableAddress
  | unusableKeySet
  | missingKeyPart
  | unsupportedKey
  | unsuitedSecret
  | unsuitedKey
  | missingAttribute
  deriving DecidableEq, Repr

/-- What is checked of the claims; an empty text turns a check off. -/
structure Expectation where
  issuer : String
  audience : String

/-- A token taken apart; nothing in it is verified yet. -/
structure Parts where
  header : List (String × Json)
  payload : List UInt8
  signedBytes : List UInt8
  signature : List UInt8

/-- The critical header extensions have to be known and present; only one is known. -/
def criticalValid (header : List (String × Json)) : Bool :=
  match header.lookup "crit" with
  | none => true
  | some (.array names) =>
    !names.isEmpty && names.all fun n =>
      match n with
      | .string s => s = "b64" && (header.lookup "b64").isSome
      | _ => false
  | some _ => false

def keyIdValid (header : List (String × Json)) : Bool :=
  match header.lookup "kid" with
  | none => true
  | some (.string _) => true
  | some (.brokenText _) => true
  | some _ => false

/-- A payload that is not encoded would have to be sent apart, which is not supported. -/
def payloadEncoded (header : List (String × Json)) : Bool :=
  match header.lookup "b64" with
  | some (.bool false) => false
  | _ => true

/-- The object in a part of a token. -/
def partFields (bytes : List UInt8) : Except TokenError (List (String × Json)) :=
  match Json.ofBytes bytes with
  | .ok (.object fields) => .ok fields
  | .error .tooDeep => .error .tooDeep
  | _ => .error .invalid

def partBytes (segment : List Char) : Except TokenError (List UInt8) :=
  match Base64.decodeCanonical? segment with
  | some bytes => .ok bytes
  | none => .error .invalid

def Parts.ofString (token : String) : Except TokenError Parts := do
  match pieces '.' token.toList with
  | head :: middle :: last :: more =>
    let header ← partFields (← partBytes head)
    if !more.isEmpty then throw .invalid
    let payload ← partBytes middle
    let signature ← partBytes last
    if keyIdValid header && criticalValid header && payloadEncoded header then
      return ⟨header, payload, Hmac.bytesOf (String.ofList (head ++ '.' :: middle)), signature⟩
    else throw .invalid
  | _ => throw .invalid

def Parts.claims (p : Parts) : Except TokenError (List (String × Json)) := partFields p.payload

/-- A claim as a whole number: fractions are cut, text is read. -/
def wholeClaim? : Json → Option Int
  | .int n => some n
  | .bool b => some (if b then 1 else 0)
  | .float x => x.truncate?
  | .string s => whole? s
  | _ => none

def present (claims : List (String × Json)) (name : String) : Bool :=
  match claims.lookup name with
  | none => false
  | some .null => false
  | some _ => true

/-- A time claim, when there is one, has to be whole and not in the future. -/
def notAhead (claims : List (String × Json)) (name : String) (now : Int) : Bool :=
  match claims.lookup name with
  | none => true
  | some v =>
    match wholeClaim? v with
    | none => false
    | some t => t ≤ now

def issuerValid (e : Expectation) (claims : List (String × Json)) : Bool :=
  e.issuer.isEmpty ||
    match claims.lookup "iss" with
    | some (.string s) => s = e.issuer
    | _ => false

def audienceValid (e : Expectation) (claims : List (String × Json)) : Bool :=
  e.audience.isEmpty ||
    match claims.lookup "aud" with
    | some (.string s) => s = e.audience
    | some (.array names) =>
      (names.all fun n =>
        match n with
        | .string _ => true
        | .brokenText _ => true
        | _ => false) && names.any fun n =>
          match n with
          | .string s => s = e.audience
          | _ => false
    | _ => false

/-- A claim, when there is one, has to be text. -/
def textual (claims : List (String × Json)) (name : String) : Bool :=
  match claims.lookup name with
  | none => true
  | some (.string _) => true
  | some (.brokenText _) => true
  | some _ => false

/-- The claims in the order in which they are checked: what has to be there, times, then who issued
the token, for whom and about whom. -/
def checkClaims (e : Expectation) (now : Int) (claims : List (String × Json)) :
    Except TokenError Unit := do
  if !present claims "exp" || !present claims "sub" then throw .invalid
  if !notAhead claims "iat" now || !notAhead claims "nbf" now then throw .invalid
  match (claims.lookup "exp").bind wholeClaim? with
  | none => throw .invalid
  | some t => if t ≤ now then throw .expired
  if !issuerValid e claims || !audienceValid e claims then throw .invalid
  if !textual claims "sub" || !textual claims "jti" then throw .invalid

def Parts.names (p : Parts) (algorithm : String) : Bool :=
  match p.header.lookup "alg" with
  | some (.string s) => s = algorithm
  | _ => false

def TokenError.failure : TokenError → Failure
  | notConfigured => .refused 401 "Token verification is not configured" false
  | expired => .refused 401 "Token has expired" false
  | invalid => .refused 401 "Invalid token" false
  | tooDeep => .unreadableDocument .tooDeep
  | unreadableAddress => .unreadableAddress
  | unusableKeySet => .unusableKeySet
  | missingKeyPart => .missingKeyPart
  | unsupportedKey => .unsupportedKey
  | unsuitedSecret => .unsuitedSecret
  | unsuitedKey => .unsuitedKey
  | missingAttribute => .missingAttribute

end SubscriptionBilling.Token
