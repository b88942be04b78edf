import SubscriptionBilling.Access.Token
import SubscriptionBilling.Crypto.Curve
import SubscriptionBilling.Crypto.Rsa

/-! Key sets: documents that list keys with their ids and uses. Keys that cannot be used are passed
over. -/
namespace SubscriptionBilling.Token

/-- A key of a set, as far as it matters for signatures of RSA keys. -/
inductive SetKey where
  | rsaPublic (key : Rsa.PublicKey)
  | rsaPrivate
  | symmetric
  | otherFamily
  deriving DecidableEq, Repr

structure SetEntry where
  id : Json
  use : Json
  key : SetKey

inductive Family where
  | none
  | rsa
  | symmetric
  | curve (name : String)
  | edwards
  deriving DecidableEq, Repr

/-- The algorithms that keys may name, each with the family of its keys. -/
def families : List (String × Family) :=
  [("none", .none), ("HS256", .symmetric), ("HS384", .symmetric), ("HS512", .symmetric),
    ("RS256", .rsa), ("RS384", .rsa), ("RS512", .rsa), ("PS256", .rsa), ("PS384", .rsa),
    ("PS512", .rsa), ("ES256", .curve "P-256"), ("ES256K", .curve "secp256k1"),
    ("ES384", .curve "P-384"), ("ES521", .curve "P-521"), ("ES512", .curve "P-521"),
    ("EdDSA", .edwards)]

/-- The usual family of a type of keys. -/
def usualFamily? (fields : List (String × Json)) (type : String) : Option Family :=
  let curve := (fields.lookup "crv").getD .null
  match type with
  | "RSA" => some .rsa
  | "oct" => some .symmetric
  | "EC" =>
    if !curve.truthy then some (.curve "P-256")
    else
      match curve with
      | .string name =>
        if ["P-256", "P-384", "P-521", "secp256k1"].contains name then some (.curve name) else none
      | _ => none
  | "OKP" =>
    match curve with
    | .string "Ed25519" => some .edwards
    | _ => none
  | _ => none

/-- The family of the algorithm that a key names, or the usual one for its type. -/
def familyOf? (fields : List (String × Json)) (type : String) : Option Family :=
  match fields.lookup "alg" with
  | some (.string a) => if a.isEmpty then usualFamily? fields type else families.lookup a
  | some a => if a.truthy then none else usualFamily? fields type
  | none => usualFamily? fields type

def bytesOf? (fields : List (String × Json)) (name : String) : Option (List UInt8) :=
  match fields.lookup name with
  | some (.string s) => Base64.decodeUnpadded s.toList
  | _ => none

def natOf? (fields : List (String × Json)) (name : String) : Option Nat :=
  (bytesOf? fields name).map Rsa.natOfBytes

def isGiven (fields : List (String × Json)) (name : String) : Bool := (fields.lookup name).isSome

/-- The further parts of a private key; all of them are given or none. -/
def rsaFactorNames : List String := ["p", "q", "dp", "dq", "qi"]

def rsaKey? (fields : List (String × Json)) : Option SetKey := do
  let k : Rsa.PublicKey := ⟨← natOf? fields "n", ← natOf? fields "e"⟩
  if !k.isUsable then none
  else if !isGiven fields "d" then some (.rsaPublic k)
  else if isGiven fields "oth" then none
  else
    let d ← natOf? fields "d"
    if rsaFactorNames.any (isGiven fields) then do
      let factors ← rsaFactorNames.mapM (natOf? fields)
      match factors with
      | p :: q :: _ => if p * q = k.modulus && k.isInverse d then some .rsaPrivate else none
      | _ => none
    else if k.isInverse d then some .rsaPrivate
    else none

/-- A curve by its name, and the bytes of a coordinate. -/
def curveNamed? : String → Option (Curve × Nat)
  | "P-256" => some (.p256, 32)
  | "P-384" => some (.p384, 48)
  | "P-521" => some (.p521, 66)
  | "secp256k1" => some (.k256, 32)
  | _ => none

def curveKey? (fields : List (String × Json)) (name : String) : Option SetKey := do
  let .string given ← fields.lookup "crv" | none
  let (curve, size) ← curveNamed? name
  let x ← bytesOf? fields "x"
  let y ← bytesOf? fields "y"
  let secret ← if isGiven fields "d" then bytesOf? fields "d" else some x
  if given = name && x.length = size && y.length = size && secret.length = size &&
      curve.holds (Rsa.natOfBytes x) (Rsa.natOfBytes y) then
    some .otherFamily
  else none

def edwardsKey? (fields : List (String × Json)) : Option SetKey := do
  let .string curve ← fields.lookup "crv" | none
  let size ← match curve with
    | "Ed25519" => some 32
    | "Ed448" => some 57
    | _ => none
  let x ← bytesOf? fields "x"
  let key ← if isGiven fields "d" then bytesOf? fields "d" else some x
  if key.length = size then some .otherFamily else none

/-- The key in an entry, or nothing when it cannot be used. A symmetric key without its value and
the absence of an algorithm are not passed over. -/
def keyOf (fields : List (String × Json)) : Except TokenError (Option SetKey) :=
  match fields.lookup "kty" with
  | some (.string type) =>
    match familyOf? fields type with
    | some .none => .error .unsupportedKey
    | some .rsa => .ok (if type = "RSA" then rsaKey? fields else none)
    | some .symmetric =>
      if type ≠ "oct" then .ok none
      else if !isGiven fields "k" then .error .missingKeyPart
      else .ok ((bytesOf? fields "k").map fun _ => .symmetric)
    | some (.curve name) => .ok (if type = "EC" then curveKey? fields name else none)
    | some .edwards => .ok (if type = "OKP" then edwardsKey? fields else none)
    | none => .ok none
  | _ => .ok none

def entryOf : Json → Except TokenError (Option SetEntry)
  | .object fields => do
    let key ← keyOf fields
    return key.map fun k =>
      ⟨(fields.lookup "kid").getD .null, (fields.lookup "use").getD .null, k⟩
  | _ => .ok none

/-- Entries that may sign and can be asked for. -/
def SetEntry.forSigning (k : SetEntry) : Bool :=
  k.id.truthy && match k.use with
    | .null => true
    | .string s => s = "sig"
    | _ => false

def SetEntry.isNamed (k : SetEntry) (id : Option String) : Bool :=
  match k.id, id with
  | .string a, some b => a = b
  | _, _ => false

/-- The key of an id in a fetched key set; `none` stands for a fetch that failed. -/
def keyFor (served : Option Json) (id : Option String) : Except TokenError SetKey := do
  let some (.object set) := served | throw .invalid
  let items ← match (set.lookup "keys").getD (.array []) with
    | .array items => pure items
    | _ => throw .unusableKeySet
  let entries := (← items.mapM entryOf).filterMap fun e => e
  if entries.isEmpty then throw .unusableKeySet
  match (entries.filter SetEntry.forSigning).find? fun e => e.isNamed id with
  | some e => return e.key
  | none => throw .invalid

end SubscriptionBilling.Token
