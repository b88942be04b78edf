import SubscriptionBilling.Crypto.Hmac
import SubscriptionBilling.Json.Reader
import SubscriptionBilling.Text.Blank
import SubscriptionBilling.Text.Split

/-! Telling shared secrets from texts that hold a public key, a certificate or a set of keys.
Whoever knows such a text, which is no secret, could sign with it. -/
namespace SubscriptionBilling.KeyMaterial
open Text

def isRule (c : Char) : Bool := c = '-' || c = ' '

/-- What follows a boundary line's words, `-----BEGIN PUBLIC KEY-----` for instance. -/
def dropBoundary? (words : List Char) : List Char → Option (List Char)
  | '-' :: '-' :: '-' :: '-' :: c :: rest =>
    if isRule c then
      match dropPrefix? words rest with
      | some (d :: '-' :: '-' :: '-' :: '-' :: after) => if isRule d then some after else none
      | _ => none
    else none
  | _ => none

/-- What follows the first boundary with certain words. -/
def afterBoundary? (words : List Char) : List Char → Option (List Char)
  | [] => none
  | c :: rest =>
    match dropBoundary? words (c :: rest) with
    | some after => some after
    | none => afterBoundary? words rest

/-- What boundaries name. -/
def boundaryNames : List String :=
  ["CERTIFICATE", "TRUSTED CERTIFICATE", "PRIVATE KEY", "PUBLIC KEY", "ENCRYPTED PRIVATE KEY",
    "OPENSSH PRIVATE KEY", "DSA PRIVATE KEY", "RSA PRIVATE KEY", "RSA PUBLIC KEY",
    "EC PRIVATE KEY", "DH PARAMETERS", "NEW CERTIFICATE REQUEST", "CERTIFICATE REQUEST",
    "SSH2 PUBLIC KEY", "SSH2 ENCRYPTED PRIVATE KEY", "X509 CRL"]

/-- A block between two boundaries of one name, with something in it. -/
def holdsBlock (cs : List Char) : Bool :=
  boundaryNames.any fun name =>
    match afterBoundary? ("BEGIN " ++ name).toList cs with
    | some (_ :: rest) => (afterBoundary? ("END " ++ name).toList rest).isSome
    | _ => false

def shellKeyTypes : List String :=
  ["ssh-ed25519", "ssh-rsa", "ssh-dss", "ecdsa-sha2-nistp256", "ecdsa-sha2-nistp384",
    "ecdsa-sha2-nistp521"]

def occursIn (word : List Char) : List Char → Bool
  | [] => word.isEmpty
  | c :: rest => word.isPrefixOf (c :: rest) || occursIn word rest

def certificateEnding : List Char := "-cert-v01@openssh.com".toList

/-- A key type that ends like those of certificates, followed by another word. -/
def beginsCertificate (cs : List Char) : Bool :=
  let first := cs.takeWhile fun c => !isAsciiSpace c
  let rest := cs.dropWhile fun c => !isAsciiSpace c
  let next := rest.dropWhile fun c => c = ' ' || c = '\t'
  certificateEnding.isSuffixOf first &&
    match rest.head?, next.head? with
    | some gap, some c => (gap = ' ' || gap = '\t') && !isAsciiSpace c
    | _, _ => false

def holdsShellKey (cs : List Char) : Bool :=
  shellKeyTypes.any (fun t => occursIn t.toList cs) || beginsCertificate cs

/-- A document that describes a key or a set of keys. -/
def holdsKeyDocument (secret : String) : Bool :=
  match Json.ofBytes (Hmac.bytesOf secret) with
  | .ok (.object fields) => (fields.lookup "kty").isSome || (fields.lookup "keys").isSome
  | _ => false

def isPresentIn (secret : String) : Bool :=
  holdsBlock secret.toList || holdsShellKey secret.toList || holdsKeyDocument secret

end SubscriptionBilling.KeyMaterial
