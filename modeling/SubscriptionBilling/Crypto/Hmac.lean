import SubscriptionBilling.Crypto.Sha256

/-! Keyed hashes (HMAC with SHA-256) and their hexadecimal text. -/
namespace SubscriptionBilling.Hmac

/-- A key as one block: a longer key is hashed first. -/
def blockKey (key : List UInt8) : List UInt8 :=
  let k := if 64 < key.length then Sha256.digest key else key
  k ++ List.replicate (64 - k.length) 0

def digest (key message : List UInt8) : List UInt8 :=
  let k := blockKey key
  Sha256.digest (k.map (· ^^^ 0x5c) ++ Sha256.digest (k.map (· ^^^ 0x36) ++ message))

def hexDigit (n : Nat) : Char := if n < 10 then Char.ofNat (48 + n) else Char.ofNat (87 + n)

def hex (bytes : List UInt8) : String :=
  String.ofList (bytes.flatMap fun b => [hexDigit (b.toNat / 16), hexDigit (b.toNat % 16)])

def bytesOf (s : String) : List UInt8 := s.toUTF8.toList

/-- The signature of bytes under a secret text. -/
def sign (secret : String) (message : List UInt8) : String := hex (digest (bytesOf secret) message)

end SubscriptionBilling.Hmac
