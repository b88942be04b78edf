import SubscriptionBilling.Crypto.Sha256

/-! Signatures of RSA keys over SHA-256 hashes, in the padding of PKCS 1 version 1.5. -/
namespace SubscriptionBilling.Rsa

structure PublicKey where
  modulus : Nat
  exponent : Nat
  deriving DecidableEq, Repr

def natOfBytes (bytes : List UInt8) : Nat := bytes.foldl (fun n b => 256 * n + b.toNat) 0

/-- `base ^ exponent % modulus` by squaring along the exponent's bits. -/
def powerMod (base exponent modulus : Nat) : Nat :=
  (Nat.toDigits 2 exponent).foldl
    (fun r bit =>
      let square := r * r % modulus
      if bit = '1' then square * base % modulus else square)
    (1 % modulus)

def byteLength (n : Nat) : Nat := if n = 0 then 0 else n.log2 / 8 + 1

/-- Whether a key can be used at all. -/
def PublicKey.isUsable (k : PublicKey) : Bool :=
  3 ≤ k.modulus && 3 ≤ k.exponent && k.exponent < k.modulus && k.exponent % 2 = 1

/-- Whether a private exponent undoes the public one. -/
def PublicKey.isInverse (k : PublicKey) (exponent : Nat) : Bool :=
  1 < exponent && exponent < k.modulus &&
    powerMod 17 (k.exponent * exponent) k.modulus = 17 % k.modulus

/-- The name of the hash function, as it stands before the hash in a signature. -/
def hashInfo : List UInt8 :=
  [0x30, 0x31, 0x30, 0x0d, 0x06, 0x09, 0x60, 0x86, 0x48, 0x01, 0x65, 0x03, 0x04, 0x02, 0x01, 0x05,
    0x00, 0x04, 0x20]

/-- The bytes that a signature of `size` bytes has to open to. -/
def encoded (size : Nat) (message : List UInt8) : List UInt8 :=
  let tail := hashInfo ++ Sha256.digest message
  0 :: 1 :: (List.replicate (size - tail.length - 3) 0xff ++ 0 :: tail)

def verify (key : PublicKey) (message signature : List UInt8) : Bool :=
  let size := byteLength key.modulus
  let s := natOfBytes signature
  signature.length = size && s < key.modulus && 62 ≤ size &&
    powerMod s key.exponent key.modulus = natOfBytes (encoded size message)

end SubscriptionBilling.Rsa
