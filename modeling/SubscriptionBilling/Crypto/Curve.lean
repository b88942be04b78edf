import SubscriptionBilling.Decimal.Basic

/-! Elliptic curves in the form `y ^ 2 = x ^ 3 + a * x + b` over a prime field, and the points on
them. -/
namespace SubscriptionBilling

structure Curve where
  prime : Nat
  a : Nat
  b : Nat
  deriving DecidableEq, Repr

namespace Curve
open Decimal

def primeP256 : Nat := twoTo 256 - twoTo 224 + twoTo 192 + twoTo 96 - 1
def primeP384 : Nat := twoTo 384 - twoTo 128 - twoTo 96 + twoTo 32 - 1
def primeP521 : Nat := twoTo 521 - 1
def primeK256 : Nat := twoTo 256 - twoTo 32 - 977

/-- The number that words of 64 bits make up, the highest first. -/
def ofWords (words : List Nat) : Nat := words.foldl (fun n w => n * twoTo 64 + w) 0

def p256 : Curve :=
  ⟨primeP256, primeP256 - 3,
    ofWords
      [0x5ac635d8aa3a93e7, 0xb3ebbd55769886bc, 0x651d06b0cc53b0f6,
       0x3bce3c3e27d2604b]⟩

def p384 : Curve :=
  ⟨primeP384, primeP384 - 3,
    ofWords
      [0xb3312fa7e23ee7e4, 0x988e056be3f82d19, 0x181d9c6efe814112,
       0x314088f5013875a, 0xc656398d8a2ed19d, 0x2a85c8edd3ec2aef]⟩

def p521 : Curve :=
  ⟨primeP521, primeP521 - 3,
    ofWords
      [0x51, 0x953eb9618e1c9a1f, 0x929a21a0b68540ee,
       0xa2da725b99b315f3, 0xb8b489918ef109e1, 0x56193951ec7e937b,
       0x1652c0bd3bb1bf07, 0x3573df883d2c34f1, 0xef451fd46b503f00]⟩

def k256 : Curve := ⟨primeK256, 0, 7⟩

/-- Whether two coordinates in range are those of a point on the curve. -/
def holds (c : Curve) (x y : Nat) : Bool :=
  x < c.prime && y < c.prime && y * y % c.prime = (x * x * x + c.a * x + c.b) % c.prime

end Curve
end SubscriptionBilling
