import SubscriptionBilling.Decimal.Basic

/-! Binary floating point numbers of 64 bits as exact mantissas and exponents: rounding a decimal
to the nearest one, the shortest decimal that reads back, and the text forms. -/
namespace SubscriptionBilling

/-- `finite s m e` is `±m · 2 ^ e`. In values made here `m < 2 ^ 53`, `-1074 ≤ e`, and `m` is at
least `2 ^ 52` unless `e = -1074`. -/
inductive Binary64 where
  | finite (negative : Bool) (mantissa : Nat) (exponent : Int)
  | infinite (negative : Bool)
  | undefined
  deriving DecidableEq, Repr, Inhabited

namespace Binary64
open Decimal

def zero (negative : Bool) : Binary64 := .finite negative 0 (-1074)

/-- `2 ^ e` as a fraction. -/
def powerOfTwo (e : Int) : Nat × Nat := if 0 ≤ e then (twoTo e.toNat, 1) else (1, twoTo e.natAbs)

def powerOfTen (e : Int) : Nat × Nat := if 0 ≤ e then (tenTo e.toNat, 1) else (1, tenTo e.natAbs)

/-- The exponent of the last mantissa bit of a positive quotient: 53 bits, but never below the
smallest exponent. -/
def lastBit (numerator denominator : Nat) : Int :=
  let guess : Int := (numerator.log2 : Int) - denominator.log2
  let p := powerOfTwo guess
  let top := if numerator * p.2 < denominator * p.1 then guess - 1 else guess
  max (top - 52) (-1074)

/-- The nearest number of 64 bits to a quotient, a half going to the even mantissa. -/
def ofQuotient (negative : Bool) (numerator denominator : Nat) : Binary64 :=
  if numerator = 0 then zero negative
  else
    let e := lastBit numerator denominator
    let p := powerOfTwo e
    let m := roundHalfEven (numerator * p.2) (denominator * p.1)
    let (m, e) := if m = twoTo 53 then (twoTo 52, e + 1) else (m, e)
    if 971 < e then .infinite negative else .finite negative m e

/-- The nearest number of 64 bits to a decimal. Magnitudes out of reach are decided by the place
of the leading digit. -/
def ofDecimal (d : Decimal) : Binary64 :=
  let top : Int := d.exponent + digitCount d.coefficient
  if d.coefficient = 0 then zero d.negative
  else if 310 < top then .infinite d.negative
  else if top < -330 then zero d.negative
  else
    let p := powerOfTen d.exponent
    ofQuotient d.negative (d.coefficient * p.1) p.2

/-- The nearest number of 64 bits to a fraction. -/
def ofFraction (numerator : Int) (denominator : Nat) : Binary64 :=
  ofQuotient (numerator < 0) numerator.natAbs denominator

/-- A finite value as a fraction, exactly. -/
def fraction? : Binary64 → Option (Int × Nat)
  | .finite negative m e =>
    let p := powerOfTwo e
    let n : Int := (m * p.1 : Nat)
    some (if negative then -n else n, p.2)
  | _ => none

/-- The number of places that a positive quotient has before the decimal point; zero or less when
it begins with that many zeros behind the point. -/
def decimalPoint (numerator denominator : Nat) : Int :=
  let guess : Int := (digitCount numerator : Int) - digitCount denominator
  let p := powerOfTen guess
  if numerator * p.2 < denominator * p.1 then guess else guess + 1

/-- Whether a quotient rounds to the mantissa `m` with last bit `e`: it lies between the two
halfway points, which themselves count when `m` is even. -/
def roundsTo (m : Nat) (e : Int) (numerator denominator : Nat) : Bool :=
  let p := powerOfTwo (e - 2)
  let lowest := if m = twoTo 52 ∧ -1074 < e then 4 * m - 1 else 4 * m - 2
  let scaled := numerator * p.2
  let unit := denominator * p.1
  let low := lowest * unit
  let high := (4 * m + 2) * unit
  if m % 2 = 0 then low ≤ scaled && scaled ≤ high else low < scaled && scaled < high

/-- Of the two decimals of `count` digits around `m · 2 ^ e`, the one that rounds back to it, and
the nearer when both do. The result is a coefficient and the exponent of its last digit. -/
def candidate? (m : Nat) (e : Int) (count : Nat) : Option (Nat × Int) :=
  let p := powerOfTwo e
  let num := m * p.1
  let den := p.2
  let last := decimalPoint num den - count
  let t := powerOfTen last
  let below := num * t.2 / (den * t.1)
  let fits (c : Nat) := roundsTo m e (c * t.1) t.2
  match fits below, fits (below + 1) with
  | true, true => some (roundHalfEven (num * t.2) (den * t.1), last)
  | true, false => some (below, last)
  | false, true => some (below + 1, last)
  | false, false => none

/-- The shortest decimal that reads back as `m · 2 ^ e`; seventeen digits always do. -/
def shortest (m : Nat) (e : Int) : Nat × Int :=
  if m = 0 then (0, 0)
  else (((List.range 17).findSome? fun n => candidate? m e (n + 1)).getD (0, 0))

/-- Digits without trailing zeros, and the place of the point before the first of them. -/
def shortestDigits (m : Nat) (e : Int) : List Char × Int :=
  let (c, last) := shortest m e
  let ds := digits c
  let kept := ((ds.reverse.dropWhile (· = '0')).reverse)
  if kept.isEmpty then (['0'], 1) else (kept, last + ds.length)

def twoDigits (n : Nat) : List Char := if n < 10 then '0' :: digits n else digits n

/-- The text of a number in a document: positional from `1e-4` up to `1e16`, and always with a
point or an exponent. -/
def text : Binary64 → String
  | .undefined => "NaN"
  | .infinite false => "Infinity"
  | .infinite true => "-Infinity"
  | .finite negative m e =>
    let (ds, point) := shortestDigits m e
    let body :=
      if -4 < point ∧ point ≤ 16 then
        if ds.length ≤ point.toNat then placePoint ds point ++ ['.', '0'] else placePoint ds point
      else
        (if ds.length = 1 then ds else placePoint ds 1) ++
          'e' :: (if point - 1 < 0 then '-' else '+') :: twoDigits (point - 1).natAbs
    String.ofList (signText negative ++ body)

/-- The shortest decimal without an exponent, as a decimal number. -/
def toDecimal? : Binary64 → Option Decimal
  | .finite negative m e =>
    let (ds, point) := shortestDigits m e
    let places := (ds.length : Int) - point
    let c := ds.foldl (fun n c => 10 * n + (c.toNat - 48)) 0
    if places ≤ 0 then some ⟨negative, c * tenTo places.natAbs, 0⟩ else some ⟨negative, c, -places⟩
  | _ => none

/-- The number rounded to two places, a half going to the even neighbour. -/
def toCents? : Binary64 → Option Decimal
  | .finite negative m e =>
    let p := powerOfTwo e
    some ⟨negative, roundHalfEven (m * p.1 * 100) p.2, -2⟩
  | _ => none

/-- The whole number a finite value is equal to, when there is one. -/
def toInt? : Binary64 → Option Int
  | .finite negative m e =>
    let p := powerOfTwo e
    if m * p.1 % p.2 = 0 then
      let n : Int := (m * p.1 / p.2 : Nat)
      some (if negative then -n else n)
    else none
  | _ => none

/-- The whole part of a finite value, toward zero. -/
def truncate? : Binary64 → Option Int
  | .finite negative m e =>
    let p := powerOfTwo e
    let n : Int := (m * p.1 / p.2 : Nat)
    some (if negative then -n else n)
  | _ => none

/-- More than nothing. -/
def isPositive : Binary64 → Bool
  | .finite negative m _ => !negative && m ≠ 0
  | .infinite negative => !negative
  | .undefined => true

def isFinite : Binary64 → Bool
  | .finite .. => true
  | _ => false

end Binary64
end SubscriptionBilling
