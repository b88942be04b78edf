/-! Decimal numbers with an exact coefficient and exponent. `1.0` and `1` are different values of
the type: the exponent says how many places were written, and text keeps them. -/
namespace SubscriptionBilling

/-- The number `±coefficient · 10 ^ exponent`. -/
structure Decimal where
  negative : Bool
  coefficient : Nat
  exponent : Int
  deriving DecidableEq, Repr, Inhabited

/-- A power of two. -/
def twoTo (n : Nat) : Nat := Nat.pow 2 n

/-- A power of ten. -/
def tenTo (n : Nat) : Nat := Nat.pow 10 n

namespace Decimal

def zero : Decimal := ⟨false, 0, 0⟩

def ofInt (n : Int) : Decimal := ⟨n < 0, n.natAbs, 0⟩

def digits (n : Nat) : List Char := Nat.toDigits 10 n

def digitCount (n : Nat) : Nat := (digits n).length

def signText (negative : Bool) : List Char := if negative then ['-'] else []

/-- A signed whole number that always shows its sign, as exponents do. -/
def signedText (n : Int) : List Char :=
  (if n < 0 then '-' else '+') :: digits n.natAbs

/-- Digits with a point after the first `point` of them; zeros fill the places in between. -/
def placePoint (ds : List Char) (point : Int) : List Char :=
  if point ≤ 0 then '0' :: '.' :: (List.replicate point.natAbs '0' ++ ds)
  else if ds.length ≤ point.toNat then ds ++ List.replicate (point.toNat - ds.length) '0'
  else ds.take point.toNat ++ '.' :: ds.drop point.toNat

/-- Positional while the exponent is not positive and fewer than six zeros follow the point;
otherwise one digit before the point and an exponent. -/
def chars (d : Decimal) : List Char :=
  let ds := digits d.coefficient
  let left : Int := d.exponent + ds.length
  if d.exponent ≤ 0 ∧ -6 < left then signText d.negative ++ placePoint ds left
  else if left = 1 then signText d.negative ++ placePoint ds 1
  else signText d.negative ++ placePoint ds 1 ++ 'E' :: signedText (left - 1)

def text (d : Decimal) : String := String.ofList (d.chars)

/-- Rounds a quotient to the nearest whole number, a half going to the even neighbour. -/
def roundHalfEven (numerator denominator : Nat) : Nat :=
  let q := numerator / denominator
  let r := numerator % denominator
  if 2 * r < denominator then q
  else if denominator < 2 * r then q + 1
  else if q % 2 = 0 then q else q + 1

/-- Removes trailing zeros of the coefficient as long as the exponent stays at most zero. -/
def stripZeros : Nat → Nat → Nat × Nat
  | 0, n => (n, 0)
  | places + 1, n => if n % 10 = 0 then stripZeros places (n / 10) else (n, places + 1)

/-- The significant digits that a quotient keeps. -/
def precision : Nat := 28

/-- Rounds the coefficient to `precision` digits, half to even. -/
def round (d : Decimal) : Decimal :=
  let extra := digitCount d.coefficient - precision
  if extra = 0 then d
  else
    let c := roundHalfEven d.coefficient (tenTo extra)
    if digitCount c ≤ precision then { d with coefficient := c, exponent := d.exponent + extra }
    else { d with coefficient := c / 10, exponent := d.exponent + extra + 1 }

/-- A hundredth of a whole number: as few places as hold it, at most `precision` digits. -/
def hundredths (n : Int) : Decimal :=
  let r := stripZeros 2 n.natAbs
  round ⟨n < 0, r.1, -(r.2 : Int)⟩

end Decimal
end SubscriptionBilling
