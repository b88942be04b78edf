import SubscriptionBilling.Failure
import SubscriptionBilling.Json.Writer

/-! Values as columns keep them. Whole numbers have 64 bits with sign. A text column keeps numbers
by their text, floating point numbers with fifteen digits, and nothing that has parts. A query
compares what a document holds by text too. -/
namespace SubscriptionBilling.Column
open Decimal

def fits (n : Int) : Bool := -(twoTo 63) ≤ n && n < twoTo 63

/-- Whole numbers have to fit 64 bits with sign. -/
def checkWhole (n : Int) : Except Failure Unit :=
  if fits n then .ok () else .error .beyondColumn

/-- The digits that the text of a floating point number shows at most. -/
def shownDigits : Nat := 15

/-- The digits of a positive quotient, rounded and without zeros at their end, and how many of them
stand before the point. -/
def roundedDigits (numerator denominator : Nat) : List Char × Int :=
  let point := Binary64.decimalPoint numerator denominator
  let unit := Binary64.powerOfTen (point - shownDigits)
  let n := (2 * numerator * unit.2 + denominator * unit.1) / (2 * denominator * unit.1)
  let ds := digits n
  ((ds.reverse.dropWhile (· = '0')).reverse, point + (ds.length - shownDigits))

/-- Positional between `1e-4` and `1e15`, and always with a point. -/
def magnitudeText (numerator denominator : Nat) : List Char :=
  if numerator = 0 then ['0', '.', '0']
  else
    let (ds, point) := roundedDigits numerator denominator
    if -4 < point ∧ point ≤ shownDigits then
      if ds.length ≤ point.toNat then placePoint ds point ++ ['.', '0'] else placePoint ds point
    else
      (if ds.length = 1 then ds ++ ['.', '0'] else placePoint ds 1) ++
        'e' :: (if point - 1 < 0 then '-' else '+') :: Binary64.twoDigits (point - 1).natAbs

def floatText? : Binary64 → Option String
  | .finite negative m e =>
    let p := Binary64.powerOfTwo e
    some (String.ofList (signText (negative && m ≠ 0) ++ magnitudeText (m * p.1) p.2))
  | .infinite negative => some (if negative then "-Inf" else "Inf")
  | .undefined => none

/-- What a text column keeps of a value; nothing for null and for what is no number. -/
def text : Json → Except Failure (Option String)
  | .null => .ok none
  | .bool b => .ok (some (if b then "1" else "0"))
  | .int n => do
    checkWhole n
    return some (toString n)
  | .float x => .ok (floatText? x)
  | .string s => .ok (some s)
  | .brokenText _ => .error .unencodable
  | .array _ => .error .unstorable
  | .object _ => .error .unstorable

/-- The text by which a query compares a value inside a document. A text counts up to its first NUL,
a whole number that does not fit counts as floating point, and null is equal to nothing. -/
def comparedText? : Json → Option String
  | .null => none
  | .bool b => some (if b then "1" else "0")
  | .int n => if fits n then some (toString n) else floatText? (Binary64.ofFraction n 1)
  | .float x => floatText? x
  | .string s => some (String.ofList (s.toList.takeWhile (· ≠ '\x00')))
  | .brokenText _ => none
  | v => some (v.write Json.compact)

end SubscriptionBilling.Column
