import SubscriptionBilling.Decimal.Basic
import SubscriptionBilling.Text.Blank
import SubscriptionBilling.Text.Digits

/-! Reading decimal text: blanks around it and underscores in it are skipped, digits may be of any
script, and an exponent may follow. Infinities and undefined values are not numbers here. -/
namespace SubscriptionBilling.Decimal
open Text

/-- Every decimal digit as its ASCII digit, all else unchanged. -/
def asciiDigit (c : Char) : Char :=
  match digitValue? c with
  | some v => Char.ofNat (48 + v)
  | none => c

def digitsValue (ds : List Char) : Nat := ds.foldl (fun n c => 10 * n + (c.toNat - 48)) 0

def takeSign : List Char → Bool × List Char
  | '-' :: r => (true, r)
  | '+' :: r => (false, r)
  | r => (false, r)

/-- The exponent behind the digits: nothing, or `e`, a sign and digits. -/
def exponentOf? : List Char → Option Int
  | [] => some 0
  | c :: r =>
    if c = 'e' ∨ c = 'E' then
      let (negative, ds) := takeSign r
      if ds.isEmpty ∨ !ds.all Char.isDigit then none
      else if negative then some (-(digitsValue ds : Int)) else some (digitsValue ds)
    else none

/-- The largest exponent of a leading digit, and the smallest of a last one. -/
def maxExponent : Int := 999999999999999999
def minExponent : Int := -1999999999999999997

def inRange (d : Decimal) : Bool :=
  d.exponent + digitCount d.coefficient - 1 ≤ maxExponent && minExponent ≤ d.exponent

/-- A number of any size: a sign, digits with a point among or around them, an exponent. -/
def numeral? (cs : List Char) : Option Decimal :=
  let (negative, r) := takeSign cs
  let whole := r.takeWhile Char.isDigit
  let afterWhole := r.dropWhile Char.isDigit
  let (places, rest) :=
    match afterWhole with
    | '.' :: f => (f.takeWhile Char.isDigit, f.dropWhile Char.isDigit)
    | f => ([], f)
  if whole.isEmpty && places.isEmpty then none
  else do
    let e ← exponentOf? rest
    return ⟨negative, digitsValue (whole ++ places), e - places.length⟩

def ofChars? (cs : List Char) : Option Decimal := (numeral? cs).filter inRange

def ofString? (s : String) : Option Decimal :=
  ofChars? (((trimCharsBy isBlank s.toList).filter (· ≠ '_')).map asciiDigit)

end SubscriptionBilling.Decimal
