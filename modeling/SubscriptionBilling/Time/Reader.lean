import SubscriptionBilling.Time.Moment
import SubscriptionBilling.Decimal.Binary64
import SubscriptionBilling.Decimal.Reader

/-! Reading moments: a date, then optionally a time of day, then optionally an offset. A plain
number counts seconds, or milliseconds when its magnitude is beyond `secondsLimit`. -/
namespace SubscriptionBilling.Moment
open Decimal

/-- A number of exactly `count` digits and what follows it. -/
def takeDigits? (count : Nat) (cs : List Char) : Option (Nat × List Char) :=
  let ds := cs.take count
  if ds.length = count ∧ ds.all Char.isDigit then some (digitsValue ds, cs.drop count) else none

def takeChar? (c : Char) : List Char → Option (List Char)
  | d :: rest => if d = c then some rest else none
  | [] => none

def takeDate? (cs : List Char) : Option (Date × List Char) := do
  let (y, r) ← takeDigits? 4 cs
  let r ← takeChar? '-' r
  let (m, r) ← takeDigits? 2 r
  let r ← takeChar? '-' r
  let (d, r) ← takeDigits? 2 r
  let date : Date := ⟨y, m, d⟩
  if date.isValid then some (date, r) else none

/-- Digits of a fraction of a second as microseconds; further digits are cut. -/
def fractionValue (ds : List Char) : Nat :=
  digitsValue ((ds ++ List.replicate 6 '0').take 6)

/-- Hours, minutes and optionally seconds with a fraction, in microseconds. -/
def takeClock? (cs : List Char) : Option (Nat × List Char) := do
  let (h, r) ← takeDigits? 2 cs
  let r ← takeChar? ':' r
  let (m, r) ← takeDigits? 2 r
  if 23 < h ∨ 59 < m then none
  else
    let start := (h * 3600 + m * 60) * 1000000
    match takeChar? ':' r with
    | none => some (start, r)
    | some r => do
      let (s, r) ← takeDigits? 2 r
      if 59 < s then none
      else
        match r with
        | c :: f =>
          if c = '.' ∨ c = ',' then
            let ds := f.takeWhile Char.isDigit
            if ds.isEmpty then none
            else some (start + s * 1000000 + fractionValue ds, f.dropWhile Char.isDigit)
          else some (start + s * 1000000, r)
        | [] => some (start + s * 1000000, [])

/-- The sign of an offset; the minus sign proper counts like the hyphen. -/
def zoneSign? (c : Char) : Option Int :=
  if c = '+' then some 1 else if c = '-' ∨ c = '−' then some (-1) else none

/-- An offset that ends the text: nothing, `Z`, or a sign with hours and minutes. -/
def zone? : List Char → Option (Option Int)
  | [] => some none
  | ['Z'] => some (some 0)
  | ['z'] => some (some 0)
  | sign :: r => do
    let factor ← zoneSign? sign
    let (h, r) ← takeDigits? 2 r
    let (m, r) ← takeDigits? 2 ((takeChar? ':' r).getD r)
    if r.isEmpty ∧ h ≤ 23 ∧ m ≤ 59 then some (some (factor * (h * 3600 + m * 60))) else none

def isDateSeparator (c : Char) : Bool := c = 'T' || c = 't' || c = ' ' || c = '_'

def ofDateText? (cs : List Char) : Option Moment := do
  let (date, r) ← takeDate? cs
  match r with
  | [] => some ⟨date.toDays * day, none⟩
  | c :: r =>
    if isDateSeparator c then do
      let (clock, r) ← takeClock? r
      let z ← zone? r
      some ⟨date.toDays * day + clock, z⟩
    else none

/-- A number of a larger magnitude counts milliseconds. -/
def secondsLimit : Nat := 20000000000

/-- The moment that many microseconds after the start of 1970, when the calendar has it. -/
def ofMicros? (n : Int) : Option Moment :=
  match ofTimestamp (n / second) with
  | .ok _ => some ⟨n, some 0⟩
  | .error _ => none

/-- A whole count of seconds or milliseconds. -/
def ofCount? (n : Int) : Option Moment :=
  ofMicros? (if secondsLimit < n.natAbs then n * 1000 else n * second)

/-- A quotient rounded to the nearest whole number, a half going up. -/
def roundHalfUp (numerator : Int) (denominator : Nat) : Int :=
  (2 * numerator + denominator) / (2 * denominator)

/-- A count of seconds or milliseconds in floating point. Each step (to seconds, to the part
behind the point, to microseconds) rounds to 64 bits. -/
def ofFloat? (x : Binary64) : Option Moment := do
  let (n, d) ← x.fraction?
  let seconds := if secondsLimit * d < n.natAbs then Binary64.ofFraction n (1000 * d) else x
  let (n, d) ← seconds.fraction?
  let (r, b) ← (Binary64.ofFraction (n % d) d).fraction?
  let (m, c) ← (Binary64.ofFraction (r * second) b).fraction?
  ofMicros? (n / d * second + roundHalfUp m c)

/-- A number in text: digits, a point among or before them, and an exponent only behind a point. -/
def ofNumberText? (cs : List Char) : Option Moment :=
  let (negative, r) := takeSign cs
  let rest := r.dropWhile Char.isDigit
  if r.isEmpty then none
  else if rest.isEmpty then
    let n : Int := digitsValue r
    ofCount? (if negative then -n else n)
  else if rest.head? = some '.' then
    (Decimal.numeral? cs).bind fun d => ofFloat? (Binary64.ofDecimal d)
  else none

def ofString? (s : String) : Option Moment :=
  match ofDateText? s.toList with
  | some m => some m
  | none => ofNumberText? s.toList

end SubscriptionBilling.Moment
