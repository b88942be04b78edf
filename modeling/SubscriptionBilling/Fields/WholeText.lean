import SubscriptionBilling.Decimal.Reader
import SubscriptionBilling.Fields.Problem
import SubscriptionBilling.Text.Split

/-! Whole numbers in the text of a field. Plain ones are digits without a leading zero. Others are
cleaned first: blanks around, a plus sign, leading zeros, a point followed by zeros, and single
underscores are dropped. -/
namespace SubscriptionBilling.Fields
open Text Decimal

/-- The most digits a whole number may have. -/
def wholeDigitLimit : Nat := 4300

def beginsWhole (c : Char) : Bool := c = '-' || (c.isDigit && c ≠ '0')

/-- A number without leading zeros or underscores between them, `last` being the one dropped last.
One is kept in front of a point or when nothing else is left. -/
def afterZeros? (last : Char) : List Char → Option (List Char)
  | [] => some [last]
  | c :: r =>
    if c = '0' ∨ c = '_' then afterZeros? c r
    else if c = '.' then some (last :: c :: r)
    else if beginsWhole c then some (c :: r)
    else none

def dropLeadingZeros? : List Char → Option (List Char)
  | [] => none
  | c :: r => if c = '0' then afterZeros? c r else if beginsWhole c then some (c :: r) else none

/-- The part before a point, which only zeros may follow. -/
def dropZeroPlaces? (cs : List Char) : Option (List Char) :=
  match cutFirst '.' cs with
  | some (whole, places) =>
    if places.isEmpty ∨ places.any (· ≠ '0') then none else some whole
  | none => some cs

/-- Digits with single underscores between them. -/
def dropUnderscores? (cs : List Char) : Option (List Char) :=
  let doubled := (cs.zip (cs.drop 1)).any fun p => p.1 = '_' && p.2 = '_'
  if cs.head? = some '_' ∨ cs.getLast? = some '_' ∨ doubled then none
  else some (cs.filter (· ≠ '_'))

/-- An optional minus sign and digits without a leading zero. -/
def plainWhole? (cs : List Char) : Option Int :=
  let (negative, ds) := match cs with
    | '-' :: r => (true, r)
    | r => (false, r)
  if ds.isEmpty ∨ !ds.all Char.isDigit ∨ (ds.head? = some '0' ∧ 1 < ds.length) then none
  else if wholeDigitLimit < ds.length then none
  else
    let n : Int := digitsValue ds
    some (if negative then -n else n)

def cleaned? (cs : List Char) : Option (List Char) := do
  dropUnderscores? (← dropZeroPlaces? (← dropLeadingZeros? cs))

def cleanedWhole? : List Char → Option Int
  | '+' :: '-' :: _ => none
  | '+' :: r => (cleaned? r).bind plainWhole?
  | '-' :: r => (cleaned? r).bind fun ds => plainWhole? ('-' :: ds)
  | r => (cleaned? r).bind plainWhole?

/-- Whether a text begins, after a minus sign at most, with more digits than a number may have. -/
def beginsTooLong (cs : List Char) : Bool :=
  let ds := match cs with
    | '-' :: r => r
    | r => r
  ds.head? ≠ some '0' && wholeDigitLimit < (ds.takeWhile Char.isDigit).length

def wholeText (s : String) : Except Problem Int :=
  if beginsTooLong s.toList then .error .wholeTooLarge
  else
    match cleanedWhole? (trimCharsBy isWhiteSpace s.toList) with
    | some n => .ok n
    | none => .error .unreadableWhole

end SubscriptionBilling.Fields
