import SubscriptionBilling.Text.Blank
import SubscriptionBilling.Text.Digits

/-! Whole numbers in text: white space around, a sign, and digits of any script with single
underscores between them. -/
namespace SubscriptionBilling.Text

/-- Digits read so far make `value`; `fresh` says that a digit has to come next. -/
def wholeDigits? (value : Nat) (fresh : Bool) : List Char → Option Nat
  | [] => if fresh then none else some value
  | c :: rest =>
    if c = '_' then if fresh then none else wholeDigits? value true rest
    else
      match digitValue? c with
      | some d => wholeDigits? (10 * value + d) false rest
      | none => none

/-- The most digits a whole number in text may have. -/
def maxWholeDigits : Nat := 4300

def signedWhole? (cs : List Char) : Option Int :=
  if maxWholeDigits < (cs.filter fun c => (digitValue? c).isSome).length then none
  else
    match cs with
    | '-' :: r => (wholeDigits? 0 true r).map fun n => -(n : Int)
    | '+' :: r => (wholeDigits? 0 true r).map fun n => (n : Int)
    | r => (wholeDigits? 0 true r).map fun n => (n : Int)

def whole? (s : String) : Option Int := signedWhole? (trimCharsBy isWhiteSpace s.toList)

end SubscriptionBilling.Text
