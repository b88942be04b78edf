import SubscriptionBilling.Fields.WholeText
import SubscriptionBilling.Json.Basic
import SubscriptionBilling.Time.Reader

/-! Reading single values leniently: whole numbers, truth values, decimals and moments are taken
from more than one kind of value, texts only from texts. -/
namespace SubscriptionBilling.Fields
open Text Decimal

def wholeOfFloat (x : Binary64) : Except Problem Int :=
  match x with
  | .finite .. =>
    match x.toInt? with
    | none => .error .fractional
    | some n => if -(twoTo 63) < n ∧ n < twoTo 63 then .ok n else .error .wholeTooLarge
  | _ => .error .notFinite

def whole : Json → Except Problem Int
  | .int n => .ok n
  | .bool b => .ok (if b then 1 else 0)
  | .float x => wholeOfFloat x
  | .string s => wholeText s
  | _ => .error .notWhole

def text : Json → Except Problem String
  | .string s => .ok s
  | .brokenText _ => .error .brokenText
  | _ => .error .notText

def truthText? (s : String) : Option Bool :=
  let n := s.toLower
  if ["1", "true", "yes", "on", "t", "y"].contains n then some true
  else if ["0", "false", "no", "off", "f", "n"].contains n then some false
  else none

def truthOfWhole (n : Int) : Except Problem Bool :=
  if n = 1 then .ok true else if n = 0 then .ok false else .error .unreadableTruth

def truth : Json → Except Problem Bool
  | .bool b => .ok b
  | .int n => truthOfWhole n
  | .float x =>
    match x.toInt? with
    | some n => truthOfWhole n
    | none => .error .notTruth
  | .string s =>
    match truthText? s with
    | some b => .ok b
    | none => .error .unreadableTruth
  | _ => .error .notTruth

/-- A floating point number without underscores, or one of the named values. -/
def floatChars? (cs : List Char) : Option Binary64 :=
  let (negative, r) := takeSign cs
  match (String.ofList r).toLower with
  | "inf" => some (.infinite negative)
  | "infinity" => some (.infinite negative)
  | "nan" => some .undefined
  | _ => (Decimal.numeral? cs).map Binary64.ofDecimal

def floatText? (s : String) : Option Binary64 :=
  match floatChars? (trimCharsBy isWhiteSpace s.toList) with
  | some x => some x
  | none => (dropUnderscores? s.toList).bind floatChars?

def float : Json → Except Problem Binary64
  | .int n => .ok (Binary64.ofDecimal (Decimal.ofInt n))
  | .float x => .ok x
  | .bool b => .ok (Binary64.ofDecimal (Decimal.ofInt (if b then 1 else 0)))
  | .string s =>
    match floatText? s with
    | some x => .ok x
    | none => .error .unreadableFloat
  | _ => .error .unreadableFloat

def decimal : Json → Except Problem Decimal
  | .int n => .ok (Decimal.ofInt n)
  | .float x =>
    match x.toDecimal? with
    | some d => .ok d
    | none => .error .notFinite
  | .string s =>
    match Decimal.ofString? s with
    | some d => .ok d
    | none => .error .unreadableDecimal
  | _ => .error .notDecimal

/-- As `decimal`, but a floating point number keeps the places that its own text shows. -/
def shownDecimal : Json → Except Problem Decimal
  | .float x =>
    match Decimal.ofString? x.text with
    | some d => .ok d
    | none => .error .notFinite
  | v => decimal v

def moment : Json → Except Problem Moment
  | .string s =>
    match Moment.ofString? s with
    | some m => .ok m
    | none => .error .notMoment
  | .int n =>
    match Moment.ofCount? n with
    | some m => .ok m
    | none => .error .notMoment
  | .float x =>
    match Moment.ofFloat? x with
    | some m => .ok m
    | none => .error .notMoment
  | _ => .error .notMoment

/-- One of the values of an enumeration, by its name. -/
def listed (ofName? : String → Option α) : Json → Except Problem α
  | .string s =>
    match ofName? s with
    | some a => .ok a
    | none => .error .unlisted
  | _ => .error .unlisted

def object : Json → Except Problem (List (String × Json))
  | .object fields => .ok fields
  | _ => .error .notObject

def items : Json → Except Problem (List Json)
  | .array vs => .ok vs
  | _ => .error .notList

end SubscriptionBilling.Fields
