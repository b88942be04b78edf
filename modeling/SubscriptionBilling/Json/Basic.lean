import SubscriptionBilling.Decimal.Binary64

/-! Documents: null, truth values, whole numbers, floating point numbers, text, lists and fields.
A field list keeps the order in which names first appeared. Some sources write text with surrogates
that form no pair. Such text is no string: it is kept apart as its code points. -/
namespace SubscriptionBilling

inductive Json where
  | null
  | bool (value : Bool)
  | int (value : Int)
  | float (value : Binary64)
  | string (value : String)
  | brokenText (codes : List Nat)
  | array (items : List Json)
  | object (fields : List (String × Json))
  deriving Inhabited, Repr

namespace Json

/-- Sets a field, in the place of an earlier one of the same name. -/
def setField (name : String) (value : Json) : List (String × Json) → List (String × Json)
  | [] => [(name, value)]
  | (n, v) :: rest =>
    if n = name then (name, value) :: rest else (n, v) :: setField name value rest

/-- The field of an object; nothing for a missing field or a value that is no object. -/
def field? (j : Json) (name : String) : Option Json :=
  match j with
  | object fields => fields.lookup name
  | _ => none

def ofOption (f : α → Json) : Option α → Json
  | none => null
  | some a => f a

/-- A document counts as absent when it is null, false, zero or empty. -/
def truthy : Json → Bool
  | null => false
  | bool b => b
  | int n => n ≠ 0
  | float (.finite _ m _) => m ≠ 0
  | float _ => true
  | string s => !s.isEmpty
  | brokenText codes => !codes.isEmpty
  | array items => !items.isEmpty
  | object fields => !fields.isEmpty

mutual

/-- Whether all values in a document that are no lists or objects have a property. -/
def allValues (p : Json → Bool) : Json → Bool
  | array items => allItems p items
  | object fields => allFields p fields
  | v => p v

def allItems (p : Json → Bool) : List Json → Bool
  | [] => true
  | v :: rest => allValues p v && allItems p rest

def allFields (p : Json → Bool) : List (String × Json) → Bool
  | [] => true
  | (_, v) :: rest => allValues p v && allFields p rest

end

/-- Whether every text in a document is a string, so that it can be encoded. -/
def isEncodable (j : Json) : Bool :=
  j.allValues fun v =>
    match v with
    | brokenText _ => false
    | _ => true

/-- Whether every number in a document is finite. -/
def isFinite (j : Json) : Bool :=
  j.allValues fun v =>
    match v with
    | float x => x.isFinite
    | _ => true

end Json
end SubscriptionBilling
