import SubscriptionBilling.Fields.Value

/-! Reading the fields of records. A field without a default is required; an optional field may be
null. Unknown fields are ignored. -/
namespace SubscriptionBilling.Fields

abbrev Parse (α : Type) := Except Problem α

def required (fields : List (String × Json)) (name : String) (read : Json → Parse α) : Parse α :=
  match fields.lookup name with
  | some v => read v
  | none => .error .missing

def withDefault (fields : List (String × Json)) (name : String) (value : α)
    (read : Json → Parse α) : Parse α :=
  match fields.lookup name with
  | some v => read v
  | none => .ok value

/-- Null counts as no value. -/
def nullable (read : Json → Parse α) : Json → Parse (Option α)
  | .null => .ok none
  | v => (read v).map some

def optional (fields : List (String × Json)) (name : String) (read : Json → Parse α) :
    Parse (Option α) :=
  withDefault fields name none (nullable read)

end SubscriptionBilling.Fields
