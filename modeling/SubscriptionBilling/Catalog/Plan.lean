import SubscriptionBilling.Catalog.Product
import SubscriptionBilling.Catalog.Tier
import SubscriptionBilling.Text.Blank
import SubscriptionBilling.Text.CaseMap
import SubscriptionBilling.Text.Split

/-! Plan slugs: `[<product>_]<base>[_yearly]`, and three older slugs with meanings of their own. -/
namespace SubscriptionBilling
open Text

/-- What a slug names when product and interval are taken off; `madfam` is the bundle of all
products. -/
inductive BasePlan where
  | essentials
  | pro
  | madfam
  deriving DecidableEq, Repr, Inhabited

namespace BasePlan

def all : List BasePlan := [essentials, pro, madfam]

def name : BasePlan → String
  | essentials => "essentials"
  | pro => "pro"
  | madfam => "madfam"

def ofName? (s : String) : Option BasePlan := all.find? fun b => b.name = s

def tier : BasePlan → Tier
  | essentials => .essentials
  | pro => .pro
  | madfam => .pro

end BasePlan

inductive Interval where
  | monthly
  | yearly
  deriving DecidableEq, Repr, Inhabited

def Interval.name : Interval → String
  | monthly => "monthly"
  | yearly => "yearly"

structure Plan where
  slug : String
  product : Product
  base : BasePlan
  interval : Interval
  deriving DecidableEq, Repr

namespace Plan

def tier (p : Plan) : Tier := p.base.tier

def defaultSlug : String := "pro"

/-- Slugs kept for links that exist. -/
def legacy : List (String × Product × BasePlan) :=
  [("sovereign", .dhanam, .pro), ("enclii_sovereign", .enclii, .pro),
    ("enclii_ecosystem", .enclii, .madfam)]

/-- The product and base of a slug without its interval; the product ends at the first
underscore. -/
def parts? (cs : List Char) : Option (Product × BasePlan) :=
  match cutFirst '_' cs with
  | none => (BasePlan.ofName? (String.ofList cs)).map fun b => (Product.home, b)
  | some (before, after) => do
    let p ← Product.ofName? (String.ofList before)
    let b ← BasePlan.ofName? (String.ofList after)
    some (p, b)

def yearlyEnding : List Char := "_yearly".toList

/-- A slug in normal form: no blanks around it, lower case. -/
def ofNormal? (slug : String) : Option Plan :=
  match legacy.lookup slug with
  | some (p, b) => some ⟨slug, p, b, .monthly⟩
  | none =>
    match dropEnding? yearlyEnding slug.toList with
    | some cs => (parts? cs).map fun r => ⟨slug, r.1, r.2, .yearly⟩
    | none => (parts? slug.toList).map fun r => ⟨slug, r.1, r.2, .monthly⟩

def normalize (slug : String) : String := lower (trimBlank slug)

def ofSlug? (slug : String) : Option Plan := ofNormal? (normalize slug)

end Plan
end SubscriptionBilling
