/-! Subscription tiers, ordered by what they include. -/
namespace SubscriptionBilling

inductive Tier where
  | community
  | essentials
  | pro
  deriving DecidableEq, Repr, Inhabited

namespace Tier

def all : List Tier := [community, essentials, pro]

def name : Tier → String
  | community => "community"
  | essentials => "essentials"
  | pro => "pro"

def title : Tier → String
  | community => "Community"
  | essentials => "Essentials"
  | pro => "Pro"

def ofName? (s : String) : Option Tier := all.find? fun t => t.name = s

def rank : Tier → Nat
  | community => 0
  | essentials => 1
  | pro => 2

instance : LE Tier := ⟨fun a b => a.rank ≤ b.rank⟩
instance : LT Tier := ⟨fun a b => a.rank < b.rank⟩
instance (a b : Tier) : Decidable (a ≤ b) := inferInstanceAs (Decidable (a.rank ≤ b.rank))
instance (a b : Tier) : Decidable (a < b) := inferInstanceAs (Decidable (a.rank < b.rank))

/-- The tier that costs nothing. -/
def isBase (t : Tier) : Bool := t = community

/-- The top tier is never metered. -/
def isUnlimited (t : Tier) : Bool := t = pro

end Tier
end SubscriptionBilling
