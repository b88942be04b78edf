/-! Products that sell plans. -/
namespace SubscriptionBilling

inductive Product where
  | dhanam
  | enclii
  | tezca
  | yantra4d
  deriving DecidableEq, Repr, Inhabited

namespace Product

def all : List Product := [dhanam, enclii, tezca, yantra4d]

def name : Product → String
  | dhanam => "dhanam"
  | enclii => "enclii"
  | tezca => "tezca"
  | yantra4d => "yantra4d"

def ofName? (s : String) : Option Product := all.find? fun p => p.name = s

/-- The product of slugs that name none. -/
def home : Product := dhanam

end Product
end SubscriptionBilling
