/-! Payment providers: a direct processor, and a broker that charges through processors of its
own. -/
namespace SubscriptionBilling

inductive Provider where
  | stripe
  | janua
  deriving DecidableEq, Repr, Inhabited

namespace Provider

def all : List Provider := [stripe, janua]

def name : Provider → String
  | stripe => "stripe"
  | janua => "janua"

def ofName? (s : String) : Option Provider := all.find? fun p => p.name = s

def isBroker (p : Provider) : Bool := p = janua

end Provider

/-- The processors behind the broker: one for Mexico, one for all other countries. -/
inductive Upstream where
  | conekta
  | polar
  deriving DecidableEq, Repr, Inhabited

namespace Upstream

def all : List Upstream := [conekta, polar]

def name : Upstream → String
  | conekta => "conekta"
  | polar => "polar"

def ofName? (s : String) : Option Upstream := all.find? fun u => u.name = s

end Upstream
end SubscriptionBilling
