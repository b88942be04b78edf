import SubscriptionBilling.Failure
import SubscriptionBilling.Network.Endpoint

/-! Calls to other systems: what was asked of each endpoint, what each will answer, and the pauses
taken between attempts. -/
namespace SubscriptionBilling

/-- What is sent or received: a document, or text as it stands. -/
inductive Content where
  | document (value : Json)
  | text (value : String)
  deriving Inhabited, Repr

/-- A call is made with named arguments, by fetching an address, or as a POST with headers and a
body. -/
inductive Request where
  | arguments (fields : List (String × Json))
  | fetch (url : String)
  | post (url : String) (headers : List (String × String)) (body : Content)
  deriving Repr

/-- An answer: an object, a refusal in words, silence until the time is up, a response with a
status, a connection that broke, or an address that cannot be called. -/
inductive Reply where
  | object (value : Json)
  | refusal (reason : String)
  | timeout
  | response (status : Nat) (content : Content)
  | broken (kind message : String)
  | unusable
  deriving Inhabited, Repr

structure Call where
  endpoint : Endpoint
  request : Request
  deriving Repr

/-- A wait of some seconds before the next attempt of a named piece of work; `after` counts the calls
that were made before it. -/
structure Pause where
  work : String
  seconds : Rat
  after : Nat

/-- `replies` holds the answers still to come; calls and pauses are kept in the order in which they
were made. -/
structure Network where
  replies : Endpoint → List Reply := fun _ => []
  calls : List Call := []
  pauses : List Pause := []

namespace Network

/-- Makes a call and takes the next answer of its endpoint, if there is one left. -/
def call (n : Network) (e : Endpoint) (r : Request) : Option Reply × Network :=
  ((n.replies e).head?,
    { n with
      replies := fun f => if f = e then (n.replies f).tail else n.replies f
      calls := n.calls ++ [⟨e, r⟩] })

def pause (n : Network) (work : String) (seconds : Rat) : Network :=
  { n with pauses := n.pauses ++ [⟨work, seconds, n.calls.length⟩] }

end Network

/-- Work that calls other systems and may fail; calls made before a failure stay made. -/
abbrev Online := ExceptT Failure (StateM Network)

namespace Online

def ask (e : Endpoint) (r : Request) : Online (Option Reply) := fun n =>
  let (reply, n) := n.call e r
  (.ok reply, n)

def pause (work : String) (seconds : Rat) : Online Unit := fun n => (.ok (), n.pause work seconds)

/-- The result of work, or why it failed; never fails itself. -/
def outcome (x : Online α) : Online (Except Failure α) := fun n =>
  let (r, n) := x n
  (.ok r, n)

end Online
end SubscriptionBilling
