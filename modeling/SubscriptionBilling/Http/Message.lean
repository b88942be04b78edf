import SubscriptionBilling.Failure
import SubscriptionBilling.Fields.Problem
import SubscriptionBilling.Json.Basic

/-! Requests to the service and its responses. -/
namespace SubscriptionBilling.Http

/-- Names of headers are in lower case; `host` is the name the service was called by. -/
structure Request where
  method : String
  host : String
  path : String
  query : List (String × String) := []
  headers : List (String × String) := []
  body : List UInt8 := []
  client : String := "127.0.0.1"

def Request.header? (r : Request) (name : String) : Option String := r.headers.lookup name

/-- The value of a query field; of several, the last one. -/
def Request.query? (r : Request) (name : String) : Option String := r.query.reverse.lookup name

/-- A problem and the names that lead to it. A response repeats the value at fault, if that can be
written at all. -/
structure Located where
  place : List String
  problem : Problem
  writable : Bool := true
  deriving DecidableEq, Repr

inductive Content where
  | empty
  | document (value : Json)
  | text (value : String)
  | problems (found : List Located)

structure Response where
  status : Nat
  headers : List (String × String) := []
  content : Content := .empty

namespace Response

def document (status : Nat) (v : Json) : Response := { status := status, content := .document v }

def detail (status : Nat) (message : String) : Response :=
  document status (.object [("detail", .string message)])

def problems (found : List Located) : Response := { status := 422, content := .problems found }

def redirect (status : Nat) (location : String) : Response :=
  { status := status, headers := [("location", location)] }

/-- The answer to a failure that nothing is prepared for. -/
def unexpected : Response := { status := 500, content := .text "Internal Server Error" }

def withHeader (r : Response) (name value : String) : Response :=
  { r with headers := r.headers ++ [(name, value)] }

/-- The answer to a failure. -/
def ofFailure : Failure → Response
  | .billing e =>
    document e.status (.object
      [("detail", .string e.message), ("error_code", .string e.code), ("context", e.context)])
  | .refused status message challenge =>
    if challenge then (detail status message).withHeader "www-authenticate" "Bearer"
    else detail status message
  | _ => unexpected

end Response
end SubscriptionBilling.Http
