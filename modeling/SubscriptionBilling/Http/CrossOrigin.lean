import SubscriptionBilling.Http.Message
import SubscriptionBilling.Settings

/-! Requests from pages of other origins. The origins are those of a local environment, whatever
the settings say later. -/
namespace SubscriptionBilling.Http.CrossOrigin

def isAllowed (origin : String) : Bool := (Settings.originsOf .local).contains origin

def methods : List String := ["DELETE", "GET", "HEAD", "OPTIONS", "PATCH", "POST", "PUT"]

def allowHeader : String := "access-control-allow-origin"

/-- The question whether a request would be allowed; `privateNetwork` asks to leave a public
network with it. -/
structure Question where
  origin : String
  method : String
  privateNetwork : Bool
  deriving DecidableEq, Repr

/-- The answer to a question. Private networks are closed. -/
def preflight (q : Question) : Response :=
  let refused := (if isAllowed q.origin then [] else ["origin"]) ++
    (if methods.contains q.method then [] else ["method"]) ++
    (if q.privateNetwork then ["private-network"] else [])
  let r : Response :=
    if refused.isEmpty then { status := 200, content := .text "OK" }
    else { status := 400, content := .text ("Disallowed CORS " ++ ", ".intercalate refused) }
  if isAllowed q.origin then r.withHeader allowHeader q.origin else r

/-- The question in a request. -/
def question? (r : Request) : Option Question :=
  if r.method = "OPTIONS" then do
    let origin ← r.header? "origin"
    let method ← r.header? "access-control-request-method"
    some ⟨origin, method, (r.header? "access-control-request-private-network").isSome⟩
  else none

/-- Tells an allowed origin so. -/
def annotate (request : Request) (r : Response) : Response :=
  match request.header? "origin" with
  | some origin => if isAllowed origin then r.withHeader allowHeader origin else r
  | none => r

end SubscriptionBilling.Http.CrossOrigin
