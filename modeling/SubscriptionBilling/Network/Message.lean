import SubscriptionBilling.Crypto.Hmac
import SubscriptionBilling.Network.Basic
import SubscriptionBilling.Json.Reader
import SubscriptionBilling.Json.Writer
import SubscriptionBilling.Text.Quoted
import SubscriptionBilling.Url.Address

/-! Messages over HTTP: addresses below a base, contents of responses, and connections that
broke. -/
namespace SubscriptionBilling

/-- A base address without slashes at its end. -/
def trimSlashes (base : String) : String :=
  String.ofList ((base.toList.reverse.dropWhile (· = '/')).reverse)

/-- How a broken connection is named in a reason. -/
def brokenText (kind message : String) : String := kind ++ "(" ++ Text.quoted message ++ ")"

/-- The break that stands for an endpoint with no answer left. -/
def noReplyText : String := brokenText "ConnectError" "no reply"

namespace Content

def isEmpty : Content → Bool
  | document .null => true
  | document _ => false
  | text s => s.isEmpty

/-- The document in a content. -/
def read : Content → Except Json.ReadError Json
  | document v => .ok v
  | text s => Json.ofBytes (Hmac.bytesOf s)

def asText : Content → String
  | document .null => ""
  | document v => v.write Json.compactUnicode
  | text s => s

/-- A content can be sent when its texts can be encoded and its numbers are finite. -/
def checkSendable : Content → Except Failure Unit
  | document v =>
    if !v.isFinite then .error .unwritable
    else if !v.isEncodable then .error .unencodable
    else .ok ()
  | text _ => .ok ()

end Content

/-- Headers hold ASCII alone. -/
def headersValid (headers : List (String × String)) : Bool :=
  headers.all fun h => h.2.toList.all fun c => c.toNat < 128

/-- Headers in which credentials from the address take the place of others. -/
def withCredentials (a : Address) (headers : List (String × String)) : List (String × String) :=
  match a.credentials? with
  | some credentials =>
    headers.filter (fun h => h.1 ≠ "authorization") ++ [("authorization", credentials)]
  | none => headers

/-- Posts a content. What cannot be called or sent fails before the call, a response from an address
that is not absolute after it. -/
def Online.post (e : Endpoint) (url : String) (headers : List (String × String)) (body : Content) :
    Online (Option Reply) := do
  let some address := Address.ofString? url | throw .invalidAddress
  if !headersValid headers then throw .unencodable
  body.checkSendable
  let reply ← Online.ask e (.post address.text (withCredentials address headers) body)
  match reply with
  | some (.response ..) => if address.isAbsolute then return reply else throw .relativeAddress
  | _ => return reply

end SubscriptionBilling
