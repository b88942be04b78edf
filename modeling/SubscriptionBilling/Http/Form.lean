import SubscriptionBilling.Catalog.Product
import SubscriptionBilling.Fields.Record
import SubscriptionBilling.Http.Identifier
import SubscriptionBilling.Http.Message
import SubscriptionBilling.Json.Reader

/-! Reading what requests carry. All fields of a form are read, and every problem is reported in
the order of the fields. -/
namespace SubscriptionBilling.Http
open Fields

abbrev Checked (α : Type) := Except (List Located) α

namespace Checked

/-- Two results, or the problems of both. -/
def both (a : Checked α) (b : Checked β) : Checked (α × β) :=
  match a, b with
  | .ok x, .ok y => .ok (x, y)
  | .error p, .error q => .error (p ++ q)
  | .error p, .ok _ => .error p
  | .ok _, .error q => .error q

/-- A value, or its problem at a place. -/
def found (place : List String) (r : Except Problem α) : Checked α :=
  r.mapError fun p => [⟨place, p, true⟩]

/-- A value that is read from a document, or its problem at a place. -/
def readAt (place : List String) (read : Json → Except Problem α) (v : Json) : Checked α :=
  (read v).mapError fun p => [⟨place, p, v.isFinite && v.isEncodable⟩]

end Checked

open Checked

/-- A text of at least and at most so many characters. -/
def sizedText (least : Nat) (most : Option Nat) (v : Json) : Except Problem String := do
  let s ← (text v).mapError fun _ => .notText
  if s.length < least then throw .tooShort
  match most with
  | some n => if n < s.length then throw .tooLong else return s
  | none => return s

/-- A field under the first of its names that is given. -/
def named (names : List String) (fields : List (String × Json)) : Option (String × Json) :=
  names.findSome? fun n => (fields.lookup n).map fun v => (n, v)

/-- A field of a body that may be missing or null. -/
def optionalField (names : List String) (read : Json → Except Problem α)
    (fields : List (String × Json)) : Checked (Option α) :=
  match named names fields with
  | some (name, v) => Checked.readAt ["body", name] (nullable read) v
  | none => .ok none

structure UpgradeForm where
  plan : Option String
  product : Option Product
  organizationId : Option String
  country : Option String
  successUrl : Option String
  cancelUrl : Option String
  deriving DecidableEq, Repr

def UpgradeForm.ofFields (fs : List (String × Json)) : Checked UpgradeForm :=
  let plan := optionalField ["plan"] text fs
  let product := optionalField ["product"] (listed Product.ofName?) fs
  let organization := optionalField ["orgId", "org_id"] text fs
  let country := optionalField ["countryCode", "country_code"] (sizedText 2 (some 2)) fs
  let success := optionalField ["successUrl", "success_url"] text fs
  let cancel := optionalField ["cancelUrl", "cancel_url"] text fs
  (both plan (both product (both organization (both country (both success cancel))))).map
    fun ⟨p, pr, o, c, s, k⟩ => ⟨p, pr, o, c, s, k⟩

/-- The return URL in a request for the portal. -/
def portalReturnUrl (fs : List (String × Json)) : Checked (Option String) :=
  optionalField ["returnUrl", "return_url"] text fs

/-- What a body holds before its fields are read. -/
inductive BodyContent where
  | missing
  | fields (fs : List (String × Json))
  | other (writable : Bool)

/-- The type and subtype in a content type, without its parameters. -/
def mediaType (contentType : String) : List (List Char) :=
  Text.pieces '/'
    (Text.trimCharsBy Text.isBlank (contentType.toLower.toList.takeWhile (· ≠ ';')))

/-- Whether a content type is that of documents. -/
def isDocumentType (contentType : String) : Bool :=
  match mediaType contentType with
  | [type, subtype] =>
    type = "application".toList &&
      (subtype = "json".toList || "+json".toList.isSuffixOf subtype)
  | _ => false

/-- Reads a body, or says how to answer when it cannot be read. -/
def bodyContent (r : Request) : Except Response BodyContent :=
  if r.body.isEmpty then .ok .missing
  else if !isDocumentType ((r.header? "content-type").getD "") then
    .ok (.other (String.fromUTF8? ⟨r.body.toArray⟩).isSome)
  else
    match Json.ofBytes r.body with
    | .ok (.object fs) => .ok (.fields fs)
    | .ok v => .ok (.other (v.isFinite && v.isEncodable))
    | .error .malformed => .error (Response.problems [⟨["body"], .unreadableDocument, true⟩])
    | .error _ => .error (Response.detail 400 "There was an error parsing the body")

def ofBody (read : List (String × Json) → Checked α) : BodyContent → Checked α
  | .missing => .error [⟨["body"], .missing, true⟩]
  | .other writable => .error [⟨["body"], .notRecord, writable⟩]
  | .fields fs => read fs

/-- A field of a query that has to be there. -/
def neededQuery (r : Request) (name : String) (read : Json → Except Problem α) : Checked α :=
  match r.query? name with
  | some s => Checked.found ["query", name] (read (.string s))
  | none => .error [⟨["query", name], .missing, true⟩]

def optionalQuery (r : Request) (name : String) (read : Json → Except Problem α) :
    Checked (Option α) :=
  match r.query? name with
  | some s => (Checked.found ["query", name] (read (.string s))).map some
  | none => .ok none

def identifier (v : Json) : Except Problem String := do
  match Identifier.normal? (← text v) with
  | some id => return id
  | none => throw .unreadableUuid

structure CheckoutQuery where
  plan : String
  userId : String
  returnUrl : String
  product : Option Product
  deriving DecidableEq, Repr

def CheckoutQuery.ofRequest (r : Request) : Checked CheckoutQuery :=
  let plan := neededQuery r "plan" (sizedText 1 none)
  let user := neededQuery r "user_id" identifier
  let returnUrl := neededQuery r "return_url" (sizedText 1 none)
  let product := optionalQuery r "product" (listed Product.ofName?)
  (both plan (both user (both returnUrl product))).map fun ⟨p, u, l, pr⟩ => ⟨p, u, l, pr⟩

/-- A whole number from 1 to 100. -/
def historyLimit (v : Json) : Except Problem Int := do
  let n ← whole v
  if n < 1 then throw .belowMinimum
  if 100 < n then throw .aboveMaximum
  return n

end SubscriptionBilling.Http
