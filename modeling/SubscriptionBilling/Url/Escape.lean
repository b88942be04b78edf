import SubscriptionBilling.Crypto.Hmac
import SubscriptionBilling.Text.Encoding

/-! Percent escapes in URLs. -/
namespace SubscriptionBilling.Url
open Text

def highHexDigit (n : Nat) : Char := if n < 10 then Char.ofNat (48 + n) else Char.ofNat (55 + n)

def escapeByte (b : UInt8) : List Char :=
  ['%', highHexDigit (b.toNat / 16), highHexDigit (b.toNat % 16)]

def isUnreserved (c : Char) : Bool :=
  c.isAlphanum || c = '-' || c = '.' || c = '_' || c = '~'

/-- Characters that stay as they are in an address that is passed on whole. -/
def staysInAddress (c : Char) : Bool :=
  isUnreserved c || ":/%#?=@[]!$&'()*+,;".toList.contains c

def escapeChar (c : Char) : List Char := (Hmac.bytesOf (String.singleton c)).flatMap escapeByte

/-- The bytes of all characters but those that stay, each as an escape. -/
def escapeBut (stays : Char → Bool) (s : String) : String :=
  String.ofList (s.toList.flatMap fun c => if stays c then [c] else escapeChar c)

/-- An address as it is written in a header. -/
def location (s : String) : String := escapeBut staysInAddress s

/-- A name or value in a query, where a plus sign stands for a space. -/
def queryPart (s : String) : String :=
  String.ofList ((escapeBut (fun c => isUnreserved c || c = ' ') s).toList.map fun c =>
    if c = ' ' then '+' else c)

/-- A path in an address: no question mark or number sign ends it. -/
def pathText (path : String) : String :=
  escapeBut (fun c => isUnreserved c || "/!$&'()*+,;=:@".toList.contains c) path

/-- The query of an address. -/
def queryText (query : List (String × String)) : String :=
  "&".intercalate (query.map fun p => queryPart p.1 ++ "=" ++ queryPart p.2)

def hexValue? (c : Char) : Option Nat :=
  if c.isDigit then some (c.toNat - 48)
  else
    let n := c.toLower.toNat
    if 97 ≤ n ∧ n ≤ 102 then some (n - 87) else none

def byteOf? (high low : Char) : Option UInt8 := do
  return UInt8.ofNat (16 * (← hexValue? high) + (← hexValue? low))

/-- The bytes of a text with its escapes taken out. -/
def unescapedBytes : List Char → List UInt8
  | '%' :: high :: low :: rest =>
    match byteOf? high low with
    | some b => b :: unescapedBytes rest
    | none => Hmac.bytesOf "%" ++ unescapedBytes (high :: low :: rest)
  | c :: rest => Hmac.bytesOf (String.singleton c) ++ unescapedBytes rest
  | [] => []

/-- A text without escapes; bytes that then are no text become replacement characters. -/
def unescape (s : String) : String := String.ofList (decodeLossy (unescapedBytes s.toList))

/-- Escapes all characters but those that stay, and leaves escapes as they are. -/
def escapeRest (stays : Char → Bool) : List Char → List Char
  | '%' :: high :: low :: rest =>
    if (byteOf? high low).isSome then '%' :: high :: low :: escapeRest stays rest
    else (if stays '%' then ['%'] else escapeChar '%') ++ escapeRest stays (high :: low :: rest)
  | c :: rest => (if stays c then [c] else escapeChar c) ++ escapeRest stays rest
  | [] => []

end SubscriptionBilling.Url
