import SubscriptionBilling.Crypto.Base64
import SubscriptionBilling.Text.Whole
import SubscriptionBilling.Url.Basic
import SubscriptionBilling.Url.Escape
import SubscriptionBilling.Url.HostName

/-! Addresses in the form in which they are called: every part escaped as far as it has to be, the
host in lower case and ASCII, the usual port left out, and the path free of dots. -/
namespace SubscriptionBilling

/-- An empty host or user is none; a query or fragment may be there and empty. -/
structure Address where
  scheme : String
  user : String
  host : String
  port : Option Int
  path : String
  query : Option String
  fragment : Option String
  deriving DecidableEq, Repr

namespace Address
open Text Url

/-- The most characters an address may have. -/
def maxLength : Nat := 65536

/-- Printable ASCII and everything beyond ASCII. -/
def isAllowed (c : Char) : Bool := 32 ≤ c.toNat && c.toNat ≠ 127

def isPrintable (c : Char) : Bool := 32 ≤ c.toNat && c.toNat < 127

def staysInFragment (c : Char) : Bool := isPrintable c && !(" \"<>`".toList.contains c)

def staysInQuery (c : Char) : Bool := isPrintable c && !(" \"#<>".toList.contains c)

def staysInPath (c : Char) : Bool := staysInQuery c && !("?`\x7b\x7d".toList.contains c)

def staysInUser (c : Char) : Bool := staysInPath c && !("/;=@[\\]^|".toList.contains c)

def staysInHost (c : Char) : Bool :=
  isUnreserved c || "!$&'()*+,;=\"`\x7b\x7d%|\\".toList.contains c

/-- The scheme in front of a colon and what follows it; the scheme may be empty. -/
def cutScheme (cs : List Char) : List Char × List Char :=
  match cutFirst ':' cs with
  | some ([], rest) => ([], rest)
  | some (first :: more, rest) =>
    if first.isAlpha && more.all isSchemeChar then (first :: more, rest) else ([], cs)
  | none => ([], cs)

/-- What stands between two slashes and the end of the authority, and what follows. -/
def cutAuthority : List Char → List Char × List Char
  | '/' :: '/' :: rest =>
    (rest.takeWhile fun c => !endsAuthority c, rest.dropWhile fun c => !endsAuthority c)
  | cs => ([], cs)

/-- What stands before and after the last occurrence of a character, if there is one. -/
def cutLast (sep : Char) (cs : List Char) : Option (List Char × List Char) :=
  (cutFirst sep cs.reverse).map fun (after, before) => (before.reverse, after.reverse)

/-- A host, in brackets or up to a colon or at sign, and what follows it. -/
def cutHost (cs : List Char) : List Char × List Char :=
  let plain := (cs.takeWhile fun c => c ≠ ':' ∧ c ≠ '@', cs.dropWhile fun c => c ≠ ':' ∧ c ≠ '@')
  match cs with
  | '[' :: _ =>
    match cutLast ']' cs with
    | some (before, after) => (before ++ [']'], after)
    | none => plain
  | _ => plain

/-- The states of a reading of four numbers with one character of any kind between each two: an
even state wants a digit, an odd one has had one. -/
def quadStep (states : List Nat) (c : Char) : List Nat :=
  (states.flatMap fun s =>
    if s % 2 = 0 then (if c.isDigit then [s + 1] else [])
    else (if c.isDigit then [s] else []) ++ (if s < 7 then [s + 1] else [])).eraseDups

/-- Whether a host looks like an address in numbers. -/
def looksNumeric (host : List Char) : Bool := (host.foldl quadStep [0]).contains 7

def host? (cs : List Char) : Option String :=
  if cs.isEmpty then some ""
  else if looksNumeric cs then (if isIPv4 cs then some (String.ofList cs) else none)
  else if cs.head? = some '[' ∧ cs.getLast? = some ']' then
    let inner := (cs.drop 1).dropLast
    if isIPv6 inner then some (String.ofList inner) else none
  else if cs.all fun c => c.toNat < 128 then
    some (String.ofList (escapeRest staysInHost (cs.map Char.toLower)))
  else (HostName.encode? (String.ofList cs)).map String.ofList

/-- The port that a scheme is called at unless another one is given. -/
def usualPort? : String → Option Int
  | "ftp" => some 21
  | "http" => some 80
  | "https" => some 443
  | "ws" => some 80
  | "wss" => some 443
  | _ => none

/-- A port other than the usual one; the text has to be empty or a number. -/
def port? (scheme text : String) : Option (Option Int) :=
  if text.isEmpty then some none
  else (whole? text).map fun n => if usualPort? scheme = some n then none else some n

/-- Takes one segment: a point stays where it is, two points go back, but not beyond the root. -/
def enter (done : List String) (segment : String) : List String :=
  if segment = "." then done
  else if segment = ".." then (if done = [""] then done else done.dropLast)
  else done ++ [segment]

def withoutDots (path : List Char) : List Char :=
  let segments := (pieces '/' path).map String.ofList
  if segments.contains "." || segments.contains ".." then
    ("/".intercalate (segments.foldl enter [])).toList
  else path

def pathValid (hasScheme hasAuthority : Bool) (path : List Char) : Bool :=
  if hasAuthority then path.isEmpty || path.head? == some '/'
  else hasScheme || !(path.take 2 == ['/', '/'] || path.head? == some ':')

/-- Reads an address; nothing for one that cannot be called. -/
def ofString? (s : String) : Option Address := do
  if maxLength < s.length || !s.toList.all isAllowed then none
  let (scheme, rest) := cutScheme s.toList
  let (authority, rest) := cutAuthority rest
  let path := rest.takeWhile fun c => c ≠ '?' ∧ c ≠ '#'
  let rest := rest.drop path.length
  let (query, rest) := match rest with
    | '?' :: more =>
      (some (more.takeWhile (· ≠ '#')), more.dropWhile (· ≠ '#'))
    | r => (none, r)
  let fragment := match rest with
    | '#' :: more => some more
    | _ => none
  let (user, located) := (cutLast '@' authority).getD ([], authority)
  let (hostPart, rest) := cutHost located
  let portPart := match rest with
    | ':' :: more => more
    | r => r
  let host ← host? hostPart
  let port ← port? (String.ofList scheme) (String.ofList portPart)
  let user := String.ofList (escapeRest staysInUser user)
  let hasScheme := !scheme.isEmpty
  let hasAuthority := !user.isEmpty || !host.isEmpty || port.isSome
  if !pathValid hasScheme hasAuthority path then none
  let path := if hasScheme || hasAuthority then withoutDots path else path
  some
    { scheme := String.ofList (scheme.map Char.toLower)
      user := user
      host := host
      port := port
      path := String.ofList (escapeRest staysInPath path)
      query := query.map fun q => String.ofList (escapeRest staysInQuery q)
      fragment := fragment.map fun f => String.ofList (escapeRest staysInFragment f) }

/-- An address that says by itself where it leads. -/
def isAbsolute (a : Address) : Bool := !a.scheme.isEmpty && !a.host.isEmpty

def authority (a : Address) : String :=
  (if a.user.isEmpty then "" else a.user ++ "@") ++
    (if a.host.toList.contains ':' then "[" ++ a.host ++ "]" else a.host) ++
    match a.port with
    | some n => ":" ++ toString n
    | none => ""

/-- The path with the query. -/
def target (a : Address) : String :=
  (if a.path.isEmpty then "/" else a.path) ++
    match a.query with
    | some q => "?" ++ q
    | none => ""

def fullText (a : Address) : String :=
  (if a.scheme.isEmpty then "" else a.scheme ++ ":") ++
    (if a.authority.isEmpty then "" else "//" ++ a.authority) ++ a.path ++
    (match a.query with
      | some q => "?" ++ q
      | none => "") ++
    match a.fragment with
    | some f => "#" ++ f
    | none => ""

/-- The address as it is called. One that is not absolute is called as a path from the root. -/
def text (a : Address) : String :=
  if a.isAbsolute then a.fullText
  else "/" ++ String.ofList (a.target.toList.dropWhile (· = '/'))

/-- Where an address leads from a base: itself, if it is absolute. -/
def from? (base s : String) : Option Address := do
  let a ← ofString? s
  if a.isAbsolute then some a else ofString? (base ++ a.text)

/-- The name and the password in an address as credentials of a request, when there are any. -/
def credentials? (a : Address) : Option String :=
  let (name, password) := (cutFirst ':' a.user.toList).getD (a.user.toList, [])
  if !a.isAbsolute || (name.isEmpty && password.isEmpty) then none
  else
    let pair := unescape (String.ofList name) ++ ":" ++ unescape (String.ofList password)
    some ("Basic " ++ String.ofList (Base64.encode (Hmac.bytesOf pair)))

end Address
end SubscriptionBilling
