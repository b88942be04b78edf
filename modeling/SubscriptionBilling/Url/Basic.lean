import SubscriptionBilling.Text.CaseMap
import SubscriptionBilling.Text.Split

/-! The parts of a URL that say where it leads: scheme, authority and host. A backslash is an
ordinary character, and a port is not checked. -/
namespace SubscriptionBilling.Url
open Text

/-- A URL without control characters and spaces in front, and without tabs and line ends. -/
def clean (cs : List Char) : List Char :=
  (cs.dropWhile fun c => c.toNat ≤ 32).filter fun c => c ≠ '\t' ∧ c ≠ '\n' ∧ c ≠ '\r'

def isSchemeChar (c : Char) : Bool := c.isAlphanum || c = '+' || c = '-' || c = '.'

/-- The scheme in lower case, empty if there is none, and what follows it. -/
def takeScheme (cs : List Char) : List Char × List Char :=
  match cutFirst ':' cs with
  | some (first :: more, rest) =>
    if first.isAlpha && more.all isSchemeChar then ((first :: more).map Char.toLower, rest)
    else ([], cs)
  | _ => ([], cs)

def endsAuthority (c : Char) : Bool := c = '/' || c = '?' || c = '#'

/-- What stands between two slashes and the next slash, question mark or number sign. -/
def takeAuthority : List Char → List Char
  | '/' :: '/' :: rest => rest.takeWhile fun c => !endsAuthority c
  | _ => []

def hexGroup (g : List Char) : Bool :=
  !g.isEmpty && g.length ≤ 4 && g.all fun c => c.isDigit || ('a' ≤ c.toLower && c.toLower ≤ 'f')

/-- Four numbers up to 255 without leading zeros. -/
def isIPv4 (cs : List Char) : Bool :=
  let parts := pieces '.' cs
  parts.length = 4 && parts.all fun p =>
    !p.isEmpty && p.length ≤ 3 && p.all Char.isDigit && !(1 < p.length && p.head? == some '0') &&
      p.foldl (fun n c => 10 * n + (c.toNat - 48)) 0 ≤ 255

/-- The groups of an address in version 6; an address of version 4 at the end stands for two. -/
def groups? (cs : List Char) : Option (List (List Char)) :=
  let parts := pieces ':' cs
  if parts.length < 3 then none
  else
    match parts.getLast? with
    | some last =>
      if last.contains '.' then
        if isIPv4 last then some (parts.dropLast ++ [['0'], ['0']]) else none
      else some parts
    | none => none

/-- Positions of empty groups that are neither first nor last. -/
def innerGaps (parts : List (List Char)) : List Nat :=
  ((List.range parts.length).zip parts).filterMap fun p =>
    if 0 < p.1 && p.1 + 1 < parts.length && p.2.isEmpty then some p.1 else none

/-- Eight groups, or fewer with one gap of two colons in place of the zeros left out. -/
def validGroups (parts : List (List Char)) : Bool :=
  if 9 < parts.length then false
  else
    match innerGaps parts with
    | [] => parts.length = 8 && parts.all hexGroup
    | [gap] =>
      let before := parts.take gap
      let after := parts.drop (gap + 1)
      let high := if before.head? == some [] then before.drop 1 else before
      let low := if after.getLast? == some [] then after.dropLast else after
      (before.head? != some [] || high.isEmpty) && (after.getLast? != some [] || low.isEmpty) &&
        high.length + low.length ≤ 7 && high.all hexGroup && low.all hexGroup
    | _ => false

def isIPv6 (cs : List Char) : Bool :=
  let (address, zoned) := match cutFirst '%' cs with
    | some (a, scope) => (a, !scope.isEmpty && !scope.contains '%')
    | none => (cs, true)
  !cs.contains '/' && zoned &&
    match groups? address with
    | some parts => validGroups parts
    | none => false

/-- An address of a future version: `v`, hexadecimal digits, a point and at least one character
that is not a line end. -/
def isFutureAddress (cs : List Char) : Bool :=
  match cs with
  | 'v' :: rest =>
    let digits := rest.takeWhile fun c => hexGroup [c]
    match rest.dropWhile fun c => hexGroup [c] with
    | '.' :: tail => !digits.isEmpty && !tail.isEmpty
    | _ => false
  | _ => false

def isBracketed (cs : List Char) : Bool :=
  if cs.head? == some 'v' then isFutureAddress cs else isIPv6 cs

/-- What follows the last occurrence of a character, or everything. -/
def afterLast (sep : Char) (cs : List Char) : List Char := ((pieces sep cs).getLast?).getD cs

/-- Brackets come in pairs. The host, behind the user, is in brackets with nothing in front and at
most a port behind. When only the user has brackets, the host has to be an address all the same. -/
def bracketsValid (authority : List Char) : Bool :=
  match authority.contains '[', authority.contains ']' with
  | false, false => true
  | true, true =>
    let info := afterLast '@' authority
    match cutFirst '[' info with
    | some (before, bracketed) =>
      let (inner, tail) := (cutFirst ']' bracketed).getD (bracketed, [])
      before.isEmpty && (tail.isEmpty || tail.head? == some ':') && isBracketed inner
    | none => isBracketed (((cutFirst ':' info).map Prod.fst).getD info)
  | _, _ => false

/-- Characters that compatibility normalization turns into text with one of `/ ? # @ :`. -/
def disguised : List Nat :=
  [0x2047, 0x2048, 0x2049, 0x2100, 0x2101, 0x2105, 0x2106, 0x2a74, 0xfe13, 0xfe16, 0xfe55, 0xfe56,
    0xfe5f, 0xfe6b, 0xff03, 0xff0f, 0xff1a, 0xff1f, 0xff20]

structure Parts where
  scheme : String
  authority : String
  deriving DecidableEq, Repr

/-- The parts of a URL; nothing for brackets without an address or a disguised separator in the
authority. -/
def split? (url : String) : Option Parts :=
  let (scheme, rest) := takeScheme (clean url.toList)
  let authority := takeAuthority rest
  if bracketsValid authority && !(authority.any fun c => disguised.contains c.toNat) then
    some ⟨String.ofList scheme, String.ofList authority⟩
  else none

/-- The host of an authority in lower case, behind the user and before the port. In a bracketed
address the part from a percent sign on keeps its case. -/
def hostOf (authority : String) : String :=
  let info := afterLast '@' authority.toList
  let host := match cutFirst '[' info with
    | some (_, bracketed) => ((cutFirst ']' bracketed).map Prod.fst).getD bracketed
    | none => ((cutFirst ':' info).map Prod.fst).getD info
  match cutFirst '%' host with
  | some (name, zone) => lower (String.ofList name) ++ "%" ++ String.ofList zone
  | none => lower (String.ofList host)

def Parts.host (p : Parts) : String := hostOf p.authority

end SubscriptionBilling.Url
