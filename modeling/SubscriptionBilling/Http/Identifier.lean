/-! Identifiers of 128 bits (UUIDs) in their written forms: 32 digits, groups of 8, 4, 4, 4 and 12
digits joined by hyphens, and these groups in braces or after `urn:uuid:`. -/
namespace SubscriptionBilling.Identifier

def isHex (c : Char) : Bool := c.isDigit || ('a' ≤ c.toLower && c.toLower ≤ 'f')

def groupLengths : List Nat := [8, 4, 4, 4, 12]

/-- Groups of the given lengths joined by hyphens, as one run of digits. -/
def joined? : List Nat → List Char → Option (List Char)
  | [], _ => none
  | [n], cs => if cs.length = n ∧ cs.all isHex then some cs else none
  | n :: more, cs =>
    let g := cs.take n
    match cs.drop n with
    | '-' :: rest =>
      if g.length = n ∧ g.all isHex then (joined? more rest).map (g ++ ·) else none
    | _ => none

def digits? (cs : List Char) : Option (List Char) :=
  match cs.length with
  | 32 => if cs.all isHex then some cs else none
  | 36 => joined? groupLengths cs
  | 38 =>
    if cs.head? = some '\x7b' ∧ cs.getLast? = some '\x7d' then
      joined? groupLengths (cs.drop 1).dropLast
    else none
  | 45 => if cs.take 9 = "urn:uuid:".toList then joined? groupLengths (cs.drop 9) else none
  | _ => none

/-- Digits in groups. -/
def hyphened : List Nat → List Char → List Char
  | [], _ => []
  | [n], ds => ds.take n
  | n :: more, ds => ds.take n ++ '-' :: hyphened more (ds.drop n)

/-- The common form of an identifier: small digits in groups. -/
def normal? (s : String) : Option String :=
  (digits? s.toList).map fun ds => String.ofList (hyphened groupLengths (ds.map Char.toLower))

end SubscriptionBilling.Identifier
