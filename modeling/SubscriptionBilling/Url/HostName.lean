import SubscriptionBilling.Text.CaseMap
import SubscriptionBilling.Text.Digits
import SubscriptionBilling.Text.Letters
import SubscriptionBilling.Text.Split
import SubscriptionBilling.Url.Punycode

/-! Host names beyond ASCII. Their labels hold letters, digits and hyphens, in lower case and free
of compatibility forms, and are called by an encoding in ASCII. -/
namespace SubscriptionBilling.HostName
open Text

/-- Letters and digits that compatibility normalization and case folding change. -/
def unstableRanges : List (Nat × Nat) :=
  [(170, 186), (307, 307), (320, 320), (329, 329), (383, 383), (454, 460), (499, 499), (688, 696),
   (736, 740), (884, 884), (890, 890), (976, 982), (1008, 1010), (1013, 1013), (1415, 1415),
   (1653, 1656), (2392, 2399), (2524, 2527), (2611, 2611), (2614, 2614), (2649, 2651),
   (2654, 2654), (2908, 2909), (3635, 3635), (3763, 3763), (3804, 3805), (3907, 3907),
   (3917, 3917), (3922, 3922), (3927, 3927), (3932, 3932), (3945, 3945), (4348, 4348),
   (5112, 5117), (7296, 7304), (7468, 7470), (7472, 7482), (7484, 7501), (7503, 7530),
   (7544, 7544), (7579, 7615), (7834, 7835), (8049, 8049), (8051, 8051), (8053, 8053),
   (8055, 8055), (8057, 8057), (8059, 8059), (8061, 8103), (8114, 8116), (8119, 8132),
   (8135, 8135), (8147, 8147), (8163, 8163), (8178, 8180), (8183, 8521), (11388, 11389),
   (11631, 11631), (12447, 12447), (12543, 12543), (12593, 12686), (42652, 42653), (42864, 42864),
   (42994, 42996), (43000, 43001), (43868, 43871), (43881, 43967), (63744, 64013), (64016, 64016),
   (64018, 64018), (64021, 64030), (64032, 64032), (64034, 64034), (64037, 64038), (64042, 65138),
   (65140, 65500), (67457, 67514), (119808, 120831), (126464, 130041), (194560, 195101)]

/-- Characters that separate labels. -/
def isLabelEnd (c : Char) : Bool := c = '.' || c = '。' || c = '．' || c = '｡'

def isLabelChar (c : Char) : Bool :=
  if c.toNat < 128 then c.isLower || c.isDigit || c = '-'
  else (isLetter c || (digitValue? c).isSome) && !inRanges unstableRanges c

/-- A label in its own script: no hyphen at either end, nor two in the third and fourth place. -/
def isLabel (cs : List Char) : Bool :=
  !cs.isEmpty && cs.all isLabelChar && cs.head? != some '-' && cs.getLast? != some '-' &&
    (cs.drop 2).take 2 != ['-', '-']

def encodedMark : List Char := "xn--".toList

/-- A label as it is called; one that is encoded already is taken as it is. -/
def encodeLabel? (cs : List Char) : Option (List Char) :=
  let encoded? :=
    if cs.all fun c => c.toNat < 128 then
      if encodedMark.isPrefixOf cs then
        if cs.length ≤ 4 ∨ cs.getLast? = some '-' ∨ !cs.all isLabelChar then none else some cs
      else if isLabel cs then some cs else none
    else if isLabel cs then some (encodedMark ++ Punycode.encode cs)
    else none
  encoded?.filter fun e => e.length ≤ 63

/-- The most characters a name may have, a point at its end not counted. -/
def maxLength : Nat := 253

/-- A name as it is called; a point may stand at its end. -/
def encode? (name : String) : Option (List Char) := do
  let labels := pieces '.' ((lower name).toList.map fun c => if isLabelEnd c then '.' else c)
  let (labels, ending) := match labels.getLast? with
    | some [] => (labels.dropLast, ['.'])
    | _ => (labels, [])
  let encoded := ['.'].intercalate (← labels.mapM encodeLabel?)
  if encoded.isEmpty ∨ maxLength < encoded.length then none else some (encoded ++ ending)

end SubscriptionBilling.HostName
