import SubscriptionBilling.Text.CodeRange

/-! Blank characters and trimming. Two sets are in use: the White_Space property, and the wider
one that also holds the four ASCII separators 28 to 31. -/
namespace SubscriptionBilling.Text

def whiteSpaceRanges : List (Nat × Nat) :=
  [(9, 13), (32, 32), (133, 133), (160, 160), (5760, 5760), (8192, 8202), (8232, 8233),
   (8239, 8239), (8287, 8287), (12288, 12288)]

/-- The White_Space property. -/
def isWhiteSpace (c : Char) : Bool := inRanges whiteSpaceRanges c

/-- The white space of ASCII. -/
def isAsciiSpace (c : Char) : Bool := c = ' ' || (9 ≤ c.toNat && c.toNat ≤ 13)

/-- White space or one of the separators 28 to 31. -/
def isBlank (c : Char) : Bool := isWhiteSpace c || (28 ≤ c.toNat && c.toNat ≤ 31)

def trimCharsBy (p : Char → Bool) (cs : List Char) : List Char :=
  ((cs.dropWhile p).reverse.dropWhile p).reverse

def trimBy (p : Char → Bool) (s : String) : String := String.ofList (trimCharsBy p s.toList)

def trimBlank (s : String) : String := trimBy isBlank s

end SubscriptionBilling.Text
