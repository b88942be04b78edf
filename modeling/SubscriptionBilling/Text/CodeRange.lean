/-! Sets of characters given as closed ranges of code points. -/
namespace SubscriptionBilling.Text

/-- Membership of a character in a list of closed code point ranges. -/
def inRanges (ranges : List (Nat × Nat)) (c : Char) : Bool :=
  ranges.any fun r => r.1 ≤ c.toNat && c.toNat ≤ r.2

end SubscriptionBilling.Text
