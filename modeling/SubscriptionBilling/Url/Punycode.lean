/-! Text beyond ASCII in the letters, digits and hyphens of host names: the ASCII characters come
first, then each other one as the distance to where it goes, in ascending order of code points. -/
namespace SubscriptionBilling.Punycode

/-- A digit below 36. -/
def digit (n : Nat) : Char := if n < 26 then Char.ofNat (97 + n) else Char.ofNat (22 + n)

/-- The value from which on the digit at a place is followed by another one. -/
def threshold (place bias : Nat) : Nat :=
  if place ≤ bias then 1 else if bias + 26 ≤ place then 26 else place - bias

theorem one_le_threshold (place bias : Nat) : 1 ≤ threshold place bias := by
  unfold threshold
  split
  · omega
  · split <;> omega

/-- A number of any size in digits whose thresholds grow with their place. -/
def digits (bias place n : Nat) : List Char :=
  let t := threshold place bias
  if n < t then [digit n]
  else digit (t + (n - t) % (36 - t)) :: digits bias (place + 36) ((n - t) / (36 - t))
termination_by n
decreasing_by
  have := one_le_threshold place bias
  have := Nat.div_le_self (n - threshold place bias) (36 - threshold place bias)
  omega

/-- Divides by 35 while the number is large, and counts the divisions. -/
def shrink (n divisions : Nat) : Nat × Nat :=
  if 455 < n then shrink (n / 35) (divisions + 1) else (n, divisions)
termination_by n
decreasing_by exact Nat.div_lt_self (by omega) (by omega)

/-- The bias after a distance, when `written` characters are in place. -/
def adapt (distance written : Nat) (first : Bool) : Nat :=
  let d := if first then distance / 700 else distance / 2
  let (n, divisions) := shrink (d + d / written) 0
  36 * divisions + 36 * n / (n + 38)

structure State where
  output : List Char
  distance : Nat
  bias : Nat
  written : Nat

/-- Meets one character while those of the code point `current` are put in place. -/
def meet (basic current : Nat) (s : State) (c : Char) : State :=
  if c.toNat < current then { s with distance := s.distance + 1 }
  else if c.toNat = current then
    ⟨s.output ++ digits s.bias 36 s.distance, 0,
      adapt s.distance (s.written + 1) (s.written = basic), s.written + 1⟩
  else s

/-- Puts the characters of ascending code points in place; those below `next` are done. -/
def place (text : List Char) (basic : Nat) : List Nat → Nat → State → State
  | [], _, s => s
  | current :: more, next, s =>
    let s := { s with distance := s.distance + (current - next) * (s.written + 1) }
    let s := text.foldl (meet basic current) s
    place text basic more (current + 1) { s with distance := s.distance + 1 }

def encode (text : List Char) : List Char :=
  let ascii := text.filter fun c => c.toNat < 128
  let others := ((text.filter fun c => 128 ≤ c.toNat).map Char.toNat).eraseDups.mergeSort
  let start := if ascii.isEmpty then [] else ascii ++ ['-']
  (place text ascii.length others 128 ⟨start, 0, 72, ascii.length⟩).output

end SubscriptionBilling.Punycode
