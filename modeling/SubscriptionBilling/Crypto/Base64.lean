/-! Base 64. Encoding uses the first alphabet, with padding. Decoding the forgiving way takes both
alphabets and skips characters of neither, and padding that completes a group ends the data.
Decoding the exact way takes one spelling for each value. -/
namespace SubscriptionBilling.Base64

def value? (c : Char) : Option Nat :=
  if 'A' ≤ c ∧ c ≤ 'Z' then some (c.toNat - 65)
  else if 'a' ≤ c ∧ c ≤ 'z' then some (c.toNat - 71)
  else if c.isDigit then some (c.toNat + 4)
  else if c = '+' ∨ c = '-' then some 62
  else if c = '/' ∨ c = '_' then some 63
  else none

/-- `filled` characters of the current group are taken, their bits not yet given out are `bits`,
and `pads` padding characters follow them. -/
def decodeFrom (filled bits pads : Nat) : List Char → Option (List UInt8)
  | [] => if filled = 0 then some [] else none
  | c :: rest =>
    if c = '=' then
      if 2 ≤ filled then
        if 4 ≤ filled + (pads + 1) then some [] else decodeFrom filled bits (pads + 1) rest
      else decodeFrom filled bits pads rest
    else
      match value? c with
      | none => decodeFrom filled bits pads rest
      | some v =>
        match filled with
        | 0 => decodeFrom 1 v 0 rest
        | 1 => (decodeFrom 2 (v % 16) 0 rest).map (UInt8.ofNat (bits * 4 + v / 16) :: ·)
        | 2 => (decodeFrom 3 (v % 4) 0 rest).map (UInt8.ofNat (bits * 16 + v / 4) :: ·)
        | _ => (decodeFrom 0 0 0 rest).map (UInt8.ofNat (bits * 64 + v) :: ·)

def decode (cs : List Char) : Option (List UInt8) := decodeFrom 0 0 0 cs

/-- Decodes text whose padding was left off. -/
def decodeUnpadded (cs : List Char) : Option (List UInt8) :=
  let excess := (String.ofList cs).utf8ByteSize % 4
  decode (if excess = 0 then cs else cs ++ List.replicate (4 - excess) '=')

/-- The value of a character in the alphabet for addresses alone. -/
def urlValue? (c : Char) : Option Nat := if c = '+' ∨ c = '/' then none else value? c

/-- Decodes text in the alphabet for addresses, without padding, in the one form that encoding
gives: the bits that the last character has too many are zero. -/
def decodeCanonical? : List Char → Option (List UInt8)
  | [] => some []
  | [_] => none
  | [a, b] => do
    let x ← urlValue? a
    let y ← urlValue? b
    if y % 16 = 0 then some [UInt8.ofNat (x * 4 + y / 16)] else none
  | [a, b, c] => do
    let x ← urlValue? a
    let y ← urlValue? b
    let z ← urlValue? c
    if z % 4 = 0 then
      some [UInt8.ofNat (x * 4 + y / 16), UInt8.ofNat (y % 16 * 16 + z / 4)]
    else none
  | a :: b :: c :: d :: rest => do
    let x ← urlValue? a
    let y ← urlValue? b
    let z ← urlValue? c
    let w ← urlValue? d
    let more ← decodeCanonical? rest
    some (UInt8.ofNat (x * 4 + y / 16) :: UInt8.ofNat (y % 16 * 16 + z / 4) ::
      UInt8.ofNat (z % 4 * 64 + w) :: more)

/-- The character of a value below 64. -/
def digit (n : Nat) : Char :=
  if n < 26 then Char.ofNat (65 + n)
  else if n < 52 then Char.ofNat (71 + n)
  else if n < 62 then Char.ofNat (n - 4)
  else if n = 62 then '+'
  else '/'

def encode : List UInt8 → List Char
  | [] => []
  | [a] => [digit (a.toNat / 4), digit (a.toNat % 4 * 16), '=', '=']
  | [a, b] =>
    [digit (a.toNat / 4), digit (a.toNat % 4 * 16 + b.toNat / 16), digit (b.toNat % 16 * 4), '=']
  | a :: b :: c :: rest =>
    digit (a.toNat / 4) :: digit (a.toNat % 4 * 16 + b.toNat / 16) ::
      digit (b.toNat % 16 * 4 + c.toNat / 64) :: digit (c.toNat % 64) :: encode rest

end SubscriptionBilling.Base64
