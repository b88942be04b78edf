/-! Bytes as Unicode text: the encoding is told from a byte order mark or, without one, from where
the zero bytes of the first character are. Surrogates are let through as code points. -/
namespace SubscriptionBilling.Text

def isHighSurrogate (n : Nat) : Bool := 0xD800 ≤ n && n ≤ 0xDBFF
def isLowSurrogate (n : Nat) : Bool := 0xDC00 ≤ n && n ≤ 0xDFFF
def isSurrogate (n : Nat) : Bool := isHighSurrogate n || isLowSurrogate n

/-- The code point that two surrogates stand for. -/
def joinSurrogates (high low : Nat) : Nat := 0x10000 + (high - 0xD800) * 0x400 + (low - 0xDC00)

/-- How many bytes a code unit has and in which order they are. -/
inductive Encoding where
  | utf8
  | utf16 (bigEndian : Bool)
  | utf32 (bigEndian : Bool)
  deriving DecidableEq, Repr

/-- The encoding that a byte order mark announces, and the bytes after the mark. -/
def markedEncoding? : List UInt8 → Option (Encoding × List UInt8)
  | 0x00 :: 0x00 :: 0xfe :: 0xff :: rest => some (.utf32 true, rest)
  | 0xff :: 0xfe :: 0x00 :: 0x00 :: rest => some (.utf32 false, rest)
  | 0xfe :: 0xff :: rest => some (.utf16 true, rest)
  | 0xff :: 0xfe :: rest => some (.utf16 false, rest)
  | 0xef :: 0xbb :: 0xbf :: rest => some (.utf8, rest)
  | _ => none

/-- The encoding of text that begins with an ASCII character. -/
def plainEncoding : List UInt8 → Encoding
  | a :: b :: c :: d :: _ =>
    if a = 0 then (if b = 0 then .utf32 true else .utf16 true)
    else if b = 0 then (if c = 0 ∧ d = 0 then .utf32 false else .utf16 false)
    else .utf8
  | [a, b] => if a = 0 then .utf16 true else if b = 0 then .utf16 false else .utf8
  | _ => .utf8

/-- Code units of two bytes. -/
def units16? (bigEndian : Bool) : List UInt8 → Option (List Nat)
  | [] => some []
  | [_] => none
  | a :: b :: rest =>
    let n := if bigEndian then a.toNat * 256 + b.toNat else b.toNat * 256 + a.toNat
    (units16? bigEndian rest).map (n :: ·)

/-- Joins surrogates that are in order; others stay as they are. -/
def joinUnits : List Nat → List Nat
  | high :: low :: rest =>
    if isHighSurrogate high && isLowSurrogate low then joinSurrogates high low :: joinUnits rest
    else high :: joinUnits (low :: rest)
  | units => units

/-- Code units of four bytes. -/
def units32? (bigEndian : Bool) : List UInt8 → Option (List Nat)
  | [] => some []
  | a :: b :: c :: d :: rest =>
    let value (a b c d : UInt8) := ((a.toNat * 256 + b.toNat) * 256 + c.toNat) * 256 + d.toNat
    let n := if bigEndian then value a b c d else value d c b a
    if n ≤ 0x10ffff then (units32? bigEndian rest).map (n :: ·) else none
  | _ => none

/-- The low six bits of a continuation byte. -/
def continuation? (b : UInt8) : Option Nat :=
  if 0x80 ≤ b ∧ b < 0xc0 then some (b.toNat - 0x80) else none

/-- Code points in UTF-8, in their shortest forms. -/
def codes8? : List UInt8 → Option (List Nat)
  | [] => some []
  | a :: rest =>
    if a < 0x80 then (codes8? rest).map (a.toNat :: ·)
    else if 0xc2 ≤ a ∧ a < 0xe0 then
      match rest with
      | b :: rest => do
        let n := (a.toNat - 0xc0) * 64 + (← continuation? b)
        return n :: (← codes8? rest)
      | _ => none
    else if 0xe0 ≤ a ∧ a < 0xf0 then
      match rest with
      | b :: c :: rest => do
        let n := ((a.toNat - 0xe0) * 64 + (← continuation? b)) * 64 + (← continuation? c)
        if 0x800 ≤ n then return n :: (← codes8? rest) else none
      | _ => none
    else if 0xf0 ≤ a ∧ a < 0xf5 then
      match rest with
      | b :: c :: d :: rest => do
        let n := (((a.toNat - 0xf0) * 64 + (← continuation? b)) * 64 + (← continuation? c)) * 64 +
          (← continuation? d)
        if 0x10000 ≤ n ∧ n ≤ 0x10ffff then return n :: (← codes8? rest) else none
      | _ => none
    else none

/-- Whether a byte may follow the first one of a character in UTF-8. -/
def mayFollow (first second : UInt8) : Bool :=
  let low : UInt8 := if first = 0xe0 then 0xa0 else if first = 0xf0 then 0x90 else 0x80
  let high : UInt8 := if first = 0xed then 0x9f else if first = 0xf4 then 0x8f else 0xbf
  low ≤ second && second ≤ high

def isContinuation (b : UInt8) : Bool := (continuation? b).isSome

/-- The character of bytes that are known to form one. -/
def charOf (lead : Nat) (more : List UInt8) : Char :=
  Char.ofNat (more.foldl (fun n b => n * 64 + (b.toNat - 0x80)) lead)

/-- UTF-8 as text. Bytes that form no character become a replacement character, one for as many of
them as begin one. -/
def decodeLossy : List UInt8 → List Char
  | [] => []
  | a :: rest =>
    if a < 0x80 then Char.ofNat a.toNat :: decodeLossy rest
    else if a < 0xc2 ∨ 0xf5 ≤ a then '\ufffd' :: decodeLossy rest
    else
      match rest with
      | [] => ['\ufffd']
      | b :: rest =>
        if !mayFollow a b then '\ufffd' :: decodeLossy (b :: rest)
        else if a < 0xe0 then charOf (a.toNat - 0xc0) [b] :: decodeLossy rest
        else
          match rest with
          | [] => ['\ufffd']
          | c :: rest =>
            if !isContinuation c then '\ufffd' :: decodeLossy (c :: rest)
            else if a < 0xf0 then charOf (a.toNat - 0xe0) [b, c] :: decodeLossy rest
            else
              match rest with
              | [] => ['\ufffd']
              | d :: rest =>
                if !isContinuation d then '\ufffd' :: decodeLossy (d :: rest)
                else charOf (a.toNat - 0xf0) [b, c, d] :: decodeLossy rest

def decodeAs? (e : Encoding) (bytes : List UInt8) : Option (List Nat) :=
  match e with
  | .utf8 => codes8? bytes
  | .utf16 bigEndian => (units16? bigEndian bytes).map joinUnits
  | .utf32 bigEndian => units32? bigEndian bytes

/-- The code points of a text; the byte order mark is no part of it. -/
def decodeUnicode? (bytes : List UInt8) : Option (List Nat) :=
  match markedEncoding? bytes with
  | some (e, rest) => decodeAs? e rest
  | none => decodeAs? (plainEncoding bytes) bytes

end SubscriptionBilling.Text
