import SubscriptionBilling.Json.Basic
import SubscriptionBilling.Text.Encoding

/-! Writing documents. In ASCII every other character becomes an escape, in surrogate pairs above
U+FFFF. -/
namespace SubscriptionBilling.Json

/-- What stands between items, and between a field's name and its value; and whether the document is
written in ASCII. -/
structure Layout where
  itemGap : String
  nameGap : String
  ascii : Bool

def spaced : Layout := ⟨", ", ": ", true⟩
def compact : Layout := ⟨",", ":", true⟩
def compactUnicode : Layout := ⟨",", ":", false⟩

def hexDigit (n : Nat) : Char := if n < 10 then Char.ofNat (48 + n) else Char.ofNat (87 + n)

def unitEscape (n : Nat) : List Char :=
  ['\\', 'u', hexDigit (n / 4096 % 16), hexDigit (n / 256 % 16), hexDigit (n / 16 % 16),
    hexDigit (n % 16)]

def escapeChar (ascii : Bool) (c : Char) : List Char :=
  match c with
  | '"' => ['\\', '"']
  | '\\' => ['\\', '\\']
  | '\n' => ['\\', 'n']
  | '\r' => ['\\', 'r']
  | '\t' => ['\\', 't']
  | '\x0c' => ['\\', 'f']
  | '\x08' => ['\\', 'b']
  | c =>
    let n := c.toNat
    if 32 ≤ n ∧ (ascii → n < 127) then [c]
    else if n < 0x10000 then unitEscape n
    else unitEscape (0xD800 + (n - 0x10000) / 0x400) ++ unitEscape (0xDC00 + (n - 0x10000) % 0x400)

def quote (ascii : Bool) (s : String) : String :=
  String.ofList ('"' :: (s.toList.flatMap (escapeChar ascii) ++ ['"']))

/-- One code point of a text that may have surrogates. -/
def escapeAny (ascii : Bool) (n : Nat) : List Char :=
  if Text.isSurrogate n then unitEscape n else escapeChar ascii (Char.ofNat n)

mutual

def write (l : Layout) : Json → String
  | null => "null"
  | bool true => "true"
  | bool false => "false"
  | int n => if n < 0 then "-" ++ Nat.repr n.natAbs else Nat.repr n.natAbs
  | float x => x.text
  | string s => quote l.ascii s
  | brokenText codes => String.ofList ('"' :: (codes.flatMap (escapeAny l.ascii) ++ ['"']))
  | array [] => "[]"
  | array (v :: rest) => "[" ++ write l v ++ writeItems l rest ++ "]"
  | object [] => "\x7b\x7d"
  | object ((n, v) :: rest) =>
    "\x7b" ++ quote l.ascii n ++ l.nameGap ++ write l v ++ writeFields l rest ++ "\x7d"

def writeItems (l : Layout) : List Json → String
  | [] => ""
  | v :: rest => l.itemGap ++ write l v ++ writeItems l rest

def writeFields (l : Layout) : List (String × Json) → String
  | [] => ""
  | (n, v) :: rest => l.itemGap ++ quote l.ascii n ++ l.nameGap ++ write l v ++ writeFields l rest

end

end SubscriptionBilling.Json
