import SubscriptionBilling.Json.Basic
import SubscriptionBilling.Decimal.Reader
import SubscriptionBilling.Text.Encoding

/-! The lexical part of documents: a machine that reads one code point at a time and emits
punctuation, texts and atoms (numbers and the named values). Whatever is no token ends its output
with `junk`, so that the tokens in front of it can still be judged. -/
namespace SubscriptionBilling.Json
open Decimal Text

/-- A text is given by its code points. Numbers whose whole part has too many digits are told apart:
`longWhole` without a fraction or an exponent, `longFloat` with one. -/
inductive Token where
  | beginArray
  | endArray
  | beginObject
  | endObject
  | colon
  | comma
  | text (codes : List Nat)
  | atom (value : Json)
  | longWhole
  | longFloat (value : Json)
  | junk
  deriving Inhabited

/-- The most digits a whole number may have. -/
def maxIntDigits : Nat := 4300

/-- Whether what follows the whole part of a number is a fraction or an exponent. -/
def continuesNumber : List Char → Bool
  | '.' :: c :: _ => c.isDigit
  | e :: '+' :: c :: _ => (e = 'e' || e = 'E') && c.isDigit
  | e :: '-' :: c :: _ => (e = 'e' || e = 'E') && c.isDigit
  | e :: c :: _ => (e = 'e' || e = 'E') && c.isDigit
  | _ => false

/-- The places behind the point and the exponent of a number, when they are well-formed. -/
def places? (rest : List Char) : Option (List Char × Int) :=
  match rest with
  | '.' :: f =>
    let places := f.takeWhile Char.isDigit
    if places.isEmpty then none
    else (exponentOf? (f.dropWhile Char.isDigit)).map fun e => (places, e)
  | r => (exponentOf? r).map fun e => ([], e)

/-- A number: no leading zeros, digits on both sides of a point, an optional exponent. -/
def number (cs : List Char) : Token :=
  let (negative, r) := match cs with
    | '-' :: r => (true, r)
    | r => (false, r)
  let whole := r.takeWhile Char.isDigit
  let rest := r.dropWhile Char.isDigit
  let long := maxIntDigits < whole.length
  if whole.isEmpty || (1 < whole.length && whole.head? == some '0') then .junk
  else if long && !continuesNumber rest then .longWhole
  else if rest.isEmpty then
    let n : Int := digitsValue whole
    .atom (.int (if negative then -n else n))
  else
    match places? rest with
    | none => .junk
    | some (places, e) =>
      let d : Decimal := ⟨negative, digitsValue (whole ++ places), e - places.length⟩
      let x : Json := .float (Binary64.ofDecimal d)
      if long then .longFloat x else .atom x

/-- A word that is no text and no punctuation. -/
def word (cs : List Char) : Token :=
  match String.ofList cs with
  | "null" => .atom .null
  | "true" => .atom (.bool true)
  | "false" => .atom (.bool false)
  | "NaN" => .atom (.float .undefined)
  | "Infinity" => .atom (.float (.infinite false))
  | "-Infinity" => .atom (.float (.infinite true))
  | _ => number cs

/-- Where the lexer stands. Texts and words are collected with the last character first. A `high`
surrogate that was just written as an escape waits for a low one that completes it. -/
inductive LexState where
  | between
  | word (taken : List Char)
  | text (taken : List Nat)
  | escape (taken : List Nat)
  | code (taken : List Nat) (high : Option Nat) (digitsLeft : Nat) (value : Nat)
  | highText (taken : List Nat) (high : Nat)
  | highEscape (taken : List Nat) (high : Nat)

def hexValue? (c : Char) : Option Nat :=
  if c.isDigit then some (c.toNat - 48)
  else if 'a' ≤ c ∧ c ≤ 'f' then some (c.toNat - 87)
  else if 'A' ≤ c ∧ c ≤ 'F' then some (c.toNat - 55)
  else none

def isGap (c : Char) : Bool := c = ' ' || c = '\t' || c = '\n' || c = '\r'

/-- One character outside texts: it ends a word and may itself be a token or begin one. -/
def outside (c : Char) : Option (List Token × LexState) :=
  if isGap c then some ([], .between)
  else match c with
    | '[' => some ([.beginArray], .between)
    | ']' => some ([.endArray], .between)
    | '{' => some ([.beginObject], .between)
    | '}' => some ([.endObject], .between)
    | ':' => some ([.colon], .between)
    | ',' => some ([.comma], .between)
    | '"' => some ([], .text [])
    | c => some ([], .word [c])

def simpleEscape? : Char → Option Char
  | '"' => some '"'
  | '\\' => some '\\'
  | '/' => some '/'
  | 'b' => some '\x08'
  | 'f' => some '\x0c'
  | 'n' => some '\n'
  | 'r' => some '\r'
  | 't' => some '\t'
  | _ => none

/-- A finished escape of four digits: a low surrogate right behind a high one makes a pair. -/
def finishCode (taken : List Nat) (high : Option Nat) (n : Nat) : LexState :=
  match high with
  | none => if isHighSurrogate n then .highText taken n else .text (n :: taken)
  | some h =>
    if isLowSurrogate n then .text (joinSurrogates h n :: taken)
    else if isHighSurrogate n then .highText (h :: taken) n
    else .text (n :: h :: taken)

def isWordChar (c : Char) : Bool := c.isAlphanum || c = '+' || c = '-' || c = '.'

/-- One character of a text. -/
def textStep (taken : List Nat) (c : Char) : Option (List Token × LexState) :=
  if c = '"' then some ([.text taken.reverse], .between)
  else if c = '\\' then some ([], .escape taken)
  else if c.toNat < 32 then none
  else some ([], .text (c.toNat :: taken))

/-- One character behind a backslash. -/
def escapeStep (taken : List Nat) (high : Option Nat) (c : Char) : Option (List Token × LexState) :=
  if c = 'u' then some ([], .code taken high 3 0)
  else (simpleEscape? c).map fun e => ([], .text (e.toNat :: (high.toList ++ taken)))

def charStep : LexState → Char → Option (List Token × LexState)
  | .between, c => outside c
  | .word taken, c =>
    if isWordChar c then some ([], .word (c :: taken))
    else (outside c).map fun (ts, s) => (Json.word taken.reverse :: ts, s)
  | .text taken, c => textStep taken c
  | .escape taken, c => escapeStep taken none c
  | .code taken high left value, c => do
    let d ← hexValue? c
    let n := 16 * value + d
    match left with
    | 0 => some ([], finishCode taken high n)
    | k + 1 => some ([], .code taken high k n)
  | .highText taken high, c =>
    if c = '\\' then some ([], .highEscape taken high) else textStep (high :: taken) c
  | .highEscape taken high, c => escapeStep taken (some high) c

/-- Surrogates stand in texts only. -/
def lexStep (s : LexState) (n : Nat) : Option (List Token × LexState) :=
  if isSurrogate n then
    match s with
    | .text taken => some ([], .text (n :: taken))
    | .highText taken high => some ([], .text (n :: high :: taken))
    | _ => none
  else charStep s (Char.ofNat n)

def lexFrom : LexState → List Nat → List Token
  | .between, [] => []
  | .word taken, [] => [Json.word taken.reverse]
  | _, [] => [.junk]
  | s, n :: rest =>
    match lexStep s n with
    | some (ts, s) => ts ++ lexFrom s rest
    | none => [.junk]

def tokens (codes : List Nat) : List Token := lexFrom .between codes

end SubscriptionBilling.Json
