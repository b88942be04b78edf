import SubscriptionBilling.Json.Token

/-! The grammar of documents as a machine over tokens with a stack of open lists and objects. The
last of several fields of one name counts. What is wrong first decides how reading fails. -/
namespace SubscriptionBilling.Json
open Text

inductive ReadError where
  | undecodable
  | malformed
  | longNumber
  | tooDeep
  deriving DecidableEq, Repr

/-- How documents are read: how many lists and objects with content may be open at once, and, when
`strict`, that text has no surrogates and no number a whole part with too many digits. -/
structure Dialect where
  maxDepth : Nat
  strict : Bool

/-- Documents of senders that are held to the letter. -/
def strict : Dialect := ⟨200, true⟩

/-- Documents of everyone else. -/
def lenient : Dialect := ⟨960, false⟩

abbrev Read := Except ReadError

/-- An open list with its items so far, the last one first, or an open object. -/
inductive Frame where
  | array (items : List Json)
  | object (fields : List (String × Json))
  | field (fields : List (String × Json)) (name : String)

inductive Expecting where
  | value
  | valueOrEnd
  | name
  | nameOrEnd
  | colon
  | commaOrEnd
  | nothing (result : Json)

structure ReadState where
  stack : List Frame
  expecting : Expecting

/-- A character of a name; a surrogate counts as the replacement character. -/
def nameChar (n : Nat) : Char := if isSurrogate n then '\ufffd' else Char.ofNat n

def nameOf (codes : List Nat) : String := String.ofList (codes.map nameChar)

def textOf (codes : List Nat) : Json :=
  if codes.any isSurrogate then .brokenText codes else .string (nameOf codes)

/-- A finished value goes into the innermost open frame. -/
def ReadState.complete (stack : List Frame) (v : Json) : Read ReadState :=
  match stack with
  | [] => .ok ⟨[], .nothing v⟩
  | .array items :: s => .ok ⟨.array (v :: items) :: s, .commaOrEnd⟩
  | .field fields name :: s => .ok ⟨.object (setField name v fields) :: s, .commaOrEnd⟩
  | .object _ :: _ => .error .malformed

def ReadState.beginValue (d : Dialect) (stack : List Frame) : Token → Read ReadState
  | .text codes =>
    if d.strict && codes.any isSurrogate then .error .malformed else complete stack (textOf codes)
  | .atom v => complete stack v
  | .longWhole => .error .longNumber
  | .longFloat v => if d.strict then .error .longNumber else complete stack v
  | .beginArray => .ok ⟨.array [] :: stack, .valueOrEnd⟩
  | .beginObject => .ok ⟨.object [] :: stack, .nameOrEnd⟩
  | _ => .error .malformed

def ReadState.beginName (d : Dialect) (stack : List Frame) (t : Token) : Read ReadState :=
  match stack, t with
  | .object fields :: s, .text codes =>
    if d.strict && codes.any isSurrogate then .error .malformed
    else .ok ⟨.field fields (nameOf codes) :: s, .colon⟩
  | _, _ => .error .malformed

def ReadState.endFrame (stack : List Frame) (t : Token) : Read ReadState :=
  match stack, t with
  | .array items :: s, .endArray => complete s (.array items.reverse)
  | .object fields :: s, .endObject => complete s (.object fields)
  | _, _ => .error .malformed

/-- Content goes into the innermost frame only as deep as the dialect allows. -/
def checkDepth (d : Dialect) (stack : List Frame) : Read Unit :=
  if stack.length ≤ d.maxDepth then .ok () else .error .tooDeep

def ReadState.step (d : Dialect) (s : ReadState) (t : Token) : Read ReadState :=
  match s.expecting with
  | .value => beginValue d s.stack t
  | .valueOrEnd =>
    match t with
    | .endArray => endFrame s.stack t
    | _ => do
      checkDepth d s.stack
      beginValue d s.stack t
  | .name => beginName d s.stack t
  | .nameOrEnd =>
    match t with
    | .endObject => endFrame s.stack t
    | _ => do
      checkDepth d s.stack
      beginName d s.stack t
  | .colon =>
    match t with
    | .colon => .ok { s with expecting := .value }
    | _ => .error .malformed
  | .commaOrEnd =>
    match t, s.stack with
    | .comma, .array _ :: _ => .ok { s with expecting := .value }
    | .comma, .object _ :: _ => .ok { s with expecting := .name }
    | _, _ => endFrame s.stack t
  | .nothing _ => .error .malformed

def readTokens (d : Dialect) : ReadState → List Token → Read Json
  | ⟨_, .nothing v⟩, [] => .ok v
  | _, [] => .error .malformed
  | s, t :: rest => do readTokens d (← s.step d t) rest

/-- Reads code points as one document. -/
def ofCodes (d : Dialect) (codes : List Nat) : Read Json :=
  readTokens d ⟨[], .value⟩ (tokens codes)

/-- Reads a whole text as one document. -/
def ofString (d : Dialect) (s : String) : Read Json := ofCodes d (s.toList.map Char.toNat)

/-- Reads bytes in UTF-8 without a byte order mark, to the letter. -/
def ofUtf8 (bytes : List UInt8) : Read Json :=
  match String.fromUTF8? ⟨bytes.toArray⟩ with
  | some s => ofString strict s
  | none => .error .undecodable

/-- Reads bytes in whichever Unicode encoding they are in. -/
def ofBytes (bytes : List UInt8) : Read Json :=
  match decodeUnicode? bytes with
  | some codes => ofCodes lenient codes
  | none => .error .undecodable

end SubscriptionBilling.Json
