import SubscriptionBilling.Crypto.Hmac
import SubscriptionBilling.Failure
import SubscriptionBilling.Settings
import SubscriptionBilling.Text.Split
import SubscriptionBilling.Text.Whole

/-! Signatures of webhook deliveries. The direct processor sends `t=<seconds>,v1=<hex>` with the
hash of the time, a point and the body, and old deliveries are refused; the broker sends the hash
of the body alone. -/
namespace SubscriptionBilling
open Text

inductive SignatureProblem where
  | secretMissing
  | headerMissing
  | notUtf8
  | secretBlank
  | unreadableHeader
  | noCandidate
  | noMatch
  | tooOld (time : Int)
  | mismatch
  | uncomparable
  deriving DecidableEq, Repr

namespace Signature

structure Verifier where
  stripeSecret : String
  januaSecret : String
  tolerance : Int

/-- Secrets and tolerance of the settings, where no other are given; a tolerance of zero counts as
not given. -/
def Verifier.make (s : Settings) (stripeSecret januaSecret : Option String)
    (tolerance : Option Int) : Verifier :=
  ⟨stripeSecret.getD s.stripeWebhookSecret, januaSecret.getD s.januaWebhookSecret,
    match tolerance with
    | some t => if t = 0 then s.stripeWebhookToleranceSeconds else t
    | none => s.stripeWebhookToleranceSeconds⟩

/-- The items of a header, each cut at its equals signs. -/
def headerItems (header : String) : List (List (List Char)) :=
  (pieces ',' header.toList).map (pieces '=')

/-- The values of all items of a name; nothing when one of them has no value. -/
def valuesOf? (name : List Char) (items : List (List (List Char))) : Option (List (List Char)) :=
  (items.filter fun i => i.head? = some name).mapM fun i => i[1]?

structure Header where
  time : Int
  candidates : List (List Char)

def Header.ofString? (header : String) : Option Header := do
  let items := headerItems header
  let times ← valuesOf? ['t'] items
  let time ← whole? (String.ofList (← times.head?))
  let candidates ← valuesOf? ['v', '1'] items
  some ⟨time, candidates⟩

def intText (n : Int) : String :=
  if n < 0 then "-" ++ Nat.repr n.natAbs else Nat.repr n.natAbs

/-- The text that the direct processor signs. -/
def signedText (time : Int) (body : String) : String := intText time ++ "." ++ body

/-- Whether one of the candidates is the expected signature. Candidates are compared in order, and
one that is not ASCII cannot be compared. -/
def anyMatches (expected : List Char) : List (List Char) → Except SignatureProblem Bool
  | [] => .ok false
  | c :: rest =>
    if !c.all fun x => x.toNat < 128 then .error .uncomparable
    else if c = expected then .ok true
    else anyMatches expected rest

def verifyStripe (v : Verifier) (now : Int) (body : List UInt8) (header : Option String) :
    Except SignatureProblem Unit := do
  if v.stripeSecret.isEmpty then throw .secretMissing
  let header := header.getD ""
  if header.isEmpty then throw .headerMissing
  let some payload := String.fromUTF8? ⟨body.toArray⟩ | throw .notUtf8
  if v.stripeSecret.toList.all isAsciiSpace then throw .secretBlank
  let some h := Header.ofString? header | throw .unreadableHeader
  if h.candidates.isEmpty then throw .noCandidate
  let expected := Hmac.sign v.stripeSecret (Hmac.bytesOf (signedText h.time payload))
  if !(← anyMatches expected.toList h.candidates) then throw .noMatch
  if v.tolerance ≠ 0 ∧ h.time < now - v.tolerance then throw (.tooOld h.time)

def verifyJanua (v : Verifier) (body : List UInt8) (header : Option String) :
    Except SignatureProblem Unit := do
  if v.januaSecret.isEmpty then throw .secretMissing
  let header := header.getD ""
  if header.isEmpty then throw .headerMissing
  if lower (trimBlank header) ≠ Hmac.sign v.januaSecret body then throw .mismatch

def Verifier.verify (v : Verifier) (now : Int) (p : Provider) (body : List UInt8)
    (header : Option String) : Except SignatureProblem Unit :=
  match p with
  | .stripe => verifyStripe v now body header
  | .janua => verifyJanua v body header

end Signature

/-- The wording of a problem that lies in the signature. -/
def SignatureProblem.reason (p : Provider) : SignatureProblem → String
  | secretMissing => "webhook secret is not configured"
  | headerMissing =>
    match p with
    | .stripe => "missing stripe-signature header"
    | .janua => "missing x-janua-signature header"
  | notUtf8 => "payload is not utf-8"
  | secretBlank => "No webhook secret value was provided. It should start with `whsec_`"
  | unreadableHeader => "Unable to extract timestamp and signatures from header"
  | noCandidate => "No signatures found with expected scheme v1"
  | noMatch => "No signatures found matching the expected signature for payload"
  | tooOld time => "Timestamp outside the tolerance zone (" ++ Signature.intText time ++ ")"
  | mismatch => "signature mismatch"
  | uncomparable => "signature is not comparable"

def SignatureProblem.failure (p : Provider) : SignatureProblem → Failure
  | .secretMissing => .billing (.webhookSecretMissing p)
  | .uncomparable => .uncomparableSignature
  | problem => .billing (.invalidSignature p (problem.reason p))

end SubscriptionBilling
