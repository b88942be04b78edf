import Mathlib.Data.ENat.Lattice
import Mathlib.Data.Rat.Cast.Order
import Mathlib.Tactic.Ring
import SubscriptionBilling.Identity.Dispatch
import SubscriptionBilling.Proofs.ServiceWrites

/-! Posts to the identity system. A post is made again as long as its reply may be another one the next
time and attempts are left, with a pause before each repetition. Nobody is told how it ended. -/
namespace SubscriptionBilling

namespace Retry

/-- Whether a call that ended in some way is to be made again. -/
def isDueAgain : Except Failure Unit → Bool
  | .error f => isRetryable f
  | .ok _ => false

variable {work : String} {longest : Rat} {x : Online Unit} {done left : Nat} {n after : Network}
  {r : Except Failure Unit}

/-- The work that asks for an outcome goes on with it, whichever it is. -/
theorem outcome_of_ends (hx : x n = (r, after)) : x.outcome n = (.ok r, after) := by
  rw [Online.outcome, hx]

/-- An attempt that does not have to be repeated is the last one. -/
theorem attempt_of_settled (hx : x n = (r, after)) (settled : isDueAgain r = false) :
    attempt work longest x done (left + 1) n = (.ok (), after) := by
  rw [attempt, bind_of_ok (outcome_of_ends hx)]
  cases r with
  | ok u => rfl
  | error f =>
    have hf : isRetryable f = false := settled
    simp only [hf, Bool.false_and]
    rfl

/-- There is no attempt after the last one, whatever came of it. -/
theorem attempt_of_last (hx : x n = (r, after)) :
    attempt work longest x done 1 n = (.ok (), after) := by
  rw [attempt, bind_of_ok (outcome_of_ends hx)]
  cases r with
  | ok u => rfl
  | error f => simp; rfl

/-- Between two attempts there is a pause. -/
theorem attempt_of_due (hx : x n = (r, after)) (due : isDueAgain r = true) :
    attempt work longest x done (left + 2) n =
      attempt work longest x (done + 1) (left + 1) (after.pause work (wait longest (done + 1))) := by
  rw [attempt, bind_of_ok (outcome_of_ends hx)]
  cases r with
  | ok u => cases due
  | error f =>
    have hf : isRetryable f = true := due
    simp [hf]
    rfl

end Retry

namespace Identity

/-- A post as it is meant to be made. -/
structure Post where
  endpoint : Endpoint
  url : String
  headers : List (String × String)
  body : String

/-- Whether a reply is a failure that may pass: a broken connection, which a missing reply stands for
too, or a status of 500 and above. No response can be used that comes from an address that is not
absolute. -/
def isTransient (a : Address) : Option Reply → Bool
  | some (.response status _) => a.isAbsolute && 500 ≤ status
  | some .unusable => false
  | _ => true

/-- What a reply comes to. -/
def verdict (a : Address) (reply : Option Reply) : Except Failure Unit :=
  match reply with
  | some (.response ..) => if a.isAbsolute then judge reply else .error .relativeAddress
  | _ => judge reply

/-- The replies after which a post is due again are the transient ones. -/
theorem isDueAgain_verdict (a : Address) (reply : Option Reply) :
    Retry.isDueAgain (verdict a reply) = isTransient a reply := by
  unfold verdict isTransient
  split
  · next status content =>
    cases a.isAbsolute with
    | false => rfl
    | true =>
      simp only [if_true, judge, Bool.true_and]
      split
      · next hsuccess =>
        have hbelow : ¬500 ≤ status := by omega
        simp [Retry.isDueAgain, hbelow]
      · rfl
  · next hother =>
    cases reply with
    | none => rfl
    | some reply =>
      cases reply with
      | response status content => exact absurd rfl (hother status content)
      | _ => rfl

/-- How many replies in front are transient. When all are, there is no end to them. -/
def transientRun (a : Address) : List Reply → ℕ∞
  | [] => ⊤
  | r :: rest => if isTransient a (some r) then transientRun a rest + 1 else 0

theorem transientRun_of_settled {a : Address} {rs : List Reply}
    (h : isTransient a rs.head? = false) : transientRun a rs = 0 := by
  cases rs with
  | nil => cases h
  | cons r rest =>
    rw [List.head?_cons] at h
    simp [transientRun, h]

theorem transientRun_of_transient {a : Address} {rs : List Reply}
    (h : isTransient a rs.head? = true) : transientRun a rs = transientRun a rs.tail + 1 := by
  cases rs with
  | nil => rfl
  | cons r rest =>
    rw [List.head?_cons] at h
    simp [transientRun, h]

namespace Post
variable {p : Post} {a : Address} {n : Network}

def make (p : Post) : Online Unit := post p.endpoint p.url p.headers p.body

def allHeaders (p : Post) : List (String × String) := ("content-type", "application/json") :: p.headers

/-- Where a post goes, when it can be sent at all: its headers have to be in ASCII and its address one
that can be called. -/
def address? (p : Post) : Option Address :=
  if headersValid p.allHeaders then Address.ofString? p.url else none

/-- The call that is made by sending a post. -/
def request (p : Post) (a : Address) : Request :=
  .post a.text (withCredentials a p.allHeaders) (.text p.body)

/-- A post that cannot be sent fails before any call, and for good. -/
theorem make_of_unsendable (h : p.address? = none) (n : Network) :
    ∃ r, p.make n = (r, n) ∧ Retry.isDueAgain r = false := by
  unfold make post Online.post
  unfold address? allHeaders at h
  split
  · next a ha =>
    have hinvalid : headersValid (("content-type", "application/json") :: p.headers) = false := by
      by_contra hvalid
      rw [if_pos (by simpa using hvalid), ha] at h
      cases h
    exact ⟨.error .unencodable, by simp [hinvalid]; rfl, rfl⟩
  · exact ⟨.error .invalidAddress, rfl, rfl⟩

/-- A post that can be sent makes one call, and comes to what the reply does. -/
theorem make_of_sendable (h : p.address? = some a) (n : Network) :
    p.make n = (verdict a (n.replies p.endpoint).head?, (n.call p.endpoint (p.request a)).2) := by
  unfold address? at h
  split at h
  case isFalse => cases h
  next hvalid =>
  have hask : Online.ask p.endpoint (p.request a) n =
      (.ok (n.replies p.endpoint).head?, (n.call p.endpoint (p.request a)).2) := rfl
  have hpost : p.make = Online.ask p.endpoint (p.request a) >>= fun reply =>
      (match reply with
        | some (.response ..) => if a.isAbsolute then pure reply else throw .relativeAddress
        | _ => pure reply : Online (Option Reply)) >>= fun reply => liftM (judge reply) := by
    unfold allHeaders at hvalid
    simp only [make, post, Online.post, h, hvalid, Content.checkSendable]
    rfl
  rw [hpost, bind_of_ok hask]
  unfold verdict
  split
  · split <;> rfl
  · rfl

/-- What a number of attempts at a post, after those that are `done`, add to a network: a call each, and
between any two calls a pause. -/
structure Attempted (p : Post) (a : Address) (work : String) (longest : Rat) (done attempts : Nat)
    (n after : Network) : Prop where
  calls : after.calls = n.calls ++ List.replicate attempts ⟨p.endpoint, p.request a⟩
  pauses : after.pauses = n.pauses ++ (List.range (attempts - 1)).map fun i =>
    ⟨work, Retry.wait longest (done + i + 1), n.calls.length + i + 1⟩

theorem Attempted.once (work : String) (longest : Rat) (done : Nat) (n : Network) :
    p.Attempted a work longest done 1 n (n.call p.endpoint (p.request a)).2 where
  calls := rfl
  pauses := by simp [Network.call]

/-- A pause and further attempts after a first one. -/
theorem Attempted.again {work : String} {longest : Rat} {done attempts : Nat} {after : Network}
    (h : p.Attempted a work longest (done + 1) (attempts + 1)
      ((n.call p.endpoint (p.request a)).2.pause work (Retry.wait longest (done + 1))) after) :
    p.Attempted a work longest done (attempts + 2) n after where
  calls := by
    rw [h.calls, Network.pause, Network.call, List.append_assoc]
    rfl
  pauses := by
    rw [h.pauses, Network.pause, Network.call, Nat.add_sub_cancel,
      show attempts + 2 - 1 = attempts + 1 from rfl, List.range_succ_eq_map]
    simp [Nat.add_comm, Nat.add_left_comm]

/-- A post is attempted once more than there are transient replies in front, but not more often than it
may be; then its sender goes on without a failure. -/
theorem attempt_of_sendable (h : p.address? = some a) (work : String) (longest : Rat)
    (done left : Nat) (n : Network) :
    ∃ (attempts : Nat) (after : Network),
      Retry.attempt work longest p.make done (left + 1) n = (.ok (), after) ∧
      ((attempts + 1 : Nat) : ℕ∞) =
        min ((left + 1 : Nat) : ℕ∞) (transientRun a (n.replies p.endpoint) + 1) ∧
      p.Attempted a work longest done (attempts + 1) n after := by
  induction left generalizing done n with
  | zero => exact ⟨0, _, Retry.attempt_of_last (make_of_sendable h n), by simp, .once work longest done n⟩
  | succ left ih =>
    have hmake := make_of_sendable h n
    have hdue := isDueAgain_verdict a (n.replies p.endpoint).head?
    cases htransient : isTransient a (n.replies p.endpoint).head? with
    | false =>
      rw [htransient] at hdue
      refine ⟨0, _, Retry.attempt_of_settled hmake hdue, ?_, .once work longest done n⟩
      rw [transientRun_of_settled htransient]
      simp
    | true =>
      rw [htransient] at hdue
      obtain ⟨attempts, after, hrun, hcount, hattempted⟩ := ih (done + 1)
        ((n.call p.endpoint (p.request a)).2.pause work (Retry.wait longest (done + 1)))
      refine ⟨attempts + 1, after, (Retry.attempt_of_due hmake hdue).trans hrun, ?_, hattempted.again⟩
      have htail : ((n.call p.endpoint (p.request a)).2.pause work
          (Retry.wait longest (done + 1))).replies p.endpoint = (n.replies p.endpoint).tail := by
        simp [Network.call, Network.pause]
      rw [htail] at hcount
      rw [transientRun_of_transient htransient, Nat.cast_succ (attempts + 1), hcount,
        Nat.cast_succ (left + 1), min_add_add_right]

/-- A post that cannot be sent is not attempted again. -/
theorem attempt_of_unsendable (h : p.address? = none) (work : String) (longest : Rat)
    (done left : Nat) (n : Network) :
    Retry.attempt work longest p.make done (left + 1) n = (.ok (), n) := by
  obtain ⟨r, hmake, hsettled⟩ := make_of_unsendable h n
  exact Retry.attempt_of_settled hmake hsettled

end Post

/-- The signed post that tells of a new subscription. -/
def noticePost (s : Settings) (now : Moment) (organization customer : String)
    (plan : Option String) : Post where
  endpoint := .identityTier
  url := baseUrl s ++ "/api/v1/webhooks/dhanam/subscription"
  headers :=
    [("x-dhanam-signature", Hmac.sign s.tierNotificationSecret
      (Hmac.bytesOf (notificationBody now organization customer plan)))]
  body := notificationBody now organization customer plan

theorem notify_eq (s : Settings) (now : Moment) (organization customer : String)
    (plan : Option String) :
    notify s now organization customer plan = (noticePost s now organization customer plan).make := rfl

end Identity

namespace Dispatcher
open Identity

end Dispatcher
end SubscriptionBilling
