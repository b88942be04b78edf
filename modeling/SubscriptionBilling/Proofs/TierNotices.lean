import SubscriptionBilling.Proofs.IdentityPosts
import SubscriptionBilling.Proofs.WrittenDocuments

/-! Notices of new subscriptions as their receiver gets them: the signature covers the bytes of the body,
and what is read from these bytes is what the notice was made of. -/
namespace SubscriptionBilling

namespace Identity

/-- What a notice says. -/
def notice (now : Moment) (organization customer : String) (plan : Option String) : Json :=
  .object
    [("type", .string "subscription.created"),
      ("data", .object
        [("customer_id", .string customer), ("plan_id", Json.ofOption Json.string plan),
          ("organization_id", .string organization)]),
      ("timestamp", .string now.offsetStyleText)]

/-- Whether a request says a document, in ASCII, to whoever reads JSON in any way, and is signed once,
with the signature of its body under a secret. -/
def Says (secret : String) (j : Json) (r : Request) : Prop :=
  ∃ url headers body, r = .post url headers (.text body) ∧
    (∀ x ∈ body.toList, x.toNat < 128) ∧
    Json.ofUtf8 (Hmac.bytesOf body) = .ok j ∧ Json.ofBytes (Hmac.bytesOf body) = .ok j ∧
    headers.filter (fun h => h.1 = "x-dhanam-signature") =
      [("x-dhanam-signature", Hmac.sign secret (Hmac.bytesOf body))]

theorem textual_notice (now : Moment) (organization customer : String) (plan : Option String) :
    Json.Textual 2 (notice now organization customer plan) := by
  have hplan : Json.Textual 0 (Json.ofOption Json.string plan) := by
    cases plan with
    | none => exact .null 0
    | some plan => exact .string 0 plan
  refine .object (by simp) ?_
  simp only [List.forall_mem_cons, List.not_mem_nil, false_imp_iff, implies_true, and_true]
  refine ⟨.string 1 _, .object (by simp) ?_, .string 1 _⟩
  simp only [List.forall_mem_cons, List.not_mem_nil, false_imp_iff, implies_true, and_true]
  exact ⟨.string 0 _, hplan, .string 0 _⟩

/-- Credentials in an address do not touch other headers. -/
theorem filter_withCredentials {name : String} (h : name ≠ "authorization") (a : Address)
    (headers : List (String × String)) :
    (withCredentials a headers).filter (fun h => h.1 = name) =
      headers.filter (fun h => h.1 = name) := by
  unfold withCredentials
  split
  · rw [List.filter_append, List.filter_filter]
    have hother : [("authorization", ‹String›)].filter (fun h => decide (h.1 = name)) = [] := by
      simp [h.symm]
    rw [hother, List.append_nil]
    refine List.filter_congr fun x _ => ?_
    by_cases hx : x.1 = name
    · simp [hx, h]
    · simp [hx]
  · rfl

/-- A notice is sent whenever its address can be called: its signature is in ASCII. -/
theorem address?_noticePost (s : Settings) (now : Moment) (organization customer : String)
    (plan : Option String) :
    (noticePost s now organization customer plan).address? =
      Address.ofString? (baseUrl s ++ "/api/v1/webhooks/dhanam/subscription") := by
  have hsignature : ∀ bytes, (Hmac.sign s.tierNotificationSecret bytes).toList.all
      (fun c => c.toNat < 128) = true := by
    intro bytes
    rw [List.all_eq_true]
    intro x hx
    obtain ⟨n, hn, rfl⟩ := Signature.mem_hex hx
    exact decide_eq_true (Signature.hexDigit_facts hn).1
  have hvalid : headersValid (noticePost s now organization customer plan).allHeaders = true := by
    simp only [headersValid, Post.allHeaders, noticePost, List.all_cons, List.all_nil, hsignature]
    decide
  rw [Post.address?, if_pos hvalid]
  rfl

theorem says_noticePost (s : Settings) (now : Moment) (organization customer : String)
    (plan : Option String) (a : Address) :
    Says s.tierNotificationSecret (notice now organization customer plan)
      ((noticePost s now organization customer plan).request a) := by
  have htextual := textual_notice now organization customer plan
  obtain ⟨hletter, hloose⟩ := Json.read_bytesOf_write htextual (by decide)
  refine ⟨_, _, _, rfl, fun x hx => ?_, hletter, hloose, ?_⟩
  · have hprintable := Json.printable_write htextual _ (List.mem_map_of_mem hx)
    exact lt_trans hprintable.2 (by decide)
  · rw [filter_withCredentials (by decide)]
    rfl

end Identity

namespace Dispatcher
open Identity

/-- Every post that tells of a new subscription is signed and says exactly what it was made of. There is
one, whatever the texts in it are, as soon as the identity system is set up and can be called. -/
theorem notices_are_signed_and_readable (d : Dispatcher) (work organization customer : String)
    (plan : Option String) (n : Network) :
    ∃ posts : List Call,
      (d.notifyTier work organization customer plan n).2.calls = n.calls ++ posts ∧
      (∀ post ∈ posts, post.endpoint = .identityTier ∧
        Says d.settings.tierNotificationSecret (notice d.now organization customer plan)
          post.request) ∧
      (posts ≠ [] ↔ 1 ≤ d.maxAttempts ∧ canNotify d.settings = true ∧
        (Address.ofString? (baseUrl d.settings ++ "/api/v1/webhooks/dhanam/subscription")).isSome) := by
  have haddress := address?_noticePost d.settings d.now organization customer plan
  have hsays := says_noticePost d.settings d.now organization customer plan
  have hendpoint : (noticePost d.settings d.now organization customer plan).endpoint = .identityTier :=
    rfl
  unfold notifyTier retrying
  rw [← haddress, notify_eq]
  generalize noticePost d.settings d.now organization customer plan = p at *
  split
  case isFalse off => exact ⟨[], (List.append_nil _).symm, by simp, by simp [off]⟩
  next on =>
  cases d.maxAttempts with
  | zero => exact ⟨[], (List.append_nil _).symm, by simp, by simp⟩
  | succ left =>
    cases hcallable : p.address? with
    | none =>
      rw [Post.attempt_of_unsendable hcallable]
      exact ⟨[], (List.append_nil _).symm, by simp, by simp⟩
    | some a =>
      obtain ⟨attempts, after, hrun, -, hattempted⟩ :=
        Post.attempt_of_sendable hcallable work d.longestWait 0 left n
      rw [hrun]
      refine ⟨_, hattempted.calls, fun post hpost => ?_, by simp [on]⟩
      obtain rfl := List.eq_of_mem_replicate hpost
      exact ⟨hendpoint, hsays a⟩

end Dispatcher
end SubscriptionBilling
