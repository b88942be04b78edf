import SubscriptionBilling.Proofs.Deliveries
import SubscriptionBilling.Proofs.Refusals

/-! Deliveries that are answered as not taken, so that their provider sends them again. With no
disturbance only the store can ask for that: it keeps a subscription for the subscriber who has it
already, and it does not keep an amount that no number of 64 bits comes near. Neither passes with
time. -/
namespace SubscriptionBilling

/-- The secret that a provider signs with. -/
def Signature.Verifier.secret (v : Verifier) : Provider → String
  | .stripe => v.stripeSecret
  | .janua => v.januaSecret

namespace Signature

theorem verifyStripe_ne_secretMissing {v : Verifier} (h : v.stripeSecret ≠ "") (now : Int)
    (body : List UInt8) (header : Option String) :
    verifyStripe v now body header ≠ .error .secretMissing := by
  have hsecret : ¬v.stripeSecret.isEmpty = true := fun hempty => h (String.isEmpty_iff.mp hempty)
  unfold verifyStripe
  simp only [throw_bind]
  rw [if_neg hsecret]
  intro hmissing
  obtain ⟨-, hmissing⟩ := (guard_eq_error (by decide)).mp hmissing
  split at hmissing
  · obtain ⟨-, hmissing⟩ := (guard_eq_error (by decide)).mp hmissing
    split at hmissing
    · obtain ⟨-, hmissing⟩ := (guard_eq_error (by decide)).mp hmissing
      generalize hmatch : anyMatches _ _ = found at hmissing
      cases found with
      | error problem =>
        obtain rfl := (anyMatches_eq_error.mp hmatch).1
        cases hmissing
      | ok found =>
        obtain ⟨-, hmissing⟩ := (guard_eq_error (by decide)).mp hmissing
        obtain ⟨-, hmissing⟩ := (guard_eq_error (by simp)).mp hmissing
        cases hmissing
    · cases hmissing
  · cases hmissing

theorem verifyJanua_ne_secretMissing {v : Verifier} (h : v.januaSecret ≠ "") (body : List UInt8)
    (header : Option String) : verifyJanua v body header ≠ .error .secretMissing := by
  have hsecret : ¬v.januaSecret.isEmpty = true := fun hempty => h (String.isEmpty_iff.mp hempty)
  unfold verifyJanua
  simp only [throw_bind]
  rw [if_neg hsecret]
  intro hmissing
  obtain ⟨-, hmissing⟩ := (guard_eq_error (by decide)).mp hmissing
  obtain ⟨-, hmissing⟩ := (guard_eq_error (by decide)).mp hmissing
  cases hmissing

/-- A secret that is there is not missed. -/
theorem Verifier.verify_ne_secretMissing {v : Verifier} {p : Provider} (h : v.secret p ≠ "")
    (now : Int) (body : List UInt8) (header : Option String) :
    v.verify now p body header ≠ .error .secretMissing := by
  cases p with
  | stripe => exact verifyStripe_ne_secretMissing h now body header
  | janua => exact verifyJanua_ne_secretMissing h body header

end Signature

namespace Delivery
variable {c : Context} {v : Signature.Verifier} {p : Provider} {body : List UInt8}
  {signature : Option String} {db : Database}

/-- Whether a delivery is answered as not taken, so that its provider sends it again. -/
def IsRetried (c : Context) (v : Signature.Verifier) (p : Provider) (body : List UInt8)
    (signature : Option String) (db : Database) : Prop :=
  ∃ r tasks after, receive c v p body signature db = (.ok (r, tasks), after) ∧ r.status = 503

theorem status_failed (f : Failure) : (failed f).status = 503 := by
  cases f <;> rfl

/-- Before an event is processed only a missing secret asks for the delivery again. -/
theorem secretMissing_of_read {r : Receipt} (h : read c v p body signature = .ok (.inl r))
    (status : r.status = 503) : v.verify c.now p body signature = .error .secretMissing := by
  unfold read at h
  split at h
  · next hmissing => exact hmissing
  · cases h
  · cases h
    cases status
  · split at h <;> cases h <;> cases status

/-- A verified delivery with an event is sent again exactly if processing the event fails. -/
theorem isRetried_iff_of_event {e : ProviderEvent}
    (verified : v.verify c.now p body signature = .ok ())
    (event : event? c.settings p body = .ok (some e)) :
    IsRetried c v p body signature db ↔ ∃ f, e.process c db = (.error f, db) := by
  have hread : read c v p body signature = .ok (.inr e) := by simp only [read, verified, event]
  simp only [IsRetried, receive, hread]
  constructor
  · rintro ⟨r, tasks, after, h, status⟩
    rcases e.process_cases c db with ⟨u, -, hp⟩ | ⟨hp, -⟩ | ⟨hp, -⟩ | hfails
    case inr.inr.inr => exact hfails
    -- Every other outcome is answered as handled, and that is taken.
    all_goals
      rw [hp] at h
      cases h
      cases status
  · rintro ⟨f, hf⟩
    rw [hf]
    exact ⟨_, _, _, rfl, status_failed f⟩

/-- With the secret in place and no disturbance it takes an event to ask for a delivery again. -/
theorem isRetried_iff (consistent : db.Consistent) (secret : v.secret p ≠ "")
    (calm : c.fault = none) :
    IsRetried c v p body signature db ↔
      v.verify c.now p body signature = .ok () ∧
        ∃ e, event? c.settings p body = .ok (some e) ∧
          (c.settings.webhookDeadlineSeconds.isPositive = false ∨
            db.books p e.eventId = false ∧
              ∃ u, e.subject? db = some u ∧ e.IsRefused db u) := by
  constructor
  · intro h
    rcases read_cases c v p body signature with
      ⟨r, hread, -⟩ | ⟨e, -, -, verified, event⟩ | ⟨⟨f, hread⟩, -⟩
    · obtain ⟨_, _, _, hreceive, status⟩ := h
      simp only [receive, hread] at hreceive
      cases hreceive
      have hmissing := secretMissing_of_read hread status
      exact absurd hmissing (Signature.Verifier.verify_ne_secretMissing secret _ _ _)
    · refine ⟨verified, e, event, ?_⟩
      rw [← provider_of_event? event, ← ProviderEvent.process_fails_iff consistent calm,
        ← isRetried_iff_of_event verified event]
      exact h
    · obtain ⟨_, _, _, hreceive, -⟩ := h
      simp only [receive, hread] at hreceive
      cases hreceive
  · rintro ⟨verified, e, event, hfails⟩
    rw [isRetried_iff_of_event verified event, ProviderEvent.process_fails_iff consistent calm,
      provider_of_event? event]
    exact hfails

/-- Of the deliveries to a reachable store, with the secret in place and no disturbance, those are
sent again whose event the store refuses, besides all that come while no time is given to any. Such
a delivery changes nothing, and so it fails again at any later time at which its signature still
holds. -/
theorem retried_iff (reachable : db.Reachable) (secret : v.secret p ≠ "")
    (calm : c.fault = none) :
    (IsRetried c v p body signature db ↔
      v.verify c.now p body signature = .ok () ∧
        ∃ e, event? c.settings p body = .ok (some e) ∧
          (c.settings.webhookDeadlineSeconds.isPositive = false ∨
            db.books p e.eventId = false ∧
              ∃ u, e.subject? db = some u ∧ e.IsRefused db u)) ∧
    (IsRetried c v p body signature db →
      (receive c v p body signature db).2 = db ∧
        ∀ now, v.verify now p body signature = .ok () →
          IsRetried { c with now := now } v p body signature db) := by
  have consistent := reachable.consistent
  refine ⟨isRetried_iff consistent secret calm, fun h => ?_⟩
  obtain ⟨verified, e, event, hfails⟩ := (isRetried_iff consistent secret calm).mp h
  obtain ⟨f, hf⟩ := (isRetried_iff_of_event verified event).mp h
  have hread : read c v p body signature = .ok (.inr e) := by simp only [read, verified, event]
  refine ⟨by simp only [receive, hread, hf], fun now holds => ?_⟩
  have hagain : IsRetried { c with now := now } v p body signature db ↔ _ :=
    isRetried_iff consistent secret calm
  exact hagain.mpr ⟨holds, e, event, hfails⟩

/-- A payment of an amount that is out of reach. -/
def vastPaymentBody : List UInt8 :=
  asciiBytes "\x7b\"id\":\"evt\",\"type\":\"payment.succeeded\",\"data\":\x7b\"customer_id\":\"cus\",\"amount\":\"1e400\"\x7d\x7d"

/-- The broker signs without the time, so the payment fails again forever. -/
theorem retried_vast_payment :
    let c : Context := { settings := {}, now := 0 }
    let db := Database.ofCustomer "u" "u@example.com" .janua "cus"
    ∃ signature, IsRetried c ⟨"", "k", 0⟩ .janua vastPaymentBody signature db ∧
      ∀ now, IsRetried { c with now := now } ⟨"", "k", 0⟩ .janua vastPaymentBody signature db := by
  intro c db
  obtain ⟨signature, verified⟩ : ∃ signature,
      Signature.verifyJanua ⟨"", "k", 0⟩ vastPaymentBody signature = .ok () :=
    ⟨_, Signature.verifyJanua_sign (v := ⟨"", "k", 0⟩) (by decide) vastPaymentBody⟩
  have event : event? {} .janua vastPaymentBody = .ok (some
      { provider := .janua, eventId := "evt", kind := .paymentSucceeded
        eventType := "payment.succeeded", customerId := some "cus"
        amount := ⟨false, 1, 400⟩ }) := by
    rfl
  have reachable : db.Reachable := Database.reachable_ofCustomer _ _ _ _
  have secret : Signature.Verifier.secret ⟨"", "k", 0⟩ .janua ≠ "" := by decide
  obtain ⟨hiff, hagain⟩ : (IsRetried c ⟨"", "k", 0⟩ .janua vastPaymentBody signature db ↔ _) ∧ _ :=
    retried_iff reachable secret rfl
  have retried := hiff.mpr ⟨verified, _, event, .inr ⟨by rfl, _, by rfl,
    .outOfReach (by rfl) (by decide) (by decide +kernel)⟩⟩
  exact ⟨signature, retried, fun now => (hagain retried).2 now verified⟩

end Delivery
end SubscriptionBilling
