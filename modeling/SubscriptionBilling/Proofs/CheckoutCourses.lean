import SubscriptionBilling.Proofs.CheckoutCalls

/-! The courses that a checkout can take. It is refused, or it begins: then a customer is ensured and a
session is made for that customer, and each of the two can fail. -/
namespace SubscriptionBilling

/-- The failures by which a checkout is turned away. -/
def Failure.isRejection : Failure → Bool
  | .billing (.unknownPlan _) => true
  | .billing (.subscriberNotFound _) => true
  | .billing (.alreadyAtOrAboveTier ..) => true
  | .billing (.untrustedRedirect _) => true
  | _ => false

theorem Service.besides_eq (x : Service Unit) (w : World) : besides x w = (.ok (), (x w).2) := rfl

/-- Whether a customer can be ensured is decided by the account. -/
theorem Subscriber.decidesFirst_ensureCustomer (c : Context) (u : Subscriber) (r : Route)
    (country : String) (organizationId : Option String) :
    DecidesFirst (r.provider.WantsAccount c.settings)
      (u.ensureCustomer c r country organizationId) := by
  unfold ensureCustomer
  split
  · exact .pure _
  refine (Service.decidesFirst_online (Payment.decidesFirst_createCustomer _ _ _)).bind fun given => ?_
  refine (Service.stumbles_commit (failsByMishap_keepCustomerId _ _ given)).bind fun kept => ?_
  split
  · exact .pure _
  refine (Service.stumbles_read _).bind fun current => ?_
  split <;> exact .pure _

/-- A customer who is known is used without a call. A new one takes an account and a single call. -/
theorem Subscriber.network_of_ensured {c : Context} {u : Subscriber} {r : Route} {country : String}
    {organizationId : Option String} {w after : World} {customer : Json}
    (h : u.ensureCustomer c r country organizationId w = (.ok customer, after)) :
    (u.heldId r.provider ≠ none ∧ after = w) ∨
      u.heldId r.provider = none ∧ r.provider.hasAccount c.settings = true ∧
        ∃ request, after.network = (w.network.call r.provider.customerEndpoint request).2 := by
  unfold ensureCustomer at h
  cases hheld : u.heldId r.provider with
  | some id =>
    simp only [hheld] at h
    cases h
    exact .inl ⟨Option.some_ne_none id, rfl⟩
  | none =>
    simp only [hheld] at h
    obtain ⟨given, mid, honline, h⟩ := ok_of_bind h
    obtain ⟨n, hcreate, rfl⟩ := Service.ok_of_online honline
    obtain ⟨haccount, -, request, rfl⟩ := Payment.ok_of_createCustomer hcreate
    obtain ⟨kept, mid, hcommit, h⟩ := ok_of_bind h
    obtain ⟨db, -, rfl⟩ := Service.ok_of_commit hcommit
    refine .inr ⟨rfl, haccount, request, ?_⟩
    cases kept with
    | true =>
      cases h
      rfl
    | false =>
      obtain ⟨current, last, hread, h⟩ := ok_of_bind h
      obtain ⟨rfl, rfl⟩ := Service.ok_of_read hread
      generalize Option.bind _ _ = winner at h
      cases winner <;> cases h <;> rfl

namespace Checkout

/-- A checkout that begins: its plan is there, and lies above the tier of its subscriber. -/
structure Begins (r : CheckoutRequest) (w : World) (plan : Plan) (u : Subscriber) : Prop where
  bought : Plan.ofSlug? (textOr r.plan Plan.defaultSlug) = some plan
  found : w.database.subscriber? r.subscriberId = some u
  above : u.tier < plan.tier

theorem Begins.unique {r : CheckoutRequest} {w : World} {plan plan' : Plan} {u u' : Subscriber}
    (h : Begins r w plan u) (h' : Begins r w plan' u') : plan' = plan ∧ u' = u :=
  ⟨Option.some.inj (h'.bought.symm.trans h.bought), Option.some.inj (h'.found.symm.trans h.found)⟩

section Parts
variable (c : Context) (r : CheckoutRequest) (plan : Plan) (u : Subscriber)

/-- The product that a checkout sells. -/
def productOf : Product := r.product.getD plan.product

/-- The route that it takes. -/
def routeOf : Route :=
  let router := Router.ofSettings c.settings
  router.route
    (some (router.normalizeCountry ((r.country.filter fun t => !t.isEmpty).or u.countryCode)))
    (productOf r plan)

/-- The country that a checkout is made from: the one that is asked for, or the subscriber's own. -/
def countryOf : String :=
  (Router.ofSettings c.settings).normalizeCountry
    ((r.country.filter fun t => !t.isEmpty).or u.countryCode)

/-- The customer of a checkout. -/
def ensure : Service Json :=
  u.ensureCustomer c (routeOf c r plan u) (countryOf c r u) r.organizationId

/-- What is ordered for a customer. -/
def orderFor (customer : Json) : CheckoutOrder :=
  order c r u plan (productOf r plan) (routeOf c r plan u) (countryOf c r u) customer

/-- The session that is made for a customer. -/
def offer (customer : Json) : Online CheckoutSession :=
  Payment.createCheckout c.settings (routeOf c r plan u).provider (orderFor c r plan u customer)

/-- The note of a session. -/
def jot (session : String) : Service Unit :=
  Service.commit c do
    let _ ← (note r plan (productOf r plan) (routeOf c r plan u) session).log c

/-- An account is looked for before a customer is made. -/
theorem decidesFirst_ensure :
    DecidesFirst ((routeOf c r plan u).provider.WantsAccount c.settings) (ensure c r plan u) :=
  u.decidesFirst_ensureCustomer c (routeOf c r plan u) (countryOf c r u) r.organizationId

/-- What the plan takes is looked for before its session is made. -/
theorem decidesFirst_offer (customer : Json) :
    DecidesFirst (plan.Wants c.settings (routeOf c r plan u).provider) (offer c r plan u customer) :=
  Payment.decidesFirst_createCheckout c.settings (routeOf c r plan u).provider
    (orderFor c r plan u customer)

theorem asks_ensure :
    Along (Asks fun call => call.endpoint = (routeOf c r plan u).provider.customerEndpoint) World.calls
      (ensure c r plan u) :=
  u.asks_ensureCustomer c (routeOf c r plan u) (countryOf c r u) r.organizationId

theorem ensures_of_ensured {c : Context} {r : CheckoutRequest} {plan : Plan} {u : Subscriber}
    {w mid : World} {result : Except Failure Json} (h : ensure c r plan u w = (result, mid)) :
    u.Ensures (routeOf c r plan u).provider w result mid := by
  have hensures := u.ensures_ensureCustomer c (routeOf c r plan u) (countryOf c r u)
    r.organizationId w
  have hensured : u.ensureCustomer c (routeOf c r plan u) (countryOf c r u) r.organizationId w =
      (result, mid) := h
  rwa [hensured] at hensures

/-- A note makes no calls. -/
theorem network_jot (session : String) (w : World) :
    (jot c r plan u session w).2.network = w.network := by
  unfold jot
  rcases Service.commit_cases c (do
      let _ ← (note r plan (productOf r plan) (routeOf c r plan u) session).log c) w with
    ⟨f, hcommit⟩ | ⟨_, after, -, hcommit⟩ <;> rw [hcommit]

/-- It leaves the subscribers alone. -/
theorem subscribers_jot (session : String) (w : World) :
    (jot c r plan u session w).2.subscribers = w.subscribers := by
  refine eq_of_no_step (Service.leaves_commit (fun {db _ after} h => ?_) w)
  obtain ⟨entry, _, hlog, h⟩ := Transaction.bind_eq_ok.mp h
  cases h
  exact AuditNote.subscribers_of_log hlog

end Parts

/-- The ways in which a checkout can go. -/
inductive Course (c : Context) (r : CheckoutRequest) (w : World) :
    Except Failure CheckoutResult → World → Prop
  | refused {f : Failure} (why : f.isMishap = true ∨ f.isRejection = true) : Course c r w (.error f) w
  | unnamed {plan : Plan} {u : Subscriber} {f : Failure} {mid : World} (begins : Begins r w plan u)
      (ensured : ensure c r plan u w = (.error f, mid)) : Course c r w (.error f) mid
  | unsold {plan : Plan} {u : Subscriber} {customer : Json} {mid : World} {f : Failure} {n : Network}
      (begins : Begins r w plan u) (ensured : ensure c r plan u w = (.ok customer, mid))
      (offered : offer c r plan u customer mid.network = (.error f, n)) :
      Course c r w (.error f) { mid with network := n }
  | sold {plan : Plan} {u : Subscriber} {customer : Json} {mid : World} {session : CheckoutSession}
      {n : Network} (begins : Begins r w plan u)
      (read : Service.read c (fun db => db.subscriber? r.subscriberId) w = (.ok (some u), w))
      (ensured : ensure c r plan u w = (.ok customer, mid))
      (offered : offer c r plan u customer mid.network = (.ok session, n)) :
      Course c r w (.ok ⟨session.url, (routeOf c r plan u).label, session.id⟩)
        (jot c r plan u session.id { mid with network := n }).2

/-- The rest of a checkout that has begun. -/
theorem proceed_of_above (c : Context) (r : CheckoutRequest) {plan : Plan} {u : Subscriber}
    (above : u.tier < plan.tier) :
    proceed c r plan u = do
      let customer ← ensure c r plan u
      let session ← Service.online (offer c r plan u customer)
      Service.besides (jot c r plan u session.id)
      return ⟨session.url, (routeOf c r plan u).label, session.id⟩ := by
  have hbelow : ¬plan.tier ≤ u.tier := Nat.not_le_of_lt above
  unfold proceed
  rw [if_neg hbelow]
  rfl

theorem course_proceed {c : Context} {r : CheckoutRequest} {w : World} {plan : Plan} {u : Subscriber}
    (begins : Begins r w plan u)
    (read : Service.read c (fun db => db.subscriber? r.subscriberId) w = (.ok (some u), w)) :
    Course c r w (proceed c r plan u w).1 (proceed c r plan u w).2 := by
  rw [proceed_of_above c r begins.above]
  rcases hensured : ensure c r plan u w with ⟨f | customer, mid⟩
  · rw [bind_of_error hensured]
    exact .unnamed begins hensured
  rw [bind_of_ok hensured]
  rcases hoffered : offer c r plan u customer mid.network with ⟨f | session, n⟩
  · rw [bind_of_error (Service.online_eq hoffered)]
    exact .unsold begins hensured hoffered
  · rw [bind_of_ok (Service.online_eq hoffered), bind_of_ok (Service.besides_eq _ _)]
    exact .sold begins read hensured hoffered

theorem course_create (c : Context) (r : CheckoutRequest) (w : World) :
    Course c r w (create c r w).1 (create c r w).2 := by
  rcases create_begins c r w with ⟨f, hrefused, hwhy⟩ | ⟨plan, u, bought, hfound, hproceed⟩
  · rw [hrefused]
    refine .refused ?_
    rcases hwhy with rfl | rfl | hread
    · exact .inr rfl
    · exact .inr rfl
    · exact .inl ((Service.stumbles_read _).isMishap hread)
  rw [hproceed]
  by_cases hbelow : plan.tier ≤ u.tier
  · unfold proceed
    rw [if_pos hbelow]
    exact .refused (.inr rfl)
  · have found := (Service.ok_of_read hfound).1.symm
    exact course_proceed ⟨bought, found, Nat.lt_of_not_le hbelow⟩ hfound

/-- Every call of a checkout is for a customer, or it is made for the session that is offered. -/
theorem asks_create {c : Context} {r : CheckoutRequest} {w : World} {P : Call → Prop}
    (customers : ∀ (p : Provider) (call : Call), call.endpoint = p.customerEndpoint → P call)
    (sessions : ∀ plan u, Begins r w plan u → ∀ customer,
      Along (Asks P) Network.calls (offer c r plan u customer)) :
    Relation.ReflTransGen (Asks P) w.calls (create c r w).2.calls := by
  have hcourse := course_create c r w
  rcases hcreate : create c r w with ⟨result, after⟩
  rw [hcreate] at hcourse
  cases hcourse with
  | refused => exact .refl
  | @unnamed plan u _ mid begins ensured =>
    exact ((asks_ensure c r plan u).asks_mono (customers _)).reaches ensured
  | @unsold plan u customer mid _ n begins ensured offered =>
    exact (((asks_ensure c r plan u).asks_mono (customers _)).reaches ensured).trans
      ((sessions plan u begins customer).reaches offered)
  | @sold plan u customer mid session n begins _ ensured offered =>
    have hjot : (jot c r plan u session.id { mid with network := n }).2.calls = n.calls :=
      congrArg Network.calls (network_jot c r plan u session.id _)
    rw [hjot]
    exact (((asks_ensure c r plan u).asks_mono (customers _)).reaches ensured).trans
      ((sessions plan u begins customer).reaches offered)

end Checkout

end SubscriptionBilling
