import SubscriptionBilling.Proofs.CheckoutExits

/-! Plans that the settings hold nothing to pay with. A checkout of one sells nothing, and mostly it calls
nobody. Only the direct processor's prices are looked up late: by then a customer may have been made. -/
namespace SubscriptionBilling.Checkout

section Parts
variable (c : Context) (r : CheckoutRequest) (plan : Plan) (u : Subscriber)

/-- A session that lacks something is not asked for. -/
theorem offer_of_unpayable {plan : Plan}
    (unpayable : plan.IsUnpayable c.settings (routeOf c r plan u).provider) (customer : Json)
    (n : Network) : ∃ f, offer c r plan u customer n = (.error f, n) := by
  have hplan : (orderFor c r plan u customer).plan.IsUnpayable c.settings
      (routeOf c r plan u).provider := unpayable
  obtain ⟨f, -, hf⟩ := Payment.createCheckout_of_unpayable n hplan
  exact ⟨f, hf⟩

/-- The calls that were made by the time that a session is asked for. -/
theorem mem_calls_of_ensured {w mid : World} {result : Except Failure Json} {call : Call}
    (ensured : ensure c r plan u w = (result, mid)) (h : call ∈ mid.calls) :
    call ∈ w.calls ∨ call.endpoint = (routeOf c r plan u).provider.customerEndpoint :=
  mem_of_asks ((asks_ensure c r plan u).reaches ensured) h

/-- Without an account, or for a customer who is known, ensuring one does nothing. -/
theorem eq_of_idle {w mid : World} {result : Except Failure Json}
    (ensured : ensure c r plan u w = (result, mid))
    (idle : (routeOf c r plan u).provider.hasAccount c.settings = false ∨
      u.heldId (routeOf c r plan u).provider ≠ none) : mid = w := by
  have hsame : (ensure c r plan u w).2 = w := by
    unfold ensure Subscriber.ensureCustomer
    cases hheld : u.heldId (routeOf c r plan u).provider with
    | some id => rfl
    | none =>
      have hnone := idle.resolve_right fun h => h hheld
      dsimp only
      rw [bind_of_error (Service.online_eq (Payment.createCustomer_of_no_account w.network hnone _))]
  rwa [ensured] at hsame

end Parts

/-- What a checkout for want of configuration leaves: nothing, or the customer of a subscriber who had
none with the direct processor, where there is an account but no price for the plan. -/
inductive LeavesCustomer (s : Settings) (plan : Plan) (u : Subscriber) (w : World) :
    Provider → World → Prop
  | nothing {p : Provider} (idle : p.hasAccount s = false ∨ u.heldId p ≠ none) :
      LeavesCustomer s plan u w p w
  | customer {call : Call} {after : World} (account : Provider.stripe.hasAccount s = true)
      (unheld : u.heldId .stripe = none) (unpriced : Price.id? s plan.tier plan.interval = none)
      (endpoint : call.endpoint = .stripeCustomer) (calls : after.calls = w.calls ++ [call])
      (fills : w.database.Consistent → w.database.Fills u.id .stripe after.database) :
      LeavesCustomer s plan u w .stripe after

/-- A session for want of which a checkout ends comes after a customer has been ensured. -/
theorem leavesCustomer_of_ensured {c : Context} {r : CheckoutRequest} {plan : Plan} {u : Subscriber}
    {w mid : World} {customer : Json} {missing : String}
    (ensured : ensure c r plan u w = (.ok customer, mid))
    (lacks : Lacks c.settings plan (routeOf c r plan u).provider missing) :
    LeavesCustomer c.settings plan u w (routeOf c r plan u).provider mid := by
  have hensures := ensures_of_ensured ensured
  rcases Subscriber.network_of_ensured ensured with ⟨hheld, rfl⟩ | ⟨hfree, haccount, request, hcall⟩
  · exact .nothing (.inr hheld)
  -- There was an account to make a customer with, so it is a price that is lacking.
  generalize (routeOf c r plan u).provider = p at *
  cases lacks with
  | account none => cases none.symm.trans haccount
  | price none =>
    exact .customer haccount hfree none rfl (congrArg Network.calls hcall) hensures.fills

/-- A checkout that ends for want of configuration has begun, and what it says is lacking. It has left
everything as it was if there is no account with the provider or the subscriber has a customer there. The
one other case is that of an account with the direct processor but no price for the plan: there a customer
was made in a single call and may have been stored, and nothing else has been done. A plan for which
something is lacking is never sold. -/
theorem unpayable_leaves_customer_at_most (c : Context) (r : CheckoutRequest) (w : World) :
    (∀ p missing after,
      create c r w = (.error (.billing (.providerNotConfigured p missing)), after) →
      ∃ plan u, Begins r w plan u ∧ (routeOf c r plan u).provider = p ∧
        Lacks c.settings plan p missing ∧ LeavesCustomer c.settings plan u w p after) ∧
    ∀ plan u, Begins r w plan u →
      plan.IsUnpayable c.settings (routeOf c r plan u).provider →
      ∃ f after, create c r w = (.error f, after) ∧
        ((routeOf c r plan u).provider.hasAccount c.settings = false ∨
          u.heldId (routeOf c r plan u).provider ≠ none → after = w) ∧
        ∀ call ∈ after.calls, call ∈ w.calls ∨
          call.endpoint = (routeOf c r plan u).provider.customerEndpoint := by
  constructor
  · intro p missing after h
    have hcourse := course_create c r w
    rw [h] at hcourse
    clear h
    cases hcourse with
    | refused why => rcases why with hmishap | hrejection <;> contradiction
    | @unnamed plan u _ _ begins ensured =>
      obtain ⟨⟨hnone, hsays⟩, rfl⟩ := decidesFirst_ensure c r plan u w _ _ ensured rfl
      obtain ⟨rfl, rfl⟩ := BillingError.providerNotConfigured.inj (Failure.billing.inj hsays)
      exact ⟨plan, u, begins, rfl, .account hnone, .nothing (.inl hnone)⟩
    | @unsold plan u customer mid _ n begins ensured offered =>
      obtain ⟨⟨_, hlacks, hsays⟩, rfl⟩ := decidesFirst_offer c r plan u customer _ _ _ offered rfl
      obtain ⟨rfl, rfl⟩ := BillingError.providerNotConfigured.inj (Failure.billing.inj hsays)
      exact ⟨plan, u, begins, rfl, hlacks, leavesCustomer_of_ensured ensured hlacks⟩
  · rintro plan u begins unpayable
    have hcourse := course_create c r w
    rcases hcreate : create c r w with ⟨result, after⟩
    rw [hcreate] at hcourse
    cases hcourse with
    | refused => exact ⟨_, _, rfl, fun _ => rfl, fun call hcall => .inl hcall⟩
    | @unnamed _ _ _ _ begins' ensured =>
      obtain ⟨rfl, rfl⟩ := begins.unique begins'
      exact ⟨_, _, rfl, eq_of_idle c r _ _ ensured, fun _ => mem_calls_of_ensured c r _ _ ensured⟩
    | @unsold _ _ customer mid _ n begins' ensured offered =>
      obtain ⟨rfl, rfl⟩ := begins.unique begins'
      obtain ⟨f, hoffer⟩ := offer_of_unpayable c r _ unpayable customer mid.network
      cases hoffer.symm.trans offered
      refine ⟨_, _, rfl, fun idle => ?_, fun _ => mem_calls_of_ensured c r _ _ ensured⟩
      rw [eq_of_idle c r _ _ ensured idle]
    | @sold _ _ customer mid session n begins' _ ensured offered =>
      obtain ⟨rfl, rfl⟩ := begins.unique begins'
      obtain ⟨f, hoffer⟩ := offer_of_unpayable c r _ unpayable customer mid.network
      cases hoffer.symm.trans offered

/-- A direct processor for which no price is known. -/
def unpriced : Context := { settings := { stripeSecretKey := "k" }, now := 0 }

/-- A subscriber who goes there for the top plan has a customer afterwards, and nothing else. -/
theorem unpayable_pro_leaves_customer :
    ∃ after, create unpriced { subscriberId := "user" } Visit.shop =
        (.error (.billing (.providerNotConfigured .stripe "price id for pro monthly")), after) ∧
      after ≠ Visit.shop ∧ after.database.slot? "user" .stripe = some "cus" ∧
      (∃ plan u, Begins { subscriberId := "user" } Visit.shop plan u ∧
        LeavesCustomer unpriced.settings plan u Visit.shop .stripe after) ∧
      ∀ call ∈ after.calls, call.endpoint = .stripeCustomer := by
  have hresult : (create unpriced { subscriberId := "user" } Visit.shop).1 =
      .error (.billing (.providerNotConfigured .stripe "price id for pro monthly")) := by
    with_unfolding_all rfl
  have hslot : (create unpriced { subscriberId := "user" } Visit.shop).2.database.slot? "user" .stripe =
      some "cus" := by
    with_unfolding_all rfl
  rcases hcreate : create unpriced { subscriberId := "user" } Visit.shop with ⟨result, after⟩
  rw [hcreate] at hresult hslot
  obtain rfl : result = _ := hresult
  obtain ⟨hunconfigured, hunpayable⟩ :=
    unpayable_leaves_customer_at_most unpriced { subscriberId := "user" } Visit.shop
  obtain ⟨plan, u, begins, hprovider, hlacks, hleaves⟩ := hunconfigured _ _ _ hcreate
  obtain ⟨_, _, hsame, -, hcalls⟩ := hunpayable plan u begins ⟨_, hprovider.symm ▸ hlacks⟩
  obtain ⟨-, rfl⟩ := Prod.mk.inj (hcreate.symm.trans hsame)
  refine ⟨after, rfl, ?_, hslot, ⟨plan, u, begins, hleaves⟩, fun call hcall => ?_⟩
  · rintro rfl
    cases hslot
  · rw [hprovider] at hcalls
    exact (hcalls call hcall).resolve_left List.not_mem_nil

end SubscriptionBilling.Checkout
