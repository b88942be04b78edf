import SubscriptionBilling.Proofs.Mishaps

/-! Single calls to the payment providers. One that goes through has been made exactly once, and it comes
to what the first answer holds. What the settings lack for it is found before it is made. -/
namespace SubscriptionBilling

/-! What a provider needs. -/

/-- Whether the settings have what every call to a provider needs. -/
def Provider.hasAccount (s : Settings) : Provider → Bool
  | .stripe => !s.stripeSecretKey.isEmpty
  | .janua => !((Janua.baseUrl s).isEmpty || s.januaApiKey.isEmpty)

/-- What an account takes, in the words of the failure without it. -/
def Provider.account : Provider → String
  | .stripe => "stripe_secret_key"
  | .janua => "janua_api_url/janua_api_key"

/-- The failure for want of something. -/
def Provider.unconfigured (p : Provider) (missing : String) : Failure :=
  .billing (.providerNotConfigured p missing)

/-- What the settings lack for a provider to sell a plan: the account, or for the direct processor the
price of the plan. -/
inductive Lacks (s : Settings) (plan : Plan) : Provider → String → Prop
  | account {p : Provider} (none : p.hasAccount s = false) : Lacks s plan p p.account
  | price (none : Price.id? s plan.tier plan.interval = none) :
      Lacks s plan .stripe ("price id for " ++ plan.tier.name ++ " " ++ plan.interval.name)

/-- The plan cannot be paid for with a provider. -/
def Plan.IsUnpayable (s : Settings) (plan : Plan) (p : Provider) : Prop := ∃ missing, Lacks s plan p missing

/-- A failure for want of an account. -/
def Provider.WantsAccount (s : Settings) (p : Provider) (f : Failure) : Prop :=
  p.hasAccount s = false ∧ f = p.unconfigured p.account

/-- A failure for want of what a plan lacks. -/
def Plan.Wants (s : Settings) (plan : Plan) (p : Provider) (f : Failure) : Prop :=
  ∃ missing, Lacks s plan p missing ∧ f = p.unconfigured missing

theorem Provider.WantsAccount.wants {s : Settings} {plan : Plan} {p : Provider} (f : Failure)
    (h : p.WantsAccount s f) : plan.Wants s p f := ⟨_, .account h.1, h.2⟩

section Failures
variable (s : Settings)

theorem Online.stumbles_ask (e : Endpoint) (r : Request) : Stumbles (Online.ask e r) := by
  intro n f after h
  cases h

theorem Content.failsByMishap_checkSendable (content : Content) :
    FailsByMishap content.checkSendable := by
  unfold checkSendable
  cases content with
  | document v => exact .ite (.error rfl) (.ite (.error rfl) (.ok ()))
  | text t => exact .ok ()

theorem Online.stumbles_post (e : Endpoint) (url : String) (headers : List (String × String))
    (body : Content) : Stumbles (Online.post e url headers body) := by
  unfold Online.post
  split
  case h_2 => exact .throw nofun
  refine .refuse (fun _ => nofun) fun _ => ?_
  refine (DecidesFirst.lift body.failsByMishap_checkSendable).bind fun _ => ?_
  refine (stumbles_ask _ _).bind fun reply => ?_
  split
  · split
    · exact .pure _
    · exact .throw nofun
  · exact .pure _

theorem Stripe.decidesFirst_call (e : Endpoint) (operation : String)
    (arguments : List (String × Json)) :
    DecidesFirst (Provider.stripe.WantsAccount s) (Stripe.call s e operation arguments) := by
  unfold Stripe.call
  refine .refuse (fun hkey _ => ⟨by simp [Provider.hasAccount, hkey], rfl⟩) fun _ => ?_
  refine .refuse (fun _ => nofun) fun _ => ?_
  refine ((Online.stumbles_ask _ _).mono fun _ => False.elim).bind fun reply => ?_
  split <;> first | exact .pure _ | exact .throw nofun

theorem Stripe.failsByMishap_partOf (v : Json) (name : String) :
    FailsByMishap (Stripe.partOf v name) := by
  unfold Stripe.partOf
  split
  · exact .ok _
  · exact .error rfl

theorem Janua.failsByMishap_accept (operation : String) (status : Nat) (content : Content) :
    FailsByMishap (Janua.accept operation status content) := by
  unfold Janua.accept
  refine .ite (.error rfl) (.ite (.ok _) ?_)
  split
  · exact .ok _
  · exact .error rfl

theorem Janua.decidesFirst_post (e : Endpoint) (operation path : String)
    (body : List (String × Json)) :
    DecidesFirst (Provider.janua.WantsAccount s) (Janua.post s e operation path body) := by
  unfold Janua.post
  refine .refuse (fun hkey _ => ⟨by rw [Provider.hasAccount, hkey, Bool.not_true], rfl⟩) fun _ => ?_
  refine ((Online.stumbles_post _ _ _ _).mono fun _ => False.elim).bind fun reply => ?_
  split
  · exact .lift (Janua.failsByMishap_accept _ _ _)
  all_goals exact .throw nofun

theorem Janua.failsByMishap_replyField (v : Json) (name : String) :
    FailsByMishap (Janua.replyField v name) := by
  unfold Janua.replyField
  split
  · exact .ok _
  · exact .error rfl

theorem Janua.failsByMishap_neededField (operation : String) (v : Json) (name : String) :
    FailsByMishap (Janua.neededField operation v name) := by
  unfold Janua.neededField
  refine (Janua.failsByMishap_replyField v name).bind fun a => ?_
  exact .ite (.ok _) (.error rfl)

theorem Payment.failsByMishap_session (id url : Json) : FailsByMishap (Payment.session id url) := by
  unfold Payment.session
  split
  · exact .ok _
  · exact .error rfl

theorem Stripe.decidesFirst_createCheckout (o : CheckoutOrder) :
    DecidesFirst (o.plan.Wants s .stripe) (Stripe.createCheckout s o) := by
  unfold Stripe.createCheckout
  split
  case h_2 hprice => exact .throw fun _ => ⟨_, .price (Option.eq_none_iff_forall_ne_some.mpr hprice), rfl⟩
  refine ((Stripe.decidesFirst_call s _ _ _).mono Provider.WantsAccount.wants).bind fun v => ?_
  refine DecidesFirst.bind (.lift (Stripe.failsByMishap_partOf v "id")) fun id => ?_
  refine DecidesFirst.bind (.lift (Stripe.failsByMishap_partOf v "url")) fun url => ?_
  exact .lift (Payment.failsByMishap_session id url)

theorem Janua.decidesFirst_createCheckout (o : CheckoutOrder) :
    DecidesFirst (o.plan.Wants s .janua) (Janua.createCheckout s o) := by
  unfold Janua.createCheckout
  refine ((Janua.decidesFirst_post s _ _ _ _).mono Provider.WantsAccount.wants).bind fun v => ?_
  refine DecidesFirst.bind (.lift (Janua.failsByMishap_neededField _ v _)) fun url => ?_
  refine DecidesFirst.bind (.lift (Janua.failsByMishap_replyField v _)) fun id => ?_
  exact .lift (Payment.failsByMishap_session _ url)

namespace Payment

/-- A new customer takes no more than the account. -/
theorem decidesFirst_createCustomer (p : Provider) (c : NewCustomer) :
    DecidesFirst (p.WantsAccount s) (createCustomer s p c) := by
  cases p with
  | stripe =>
    unfold createCustomer Stripe.createCustomer
    exact (Stripe.decidesFirst_call s _ _ _).bind fun v => .lift (Stripe.failsByMishap_partOf v "id")
  | janua =>
    unfold createCustomer Janua.createCustomer
    exact (Janua.decidesFirst_post s _ _ _ _).bind fun v =>
      .lift (Janua.failsByMishap_neededField _ v _)

/-- A session takes all that the plan needs. -/
theorem decidesFirst_createCheckout (p : Provider) (o : CheckoutOrder) :
    DecidesFirst (o.plan.Wants s p) (createCheckout s p o) := by
  cases p with
  | stripe => exact Stripe.decidesFirst_createCheckout s o
  | janua => exact Janua.decidesFirst_createCheckout s o

end Payment

end Failures

section Wants
variable {s : Settings} {e : Endpoint} {p : Provider} (n : Network)

theorem Stripe.call_of_no_account (none : Provider.stripe.hasAccount s = false) (operation : String)
    (arguments : List (String × Json)) : Stripe.call s e operation arguments n =
      (.error (Provider.stripe.unconfigured Provider.stripe.account), n) := by
  have hkey : s.stripeSecretKey.isEmpty = true := by
    rwa [Provider.hasAccount, Bool.not_eq_false'] at none
  unfold Stripe.call
  rw [if_pos hkey]
  rfl

theorem Janua.post_of_no_account (none : Provider.janua.hasAccount s = false)
    (operation path : String) (body : List (String × Json)) : Janua.post s e operation path body n =
      (.error (Provider.janua.unconfigured Provider.janua.account), n) := by
  have hkey : ((Janua.baseUrl s).isEmpty || s.januaApiKey.isEmpty) = true := by
    rwa [Provider.hasAccount, Bool.not_eq_false'] at none
  unfold Janua.post
  rw [if_pos hkey]
  rfl

/-- Without an account no customer is made. -/
theorem Payment.createCustomer_of_no_account (none : p.hasAccount s = false) (c : NewCustomer) :
    createCustomer s p c n = (.error (p.unconfigured p.account), n) := by
  cases p with
  | stripe => exact bind_of_error (Stripe.call_of_no_account n none _ _)
  | janua => exact bind_of_error (Janua.post_of_no_account n none _ _ _)

theorem Stripe.createCheckout_of_no_price {o : CheckoutOrder}
    (none : Price.id? s o.plan.tier o.plan.interval = none) : Stripe.createCheckout s o n =
      (.error (Provider.stripe.unconfigured
        ("price id for " ++ o.plan.tier.name ++ " " ++ o.plan.interval.name)), n) := by
  unfold Stripe.createCheckout
  rw [none]
  rfl

/-- What a plan lacks is found before its session is asked for. -/
theorem Payment.createCheckout_of_unpayable {o : CheckoutOrder} (h : o.plan.IsUnpayable s p) :
    ∃ f, o.plan.Wants s p f ∧ createCheckout s p o n = (.error f, n) := by
  obtain ⟨missing, hlacks⟩ := h
  cases hlacks with
  | price none => exact ⟨_, ⟨_, .price none, rfl⟩, Stripe.createCheckout_of_no_price n none⟩
  | account none =>
    cases p with
    | stripe =>
      -- Of the two things that may be lacking the price is looked up first.
      cases hprice : Price.id? s o.plan.tier o.plan.interval with
      | none => exact ⟨_, ⟨_, .price hprice, rfl⟩, Stripe.createCheckout_of_no_price n hprice⟩
      | some price =>
        refine ⟨_, Provider.WantsAccount.wants _ ⟨none, rfl⟩, ?_⟩
        unfold createCheckout Stripe.createCheckout
        simp only [hprice]
        exact bind_of_error (Stripe.call_of_no_account n none _ _)
    | janua =>
      exact ⟨_, Provider.WantsAccount.wants _ ⟨none, rfl⟩,
        bind_of_error (Janua.post_of_no_account n none _ _ _)⟩

end Wants

section Successes
variable {s : Settings} {e : Endpoint} {n after : Network}

theorem Stripe.ok_of_call {operation : String} {arguments : List (String × Json)} {v : Json}
    (h : Stripe.call s e operation arguments n = (.ok v, after)) :
    Provider.stripe.hasAccount s = true ∧ (n.replies e).head? = some (.object v) ∧
      after = (n.call e (.arguments arguments)).2 := by
  unfold Stripe.call at h
  obtain ⟨hkey, h⟩ := ok_of_refuse h
  obtain ⟨-, h⟩ := ok_of_refuse h
  obtain ⟨reply, mid, hask, h⟩ := ok_of_bind h
  have hreply : (n.replies e).head? = reply := Except.ok.inj (congrArg Prod.fst hask)
  have hmid : (n.call e (.arguments arguments)).2 = mid := congrArg Prod.snd hask
  split at h
  · cases h
    exact ⟨by simpa [Provider.hasAccount] using hkey, hreply, hmid.symm⟩
  all_goals cases h

theorem Online.ok_of_post {url : String} {headers : List (String × String)} {body : Content}
    {reply : Option Reply} (h : Online.post e url headers body n = (.ok reply, after)) :
    reply = (n.replies e).head? ∧
      ∃ address sent, after = (n.call e (.post address sent body)).2 := by
  unfold Online.post at h
  generalize Address.ofString? url = address at h
  split at h
  case h_2 => cases h
  obtain ⟨-, hsent⟩ := ok_of_refuse h
  obtain ⟨_, mid, hsendable, hasked⟩ := ok_of_bind hsent
  obtain rfl : mid = n := (ok_of_lift hsendable).2
  obtain ⟨given, last, hask, hend⟩ := ok_of_bind hasked
  have hgiven : (mid.replies e).head? = given := Except.ok.inj (congrArg Prod.fst hask)
  have hlast : (mid.call e (.post _ _ body)).2 = last := congrArg Prod.snd hask
  split at hend
  · split at hend <;> cases hend
    exact ⟨hgiven.symm, _, _, hlast.symm⟩
  · cases hend
    exact ⟨hgiven.symm, _, _, hlast.symm⟩

theorem Janua.ok_of_post {operation path : String} {body : List (String × Json)} {v : Json}
    (h : Janua.post s e operation path body n = (.ok v, after)) :
    Provider.janua.hasAccount s = true ∧
      (∃ status content, (n.replies e).head? = some (.response status content) ∧
        Janua.accept operation status content = .ok v) ∧
      ∃ address sent, after = (n.call e (.post address sent (.document (.object body)))).2 := by
  unfold Janua.post at h
  obtain ⟨hkey, h⟩ := ok_of_refuse h
  obtain ⟨reply, mid, hpost, h⟩ := ok_of_bind h
  obtain ⟨hreply, hmid⟩ := Online.ok_of_post hpost
  split at h
  · next status content =>
    obtain ⟨haccept, rfl⟩ := ok_of_lift h
    exact ⟨by simpa [Provider.hasAccount] using hkey, ⟨status, content, hreply.symm, haccept⟩, hmid⟩
  all_goals cases h

end Successes

end SubscriptionBilling
