import SubscriptionBilling.Proofs.SuccessfulCheckouts

/-! The products that checkouts through the broker are for. The product that a checkout asks for decides
on its route and stands in its metadata, but the broker is told the plan's own name, which begins with the
product of the plan. -/
namespace SubscriptionBilling

/-- The product with which a plan's name at the broker begins. -/
def Janua.sellerOf? (planId : String) : Option Product :=
  (Text.cutFirst '_' planId.toList).bind fun cut => Product.ofName? (String.ofList cut.1)

/-- It is the product of the plan. -/
theorem Janua.sellerOf?_planId (plan : Plan) : sellerOf? (planId plan) = some plan.product := by
  obtain ⟨slug, product, base, interval⟩ := plan
  have hname : ∀ product base interval,
      sellerOf? (planId ⟨"", product, base, interval⟩) = some product := by
    intro product base interval
    cases product <;> cases base <;> cases interval <;> decide
  exact hname product base interval

/-- Only products that are not kept from the broker take its route. -/
theorem Router.brokered_of_route {r : Router} {country : Option String} {product : Product}
    (h : (r.route country product).provider = .janua) :
    r.directProducts.contains product.name = false ∧
      r.route country product = r.brokerRoute country := by
  unfold route at h ⊢
  split at h
  · cases h
  · next hindirect =>
    rw [if_neg hindirect]
    exact ⟨(Bool.or_eq_false_iff.mp (Bool.eq_false_iff.mpr hindirect)).2, rfl⟩

/-- A session that the broker is asked for as it is ordered. -/
structure Call.IsBrokered (o : CheckoutOrder) (call : Call) : Prop where
  endpoint : call.endpoint = .januaCheckout
  plan : call.posted? "plan_id" = some (.string (Janua.planId o.plan))
  upstream : call.posted? "provider" = some (Janua.upstream o.route)
  metadata : call.posted? "metadata" = some (.object o.metadata)

section Calls
variable (s : Settings) (o : CheckoutOrder)

theorem Janua.asks_brokered :
    Along (Asks (Call.IsBrokered o)) Network.calls (Janua.createCheckout s o) := by
  unfold Janua.createCheckout
  refine Along.bind (asks_post s fun url headers => ⟨rfl, ?_, ?_, ?_⟩) fun _ => ?_
  · simp [Call.posted?, Json.lookup_field]
  · simp [Call.posted?, Json.lookup_field]
  · simp [Call.posted?, Json.lookup_field]
  · exact (Along.lift _).bind fun _ => (Along.lift _).bind fun _ => .lift _

/-- The broker is asked for sessions on its own route alone. -/
theorem Payment.asks_brokered (p : Provider) :
    Along (Asks fun call => call.endpoint = .januaCheckout → p = .janua ∧ call.IsBrokered o)
      Network.calls (createCheckout s p o) := by
  cases p with
  | stripe =>
    refine (Stripe.asks_createCheckout s o).asks_mono ?_
    rintro call ⟨hdirect, -⟩ hbroker
    cases hdirect.symm.trans hbroker
  | janua => exact (Janua.asks_brokered s o).asks_mono fun call hcall _ => ⟨rfl, hcall⟩

end Calls

namespace Checkout

/-- A session that a checkout asks the broker for. -/
inductive AsksBroker (c : Context) (r : CheckoutRequest) (w : World) (call : Call) : Prop
  | asked {plan : Plan} {u : Subscriber} {customer : Json} (begins : Begins r w plan u)
      (routed : (routeOf c r plan u).provider = .janua)
      (brokered : call.IsBrokered (orderFor c r plan u customer)) : AsksBroker c r w call

/-- Whatever a visit asks the broker for is a session of its own checkout. -/
theorem Visit.asks_broker (c : Context) (v : Visit) (w : World) :
    ∃ made, (v.checkOut c w).2.calls = w.calls ++ made ∧
      ∀ call ∈ made, call.endpoint = .januaCheckout → AsksBroker c v.request w call := by
  rcases v.checkOut_cases c w with ⟨f, hrefused⟩ | hcreate
  · exact ⟨[], by rw [hrefused, List.append_nil], nofun⟩
  rw [hcreate]
  refine made_of_asks (asks_create ?_ ?_)
  · intro p call hcustomer hbroker
    exact absurd (hbroker.symm.trans hcustomer) (Provider.checkoutEndpoint_ne_customerEndpoint .janua p)
  · intro plan u begins customer
    refine (Payment.asks_brokered c.settings (orderFor c v.request plan u customer) _).asks_mono ?_
    intro call hbrokered hbroker
    obtain ⟨hrouted, hcall⟩ := hbrokered hbroker
    exact .asked begins hrouted hcall

/-- Broker and metadata name the same product where the checkout asks for no other one than the plan's. -/
theorem seller_eq_iff {r : CheckoutRequest} {plan : Plan}
    (plain : ∀ f ∈ r.extraMetadata, f.1 ≠ "product") :
    (Janua.sellerOf? (Janua.planId plan)).map (fun p => Json.string p.name) =
        (metadata r plan (productOf r plan)).lookup "product" ↔
      r.product = none ∨ r.product = some plan.product := by
  have hnames : ∀ p q : Product, p.name = q.name ↔ p = q := by
    intro p q
    cases p <;> cases q <;> decide
  rw [Janua.sellerOf?_planId, lookup_metadata_of_plain plan plain]
  change some (Json.string plan.product.name) = some (.string (productOf r plan).name) ↔ _
  rw [Option.some_inj, Json.string.injEq, hnames, productOf]
  cases r.product with
  | none => simp
  | some product => simp [eq_comm]

/-- The product that a checkout asks for, or that of its plan, decides whether the broker is asked for its
session, and stands in the metadata unless an extra field takes its place. The broker is told the plan's
name, which begins with the product of the plan all the same. So the two products are the same if the
checkout asks for none or for that of the plan, and only then. -/
theorem Visit.broker_is_told_plans_product (c : Context) (v : Visit) (w : World) :
    ∃ made, (v.checkOut c w).2.calls = w.calls ++ made ∧
      ∀ call ∈ made, call.endpoint = .januaCheckout → ∃ plan u id m, Begins v.request w plan u ∧
        (Router.ofSettings c.settings).directProducts.contains
          (productOf v.request plan).name = false ∧
        call.posted? "plan_id" = some (.string id) ∧ Janua.sellerOf? id = some plan.product ∧
        call.posted? "metadata" = some (.object m) ∧
        ((∀ f ∈ v.request.extraMetadata, f.1 ≠ "product") →
          m.lookup "product" = some (.string (productOf v.request plan).name) ∧
          ((Janua.sellerOf? id).map (fun p => Json.string p.name) = m.lookup "product" ↔
            v.request.product = none ∨ v.request.product = some plan.product)) := by
  obtain ⟨made, hmade, hcalls⟩ := v.asks_broker c w
  refine ⟨made, hmade, fun call hcall hbroker => ?_⟩
  obtain ⟨begins, routed, brokered⟩ := hcalls call hcall hbroker
  exact ⟨_, _, _, _, begins, (Router.brokered_of_route routed).1, brokered.plan, Janua.sellerOf?_planId _,
    brokered.metadata, fun plain => ⟨lookup_metadata_of_plain _ plain _, seller_eq_iff plain⟩⟩

/-- A plan of one product that is asked for as another one. -/
def mixed : CheckoutRequest :=
  { subscriberId := "user", plan := some "enclii_pro", product := some .tezca }

/-- The broker is told of the one, and the metadata names the other. -/
theorem Visit.broker_is_told_other_product :
    let s := Step.brokering mixed (.string "cus")
    ∃ call ∈ ((own mixed).checkOut s.context (s.prepare (Step.run [Step.enrolling] {}))).2.calls,
      call.endpoint = .januaCheckout ∧ (∀ f ∈ mixed.extraMetadata, f.1 ≠ "product") ∧
      ∃ id m, call.posted? "plan_id" = some (.string id) ∧ Janua.sellerOf? id = some .enclii ∧
        call.posted? "metadata" = some (.object m) ∧ m.lookup "product" = some (.string "tezca") := by
  dsimp only
  have hcalls : (create (Step.brokering mixed (.string "cus")).context mixed
      ((Step.brokering mixed (.string "cus")).prepare (Step.run [Step.enrolling] {}))).2.calls.map
      (·.endpoint) = [.januaCustomer, .januaCheckout] := by
    with_unfolding_all rfl
  have hbought : Plan.ofSlug? "enclii_pro" = some ⟨"enclii_pro", .enclii, .pro, .monthly⟩ := by
    decide +kernel
  obtain ⟨made, hmade, htold⟩ := broker_is_told_plans_product
    (Step.brokering mixed (.string "cus")).context (own mixed)
    ((Step.brokering mixed (.string "cus")).prepare (Step.run [Step.enrolling] {}))
  have hsession : Endpoint.januaCheckout ∈ made.map (·.endpoint) := by
    have hmade : made.map (·.endpoint) = [.januaCustomer, .januaCheckout] :=
      (congrArg (List.map (·.endpoint)) hmade).symm.trans hcalls
    rw [hmade]
    exact List.mem_cons_of_mem _ List.mem_cons_self
  obtain ⟨call, hcall, hendpoint⟩ := List.mem_map.mp hsession
  obtain ⟨plan, u, id, m, begins, -, hplan, hseller, hmetadata, hnames⟩ := htold call hcall hendpoint
  obtain rfl := Option.some.inj (begins.bought.symm.trans hbought)
  have plain : ∀ f ∈ mixed.extraMetadata, f.1 ≠ "product" := fun f hf => by cases hf
  exact ⟨call, hmade ▸ List.mem_append_right _ hcall, hendpoint, plain, id, m, hplan, hseller, hmetadata,
    (hnames plain).1⟩

end Checkout

end SubscriptionBilling
