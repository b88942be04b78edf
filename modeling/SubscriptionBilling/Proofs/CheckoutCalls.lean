import SubscriptionBilling.Proofs.ProviderCalls

/-! The calls of a checkout. A customer is made where the subscriber has none with the provider yet, and
then a session is made for one customer. What the provider is told, and what the store then holds, is
followed through every way in which a checkout can end. -/
namespace SubscriptionBilling

namespace Provider

/-- Where a provider makes customers. -/
def customerEndpoint : Provider → Endpoint
  | stripe => .stripeCustomer
  | janua => .januaCustomer

/-- Where a provider makes checkout sessions. -/
def checkoutEndpoint : Provider → Endpoint
  | stripe => .stripeCheckout
  | janua => .januaCheckout

end Provider

/-- The customer that a call names. -/
def Call.customer? (call : Call) : Option Json :=
  match call.request with
  | .arguments fields => fields.lookup "customer"
  | .post _ _ (.document (.object fields)) => fields.lookup "customer_id"
  | _ => none

theorem Call.customer?_arguments (e : Endpoint) (customer : Json) (rest : List (String × Json)) :
    (⟨e, .arguments (("customer", customer) :: rest)⟩ : Call).customer? = some customer := by
  simp only [Call.customer?, List.lookup_cons_self]

theorem Call.customer?_post (e : Endpoint) (url : String) (headers : List (String × String))
    (customer : Json) (rest : List (String × Json)) :
    (⟨e, .post url headers (.document (.object (("customer_id", customer) :: rest)))⟩ : Call).customer? =
      some customer := by
  simp only [Call.customer?, List.lookup_cons_self]

/-- The customer id that a provider gives in an answer. -/
def Reply.customerId? : Provider → Reply → Option Json
  | .stripe, .object v => (Stripe.partOf v "id").toOption
  | .janua, .response status content =>
    (Janua.accept "customer.create" status content).toOption.bind fun v =>
      (Janua.neededField "customer.create" v "customer_id").toOption
  | _, _ => none

/-- One more call of a kind. -/
def Asks (P : Call → Prop) (before after : List Call) : Prop :=
  ∃ call, P call ∧ after = before ++ [call]

/-- Every call that work has made on top of earlier ones is of its kind. -/
theorem mem_of_asks {P : Call → Prop} {before after : List Call}
    (path : Relation.ReflTransGen (Asks P) before after) {call : Call} (h : call ∈ after) :
    call ∈ before ∨ P call := by
  induction path with
  | refl => exact .inl h
  | tail _ hask ih =>
    obtain ⟨made, hmade, rfl⟩ := hask
    rcases List.mem_append.mp h with h | h
    · exact ih h
    · exact .inr (List.mem_singleton.mp h ▸ hmade)

/-- Calls of a kind are calls of every wider kind. -/
theorem Along.asks_mono {P Q : Call → Prop} {calls : σ → List Call} {x : ExceptT ε (StateM σ) α}
    (hx : Along (Asks P) calls x) (h : ∀ call, P call → Q call) : Along (Asks Q) calls x :=
  hx.mono fun ⟨call, hcall, hafter⟩ => ⟨call, h call hcall, hafter⟩

section Calls
variable {P : Call → Prop} (s : Settings)

theorem Online.asks_ask {e : Endpoint} {r : Request} (h : P ⟨e, r⟩) :
    Along (Asks P) Network.calls (Online.ask e r) := fun _ => .single ⟨_, h, rfl⟩

theorem Online.asks_post {e : Endpoint} {url : String} {headers : List (String × String)}
    {body : Content} (h : ∀ url headers, P ⟨e, .post url headers body⟩) :
    Along (Asks P) Network.calls (Online.post e url headers body) := by
  unfold Online.post
  split
  case h_2 => exact .throw _
  refine .refuse fun _ => ?_
  refine (Along.lift _).bind fun _ => ?_
  refine (asks_ask (h _ _)).bind fun reply => ?_
  split
  · exact .ite (fun _ => .pure _) fun _ => .throw _
  · exact .pure _

theorem Stripe.asks_call {e : Endpoint} {operation : String} {arguments : List (String × Json)}
    (h : P ⟨e, .arguments arguments⟩) :
    Along (Asks P) Network.calls (Stripe.call s e operation arguments) := by
  unfold Stripe.call
  refine .refuse fun _ => .refuse fun _ => ?_
  refine (Online.asks_ask h).bind fun reply => ?_
  split <;> first | exact .pure _ | exact .throw _

theorem Janua.asks_post {e : Endpoint} {operation path : String} {body : List (String × Json)}
    (h : ∀ url headers, P ⟨e, .post url headers (.document (.object body))⟩) :
    Along (Asks P) Network.calls (Janua.post s e operation path body) := by
  unfold Janua.post
  refine .refuse fun _ => ?_
  refine (Online.asks_post h).bind fun reply => ?_
  split <;> exact .lift _

theorem Stripe.asks_createCheckout (o : CheckoutOrder) :
    Along (Asks fun call => call.endpoint = .stripeCheckout ∧ call.customer? = some o.customer)
      Network.calls (Stripe.createCheckout s o) := by
  unfold Stripe.createCheckout
  split
  case h_2 => exact .throw _
  refine Along.bind (asks_call s ⟨rfl, Call.customer?_arguments _ _ _⟩) fun _ => ?_
  exact (Along.lift _).bind fun _ => (Along.lift _).bind fun _ => .lift _

theorem Janua.asks_createCheckout (o : CheckoutOrder) :
    Along (Asks fun call => call.endpoint = .januaCheckout ∧ call.customer? = some o.customer)
      Network.calls (Janua.createCheckout s o) := by
  unfold Janua.createCheckout
  refine Along.bind (asks_post s ?_) fun _ => ?_
  · exact fun url headers => ⟨rfl, Call.customer?_post _ url headers _ _⟩
  · exact (Along.lift _).bind fun _ => (Along.lift _).bind fun _ => .lift _

namespace Payment

/-- Making a customer calls for nothing else. -/
theorem asks_createCustomer (p : Provider) (c : NewCustomer) :
    Along (Asks fun call => call.endpoint = p.customerEndpoint) Network.calls
      (createCustomer s p c) := by
  cases p with
  | stripe =>
    unfold createCustomer Stripe.createCustomer
    exact Along.bind (Stripe.asks_call s rfl) fun _ => .lift _
  | janua =>
    unfold createCustomer Janua.createCustomer
    exact Along.bind (Janua.asks_post s fun _ _ => rfl) fun _ => .lift _

/-- A session is made for the customer of the order. -/
theorem asks_createCheckout (p : Provider) (o : CheckoutOrder) :
    Along (Asks fun call => call.endpoint = p.checkoutEndpoint ∧ call.customer? = some o.customer)
      Network.calls (createCheckout s p o) := by
  cases p with
  | stripe => exact Stripe.asks_createCheckout s o
  | janua => exact Janua.asks_createCheckout s o

end Payment

end Calls

section Replies
variable {s : Settings} {n after : Network} {p : Provider} {c : NewCustomer} {given : Json}

/-- A new customer takes an account with the provider and one call, and its id is the one that the answer
gives. -/
theorem Payment.ok_of_createCustomer (h : createCustomer s p c n = (.ok given, after)) :
    p.hasAccount s = true ∧
      (∃ reply, (n.replies p.customerEndpoint).head? = some reply ∧
        reply.customerId? p = some given) ∧
      ∃ request, after = (n.call p.customerEndpoint request).2 := by
  cases p with
  | stripe =>
    unfold createCustomer Stripe.createCustomer at h
    obtain ⟨v, mid, hcall, h⟩ := ok_of_bind h
    obtain ⟨hid, rfl⟩ := ok_of_lift h
    obtain ⟨haccount, hreply, hafter⟩ := Stripe.ok_of_call hcall
    refine ⟨haccount, ⟨_, hreply, ?_⟩, _, hafter⟩
    simp only [Reply.customerId?, hid, Except.toOption]
  | janua =>
    unfold createCustomer Janua.createCustomer at h
    obtain ⟨v, mid, hpost, h⟩ := ok_of_bind h
    obtain ⟨hid, rfl⟩ := ok_of_lift h
    obtain ⟨haccount, ⟨status, content, hreply, haccept⟩, address, sent, hafter⟩ :=
      Janua.ok_of_post hpost
    refine ⟨haccount, ⟨_, hreply, ?_⟩, _, hafter⟩
    simp only [Reply.customerId?, haccept, hid, Except.toOption, Option.bind_some]

/-- The id of a new customer is one that the provider gives in an answer. -/
theorem Payment.reply_of_createCustomer (h : createCustomer s p c n = (.ok given, after)) :
    ∃ reply ∈ n.replies p.customerEndpoint, reply.customerId? p = some given := by
  obtain ⟨-, ⟨reply, hreply, hid⟩, -⟩ := ok_of_createCustomer h
  exact ⟨reply, List.mem_of_mem_head? hreply, hid⟩

end Replies

/-- The calls that have been made so far. -/
def World.calls (w : World) : List Call := w.network.calls

/-- The subscribers in the store. -/
def World.subscribers (w : World) : List Subscriber := w.database.subscribers

/-- Where no step is possible nothing changes. -/
theorem eq_of_no_step {a b : α} (path : Relation.ReflTransGen (fun _ _ : α => False) a b) : b = a := by
  cases path with
  | refl => rfl
  | tail _ hstep => exact hstep.elim

namespace Service
variable {c : Context}

theorem asks_online {S : List Call → List Call → Prop} {x : Online α}
    (hx : Along S Network.calls x) : Along S World.calls (online x) := fun w => hx w.network

theorem online_eq {x : Online α} {w : World} {r : Except Failure α} {n : Network}
    (h : x w.network = (r, n)) : online x w = (r, { w with network := n }) := by
  simp only [online, h]

theorem ok_of_online {x : Online α} {a : α} {w after : World}
    (h : online x w = (.ok a, after)) :
    ∃ n, x w.network = (.ok a, n) ∧ after = { w with network := n } := by
  rcases hx : x w.network with ⟨r, n⟩
  cases (online_eq hx).symm.trans h
  exact ⟨n, rfl, rfl⟩

/-- Transactions make no calls. -/
theorem asks_commit {S : List Call → List Call → Prop} (t : Transaction α) :
    Along S World.calls (commit c t) := by
  intro w
  rcases commit_cases c t w with ⟨f, hcommit⟩ | ⟨a, after, -, hcommit⟩ <;> rw [hcommit]
  exact .refl

theorem asks_besides {S : List Call → List Call → Prop} {x : Service Unit}
    (hx : Along S World.calls x) : Along S World.calls (besides x) := fun w => hx w

section Parts
variable {τ : Type} {S : τ → τ → Prop} (part : Database → τ)

/-- A transaction that leaves a part of the store alone. -/
theorem along_commit_of_same {t : Transaction α}
    (h : ∀ {db a after}, t db = .ok (a, after) → part after = part db) :
    Along S (fun w => part w.database) (commit c t) := by
  intro w
  rcases commit_cases c t w with ⟨f, hcommit⟩ | ⟨a, after, hok, hcommit⟩
  · rw [hcommit]
  · rw [hcommit]
    change Relation.ReflTransGen S (part w.database) (part after)
    rw [h hok]

/-- Work that leaves the store alone leaves every part of it alone. -/
theorem along_of_still {x : Service α} (hx : Along (fun _ _ => False) World.database x) :
    Along S (fun w => part w.database) x := by
  intro w
  have hsame : (x w).2.database = w.database := eq_of_no_step (hx w)
  change Relation.ReflTransGen S (part w.database) (part (x w).2.database)
  rw [hsame]

end Parts

/-- A transaction that leaves the subscribers alone. -/
theorem leaves_commit {S : List Subscriber → List Subscriber → Prop} {t : Transaction α}
    (h : ∀ {db a after}, t db = .ok (a, after) → after.subscribers = db.subscribers) :
    Along S World.subscribers (commit c t) := along_commit_of_same Database.subscribers h

/-- Work that leaves the store alone leaves the subscribers alone. -/
theorem leaves_of_still {S : List Subscriber → List Subscriber → Prop} {x : Service α}
    (hx : Along (fun _ _ => False) World.database x) : Along S World.subscribers x :=
  along_of_still Database.subscribers hx

/-- Work whose failure is let go is done as far as it comes. -/
theorem leaves_besides {S : List Subscriber → List Subscriber → Prop} {x : Service Unit}
    (hx : Along S World.subscribers x) : Along S World.subscribers (besides x) := fun w => hx w

end Service

namespace Subscriber

/-- The ways in which ensuring a customer can end. A known id is used as it is. A new one, which the
provider has given in an answer, is stored, or the slot turns out to be filled and then what stands
there is used. -/
inductive Ensures (u : Subscriber) (p : Provider) (w : World) : Except Failure Json → World → Prop
  | known {id : String} (held : u.heldId p = some id) : Ensures u p w (.ok (.string id)) w
  | failed (f : Failure) (n : Network) : Ensures u p w (.error f) { w with network := n }
  | kept {given : Json} {after : Database} {reply : Reply} (n : Network)
      (answered : reply ∈ w.network.replies p.customerEndpoint)
      (named : reply.customerId? p = some given)
      (written : keepCustomerId u.id p given w.database = .ok (true, after)) :
      Ensures u p w (.ok given) { w with network := n, database := after }
  | filled {given : Json} {reply : Reply} (n : Network)
      (answered : reply ∈ w.network.replies p.customerEndpoint)
      (named : reply.customerId? p = some given)
      (full : keepCustomerId u.id p given w.database = .ok (false, w.database)) :
      Ensures u p w
        (.ok (((w.database.subscriber? u.id).bind fun v => v.heldId p).elim given Json.string))
        { w with network := n }

variable (c : Context) (u : Subscriber) (r : Route) (country : String)
  (organizationId : Option String)

theorem ensures_ensureCustomer (w : World) :
    u.Ensures r.provider w (u.ensureCustomer c r country organizationId w).1
      (u.ensureCustomer c r country organizationId w).2 := by
  unfold ensureCustomer
  cases hheld : u.heldId r.provider with
  | some id => exact .known hheld
  | none =>
    generalize (⟨u.id, u.email, u.name, r, country, organizationId⟩ : NewCustomer) = order
    dsimp only
    rcases hcreate : Payment.createCustomer c.settings r.provider order w.network with
      ⟨f | given, n⟩
    · rw [bind_of_error (Service.online_eq hcreate)]
      exact .failed f n
    -- From here on the customer exists at the provider, whatever becomes of its id.
    rw [bind_of_ok (Service.online_eq hcreate)]
    obtain ⟨reply, answered, named⟩ := Payment.reply_of_createCustomer hcreate
    rcases Service.commit_cases c (keepCustomerId u.id r.provider given) { w with network := n } with
      ⟨f, hcommit⟩ | ⟨done, after, hkeep, hcommit⟩
    · rw [bind_of_error hcommit]
      exact .failed f n
    rw [bind_of_ok hcommit]
    cases done with
    | true => exact .kept n answered named hkeep
    | false =>
      obtain ⟨_, -, hassign⟩ := bind_eq_ok.mp hkeep
      obtain rfl : after = w.database := eq_of_unassigned hassign
      rw [if_neg Bool.false_ne_true]
      rcases Service.read_cases c (fun db => db.subscriber? u.id) { w with network := n } with
        ⟨f, hread⟩ | hread
      · rw [bind_of_error hread]
        exact .failed f n
      rw [bind_of_ok hread]
      have hend := Ensures.filled n answered named hkeep
      cases hwinner : (w.database.subscriber? u.id).bind fun v => v.heldId r.provider <;>
        rw [hwinner] at hend <;> exact hend

/-- Ensuring a customer makes no checkout session. -/
theorem asks_ensureCustomer :
    Along (Asks fun call => call.endpoint = r.provider.customerEndpoint) World.calls
      (u.ensureCustomer c r country organizationId) := by
  unfold ensureCustomer
  split
  · exact .pure _
  refine (Service.asks_online (Payment.asks_createCustomer _ _ _)).bind fun id => ?_
  refine (Service.asks_commit _).bind fun kept => .ite (fun _ => .pure _) fun _ => ?_
  refine (Service.asks_commit _).bind fun current => ?_
  split <;> exact .pure _

end Subscriber

namespace Checkout
variable (c : Context) (r : CheckoutRequest) (plan : Plan) (product : Product) (route : Route)
  (o : CheckoutOrder) (u : Subscriber)

theorem asks_sell :
    Along (Asks fun call => call.endpoint = route.provider.checkoutEndpoint ∧
      call.customer? = some o.customer) World.calls (sell c r plan product route o) := by
  unfold sell
  refine (Service.asks_online (Payment.asks_createCheckout _ _ _)).bind fun session => ?_
  exact (Service.asks_besides (Service.asks_commit _)).bind fun _ => .pure _

theorem leaves_sell {S : List Subscriber → List Subscriber → Prop} :
    Along S World.subscribers (sell c r plan product route o) := by
  unfold sell
  refine (Service.leaves_of_still (Service.along_online _)).bind fun session => ?_
  have hnote : Along S World.subscribers (Service.commit c do
      let _ ← (note r plan product route session.id).log c) := by
    refine Service.leaves_commit fun {db _ after} h => ?_
    obtain ⟨entry, _, hlog, h⟩ := Transaction.bind_eq_ok.mp h
    cases h
    exact AuditNote.subscribers_of_log hlog
  exact (Service.leaves_besides hnote).bind fun _ => .pure _

/-- What a checkout for a record leaves: nothing at all, or a customer that was ensured, and sessions
that were made for that customer. -/
inductive Ends (u : Subscriber) (w after : World) : Prop
  | refused (same : after = w)
  | ensured {p : Provider} {result : Except Failure Json} {mid : World}
      (ensures : u.Ensures p w result mid) (subscribers : after.subscribers = mid.subscribers)
      (calls : ∀ call ∈ after.calls, call ∈ w.calls ∨ call.endpoint = p.customerEndpoint ∨
        call.endpoint = p.checkoutEndpoint ∧
          ∃ customer, result = .ok customer ∧ call.customer? = some customer)

theorem ends_proceed (w : World) : Ends u w (proceed c r plan u w).2 := by
  unfold proceed
  extract_lets router product country route
  split
  · exact .refused rfl
  beta_reduce
  have hensures := u.ensures_ensureCustomer c route country r.organizationId w
  have hasked := u.asks_ensureCustomer c route country r.organizationId w
  rcases hcustomer : u.ensureCustomer c route country r.organizationId w with ⟨f | customer, mid⟩
  · rw [hcustomer] at hensures hasked
    rw [bind_of_error hcustomer]
    exact .ensured hensures rfl fun call hcall => (mem_of_asks hasked hcall).imp id .inl
  · rw [hcustomer] at hensures hasked
    rw [bind_of_ok hcustomer]
    refine .ensured hensures (eq_of_no_step (leaves_sell c r plan product route _ mid)) ?_
    intro call hcall
    rcases mem_of_asks (asks_sell c r plan product route _ mid) hcall with hbefore | ⟨hsession, hfor⟩
    · exact (mem_of_asks hasked hbefore).imp id .inl
    · exact .inr (.inr ⟨hsession, customer, rfl, hfor⟩)

theorem ends_create (w : World) :
    (create c r w).2 = w ∨ ∃ u, w.database.subscriber? r.subscriberId = some u ∧
      Ends u w (create c r w).2 := by
  rcases create_cases c r w with ⟨f, hrefused⟩ | ⟨plan, u, -, hu, hproceed⟩
  · exact .inl (by rw [hrefused])
  · exact .inr ⟨u, hu, hproceed ▸ ends_proceed c r plan u w⟩

theorem ends_createExternal (user : String) (plan returnUrl : Option String)
    (product : Option Product) (w : World) :
    (createExternal c user plan returnUrl product w).2 = w ∨
      ∃ u, w.database.subscriber? user = some u ∧
        Ends u w (createExternal c user plan returnUrl product w).2 := by
  rcases createExternal_cases c user plan returnUrl product w with ⟨f, hrefused⟩ | hcreate
  · exact .inl (by rw [hrefused])
  · rw [hcreate]
    exact ends_create c _ w

end Checkout

end SubscriptionBilling
