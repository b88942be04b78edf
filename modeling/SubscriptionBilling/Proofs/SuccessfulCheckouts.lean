import SubscriptionBilling.Proofs.CheckoutExits
import SubscriptionBilling.Proofs.Purchases

/-! What a checkout that succeeds has done: who was called, what for, and what came of it. A note that
cannot be written does not show in the result. -/
namespace SubscriptionBilling

namespace Network

theorem replies_call_of_ne (n : Network) {e f : Endpoint} (h : f ≠ e) (r : Request) :
    (n.call e r).2.replies f = n.replies f := if_neg h

end Network

/-- The metadata that a call carries. -/
def Call.metadata? (call : Call) : Option Json :=
  (call.argument? "metadata").or (call.posted? "metadata")

/-- A call for a session as it is ordered. -/
structure Call.Orders (o : CheckoutOrder) (p : Provider) (call : Call) : Prop where
  endpoint : call.endpoint = p.checkoutEndpoint
  customer : call.customer? = some o.customer
  metadata : call.metadata? = some (.object o.metadata)

/-- A session as an answer gives it. The broker may leave its id out or say nothing by it, and then the
session has the empty text for an id. -/
inductive Reply.Opens (session : CheckoutSession) : Provider → Reply → Prop
  | direct {v : Json} (id : v.field? "id" = some (.string session.id))
      (url : v.field? "url" = some (.string session.url)) : Opens session .stripe (.object v)
  | brokered {status : Nat} {content : Content} {fields : List (String × Json)}
      (accepted : Janua.accept "checkout.create" status content = .ok (.object fields))
      (url : fields.lookup "checkout_url" = some (.string session.url))
      (id : fields.lookup "session_id" = some (.string session.id) ∨
        session.id = "" ∧ ∀ id, fields.lookup "session_id" = some id → id.truthy = false) :
      Opens session .janua (.response status content)

section Sessions
variable {s : Settings} {o : CheckoutOrder} {n after : Network} {session : CheckoutSession}

theorem Payment.ok_of_session {id url : Json} (h : Payment.session id url = .ok session) :
    id = .string session.id ∧ url = .string session.url := by
  unfold Payment.session at h
  split at h
  · cases h
    exact ⟨rfl, rfl⟩
  · cases h

theorem Stripe.ok_of_partOf {v a : Json} {name : String} (h : Stripe.partOf v name = .ok a) :
    v.field? name = some a := by
  unfold Stripe.partOf at h
  split at h
  · cases h
    assumption
  · cases h

theorem Stripe.ok_of_createCheckout (h : Stripe.createCheckout s o n = (.ok session, after)) :
    (∃ reply, (n.replies .stripeCheckout).head? = some reply ∧ reply.Opens session .stripe) ∧
      ∃ request, after = (n.call .stripeCheckout request).2 ∧
        (⟨.stripeCheckout, request⟩ : Call).Orders o .stripe := by
  cases hprice : Price.id? s o.plan.tier o.plan.interval with
  | none =>
    rw [createCheckout_of_no_price n hprice] at h
    cases h
  | some price =>
    unfold Stripe.createCheckout at h
    simp only [hprice] at h
    obtain ⟨v, mid, hcall, hparts⟩ := ok_of_bind h
    obtain ⟨id, hid, hrest⟩ := ok_of_lift_bind hparts
    obtain ⟨url, hurl, hlast⟩ := ok_of_lift_bind hrest
    obtain ⟨hsession, rfl⟩ := ok_of_lift hlast
    obtain ⟨rfl, rfl⟩ := Payment.ok_of_session hsession
    obtain ⟨-, hreply, hafter⟩ := Stripe.ok_of_call hcall
    refine ⟨⟨_, hreply, .direct (ok_of_partOf hid) (ok_of_partOf hurl)⟩, _, hafter, rfl, ?_, ?_⟩
    · exact Call.customer?_arguments _ _ _
    · simp [Call.metadata?, Call.argument?, Json.lookup_field]

/-- A field of a reply that is there and says something. -/
theorem Janua.ok_of_neededField {operation name : String} {v a : Json}
    (h : Janua.neededField operation v name = .ok a) :
    ∃ fields, v = .object fields ∧ fields.lookup name = some a := by
  unfold Janua.neededField Janua.replyField at h
  cases v with
  | object fields =>
    obtain ⟨_, hfield, h⟩ := bind_eq_ok.mp h
    cases hfield
    cases hname : fields.lookup name with
    | none =>
      rw [hname] at h
      cases h
    | some b =>
      rw [hname, Option.getD_some] at h
      split at h <;> cases h
      exact ⟨fields, rfl, hname⟩
  | _ => cases h

theorem Janua.ok_of_createCheckout (h : Janua.createCheckout s o n = (.ok session, after)) :
    (∃ reply, (n.replies .januaCheckout).head? = some reply ∧ reply.Opens session .janua) ∧
      ∃ request, after = (n.call .januaCheckout request).2 ∧
        (⟨.januaCheckout, request⟩ : Call).Orders o .janua := by
  unfold Janua.createCheckout at h
  obtain ⟨v, mid, hpost, hparts⟩ := ok_of_bind h
  obtain ⟨url, hurl, hrest⟩ := ok_of_lift_bind hparts
  obtain ⟨id, hid, hlast⟩ := ok_of_lift_bind hrest
  obtain ⟨hsession, rfl⟩ := ok_of_lift hlast
  obtain ⟨hshown, rfl⟩ := Payment.ok_of_session hsession
  obtain ⟨fields, rfl, hfound⟩ := ok_of_neededField hurl
  obtain ⟨-, ⟨status, content, hreply, haccepted⟩, address, sent, hafter⟩ := Janua.ok_of_post hpost
  refine ⟨⟨_, hreply, .brokered haccepted hfound ?_⟩, _, hafter, rfl, ?_, ?_⟩
  · cases hid
    cases hname : fields.lookup "session_id" with
    | none =>
      rw [hname] at hshown
      exact .inr ⟨(Json.string.inj hshown).symm, nofun⟩
    | some id =>
      rw [hname, Option.getD_some] at hshown
      split at hshown
      · exact .inl (congrArg some hshown)
      · next hfalsy =>
        refine .inr ⟨(Json.string.inj hshown).symm, ?_⟩
        rintro _ ⟨⟩
        exact Bool.eq_false_iff.mpr hfalsy
  · exact Call.customer?_post _ _ _ _ _
  · simp [Call.metadata?, Call.argument?, Call.posted?, Json.lookup_field]

theorem Payment.ok_of_createCheckout {p : Provider}
    (h : createCheckout s p o n = (.ok session, after)) :
    (∃ reply, (n.replies p.checkoutEndpoint).head? = some reply ∧ reply.Opens session p) ∧
      ∃ request, after = (n.call p.checkoutEndpoint request).2 ∧
        (⟨p.checkoutEndpoint, request⟩ : Call).Orders o p := by
  cases p with
  | stripe => exact Stripe.ok_of_createCheckout h
  | janua => exact Janua.ok_of_createCheckout h

end Sessions

/-- The customer that comes of ensuring one is in the slot afterwards, as the column keeps it. -/
theorem Subscriber.Ensures.text {u : Subscriber} {p : Provider} {w mid : World} {customer : Json}
    (h : u.Ensures p w (.ok customer) mid) (found : w.database.subscriber? u.id = some u)
    (filled : w.database.FillsSlots) :
    Column.text customer = .ok (mid.database.slot? u.id p) := by
  cases h with
  | known held =>
    rw [Database.slot?_of_subscriber? found, (Option.filter_eq_some_iff.mp held).1]
    rfl
  | kept n answered named written =>
    obtain ⟨customerId, htext, hassigned⟩ := bind_eq_ok.mp written
    obtain ⟨-, hslots⟩ := Database.slot?_of_assigned hassigned
    have hslot := (hslots u.id p).trans (if_pos ⟨rfl, rfl⟩)
    rw [htext]
    exact congrArg Except.ok hslot.symm
  | filled n answered named full =>
    -- A slot that was full without being held would hold the empty text.
    obtain ⟨_, -, hassigned⟩ := bind_eq_ok.mp full
    obtain ⟨winner, hwinner⟩ := Option.isSome_iff_exists.mp
      (Database.slot?_of_unassigned hassigned (by rw [found]; rfl))
    rw [Database.heldId_of_slot hwinner (filled.ne_empty hwinner), Option.elim_some]
    exact congrArg Except.ok hwinner.symm

/-- A fault strikes at its own point alone. -/
theorem Fault.strike_eq_ok {fault : Option Fault} {p : FaultPoint}
    (h : ∀ d, fault ≠ some (.fails p d)) : Fault.strike fault p = .ok () := by
  unfold Fault.strike
  split
  · next q d =>
    rw [if_neg]
    rintro rfl
    exact h d rfl
  · rfl

namespace Service
variable {c c' : Context}

theorem strike_of_ok_read {f : Database → α} {a : α} {w after : World}
    (h : read c f w = (.ok a, after)) : c.strike .session = .ok () := by
  unfold read commit at h
  cases hstrike : c.strike .session with
  | ok _ => rfl
  | error g =>
    rw [hstrike] at h
    cases h

theorem commit_congr (h : c'.strike .session = c.strike .session) (t : Transaction α) :
    commit c' t = commit c t := by
  funext w
  unfold commit
  rw [h]

end Service

namespace Checkout

/-- What a successful checkout has done. Its calls were a session, on the route of the checkout, and
before that a customer if the subscriber had none there. The session was made for the customer whose text
is in the slot since then and with the metadata of the purchase, and the result holds what the answer to
it says. -/
structure Sale (c : Context) (r : CheckoutRequest) (w : World) (plan : Plan) (u : Subscriber)
    (p : Provider) (result : CheckoutResult) (after : World) (session : Call) : Prop where
  endpoint : session.endpoint = p.checkoutEndpoint
  calls : w.database.slot? r.subscriberId p ≠ none ∧ after.calls = w.calls ++ [session] ∨
    w.database.slot? r.subscriberId p = none ∧ ∃ creation : Call,
      creation.endpoint = p.customerEndpoint ∧ after.calls = w.calls ++ [creation, session]
  customer : ∃ customer, session.customer? = some customer ∧
    Column.text customer = .ok (after.database.slot? r.subscriberId p)
  metadata : session.metadata? = some (.object (metadata r plan (productOf r plan)))
  answer : ∃ reply, (w.network.replies p.checkoutEndpoint).head? = some reply ∧
    reply.Opens ⟨result.sessionId, result.url⟩ p

section Parts
variable {c : Context} {r : CheckoutRequest} {plan : Plan} {u : Subscriber} {w mid : World}
  {customer : Json} {session : CheckoutSession} {n : Network}

/-- The calls until a customer is ensured, and the answers that are left for the session. -/
theorem calls_of_ensured (begins : Begins r w plan u) (filled : w.database.FillsSlots)
    (ensured : ensure c r plan u w = (.ok customer, mid)) :
    let p := (routeOf c r plan u).provider
    mid.network.replies p.checkoutEndpoint = w.network.replies p.checkoutEndpoint ∧
      (w.database.slot? r.subscriberId p ≠ none ∧ mid.calls = w.calls ∨
        w.database.slot? r.subscriberId p = none ∧ ∃ creation : Call,
          creation.endpoint = p.customerEndpoint ∧ mid.calls = w.calls ++ [creation]) := by
  intro p
  have hslot : w.database.slot? r.subscriberId p = u.customerId p :=
    Database.slot?_of_subscriber? begins.found p
  have hheld : u.heldId p = u.customerId p := by
    unfold Subscriber.heldId
    cases hid : u.customerId p with
    | none => rfl
    | some id =>
      have hne : id ≠ "" := filled.ne_empty (hslot.trans hid)
      exact Option.filter_eq_some_iff.mpr ⟨rfl, by simpa using hne⟩
  rcases Subscriber.network_of_ensured ensured with ⟨known, rfl⟩ | ⟨unknown, -, request, hcall⟩
  · exact ⟨rfl, .inl ⟨by rwa [hslot, ← hheld], rfl⟩⟩
  · refine ⟨?_, .inr ⟨by rwa [hslot, ← hheld], _, rfl, congrArg Network.calls hcall⟩⟩
    rw [hcall]
    exact w.network.replies_call_of_ne (p.checkoutEndpoint_ne_customerEndpoint p) request

/-- Ensuring a customer is disturbed by the same faults as every other use of the store. -/
theorem ensure_of_fault {fault : Option Fault}
    (usable : ({ c with fault := fault } : Context).strike .session = c.strike .session) :
    ensure { c with fault := fault } r plan u = ensure c r plan u := by
  unfold ensure Subscriber.ensureCustomer Service.read
  simp only [Service.commit_congr usable]
  rfl

/-- A session that is made for the customer of its subscriber is a sale. -/
theorem sale_of_offered (begins : Begins r w plan u) (filled : w.database.FillsSlots)
    (ensured : ensure c r plan u w = (.ok customer, mid))
    (offered : offer c r plan u customer mid.network = (.ok session, n)) :
    ∃ call, Sale c r w plan u (routeOf c r plan u).provider
      ⟨session.url, (routeOf c r plan u).label, session.id⟩
      (jot c r plan u session.id { mid with network := n }).2 call := by
  obtain ⟨hanswers, hcalls⟩ := calls_of_ensured begins filled ensured
  obtain ⟨⟨reply, hreply, hopens⟩, request, rfl, horders⟩ := Payment.ok_of_createCheckout offered
  have hid : u.id = r.subscriberId := Database.id_of_subscriber? begins.found
  have htext := (ensures_of_ensured ensured).text (hid ▸ begins.found) filled
  generalize hafter : (jot c r plan u session.id { mid with network :=
    (mid.network.call (routeOf c r plan u).provider.checkoutEndpoint request).2 }).2 = after
  have hslot : after.database.slot? r.subscriberId (routeOf c r plan u).provider =
      mid.database.slot? u.id (routeOf c r plan u).provider := by
    rw [hid, ← hafter]
    exact Database.slot?_of_subscribers (subscribers_jot c r plan u session.id _) _ _
  have hmade : after.calls =
      mid.calls ++ [⟨(routeOf c r plan u).provider.checkoutEndpoint, request⟩] := by
    rw [← hafter]
    exact congrArg Network.calls (network_jot c r plan u session.id _)
  refine ⟨_, horders.endpoint, ?_, ⟨customer, horders.customer, hslot ▸ htext⟩, horders.metadata,
    reply, hanswers ▸ hreply, hopens⟩
  rw [hmade]
  refine hcalls.imp (And.imp_right fun hsame => by rw [hsame]) (And.imp_right ?_)
  rintro ⟨creation, hcreation, hcreated⟩
  exact ⟨creation, hcreation, by rw [hcreated, List.append_assoc]; rfl⟩

/-- It is made with any fault that leaves the store usable. -/
theorem create_of_fault {fault : Option Fault} (begins : Begins r w plan u)
    (usable : ({ c with fault := fault } : Context).strike .session = c.strike .session)
    (read : Service.read c (fun db => db.subscriber? r.subscriberId) w = (.ok (some u), w))
    (ensured : ensure c r plan u w = (.ok customer, mid))
    (offered : offer c r plan u customer mid.network = (.ok session, n)) :
    create { c with fault := fault } r w =
      (.ok ⟨session.url, (routeOf c r plan u).label, session.id⟩,
        (jot { c with fault := fault } r plan u session.id { mid with network := n }).2) := by
  have hread : Service.read { c with fault := fault } (fun db => db.subscriber? r.subscriberId) w =
      (.ok (some u), w) := by
    rw [← read]
    exact congrFun (Service.commit_congr usable _) w
  have hoffered : offer { c with fault := fault } r plan u customer mid.network = (.ok session, n) :=
    offered
  rw [create_of_read _ r plan u begins.bought hread, proceed_of_above _ r begins.above,
    ensure_of_fault usable, bind_of_ok ensured, bind_of_ok (Service.online_eq hoffered),
    bind_of_ok (Service.besides_eq _ _)]
  rfl

end Parts

/-- A checkout that succeeds has made a sale, and the metadata names the subscriber and the plan unless
extra fields take their places. With any other fault, or with none, it comes to the same result after
the same calls, as long as the store can be used at all. -/
theorem success_is_exact {c : Context} {r : CheckoutRequest} {w after : World} {result : CheckoutResult}
    (filled : w.database.FillsSlots) (h : create c r w = (.ok result, after)) :
    ∃ plan u, Begins r w plan u ∧
      result.provider = (routeOf c r plan u).label ∧
      (∃ session, Sale c r w plan u (routeOf c r plan u).provider result after session) ∧
      ((∀ f ∈ r.extraMetadata, f.1 ≠ "userId") →
        (metadata r plan (productOf r plan)).lookup "userId" = some (.string r.subscriberId)) ∧
      ((∀ f ∈ r.extraMetadata, f.1 ≠ "plan") →
        (metadata r plan (productOf r plan)).lookup "plan" = some (.string plan.slug)) ∧
      ∀ fault, (∀ d, fault ≠ some (.fails .session d)) → ∃ other,
        create { c with fault := fault } r w = (.ok result, other) ∧
        other.calls = after.calls ∧ other.subscribers = after.subscribers := by
  have hcourse := course_create c r w
  rw [h] at hcourse
  cases hcourse with
  | @sold plan u customer mid session n begins read ensured offered =>
  refine ⟨plan, u, begins, rfl, sale_of_offered begins filled ensured offered,
    fun plain => lookup_metadata_of_plain plan plain _, fun plain => lookup_metadata plan plain _,
    fun fault usable => ⟨_, create_of_fault begins ?_ read ensured offered, ?_, ?_⟩⟩
  · rw [Service.strike_of_ok_read read]
    exact Fault.strike_eq_ok usable
  · exact congrArg Network.calls ((network_jot _ r plan u _ _).trans (network_jot c r plan u _ _).symm)
  · rw [subscribers_jot, subscribers_jot]

/-- A first purchase makes a customer and a session, and a crash where the note of it is written is no
matter. -/
theorem success_is_exact_first_sale :
    Visit.shop.database.FillsSlots ∧ ∃ after,
      create Step.buying.context { subscriberId := "user" } Visit.shop =
        (.ok ⟨"url", "stripe", "cs"⟩, after) ∧
      (∃ p creation session, after.calls = [creation, session] ∧ creation.endpoint = p.customerEndpoint ∧
        session.endpoint = p.checkoutEndpoint ∧ ∃ customer, session.customer? = some customer ∧
          Column.text customer = .ok (after.database.slot? "user" p)) ∧
      ∃ other, create { Step.buying.context with fault := some (.fails .auditWrite .crash) }
        { subscriberId := "user" } Visit.shop = (.ok ⟨"url", "stripe", "cs"⟩, other) := by
  have filled : Visit.shop.database.FillsSlots :=
    Step.fillsSlots_after Step.namesCustomers_enrolling (w := {}) fun id p h => by cases h
  have hresult : (create Step.buying.context { subscriberId := "user" } Visit.shop).1 =
      .ok ⟨"url", "stripe", "cs"⟩ := by
    with_unfolding_all rfl
  have hslots : ∀ p, Visit.shop.database.slot? "user" p = none := by
    intro p
    cases p <;> with_unfolding_all rfl
  refine ⟨filled, ?_⟩
  rcases hcreate : create Step.buying.context { subscriberId := "user" } Visit.shop with ⟨result, after⟩
  rw [hcreate] at hresult
  obtain rfl : result = _ := hresult
  obtain ⟨plan, u, -, -, ⟨session, sale⟩, -, -, hfaults⟩ := success_is_exact filled hcreate
  obtain ⟨-, creation, hcreation, hcalls⟩ := sale.calls.resolve_left fun h => h.1 (hslots _)
  obtain ⟨other, hother, -⟩ := hfaults (some (.fails .auditWrite .crash)) (by simp)
  exact ⟨after, rfl, ⟨_, creation, session, hcalls, hcreation, sale.endpoint, sale.customer⟩, other, hother⟩

end Checkout

namespace Step

/-- A checkout through the broker, which answers with a new customer and a session. -/
def brokering (r : CheckoutRequest) (customer : Json) : Step where
  context := { settings := { januaApiUrl := "https://broker", januaApiKey := "k" }, now := 0 }
  operation := .checkout r
  replies
    | .januaCustomer => [.response 200 (.document (.object [("customer_id", customer)]))]
    | .januaCheckout => [.response 200 (.document (.object
        [("checkout_url", .string "url"), ("session_id", .string "js")]))]
    | _ => []

/-- The broker may name a customer by a number. The session is made for that number then, and that is
not the text in the slot. -/
theorem number_is_not_in_slot :
    let s := brokering { subscriberId := "user" } (.int 7)
    (run [enrolling] {}).database.FillsSlots ∧
      (Checkout.create s.context { subscriberId := "user" } (s.prepare (run [enrolling] {}))).1 =
        .ok ⟨"url", "polar", "js"⟩ ∧
      (s.after (run [enrolling] {})).database.slot? "user" .janua = some "7" ∧
      ∃ call ∈ (s.after (run [enrolling] {})).calls, call.endpoint = Provider.janua.checkoutEndpoint ∧
        call.customer? = some (.int 7) ∧ call.customer? ≠ some (.string "7") := by
  dsimp only
  have filled : (run [enrolling] {}).database.FillsSlots :=
    fillsSlots_after namesCustomers_enrolling (w := {}) fun id p h => by cases h
  have hcalls : ((brokering { subscriberId := "user" } (.int 7)).after (run [enrolling] {})).calls.map
      (fun call => (call.endpoint, call.customer?)) =
      [(.januaCustomer, none), (.januaCheckout, some (.int 7))] := by
    with_unfolding_all rfl
  have hsession : (Endpoint.januaCheckout, some (Json.int 7)) ∈
      ((brokering { subscriberId := "user" } (.int 7)).after (run [enrolling] {})).calls.map
        fun call => (call.endpoint, call.customer?) := by
    rw [hcalls]
    exact List.mem_cons_of_mem _ List.mem_cons_self
  obtain ⟨call, hcall, hfields⟩ := List.mem_map.mp hsession
  obtain ⟨hendpoint, hcustomer⟩ := Prod.mk.inj hfields
  refine ⟨filled, by with_unfolding_all rfl, by with_unfolding_all rfl, call, hcall, hendpoint, hcustomer, ?_⟩
  rw [hcustomer]
  nofun

end Step

end SubscriptionBilling
