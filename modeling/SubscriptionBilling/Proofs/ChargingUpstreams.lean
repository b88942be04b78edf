import Mathlib.Data.List.Induction
import SubscriptionBilling.Proofs.Issuers
import SubscriptionBilling.Proofs.SellingProducts

/-! Which of the broker's processors a subscriber's portal and cancellations are asked of. The broker says
in its events through which one it charges, and that one is recorded. But the one that is named to the
broker is worked out anew from the country in the record. -/
namespace SubscriptionBilling

/-- The processor that stands for the country in a record. -/
def Router.homeOf (r : Router) (u : Subscriber) : Upstream :=
  upstreamFor (r.normalizeCountry u.countryCode)

namespace Checkout

/-- For a session the broker is told the processor that stands for the country of the checkout. -/
theorem Visit.session_names_country (c : Context) (v : Visit) (w : World) :
    ∃ made, (v.checkOut c w).2.calls = w.calls ++ made ∧
      ∀ call ∈ made, call.endpoint = .januaCheckout → ∃ plan u, Begins v.request w plan u ∧
        call.posted? "provider" = some (.string (Router.upstreamFor
          ((Router.ofSettings c.settings).normalizeCountry (some (countryOf c v.request u)))).name) := by
  obtain ⟨made, hmade, hcalls⟩ := v.asks_broker c w
  refine ⟨made, hmade, fun call hcall hbroker => ?_⟩
  obtain ⟨begins, routed, brokered⟩ := hcalls call hcall hbroker
  refine ⟨_, _, begins, brokered.upstream.trans ?_⟩
  simp only [orderFor, order, routeOf, Janua.upstream, (Router.brokered_of_route routed).2]
  rfl

end Checkout

section Calls
variable (s : Settings) (r : Route)

theorem Janua.asks_createPortal (customer returnUrl : String) :
    Along (Asks fun call => call.endpoint = .januaPortal ∧
      call.posted? "provider" = some (upstream r)) Network.calls (createPortal s customer r returnUrl) := by
  unfold createPortal
  refine Along.bind (asks_post s fun url headers => ⟨rfl, ?_⟩) fun _ => .lift _
  simp [Call.posted?, Json.lookup_field]

theorem Janua.asks_cancelSubscription (subscriptionId : String) :
    Along (Asks fun call => call.endpoint = .januaCancel ∧
      call.posted? "provider" = some (upstream r)) Network.calls
      (cancelSubscription s subscriptionId r) := by
  unfold cancelSubscription
  exact Along.bind (asks_post s fun url headers => ⟨rfl, by simp [Call.posted?]⟩) fun _ => .pure _

end Calls

namespace Subscription
variable (c : Context) (id : String) (returnUrl : Option String) (w : World)

/-- The portal for a return URL that may be used. -/
def openPortal : Service Json := do
  let u ← require c id
  let p := u.activeProvider
  let some customer := u.heldId p | throw (.billing (.noBillingAccount id p))
  let route := (Router.ofSettings c.settings).routeExisting p u.countryCode
  Service.online (Payment.createPortal c.settings p customer route
    (Checkout.textOr returnUrl (defaultPortalReturnUrl c.settings)))

theorem portal_cases :
    (∃ f, portal c id returnUrl w = (.error f, w)) ∨
      portal c id returnUrl w = openPortal c id returnUrl w := by
  unfold portal
  cases returnUrl.filter fun t => !t.isEmpty with
  | none => exact .inr rfl
  | some url =>
    dsimp only
    cases Checkout.trusts c.settings (some url) with
    | error f => exact .inl ⟨f, rfl⟩
    | ok trusted =>
      have hlook : (liftM (.ok trusted : Except Failure Bool) : Service Bool) w = (.ok trusted, w) := rfl
      rw [bind_of_ok hlook]
      cases trusted with
      | false => exact .inl ⟨_, rfl⟩
      | true => exact .inr rfl

/-- A portal is asked of the provider that charges the subscriber, for the customer there. -/
theorem network_portal :
    (portal c id returnUrl w).2.network = w.network ∨
      ∃ v customer url, w.database.subscriber? id = some v ∧
        (portal c id returnUrl w).2.network =
          (Payment.createPortal c.settings v.activeProvider customer
            ((Router.ofSettings c.settings).routeExisting v.activeProvider v.countryCode) url
            w.network).2 := by
  rcases portal_cases c id returnUrl w with ⟨f, hrefused⟩ | hopened
  · exact .inl (by rw [hrefused])
  rw [hopened]
  unfold openPortal
  rcases require_cases c id w with ⟨u, hrequire, hu⟩ | ⟨f, hrequire⟩
  · rw [bind_of_ok hrequire]
    dsimp only
    cases u.heldId u.activeProvider with
    | none => exact .inl rfl
    | some customer => exact .inr ⟨u, customer, _, hu, rfl⟩
  · rw [bind_of_error hrequire]
    exact .inl rfl

end Subscription

namespace Operation

/-- An operation in which a subscriber's portal is asked for, or a cancellation. -/
inductive AsksAbout (id : String) : Operation → Prop
  | portal (returnUrl : Option String) : AsksAbout id (.portal id returnUrl)
  | cancel : AsksAbout id (.cancel id)

/-- A call about a portal or a cancellation that names a processor to the broker. -/
def NamesToBroker (x : Upstream) (call : Call) : Prop :=
  (call.endpoint = .januaPortal ∨ call.endpoint = .januaCancel) ∧
    call.posted? "provider" = some (.string x.name)

theorem NamesToBroker.unique {x y : Upstream} {call : Call} (h : NamesToBroker x call)
    (h' : NamesToBroker y call) : x = y := by
  have hname : x.name = y.name := Json.string.inj (Option.some.inj (h.2.symm.trans h'.2))
  cases x <;> cases y <;> first | rfl | exact absurd hname (by decide)

/-- For a subscriber of the broker's, the processor that stands for the country is named. -/
theorem AsksAbout.names_home {o : Operation} {id : String} (h : o.AsksAbout id) {c : Context}
    {w : World} {u : Subscriber} (found : w.database.subscriber? id = some u)
    (brokered : u.billingProvider = some .janua) :
    Relation.ReflTransGen (Asks (NamesToBroker ((Router.ofSettings c.settings).homeOf u))) w.calls
      (o.after c w).calls := by
  cases h with
  | portal returnUrl =>
    change Relation.ReflTransGen _ _ (Subscription.portal c id returnUrl w).2.network.calls
    rcases Subscription.network_portal c id returnUrl w with hsame | ⟨v, customer, url, hv, hsent⟩
    · rw [hsame]
      exact .refl
    obtain rfl : v = u := Option.some.inj (hv.symm.trans found)
    have hactive : v.activeProvider = .janua := by simp only [Subscriber.activeProvider, brokered]
    rw [hsent, hactive]
    refine (Janua.asks_createPortal c.settings _ customer url).asks_mono ?_ w.network
    rintro call ⟨hportal, hnamed⟩
    exact ⟨.inl hportal, hnamed⟩
  | cancel =>
    change Relation.ReflTransGen _ _ (Subscription.cancel c id w).2.network.calls
    rcases Subscription.network_cancel c id w with hsame | ⟨v, p, s, hv, -, hp, hsent⟩
    · rw [hsame]
      exact .refl
    obtain rfl : v = u := Option.some.inj (hv.symm.trans found)
    obtain rfl : p = .janua := Option.some.inj (hp.symm.trans brokered)
    rw [hsent]
    refine (Janua.asks_cancelSubscription c.settings _ s).asks_mono ?_ w.network
    rintro call ⟨hcancel, hnamed⟩
    exact ⟨.inr hcancel, hnamed⟩

end Operation

/-- The processor in a record after an edit was there before, or the event names it. -/
theorem ProviderEvent.upstream_of_edit {now : Moment} {ended : Bool} {e : ProviderEvent}
    {u : Subscriber} {x : String}
    (h : ((e.transition now ended u).edit.apply u).upstreamProvider = some x) :
    u.upstreamProvider = some x ∨ e.upstreamProvider = some x ∧
      (e.kind = .subscriptionCreated ∨ e.kind = .checkoutCompleted) := by
  unfold Transition.edit at h
  cases hch : (e.transition now ended u).change with
  | none =>
    rw [hch] at h
    exact .inl h
  | some ch =>
    rw [hch, Option.getD_some] at h
    cases writes_of_change hch with
    | created kind => exact .inr ⟨h, .inl kind⟩
    | updated | cancelled | resumed => exact .inl h
    | bought kind =>
      cases hnamed : filled e.upstreamProvider with
      | none =>
        rw [hnamed] at h
        exact .inl h
      | some y =>
        rw [hnamed] at h
        obtain rfl : y = x := Option.some.inj h
        exact .inr ⟨(filled_eq_some_iff.mp hnamed).1, .inr kind⟩

namespace Step

/-- Where a processor that is recorded for a subscriber comes from: it was recorded at the start, or in a
run an event of a new subscription or of a completed checkout has named it. The country is the same
since then. -/
inductive WasNamed (steps : List Step) (start : World) (id : String) (country : Option String)
    (x : String) : Prop
  | before {v : Subscriber} (mem : v ∈ start.database.subscribers) (own : v.id = id)
      (at_ : v.countryCode = country) (recorded : v.upstreamProvider = some x) :
      WasNamed steps start id country x
  | since {past later : List Step} {s : Step} {e : ProviderEvent} {v : Subscriber}
      (split : steps = past ++ s :: later) (brings : s.operation.Brings s.context e)
      (settles : e.Settles s.context (run past start).database v) (own : v.id = id)
      (at_ : v.countryCode = country)
      (kind : e.kind = .subscriptionCreated ∨ e.kind = .checkoutCompleted)
      (named : e.upstreamProvider = some x) : WasNamed steps start id country x

theorem WasNamed.snoc {steps : List Step} {start : World} {id x : String} {country : Option String}
    (h : WasNamed steps start id country x) (s : Step) :
    WasNamed (steps ++ [s]) start id country x := by
  cases h with
  | before mem own at_ recorded => exact .before mem own at_ recorded
  | since split brings settles own at_ kind named =>
    exact .since (by rw [split, List.append_assoc, List.cons_append]) brings settles own at_ kind named

theorem wasNamed_run {steps : List Step} {start : World} (consistent : start.database.Consistent) :
    ∀ u ∈ (run steps start).database.subscribers, ∀ x, u.upstreamProvider = some x →
      WasNamed steps start u.id u.countryCode x := by
  induction steps using List.reverseRecOn with
  | nil => exact fun u hu x hx => .before hu rfl rfl hx
  | append_singleton past s ih =>
    intro u hu x hx
    rw [run_append] at hu
    -- Neither an assignment nor an event changes the country of a record.
    cases s.source_of_mem (consistent_run past consistent) hu with
    | kept mem same =>
      obtain ⟨_, _, rfl⟩ := same
      have hbefore := (ih _ mem x hx).snoc s
      exact hbefore
    | enrolled new =>
      subst new
      cases hx
    | @edited e v brings settles edit =>
      subst edit
      have hv := ProviderEvent.mem_of_subject? settles.subject
      rcases ProviderEvent.upstream_of_edit hx with hrecorded | ⟨hnamed, kind⟩
      · have hbefore := (ih v hv x hrecorded).snoc s
        exact hbefore
      · exact .since rfl brings settles rfl rfl kind hnamed

/-- When the portal of a subscriber of the broker's is asked for, or a cancellation, the broker is told
the processor that stands for the country in the record. The one that is recorded was named by an event
for the same subscriber in the same country, or at the start; it is told if it is the one that stands for
the country, and only then. -/
theorem portal_and_cancel_name_home {steps : List Step} {start : World}
    (consistent : start.database.Consistent) {s : Step} {id : String}
    (asks : s.operation.AsksAbout id) {u : Subscriber}
    (found : (run steps start).database.subscriber? id = some u)
    (brokered : u.billingProvider = some .janua) {x : Upstream}
    (recorded : u.upstreamProvider = some x.name) :
    (∀ call ∈ (s.after (run steps start)).calls,
      Operation.NamesToBroker ((Router.ofSettings s.context.settings).homeOf u) call) ∧
    WasNamed steps start id u.countryCode x.name ∧
    ((∀ call ∈ (s.after (run steps start)).calls, Operation.NamesToBroker x call) ↔
      (s.after (run steps start)).calls = [] ∨
        (Router.ofSettings s.context.settings).homeOf u = x) := by
  have hcalls : ∀ call ∈ (s.after (run steps start)).calls,
      Operation.NamesToBroker ((Router.ofSettings s.context.settings).homeOf u) call := by
    intro call hcall
    have hpath := asks.names_home (c := s.context) (w := s.prepare (run steps start)) found brokered
    exact (mem_of_asks hpath hcall).resolve_left List.not_mem_nil
  have hnamed := wasNamed_run consistent u (Database.mem_of_subscriber? found) x.name recorded
  rw [Database.id_of_subscriber? found] at hnamed
  refine ⟨hcalls, hnamed, fun hrecorded => ?_, ?_⟩
  · cases hmade : (s.after (run steps start)).calls with
    | nil => exact .inl rfl
    | cons call rest =>
      have hcall : call ∈ (s.after (run steps start)).calls := by
        rw [hmade]
        exact List.mem_cons_self
      exact .inr ((hcalls call hcall).unique (hrecorded call hcall))
  · rintro (hnone | rfl)
    · rw [hnone]
      exact fun call hcall => absurd hcall List.not_mem_nil
    · exact hcalls

/-- A checkout that is made from Mexico, by a subscriber whose country is not known. -/
def travelling : Step := brokering { subscriberId := "user", country := some "MX" } (.string "cus")

/-- The subscription that comes of it is charged through the processor for Mexico. -/
def charging : Step where
  context := travelling.context
  operation := .process
    { provider := .janua, eventId := "evt", kind := .subscriptionCreated,
      eventType := "subscription.created", customerId := some "cus", subscriptionId := some "sub",
      planSlug := some "pro", upstreamProvider := some "conekta" }
  replies _ := []

/-- Its end is asked for. -/
def leaving : Step where
  context := travelling.context
  operation := .cancel "user"
  replies _ := []

/-- The broker is asked to end it at another processor than the one that charges. -/
theorem portal_and_cancel_name_other :
    let w := run [enrolling, travelling, charging] {}
    (∃ u, w.database.subscriber? "user" = some u ∧ u.billingProvider = some .janua ∧
      u.upstreamProvider = some Upstream.conekta.name) ∧
    ∃ call ∈ (leaving.after w).calls, Operation.NamesToBroker .polar call ∧
      ¬Operation.NamesToBroker .conekta call := by
  dsimp only
  have hrecord : ((run [enrolling, travelling, charging] {}).database.subscriber? "user").map
      (fun v => (v.billingProvider, v.upstreamProvider, v.countryCode)) =
      some (some .janua, some "conekta", none) := by
    decide +kernel
  have hcalls : (leaving.after (run [enrolling, travelling, charging] {})).calls.map (·.endpoint) =
      [.januaCancel] := by
    decide +kernel
  obtain ⟨u, found, hfields⟩ := Option.map_eq_some_iff.mp hrecord
  obtain ⟨brokered, hrest⟩ := Prod.mk.inj hfields
  obtain ⟨recorded, hcountry⟩ := Prod.mk.inj hrest
  have hhome : (Router.ofSettings leaving.context.settings).homeOf u = .polar := by
    rw [Router.homeOf, hcountry]
    decide +kernel
  have asks : leaving.operation.AsksAbout "user" := .cancel
  obtain ⟨hnames, -, -⟩ :=
    portal_and_cancel_name_home Database.Consistent.empty asks found brokered (x := .conekta) recorded
  rw [hhome] at hnames
  obtain ⟨call, hcall, -⟩ : ∃ call ∈ (leaving.after (run [enrolling, travelling, charging] {})).calls,
      call.endpoint = .januaCancel := by
    rw [← List.mem_map, hcalls]
    exact List.mem_singleton.mpr rfl
  refine ⟨⟨u, found, brokered, recorded⟩, call, hcall, hnames call hcall, fun hother => ?_⟩
  cases (hnames call hcall).unique hother

end Step

end SubscriptionBilling
