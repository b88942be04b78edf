import SubscriptionBilling.Proofs.Records
import SubscriptionBilling.Proofs.Turns

/-! How subscribers come to their tiers. Whatever the service is asked for, a tier moves only when an
event is delivered: to a paid one when the plan of the event stands for it, and to the base tier when
a subscription ends. -/
namespace SubscriptionBilling

/-- The tier of a subscriber. -/
def Database.tier? (db : Database) (id : String) : Option Tier :=
  (db.subscriber? id).map Subscriber.tier

namespace Price

/-- A price id that stands for a tier is one that is configured for it. -/
theorem configured_of_tierOf? {s : Settings} {id : String} {tier : Tier}
    (h : tierOf? s id = some tier) : id ≠ "" ∧ ∃ interval, (tier, interval, id) ∈ configured s := by
  unfold tierOf? at h
  split at h
  · cases h
  · next hid =>
    obtain ⟨⟨_, interval, found⟩, hfind, rfl⟩ := Option.map_eq_some_iff.mp h
    obtain rfl : found = id := by simpa using List.find?_some hfind
    exact ⟨by simpa using hid, interval, List.mem_of_find?_eq_some hfind⟩

/-- Prices are configured for paid tiers alone. -/
theorem paid_of_mem_configured {s : Settings} {tier : Tier} {interval : Interval} {id : String}
    (h : (tier, interval, id) ∈ configured s) : tier ≠ .community := by
  simp only [configured, List.mem_cons, Prod.mk.injEq, List.not_mem_nil, or_false] at h
  rcases h with ⟨rfl, -⟩ | ⟨rfl, -⟩ | ⟨rfl, -⟩ | ⟨rfl, -⟩ <;> decide

end Price

/-- Every plan is one of a paid tier. -/
theorem Plan.tier_ne_community (p : Plan) : p.tier ≠ .community := by
  unfold Plan.tier
  cases p.base <;> decide

theorem Tier.ofName?_name (t : Tier) : Tier.ofName? t.name = some t := by cases t <;> decide

namespace Delivery

/-- The plan in a delivered event stands for a tier: its slug resolves to a plan of the tier, or the
slug resolves to none and the first price in the body is configured for the tier. -/
inductive StandsFor (s : Settings) (p : Provider) (body : List UInt8) (e : ProviderEvent)
    (tier : Tier) : Prop
  | slug {name : String} {plan : Plan} (named : e.planSlug = some name)
      (resolves : Plan.ofSlug? name = some plan) (own : plan.tier = tier)
  | price {id : String} {interval : Interval}
      (unresolved : ∀ name, e.planSlug = some name → Plan.ofSlug? name = none)
      (first : priceId? p body = some id) (given : id ≠ "")
      (configured : (tier, interval, id) ∈ Price.configured s)

/-- Only paid tiers are sold. -/
theorem StandsFor.paid {s : Settings} {p : Provider} {body : List UInt8} {e : ProviderEvent}
    {tier : Tier} (h : StandsFor s p body e tier) : tier ≠ .community := by
  cases h with
  | slug named resolves own => exact own ▸ Plan.tier_ne_community _
  | price unresolved first given configured => exact Price.paid_of_mem_configured configured

/-- The tier that an event grants is the one that its plan stands for. -/
theorem standsFor_of_grantedTier {s : Settings} {p : Provider} {body : List UInt8}
    {e : ProviderEvent} (event : event? s p body = .ok (some e)) {tier : Tier}
    (h : e.grantedTier = some tier) : StandsFor s p body e tier := by
  unfold ProviderEvent.grantedTier at h
  cases hplan : e.planSlug.bind Plan.ofSlug? with
  | some plan =>
    simp only [hplan, Option.some.injEq] at h
    obtain ⟨name, named, resolves⟩ := Option.bind_eq_some_iff.mp hplan
    exact .slug named resolves h
  | none =>
    simp only [hplan, planTier_of_event? event] at h
    obtain ⟨name, hname, hofName⟩ := Option.bind_eq_some_iff.mp h
    obtain ⟨priced, hpriced, rfl⟩ := Option.map_eq_some_iff.mp hname
    obtain rfl : priced = tier := by simpa [Tier.ofName?_name] using hofName
    obtain ⟨id, first, hid⟩ := Option.bind_eq_some_iff.mp hpriced
    obtain ⟨given, interval, configured⟩ := Price.configured_of_tierOf? hid
    exact .price (Option.bind_eq_none_iff.mp hplan) first given configured

end Delivery

/-- The kinds of events that grant a tier. -/
def EventKind.Grants (k : EventKind) : Prop :=
  k = .subscriptionCreated ∨ k = .subscriptionResumed ∨ k = .checkoutCompleted

namespace ProviderEvent

/-- The tier that an event gives to the subscriber it is about. -/
inductive Gives (e : ProviderEvent) : Tier → Prop
  | granted {tier : Tier} (kind : e.kind.Grants) (granted : e.grantedTier = some tier) : Gives e tier
  | ended (kind : e.kind = .subscriptionCancelled) : Gives e .community

/-- A change keeps the tier or writes the one that the event gives. -/
theorem Writes.tier {now : Moment} {ended : Bool} {e : ProviderEvent} {u : Subscriber}
    {ch : SubscriberChange} (h : e.Writes now ended u ch) :
    ch.tier = none ∨ ∃ tier, ch.tier = some (some tier) ∧ e.Gives tier := by
  cases h with
  | created kind granted running => exact .inr ⟨_, rfl, .granted (.inl kind) granted⟩
  | updated kind active same ends => exact .inl rfl
  | cancelled kind same => exact .inr ⟨_, rfl, .ended kind⟩
  | resumed kind granted => exact .inr ⟨_, rfl, .granted (.inr (.inl kind)) granted⟩
  | bought kind granted => exact .inr ⟨_, rfl, .granted (.inr (.inr kind)) granted⟩

end ProviderEvent

namespace Database

theorem tier?_of_subscribers_eq {db after : Database} (h : after.subscribers = db.subscribers)
    (id : String) : after.tier? id = db.tier? id := by
  rw [tier?, tier?, subscriber?, subscriber?, h]

theorem tier?_of_assigned {db after : Database} {own : String} {p : Provider}
    {customerId : Option String} {done : Bool}
    (written : Subscriber.assignCustomerId own p customerId db = .ok (done, after)) (id : String) :
    after.tier? id = db.tier? id := by
  rcases Subscriber.assignCustomerId_cases written with ⟨-, rfl⟩ | ⟨-, u, hu, -, hreplace⟩
  · rfl
  obtain ⟨-, rfl⟩ := replace_eq_ok.mp hreplace
  obtain rfl : u.id = own := id_of_subscriber? hu
  have hset : (u.setCustomerId p customerId).id = u.id ∧
      (u.setCustomerId p customerId).tier = u.tier := by
    cases p <;> exact ⟨rfl, rfl⟩
  rw [tier?, subscriber?_put (hset.1 ▸ hu), hset.1]
  split
  · next hid => rw [hid, tier?, hu, Option.map_some, hset.2, Option.map_some]
  · rfl

/-- What the service writes on its own keeps every tier. -/
theorem Write.tier? {db after : Database} {own : String} (h : Write own db after) (id : String) :
    after.tier? id = db.tier? id := by
  cases h with
  | assigned p customerId written => exact tier?_of_assigned written id
  | noted c n about written =>
    obtain ⟨-, hr⟩ := AuditNote.log_eq_ok.mp written
    obtain ⟨-, rfl⟩ := Prod.mk.inj hr
    rfl
  | counted k amount own written =>
    obtain rfl := congrArg Prod.snd (CounterKey.increment_eq_ok.mp written).2
    exact tier?_of_subscribers_eq (subscribers_increment db k amount) id
  | countedBelow k cap own written =>
    obtain rfl := congrArg Prod.snd (CounterKey.incrementBelow_eq_ok.mp written).2
    exact tier?_of_subscribers_eq (subscribers_incrementBelow db k cap) id

end Database

/-- An arrival keeps a tier or gives the subscriber that its event is about another one. -/
theorem Arrival.tier?_after (a : Arrival) (db : Database) (id : String) :
    (a.after db).tier? id = db.tier? id ∨
      ∃ u tier, a.event.subject? db = some u ∧ u.id = id ∧ a.event.Gives tier ∧
        (a.after db).tier? id = some tier := by
  rcases a.after_cases db with hsame | ⟨u, hs⟩
  · exact .inl (by rw [hsame])
  by_cases hid : id = u.id
  swap
  · exact .inl (by rw [Database.tier?, subscriber?_of_settles hs, if_neg hid, Database.tier?])
  have hafter : (a.after db).tier? id = (db.subscriber? id).map fun v =>
      ((a.event.transitionAt a.context db u).edit.apply v).tier := by
    rw [Database.tier?, subscriber?_of_settles hs, if_pos hid, ← hid, Option.map_map]
    rfl
  cases hv : db.subscriber? id with
  | none => exact .inl (by rw [hafter, Database.tier?, hv]; rfl)
  | some v =>
    rw [hafter, Database.tier?, hv]
    unfold Transition.edit
    cases hch : (a.event.transitionAt a.context db u).change with
    | none => exact .inl rfl
    | some ch =>
      rcases (ProviderEvent.writes_of_change hch).tier with hkeeps | ⟨tier, hwrites, hgives⟩
      · exact .inl (by simp [SubscriberChange.apply, hkeeps])
      · exact .inr ⟨u, tier, hs.subject, hid.symm, hgives, by simp [SubscriberChange.apply, hwrites]⟩

namespace Turn

/-- A turn that can move a subscriber to a tier: it delivers an event about the subscriber, whose plan
stands for the tier or which ends a subscription. -/
inductive Moves (t : Turn) (db : Database) (id : String) : Tier → Prop
  | granted {p : Provider} {r : Http.Request} {e : ProviderEvent} {u : Subscriber} {tier : Tier}
      (delivers : t.Delivers p r e) (subject : e.subject? db = some u) (own : u.id = id)
      (kind : e.kind.Grants) (standsFor : Delivery.StandsFor t.context.settings p r.body e tier)
      (paid : tier ≠ .community) : Moves t db id tier
  | ended {p : Provider} {r : Http.Request} {e : ProviderEvent} {u : Subscriber}
      (delivers : t.Delivers p r e) (subject : e.subject? db = some u) (own : u.id = id)
      (kind : e.kind = .subscriptionCancelled) : Moves t db id .community

/-- A turn keeps a tier unless it moves the subscriber to another one. -/
theorem tier?_after (t : Turn) (s : Http.Server) (id : String) :
    (t.after s).database.tier? id = s.database.tier? id ∨
      ∃ tier, (t.after s).database.tier? id = some tier ∧ t.Moves s.database id tier := by
  rcases t.database_after s with hown | ⟨p, r, e, delivers, hafter⟩
  · exact .inl (Database.kept_by_writes (P := fun db => db.tier? id = s.database.tier? id)
      (fun hwrite hdb => (hwrite.tier? id).trans hdb) hown rfl)
  · rw [hafter]
    rcases Arrival.tier?_after ⟨t.context, e⟩ s.database id with
      hkept | ⟨u, tier, subject, own, gives, htier⟩
    · exact .inl hkept
    refine .inr ⟨tier, htier, ?_⟩
    cases gives with
    | granted kind granted =>
      have standsFor := Delivery.standsFor_of_grantedTier delivers.2.event granted
      exact .granted delivers subject own kind standsFor standsFor.paid
    | ended kind => exact .ended delivers subject own kind

/-- An event whose plan stands for no tier moves nobody, unless it ends a subscription. -/
theorem tier?_after_of_unrecognized {t : Turn} {p : Provider} {r : Http.Request} {e : ProviderEvent}
    (delivers : t.Delivers p r e)
    (unrecognized : ∀ tier, ¬Delivery.StandsFor t.context.settings p r.body e tier)
    (s : Http.Server) (id : String) :
    (t.after s).database.tier? id = s.database.tier? id ∨
      e.kind = .subscriptionCancelled ∧ (t.after s).database.tier? id = some .community := by
  rcases t.tier?_after s id with hkept | ⟨tier, htier, hmoves⟩
  · exact .inl hkept
  cases hmoves with
  | granted delivers' subject own kind standsFor paid =>
    obtain ⟨rfl, rfl, rfl⟩ := delivers.unique delivers'
    exact absurd standsFor (unrecognized _)
  | ended delivers' subject own kind =>
    obtain ⟨rfl, rfl, rfl⟩ := delivers.unique delivers'
    exact .inr ⟨kind, htier⟩

/-- In every run tiers move only in verified deliveries: to a paid tier by a grant whose plan stands
for it, and to the base tier by the end of a subscription. A plan that stands for no tier moves
nobody. The tier after a run is the one before it or one that the run moved the subscriber to. -/
theorem tier_moves_by_delivery (turns : List Turn) (start : Http.Server) (id : String) :
    (∀ step ∈ trace turns start,
      (step.1.after step.2).database.tier? id ≠ step.2.database.tier? id →
      ∃ tier, (step.1.after step.2).database.tier? id = some tier ∧
        step.1.Moves step.2.database id tier) ∧
    (∀ step ∈ trace turns start, ∀ p r e, step.1.Delivers p r e →
      (∀ tier, ¬Delivery.StandsFor step.1.context.settings p r.body e tier) →
      (step.1.after step.2).database.tier? id = step.2.database.tier? id ∨
        e.kind = .subscriptionCancelled ∧
          (step.1.after step.2).database.tier? id = some .community) ∧
    ((run turns start).database.tier? id = start.database.tier? id ∨
      ∃ step ∈ trace turns start, ∃ tier, (run turns start).database.tier? id = some tier ∧
        step.1.Moves step.2.database id tier) := by
  refine ⟨fun step _ => (step.1.tier?_after step.2 id).resolve_left,
    fun step _ _ _ _ delivers unrecognized =>
      tier?_after_of_unrecognized delivers unrecognized step.2 id, ?_⟩
  rcases run_eq_or_last_change (fun s => s.database.tier? id) turns start with
    hsame | ⟨step, hstep, hchange, hlast⟩
  · exact .inl hsame
  · obtain ⟨tier, htier, hmoves⟩ := (step.1.tier?_after step.2 id).resolve_left hchange
    exact .inr ⟨step, hstep, tier, hlast.trans htier, hmoves⟩

/-- The broker's notice of a new subscription to the top plan. -/
def creationBody : List UInt8 :=
  Delivery.asciiBytes "\x7b\"id\":\"evt\",\"type\":\"subscription.created\",\"data\":\x7b\"customer_id\":\"cus\",\"plan_id\":\"pro\"\x7d\x7d"

/-- The request that delivers the notice, signed under a secret. -/
def creationRequest : Http.Request where
  method := "POST"
  host := "localhost"
  path := "/api/v1/billing/webhook/janua"
  headers := [("x-janua-signature", Hmac.sign "k" creationBody)]
  body := creationBody

def creation : Turn where
  context := { settings := { januaWebhookSecret := "k" }, now := 0 }
  demand := .answer creationRequest
  replies _ := []

theorem tier_moves_by_creation :
    let start : Http.Server :=
      { world.database := Database.ofCustomer "u" "u@example.com" .janua "cus" }
    start.database.tier? "u" = some .community ∧
      (run [creation] start).database.tier? "u" = some .pro ∧
      ∃ step ∈ trace [creation] start, step.1.Moves step.2.database "u" .pro := by
  intro start
  have hbefore : start.database.tier? "u" = some .community := by decide +kernel
  have hheader : creationRequest.header? "x-janua-signature" =
      some (Hmac.sign "k" creationBody) := by
    simp only [Http.Request.header?, creationRequest, List.lookup_cons_self]
  have hverified : (Http.verifier creation.context).verify creation.context.now .janua
      creationRequest.body (creationRequest.header? "x-janua-signature") = .ok () := by
    rw [hheader]
    exact Signature.verifyJanua_sign (v := Http.verifier creation.context) (by decide) creationBody
  have hmoved : ((Delivery.event? creation.context.settings .janua creationBody).toOption.join.map
      fun e => ((⟨creation.context, e⟩ : Arrival).after start.database).tier? "u") =
        some (some .pro) := by
    decide +kernel
  obtain ⟨e, he, hpro⟩ := Option.map_eq_some_iff.mp hmoved
  have event : Delivery.event? creation.context.settings .janua creationBody = .ok (some e) := by
    cases h : Delivery.event? creation.context.settings .janua creationBody with
    | error f => simp [h, Except.toOption] at he
    | ok found => simpa [h, Except.toOption] using he
  have delivers : creation.Delivers .janua creationRequest e :=
    ⟨rfl, by decide +kernel, hverified, event⟩
  have hafter : (run [creation] start).database.tier? "u" = some .pro := by
    rw [run_cons, run_nil, delivers.arrives]
    exact hpro
  obtain ⟨-, -, hsame | ⟨step, hstep, tier, htier, hmoves⟩⟩ :=
    tier_moves_by_delivery [creation] start "u"
  · rw [hafter, hbefore] at hsame
    cases hsame
  · obtain rfl : .pro = tier := Option.some.inj (hafter.symm.trans htier)
    exact ⟨hbefore, hafter, step, hstep, hmoves⟩

end Turn
end SubscriptionBilling
