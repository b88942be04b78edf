import SubscriptionBilling.Http.Server
import SubscriptionBilling.Proofs.Deliveries
import SubscriptionBilling.Proofs.ServiceWrites

/-! Runs of the whole service. In each turn a request comes in or the meter is called, in
circumstances of its own and with whatever the other systems answer. A turn does to the store what
the service writes on its own, or it is the arrival of an event whose delivery is verified. -/
namespace SubscriptionBilling

namespace Delivery
variable (c : Context) (v : Signature.Verifier) (p : Provider) (body : List UInt8)
  (signature : Option String)

variable {c v p body signature} in
/-- The event of a verified delivery arrives in the store. -/
theorem receive_of_event {e : ProviderEvent} (verified : v.verify c.now p body signature = .ok ())
    (event : event? c.settings p body = .ok (some e)) (db : Database) :
    (receive c v p body signature db).2 = (⟨c, e⟩ : Arrival).after db := by
  have hread : read c v p body signature = .ok (.inr e) := by simp only [read, verified, event]
  simp only [receive, hread, Arrival.after]
  split <;> next h => rw [h]

/-- A delivery leaves the store alone, or the event in it arrives there. -/
theorem receive_arrives (db : Database) :
    (receive c v p body signature db).2 = db ∨
      ∃ e, v.verify c.now p body signature = .ok () ∧ event? c.settings p body = .ok (some e) ∧
        (receive c v p body signature db).2 = (⟨c, e⟩ : Arrival).after db := by
  rcases read_cases c v p body signature with
    ⟨r, hread, -⟩ | ⟨e, -, -, hverify, hevent⟩ | ⟨⟨f, hread⟩, -⟩
  · simp [receive, hread]
  · exact .inr ⟨e, hverify, hevent, receive_of_event hverify hevent db⟩
  · simp [receive, hread]

/-- The work that a delivery leaves does not come back to the store. -/
theorem database_handle (w : World) :
    (handle c v p body signature w).2.database = (receive c v p body signature w.database).2 := by
  unfold handle
  split
  · next h => rw [h]
  · next r tasks db h =>
    rw [h, snd_bind_pure]
    rfl

end Delivery

namespace Http
open Handler

/-- The store behind the server. -/
def Server.database (s : Server) : Database := s.world.database

section Handlers
variable {S : Database → Database → Prop} (c : Context) (r : Request)

theorem along_service {x : Service α} (hx : Along S World.database x) :
    Along S Server.database (service x) := fun s => hx s.world

theorem along_service_for {id : String} {x : Service α}
    (hx : Along (Database.Write id) World.database x) :
    Along Database.WriteForSome Server.database (service x) :=
  along_service (hx.mono fun h => ⟨id, h⟩)

theorem along_checked (x : Checked α) : Along S Server.database (checked x) := fun _ => .refl

theorem along_ready (x : Except Response α) : Along S Server.database (ready x) := fun _ => .refl

theorem along_limited (rule : RateRule) (resource : String) :
    Along S Server.database (limited c r rule resource) := fun _ => .refl

theorem along_portal : Along S Server.database (portal c r) := by
  refine (along_ready _).bind fun body => ?_
  refine (along_service (along_subscriberId c r)).bind fun id => ?_
  refine (along_checked _).bind fun returnUrl => ?_
  refine (along_service (Subscription.along_portal c id returnUrl)).bind fun url => ?_
  split
  · exact .pure _
  · exact .throw _

theorem along_history : Along S Server.database (history c r) := by
  refine (along_service (along_subscriberId c r)).bind fun id => ?_
  refine (along_checked _).bind fun limit => ?_
  exact (along_service (Subscription.along_history c id _)).bind fun _ => .pure _

theorem along_storeHealth : Along S Server.database (storeHealth c r) := by
  refine (along_limited c r _ _).bind fun _ => ?_
  split
  · exact .pure _
  · exact .pure _
  · exact .throw _

theorem along_upgrade : Along Database.WriteForSome Server.database (upgrade c r) := by
  refine (along_ready _).bind fun body => ?_
  refine (along_service (along_subscriberId c r)).bind fun id => ?_
  refine (along_checked _).bind fun form => ?_
  exact (along_service_for (Checkout.along_create c rfl)).bind fun _ => .pure _

theorem along_externalCheckout :
    Along Database.WriteForSome Server.database (externalCheckout c r) := by
  refine (along_checked _).bind fun query => ?_
  refine (along_limited c r _ _).bind fun _ => ?_
  exact (along_service_for (Checkout.along_createExternal c _ _ _ _)).bind fun _ => .pure _

end Handlers

end Http

namespace Provider

/-- The resource that a provider delivers to. -/
def webhook : Provider → Http.Resource
  | stripe => .stripeWebhook
  | janua => .januaWebhook

/-- The header that carries a provider's signature. -/
def signatureHeader : Provider → String
  | stripe => "stripe-signature"
  | janua => "x-janua-signature"

end Provider

namespace Http
open Handler

theorem respond_webhook (c : Context) (r : Request) (p : Provider) :
    respond c r p.webhook = webhook c r p p.signatureHeader := by cases p <;> rfl

/-- A resource that no provider delivers to takes the store along the service's own writes. -/
theorem along_respond (c : Context) (r : Request) {resource : Resource}
    (h : ∀ p : Provider, resource ≠ p.webhook) :
    Along Database.WriteForSome Server.database (respond c r resource) := by
  have hcaller := along_service (S := Database.WriteForSome) (along_subscriberId c r)
  cases resource with
  | health => exact .pure _
  | storeHealth => exact along_storeHealth c r
  | stripeWebhook => exact absurd rfl (h .stripe)
  | januaWebhook => exact absurd rfl (h .janua)
  | plans => exact (along_checked _).bind fun _ => .pure _
  | tierLimits tier => exact (along_checked _).bind fun _ => .pure _
  | checkout => exact along_externalCheckout c r
  | upgrade => exact along_upgrade c r
  | portal => exact along_portal c r
  | status =>
    exact hcaller.bind fun id => (along_service (Subscription.along_status c id)).bind fun _ => .pure _
  | cancel =>
    exact hcaller.bind fun id => (along_service (Subscription.along_cancel c id)).bind fun _ => .pure _
  | history => exact along_history c r
  | usage =>
    exact hcaller.bind fun id => (along_service (Meter.along_summary c id)).bind fun _ => .pure _
  | liveness => exact .pure _

/-- The signatures that the service goes by. -/
def verifier (c : Context) : Signature.Verifier := Signature.Verifier.make c.settings none none none

theorem database_webhook (c : Context) (r : Request) (p : Provider) (s : Server) :
    (webhook c r p p.signatureHeader s).2.database =
      (Delivery.receive c (verifier c) p r.body (r.header? p.signatureHeader) s.database).2 := by
  unfold webhook
  rw [snd_bind_pure]
  exact Delivery.database_handle c (verifier c) p r.body _ s.world

/-- A request is the delivery of an event: its signature is good, and the event is in its body. -/
structure Request.Delivers (c : Context) (p : Provider) (e : ProviderEvent) (r : Request) : Prop where
  webhook : destination r.method r.path = .resource p.webhook
  verified : (verifier c).verify c.now p r.body (r.header? p.signatureHeader) = .ok ()
  event : Delivery.event? c.settings p r.body = .ok (some e)

/-- A request that leads to no resource changes nothing at all. -/
theorem dispatch_snd (c : Context) (r : Request) (s : Server) :
    (dispatch c r s).2 =
      match destination r.method r.path with
      | .resource resource => (respond c r resource s).2
      | _ => s := by
  unfold dispatch
  split
  · next hd =>
    simp only [hd]
    split <;> next h => rw [h]
  all_goals next hd => rw [hd]

/-- A request that leads to a resource has the method that the resource answers. -/
theorem method_of_destination {method path : String} {resource : Resource}
    (h : destination method path = .resource resource) : resource.method = method := by
  unfold destination at h
  split at h
  · split at h
    · next hm =>
      cases h
      exact hm
    · cases h
  · split at h <;> cases h

/-- Deliveries are no questions of a browser. -/
theorem question?_of_webhook {r : Request} {p : Provider}
    (h : destination r.method r.path = .resource p.webhook) : CrossOrigin.question? r = none := by
  have hpost : r.method = "POST" := by
    rw [← method_of_destination h]
    cases p <;> rfl
  rw [CrossOrigin.question?, hpost, if_neg (by decide)]

theorem answer_snd {c : Context} {r : Request} (h : CrossOrigin.question? r = none) (s : Server) :
    (s.answer c r).2 = (dispatch c r s).2 := by
  simp only [Server.answer, h]

/-- The event that a request delivers arrives in the store. -/
theorem Request.Delivers.arrives {c : Context} {p : Provider} {e : ProviderEvent} {r : Request}
    (h : r.Delivers c p e) (s : Server) :
    (s.answer c r).2.database = (⟨c, e⟩ : Arrival).after s.database := by
  rw [answer_snd (question?_of_webhook h.webhook), dispatch_snd, h.webhook]
  change (respond c r p.webhook s).2.database = _
  rw [respond_webhook, database_webhook]
  exact Delivery.receive_of_event h.verified h.event s.database

/-- A request takes the store along the service's own writes, or it delivers an event that arrives
there. -/
theorem database_answer (c : Context) (r : Request) (s : Server) :
    Relation.ReflTransGen Database.WriteForSome s.database (s.answer c r).2.database ∨
      ∃ p e, r.Delivers c p e ∧
        (s.answer c r).2.database = (⟨c, e⟩ : Arrival).after s.database := by
  cases hq : CrossOrigin.question? r with
  | some q =>
    simp only [Server.answer, hq]
    exact .inl .refl
  | none =>
    rw [answer_snd hq, dispatch_snd]
    split
    case h_2 => exact .inl .refl
    next resource hd =>
    by_cases hp : ∃ p : Provider, resource = p.webhook
    · obtain ⟨p, rfl⟩ := hp
      rw [respond_webhook, database_webhook]
      rcases Delivery.receive_arrives c (verifier c) p r.body (r.header? p.signatureHeader)
        s.database with hsame | ⟨e, hverify, hevent, hafter⟩
      · rw [hsame]
        exact .inl .refl
      · exact .inr ⟨p, e, ⟨hd, hverify, hevent⟩, hafter⟩
    · exact .inl (along_respond c r (fun p h => hp ⟨p, h⟩) s)

end Http

/-- What the service is asked for: the answer to a request over HTTP, or a service of the meter. -/
inductive Demand where
  | answer (r : Http.Request)
  | record (id : String) (f : Feature)
  | check (id : String) (f : Feature)
  | consume (id : String) (f : Feature)
  | summarize (id : String)

/-- The service after a demand; what comes of it is for the caller. -/
def Demand.after (c : Context) (d : Demand) (s : Http.Server) : Http.Server :=
  match d with
  | answer r => (s.answer c r).2
  | record id f => (Http.Handler.service (Meter.record c id f) s).2
  | check id f => (Http.Handler.service (Meter.isBelowCap c id f) s).2
  | consume id f => (Http.Handler.service (Meter.consume c id f) s).2
  | summarize id => (Http.Handler.service (Meter.summary c id) s).2

open Http in
theorem Demand.database_after (c : Context) (d : Demand) (s : Server) :
    Relation.ReflTransGen Database.WriteForSome s.database (d.after c s).database ∨
      ∃ p r e, d = .answer r ∧ r.Delivers c p e ∧
        (d.after c s).database = (⟨c, e⟩ : Arrival).after s.database := by
  cases d with
  | answer r =>
    rcases database_answer c r s with hown | ⟨p, e, hdelivers, hafter⟩
    · exact .inl hown
    · exact .inr ⟨p, r, e, rfl, hdelivers, hafter⟩
  | record id f => exact .inl (along_service_for (Meter.along_record c id f) s)
  | check id f => exact .inl (along_service (Meter.along_isBelowCap c id f) s)
  | consume id f => exact .inl (along_service_for (Meter.along_consume c id f) s)
  | summarize id => exact .inl (along_service (Meter.along_summary c id) s)

/-- A demand, the circumstances in which it is met, and what the other systems answer meanwhile. -/
structure Turn where
  context : Context
  demand : Demand
  replies : Endpoint → List Reply

namespace Turn

/-- The service with the answers of a turn still to come. -/
def prepare (t : Turn) (s : Http.Server) : Http.Server :=
  { s with world.network.replies := t.replies }

def after (t : Turn) (s : Http.Server) : Http.Server := t.demand.after t.context (t.prepare s)

/-- The service after a run of turns. -/
def run (turns : List Turn) (s : Http.Server) : Http.Server := turns.foldl (fun s t => t.after s) s

/-- The turns of a run, each with the service that it finds. -/
def trace : List Turn → Http.Server → List (Turn × Http.Server)
  | [], _ => []
  | t :: rest, s => (t, s) :: trace rest (t.after s)

@[simp] theorem run_nil (s : Http.Server) : run [] s = s := rfl

@[simp] theorem run_cons (t : Turn) (rest : List Turn) (s : Http.Server) :
    run (t :: rest) s = run rest (t.after s) := rfl

/-- A turn is the delivery of an event. -/
def Delivers (t : Turn) (p : Provider) (r : Http.Request) (e : ProviderEvent) : Prop :=
  t.demand = .answer r ∧ r.Delivers t.context p e

theorem Delivers.arrives {t : Turn} {p : Provider} {r : Http.Request} {e : ProviderEvent}
    (h : t.Delivers p r e) (s : Http.Server) :
    (t.after s).database = (⟨t.context, e⟩ : Arrival).after s.database := by
  unfold after
  rw [h.1]
  exact h.2.arrives (t.prepare s)

/-- A turn delivers one event at most. -/
theorem Delivers.unique {t : Turn} {p q : Provider} {r r' : Http.Request} {e e' : ProviderEvent}
    (h : t.Delivers p r e) (h' : t.Delivers q r' e') : p = q ∧ r = r' ∧ e = e' := by
  obtain ⟨hdemand, h⟩ := h
  obtain ⟨hdemand', h'⟩ := h'
  obtain rfl : r = r' := by simpa [hdemand] using hdemand'
  have hwebhook : p.webhook = q.webhook := by simpa [h.webhook] using h'.webhook
  obtain rfl : p = q := by
    cases p <;> cases q <;> first | rfl | cases hwebhook
  exact ⟨rfl, rfl, by simpa [h.event] using h'.event⟩

/-- A turn takes the store along the service's own writes, or it delivers an event that arrives
there. -/
theorem database_after (t : Turn) (s : Http.Server) :
    Relation.ReflTransGen Database.WriteForSome s.database (t.after s).database ∨
      ∃ p r e, t.Delivers p r e ∧
        (t.after s).database = (⟨t.context, e⟩ : Arrival).after s.database := by
  rcases t.demand.database_after t.context (t.prepare s) with
    hown | ⟨p, r, e, hdemand, hdelivers, hafter⟩
  · exact .inl hown
  · exact .inr ⟨p, r, e, ⟨hdemand, hdelivers⟩, hafter⟩

/-- Whatever the service is asked for, its store stays one that it can bring about. -/
theorem reachable_after {s : Http.Server} (h : s.database.Reachable) (t : Turn) :
    (t.after s).database.Reachable := by
  rcases t.database_after s with hown | ⟨p, r, e, -, hafter⟩
  · exact Database.kept_by_writes (fun hwrite hdb => hdb.write hwrite) hown h
  · rw [hafter]
    exact h.arrived _

/-- What every turn keeps, every run keeps. -/
theorem run_induction {P : Http.Server → Prop} (step : ∀ (t : Turn) s, P s → P (t.after s))
    (turns : List Turn) {s : Http.Server} (h : P s) : P (run turns s) := by
  induction turns generalizing s with
  | nil => exact h
  | cons t rest ih => exact ih (step t s h)

/-- What a run changes in the service, one of its turns changes for good. -/
theorem run_eq_or_last_change (part : Http.Server → τ) (turns : List Turn) (s : Http.Server) :
    part (run turns s) = part s ∨
      ∃ step ∈ trace turns s, part (step.1.after step.2) ≠ part step.2 ∧
        part (run turns s) = part (step.1.after step.2) := by
  induction turns generalizing s with
  | nil => exact .inl rfl
  | cons t rest ih =>
    rw [run_cons, trace]
    rcases ih (t.after s) with hsame | ⟨step, hmem, hchange, hlast⟩
    · by_cases ht : part (t.after s) = part s
      · exact .inl (hsame.trans ht)
      · exact .inr ⟨(t, s), List.mem_cons_self, ht, hsame⟩
    · exact .inr ⟨step, List.mem_cons_of_mem _ hmem, hchange, hlast⟩

theorem reachable_run {s : Http.Server} (h : s.database.Reachable) (turns : List Turn) :
    (run turns s).database.Reachable :=
  run_induction (P := fun s => s.database.Reachable) (fun t _ hs => reachable_after hs t) turns h

end Turn
end SubscriptionBilling
