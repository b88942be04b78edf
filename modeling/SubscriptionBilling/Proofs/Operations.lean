import SubscriptionBilling.Proofs.CheckoutCalls
import SubscriptionBilling.Proofs.Records
import SubscriptionBilling.Proofs.Turns

/-! Runs of the service's operations, each step in circumstances of its own and with whatever the
other systems answer. A step takes the store along the service's own writes, enrols a subscriber, or
brings an event that arrives in the store. -/
namespace SubscriptionBilling

namespace Meter
variable {S : List Subscriber → List Subscriber → Prop} (c : Context) (id : String) (f : Feature)

theorem leaves_increment (k : CounterKey) (amount : Int) :
    Along S World.subscribers (Service.commit c (k.increment amount)) := by
  refine Service.leaves_commit fun {db _ after} h => ?_
  obtain rfl := congrArg Prod.snd (CounterKey.increment_eq_ok.mp h).2
  exact Database.subscribers_increment db k amount

theorem leaves_takeBelow (k : CounterKey) (cap : Int) :
    Along S World.subscribers (takeBelow c k cap) := by
  refine .ite (fun _ => .pure _) fun _ => Service.leaves_commit fun {db _ after} h => ?_
  obtain rfl := congrArg Prod.snd (CounterKey.incrementBelow_eq_ok.mp h).2
  exact Database.subscribers_incrementBelow db k cap

theorem leaves_consume : Along S World.subscribers (consume c id f) := by
  unfold consume
  extract_lets key
  refine (Service.leaves_of_still (along_tierOf c id)).bind fun tier => ?_
  split
  · exact (leaves_increment c key 1).bind fun _ => .pure _
  · refine (leaves_takeBelow c key _).bind fun taken => ?_
    split
    · exact .pure _
    · exact (Service.leaves_of_still (Service.along_read _)).bind fun _ => .pure _

end Meter

/-- What the service can be asked to do, with any arguments. A customer is ensured for a subscriber as
the caller has read it, which may have been a while ago, and a checkout that has read the record of its
subscriber may be resumed after other work. -/
inductive Operation where
  | enroll (id email : String) (name countryCode : Option String) (tier : Tier)
  | deliver (v : Signature.Verifier) (p : Provider) (body : List UInt8) (signature : Option String)
  | process (e : ProviderEvent)
  | checkout (r : CheckoutRequest)
  | externalCheckout (user : String) (plan returnUrl : Option String) (product : Option Product)
  | resume (r : CheckoutRequest) (plan : Plan) (u : Subscriber)
  | ensureCustomer (u : Subscriber) (r : Route) (country : String) (organizationId : Option String)
  | portal (id : String) (returnUrl : Option String)
  | cancel (id : String)
  | status (id : String)
  | history (id : String) (limit : Int)
  | record (id : String) (f : Feature)
  | check (id : String) (f : Feature)
  | consume (id : String) (f : Feature)
  | summarize (id : String)
  | log (n : AuditNote)

namespace Operation

/-- The world after an operation; what comes of it is for the caller. -/
def after (c : Context) (o : Operation) (w : World) : World :=
  match o with
  | enroll id email name countryCode tier =>
    (Service.commit c (Subscriber.enrolled id email name countryCode tier).add w).2
  | deliver v p body signature => (Delivery.handle c v p body signature w).2
  | process e => (e.handle c w).2
  | checkout r => (Checkout.create c r w).2
  | externalCheckout user plan returnUrl product =>
    (Checkout.createExternal c user plan returnUrl product w).2
  | resume r plan u => (Checkout.proceed c r plan u w).2
  | ensureCustomer u r country organizationId =>
    (u.ensureCustomer c r country organizationId w).2
  | portal id returnUrl => (Subscription.portal c id returnUrl w).2
  | cancel id => (Subscription.cancel c id w).2
  | status id => (Subscription.status c id w).2
  | history id limit => (Subscription.history c id limit w).2
  | record id f => (Meter.record c id f w).2
  | check id f => (Meter.isBelowCap c id f w).2
  | consume id f => (Meter.consume c id f w).2
  | summarize id => (Meter.summary c id w).2
  | log n => (Service.commit c (n.log c) w).2

/-- The event that an operation brings: the one in a delivery whose signature is good, or one that is
handed in as such. -/
inductive Brings (c : Context) : Operation → ProviderEvent → Prop
  | delivered {v : Signature.Verifier} {p : Provider} {body : List UInt8}
      {signature : Option String} {e : ProviderEvent}
      (verified : v.verify c.now p body signature = .ok ())
      (event : Delivery.event? c.settings p body = .ok (some e)) :
      Brings c (deliver v p body signature) e
  | handedIn (e : ProviderEvent) : Brings c (process e) e

/-- Whether an operation takes its event, if it has one, from a delivery. -/
def IsOutward (o : Operation) : Prop := ∀ e, o ≠ process e

/-- What an operation can do to the store. -/
inductive Moves (c : Context) (o : Operation) (db after : Database) : Prop
  | own (path : Relation.ReflTransGen Database.WriteForSome db after)
  | enrolled {id email : String} {name countryCode : Option String} {tier : Tier}
      (written : (Subscriber.enrolled id email name countryCode tier).add db = .ok ((), after))
  | arrived {e : ProviderEvent} (brings : o.Brings c e)
      (settled : after = (⟨c, e⟩ : Arrival).after db)

theorem Moves.of_along {c : Context} {o : Operation} {id : String} {x : Service α}
    (hx : Along (Database.Write id) World.database x) (w : World) :
    o.Moves c w.database (x w).2.database :=
  .own (hx.mono (fun h => ⟨id, h⟩) w)

theorem Moves.of_still {c : Context} {o : Operation} {x : Service α}
    (hx : Along Database.WriteForSome World.database x) (w : World) :
    o.Moves c w.database (x w).2.database := .own (hx w)

/-- The work that an event leaves does not come back to the store. -/
theorem database_handle (c : Context) (e : ProviderEvent) (w : World) :
    (e.handle c w).2.database = (⟨c, e⟩ : Arrival).after w.database := by
  unfold ProviderEvent.handle Arrival.after
  split
  · next h => rw [h]
  · next h =>
    rw [h, snd_bind_pure]
    rfl

theorem moves (c : Context) (o : Operation) (w : World) :
    o.Moves c w.database (o.after c w).database := by
  cases o with
  | enroll id email name countryCode tier =>
    rw [after]
    rcases Service.commit_cases c (Subscriber.enrolled id email name countryCode tier).add w with
      ⟨f, hcommit⟩ | ⟨_, added, hadd, hcommit⟩
    · exact .own (by rw [hcommit])
    · rw [hcommit]
      exact .enrolled hadd
  | deliver v p body signature =>
    change Moves c _ _ (Delivery.handle c v p body signature w).2.database
    rw [Delivery.database_handle]
    rcases Delivery.receive_arrives c v p body signature w.database with
      hsame | ⟨e, verified, event, hafter⟩
    · rw [hsame]
      exact .own .refl
    · exact .arrived (.delivered verified event) hafter
  | process e => exact .arrived (.handedIn e) (database_handle c e w)
  | checkout r =>
    rw [after]
    exact .of_along (Checkout.along_create c (r := r) rfl) w
  | externalCheckout user plan returnUrl product =>
    rw [after]
    exact .of_along (Checkout.along_createExternal c user plan returnUrl product) w
  | resume r plan u =>
    exact .of_still (Checkout.along_proceed c r plan u (fun h => ⟨_, h⟩) fun h => ⟨_, h⟩) w
  | ensureCustomer u r country organizationId =>
    exact .of_along (Subscriber.along_ensureCustomer c u r country organizationId) w
  | portal id returnUrl => exact .of_still (Subscription.along_portal c id returnUrl) w
  | cancel id => exact .of_still (Subscription.along_cancel c id) w
  | status id => exact .of_still (Subscription.along_status c id) w
  | history id limit => exact .of_still (Subscription.along_history c id limit) w
  | record id f => exact .of_along (Meter.along_record c id f) w
  | check id f => exact .of_still (Meter.along_isBelowCap c id f) w
  | consume id f => exact .of_along (Meter.along_consume c id f) w
  | summarize id => exact .of_still (Meter.along_summary c id) w
  | log n =>
    have hlog : Along (Database.Write n.subscriberId) World.database (Service.commit c (n.log c)) :=
      Service.along_commit fun h => .single (.noted c n rfl h)
    exact .of_along hlog w

/-- What an operation does to the subscribers: nothing, or it enrols one, brings an event that arrives,
or ensures a customer for one. -/
inductive Tends (w after : World) : Prop
  | left (same : after.subscribers = w.subscribers)
  | enrolled {id email : String} {name countryCode : Option String} {tier : Tier}
      (written : (Subscriber.enrolled id email name countryCode tier).add w.database =
        .ok ((), after.database))
  | arrived (a : Arrival) (settled : after.database = a.after w.database)
  | ensured {u : Subscriber} {p : Provider} {result : Except Failure Json} {mid : World}
      (ensures : u.Ensures p w result mid) (subscribers : after.subscribers = mid.subscribers)

theorem Tends.of_leaves {w : World} {x : Service α} (h : Along (fun _ _ => False) World.subscribers x) :
    Tends w (x w).2 := .left (eq_of_no_step (h w))

theorem Tends.of_still {w : World} {x : Service α} (h : Along (fun _ _ => False) World.database x) :
    Tends w (x w).2 := .of_leaves (Service.leaves_of_still h)

theorem Tends.of_ends {u : Subscriber} {w after : World} (h : Checkout.Ends u w after) :
    Tends w after := by
  cases h with
  | refused same => exact .left (by rw [same])
  | ensured ensures subscribers calls => exact .ensured ensures subscribers

theorem tends (c : Context) (o : Operation) (w : World) : Tends w (o.after c w) := by
  have hends : ∀ {id after}, (after = w ∨ ∃ u, w.database.subscriber? id = some u ∧
      Checkout.Ends u w after) → Tends w after := by
    rintro id after (hsame | ⟨u, -, hends⟩)
    · exact .left (by rw [hsame])
    · exact .of_ends hends
  cases o with
  | enroll id email name countryCode tier =>
    rw [after]
    rcases Service.commit_cases c (Subscriber.enrolled id email name countryCode tier).add w with
      ⟨f, hcommit⟩ | ⟨_, added, hadd, hcommit⟩
    · exact .left (by rw [hcommit])
    · rw [hcommit]
      exact .enrolled hadd
  | deliver v p body signature =>
    rcases Delivery.receive_arrives c v p body signature w.database with
      hsame | ⟨e, -, -, hafter⟩
    · refine .left (congrArg Database.subscribers ?_)
      exact (Delivery.database_handle c v p body signature w).trans hsame
    · exact .arrived ⟨c, e⟩ ((Delivery.database_handle c v p body signature w).trans hafter)
  | process e => exact .arrived ⟨c, e⟩ (database_handle c e w)
  | checkout r => exact hends (Checkout.ends_create c r w)
  | externalCheckout user plan returnUrl product =>
    exact hends (Checkout.ends_createExternal c user plan returnUrl product w)
  | resume r plan u => exact .of_ends (Checkout.ends_proceed c r plan u w)
  | ensureCustomer u r country organizationId =>
    exact .ensured (u.ensures_ensureCustomer c r country organizationId w) rfl
  | portal id returnUrl => exact .of_still (Subscription.along_portal c id returnUrl)
  | cancel id => exact .of_still (Subscription.along_cancel c id)
  | status id => exact .of_still (Subscription.along_status c id)
  | history id limit => exact .of_still (Subscription.along_history c id limit)
  | record id f => exact .of_leaves (Meter.leaves_increment c _ 1)
  | check id f => exact .of_still (Meter.along_isBelowCap c id f)
  | consume id f => exact .of_leaves (Meter.leaves_consume c id f)
  | summarize id => exact .of_still (Meter.along_summary c id)
  | log n => exact .of_leaves (Service.leaves_commit AuditNote.subscribers_of_log)

end Operation

/-- An operation, the circumstances in which it is asked for, and what the other systems answer
meanwhile. -/
structure Step where
  context : Context
  operation : Operation
  replies : Endpoint → List Reply

namespace Step

/-- The world as a step finds it, with the answers still to come and no calls made yet. -/
def prepare (s : Step) (w : World) : World := { w with network := { replies := s.replies } }

def after (s : Step) (w : World) : World := s.operation.after s.context (s.prepare w)

/-- The world after a run of steps. -/
def run (steps : List Step) (w : World) : World := steps.foldl (fun w s => s.after w) w

@[simp] theorem run_nil (w : World) : run [] w = w := rfl

@[simp] theorem run_cons (s : Step) (rest : List Step) (w : World) :
    run (s :: rest) w = run rest (s.after w) := rfl

@[simp] theorem run_append (first rest : List Step) (w : World) :
    run (first ++ rest) w = run rest (run first w) := List.foldl_append

theorem moves (s : Step) (w : World) :
    s.operation.Moves s.context w.database (s.after w).database :=
  s.operation.moves s.context (s.prepare w)

/-- What all the steps of a run keep, the run keeps. -/
theorem run_induction {P : World → Prop} {steps : List Step}
    (step : ∀ s ∈ steps, ∀ w, P w → P (s.after w)) {w : World} (h : P w) : P (run steps w) := by
  induction steps generalizing w with
  | nil => exact h
  | cons s rest ih =>
    obtain ⟨hs, hrest⟩ := List.forall_mem_cons.mp step
    exact ih hrest (hs w h)

/-- No step breaks what the store keeps unique. -/
theorem consistent_after (s : Step) {w : World} (h : w.database.Consistent) :
    (s.after w).database.Consistent := by
  cases s.moves w with
  | own path => exact Database.kept_by_writes (fun hwrite hdb => hdb.write hwrite) path h
  | enrolled written => exact h.enrolled written
  | arrived brings settled =>
    rw [settled]
    exact h.arrived _

theorem consistent_run (steps : List Step) {w : World} (h : w.database.Consistent) :
    (run steps w).database.Consistent :=
  run_induction (P := fun w => w.database.Consistent) (fun s _ _ hw => s.consistent_after hw) h

end Step

/-- A record that differs from another one in the ids with the providers at most. -/
def Subscriber.IsReassigned (u v : Subscriber) : Prop :=
  ∃ stripe janua, v = { u with stripeCustomerId := stripe, januaCustomerId := janua }

theorem Subscriber.IsReassigned.refl (u : Subscriber) : u.IsReassigned u := ⟨_, _, rfl⟩

theorem Subscriber.IsReassigned.trans {u v x : Subscriber} (h : u.IsReassigned v)
    (h' : v.IsReassigned x) : u.IsReassigned x := by
  obtain ⟨_, _, rfl⟩ := h
  obtain ⟨stripe, janua, rfl⟩ := h'
  exact ⟨stripe, janua, rfl⟩

namespace Database

/-- What the service writes on its own changes no more of a record than its ids with the providers. -/
theorem Write.reassigns {db after : Database} {id : String} (h : Write id db after) {v : Subscriber}
    (hv : v ∈ after.subscribers) : ∃ u ∈ db.subscribers, u.IsReassigned v := by
  have hsame : after.subscribers = db.subscribers → ∃ u ∈ db.subscribers, u.IsReassigned v :=
    fun hsubscribers => ⟨v, hsubscribers ▸ hv, .refl v⟩
  cases h with
  | assigned p customerId written =>
    rcases Subscriber.assignCustomerId_cases written with ⟨-, rfl⟩ | ⟨-, u, hu, -, hreplace⟩
    · exact hsame rfl
    obtain ⟨-, rfl⟩ := replace_eq_ok.mp hreplace
    obtain ⟨x, hx, rfl⟩ := List.mem_map.mp hv
    split
    · exact ⟨u, mem_of_subscriber? hu, by cases p <;> exact ⟨_, _, rfl⟩⟩
    · exact ⟨x, hx, .refl x⟩
  | noted c n about written =>
    exact hsame (AuditNote.subscribers_of_log written)
  | counted k amount own written =>
    obtain rfl := congrArg Prod.snd (CounterKey.increment_eq_ok.mp written).2
    exact hsame (subscribers_increment db k amount)
  | countedBelow k cap own written =>
    obtain rfl := congrArg Prod.snd (CounterKey.incrementBelow_eq_ok.mp written).2
    exact hsame (subscribers_incrementBelow db k cap)

theorem reassigns_of_path {db after : Database}
    (path : Relation.ReflTransGen WriteForSome db after) {v : Subscriber}
    (hv : v ∈ after.subscribers) : ∃ u ∈ db.subscribers, u.IsReassigned v := by
  induction path generalizing v with
  | refl => exact ⟨v, hv, .refl v⟩
  | tail _ hwrite ih =>
    obtain ⟨_, hwrite⟩ := hwrite
    obtain ⟨x, hx, hxv⟩ := hwrite.reassigns hv
    obtain ⟨u, hu, hux⟩ := ih hx
    exact ⟨u, hu, hux.trans hxv⟩

end Database

namespace Step

/-- Where a record after a step comes from: from one that was there, whose ids with the providers may
have been filled in, from an enrolment, or from the record that an event has edited. -/
inductive Source (s : Step) (db : Database) (v : Subscriber) : Prop
  | kept {u : Subscriber} (mem : u ∈ db.subscribers) (same : u.IsReassigned v)
  | enrolled {id email : String} {name countryCode : Option String} {tier : Tier}
      (new : v = Subscriber.enrolled id email name countryCode tier)
  | edited {e : ProviderEvent} {u : Subscriber} (brings : s.operation.Brings s.context e)
      (settles : e.Settles s.context db u)
      (edit : v = (e.transitionAt s.context db u).edit.apply u)

theorem source_of_mem (s : Step) {w : World} (consistent : w.database.Consistent) {v : Subscriber}
    (hv : v ∈ (s.after w).database.subscribers) : s.Source w.database v := by
  have hkept : ∀ {u : Subscriber}, u ∈ w.database.subscribers → s.Source w.database u :=
    fun hu => .kept hu (.refl _)
  cases s.moves w with
  | own path =>
    obtain ⟨u, hu, same⟩ := Database.reassigns_of_path path hv
    exact .kept hu same
  | enrolled written =>
    obtain ⟨after, hadd, hpair⟩ := bind_eq_ok.mp written
    obtain ⟨-, hafter⟩ := Prod.mk.inj (pure_eq_ok.mp hpair)
    obtain ⟨-, rfl⟩ := Database.addSubscriber_eq_ok.mp hadd
    rw [hafter] at hv
    rcases List.mem_append.mp hv with hv | hv
    · exact hkept hv
    · exact .enrolled (List.mem_singleton.mp hv)
  | @arrived e brings settled =>
    rw [settled] at hv
    rcases (⟨s.context, e⟩ : Arrival).after_cases w.database with hsame | ⟨u, settles⟩
    · rw [hsame] at hv
      exact hkept hv
    rw [Arrival.subscribers_of_settles consistent settles] at hv
    obtain ⟨x, hx, rfl⟩ := List.mem_map.mp hv
    split
    · next hid =>
      have hu : u ∈ w.database.subscribers := ProviderEvent.mem_of_subject? settles.subject
      obtain rfl : x = u := consistent.eq_of_id_eq hx hu hid
      exact .edited brings settles rfl
    · exact hkept hx

/-- What holds of the records that a step can leave holds of all records after a run. -/
theorem run_records {P : Subscriber → Prop} {steps : List Step}
    (step : ∀ s ∈ steps, ∀ db : Database, db.Consistent → (∀ u ∈ db.subscribers, P u) →
      ∀ v, s.Source db v → P v) {start : World} (consistent : start.database.Consistent)
    (h : ∀ u ∈ start.database.subscribers, P u) :
    ∀ u ∈ (run steps start).database.subscribers, P u := by
  refine (run_induction (P := fun w : World => w.database.Consistent ∧
    ∀ u ∈ w.database.subscribers, P u) (fun s hs w hw => ?_) ⟨consistent, h⟩).2
  exact ⟨s.consistent_after hw.1, fun v hv =>
    step s hs w.database hw.1 hw.2 v (s.source_of_mem hw.1 hv)⟩

/-- The event that a step brings arrives in the store. -/
theorem database_of_brings {s : Step} {e : ProviderEvent} (brings : s.operation.Brings s.context e)
    (w : World) : (s.after w).database = (⟨s.context, e⟩ : Arrival).after w.database := by
  unfold after
  generalize s.operation = o at brings
  cases brings with
  | delivered verified event =>
    rw [Operation.after, Delivery.database_handle]
    exact Delivery.receive_of_event verified event w.database
  | handedIn => exact Operation.database_handle s.context e (s.prepare w)

/-- The event of a verified delivery arrives in the store, and without an event nothing does. -/
theorem database_of_verified {s : Step} {v : Signature.Verifier} {p : Provider}
    {body : List UInt8} {signature : Option String}
    (delivers : s.operation = .deliver v p body signature)
    (verified : v.verify s.context.now p body signature = .ok ()) (w : World) :
    (s.after w).database =
      (Delivery.event? s.context.settings p body).toOption.join.elim w.database fun e =>
        (⟨s.context, e⟩ : Arrival).after w.database := by
  rw [after, delivers, Operation.after, Delivery.database_handle]
  rcases Delivery.receive_arrives s.context v p body signature (s.prepare w).database with
    hsame | ⟨e, -, event, hafter⟩
  · cases hevent : Delivery.event? s.context.settings p body with
    | error f => exact hsame
    | ok found =>
      cases found with
      | none => exact hsame
      | some e => exact Delivery.receive_of_event verified hevent w.database
  · rw [hafter, event]
    rfl

/-- The signature of a provider on a text, under the secrets of a verifier and at the time zero. -/
def signatureOf (v : Signature.Verifier) (p : Provider) (text : String) : String :=
  match p with
  | .stripe =>
    Signature.stripeHeader "0"
      (Hmac.sign v.stripeSecret (Hmac.bytesOf (Signature.signedText 0 text)))
  | .janua => Hmac.sign v.januaSecret (Delivery.asciiBytes text)

theorem verify_signatureOf {v : Signature.Verifier} {text : String}
    (stripe : v.stripeSecret.toList.all Text.isAsciiSpace = false) (janua : v.januaSecret ≠ "")
    (tolerant : v.tolerance = 0) (ascii : Signature.isAscii text.toList = true) (p : Provider) :
    v.verify 0 p (Delivery.asciiBytes text) (some (signatureOf v p text)) = .ok () := by
  have hascii : ∀ x ∈ text.toList, x.toNat < 128 := by simpa [Signature.isAscii] using ascii
  have hreads : Text.whole? "0" = some 0 := by decide
  have hplain : ∀ x ∈ "0".toList, Signature.isHeaderSeparator x = false := by
    intro x hx
    obtain rfl : x = '0' := by simpa using hx
    rfl
  cases p with
  | stripe =>
    rw [Signature.Verifier.verify, signatureOf]
    exact Signature.verifyStripe_sign stripe (Delivery.fromUTF8?_asciiBytes hascii) hreads hplain
      (.inl tolerant)
  | janua => exact Signature.verifyJanua_sign janua _

/-- The delivery of a text in ASCII, signed under the secret `k`. -/
def signed (p : Provider) (text : String) : Step where
  context := { settings := {}, now := 0 }
  operation := .deliver ⟨"k", "k", 0⟩ p (Delivery.asciiBytes text)
    (some (signatureOf ⟨"k", "k", 0⟩ p text))
  replies _ := []

theorem database_signed (p : Provider) {text : String}
    (ascii : Signature.isAscii text.toList = true) (w : World) :
    ((signed p text).after w).database =
      (Delivery.event? {} p (Delivery.asciiBytes text)).toOption.join.elim w.database fun e =>
        (⟨{ settings := {}, now := 0 }, e⟩ : Arrival).after w.database := by
  let v : Signature.Verifier := ⟨"k", "k", 0⟩
  have hverified := verify_signatureOf (v := v) (by decide) (by decide) rfl ascii p
  exact database_of_verified (s := signed p text) rfl hverified w

end Step
end SubscriptionBilling
