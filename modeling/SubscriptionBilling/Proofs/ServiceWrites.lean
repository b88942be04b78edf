import Mathlib.Logic.Relation
import SubscriptionBilling.Http.Bearer
import SubscriptionBilling.Proofs.Reachability
import SubscriptionBilling.Usage.Meter

/-! What the service writes apart from deliveries. Checkouts assign ids and log notes, the meter
counts, and nothing else is written; calls to other systems leave the store alone. -/
namespace SubscriptionBilling

namespace Database

/-- A write that the service makes for one subscriber. -/
inductive Write (id : String) : Database → Database → Prop
  | assigned {db after : Database} {done : Bool} (p : Provider) (customerId : Option String)
      (written : Subscriber.assignCustomerId id p customerId db = .ok (done, after)) :
      Write id db after
  | noted {db after : Database} {entry : AuditEntry} (c : Context) (n : AuditNote)
      (about : n.subscriberId = id) (written : n.log c db = .ok (entry, after)) : Write id db after
  | counted {db after : Database} {count : Int} (k : CounterKey) (amount : Int)
      (own : k.subscriberId = id) (written : k.increment amount db = .ok (count, after)) :
      Write id db after
  | countedBelow {db after : Database} {count : Option Int} (k : CounterKey) (cap : Int)
      (own : k.subscriberId = id) (written : k.incrementBelow cap db = .ok (count, after)) :
      Write id db after

theorem Reachable.write {db after : Database} {id : String} (h : db.Reachable)
    (hw : Write id db after) : after.Reachable := by
  cases hw with
  | assigned p customerId written => exact h.assigned id p customerId written
  | noted c n about written => exact h.noted c n written
  | counted k amount own written => exact h.counted k amount written
  | countedBelow k cap own written => exact h.countedBelow k cap written

theorem Consistent.write {db after : Database} {id : String} (h : db.Consistent)
    (hw : Write id db after) : after.Consistent := by
  cases hw with
  | assigned p customerId written => exact h.assigned written
  | noted c n about written => exact h.noted written
  | counted k amount own written => exact h.counted written
  | countedBelow k cap own written => exact h.countedBelow written

/-- A write that the service makes for some subscriber. -/
def WriteForSome (db after : Database) : Prop := ∃ id, Write id db after

/-- What every write keeps, all of the service's own work keeps. -/
theorem kept_by_writes {P : Database → Prop} {db after : Database}
    (step : ∀ {id db after}, Write id db after → P db → P after)
    (path : Relation.ReflTransGen WriteForSome db after) (h : P db) : P after := by
  induction path with
  | refl => exact h
  | tail _ hwrite ih =>
    obtain ⟨_, hwrite⟩ := hwrite
    exact step hwrite ih

end Database

/-- What is made of an answer does not change the state. -/
theorem snd_bind_pure (x : ExceptT ε (StateM σ) α) (f : α → β) (s : σ) :
    ((x >>= fun a => pure (f a)) s).2 = (x s).2 := by
  change (ExceptT.bindCont (m := StateM σ) (fun a => pure (f a)) (x s).1 (x s).2).2 = (x s).2
  cases (x s).1 <;> rfl

section Work
variable {x : ExceptT ε (StateM σ) α} {f : α → ExceptT ε (StateM σ) β} {s after : σ}

/-- Work goes on with what it has come to. -/
theorem bind_of_ok {a : α} (h : x s = (.ok a, after)) : (x >>= f) s = f a after := by
  change ExceptT.bindCont (m := StateM σ) f (x s).1 (x s).2 = f a after
  rw [h]
  rfl

/-- Work ends where it fails. -/
theorem bind_of_error {e : ε} (h : x s = (.error e, after)) : (x >>= f) s = (.error e, after) := by
  change ExceptT.bindCont (m := StateM σ) f (x s).1 (x s).2 = (.error e, after)
  rw [h]
  rfl

/-- Work in two halves that succeeds has succeeded in both. -/
theorem ok_of_bind {b : β} (h : (x >>= f) s = (.ok b, after)) :
    ∃ a mid, x s = (.ok a, mid) ∧ f a mid = (.ok b, after) := by
  rcases hx : x s with ⟨_ | a, mid⟩
  · cases (bind_of_error hx).symm.trans h
  · exact ⟨a, mid, rfl, (bind_of_ok hx).symm.trans h⟩

/-- Work that could have been refused and succeeds was not. -/
theorem ok_of_refuse {p : Prop} [Decidable p] {e : ε} {g : PUnit → ExceptT ε (StateM σ) β} {b : β}
    (h : (if p then MonadExcept.throw e >>= g else g ()) s = (.ok b, after)) :
    ¬p ∧ g () s = (.ok b, after) := by
  by_cases hp : p
  · rw [if_pos hp] at h
    cases h
  · rw [if_neg hp] at h
    exact ⟨hp, h⟩

theorem ok_of_lift {r : Except ε α} {a : α}
    (h : (liftM r : ExceptT ε (StateM σ) α) s = (.ok a, after)) : r = .ok a ∧ after = s := by
  cases r <;> cases h
  exact ⟨rfl, rfl⟩

theorem ok_of_lift_bind {r : Except ε α} {b : β} (h : (liftM r >>= f) s = (.ok b, after)) :
    ∃ a, r = .ok a ∧ f a s = (.ok b, after) := by
  obtain ⟨a, mid, hlift, hrest⟩ := ok_of_bind h
  obtain ⟨hr, rfl⟩ := ok_of_lift hlift
  exact ⟨a, hr, hrest⟩

end Work

/-- Work that takes a part of its state, such as the store, along steps of a kind, also when it fails.
Work that does so for every kind of step leaves that part alone. -/
def Along {τ : Type} (S : τ → τ → Prop) (store : σ → τ) (x : ExceptT ε (StateM σ) α) : Prop :=
  ∀ s, Relation.ReflTransGen S (store s) (store (x s).2)

namespace Along
variable {τ : Type} {S : τ → τ → Prop} {store : σ → τ} {x : ExceptT ε (StateM σ) α}

theorem pure (a : α) : Along S store (Pure.pure a : ExceptT ε (StateM σ) α) := fun _ => .refl

theorem throw (e : ε) : Along S store (MonadExcept.throw e : ExceptT ε (StateM σ) α) :=
  fun _ => .refl

theorem lift (r : Except ε α) : Along S store (liftM r : ExceptT ε (StateM σ) α) :=
  fun _ => .refl

theorem bind {f : α → ExceptT ε (StateM σ) β} (hx : Along S store x)
    (hf : ∀ a, Along S store (f a)) : Along S store (x >>= f) := by
  intro s
  have hfirst := hx s
  change Relation.ReflTransGen S (store s) (store (ExceptT.bindCont f (x s).1 (x s).2).2)
  cases (x s).1 with
  | error e => exact hfirst
  | ok a => exact hfirst.trans (hf a _)

theorem ite {p : Prop} [Decidable p] {y : ExceptT ε (StateM σ) α} (hx : p → Along S store x)
    (hy : ¬p → Along S store y) : Along S store (if p then x else y) := by
  by_cases h : p
  · rw [if_pos h]
    exact hx h
  · rw [if_neg h]
    exact hy h

/-- A condition on which work is refused. -/
theorem refuse {p : Prop} [Decidable p] {e : ε} {f : PUnit → ExceptT ε (StateM σ) α}
    (hf : ∀ u, Along S store (f u)) :
    Along S store (if p then MonadExcept.throw e >>= f else f ()) :=
  ite (fun _ => (throw e).bind hf) fun _ => hf ()

/-- Steps of a kind are steps of every wider kind. -/
theorem mono {T : τ → τ → Prop} (hx : Along S store x)
    (h : ∀ {before after}, S before after → T before after) : Along T store x :=
  fun s => Relation.ReflTransGen.mono (fun _ _ => h) _ _ (hx s)

theorem reaches {s after : σ} {result : Except ε α} (hx : Along S store x)
    (h : x s = (result, after)) : Relation.ReflTransGen S (store s) (store after) := by
  have hpath := hx s
  rwa [h] at hpath

end Along

namespace Service
variable {S : Database → Database → Prop} {c : Context}

/-- A transaction fails and changes nothing, or it goes through and is kept. -/
theorem commit_cases (c : Context) (t : Transaction α) (w : World) :
    (∃ f, commit c t w = (.error f, w)) ∨
      ∃ a after, t w.database = .ok (a, after) ∧
        commit c t w = (.ok a, { w with database := after }) := by
  unfold commit
  cases c.strike .session with
  | error f => exact .inl ⟨f, rfl⟩
  | ok _ =>
    simp only [Transaction.attempt]
    cases t w.database with
    | error f => exact .inl ⟨f, rfl⟩
    | ok r => exact .inr ⟨r.1, r.2, rfl, rfl⟩

/-- A read fails or answers from the store as it is, and nothing else is done. -/
theorem read_cases (c : Context) (f : Database → α) (w : World) :
    (∃ g, read c f w = (.error g, w)) ∨ read c f w = (.ok (f w.database), w) := by
  rcases commit_cases c (Transaction.query f) w with hfailed | ⟨a, after, hquery, hcommit⟩
  · exact .inl hfailed
  · cases hquery
    exact .inr hcommit

theorem ok_of_commit {t : Transaction α} {a : α} {w after : World}
    (h : commit c t w = (.ok a, after)) :
    ∃ db, t w.database = .ok (a, db) ∧ after = { w with database := db } := by
  rcases commit_cases c t w with ⟨f, hcommit⟩ | ⟨b, db, hok, hcommit⟩
  · cases hcommit.symm.trans h
  · cases hcommit.symm.trans h
    exact ⟨db, hok, rfl⟩

theorem ok_of_read {f : Database → α} {a : α} {w after : World}
    (h : read c f w = (.ok a, after)) :
    a = f w.database ∧ after = w := by
  obtain ⟨db, hquery, rfl⟩ := ok_of_commit h
  cases hquery
  exact ⟨rfl, rfl⟩

theorem along_commit {t : Transaction α}
    (h : ∀ {db a after}, t db = .ok (a, after) → Relation.ReflTransGen S db after) :
    Along S World.database (commit c t) := by
  intro w
  rcases commit_cases c t w with ⟨f, hcommit⟩ | ⟨a, after, hok, hcommit⟩
  · rw [hcommit]
  · rw [hcommit]
    exact h hok

theorem along_read (f : Database → α) : Along S World.database (read c f) :=
  along_commit fun h => by cases h; exact .refl

theorem along_online (x : Online α) : Along S World.database (online x) := fun _ => .refl

/-- Work whose failure is let go has written all the same. -/
theorem along_besides {x : Service Unit} (hx : Along S World.database x) :
    Along S World.database (besides x) := fun w => hx w

end Service

open Service

namespace Http

theorem along_fetchKeySet {S : Database → Database → Prop} (v : Token.Verifier) :
    Along S World.database (fetchKeySet v) := by
  unfold fetchKeySet
  refine (along_online _).bind fun reply => ?_
  split
  · exact fun w => .refl
  · exact .pure _

/-- Telling who a request comes from writes nothing. -/
theorem along_subscriberId {S : Database → Database → Prop} (c : Context) (r : Request) :
    Along S World.database (subscriberId c r) := by
  unfold subscriberId
  refine (Along.lift _).bind fun token => ?_
  extract_lets v
  refine Along.bind (fun _ => .refl) fun kept => ?_
  refine Along.bind (fun _ => .refl) fun offered => ?_
  extract_lets verification verdict
  have hverdict : ∀ u, Along S World.database (verdict u) := by
    intro u
    simp only [verdict]
    split
    · exact .lift _
    · exact .throw _
  exact .ite (fun _ => (along_fetchKeySet v).bind hverdict) fun _ => hverdict ()

end Http

namespace Subscription
variable {S : Database → Database → Prop} (c : Context) (id : String)

theorem along_require : Along S World.database (require c id) := by
  unfold require
  refine (along_read _).bind fun u => ?_
  split
  · exact .pure _
  · exact .throw _

theorem along_status : Along S World.database (status c id) :=
  (along_require c id).bind fun _ => .pure _

theorem along_history (limit : Int) : Along S World.database (history c id limit) := by
  refine along_commit fun {db a after} h => ?_
  obtain ⟨_, -, h⟩ := bind_eq_ok.mp h
  cases h
  exact .refl

theorem along_portal (returnUrl : Option String) :
    Along S World.database (portal c id returnUrl) := by
  unfold portal
  extract_lets lead
  have hlead : ∀ u, Along S World.database (lead u) := by
    intro _
    refine (along_require c id).bind fun u => ?_
    extract_lets p
    split
    · exact along_online _
    · exact .throw _
  split
  · exact (Along.lift _).bind fun _ => .refuse hlead
  · exact hlead ()

theorem along_cancel : Along S World.database (cancel c id) := by
  unfold cancel
  refine (along_require c id).bind fun u => ?_
  split
  · exact (along_online _).bind fun _ => .pure _
  · exact .throw _

end Subscription

namespace Subscriber

/-- A customer is made for the subscriber alone. -/
theorem along_ensureCustomer (c : Context) (u : Subscriber) (r : Route) (country : String)
    (organizationId : Option String) :
    Along (Database.Write u.id) World.database (u.ensureCustomer c r country organizationId) := by
  unfold ensureCustomer
  split
  · exact .pure _
  refine (along_online _).bind fun id => ?_
  have hkeep : Along (Database.Write u.id) World.database
      (commit c (keepCustomerId u.id r.provider id)) := by
    refine along_commit fun {db done after} h => ?_
    obtain ⟨customerId, -, h⟩ := bind_eq_ok.mp h
    exact .single (.assigned r.provider customerId h)
  refine hkeep.bind fun kept => .ite (fun _ => .pure _) fun _ => ?_
  refine (along_read _).bind fun current => ?_
  split <;> exact .pure _

end Subscriber

namespace Checkout
variable (c : Context) (r : CheckoutRequest) (plan : Plan) (u : Subscriber)

/-- The session of a checkout whose customer is known, and the note that it was made. -/
def sell (product : Product) (route : Route) (o : CheckoutOrder) : Service CheckoutResult := do
  let session ← Service.online (Payment.createCheckout c.settings route.provider o)
  Service.besides (Service.commit c do
    let _ ← (note r plan product route session.id).log c)
  return ⟨session.url, route.label, session.id⟩

/-- The rest of a checkout for a record of its subscriber, which may have been read a while ago. -/
def proceed : Service CheckoutResult := do
  if plan.tier ≤ u.tier then throw (.billing (.alreadyAtOrAboveTier u.tier plan.tier))
  let router := Router.ofSettings c.settings
  let product := r.product.getD plan.product
  let country := router.normalizeCountry
    ((r.country.filter fun t => !t.isEmpty).or u.countryCode)
  let route := router.route (some country) product
  let customer ← u.ensureCustomer c route country r.organizationId
  sell c r plan product route (order c r u plan product route country customer)

/-- A checkout proceeds with the plan and the record of its subscriber that it finds. -/
theorem create_of_read {w : World} (bought : Plan.ofSlug? (textOr r.plan Plan.defaultSlug) = some plan)
    (found : Service.read c (fun db => db.subscriber? r.subscriberId) w = (.ok (some u), w)) :
    create c r w = proceed c r plan u w := by
  rw [create]
  dsimp only
  rw [bought]
  dsimp only
  rw [bind_of_ok found]
  simp only [proceed, sell]

/-- Otherwise it is refused, for a plan or a subscriber that is not there or for a store that cannot be
read. -/
theorem create_begins (w : World) :
    (∃ f, create c r w = (.error f, w) ∧
      (f = .billing (.unknownPlan (textOr r.plan Plan.defaultSlug)) ∨
        f = .billing (.subscriberNotFound r.subscriberId) ∨
        Service.read c (fun db => db.subscriber? r.subscriberId) w = (.error f, w))) ∨
      ∃ plan u, Plan.ofSlug? (textOr r.plan Plan.defaultSlug) = some plan ∧
        Service.read c (fun db => db.subscriber? r.subscriberId) w = (.ok (some u), w) ∧
        create c r w = proceed c r plan u w := by
  cases bought : Plan.ofSlug? (textOr r.plan Plan.defaultSlug) with
  | none =>
    refine .inl ⟨_, ?_, .inl rfl⟩
    rw [create]
    dsimp only
    rw [bought]
    rfl
  | some plan =>
    rcases Service.read_cases c (fun db => db.subscriber? r.subscriberId) w with ⟨f, hread⟩ | hread
    · refine .inl ⟨f, ?_, .inr (.inr hread)⟩
      rw [create]
      dsimp only
      rw [bought]
      exact bind_of_error hread
    cases found : w.database.subscriber? r.subscriberId with
    | none =>
      rw [found] at hread
      refine .inl ⟨_, ?_, .inr (.inl rfl)⟩
      rw [create]
      dsimp only
      rw [bought]
      exact bind_of_ok hread
    | some u =>
      rw [found] at hread
      exact .inr ⟨plan, u, rfl, hread, create_of_read c r plan u bought hread⟩

/-- A checkout is refused, or it proceeds with the plan and the record of its subscriber that it
finds. -/
theorem create_cases (w : World) :
    (∃ f, create c r w = (.error f, w)) ∨
      ∃ plan u, Plan.ofSlug? (textOr r.plan Plan.defaultSlug) = some plan ∧
        w.database.subscriber? r.subscriberId = some u ∧ create c r w = proceed c r plan u w := by
  rcases create_begins c r w with ⟨f, hrefused, -⟩ | ⟨plan, u, bought, hread, hproceed⟩
  · exact .inl ⟨f, hrefused⟩
  · exact .inr ⟨plan, u, bought, (Service.ok_of_read hread).1.symm, hproceed⟩

/-- A checkout for another product's user is refused for its return URL, or it is a checkout. -/
theorem createExternal_cases (user : String) (plan returnUrl : Option String)
    (product : Option Product) (w : World) :
    (∃ f, createExternal c user plan returnUrl product w = (.error f, w)) ∨
      createExternal c user plan returnUrl product w = create c
        { subscriberId := user
          plan := plan
          product := product
          returnUrls := ⟨returnUrl, returnUrl⟩
          extraMetadata := [("janua_user_id", .string user), ("source", .string "external")] } w := by
  unfold createExternal
  cases trusts c.settings returnUrl with
  | error f => exact .inl ⟨f, rfl⟩
  | ok trusted =>
    have hread : (liftM (.ok trusted : Except Failure Bool) : Service Bool) w = (.ok trusted, w) := rfl
    rw [bind_of_ok hread]
    cases trusted with
    | false => exact .inl ⟨_, rfl⟩
    | true =>
      rw [if_neg (by decide)]
      exact .inr rfl

theorem along_sell (product : Product) (route : Route) (o : CheckoutOrder) :
    Along (Database.Write r.subscriberId) World.database (sell c r plan product route o) := by
  unfold sell
  refine (along_online _).bind fun session => ?_
  refine Along.bind (along_besides (along_commit fun {db _ after} h => ?_)) fun _ => .pure _
  obtain ⟨entry, _, hlog, h⟩ := Transaction.bind_eq_ok.mp h
  cases h
  exact .single (.noted c _ rfl hlog)

/-- The rest of a checkout writes for its own subscriber and for the one of the record. -/
theorem along_proceed {S : Database → Database → Prop}
    (own : ∀ {db after}, Database.Write r.subscriberId db after → S db after)
    (held : ∀ {db after}, Database.Write u.id db after → S db after) :
    Along S World.database (proceed c r plan u) := by
  unfold proceed
  refine .refuse fun _ => ?_
  refine ((Subscriber.along_ensureCustomer c u _ _ _).mono held).bind fun customer => ?_
  exact (along_sell c r plan _ _ _).mono own

/-- A checkout writes for the subscriber that it is made for. -/
theorem along_create {r : CheckoutRequest} {id : String} (own : r.subscriberId = id) :
    Along (Database.Write id) World.database (create c r) := by
  subst own
  intro w
  rcases create_cases c r w with ⟨f, hrefused⟩ | ⟨plan, u, -, hu, hproceed⟩
  · rw [hrefused]
  · have hid : u.id = r.subscriberId := Database.id_of_subscriber? hu
    rw [hproceed]
    exact along_proceed c r plan u id (fun h => hid ▸ h) w

theorem along_createExternal (user : String) (plan returnUrl : Option String)
    (product : Option Product) :
    Along (Database.Write user) World.database (createExternal c user plan returnUrl product) := by
  unfold createExternal
  exact (Along.lift _).bind fun _ => .refuse fun _ => along_create c rfl

end Checkout

namespace Meter
variable {S : Database → Database → Prop} (c : Context) (id : String) (f : Feature)

theorem along_tierOf : Along S World.database (tierOf c id) :=
  (Subscription.along_require c id).bind fun _ => .pure _

theorem along_increment (amount : Int) :
    Along (Database.Write id) World.database
      (commit c (CounterKey.increment ⟨id, f, today c⟩ amount)) :=
  along_commit fun h => .single (.counted _ amount rfl h)

theorem along_record : Along (Database.Write id) World.database (record c id f) :=
  along_increment c id f 1

/-- Checking writes nothing. -/
theorem along_isBelowCap : Along S World.database (isBelowCap c id f) := by
  unfold isBelowCap
  refine (along_tierOf c id).bind fun tier => ?_
  split
  · exact .pure _
  · exact .ite (fun _ => .pure _) fun _ => (along_read _).bind fun _ => .pure _

theorem along_takeBelow (cap : Int) :
    Along (Database.Write id) World.database (takeBelow c ⟨id, f, today c⟩ cap) :=
  .ite (fun _ => .pure _) fun _ => along_commit fun h => .single (.countedBelow _ cap rfl h)

theorem along_consume : Along (Database.Write id) World.database (consume c id f) := by
  unfold consume
  extract_lets key
  refine (along_tierOf c id).bind fun tier => ?_
  split
  · exact (along_increment c id f 1).bind fun _ => .pure _
  · refine (along_takeBelow c id f _).bind fun taken => ?_
    split
    · exact .pure _
    · exact (along_read _).bind fun _ => .pure _

theorem along_summary : Along S World.database (summary c id) :=
  (along_tierOf c id).bind fun _ => (along_read _).bind fun _ => .pure _

end Meter
end SubscriptionBilling
