import SubscriptionBilling.Proofs.Counters
import SubscriptionBilling.Proofs.Operations

/-! Usage is accounted for exactly. A step adds one to the counter of the use that it makes, if it makes
one, and nothing else that the service does touches a counter. So a counter stands at the number of
uses that a run has made of it. -/
namespace SubscriptionBilling

/-- The counters in the store. -/
def World.usage (w : World) : List UsageCounter := w.database.usage

namespace Service
variable {S : List UsageCounter → List UsageCounter → Prop} {c : Context}

/-- A transaction that leaves the counters alone. -/
theorem spares_commit {t : Transaction α}
    (h : ∀ {db a after}, t db = .ok (a, after) → after.usage = db.usage) :
    Along S World.usage (commit c t) := along_commit_of_same Database.usage h

/-- Work that leaves the store alone leaves the counters alone. -/
theorem spares_of_still {x : Service α} (hx : Along (fun _ _ => False) World.database x) :
    Along S World.usage x := along_of_still Database.usage hx

theorem spares_besides {x : Service Unit} (hx : Along S World.usage x) :
    Along S World.usage (besides x) := fun w => hx w

end Service

open Service

theorem AuditNote.usage_of_log {c : Context} {n : AuditNote} {db after : Database}
    {entry : AuditEntry} (h : n.log c db = .ok (entry, after)) : after.usage = db.usage := by
  obtain ⟨-, hr⟩ := AuditNote.log_eq_ok.mp h
  rw [(Prod.mk.inj hr).2]

namespace Subscriber

theorem usage_of_add {u : Subscriber} {db after : Database} (h : u.add db = .ok ((), after)) :
    after.usage = db.usage := by
  obtain ⟨added, hadd, hpair⟩ := bind_eq_ok.mp h
  obtain ⟨-, rfl⟩ := Prod.mk.inj (pure_eq_ok.mp hpair)
  obtain ⟨-, rfl⟩ := Database.addSubscriber_eq_ok.mp hadd
  rfl

theorem usage_of_keepCustomerId {id : String} {p : Provider} {given : Json} {db after : Database}
    {done : Bool} (h : keepCustomerId id p given db = .ok (done, after)) :
    after.usage = db.usage := by
  obtain ⟨_, -, hassign⟩ := bind_eq_ok.mp h
  rcases assignCustomerId_cases hassign with ⟨-, rfl⟩ | ⟨-, u, -, -, hreplace⟩
  · rfl
  · obtain ⟨-, rfl⟩ := Database.replace_eq_ok.mp hreplace
    rfl

theorem spares_ensureCustomer {S : List UsageCounter → List UsageCounter → Prop} (c : Context)
    (u : Subscriber) (r : Route) (country : String) (organizationId : Option String) :
    Along S World.usage (u.ensureCustomer c r country organizationId) := by
  unfold ensureCustomer
  split
  · exact .pure _
  refine (spares_of_still (along_online _)).bind fun id => ?_
  refine (spares_commit usage_of_keepCustomerId).bind fun kept => .ite (fun _ => .pure _) fun _ => ?_
  refine (spares_of_still (along_read _)).bind fun current => ?_
  split <;> exact .pure _

end Subscriber

namespace Checkout
variable {S : List UsageCounter → List UsageCounter → Prop} (c : Context) (r : CheckoutRequest)
  (plan : Plan) (u : Subscriber)

theorem spares_sell (product : Product) (route : Route) (o : CheckoutOrder) :
    Along S World.usage (sell c r plan product route o) := by
  unfold sell
  refine (spares_of_still (along_online _)).bind fun session => ?_
  refine Along.bind (spares_besides (spares_commit fun {db _ after} h => ?_)) fun _ => .pure _
  obtain ⟨entry, _, hlog, h⟩ := Transaction.bind_eq_ok.mp h
  cases h
  exact AuditNote.usage_of_log hlog

theorem spares_proceed : Along S World.usage (proceed c r plan u) := by
  unfold proceed
  refine .refuse fun _ => ?_
  exact (Subscriber.spares_ensureCustomer c u _ _ _).bind fun customer => spares_sell c r plan _ _ _

theorem spares_create : Along S World.usage (create c r) := by
  intro w
  rcases create_cases c r w with ⟨f, hrefused⟩ | ⟨plan, u, -, -, hproceed⟩
  · rw [hrefused]
  · rw [hproceed]
    exact spares_proceed c r plan u w

theorem spares_createExternal (user : String) (plan returnUrl : Option String)
    (product : Option Product) :
    Along S World.usage (createExternal c user plan returnUrl product) := by
  unfold createExternal
  exact (Along.lift _).bind fun _ => .refuse fun _ => spares_create c _

end Checkout

/-- Events leave the counters alone. -/
theorem Arrival.usage_after (a : Arrival) (db : Database) : (a.after db).usage = db.usage := by
  rcases a.after_cases db with hsame | ⟨u, hs⟩
  · rw [hsame]
  · rw [after_of_settles hs]
    rfl

/-- Whether an attempt to use a feature is allowed. -/
def Meter.allows (c : Context) (id : String) (f : Feature) (w : World) : Bool :=
  match (consume c id f w).1 with
  | .ok answer => answer.allowed
  | .error _ => false

theorem Meter.usage_consume {c : Context} (opened : c.strike .session = .ok ()) (id : String)
    (f : Feature) (w : World) :
    (consume c id f w).2.usage =
      if allows c id f w then (w.database.increment (keyOf c id f) 1).2.usage else w.usage := by
  unfold allows
  cases hu : w.database.subscriber? id with
  | none =>
    rw [consume_of_none opened hu]
    rfl
  | some u =>
    rw [consume_of_some opened hu]
    dsimp only
    split <;> rfl

namespace Operation

/-- The counter that an operation counts a use on: always when it records one, and when it attempts one
and is allowed to. -/
def use? (c : Context) (o : Operation) (w : World) : Option CounterKey :=
  match o with
  | record id f => some (Meter.keyOf c id f)
  | consume id f => if Meter.allows c id f w then some (Meter.keyOf c id f) else none
  | _ => none

/-- The counters after an operation are those after the one use that it makes, or the same. -/
theorem usage_after {c : Context} (opened : c.strike .session = .ok ()) (o : Operation) (w : World) :
    (o.after c w).usage =
      match o.use? c w with
      | some k => (w.database.increment k 1).2.usage
      | none => w.usage := by
  have hspared : ∀ {α : Type} {x : Service α}, Along (fun _ _ => False) World.usage x →
      (x w).2.usage = w.usage := fun hx => eq_of_no_step (hx w)
  have hstill : ∀ {α : Type} {x : Service α}, Along (fun _ _ => False) World.database x →
      (x w).2.usage = w.usage := fun hx => hspared (spares_of_still hx)
  have harrived : ∀ {a : Arrival} {after : World}, after.database = a.after w.database →
      after.usage = w.usage := fun h => (congrArg Database.usage h).trans (Arrival.usage_after _ _)
  cases o with
  | record id f =>
    rw [after, Meter.record_of_opened opened]
    rfl
  | consume id f =>
    rw [after, Meter.usage_consume opened, use?]
    split <;> rfl
  | enroll id email name countryCode tier => exact hspared (spares_commit Subscriber.usage_of_add)
  | deliver v p body signature =>
    rcases Delivery.receive_arrives c v p body signature w.database with
      hsame | ⟨e, -, -, hafter⟩
    · exact congrArg Database.usage ((Delivery.database_handle c v p body signature w).trans hsame)
    · exact harrived ((Delivery.database_handle c v p body signature w).trans hafter)
  | process e => exact harrived (database_handle c e w)
  | checkout r => exact hspared (Checkout.spares_create c r)
  | externalCheckout user plan returnUrl product =>
    exact hspared (Checkout.spares_createExternal c user plan returnUrl product)
  | resume r plan u => exact hspared (Checkout.spares_proceed c r plan u)
  | ensureCustomer u r country organizationId =>
    exact hspared (Subscriber.spares_ensureCustomer c u r country organizationId)
  | portal id returnUrl => exact hstill (Subscription.along_portal c id returnUrl)
  | cancel id => exact hstill (Subscription.along_cancel c id)
  | status id => exact hstill (Subscription.along_status c id)
  | history id limit => exact hstill (Subscription.along_history c id limit)
  | check id f => exact hstill (Meter.along_isBelowCap c id f)
  | summarize id => exact hstill (Meter.along_summary c id)
  | log n => exact hspared (spares_commit AuditNote.usage_of_log)

end Operation

namespace Step

/-- The counter that a step counts a use on. -/
def use? (s : Step) (w : World) : Option CounterKey := s.operation.use? s.context (s.prepare w)

/-- The steps of a run, each with the world that it finds. -/
def trace : List Step → World → List (Step × World)
  | [], _ => []
  | s :: rest, w => (s, w) :: trace rest (s.after w)

theorem mem_of_mem_trace {steps : List Step} {w : World} {step : Step × World}
    (h : step ∈ trace steps w) : step.1 ∈ steps := by
  induction steps generalizing w with
  | nil => cases h
  | cons s rest ih =>
    rcases List.mem_cons.mp h with rfl | h
    · exact List.mem_cons_self
    · exact List.mem_cons_of_mem s (ih h)

/-- How often a run uses a counter. -/
def uses (k : CounterKey) (steps : List Step) (w : World) : Nat :=
  (trace steps w).countP fun step => step.1.use? step.2 = some k

section Counts
variable {k : CounterKey} {s : Step} {w : World}

/-- A step leaves every counter alone that it makes no use of. -/
theorem counters_after_of_ne (opened : s.context.strike .session = .ok ())
    (h : s.use? w ≠ some k) : (s.after w).database.counters k = w.database.counters k := by
  have husage : (s.after w).database.usage = _ := Operation.usage_after opened s.operation (s.prepare w)
  unfold Database.counters
  rw [husage]
  cases hk : s.operation.use? s.context (s.prepare w) with
  | none => rfl
  | some used =>
    have hne : k ≠ used := fun hkey => h (hkey ▸ hk)
    exact Database.counters_increment_of_ne hne 1

theorem standsAt_after (opened : s.context.strike .session = .ok ()) {n : Nat}
    (h : w.database.StandsAt k n) :
    (s.after w).database.StandsAt k (n + if s.use? w = some k then 1 else 0) := by
  by_cases hk : s.use? w = some k
  · have husage : (s.after w).database.usage = _ :=
      Operation.usage_after opened s.operation (s.prepare w)
    rw [show s.operation.use? s.context (s.prepare w) = some k from hk] at husage
    rw [if_pos hk]
    exact (Database.StandsAt.increment h).congr (by rw [Database.counters, husage]; rfl)
  · rw [if_neg hk]
    exact h.congr (counters_after_of_ne opened hk)

theorem standsAt_run {steps : List Step} (opened : ∀ s ∈ steps, s.context.strike .session = .ok ())
    {n : Nat} (h : w.database.StandsAt k n) :
    (run steps w).database.StandsAt k (n + uses k steps w) := by
  induction steps generalizing w n with
  | nil => exact h
  | cons s rest ih =>
    obtain ⟨hs, hrest⟩ := List.forall_mem_cons.mp opened
    have hstep := ih hrest (standsAt_after hs h)
    rw [uses, trace, List.countP_cons, run_cons]
    convert hstep using 1
    simp only [uses, decide_eq_true_eq]
    omega

end Counts

/-- Without failures of the store a run from empty counters leaves each one in one row at most, which
stands at the number of uses that the run has made of it: those that were recorded and the attempts
that were allowed, by that subscriber, of that feature, on that day. A step leaves every other counter
alone. -/
theorem usage_is_exact {steps : List Step}
    (opened : ∀ s ∈ steps, s.context.strike .session = .ok ()) {start : World}
    (empty : start.database.usage = []) (k : CounterKey) :
    (run steps start).database.StandsAt k (uses k steps start) ∧
      ∀ step ∈ trace steps start, step.1.use? step.2 ≠ some k →
        (step.1.after step.2).database.counters k = step.2.database.counters k := by
  refine ⟨?_, fun step hstep => counters_after_of_ne (opened _ (mem_of_mem_trace hstep))⟩
  have hstart : start.database.StandsAt k 0 := .of_empty empty
  simpa using standsAt_run opened hstart

/-- An operation at a time, with nothing to disturb it. -/
def undisturbed (now : Int) (o : Operation) : Step where
  context := { settings := {}, now := now }
  operation := o
  replies _ := []

/-- Uses up to the cap of the base tier and over it, and once more on the next day. -/
def simulating : List Step :=
  [undisturbed 0 (.enroll "user" "mail" none none .community),
    undisturbed 0 (.record "user" .monteCarloSimulation),
    undisturbed 1 (.consume "user" .monteCarloSimulation),
    undisturbed 2 (.consume "user" .monteCarloSimulation),
    undisturbed 3 (.record "user" .monteCarloSimulation),
    undisturbed 86400 (.consume "user" .monteCarloSimulation)]

/-- Of four calls on the first day one is refused, and the next day has a counter of its own. -/
theorem usage_is_exact_over_cap :
    let first : CounterKey := ⟨"user", .monteCarloSimulation, ⟨1970, 1, 1⟩⟩
    let second : CounterKey := ⟨"user", .monteCarloSimulation, ⟨1970, 1, 2⟩⟩
    (∀ s ∈ simulating, s.context.strike .session = .ok ()) ∧
      (run simulating {}).database.StandsAt first 3 ∧
      (run simulating {}).database.StandsAt second 1 := by
  intro first second
  have opened : ∀ s ∈ simulating, s.context.strike .session = .ok () := by
    intro s hs
    refine strike_of_undisturbed ?_ .session
    simp only [simulating, List.mem_cons, List.not_mem_nil, or_false] at hs
    rcases hs with rfl | rfl | rfl | rfl | rfl | rfl <;> rfl
  have hfirst : uses first simulating {} = 3 := by decide +kernel
  have hsecond : uses second simulating {} = 1 := by decide +kernel
  exact ⟨opened, hfirst ▸ (usage_is_exact opened rfl first).1,
    hsecond ▸ (usage_is_exact opened rfl second).1⟩

end Step
end SubscriptionBilling
