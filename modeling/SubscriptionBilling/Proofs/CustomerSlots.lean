import SubscriptionBilling.Proofs.Operations

/-! The slots in which subscribers keep their ids with the providers. A slot is filled once, with an id
that the provider has given for a new customer, and then it stays. The customer that a checkout session
is made for stands in the slot of its subscriber, so notices about that customer find the subscriber
from then on. -/
namespace SubscriptionBilling

theorem Subscriber.customerId_setCustomerId (u : Subscriber) (p q : Provider) (id : Option String) :
    (u.setCustomerId q id).customerId p = if p = q then id else u.customerId p := by
  cases p <;> cases q <;> rfl

namespace Database

/-- What a subscriber's slot for a provider holds, if there is such a subscriber. -/
def slot? (db : Database) (id : String) (p : Provider) : Option String :=
  (db.subscriber? id).bind fun u => u.customerId p

/-- No slot holds the empty text. -/
def FillsSlots (db : Database) : Prop := ∀ id p, db.slot? id p ≠ some ""

theorem subscriber?_of_subscribers {db after : Database} (h : after.subscribers = db.subscribers)
    (id : String) : after.subscriber? id = db.subscriber? id := by
  unfold subscriber?
  rw [h]

theorem slot?_of_subscribers {db after : Database} (h : after.subscribers = db.subscribers)
    (id : String) (p : Provider) : after.slot? id p = db.slot? id p := by
  rw [slot?, subscriber?_of_subscribers h, slot?]

theorem slot?_of_subscriber? {db : Database} {id : String} {u : Subscriber}
    (h : db.subscriber? id = some u) (p : Provider) : db.slot? id p = u.customerId p := by
  rw [slot?, h, Option.bind_some]

theorem FillsSlots.ne_empty {db : Database} (h : db.FillsSlots) {id customer : String} {p : Provider}
    (hslot : db.slot? id p = some customer) : customer ≠ "" := by
  rintro rfl
  exact h id p hslot

/-- An id that stands in a slot is the one that a look at the subscriber finds. -/
theorem heldId_of_slot {db : Database} {id customer : String} {p : Provider}
    (h : db.slot? id p = some customer) (nonempty : customer ≠ "") :
    ((db.subscriber? id).bind fun u => u.heldId p) = some customer := by
  obtain ⟨u, hu, held⟩ := Option.bind_eq_some_iff.mp h
  rw [hu, Option.bind_some]
  exact Option.filter_eq_some_iff.mpr ⟨held, by simpa using nonempty⟩

/-- In a consistent store the id in a slot leads back to the subscriber. -/
theorem Consistent.subscriberOf?_of_slot {db : Database} (h : db.Consistent) {id customer : String}
    {p : Provider} (hslot : db.slot? id p = some customer) :
    ∃ u, db.subscriberOf? p customer = some u ∧ u.id = id := by
  obtain ⟨u, hu, held⟩ := Option.bind_eq_some_iff.mp hslot
  exact ⟨u, h.subscriberOf?_eq_some_iff.mpr ⟨mem_of_subscriber? hu, held⟩, id_of_subscriber? hu⟩

section Assignments
variable {db after : Database} {own : String} {q : Provider} {customerId : Option String}

/-- An assignment that is made changes the record of its subscriber alone, who had an empty slot. -/
theorem subscriber?_of_assigned
    (h : Subscriber.assignCustomerId own q customerId db = .ok (true, after)) :
    ∃ u, db.subscriber? own = some u ∧ u.customerId q = none ∧ ∀ id, after.subscriber? id =
      if id = own then some (u.setCustomerId q customerId) else db.subscriber? id := by
  rcases Subscriber.assignCustomerId_cases h with ⟨hundone, -⟩ | ⟨-, u, hu, hfree, hreplace⟩
  · cases hundone
  obtain ⟨-, rfl⟩ := replace_eq_ok.mp hreplace
  obtain rfl : u.id = own := id_of_subscriber? hu
  refine ⟨u, hu, by simpa using hfree, fun id => ?_⟩
  have hfound : db.subscriber? (u.setCustomerId q customerId).id = some u := by
    rw [Subscriber.id_setCustomerId, hu]
  rw [subscriber?_put hfound, Subscriber.id_setCustomerId]

/-- It fills that slot and no other one. -/
theorem slot?_of_assigned (h : Subscriber.assignCustomerId own q customerId db = .ok (true, after)) :
    db.slot? own q = none ∧
      ∀ id p, after.slot? id p = if id = own ∧ p = q then customerId else db.slot? id p := by
  obtain ⟨u, hu, hfree, hafter⟩ := subscriber?_of_assigned h
  refine ⟨(slot?_of_subscriber? hu q).trans hfree, fun id p => ?_⟩
  rw [slot?, hafter]
  by_cases hown : id = own
  · subst hown
    rw [if_pos rfl, Option.bind_some, Subscriber.customerId_setCustomerId, slot?_of_subscriber? hu]
    by_cases hp : p = q
    · rw [if_pos hp, if_pos ⟨rfl, hp⟩]
    · rw [if_neg hp, if_neg fun h => hp h.2]
  · rw [if_neg hown, if_neg fun h => hown h.1, slot?]

/-- An assignment for a known subscriber is not made when the slot is full. -/
theorem slot?_of_unassigned
    (h : Subscriber.assignCustomerId own q customerId db = .ok (false, after))
    (known : (db.subscriber? own).isSome = true) : (db.slot? own q).isSome = true := by
  obtain ⟨u, hu⟩ := Option.isSome_iff_exists.mp known
  rw [slot?_of_subscriber? hu]
  by_contra hfree
  simp only [Subscriber.assignCustomerId, hu, if_neg hfree] at h
  obtain ⟨_, -, hr⟩ := bind_eq_ok.mp h
  cases (Prod.mk.inj (pure_eq_ok.mp hr)).1

end Assignments

/-- An enrolment adds a subscriber after those who are there. -/
theorem subscriber?_of_enrolled {db after : Database} {own email : String}
    {name countryCode : Option String} {tier : Tier}
    (h : (Subscriber.enrolled own email name countryCode tier).add db = .ok ((), after)) (id : String) :
    after.subscriber? id = (db.subscriber? id).or
      (if own = id then some (Subscriber.enrolled own email name countryCode tier) else none) := by
  obtain ⟨_, hadd, hpair⟩ := bind_eq_ok.mp h
  obtain ⟨-, rfl⟩ := Prod.mk.inj (pure_eq_ok.mp hpair)
  obtain ⟨-, rfl⟩ := addSubscriber_eq_ok.mp hadd
  unfold subscriber?
  rw [List.find?_append]
  by_cases hid : own = id <;> simp [hid, Subscriber.enrolled, Subscriber.stored]

/-- The new subscriber has no slot filled yet. -/
theorem slot?_of_enrolled {db after : Database} {own email : String}
    {name countryCode : Option String} {tier : Tier}
    (h : (Subscriber.enrolled own email name countryCode tier).add db = .ok ((), after))
    (id : String) (p : Provider) : after.slot? id p = db.slot? id p := by
  rw [slot?, subscriber?_of_enrolled h, slot?]
  cases db.subscriber? id with
  | some u => rfl
  | none =>
    rw [Option.none_or]
    split
    · cases p <;> rfl
    · rfl

end Database

/-- No arrival touches a slot. -/
theorem Arrival.slot?_after (a : Arrival) (db : Database) (id : String) (p : Provider) :
    (a.after db).slot? id p = db.slot? id p := by
  rcases a.after_cases db with hsame | ⟨u, settles⟩
  · rw [hsame]
  rw [Database.slot?, Arrival.subscriber?_of_settles settles, Database.slot?]
  split
  · next hid =>
    subst hid
    cases db.subscriber? u.id with
    | none => rfl
    | some v => exact ProviderEvent.customerId_edit _ _ _ _ _ _
  · rfl

namespace Step

/-- An id for a new customer that a provider gives in an answer to a step, as the store keeps it. -/
inductive Gives (s : Step) (p : Provider) (customer : String) : Prop
  | given {reply : Reply} {id : Json} (answered : reply ∈ s.replies p.customerEndpoint)
      (named : reply.customerId? p = some id) (kept : Column.text id = .ok (some customer))

/-- A step leaves a slot as it is, or it fills an empty one with an id that the provider gives. -/
theorem slot?_after (s : Step) (w : World) (id : String) (p : Provider) :
    (s.after w).database.slot? id p = w.database.slot? id p ∨
      w.database.slot? id p = none ∧
        ∃ customer, s.Gives p customer ∧ (s.after w).database.slot? id p = some customer := by
  cases s.operation.tends s.context (s.prepare w) with
  | left same => exact .inl (Database.slot?_of_subscribers same id p)
  | enrolled written => exact .inl (Database.slot?_of_enrolled written id p)
  | arrived a settled => exact .inl ((congrArg (·.slot? id p) settled).trans (a.slot?_after _ id p))
  | @ensured u q _ _ ensures subscribers =>
    have hmid : (s.after w).database.slot? id p = _ := Database.slot?_of_subscribers subscribers id p
    rw [hmid]
    cases ensures with
    | known | failed | filled => exact .inl rfl
    | kept n answered named written =>
      obtain ⟨customerId, htext, hassigned⟩ := bind_eq_ok.mp written
      obtain ⟨hnone, hslots⟩ := Database.slot?_of_assigned hassigned
      by_cases hown : id = u.id ∧ p = q
      · have hfilled := (hslots id p).trans (if_pos hown)
        obtain ⟨rfl, rfl⟩ := hown
        -- A null for an id leaves the slot as empty as it was.
        cases customerId with
        | none => exact .inl (hfilled.trans hnone.symm)
        | some customer => exact .inr ⟨hnone, customer, .given answered named htext, hfilled⟩
      · exact .inl ((hslots id p).trans (if_neg hown))

/-- A subscriber stays known. -/
theorem known_after (s : Step) {w : World} {id : String}
    (h : (w.database.subscriber? id).isSome = true) :
    ((s.after w).database.subscriber? id).isSome = true := by
  have hsame : ∀ {x y : World}, y.subscribers = x.subscribers →
      (x.database.subscriber? id).isSome = true → (y.database.subscriber? id).isSome = true := by
    intro x y hsubscribers hx
    have hfound : y.database.subscriber? id = x.database.subscriber? id :=
      Database.subscriber?_of_subscribers hsubscribers id
    rwa [hfound]
  cases s.operation.tends s.context (s.prepare w) with
  | left same => exact hsame same h
  | enrolled written =>
    have hafter : (s.after w).database.subscriber? id = _ :=
      Database.subscriber?_of_enrolled written id
    rw [hafter, Option.isSome_or]
    exact Bool.or_eq_true_iff.mpr (.inl h)
  | arrived a settled =>
    have hafter := congrArg Option.isSome (a.subscriber?_after (s.prepare w).database id)
    rw [Option.isSome_map, Option.isSome_map] at hafter
    exact ((congrArg (fun db : Database => (db.subscriber? id).isSome) settled).trans hafter).trans h
  | @ensured u q _ _ ensures subscribers =>
    refine hsame subscribers ?_
    cases ensures with
    | known | failed | filled => exact h
    | kept n answered named written =>
      obtain ⟨_, -, hassigned⟩ := bind_eq_ok.mp written
      obtain ⟨_, -, -, hafter⟩ := Database.subscriber?_of_assigned hassigned
      rw [hafter]
      split
      · rfl
      · exact h

theorem known_run {steps : List Step} {w : World} {id : String}
    (h : (w.database.subscriber? id).isSome = true) :
    ((run steps w).database.subscriber? id).isSome = true :=
  run_induction (P := fun w => (w.database.subscriber? id).isSome = true)
    (fun s _ _ hw => s.known_after hw) h

theorem slot?_stays (s : Step) {w : World} {id : String} {p : Provider} {customer : String}
    (h : w.database.slot? id p = some customer) :
    (s.after w).database.slot? id p = some customer := by
  rcases s.slot?_after w id p with hsame | ⟨hnone, -⟩
  · rw [hsame, h]
  · cases hnone.symm.trans h

theorem slot?_run {steps : List Step} {w : World} {id : String} {p : Provider} {customer : String}
    (h : w.database.slot? id p = some customer) :
    (run steps w).database.slot? id p = some customer :=
  run_induction (P := fun w => w.database.slot? id p = some customer)
    (fun s _ _ hw => s.slot?_stays hw) h

end Step

/-- A text that is not empty, such as every id of a customer should be. -/
def Json.IsFilledText : Json → Prop
  | .string s => s ≠ ""
  | .brokenText codes => codes ≠ []
  | _ => False

/-- The store keeps such a text as it is, or not at all. -/
theorem Json.IsFilledText.eq_string {v : Json} (h : v.IsFilledText) {t : Option String}
    (kept : Column.text v = .ok t) : ∃ s, v = .string s ∧ t = some s ∧ s ≠ "" := by
  cases v with
  | string s =>
    cases kept
    exact ⟨s, rfl, rfl, h⟩
  | brokenText codes => cases kept
  | _ => exact h.elim

namespace Step

/-- The providers answer with ids for new customers that are texts and not empty. -/
def NamesCustomers (s : Step) : Prop :=
  ∀ p, ∀ reply ∈ s.replies p.customerEndpoint, ∀ id, reply.customerId? p = some id → id.IsFilledText

theorem Gives.ne_empty {s : Step} {p : Provider} {customer : String} (h : s.Gives p customer)
    (named : s.NamesCustomers) : customer ≠ "" := by
  obtain ⟨answered, hid, kept⟩ := h
  obtain ⟨text, -, htext, hne⟩ := (named p _ answered _ hid).eq_string kept
  rwa [Option.some.inj htext]

theorem fillsSlots_after {s : Step} (named : s.NamesCustomers) {w : World}
    (h : w.database.FillsSlots) : (s.after w).database.FillsSlots := by
  intro id p hempty
  rcases s.slot?_after w id p with hsame | ⟨-, customer, hgives, hfilled⟩
  · exact h id p (hsame.symm.trans hempty)
  · exact hgives.ne_empty named (Option.some.inj (hfilled.symm.trans hempty))

theorem fillsSlots_run {steps : List Step} (named : ∀ s ∈ steps, s.NamesCustomers) {w : World}
    (h : w.database.FillsSlots) : (run steps w).database.FillsSlots :=
  run_induction (P := fun w => w.database.FillsSlots)
    (fun s hs _ hw => fillsSlots_after (named s hs) hw) h

end Step

/-- The customer that comes of ensuring one stands in the subscriber's slot afterwards. The record that
the caller has read may be an old one, as long as nothing that it holds is lost. -/
theorem Subscriber.Ensures.slot? {u : Subscriber} {p : Provider} {w mid : World} {customer : Json}
    (h : u.Ensures p w (.ok customer) mid) (known : (w.database.subscriber? u.id).isSome = true)
    (stays : ∀ x, u.customerId p = some x → w.database.slot? u.id p = some x)
    (filled : w.database.FillsSlots)
    (named : ∀ reply ∈ w.network.replies p.customerEndpoint, ∀ id, reply.customerId? p = some id →
      id.IsFilledText) :
    ∃ text, customer = .string text ∧ mid.database.slot? u.id p = some text := by
  cases h with
  | known held => exact ⟨_, rfl, stays _ (Option.filter_eq_some_iff.mp held).1⟩
  | kept n answered hid written =>
    obtain ⟨_, htext, hassigned⟩ := bind_eq_ok.mp written
    obtain ⟨text, rfl, rfl, -⟩ := (named _ answered _ hid).eq_string htext
    exact ⟨text, rfl, ((Database.slot?_of_assigned hassigned).2 u.id p).trans (if_pos ⟨rfl, rfl⟩)⟩
  | filled n answered hid full =>
    obtain ⟨_, -, hassigned⟩ := bind_eq_ok.mp full
    -- The race is lost only to an id that stands in the slot, and that one is not the empty text.
    obtain ⟨winner, hwinner⟩ := Option.isSome_iff_exists.mp
      (Database.slot?_of_unassigned hassigned known)
    refine ⟨winner, ?_, hwinner⟩
    rw [Database.heldId_of_slot hwinner (filled.ne_empty hwinner), Option.elim_some]

/-- Whoever a provider knows by an id gets its events that name it. Only a completed checkout that names
a subscriber whom nobody knows is about nobody all the same. -/
theorem ProviderEvent.astray_of_unmapped {c : Context} {e : ProviderEvent} {db : Database}
    {u : Subscriber} {customer : String} {answer : Processed}
    (found : db.subscriberOf? e.provider customer = some u) (named : e.customerId = some customer)
    (nonempty : customer ≠ "") (answered : (⟨c, e⟩ : Arrival).answer db = .ok answer)
    (unmapped : answer.outcome = .unmapped) :
    e.kind = .checkoutCompleted ∧
      ∃ other, filled e.subscriberId = some other ∧ db.subscriber? other = none := by
  have hnobody : e.subject? db = none := by
    unfold Arrival.answer at answered
    rcases e.process_cases c db with ⟨v, -, h⟩ | ⟨h, -⟩ | ⟨-, h⟩ | ⟨f, h⟩
    · rw [h] at answered
      cases answered
      cases unmapped
    · rw [h] at answered
      cases answered
      cases unmapped
    · exact h
    · rw [h] at answered
      cases answered
  have hcustomer : filled e.customerId = some customer := filled_eq_some_iff.mpr ⟨named, nonempty⟩
  unfold subject? at hnobody
  split at hnobody
  · next other hkind hother => exact ⟨hkind, other, hother, hnobody⟩
  · rw [hcustomer, Option.bind_some, found] at hnobody
    cases hnobody

theorem Provider.checkoutEndpoint_ne_customerEndpoint (p q : Provider) :
    p.checkoutEndpoint ≠ q.customerEndpoint := by cases p <;> cases q <;> decide

theorem Provider.checkoutEndpoint_inj {p q : Provider}
    (h : p.checkoutEndpoint = q.checkoutEndpoint) : p = q := by
  cases p <;> cases q <;> first | rfl | cases h

namespace Step

/-- A checkout for a subscriber after a run: a whole one of either kind, or the rest of one that has read
the subscriber's record in the course of the run. -/
inductive ChecksOut (past : List Step) (start : World) : Operation → String → Prop
  | whole (r : CheckoutRequest) : ChecksOut past start (.checkout r) r.subscriberId
  | external (user : String) (plan returnUrl : Option String) (product : Option Product) :
      ChecksOut past start (.externalCheckout user plan returnUrl product) user
  | rest {earlier since : List Step} {r : CheckoutRequest} {u : Subscriber} (plan : Plan)
      (split : past = earlier ++ since)
      (read : (run earlier start).database.subscriber? r.subscriberId = some u) :
      ChecksOut past start (.resume r plan u) r.subscriberId

section Checkouts
variable {past : List Step} {s : Step} {start : World} {id : String}

theorem ChecksOut.ends (h : ChecksOut past start s.operation id) :
    s.after (run past start) = s.prepare (run past start) ∨
      ∃ earlier since u, past = earlier ++ since ∧
        (run earlier start).database.subscriber? id = some u ∧
        Checkout.Ends u (s.prepare (run past start)) (s.after (run past start)) := by
  have hnow : ∀ {id after}, (after = s.prepare (run past start) ∨
      ∃ u, (run past start).database.subscriber? id = some u ∧
        Checkout.Ends u (s.prepare (run past start)) after) →
      after = s.prepare (run past start) ∨ ∃ earlier since u, past = earlier ++ since ∧
        (run earlier start).database.subscriber? id = some u ∧
        Checkout.Ends u (s.prepare (run past start)) after :=
    Or.imp_right fun ⟨u, hu, hends⟩ => ⟨past, [], u, (List.append_nil past).symm, hu, hends⟩
  unfold Step.after
  generalize s.operation = o at h
  cases h with
  | whole r =>
    rw [Operation.after]
    exact hnow (Checkout.ends_create s.context r (s.prepare (run past start)))
  | external user plan returnUrl product =>
    rw [Operation.after]
    exact hnow (Checkout.ends_createExternal s.context _ plan returnUrl product
      (s.prepare (run past start)))
  | rest plan split read =>
    exact .inr ⟨_, _, _, split, read, Checkout.ends_proceed s.context _ plan _ _⟩

/-- The customer of a session that a checkout makes stands in the subscriber's slot afterwards. -/
theorem ChecksOut.slot? (h : ChecksOut past start s.operation id)
    (named : ∀ t ∈ past ++ [s], t.NamesCustomers) (filled : start.database.FillsSlots) {call : Call}
    (called : call ∈ (s.after (run past start)).calls) {p : Provider}
    (session : call.endpoint = p.checkoutEndpoint) :
    ∃ customer, call.customer? = some (.string customer) ∧
      (s.after (run past start)).database.slot? id p = some customer := by
  obtain ⟨hpast, hs⟩ := List.forall_mem_append.mp named
  rcases h.ends with hsame | ⟨earlier, since, u, split, read, hends⟩
  · rw [hsame] at called
    cases called
  have hid : u.id = id := Database.id_of_subscriber? read
  cases hends with
  | refused hsame =>
    rw [hsame] at called
    cases called
  | @ensured q _ mid ensures subscribers calls =>
    rcases calls call called with hbefore | hmade | ⟨hsession, customer, rfl, hfor⟩
    · cases hbefore
    · exact absurd (session.symm.trans hmade) (p.checkoutEndpoint_ne_customerEndpoint q)
    obtain rfl := Provider.checkoutEndpoint_inj (session.symm.trans hsession)
    -- The record may be older than the store, but what its slots held then they hold now.
    have hsince : run past start = run since (run earlier start) := by rw [split, run_append]
    obtain ⟨text, rfl, hslot⟩ := ensures.slot?
      (hid ▸ hsince ▸ known_run (by rw [read]; rfl))
      (fun x hx => by
        have hread : (run earlier start).database.slot? u.id p = some x := by
          rw [hid, Database.slot?_of_subscriber? read, hx]
        exact (congrArg (fun w : World => w.database.slot? u.id p) hsince).trans (slot?_run hread))
      (fillsSlots_run hpast filled) (hs s List.mem_cons_self p)
    refine ⟨text, hfor, ?_⟩
    exact (Database.slot?_of_subscribers subscribers id p).trans (hid ▸ hslot)

end Checkouts

/-- Over a run in which the providers name new customers by filled texts, a slot stays once it is filled.
The customer that a checkout makes a session for is the subscriber's alone from then on, and events of
the provider's that name it are about somebody who is known, unless a completed checkout names a
subscriber who is not. -/
theorem customers_stay {steps : List Step} (named : ∀ s ∈ steps, s.NamesCustomers) {start : World}
    (consistent : start.database.Consistent) (filled : start.database.FillsSlots) :
    (∀ past later id p customer, steps = past ++ later →
      (run past start).database.slot? id p = some customer →
      (run steps start).database.slot? id p = some customer) ∧
    ∀ past s later id, steps = past ++ s :: later → ChecksOut past start s.operation id →
      ∀ call ∈ (s.after (run past start)).calls, ∀ p, call.endpoint = p.checkoutEndpoint →
      ∃ customer, call.customer? = some (.string customer) ∧
        ∃ u, (run steps start).database.subscriberOf? p customer = some u ∧ u.id = id ∧
        ∀ c e answer, e.provider = p → e.customerId = some customer →
          (⟨c, e⟩ : Arrival).answer (run steps start).database = .ok answer →
          answer.outcome = .unmapped →
          e.kind = .checkoutCompleted ∧ ∃ other, ProviderEvent.filled e.subscriberId = some other ∧
            (run steps start).database.subscriber? other = none := by
  constructor
  · rintro past later id p customer rfl hslot
    rw [run_append]
    exact slot?_run hslot
  · rintro past s later id rfl hchecksOut call called p session
    have hupto : ∀ t ∈ past ++ [s], t.NamesCustomers := fun t ht =>
      named t (List.append_cons past s later ▸ List.mem_append_left later ht)
    obtain ⟨customer, hcustomer, hslot⟩ := hchecksOut.slot? hupto filled called session
    have hlater : (run (past ++ s :: later) start).database.slot? id p = some customer := by
      rw [run_append, run_cons]
      exact slot?_run hslot
    obtain ⟨u, hu, hid⟩ := (consistent_run (past ++ s :: later) consistent).subscriberOf?_of_slot hlater
    have hne : customer ≠ "" := by
      rintro rfl
      exact fillsSlots_run named filled id p hlater
    refine ⟨customer, hcustomer, u, hu, hid, ?_⟩
    rintro c e answer rfl hevent answered unmapped
    exact ProviderEvent.astray_of_unmapped hu hevent hne answered unmapped

/-- The enrolment of a subscriber. -/
def enrolling : Step where
  context := { settings := {}, now := 0 }
  operation := .enroll "user" "mail" none none .community
  replies _ := []

/-- A checkout at the direct processor, which answers with a customer and a session. -/
def buying : Step where
  context := { settings := { stripeSecretKey := "k", stripePriceIdPro := "price" }, now := 0 }
  operation := .checkout { subscriberId := "user" }
  replies
    | .stripeCustomer => [.object (.object [("id", .string "cus")])]
    | .stripeCheckout => [.object (.object [("id", .string "cs"), ("url", .string "url")])]
    | _ => []

theorem namesCustomers_enrolling : enrolling.NamesCustomers := by
  intro p reply hreply
  cases hreply

theorem namesCustomers_buying : buying.NamesCustomers := by
  intro p reply hreply id hid
  cases p with
  | stripe =>
    obtain rfl := List.mem_singleton.mp hreply
    cases hid
    exact (by decide : "cus" ≠ "")
  | janua => cases hreply

theorem sessions_buying :
    ∃ call ∈ (buying.after (run [enrolling] {})).calls,
      call.endpoint = Provider.stripe.checkoutEndpoint ∧ call.customer? = some (.string "cus") := by
  have hcalls : (buying.after (run [enrolling] {})).calls.map
      (fun call => (call.endpoint, call.customer?)) =
      [(.stripeCustomer, none), (.stripeCheckout, some (.string "cus"))] := by
    with_unfolding_all rfl
  have hsession : (Endpoint.stripeCheckout, some (Json.string "cus")) ∈
      (buying.after (run [enrolling] {})).calls.map fun call => (call.endpoint, call.customer?) := by
    rw [hcalls]
    exact List.mem_cons_of_mem _ List.mem_cons_self
  obtain ⟨call, hcall, hfields⟩ := List.mem_map.mp hsession
  obtain ⟨hendpoint, hcustomer⟩ := Prod.mk.inj hfields
  exact ⟨call, hcall, hendpoint, hcustomer⟩

/-- A subscriber checks out twice. The customer of the first session is the subscriber's afterwards. -/
theorem customers_stay_after_checkouts :
    ∃ call ∈ (buying.after (run [enrolling] {})).calls,
      call.endpoint = Provider.stripe.checkoutEndpoint ∧ call.customer? = some (.string "cus") ∧
      ∃ u, (run [enrolling, buying, buying] {}).database.subscriberOf? .stripe "cus" = some u ∧
        u.id = "user" := by
  obtain ⟨call, hcall, hsession, hcustomer⟩ := sessions_buying
  have hnamed : ∀ s ∈ [enrolling, buying, buying], s.NamesCustomers := by
    simp [namesCustomers_enrolling, namesCustomers_buying]
  have hfilled : ({} : World).database.FillsSlots := fun id p h => by cases h
  obtain ⟨-, hsessions⟩ := customers_stay hnamed Database.Consistent.empty hfilled
  obtain ⟨customer, hfor, u, hu, hid, -⟩ := hsessions [enrolling] buying [buying] "user" rfl
    (.whole { subscriberId := "user" }) call hcall .stripe hsession
  obtain rfl : customer = "cus" := Json.string.inj (Option.some.inj (hfor.symm.trans hcustomer))
  exact ⟨call, hcall, hsession, hcustomer, u, hu, hid⟩

/-- The notice of a completed checkout of that customer, under the id of a subscriber who does not
exist. -/
def ghostText : String :=
  "\x7b\"id\":\"evt\",\"type\":\"checkout.session.completed\",\"created\":0,\"data\":\x7b\"object\":\x7b\"id\":\"cs\",\"customer\":\"cus\",\"metadata\":\x7b\"userId\":\"ghost\",\"plan\":\"pro\"\x7d\x7d\x7d\x7d"

/-- After the checkout a notice about its customer can be about nobody who is known. -/
theorem unmapped_after_checkout :
    (∃ call ∈ (buying.after (run [enrolling] {})).calls,
      call.endpoint = Provider.stripe.checkoutEndpoint ∧ call.customer? = some (.string "cus")) ∧
    ∃ e answer, Delivery.event? {} .stripe (Delivery.asciiBytes ghostText) = .ok (some e) ∧
      e.provider = .stripe ∧ e.customerId = some "cus" ∧
      (⟨{ settings := {}, now := 0 }, e⟩ : Arrival).answer (run [enrolling, buying] {}).database =
        .ok answer ∧ answer.outcome = .unmapped := by
  refine ⟨sessions_buying, ?_⟩
  have hanswer : (Delivery.event? {} .stripe (Delivery.asciiBytes ghostText)).toOption.join.map
      (fun e => (e.provider, e.customerId, ((⟨{ settings := {}, now := 0 }, e⟩ : Arrival).answer
        (run [enrolling, buying] {}).database).toOption.map (·.outcome))) =
      some (.stripe, some "cus", some .unmapped) := by
    decide +kernel
  obtain ⟨e, hevent, hfields⟩ := Option.map_eq_some_iff.mp hanswer
  obtain ⟨hprovider, hrest⟩ := Prod.mk.inj hfields
  obtain ⟨hcustomer, houtcome⟩ := Prod.mk.inj hrest
  obtain ⟨answer, hanswered, hunmapped⟩ := Option.map_eq_some_iff.mp houtcome
  exact ⟨e, answer, toOption_eq_some.mp (Option.join_eq_some_iff.mp hevent), hprovider, hcustomer,
    toOption_eq_some.mp hanswered, hunmapped⟩

end Step

end SubscriptionBilling
