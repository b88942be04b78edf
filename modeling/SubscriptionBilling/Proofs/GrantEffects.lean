import SubscriptionBilling.Proofs.Finality

/-! Work for the identity system. It is there only for tiers that were granted and stored, and whatever
keeps a piece of it from starting, the event stays processed and the other pieces start. -/
namespace SubscriptionBilling

namespace IdentityTask

def isNotification : IdentityTask → Bool
  | tierNotification .. => true
  | roleUpgrade .. => false
  | checkoutRoleUpgrade .. => false

def isUpgrade : IdentityTask → Bool
  | tierNotification .. => false
  | roleUpgrade .. => true
  | checkoutRoleUpgrade .. => true

end IdentityTask

namespace ProviderEvent
variable {e : ProviderEvent} {ended : Bool} {tier : Tier}

/-- Whether an event is a purchase that grants a tier. A creation must not be that of a subscription
whose end is known. -/
structure Buys (e : ProviderEvent) (ended : Bool) (tier : Tier) : Prop where
  purchase : e.kind = .subscriptionCreated ∨ e.kind = .checkoutCompleted
  granted : e.grantedTier = some tier
  running : e.kind = .subscriptionCreated → ((filled e.subscriptionId).isSome && ended) = false

/-- The notice of a new subscription is one piece of work, when there is an organization. -/
theorem tierNotification_facts (e : ProviderEvent) (u : Subscriber) :
    (e.tierNotification u).countP IdentityTask.isNotification =
        (if (filled e.organizationId).isSome then 1 else 0) ∧
      (e.tierNotification u).countP IdentityTask.isUpgrade = 0 := by
  unfold tierNotification
  cases filled e.organizationId with
  | none => exact ⟨rfl, rfl⟩
  | some organization => exact ⟨rfl, rfl⟩

/-- What a purchase that grants a tier does, whichever kind it is of. -/
structure Bought (e : ProviderEvent) (u : Subscriber) (tier : Tier) (t : Transition) : Prop where
  change : ∃ ch, t.change = some ch ∧ ch.tier = some (some tier)
  note : ∃ n, t.note = some n ∧ n.action = .subscriptionActivated ∧ n.subscriberId = u.id
  posting : t.posting = some (e.booked u .subscriptionCreated)
  tasks : ∃ upgrades, t.tasks = e.tierNotification u ++ upgrades ∧ upgrades.length ≤ 1 ∧
    ∀ t ∈ upgrades, t.isUpgrade = true ∧ t.isNotification = false ∧ (filled e.identityUserId).isSome

theorem Buys.bought (h : e.Buys ended tier) (now : Moment) (u : Subscriber) :
    e.Bought u tier (e.transition now ended u) := by
  obtain ⟨kind | kind, granted, running⟩ := h
  · simp only [transition, kind, onCreated, granted, running kind]
    refine ⟨⟨_, rfl, rfl⟩, ⟨_, rfl, rfl, rfl⟩, rfl, _, rfl, ?_⟩
    split <;> simp [IdentityTask.isUpgrade, IdentityTask.isNotification, *]
  · simp only [transition, kind, onCheckoutCompleted, granted]
    refine ⟨⟨_, rfl, rfl⟩, ⟨_, rfl, rfl, rfl⟩, rfl, _, rfl, ?_⟩
    split <;> simp [IdentityTask.isUpgrade, IdentityTask.isNotification, *]

/-- No other event activates a subscription or leaves any work. -/
theorem idle_of_not_buys (h : ∀ tier, ¬e.Buys ended tier) (now : Moment) (u : Subscriber) :
    (∀ n, (e.transition now ended u).note = some n → n.action ≠ .subscriptionActivated) ∧
      (e.transition now ended u).tasks = [] := by
  cases hkind : e.kind with
  | subscriptionCreated =>
    simp only [transition, hkind, onCreated]
    split
    · exact ⟨by simp [unrecognized], rfl⟩
    · next tier granted =>
      split
      · exact ⟨by simp, rfl⟩
      · next running => exact absurd ⟨.inl hkind, granted, fun _ => Bool.eq_false_iff.mpr running⟩ (h tier)
  | checkoutCompleted =>
    simp only [transition, hkind, onCheckoutCompleted]
    split
    · exact ⟨by simp [unrecognized], rfl⟩
    · next tier granted =>
      refine absurd ⟨.inr hkind, granted, fun created => ?_⟩ (h tier)
      rw [hkind] at created
      cases created
  | subscriptionCancelled =>
    simp only [transition, hkind, onCancelled]
    split
    · exact ⟨by simp, rfl⟩
    · exact ⟨by simp [note], rfl⟩
  | paymentSucceeded => simp [transition, hkind]
  | paymentFailed => simp [transition, hkind, onPaymentFailed, note]
  | refundIssued => simp [transition, hkind]
  | subscriptionUpdated | subscriptionPaused | subscriptionResumed =>
    obtain ⟨hnote, -, htasks⟩ := quiet_of_not_booked (by rw [hkind]; rfl) now ended u
    exact ⟨by simp [hnote], htasks⟩

end ProviderEvent

namespace Arrival
variable {a : Arrival} {db : Database} {u : Subscriber} {tier : Tier}

/-- The work that an arrival comes to, before any of it is started. -/
def effects (a : Arrival) (db : Database) : List IdentityTask :=
  match a.answer db with
  | .ok p => p.tasks
  | .error _ => []

/-- Whether an arrival of a purchase stores a tier for a subscriber: it is processed, the record has the
tier, the audit trail tells of a new activation, and the event is booked. -/
structure Activates (a : Arrival) (db : Database) (u : Subscriber) (tier : Tier) : Prop where
  processed : a.isProcessed db = true
  purchase : a.event.kind = .subscriptionCreated ∨ a.event.kind = .checkoutCompleted
  subject : a.event.subject? db = some u
  granted : a.event.grantedTier = some tier
  stored : ∃ v, (a.after db).subscriber? u.id = some v ∧ v.tier = tier
  activated : ∃ entry, (a.after db).audit = db.audit ++ [entry] ∧
    entry.action = .subscriptionActivated ∧ entry.subscriberId = u.id
  booked : ∃ entry, (a.after db).ledger = db.ledger ++ [entry] ∧ entry.kind = .subscriptionCreated ∧
    entry.provider = a.event.provider ∧ entry.eventId = a.event.eventId

theorem audit_of_settles (h : a.event.Settles a.context db u) :
    (a.after db).audit = db.audit ++ ((a.event.transitionAt a.context db u).note.map fun n =>
      n.entry db.nextAudit a.context.moment).toList := by
  rw [after_of_settles h]
  rfl

theorem effects_of_settles (h : a.event.Settles a.context db u) :
    a.effects db = (a.event.transitionAt a.context db u).tasks := by
  rw [effects, answer_of_settles h]

/-- Activations are the purchases that grant a tier, when they are processed. -/
theorem activates_iff : a.Activates db u tier ↔
    a.event.Settles a.context db u ∧ a.event.Buys (a.event.hasEnded db) tier := by
  constructor
  · intro h
    obtain ⟨v, hv⟩ := isProcessed_iff.mp h.processed
    obtain rfl : v = u := Option.some.inj (hv.subject.symm.trans h.subject)
    refine ⟨hv, ?_⟩
    obtain ⟨bought, hbought⟩ : ∃ bought, a.event.Buys (a.event.hasEnded db) bought := by
      by_contra hnone
      obtain ⟨hidle, -⟩ := ProviderEvent.idle_of_not_buys (not_exists.mp hnone) a.context.moment v
      obtain ⟨entry, hentry, haction, -⟩ := h.activated
      rw [audit_of_settles hv, List.append_cancel_left_eq] at hentry
      cases hnote : (a.event.transitionAt a.context db v).note with
      | none => simp [hnote] at hentry
      | some n =>
        rw [hnote] at hentry
        obtain rfl : n.entry db.nextAudit a.context.moment = entry := by simpa using hentry
        exact hidle n hnote haction
    obtain rfl : bought = tier := Option.some.inj (hbought.granted.symm.trans h.granted)
    exact hbought
  · rintro ⟨hsettles, hbuys⟩
    have hbought : a.event.Bought u tier (a.event.transitionAt a.context db u) :=
      hbuys.bought a.context.moment u
    refine ⟨isProcessed_iff.mpr ⟨u, hsettles⟩, hbuys.purchase, hsettles.subject, hbuys.granted, ?_, ?_, ?_⟩
    · obtain ⟨ch, hch, htier⟩ := hbought.change
      obtain ⟨w, hw⟩ := ProviderEvent.exists_subscriber?_of_subject? hsettles.subject
      refine ⟨_, by rw [subscriber?_of_settles hsettles, if_pos rfl, hw, Option.map_some], ?_⟩
      simp only [Transition.edit, hch, Option.getD_some, SubscriberChange.apply, htier]
    · obtain ⟨n, hn, haction, hsubscriber⟩ := hbought.note
      exact ⟨_, by rw [audit_of_settles hsettles, hn]; rfl, haction, hsubscriber⟩
    · have hkind : a.event.kind.isBooked = true := by
        rcases hbuys.purchase with kind | kind <;> rw [kind] <;> rfl
      obtain ⟨posting, amount, hposting, hprovider, heventId, -, hledger⟩ :=
        ledger_of_settles hsettles hkind
      obtain rfl := Option.some.inj (hbought.posting.symm.trans hposting)
      exact ⟨_, hledger, rfl, rfl, rfl⟩

/-- Whether a creation comes after the end of its subscription, as the ledger is asked for it. -/
def IsStale (a : Arrival) (db : Database) : Prop :=
  a.event.kind = .subscriptionCreated ∧
    ∃ s, a.event.subscriptionId = some s ∧ s ≠ "" ∧ db.cancels a.event.provider s = true

/-- A creation in a store is stale exactly if its transition takes it to be. -/
theorem isStale_iff (kind : a.event.kind = .subscriptionCreated) :
    a.IsStale db ↔
      ((ProviderEvent.filled a.event.subscriptionId).isSome && a.event.hasEnded db) = true := by
  unfold IsStale ProviderEvent.hasEnded
  cases hown : a.event.subscriptionId with
  | none => simp [ProviderEvent.filled]
  | some s => simp [ProviderEvent.filled, kind]

theorem exists_activates_iff : (∃ u tier, a.Activates db u tier) ↔ a.isProcessed db = true ∧
    (a.event.kind = .subscriptionCreated ∨ a.event.kind = .checkoutCompleted) ∧
    a.event.grantedTier.isSome = true ∧ ¬a.IsStale db := by
  constructor
  · rintro ⟨u, tier, h⟩
    refine ⟨h.processed, h.purchase, by rw [h.granted]; rfl, fun hstale => ?_⟩
    have hrunning := (activates_iff.mp h).2.running hstale.1
    rw [(isStale_iff hstale.1).mp hstale] at hrunning
    cases hrunning
  · rintro ⟨hprocessed, hpurchase, hgranted, hrunning⟩
    obtain ⟨u, hsettles⟩ := isProcessed_iff.mp hprocessed
    obtain ⟨tier, htier⟩ := Option.isSome_iff_exists.mp hgranted
    refine ⟨u, tier, activates_iff.mpr ⟨hsettles, hpurchase, htier, fun kind => ?_⟩⟩
    exact Bool.eq_false_iff.mpr fun h => hrunning ((isStale_iff kind).mpr h)

theorem effects_of_not_processed (h : a.isProcessed db = false) : a.effects db = [] := by
  unfold isProcessed at h
  unfold effects answer at *
  rcases a.event.process_cases a.context db with ⟨u, -, hp⟩ | ⟨hp, -⟩ | ⟨hp, -⟩ | ⟨f, hp⟩
  · simp [hp] at h
  all_goals simp only [hp]

/-- Without an activation there is no work. -/
theorem effects_of_not_activates (h : ∀ u tier, ¬a.Activates db u tier) : a.effects db = [] := by
  cases hprocessed : a.isProcessed db with
  | false => exact effects_of_not_processed hprocessed
  | true =>
    obtain ⟨u, hsettles⟩ := isProcessed_iff.mp hprocessed
    rw [effects_of_settles hsettles]
    refine (ProviderEvent.idle_of_not_buys (fun tier hbuys => ?_) a.context.moment u).2
    exact h u tier (activates_iff.mpr ⟨hsettles, hbuys⟩)

/-- The work of an activation: the notice, if there is an organization, and at most one upgrade. -/
theorem effects_of_activates (h : a.Activates db u tier) :
    (a.effects db).countP IdentityTask.isNotification =
        (if (ProviderEvent.filled a.event.organizationId).isSome then 1 else 0) ∧
      (a.effects db).countP IdentityTask.isUpgrade ≤ 1 ∧
      ∀ t ∈ a.effects db, t.isUpgrade = true →
        (ProviderEvent.filled a.event.identityUserId).isSome := by
  obtain ⟨hsettles, hbuys⟩ := activates_iff.mp h
  obtain ⟨upgrades, htasks, hlength, hupgrades⟩ := (hbuys.bought a.context.moment u).tasks
  obtain ⟨hnotices, hnone⟩ := ProviderEvent.tierNotification_facts a.event u
  rw [effects_of_settles hsettles, ProviderEvent.transitionAt, htasks]
  refine ⟨?_, ?_, fun t ht hupgrade => ?_⟩
  · have hquiet : upgrades.countP IdentityTask.isNotification = 0 :=
      List.countP_eq_zero.mpr fun t ht => by simp [(hupgrades t ht).2.1]
    rw [List.countP_append, hnotices, hquiet, Nat.add_zero]
  · rw [List.countP_append, hnone, Nat.zero_add]
    exact List.countP_le_length.trans hlength
  · rcases List.mem_append.mp ht with ht | ht
    · exact absurd hupgrade (List.countP_eq_zero.mp hnone t ht)
    · exact (hupgrades t ht).2.2

end Arrival

/-! Starting the work. -/

/-- Whether a fault strikes only when the transaction of an event is over. -/
def Fault.isLate : Fault → Bool
  | .fails point _ => point = .scheduling
  | .missedDuplicate => false
  | .unstarted _ => true

/-- A fault that comes late is not noticed by the transaction. -/
theorem ProviderEvent.process_of_isLate {c : Context} {f : Fault} (fault : c.fault = some f)
    (late : f.isLate = true) (e : ProviderEvent) (db : Database) :
    e.process c db = e.process c.calm db := by
  obtain ⟨settings, now, given⟩ := c
  subst fault
  cases f with
  | fails point disturbance =>
    obtain rfl : point = .scheduling := of_decide_eq_true late
    rfl
  | missedDuplicate => cases late
  | unstarted place => rfl

/-- Only a late fault keeps work from starting. -/
theorem Context.start_of_not_isLate {c : Context} (h : ∀ f, c.fault = some f → f.isLate = false)
    (place : Nat) : c.start place = .ok () := by
  obtain ⟨settings, now, given⟩ := c
  cases given with
  | none => rfl
  | some f =>
    have hearly : f.isLate = false := h f rfl
    cases f with
    | fails point disturbance =>
      have hpoint : ¬point = .scheduling := of_decide_eq_false hearly
      simp [start, strike, Fault.strike, hpoint]
    | missedDuplicate => rfl
    | unstarted place => cases hearly

section Starting
variable {c : Context} {place : Nat}

theorem startedFrom_sublist (tasks : List IdentityTask) : (startedFrom c place tasks).Sublist tasks := by
  induction tasks generalizing place with
  | nil => exact .slnil
  | cons t rest ih =>
    rw [startedFrom]
    split
    · exact ih.cons_cons t
    · exact ih.cons t

theorem startedFrom_eq_self (h : ∀ i, place ≤ i → c.start i = .ok ()) (tasks : List IdentityTask) :
    startedFrom c place tasks = tasks := by
  induction tasks generalizing place with
  | nil => rfl
  | cons t rest ih =>
    simp only [startedFrom, h place (le_refl place)]
    rw [ih fun i hi => h i (Nat.le_of_succ_le hi)]

theorem startedFrom_eq_nil {f : Failure} (h : ∀ i, c.start i = .error f)
    (tasks : List IdentityTask) : startedFrom c place tasks = [] := by
  induction tasks generalizing place with
  | nil => rfl
  | cons t rest ih => simp only [startedFrom, h place, ih]

/-- When one piece of work does not start, all the others do. -/
theorem startedFrom_of_unstarted {i : Nat} (fault : c.fault = some (.unstarted (place + i)))
    (tasks : List IdentityTask) : startedFrom c place tasks = tasks.eraseIdx i := by
  have hstart : ∀ j, j ≠ place + i → c.start j = .ok () := by
    intro j hj
    have hother : ¬c.fault = some (.unstarted j) := by
      rw [fault]
      simpa using hj.symm
    rw [Context.start, if_neg hother, Context.strike, fault]
    rfl
  induction tasks generalizing place i with
  | nil => rfl
  | cons t rest ih =>
    cases i with
    | zero =>
      have hstuck : c.start place = .error .crash := if_pos fault
      simp only [startedFrom, hstuck, List.eraseIdx_cons_zero]
      exact startedFrom_eq_self (fun j hj => hstart j (by omega)) rest
    | succ i =>
      simp only [startedFrom, hstart place (by omega), List.eraseIdx_cons_succ]
      have hplace : place + (i + 1) = place + 1 + i := by omega
      rw [ih (hplace ▸ fault) (fun j hj => hstart j (hplace ▸ hj))]

end Starting

namespace Arrival

/-- An arrival under a fault. -/
def under (a : Arrival) (f : Fault) : Arrival := { a with context := { a.context with fault := some f } }

theorem tasks_eq (a : Arrival) (db : Database) :
    a.tasks db = startedFrom a.context 0 (a.effects db) := by
  unfold tasks effects
  cases a.answer db <;> rfl

/-- A fault that comes late leaves the answer, the store and the work as they are without it. -/
theorem under_of_isLate {f : Fault} (late : f.isLate = true) (a : Arrival) (db : Database) :
    (a.under f).answer db = a.calm.answer db ∧ (a.under f).after db = a.calm.after db ∧
      (a.under f).effects db = a.calm.effects db := by
  have hprocess : a.event.process (a.under f).context db = a.event.process a.calm.context db :=
    ProviderEvent.process_of_isLate (c := (a.under f).context) rfl late a.event db
  have hanswer : (a.under f).answer db = a.calm.answer db := congrArg Prod.fst hprocess
  exact ⟨hanswer, congrArg Prod.snd hprocess, by rw [effects, effects, hanswer]⟩

/-- How the work of an arrival depends on what the arrival stores. -/
structure FollowsGrants (a : Arrival) (db : Database) : Prop where
  /-- There is work only for a tier that was granted and stored. -/
  granted : a.effects db ≠ [] → ∃ u tier, a.Activates db u tier
  /-- Stored tiers are those of processed purchases that are not stale. -/
  activates : (∃ u tier, a.Activates db u tier) ↔ a.isProcessed db = true ∧
    (a.event.kind = .subscriptionCreated ∨ a.event.kind = .checkoutCompleted) ∧
    a.event.grantedTier.isSome = true ∧ ¬a.IsStale db
  /-- There is a notice exactly if an organization is named as well. -/
  notified : (∃ t ∈ a.effects db, t.isNotification = true) ↔
    (∃ u tier, a.Activates db u tier) ∧ (ProviderEvent.filled a.event.organizationId).isSome = true
  once : (a.effects db).countP IdentityTask.isNotification ≤ 1 ∧
    (a.effects db).countP IdentityTask.isUpgrade ≤ 1
  /-- A role is for the user that the event names. -/
  upgraded : (∃ t ∈ a.effects db, t.isUpgrade = true) →
    (ProviderEvent.filled a.event.identityUserId).isSome = true
  /-- An arrival that is dropped or fails leaves neither work nor anything else. -/
  unprocessed : a.isProcessed db = false → a.effects db = [] ∧ a.after db = db
  unrecognized : a.event.grantedTier = none → a.effects db = []
  stale : a.IsStale db → a.effects db = []

/-- How the start of the work can fail. -/
structure StartsApart (a : Arrival) (db : Database) : Prop where
  only : (a.tasks db).Sublist (a.effects db)
  /-- No failure to start work shows in the answer or in the store. -/
  committed : ∀ f : Fault, f.isLate = true →
    (a.under f).answer db = a.calm.answer db ∧ (a.under f).after db = a.calm.after db
  /-- When one piece of work does not start, all the others do. -/
  others : ∀ i, (a.under (.unstarted i)).tasks db = (a.calm.effects db).eraseIdx i
  nothing : ∀ disturbance, (a.under (.fails .scheduling disturbance)).tasks db = []
  /-- Without such a failure all work starts. -/
  everything : (∀ f, a.context.fault = some f → f.isLate = false) → a.tasks db = a.effects db

theorem followsGrants (a : Arrival) (db : Database) : a.FollowsGrants db := by
  by_cases hactivates : ∃ u tier, a.Activates db u tier
  · obtain ⟨-, -, hgranted, hrunning⟩ := exists_activates_iff.mp hactivates
    obtain ⟨u, tier, h⟩ := hactivates
    obtain ⟨hnotices, hupgrades, huser⟩ := effects_of_activates h
    refine ⟨fun _ => ⟨u, tier, h⟩, exists_activates_iff, ?_, ⟨?_, hupgrades⟩,
      fun ⟨t, ht, hupgrade⟩ => huser t ht hupgrade, fun hnot => ?_, fun hnone => ?_,
      fun hstale => absurd hstale hrunning⟩
    · rw [← List.countP_pos_iff, hnotices]
      split
      · next hfilled => simpa [hfilled] using ⟨u, tier, h⟩
      · next hempty => simp [hempty]
    · rw [hnotices]
      split <;> decide
    · rw [h.processed] at hnot
      cases hnot
    · rw [hnone] at hgranted
      cases hgranted
  · have hnone : a.effects db = [] :=
      effects_of_not_activates fun u tier h => hactivates ⟨u, tier, h⟩
    refine ⟨fun h => absurd hnone h, exists_activates_iff, ?_, by simp [hnone], by simp [hnone],
      fun hnot => ⟨hnone, after_eq_of_not_processed hnot⟩, fun _ => hnone, fun _ => hnone⟩
    simp [hnone, hactivates]

theorem startsApart (a : Arrival) (db : Database) : a.StartsApart db where
  only := by
    rw [tasks_eq]
    exact startedFrom_sublist _
  committed f late := ⟨(under_of_isLate late a db).1, (under_of_isLate late a db).2.1⟩
  others i := by
    rw [tasks_eq, (under_of_isLate (f := .unstarted i) rfl a db).2.2]
    exact startedFrom_of_unstarted (by rw [Nat.zero_add]; rfl) _
  nothing disturbance := by
    rw [tasks_eq]
    exact startedFrom_eq_nil (f := disturbance.failure) (fun _ => rfl) _
  everything h := by
    rw [tasks_eq]
    exact startedFrom_eq_self (fun i _ => Context.start_of_not_isLate h i) _

/-- Work for the identity system follows the tiers that are stored, and how it starts changes nothing
about these. A creation behind the end of its subscription leaves none, unless the id of the subscription
has a NUL in it, so that no query finds the end. -/
theorem effects_follow_grants (a : Arrival) (db : Database) :
    a.FollowsGrants db ∧ a.StartsApart db ∧
      ∀ s, a.event.kind = .subscriptionCreated → a.event.subscriptionId = some s → s ≠ "" →
        db.ends a.event.provider s = true → a.effects db ≠ [] → '\x00' ∈ s.toList := by
  refine ⟨followsGrants a db, startsApart a db, fun s kind own named ended hwork => ?_⟩
  by_contra plain
  refine hwork ((followsGrants a db).stale ⟨kind, s, own, named, ?_⟩)
  exact Database.cancels_of_ends plain ended

/-- A purchase that names an organization and a user. -/
def namedPurchase (subscription : String) : Arrival where
  context := { settings := {}, now := 0 }
  event :=
    { (brokered .subscriptionCreated "subscription.created" "evt_2").event with
      subscriptionId := some subscription
      organizationId := some "org"
      identityUserId := some "user"
      productId := some "prod_foundry" }

/-- Behind the end of its subscription the purchase leaves no work. Under an id with a NUL in it, it still
leaves a notice and an upgrade, and when the notice does not start the upgrade does. -/
theorem effects_of_namedPurchase :
    let store (s : String) : Database := Arrival.after
      ⟨(namedPurchase s).context,
        { (brokered .subscriptionCancelled "subscription.cancelled" "evt_1").event with
          subscriptionId := some s }⟩ (Database.ofCustomer "u" "u@example.com" .janua "cus")
    let bought := namedPurchase "sub\x00"
    let db := store "sub\x00"
    ((store "sub").ends .janua "sub" = true ∧ (namedPurchase "sub").effects (store "sub") = []) ∧
      db.ends .janua "sub\x00" = true ∧ (∃ u tier, bought.Activates db u tier) ∧
      (∃ t ∈ bought.effects db, t.isNotification = true) ∧
      (bought.under (.unstarted 0)).tasks db = [.roleUpgrade "user" (some "prod_foundry")] := by
  intro store bought db
  have hended : (store "sub").ends .janua "sub" = true := by decide +kernel
  have hquiet : (namedPurchase "sub").effects (store "sub") = [] := by
    by_contra hwork
    obtain ⟨-, -, hnul⟩ := effects_follow_grants (namedPurchase "sub") (store "sub")
    exact absurd (hnul "sub" rfl rfl (by decide) hended hwork) (by decide)
  obtain ⟨hfollows, hstarts, -⟩ := effects_follow_grants bought db
  have hactivates : ∃ u tier, bought.Activates db u tier := by
    refine hfollows.activates.mpr ⟨by decide +kernel, .inl rfl, by decide, ?_⟩
    rintro ⟨-, s, own, -, hcancels⟩
    obtain rfl : "sub\x00" = s := Option.some.inj own
    have hmissed : db.cancels .janua "sub\x00" = false := by decide +kernel
    rw [show bought.event.provider = .janua from rfl, hmissed] at hcancels
    cases hcancels
  refine ⟨⟨hended, hquiet⟩, by decide +kernel, hactivates,
    hfollows.notified.mpr ⟨hactivates, by decide⟩, ?_⟩
  rw [hstarts.others]
  decide +kernel

end Arrival
end SubscriptionBilling
