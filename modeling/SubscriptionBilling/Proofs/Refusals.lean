import SubscriptionBilling.Proofs.Records

/-! What the store refuses of an event: a subscription that somebody else has already, and an amount
that no number of 64 bits comes near. In calm circumstances nothing else keeps an event in its time
from being processed. -/
namespace SubscriptionBilling

/-- An amount is kept if a number of 64 bits comes near it. -/
theorem isSome_bookedAmount? (d : Decimal) :
    (bookedAmount? d).isSome = (Binary64.ofDecimal d).isFinite := by
  unfold bookedAmount?
  cases Binary64.ofDecimal d <;> rfl

theorem meet_eq_true_iff {x y : Option String} :
    meet x y = true ↔ ∃ s, x = some s ∧ y = some s := by
  unfold meet
  cases x <;> simp [eq_comm]

/-- A change that gives no other account with the direct processor can only clash over the
subscription. -/
theorem Subscriber.clashes_apply {ch : SubscriberChange} (account : ch.stripeCustomerId = none)
    {u v : Subscriber} (h : v.clashes u = false) :
    v.clashes (ch.apply u) = meet v.providerSubscriptionId (ch.apply u).providerSubscriptionId := by
  simp only [Subscriber.clashes, Bool.or_eq_false_iff] at h
  simp only [Subscriber.clashes, SubscriberChange.apply, account, Option.getD_none, h.1.1, h.1.2,
    Bool.false_or]

namespace ProviderEvent

/-- The amount under which an event is booked. -/
theorem amount_of_posting {e : ProviderEvent} {now : Moment} {ended : Bool} {u : Subscriber}
    {posting : Posting} (h : (e.transition now ended u).posting = some posting) :
    posting.amount = if e.kind = .subscriptionCancelled then Decimal.zero else e.amount := by
  unfold transition at h
  cases kind : e.kind <;> simp only [kind] at h
  case subscriptionCreated =>
    obtain ⟨facts, hposting⟩ := onCreated_posting now ended e u
    exact Option.some.inj (h.symm.trans hposting) ▸ rfl
  case subscriptionUpdated =>
    cases h.symm.trans (onUpdated_quiet e u).2.1
  case subscriptionCancelled =>
    obtain ⟨facts, hposting⟩ := onCancelled_posting e u
    exact Option.some.inj (h.symm.trans hposting) ▸ rfl
  case subscriptionPaused => cases h
  case subscriptionResumed => cases h.symm.trans (onResumed_quiet e).2.1
  case checkoutCompleted =>
    obtain ⟨facts, hposting⟩ := onCheckoutCompleted_posting now e u
    exact Option.some.inj (h.symm.trans hposting) ▸ rfl
  all_goals exact Option.some.inj h ▸ rfl

/-- Only a kind that is booked has an entry, which goes by the event's own id. -/
theorem booked_of_posting {e : ProviderEvent} {now : Moment} {ended : Bool} {u : Subscriber}
    {posting : Posting} (h : (e.transition now ended u).posting = some posting) :
    e.kind.isBooked = true ∧ posting.provider = e.provider ∧ posting.eventId = e.eventId := by
  cases booked : e.kind.isBooked with
  | false => cases h.symm.trans (quiet_of_not_booked booked now ended u).2.1
  | true =>
    obtain ⟨_, _, _, _, hown⟩ := posting_of_booked booked now ended u
    obtain rfl := Option.some.inj (h.symm.trans hown)
    exact ⟨rfl, rfl, rfl⟩

/-- What the store does not take of an event, whenever it is processed. -/
inductive IsRefused (db : Database) (e : ProviderEvent) (u : Subscriber) : Prop
  | held {s : String} {w : Subscriber} (stores : e.Stores (e.hasEnded db) s)
      (other : w ∈ db.subscribers) (distinct : w.id ≠ u.id)
      (holds : w.providerSubscriptionId = some s)
  | outOfReach (booked : e.kind.isBooked = true) (kind : e.kind ≠ .subscriptionCancelled)
      (amount : (Binary64.ofDecimal e.amount).isFinite = false)

/-- The store admits the change of an event unless somebody else has the subscription. -/
theorem admits_iff {c : Context} {db : Database} {e : ProviderEvent} {u : Subscriber}
    {ch : SubscriberChange} (consistent : db.Consistent) (hu : u ∈ db.subscribers)
    (h : (e.transitionAt c db u).change = some ch) :
    db.Admits u.id ch ↔ ∀ s, e.Stores (e.hasEnded db) s →
      ∀ w ∈ db.subscribers, w.id ≠ u.id → w.providerSubscriptionId ≠ some s := by
  obtain ⟨hch, hclears, haccount⟩ := (writes_of_change h).keeps
  have hedit : (e.transitionAt c db u).edit = ch := by rw [Transition.edit, h, Option.getD_some]
  have hstores : ∀ s, e.Stores (e.hasEnded db) s ↔ ch.providerSubscriptionId = some (some s) :=
    fun s => hedit ▸ stores_iff.symm
  have hrow : db.subscriber? u.id = some u := consistent.subscriber?_eq_some_iff.mpr ⟨hu, rfl⟩
  have hclash : ∀ w ∈ db.subscribers, w.id ≠ u.id → w.clashes u = false := fun w hw hne =>
    (consistent.distinct hw hu fun hwu => hne (congrArg Subscriber.id hwu)).2
  constructor
  · intro hadmits s hs w hw hne hholds
    have hfree := (hadmits hch u hrow).2 w hw hne
    have happly : (ch.apply u).providerSubscriptionId = some s := by
      simp only [SubscriberChange.apply, (hstores s).mp hs, Option.getD_some]
    rw [Subscriber.clashes_apply haccount (hclash w hw hne),
      meet_eq_true_iff.mpr ⟨s, hholds, happly⟩] at hfree
    cases hfree
  · intro hfree _ v hv
    obtain rfl := Option.some.inj (hrow.symm.trans hv)
    refine ⟨hclears, fun w hw hne => ?_⟩
    rw [Subscriber.clashes_apply haccount (hclash w hw hne), Bool.eq_false_iff]
    intro hmeet
    obtain ⟨s, hholds, happly⟩ := meet_eq_true_iff.mp hmeet
    cases hid : ch.providerSubscriptionId with
    | none =>
      -- Then the two held the same subscription before.
      simp only [SubscriberChange.apply, hid, Option.getD_none] at happly
      have hboth := hclash w hw hne
      simp only [Subscriber.clashes, meet_eq_true_iff.mpr ⟨s, hholds, happly⟩, Bool.or_true] at hboth
      cases hboth
    | some stored =>
      simp only [SubscriberChange.apply, hid, Option.getD_some] at happly
      exact hfree s ((hstores s).mpr (happly ▸ hid)) w hw hne hholds

/-- A transition passes in calm circumstances exactly if the store refuses nothing of it. -/
theorem passes_iff {c : Context} {db : Database} {e : ProviderEvent} {u : Subscriber}
    (consistent : db.Consistent) (calm : c.fault = none) (hu : u ∈ db.subscribers)
    (fresh : db.books e.provider e.eventId = false) :
    (e.transitionAt c db u).Passes c u db ↔ ¬e.IsRefused db u := by
  have hstrike := strike_of_undisturbed calm
  constructor
  · rintro passes (⟨stores, other, distinct, holds⟩ | ⟨booked, kind, amount⟩)
    · cases hch : (e.transitionAt c db u).change with
      | none =>
        have hedit : (e.transitionAt c db u).edit.providerSubscriptionId = some (some _) :=
          stores_iff.mpr stores
        rw [Transition.edit, hch] at hedit
        cases hedit
      | some ch =>
        have hadmits := (passes.change ch hch).2
        exact (admits_iff consistent hu hch).mp hadmits _ stores _ other distinct holds
    · obtain ⟨_, _, _, _, hposting⟩ := posting_of_booked booked c.moment (e.hasEnded db) u
      have hkept := (passes.posting _ hposting).2.2
      rw [amount_of_posting hposting, if_neg kind, isSome_bookedAmount?, amount] at hkept
      cases hkept
  · intro hno
    refine ⟨fun ch hch => ⟨hstrike _, (admits_iff consistent hu hch).mpr ?_⟩, fun _ => hstrike _,
      fun posting hposting => ?_⟩
    · exact fun s stores w other distinct holds => hno (.held stores other distinct holds)
    · obtain ⟨booked, hprovider, heventId⟩ := booked_of_posting hposting
      refine ⟨hstrike _, by rwa [hprovider, heventId], ?_⟩
      rw [amount_of_posting hposting, isSome_bookedAmount?]
      split
      · decide +kernel
      · next kind =>
        by_contra amount
        exact hno (.outOfReach booked kind (Bool.eq_false_iff.mpr amount))

section Calm
variable {c : Context} {db : Database} {e : ProviderEvent} {u : Subscriber}

/-- What is not refused is processed in calm circumstances, in its time and for the first time. -/
theorem settles_of_not_isRefused (consistent : db.Consistent) (calm : c.fault = none)
    (inTime : c.settings.webhookDeadlineSeconds.isPositive = true)
    (fresh : db.books e.provider e.eventId = false) (subject : e.subject? db = some u)
    (h : ¬e.IsRefused db u) : e.Settles c db u := by
  have hstrike := strike_of_undisturbed calm
  have passes := (passes_iff consistent calm (mem_of_subject? subject) fresh).mpr h
  exact ⟨inTime, hstrike _, hstrike _, .inr fresh, subject, passes⟩

theorem apply_of_booked (calm : c.fault = none) (h : db.books e.provider e.eventId = true) :
    e.apply c db = .ok (⟨.duplicate, []⟩, db) := by
  rw [apply_eq_ok, if_pos ⟨by simp [calm], h⟩]
  exact ⟨strike_of_undisturbed calm _, rfl, rfl⟩

theorem apply_of_unmapped (calm : c.fault = none) (fresh : db.books e.provider e.eventId = false)
    (h : e.subject? db = none) : e.apply c db = .ok (⟨.unmapped, []⟩, db) := by
  rw [apply_eq_ok, if_neg (by simp [fresh]), h]
  exact ⟨strike_of_undisturbed calm _, rfl, rfl⟩

/-- Without a disturbance, processing fails when there is no time for it, and when the store refuses
the event of a subscriber that was not booked before. -/
theorem process_fails_iff (consistent : db.Consistent) (calm : c.fault = none) :
    (∃ f, e.process c db = (.error f, db)) ↔
      c.settings.webhookDeadlineSeconds.isPositive = false ∨
        db.books e.provider e.eventId = false ∧
          ∃ u, e.subject? db = some u ∧ e.IsRefused db u := by
  cases inTime : c.settings.webhookDeadlineSeconds.isPositive with
  | false =>
    simp only [true_or, iff_true]
    exact ⟨.deadline, by simp [process, limited, inTime, Transaction.attempt]⟩
  | true =>
    simp only [Bool.true_eq_false, false_or]
    constructor
    · rintro ⟨f, hf⟩
      have hstuck : ∀ r, e.apply c db ≠ .ok r := by
        intro r hr
        have hopened := strike_of_undisturbed calm .session
        cases hf.symm.trans (process_of_ok (limited_eq_ok.mpr ⟨inTime, hopened, hr⟩))
      cases hbooks : db.books e.provider e.eventId with
      | true => exact absurd (apply_of_booked calm hbooks) (hstuck _)
      | false =>
        cases hsubject : e.subject? db with
        | none => exact absurd (apply_of_unmapped calm hbooks hsubject) (hstuck _)
        | some u =>
          refine ⟨rfl, u, rfl, by_contra fun hno => ?_⟩
          have settles := settles_of_not_isRefused consistent calm inTime hbooks hsubject hno
          exact hstuck _ settles.apply
    · rintro ⟨fresh, u, subject, refused⟩
      rcases e.process_cases c db with ⟨v, hs, -⟩ | ⟨-, hknown⟩ | ⟨-, hnone⟩ | hfails
      · obtain rfl := Option.some.inj (subject.symm.trans hs.subject)
        have hmem := mem_of_subject? subject
        exact absurd refused ((passes_iff consistent calm hmem fresh).mp hs.passes)
      · cases fresh.symm.trans hknown
      · cases subject.symm.trans hnone
      · exact hfails

end Calm

/-- The subscription of one customer is announced for another one. -/
example :
    let announced := Arrival.brokered .subscriptionCreated "subscription.created"
    let db : Database :=
      { subscribers := (Database.ofCustomer "u" "u@example.com" .janua "cus").subscribers ++
          (Database.ofCustomer "w" "w@example.com" .janua "cus_2").subscribers }
    let e := { (announced "evt_2").event with customerId := some "cus_2" }
    (e.process { settings := {}, now := 0 } ((announced "evt_1").after db)).1 =
      .error .constraint := by
  rfl

/-- The store refuses neither an update nor a cancellation. -/
theorem not_isRefused {e : ProviderEvent}
    (kind : e.kind = .subscriptionUpdated ∨ e.kind = .subscriptionCancelled) (db : Database)
    (u : Subscriber) : ¬e.IsRefused db u := by
  rintro (⟨⟨-, hstores⟩, -, -, -⟩ | ⟨booked, hkind, -⟩)
  · rcases kind with kind | kind <;> simp [kind] at hstores
  · rcases kind with kind | kind
    · rw [kind] at booked
      cases booked
    · exact hkind kind

end ProviderEvent

/-- An update or a cancellation that nothing disturbs is processed the first time. -/
theorem Arrival.settles_of_undisturbed {a : Arrival} {db : Database} {u : Subscriber}
    (consistent : db.Consistent)
    (kind : a.event.kind = .subscriptionUpdated ∨ a.event.kind = .subscriptionCancelled)
    (subject : a.event.subject? db = some u)
    (fresh : db.books a.event.provider a.event.eventId = false) (calm : a.context.fault = none)
    (inTime : a.context.settings.webhookDeadlineSeconds.isPositive = true) :
    a.event.Settles a.context db u :=
  ProviderEvent.settles_of_not_isRefused consistent calm inTime fresh subject
    (ProviderEvent.not_isRefused kind db u)

end SubscriptionBilling
