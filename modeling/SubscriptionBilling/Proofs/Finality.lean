import SubscriptionBilling.Proofs.Records
import SubscriptionBilling.Proofs.TextPieces
import SubscriptionBilling.Webhook.JanuaPayload

/-! What the end of a subscription in the ledger prevents. The entry stays, but only the creation of a
subscription looks for it: a resumption and a completed checkout bring the subscription back. -/
namespace SubscriptionBilling

/-- A stored text is found under what it has in front of its first NUL. -/
theorem Column.comparedText?_string_eq_some_iff {stored searched : String} :
    comparedText? (.string stored) = some searched ↔ '\x00' ∉ searched.toList ∧
      (stored = searched ∨ ∃ rest, stored = searched ++ "\x00" ++ rest) := by
  have htext : ∀ rest, stored = searched ++ "\x00" ++ rest ↔
      stored.toList = searched.toList ++ '\x00' :: rest.toList := by
    intro rest
    simp [← String.toList_inj]
  have hread : comparedText? (.string stored) = some searched ↔
      stored.toList.takeWhile (· ≠ '\x00') = searched.toList := by
    rw [comparedText?, Option.some.injEq, ← String.toList_inj, String.toList_ofList]
  rw [hread, ← Text.cutFirst_getD, ← String.toList_inj]
  simp only [htext]
  cases hcut : Text.cutFirst '\x00' stored.toList with
  | none =>
    have hplain := Text.cutFirst_eq_none.mp hcut
    refine ⟨fun h => ⟨h ▸ hplain, .inl h⟩, fun h => ?_⟩
    rcases h.2 with hsame | ⟨rest, hrest⟩
    · exact hsame
    · exact absurd (hrest ▸ List.mem_append_right _ List.mem_cons_self) hplain
  | some cut =>
    obtain ⟨hplain, hsplit⟩ := Text.cutFirst_eq_some.mp hcut
    constructor
    · intro h
      have hfront : cut.1 = searched.toList := h
      rw [hfront] at hplain hsplit
      exact ⟨hplain, .inr ⟨String.ofList cut.2, by rw [String.toList_ofList, hsplit]⟩⟩
    · rintro ⟨hsearched, hsame | ⟨rest, hrest⟩⟩
      · rw [hsame] at hsplit
        exact absurd (hsplit ▸ List.mem_append_right _ List.mem_cons_self) hsearched
      · have hagain := Text.cutFirst_eq_some.mpr ⟨hsearched, hrest⟩
        rw [hcut] at hagain
        exact congrArg Prod.fst (Option.some.inj hagain)

/-- The text under which an entry names its subscription. -/
def LedgerEntry.subscriptionId? (e : LedgerEntry) : Option String :=
  match e.metadata.lookup "subscription_id" with
  | some (.string s) => some s
  | _ => none

/-- Whether an entry says that a provider ended a subscription. -/
def LedgerEntry.ends (e : LedgerEntry) (p : Provider) (s : String) : Bool :=
  e.provider = p && e.kind = .subscriptionCancelled && e.subscriptionId? = some s

namespace Database

/-- Whether the ledger holds the end of a subscription. -/
def ends (db : Database) (p : Provider) (s : String) : Bool := db.ledger.any fun e => e.ends p s

theorem ends_of_isPrefix {db after : Database} {p : Provider} {s : String}
    (grows : List.IsPrefix db.ledger after.ledger) (h : db.ends p s = true) :
    after.ends p s = true := by
  obtain ⟨e, he, hends⟩ := List.any_eq_true.mp h
  exact List.any_eq_true.mpr ⟨e, grows.subset he, hends⟩

/-- A query finds the end of a subscription whose id has no NUL in it. -/
theorem cancels_of_ends {db : Database} {p : Provider} {s : String} (plain : '\x00' ∉ s.toList)
    (h : db.ends p s = true) : db.cancels p s = true := by
  obtain ⟨e, he, hends⟩ := List.any_eq_true.mp h
  refine List.any_eq_true.mpr ⟨e, he, ?_⟩
  simp only [LedgerEntry.ends, Bool.and_eq_true, decide_eq_true_eq] at hends
  obtain ⟨⟨hprovider, hkind⟩, hid⟩ := hends
  have hwhole : Column.comparedText? (.string s) = some s :=
    Column.comparedText?_string_eq_some_iff.mpr ⟨plain, .inl rfl⟩
  have htext : e.subscriptionText? = some s := by
    unfold LedgerEntry.subscriptionId? at hid
    unfold LedgerEntry.subscriptionText?
    split at hid
    · next t ht =>
      obtain rfl := Option.some.inj hid
      rw [ht, Option.bind_some, hwhole]
    · cases hid
  simp [LedgerEntry.cancels, hprovider, hkind, htext]

end Database

/-- Whether a change sets a paid tier or a subscription. -/
def SubscriberChange.Revives (s : String) (ch : SubscriberChange) : Prop :=
  (∃ tier, ch.tier = some (some tier) ∧ tier ≠ .community) ∨
    ch.providerSubscriptionId = some (some s)

/-- What does not revive a subscription leaves a record as it is in this respect. -/
theorem SubscriberChange.keeps_of_not_revives {s : String} {ch : SubscriberChange}
    (h : ¬ch.Revives s) (u : Subscriber) :
    ((ch.apply u).tier = u.tier ∨ (ch.apply u).tier = .community) ∧
      ((ch.apply u).providerSubscriptionId = some s → u.providerSubscriptionId = some s) := by
  obtain ⟨htier, hid⟩ := not_or.mp h
  constructor
  · cases hch : ch.tier with
    | none => exact .inl (by simp only [apply, hch, Option.getD_none, Option.getD_some])
    | some written =>
      cases written with
      | none => exact .inl (by simp only [apply, hch, Option.getD_none, Option.getD_some])
      | some tier =>
        have hbase : tier = .community := by
          by_contra hne
          exact htier ⟨tier, hch, hne⟩
        exact .inr (by simp only [apply, hch, Option.getD_some, hbase])
  · cases hch : ch.providerSubscriptionId with
    | none => simp only [apply, hch, Option.getD_none, imp_self]
    | some written =>
      intro happly
      simp only [apply, hch, Option.getD_some] at happly
      exact absurd (happly ▸ hch) hid

namespace ProviderEvent

/-- Whether an event puts its own subscription into the record: it grants a tier, be it only the base
one, and its kind does not ask whether the subscription has ended, or it has not. -/
def Restores (e : ProviderEvent) (ended : Bool) : Prop :=
  e.grantedTier.isSome = true ∧
    (e.kind = .subscriptionResumed ∨ e.kind = .checkoutCompleted ∨
      e.kind = .subscriptionCreated ∧ ended = false)

theorem Restores.stores {e : ProviderEvent} {ended : Bool} (h : e.Restores ended) {s : String}
    (named : s ≠ "") (own : e.subscriptionId = some s) (now : Moment) (u : Subscriber) :
    (e.transition now ended u).edit.providerSubscriptionId = some (some s) := by
  have hfilled : filled e.subscriptionId = some s := filled_eq_some_iff.mpr ⟨own, named⟩
  obtain ⟨hgranted, hkind⟩ := h
  refine stores_iff.mpr ⟨hgranted, ?_⟩
  rcases hkind with kind | kind | ⟨kind, hended⟩
  · exact .inr ⟨.inl kind, hfilled⟩
  · exact .inr ⟨.inr kind, hfilled⟩
  · exact .inl ⟨kind, own, .inr hended⟩

/-- No other event sets a paid tier or its own subscription. -/
theorem revives_iff {e : ProviderEvent} {s : String} (named : s ≠ "")
    (own : e.subscriptionId = some s) (now : Moment) (ended : Bool) (u : Subscriber) :
    (e.transition now ended u).edit.Revives s ↔ e.Restores ended := by
  constructor
  · intro h
    unfold Transition.edit at h
    cases hch : (e.transition now ended u).change with
    | none =>
      rw [hch] at h
      simp [SubscriberChange.Revives] at h
    | some ch =>
      rw [hch, Option.getD_some] at h
      cases writes_of_change hch with
      | created kind granted running =>
        have hended : ended = false := by simpa [filled, own, named] using running
        exact ⟨by rw [granted]; rfl, .inr (.inr ⟨kind, hended⟩)⟩
      | updated kind active same ends => simp [SubscriberChange.Revives] at h
      | cancelled kind same => simp [SubscriberChange.Revives] at h
      | resumed kind granted => exact ⟨by rw [granted]; rfl, .inl kind⟩
      | bought kind granted => exact ⟨by rw [granted]; rfl, .inr (.inl kind)⟩
  · exact fun h => .inr (h.stores named own now u)

end ProviderEvent

namespace Arrival

/-- Whether an arrival sets a paid tier or a subscription in a record. -/
def Revives (s : String) (a : Arrival) (db : Database) : Prop :=
  ∃ u, a.event.Settles a.context db u ∧ (a.event.transitionAt a.context db u).edit.Revives s

/-- The arrivals that revive their own subscription. -/
theorem revives_iff {a : Arrival} {s : String} (named : s ≠ "")
    (own : a.event.subscriptionId = some s) (db : Database) :
    a.Revives s db ↔
      a.isProcessed db = true ∧ a.event.Restores (db.cancels a.event.provider s) := by
  have hended : a.event.hasEnded db = db.cancels a.event.provider s := by
    simp only [ProviderEvent.hasEnded, own]
  simp only [Revives, ProviderEvent.transitionAt, ProviderEvent.revives_iff named own, hended,
    exists_and_right, isProcessed_iff]

/-- A subscription that is revived is in a record again. -/
theorem stored_of_revives {a : Arrival} {s : String} (named : s ≠ "")
    (own : a.event.subscriptionId = some s) {db : Database} (h : a.Revives s db) :
    ∃ id v, (a.after db).subscriber? id = some v ∧ v.providerSubscriptionId = some s := by
  obtain ⟨u, hs, hedit⟩ := h
  have hstores := ((ProviderEvent.revives_iff named own _ _ u).mp hedit).stores named own
    a.context.moment u
  obtain ⟨w, hw⟩ := ProviderEvent.exists_subscriber?_of_subject? hs.subject
  refine ⟨u.id, (a.event.transitionAt a.context db u).edit.apply w, ?_, ?_⟩
  · rw [subscriber?_of_settles hs, if_pos rfl, hw, Option.map_some]
  · simp only [ProviderEvent.transitionAt, SubscriberChange.apply, hstores, Option.getD_some]

/-- An arrival that does not revive a subscription leaves it where it is, and leaves or takes away
every tier. -/
theorem kept_of_not_revives {a : Arrival} {s : String} {db : Database} (h : ¬a.Revives s db)
    {id : String} {v : Subscriber} (hv : (a.after db).subscriber? id = some v) :
    ∃ u, db.subscriber? id = some u ∧ (v.tier = u.tier ∨ v.tier = .community) ∧
      (v.providerSubscriptionId = some s → u.providerSubscriptionId = some s) := by
  rcases a.after_cases db with hdb | ⟨u, hs⟩
  · rw [hdb] at hv
    exact ⟨v, hv, .inl rfl, fun hid => hid⟩
  · have hedit : ¬(a.event.transitionAt a.context db u).edit.Revives s := fun he => h ⟨u, hs, he⟩
    rw [subscriber?_of_settles hs] at hv
    split at hv
    · next hid =>
      obtain ⟨w, hw, rfl⟩ := Option.map_eq_some_iff.mp hv
      exact ⟨w, hid ▸ hw, SubscriberChange.keeps_of_not_revives hedit w⟩
    · exact ⟨v, hv, .inl rfl, fun hid => hid⟩

/-- Once a provider has ended a subscription, its later arrivals do not bring it back, except
resumptions and completed checkouts that grant a tier, and creations under an id that no query
finds. Every exception does bring it back. -/
theorem revived_after_end {db : Database} {p : Provider} {s : String} (named : s ≠ "")
    (ended : db.ends p s = true) (later : List Arrival) :
    ∀ k ∈ trace later db, k.1.event.provider = p → k.1.event.subscriptionId = some s →
      k.2.ends p s = true ∧ ('\x00' ∉ s.toList → k.2.cancels p s = true) ∧
      (k.1.Revives s k.2 ↔ k.1.isProcessed k.2 = true ∧ k.1.event.grantedTier.isSome = true ∧
        (k.1.event.kind = .subscriptionResumed ∨ k.1.event.kind = .checkoutCompleted ∨
          k.1.event.kind = .subscriptionCreated ∧ k.2.cancels p s = false)) ∧
      (k.1.Revives s k.2 →
        ∃ id v, (k.1.after k.2).subscriber? id = some v ∧ v.providerSubscriptionId = some s) ∧
      (¬k.1.Revives s k.2 → ∀ id v, (k.1.after k.2).subscriber? id = some v →
        ∃ u, k.2.subscriber? id = some u ∧ (v.tier = u.tier ∨ v.tier = .community) ∧
          (v.providerSubscriptionId = some s → u.providerSubscriptionId = some s)) := by
  intro k hk provider own
  have hends : k.2.ends p s = true := Database.ends_of_isPrefix (ledger_of_mem_trace hk) ended
  refine ⟨hends, fun plain => Database.cancels_of_ends plain hends, ?_,
    stored_of_revives named own, fun h id v hv => kept_of_not_revives h hv⟩
  rw [revives_iff named own, provider]
  rfl

/-- A payload of the broker that says no more than it has to. -/
def brokerPayload (type eventId : String) : JanuaPayload.Payload where
  id := eventId
  type := type
  customerId := "cus"
  subscriptionId := some "sub"
  planId := some "pro"
  upstream := none
  status := none
  amount := none
  currency := none
  periodStart := none
  periodEnd := none
  userId := none
  organizationId := none

theorem revived_by_resumption :
    let cancelled := brokered .subscriptionCancelled "subscription.cancelled" "evt_1"
    let resumed := brokered .subscriptionResumed "subscription.resumed" "evt_2"
    let db := cancelled.after (Database.ofCustomer "u" "u@example.com" .janua "cus")
    (brokerPayload "subscription.cancelled" "evt_1").toEvent? = .ok (some cancelled.event) ∧
      (brokerPayload "subscription.resumed" "evt_2").toEvent? = .ok (some resumed.event) ∧
      db.ends .janua "sub" = true ∧ db.cancels .janua "sub" = true ∧ resumed.Revives "sub" db ∧
      ((resumed.after db).subscriber? "u").map (fun v => v.tier) = some .pro := by
  intro cancelled resumed db
  have ended : db.ends .janua "sub" = true := by decide +kernel
  obtain ⟨-, hcancels, hrevives, -⟩ :=
    revived_after_end (by decide) ended [resumed] (resumed, db) List.mem_cons_self rfl rfl
  refine ⟨by rfl, by rfl, ended, hcancels (by decide), hrevives.mpr ?_, by decide +kernel⟩
  exact ⟨by decide +kernel, by decide +kernel, .inl rfl⟩

end Arrival
end SubscriptionBilling
