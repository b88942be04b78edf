import SubscriptionBilling.Proofs.Records
import SubscriptionBilling.Proofs.ServiceWrites

/-! Where the subscription in a record comes from. Whatever stores a subscription stores its provider
beside it, but resumptions and completed checkouts store a provider also when they name no
subscription, and then another provider's one stays. -/
namespace SubscriptionBilling

namespace ProviderEvent

/-- A subscription that is in a record after an edit was there before, under the same provider or
under that of an event which names none, or the event names it. -/
theorem holds_after_edit {now : Moment} {ended : Bool} {e : ProviderEvent} {u v : Subscriber}
    {s : String}
    (h : ((e.transition now ended u).edit.apply v).providerSubscriptionId = some s) :
    (v.providerSubscriptionId = some s ∧
      ((e.transition now ended u).edit.apply v).billingProvider = v.billingProvider) ∨
    (e.subscriptionId = some s ∧
      ((e.transition now ended u).edit.apply v).billingProvider = some e.provider) ∨
    ((e.kind = .subscriptionResumed ∨ e.kind = .checkoutCompleted) ∧
      e.grantedTier.isSome = true ∧ filled e.subscriptionId = none ∧
      v.providerSubscriptionId = some s ∧
      ((e.transition now ended u).edit.apply v).billingProvider = some e.provider) := by
  unfold Transition.edit at h ⊢
  cases hch : (e.transition now ended u).change with
  | none =>
    rw [hch] at h
    exact .inl ⟨h, rfl⟩
  | some ch =>
    rw [hch, Option.getD_some] at h
    rw [Option.getD_some]
    cases writes_of_change hch with
    | created kind granted running => exact .inr (.inl ⟨h, rfl⟩)
    | updated kind active same ends => exact .inl ⟨h, rfl⟩
    | cancelled kind same => cases h
    | resumed kind granted =>
      cases hnamed : filled e.subscriptionId with
      | none =>
        rw [hnamed] at h
        exact .inr (.inr ⟨.inl kind, by rw [granted]; rfl, rfl, h, rfl⟩)
      | some t =>
        rw [hnamed] at h
        obtain rfl : t = s := Option.some.inj h
        exact .inr (.inl ⟨(filled_eq_some_iff.mp hnamed).1, rfl⟩)
    | bought kind granted =>
      cases hnamed : filled e.subscriptionId with
      | none =>
        rw [hnamed] at h
        exact .inr (.inr ⟨.inr kind, by rw [granted]; rfl, rfl, h, rfl⟩)
      | some t =>
        rw [hnamed] at h
        obtain rfl : t = s := Option.some.inj h
        exact .inr (.inl ⟨(filled_eq_some_iff.mp hnamed).1, rfl⟩)

end ProviderEvent

namespace Arrival

/-- An arrival that is processed for the subscriber under an id, from a provider. -/
structure Reaches (id : String) (p : Provider) (k : Arrival × Database) : Prop where
  processed : k.1.isProcessed k.2 = true
  subject : (k.1.event.subject? k.2).map (fun u => u.id) = some id
  provider : k.1.event.provider = p

/-- An arrival with which a provider names a subscription of a subscriber. -/
structure Issues (id : String) (p : Provider) (s : String) (k : Arrival × Database) : Prop
    extends Reaches id p k where
  subscription : k.1.event.subscriptionId = some s

/-- An arrival with which a provider comes to charge a subscriber who holds a subscription of another
provider's, without naming one of its own. -/
structure TakesOver (id : String) (p : Provider) (s : String) (k : Arrival × Database) : Prop
    extends Reaches id p k where
  kind : k.1.event.kind = .subscriptionResumed ∨ k.1.event.kind = .checkoutCompleted
  granted : k.1.event.grantedTier.isSome = true
  unnamed : ProviderEvent.filled k.1.event.subscriptionId = none
  held : ∃ v q, k.2.subscriber? id = some v ∧ v.providerSubscriptionId = some s ∧
    v.billingProvider = some q ∧ q ≠ p

/-- How a subscription can have come to stand beside a provider: the provider has issued it, or
another one has, and the provider took the subscriber over later. -/
inductive Accounts (past : List (Arrival × Database)) (id : String) (p : Provider) (s : String) :
    Prop
  | issued {k : Arrival × Database} (mem : k ∈ past) (issue : Issues id p s k)
  | takenOver {k j : Arrival × Database} {q : Provider} (order : List.Sublist [k, j] past)
      (other : q ≠ p) (issue : Issues id q s k) (takes : TakesOver id p s j)

theorem Accounts.mono {past present : List (Arrival × Database)} {id : String} {p : Provider}
    {s : String} (h : Accounts past id p s) (grows : past.Sublist present) :
    Accounts present id p s := by
  cases h with
  | issued mem issue => exact .issued (grows.subset mem) issue
  | takenOver order other issue takes => exact .takenOver (order.trans grows) other issue takes

/-- A takeover leaves a subscription accounted for. -/
theorem Accounts.takeOver {past : List (Arrival × Database)} {id : String} {p q : Provider}
    {s : String} {k : Arrival × Database} (h : Accounts past id q s)
    (takes : TakesOver id p s k) :
    Accounts (past ++ [k]) id p s := by
  -- Whoever issued the subscription, only whether it was the one who takes over counts.
  obtain ⟨j, r, mem, issue⟩ : ∃ j r, j ∈ past ∧ Issues id r s j := by
    cases h with
    | issued mem issue => exact ⟨_, _, mem, issue⟩
    | takenOver order other issue takes => exact ⟨_, _, order.subset List.mem_cons_self, issue⟩
  by_cases hr : r = p
  · exact .issued (List.mem_append_left _ mem) (hr ▸ issue)
  · have order : List.Sublist [j, k] (past ++ [k]) :=
      (List.singleton_sublist.mpr mem).append (List.Sublist.refl [k])
    exact .takenOver order hr issue takes

/-- Every subscription in a record is accounted for by the past, for the provider beside it. -/
def Explains (past : List (Arrival × Database)) (db : Database) : Prop :=
  ∀ id v s, db.subscriber? id = some v → v.providerSubscriptionId = some s →
    ∃ p, v.billingProvider = some p ∧ Accounts past id p s

/-- One more arrival keeps every subscription accounted for. -/
theorem Explains.step {past : List (Arrival × Database)} {db : Database} (h : Explains past db)
    (a : Arrival) : Explains (past ++ [(a, db)]) (a.after db) := by
  intro id v s hv hs
  have hold : ∀ w, db.subscriber? id = some w → w.providerSubscriptionId = some s →
      ∃ p, w.billingProvider = some p ∧ Accounts (past ++ [(a, db)]) id p s := by
    intro w hw hws
    obtain ⟨p, hp, haccounts⟩ := h id w s hw hws
    exact ⟨p, hp, haccounts.mono (List.sublist_append_left _ _)⟩
  cases hprocessed : a.isProcessed db with
  | false =>
    rw [after_eq_of_not_processed hprocessed] at hv
    exact hold v hv hs
  | true =>
    obtain ⟨u, hsettles⟩ := isProcessed_iff.mp hprocessed
    rw [subscriber?_of_settles hsettles] at hv
    split at hv
    · next hid =>
      obtain ⟨w, hw, rfl⟩ := Option.map_eq_some_iff.mp hv
      have hw : db.subscriber? id = some w := hid ▸ hw
      have reaches : Reaches id a.event.provider (a, db) :=
        ⟨hprocessed, by rw [hsettles.subject, hid]; rfl, rfl⟩
      rcases ProviderEvent.holds_after_edit hs with
        ⟨hsame, hprovider⟩ | ⟨hnamed, hprovider⟩ | ⟨kind, granted, unnamed, hsame, hprovider⟩
      · obtain ⟨p, hp, haccounts⟩ := hold w hw hsame
        exact ⟨p, hprovider.trans hp, haccounts⟩
      · exact ⟨_, hprovider, .issued (List.mem_append_right _ List.mem_cons_self)
          ⟨reaches, hnamed⟩⟩
      · obtain ⟨q, hq, haccounts⟩ := h id w s hw hsame
        refine ⟨_, hprovider, ?_⟩
        by_cases hqp : q = a.event.provider
        · exact hqp ▸ haccounts.mono (List.sublist_append_left _ _)
        · exact haccounts.takeOver ⟨reaches, kind, granted, unnamed, w, q, hw, hsame, hq, hqp⟩
    · exact hold v hv hs

theorem Explains.run {past : List (Arrival × Database)} {db : Database} (h : Explains past db)
    (arrivals : List Arrival) : Explains (past ++ trace arrivals db) (Arrival.run arrivals db) := by
  induction arrivals generalizing past db with
  | nil => simpa [trace] using h
  | cons a rest ih => simpa [trace] using ih (h.step a)

end Arrival

namespace Subscription
variable (c : Context) (id : String) (w : World)

/-- A subscriber is looked up in the store as it is, and nothing else is done. -/
theorem require_cases :
    (∃ u, require c id w = (.ok u, w) ∧ w.database.subscriber? id = some u) ∨
      ∃ f, require c id w = (.error f, w) := by
  unfold require
  rcases Service.read_cases c (fun db => db.subscriber? id) w with ⟨f, hread⟩ | hread
  · rw [bind_of_error hread]
    exact .inr ⟨f, rfl⟩
  · rw [bind_of_ok hread]
    cases w.database.subscriber? id with
    | none => exact .inr ⟨_, rfl⟩
    | some u => exact .inl ⟨u, rfl, rfl⟩

/-- A request to cancel goes to the provider in the record, with the subscription beside it. -/
theorem network_cancel :
    (cancel c id w).2.network = w.network ∨
      ∃ v p s, w.database.subscriber? id = some v ∧ v.providerSubscriptionId = some s ∧
        v.billingProvider = some p ∧
        (cancel c id w).2.network =
          (Payment.cancelSubscription c.settings p s
            ((Router.ofSettings c.settings).routeExisting p v.countryCode) w.network).2 := by
  unfold cancel
  rcases require_cases c id w with ⟨u, hrequire, hu⟩ | ⟨f, hrequire⟩
  · rw [bind_of_ok hrequire]
    cases hs : u.providerSubscriptionId.filter fun t => !t.isEmpty with
    | none => exact .inl rfl
    | some s =>
      cases hp : u.billingProvider with
      | none => exact .inl rfl
      | some p =>
        have own : u.providerSubscriptionId = some s := (Option.filter_eq_some_iff.mp hs).1
        refine .inr ⟨u, p, s, hu, own, hp, ?_⟩
        rw [snd_bind_pure]
        rfl
  · rw [bind_of_error hrequire]
    exact .inl rfl

end Subscription

namespace Arrival

/-- In a store in which nobody has had a subscription at first, every one stands beside a provider who
has issued it, or who has taken its subscriber over from another one, and requests to cancel send
providers no others. -/
theorem issued_or_taken_over {db : Database}
    (unsubscribed : ∀ v ∈ db.subscribers, v.providerSubscriptionId = none)
    (arrivals : List Arrival) :
    (∀ id v s, (run arrivals db).subscriber? id = some v → v.providerSubscriptionId = some s →
      ∃ p, v.billingProvider = some p ∧ Accounts (trace arrivals db) id p s) ∧
    ∀ c id w, w.database = run arrivals db →
      (Subscription.cancel c id w).2.network = w.network ∨
        ∃ p s route, Accounts (trace arrivals db) id p s ∧
          (Subscription.cancel c id w).2.network =
            (Payment.cancelSubscription c.settings p s route w.network).2 := by
  have start : Explains [] db := by
    intro id v s hv hs
    rw [unsubscribed v (Database.mem_of_subscriber? hv)] at hs
    cases hs
  have hrun : Explains (trace arrivals db) (run arrivals db) := start.run arrivals
  refine ⟨hrun, fun c id w hw => ?_⟩
  rcases Subscription.network_cancel c id w with hnone | ⟨v, p, s, hv, hs, hp, hsent⟩
  · exact .inl hnone
  · obtain ⟨q, hq, haccounts⟩ := hrun id v s (hw ▸ hv) hs
    obtain rfl : p = q := Option.some.inj (hp.symm.trans hq)
    exact .inr ⟨p, s, _, haccounts, hsent⟩

/-- The broker resumes, without naming any, what the direct processor has sold. -/
theorem taken_over_by_broker :
    let resumed : Arrival := ⟨directPurchase.context,
      { (brokered .subscriptionResumed "" "evt_2").event with subscriptionId := none }⟩
    let arrivals := [directPurchase, resumed]
    let db := Database.customerOfBoth
    ∃ v, (run arrivals db).subscriber? "u" = some v ∧ v.billingProvider = some .janua ∧
      v.providerSubscriptionId = some "sub" ∧ Accounts (trace arrivals db) "u" .janua "sub" ∧
      ¬∃ k ∈ trace arrivals db, Issues "u" .janua "sub" k := by
  intro resumed arrivals db
  have hrecord : ((run arrivals db).subscriber? "u").map (fun v => (v.billingProvider,
      v.providerSubscriptionId)) = some (some .janua, some "sub") := by
    decide +kernel
  obtain ⟨v, hv, hfields⟩ := Option.map_eq_some_iff.mp hrecord
  obtain ⟨hprovider, holds⟩ : v.billingProvider = some .janua ∧
      v.providerSubscriptionId = some "sub" := by simpa using hfields
  have unsubscribed : ∀ v ∈ db.subscribers, v.providerSubscriptionId = none := by decide +kernel
  obtain ⟨p, hp, haccounts⟩ :=
    (issued_or_taken_over unsubscribed arrivals).1 "u" v "sub" hv holds
  obtain rfl : p = .janua := Option.some.inj (hp.symm.trans hprovider)
  refine ⟨v, hv, hprovider, holds, haccounts, ?_⟩
  rintro ⟨k, hk, issue⟩
  have hmem := mem_of_mem_trace hk
  simp only [arrivals, List.mem_cons, List.not_mem_nil, or_false] at hmem
  rcases hmem with h | h
  · have hother := issue.provider
    rw [h] at hother
    cases hother
  · have hnamed := issue.subscription
    rw [h] at hnamed
    cases hnamed

end Arrival
end SubscriptionBilling
