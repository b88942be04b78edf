import SubscriptionBilling.Proofs.Operations
import SubscriptionBilling.Proofs.TierMoves

/-! What a subscriber at the base tier holds. Tiers are granted by plans and prices of paid tiers
alone, a period is written only for a subscription that is held, and the end of a subscription takes
tier, period and subscription away together. So nothing is left to hold at the base tier. -/
namespace SubscriptionBilling

/-- At the base tier there is no end of a period and no subscription. -/
def Subscriber.IsBareAtBase (u : Subscriber) : Prop :=
  u.tier = .community → u.tierExpiresAt = none ∧ u.providerSubscriptionId = none

namespace Subscriber

theorem IsBareAtBase.enrolled (id email : String) (name countryCode : Option String) (tier : Tier) :
    (Subscriber.enrolled id email name countryCode tier).IsBareAtBase := fun _ => ⟨rfl, rfl⟩

/-- Ids with the providers do not matter. -/
theorem IsBareAtBase.reassigned {u v : Subscriber} (h : u.IsBareAtBase) (same : u.IsReassigned v) :
    v.IsBareAtBase := by
  obtain ⟨_, _, rfl⟩ := same
  exact h

/-- An event that grants no base tier leaves the record of its subscriber as it has to be. -/
theorem IsBareAtBase.edit {u : Subscriber} (h : u.IsBareAtBase) {e : ProviderEvent}
    (paid : ∀ tier, e.grantedTier = some tier → tier ≠ .community) (now : Moment) (ended : Bool) :
    ((e.transition now ended u).edit.apply u).IsBareAtBase := by
  unfold Transition.edit
  cases hch : (e.transition now ended u).change with
  | none => exact h
  | some ch =>
    rw [Option.getD_some]
    intro hbase
    cases ProviderEvent.writes_of_change hch with
    | created kind granted running => exact absurd hbase (paid _ granted)
    | updated kind active same ends =>
      -- Whoever holds a subscription is not at the base tier, and the tier stays.
      have hnone : u.providerSubscriptionId = none := (h hbase).2
      rw [active] at hnone
      cases hnone
    | cancelled kind same => exact ⟨rfl, rfl⟩
    | resumed kind granted => exact absurd hbase (paid _ granted)
    | bought kind granted => exact absurd hbase (paid _ granted)

end Subscriber

/-- The event that an operation other than a handed-in event brings grants no base tier. -/
theorem Operation.paid_of_brings {c : Context} {o : Operation} {e : ProviderEvent}
    (outward : o.IsOutward) (brings : o.Brings c e) {tier : Tier}
    (granted : e.grantedTier = some tier) : tier ≠ .community := by
  cases brings with
  | delivered verified event => exact (Delivery.standsFor_of_grantedTier event granted).paid
  | handedIn => exact absurd rfl (outward e)

namespace Step

/-- Whatever is delivered and asked for, in whatever circumstances, a subscriber at the base tier
holds nothing if none did at first. -/
theorem base_tier_is_bare {steps : List Step} (outward : ∀ s ∈ steps, s.operation.IsOutward)
    {start : World} (consistent : start.database.Consistent)
    (bare : ∀ u ∈ start.database.subscribers, u.tier = .community →
      u.tierExpiresAt = none ∧ u.providerSubscriptionId = none) :
    ∀ u ∈ (run steps start).database.subscribers, u.tier = .community →
      u.tierExpiresAt = none ∧ u.providerSubscriptionId = none := by
  refine run_records (P := Subscriber.IsBareAtBase) (fun s hs db _ hdb v source => ?_) consistent bare
  cases source with
  | kept mem same => exact (hdb _ mem).reassigned same
  | enrolled new => exact new ▸ .enrolled _ _ _ _ _
  | edited brings settles edit =>
    rw [edit]
    have hu := hdb _ (ProviderEvent.mem_of_subject? settles.subject)
    exact hu.edit (fun _ granted => Operation.paid_of_brings (outward s hs) brings granted) _ _

/-- The broker's notice that a subscription has begun. -/
def beginningText : String :=
  "\x7b\"id\":\"evt_1\",\"type\":\"subscription.created\",\"data\":\x7b\"customer_id\":\"cus\",\"subscription_id\":\"sub\",\"plan_id\":\"pro\",\"current_period_end\":86400\x7d\x7d"

/-- The broker's notice that a subscription has ended. -/
def endingText : String :=
  "\x7b\"id\":\"evt_2\",\"type\":\"subscription.cancelled\",\"data\":\x7b\"customer_id\":\"cus\"\x7d\x7d"

/-- A subscriber who holds a subscription in between holds nothing when it has ended. -/
theorem base_tier_is_bare_after_ending :
    let start : World := { database := Database.ofCustomer "u" "u@example.com" .janua "cus" }
    (((signed .janua beginningText).after start).database.subscribers.map fun u =>
      (u.tier, u.tierExpiresAt.isSome, u.providerSubscriptionId)) = [(.pro, true, some "sub")] ∧
    let after := run [signed .janua beginningText, signed .janua endingText] start
    (after.database.subscribers.map fun u => u.tier) = [.community] ∧
    ∀ u ∈ after.database.subscribers, u.tierExpiresAt = none ∧ u.providerSubscriptionId = none := by
  intro start
  have hbeginning : Signature.isAscii beginningText.toList = true := by decide +kernel
  have hending : Signature.isAscii endingText.toList = true := by decide +kernel
  have hmoves :
      (((signed .janua beginningText).after start).database.subscribers.map fun u =>
        (u.tier, u.tierExpiresAt.isSome, u.providerSubscriptionId)) = [(.pro, true, some "sub")] ∧
      ((run [signed .janua beginningText, signed .janua endingText] start).database.subscribers.map
        fun u => u.tier) = [.community] := by
    rw [run_cons, run_cons, run_nil, database_signed .janua hending,
      database_signed .janua hbeginning]
    decide +kernel
  have houtward : ∀ s ∈ [signed .janua beginningText, signed .janua endingText],
      s.operation.IsOutward := by
    simp [Operation.IsOutward, signed]
  have hconsistent : start.database.Consistent :=
    (Database.reachable_ofCustomer "u" "u@example.com" .janua "cus").consistent
  refine ⟨hmoves.1, hmoves.2, fun u hu => ?_⟩
  have htier : u.tier ∈ [Tier.community] := hmoves.2 ▸ List.mem_map_of_mem hu
  exact base_tier_is_bare houtward hconsistent (by decide +kernel) u hu
    (List.mem_singleton.mp htier)

end Step
end SubscriptionBilling
