import Mathlib.Data.List.Induction
import SubscriptionBilling.Proofs.Operations

/-! Beside which provider a processor behind the broker stands in a record. Whatever writes such a
processor writes the broker beside it, and a new subscription of the direct processor clears it. A
checkout that is completed at the direct processor makes it the provider without looking at the
processor that is recorded, and then that one stays. -/
namespace SubscriptionBilling

namespace ProviderEvent

/-- Where the processor in a record after an edit comes from, if not the broker is recorded beside it:
it was there before, beside the same provider, or a checkout has put the direct processor there. -/
theorem upstream_after_edit {now : Moment} {ended : Bool} {e : ProviderEvent} {u : Subscriber}
    {x : String} (direct : e.provider = .stripe → e.upstreamProvider = none ∧
      e.kind ≠ .subscriptionResumed)
    (upstream : ((e.transition now ended u).edit.apply u).upstreamProvider = some x)
    (other : ((e.transition now ended u).edit.apply u).billingProvider ≠ some .janua) :
    u.upstreamProvider = some x ∧
      (((e.transition now ended u).edit.apply u).billingProvider = u.billingProvider ∨
        e.provider = .stripe ∧ e.kind = .checkoutCompleted ∧ e.grantedTier.isSome = true ∧
          ((e.transition now ended u).edit.apply u).billingProvider = some .stripe) := by
  have hdirect : some e.provider ≠ some Provider.janua → e.provider = .stripe := by
    cases e.provider <;> simp
  unfold Transition.edit at upstream other ⊢
  cases hch : (e.transition now ended u).change with
  | none =>
    rw [hch] at upstream
    exact ⟨upstream, .inl rfl⟩
  | some ch =>
    rw [hch, Option.getD_some] at upstream other
    rw [Option.getD_some]
    cases writes_of_change hch with
    | created kind granted running =>
      have hnone : e.upstreamProvider = none := (direct (hdirect other)).1
      cases hnone.symm.trans upstream
    | updated kind active same ends => exact ⟨upstream, .inl rfl⟩
    | cancelled kind same => exact ⟨upstream, .inl rfl⟩
    | resumed kind granted => exact absurd kind (direct (hdirect other)).2
    | bought kind granted =>
      have hstripe : e.provider = .stripe := hdirect other
      rw [(direct hstripe).1] at upstream
      exact ⟨upstream, .inr ⟨hstripe, kind, by rw [granted]; rfl, congrArg some hstripe⟩⟩

end ProviderEvent

/-- What an event of the direct processor's cannot say, in an operation other than a handed-in
event. -/
theorem Operation.direct_of_brings {c : Context} {o : Operation} {e : ProviderEvent}
    (outward : o.IsOutward) (brings : o.Brings c e) (direct : e.provider = .stripe) :
    e.upstreamProvider = none ∧ e.kind ≠ .subscriptionResumed := by
  cases brings with
  | delivered verified event => exact Delivery.direct_of_event? event direct
  | handedIn => exact absurd rfl (outward e)

namespace Step

/-- A step in which a checkout completed at the direct processor is processed for a subscriber whose
charges went through a processor of the broker's. -/
structure SellsOver (s : Step) (db : Database) (u : Subscriber) (x : String) (e : ProviderEvent) :
    Prop where
  brings : s.operation.Brings s.context e
  provider : e.provider = .stripe
  kind : e.kind = .checkoutCompleted
  granted : e.grantedTier.isSome = true
  settles : e.Settles s.context db u
  held : u.upstreamProvider = some x

/-- Such a step leaves the broker's processor in the record, beside the direct one. -/
theorem SellsOver.leaves {s : Step} {w : World} {u : Subscriber} {x : String} {e : ProviderEvent}
    (h : s.SellsOver w.database u x e) (outward : s.operation.IsOutward)
    (consistent : w.database.Consistent) :
    ∃ v ∈ (s.after w).database.subscribers, v.id = u.id ∧ v.upstreamProvider = some x ∧
      v.billingProvider = some .stripe := by
  obtain ⟨tier, granted⟩ := Option.isSome_iff_exists.mp h.granted
  have hwrites : e.Writes s.context.moment (e.hasEnded w.database) u _ := .bought h.kind granted
  have hafter : (s.after w).database = (⟨s.context, e⟩ : Arrival).after w.database :=
    database_of_brings h.brings w
  have hmem : u ∈ w.database.subscribers := ProviderEvent.mem_of_subject? h.settles.subject
  refine ⟨(e.transitionAt s.context w.database u).edit.apply u, ?_, rfl, ?_, ?_⟩
  · rw [hafter, Arrival.subscribers_of_settles consistent h.settles]
    exact List.mem_map.mpr ⟨u, hmem, if_pos rfl⟩
  · have hnone := (Operation.direct_of_brings outward h.brings h.provider).1
    simp only [ProviderEvent.transitionAt, Transition.edit, hwrites.change, Option.getD_some,
      SubscriberChange.apply, hnone]
    exact h.held
  · simp [ProviderEvent.transitionAt, Transition.edit, hwrites.change, SubscriberChange.apply,
      h.provider]

/-- In a run, a completed checkout has put the direct processor beside a processor of the broker's. -/
inductive WasSoldOver (steps : List Step) (start : World) (id x : String) : Prop
  | sold {past later : List Step} {s : Step} {u : Subscriber} {e : ProviderEvent}
      (split : steps = past ++ s :: later) (own : u.id = id)
      (sells : s.SellsOver (run past start).database u x e) : WasSoldOver steps start id x

theorem WasSoldOver.snoc {steps : List Step} {start : World} {id x : String}
    (h : WasSoldOver steps start id x) (s : Step) : WasSoldOver (steps ++ [s]) start id x := by
  obtain ⟨split, own, sells⟩ := h
  exact .sold (by rw [split, List.append_assoc, List.cons_append]) own sells

/-- After a run every processor of the broker's stands beside the broker, or beside the direct processor
because of such a checkout. -/
def UpstreamAccounted (steps : List Step) (start : World) : Prop :=
  ∀ v ∈ (run steps start).database.subscribers, ∀ x, v.upstreamProvider = some x →
    v.billingProvider = some .janua ∨
      v.billingProvider = some .stripe ∧ WasSoldOver steps start v.id x

theorem UpstreamAccounted.snoc {past : List Step} {start : World} (h : UpstreamAccounted past start)
    (consistent : start.database.Consistent) {s : Step} (outward : s.operation.IsOutward) :
    UpstreamAccounted (past ++ [s]) start := by
  intro v hv x hx
  -- A record that keeps its processor and its provider is accounted for as before.
  have hkept : ∀ u ∈ (run past start).database.subscribers, u.id = v.id →
      u.upstreamProvider = some x → u.billingProvider = v.billingProvider →
      v.billingProvider = some .janua ∨
        v.billingProvider = some .stripe ∧ WasSoldOver (past ++ [s]) start v.id x := by
    intro u hu hid hux hsame
    rw [← hid, ← hsame]
    exact (h u hu x hux).imp id fun ⟨hstripe, hsold⟩ => ⟨hstripe, hsold.snoc s⟩
  rw [run_append] at hv
  cases s.source_of_mem (consistent_run past consistent) hv with
  | kept mem same =>
    obtain ⟨_, _, rfl⟩ := same
    exact hkept _ mem rfl hx rfl
  | enrolled new =>
    rw [new] at hx
    cases hx
  | @edited e u brings settles edit =>
    have hu := ProviderEvent.mem_of_subject? settles.subject
    by_cases hjanua : v.billingProvider = some .janua
    · exact .inl hjanua
    have hdirect := Operation.direct_of_brings outward brings
    subst edit
    obtain ⟨hux, hsame | ⟨hstripe, kind, granted, hsold⟩⟩ :=
      ProviderEvent.upstream_after_edit hdirect hx hjanua
    · exact hkept _ hu rfl hux hsame.symm
    · exact .inr ⟨hsold, .sold (u := u) rfl rfl ⟨brings, hstripe, kind, granted, settles, hux⟩⟩

/-- If at first every processor of the broker's stands beside the broker, then it does so after every
run, unless a checkout at the direct processor was completed for the subscriber meanwhile; and every
such checkout leaves it beside the direct processor. -/
theorem upstream_beside_broker {steps : List Step} (outward : ∀ s ∈ steps, s.operation.IsOutward)
    {start : World} (consistent : start.database.Consistent)
    (brokered : ∀ u ∈ start.database.subscribers, u.upstreamProvider ≠ none →
      u.billingProvider = some .janua) :
    (∀ v ∈ (run steps start).database.subscribers, ∀ x, v.upstreamProvider = some x →
      v.billingProvider = some .janua ∨
        v.billingProvider = some .stripe ∧ WasSoldOver steps start v.id x) ∧
    ∀ past s later u x e, steps = past ++ s :: later →
      s.SellsOver (run past start).database u x e →
      ∃ v ∈ (run (past ++ [s]) start).database.subscribers, v.id = u.id ∧
        v.upstreamProvider = some x ∧ v.billingProvider = some .stripe := by
  constructor
  · induction steps using List.reverseRecOn with
    | nil => exact fun v hv x hx => .inl (brokered v hv (by rw [hx]; nofun))
    | append_singleton past s ih =>
      obtain ⟨hpast, hs⟩ := List.forall_mem_append.mp outward
      have hbefore : UpstreamAccounted past start := ih hpast
      exact hbefore.snoc consistent (hs s List.mem_cons_self)
  · intro past s later u x e hsplit hsells
    have hs : s ∈ steps := hsplit ▸ List.mem_append_right past List.mem_cons_self
    rw [run_append]
    exact hsells.leaves (outward s hs) (consistent_run past consistent)

/-- The broker's notice of a subscription that is charged through a processor of its own. -/
def conektaText : String :=
  "\x7b\"id\":\"evt_1\",\"type\":\"subscription.created\",\"data\":\x7b\"customer_id\":\"cus\",\"plan_id\":\"pro\",\"provider\":\"conekta\"\x7d\x7d"

/-- The direct processor's notice of a checkout that the same subscriber has completed. -/
def checkoutText : String :=
  "\x7b\"id\":\"evt_2\",\"type\":\"checkout.session.completed\",\"created\":0,\"data\":\x7b\"object\":\x7b\"id\":\"cs\",\"customer\":\"cus\",\"metadata\":\x7b\"plan\":\"pro\"\x7d\x7d\x7d\x7d"

/-- A subscriber of the broker's completes a checkout at the direct processor. -/
theorem upstream_beside_direct_processor :
    let start : World := { database := Database.customerOfBoth }
    let steps := [signed .janua conektaText, signed .stripe checkoutText]
    ∃ v ∈ (run steps start).database.subscribers, v.upstreamProvider = some "conekta" ∧
      v.billingProvider = some .stripe ∧ WasSoldOver steps start v.id "conekta" := by
  intro start steps
  have hconekta : Signature.isAscii conektaText.toList = true := by decide +kernel
  have hcheckout : Signature.isAscii checkoutText.toList = true := by decide +kernel
  have hrecords : (run steps start).database.subscribers.map
      (fun v => (v.upstreamProvider, v.billingProvider)) = [(some "conekta", some .stripe)] := by
    rw [run_cons, run_cons, run_nil, database_signed .stripe hcheckout,
      database_signed .janua hconekta]
    decide +kernel
  have houtward : ∀ s ∈ steps, s.operation.IsOutward := by
    simp [steps, Operation.IsOutward, signed]
  have hbrokered : ∀ u ∈ start.database.subscribers, u.upstreamProvider ≠ none →
      u.billingProvider = some .janua := by
    decide +kernel
  obtain ⟨v, hv, hfields⟩ : ∃ v ∈ (run steps start).database.subscribers,
      (v.upstreamProvider, v.billingProvider) = (some "conekta", some .stripe) := by
    rw [← List.mem_map, hrecords]
    exact List.mem_cons_self
  obtain ⟨hupstream, hprovider⟩ := Prod.mk.inj hfields
  obtain ⟨haccounted, -⟩ := upstream_beside_broker houtward
    Database.reachable_customerOfBoth.consistent hbrokered
  rcases haccounted v hv "conekta" hupstream with hjanua | ⟨-, hsold⟩
  · cases hprovider.symm.trans hjanua
  · exact ⟨v, hv, hupstream, hprovider, hsold⟩

end Step
end SubscriptionBilling
