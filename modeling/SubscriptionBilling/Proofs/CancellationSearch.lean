import SubscriptionBilling.Proofs.TranslatedEvents

/-! What a search of the ledger for the end of a subscription finds. After a run of translated events from
an empty ledger the ends in it are those of the cancellations that were processed, neither more nor fewer.
The search itself reads a stored id up to its first NUL only: it overlooks an id with a NUL, and takes it
for the id that stands in front of the NUL. -/
namespace SubscriptionBilling

/-- A search compares with what stands in the place of the id. -/
theorem Database.cancels_iff {db : Database} {p : Provider} {s : String} :
    db.cancels p s = true ↔
      ∃ v, (p, some v) ∈ db.endings ∧ Column.comparedText? v = some s := by
  have hrow : ∀ row : LedgerEntry, row.cancels p s = true ↔
      ∃ v, row.ending? = some (p, some v) ∧ Column.comparedText? v = some s := by
    intro row
    unfold LedgerEntry.cancels LedgerEntry.ending? LedgerEntry.subscriptionText?
    by_cases hkind : row.kind = .subscriptionCancelled
    · simp [hkind, Option.bind_eq_some_iff, and_assoc]
    · simp [hkind]
  simp only [cancels, List.any_eq_true, hrow, endings, List.mem_filterMap]
  constructor
  · rintro ⟨row, hmem, v, hv, hs⟩
    exact ⟨v, ⟨row, hmem, hv⟩, hs⟩
  · rintro ⟨v, ⟨row, hmem, hv⟩, hs⟩
    exact ⟨row, hmem, v, hv, hs⟩

namespace Arrival

/-- An arrival that is processed and tells that a provider ended a subscription. -/
structure Ends (p : Provider) (s : String) (k : Arrival × Database) : Prop where
  processed : k.1.isProcessed k.2 = true
  kind : k.1.event.kind = .subscriptionCancelled
  provider : k.1.event.provider = p
  subscription : k.1.event.subscriptionId = some s

theorem ending?_eq_some_iff {p : Provider} {v : Json} {k : Arrival × Database} :
    ending? k = some (p, some v) ↔ ∃ s, v = .string s ∧ Ends p s k := by
  unfold ending?
  constructor
  · intro h
    split at h
    · next hk =>
      obtain ⟨hprovider, hnames⟩ := Prod.mk.inj (Option.some.inj h)
      obtain ⟨s, hs, rfl⟩ := Option.map_eq_some_iff.mp hnames
      exact ⟨s, rfl, hk.1, hk.2, hprovider, hs⟩
    · cases h
  · rintro ⟨s, rfl, hends⟩
    rw [if_pos ⟨hends.processed, hends.kind⟩, hends.provider, hends.subscription]
    rfl

/-- Over a run the ledger takes down the ends that are told of, in their order. -/
theorem endings_run {arrivals : List Arrival} (translated : ∀ a ∈ arrivals, a.event.IsTranslated)
    (db : Database) :
    (run arrivals db).endings = db.endings ++ (trace arrivals db).filterMap ending? := by
  induction arrivals generalizing db with
  | nil => simp [trace]
  | cons a rest ih =>
    obtain ⟨ha, hrest⟩ := List.forall_mem_cons.mp translated
    rw [run_cons, ih hrest, endings_after ha, trace, List.filterMap_cons, List.append_assoc]
    cases ending? (a, db) <;> rfl

/-- From an empty ledger on, whatever is disturbed or repeated, the ledger holds the end of a subscription
exactly if a cancellation of it was processed. A search finds it only under an id without NUL, and finds
there also the ends of subscriptions whose ids go on with a NUL. -/
theorem search_finds_ends_up_to_nul {arrivals : List Arrival}
    (translated : ∀ a ∈ arrivals, a.event.IsTranslated) {db : Database} (empty : db.ledger = [])
    (p : Provider) (s : String) :
    ((run arrivals db).ends p s = true ↔ ∃ k ∈ trace arrivals db, Ends p s k) ∧
    ((run arrivals db).cancels p s = true ↔ '\x00' ∉ s.toList ∧
      ∃ k ∈ trace arrivals db, Ends p s k ∨ ∃ rest, Ends p (s ++ "\x00" ++ rest) k) := by
  have hends : ∀ v, (p, some v) ∈ (run arrivals db).endings ↔
      ∃ k ∈ trace arrivals db, ∃ t, v = .string t ∧ Ends p t k := by
    intro v
    have hnone : db.endings = [] := by rw [Database.endings, empty, List.filterMap_nil]
    simp only [endings_run translated, hnone, List.nil_append, List.mem_filterMap, ending?_eq_some_iff]
  constructor
  · rw [Database.ends_iff, hends]
    refine exists_congr fun k => and_congr_right fun _ => ?_
    constructor
    · rintro ⟨t, ht, h⟩
      exact Json.string.inj ht ▸ h
    · exact fun h => ⟨s, rfl, h⟩
  · simp only [Database.cancels_iff, hends]
    constructor
    · rintro ⟨_, ⟨k, hk, t, rfl, h⟩, hfound⟩
      obtain ⟨plain, rfl | ⟨rest, rfl⟩⟩ := Column.comparedText?_string_eq_some_iff.mp hfound
      · exact ⟨plain, k, hk, .inl h⟩
      · exact ⟨plain, k, hk, .inr ⟨rest, h⟩⟩
    · rintro ⟨plain, k, hk, h | ⟨rest, h⟩⟩
      · exact ⟨_, ⟨k, hk, s, rfl, h⟩,
          Column.comparedText?_string_eq_some_iff.mpr ⟨plain, .inl rfl⟩⟩
      · exact ⟨_, ⟨k, hk, _, rfl, h⟩,
          Column.comparedText?_string_eq_some_iff.mpr ⟨plain, .inr ⟨rest, rfl⟩⟩⟩

/-- The broker's notice that a subscription has ended. -/
def ofEnd (subscription eventId : String) (fault : Option Fault) : Arrival where
  context := { settings := {}, now := 0, fault := fault }
  event := { (brokered .subscriptionCancelled "subscription.cancelled" eventId).event with
    subscriptionId := some subscription }

/-- The end of one subscription is told three times: the ledger fails, then it is processed, then it is
repeated while the duplicate check misses it. Another subscription's id has a NUL. -/
def disturbedEnds : List Arrival :=
  [ofEnd "sub" "evt_1" (some (.fails .ledgerWrite .storage)), ofEnd "sub" "evt_1" none,
    ofEnd "sub" "evt_1" (some .missedDuplicate), ofEnd "s\x00" "evt_2" none]

theorem search_finds_ends_of_disturbed_run :
    let db := Database.ofCustomer "u" "u@example.com" .janua "cus"
    let after := run disturbedEnds db
    (∀ a ∈ disturbedEnds, a.event.IsTranslated) ∧ db.ledger = [] ∧
      after.ledger.map (fun row => row.eventId) = ["evt_1", "evt_2"] ∧
      after.cancels .janua "sub" = true ∧ after.ends .janua "s\x00" = true ∧
      after.cancels .janua "s\x00" = false ∧ after.cancels .janua "s" = true := by
  intro db after
  have translated : ∀ a ∈ disturbedEnds, a.event.IsTranslated := by
    have hsub : (ofEnd "sub" "evt_1" none).event.IsTranslated :=
      .brokered (show (brokerPayload "subscription.cancelled" "evt_1").toEvent? = _ by rfl)
    have hnul : (ofEnd "s\x00" "evt_2" none).event.IsTranslated :=
      .brokered (show ({ brokerPayload "subscription.cancelled" "evt_2" with
        subscriptionId := some "s\x00" } : JanuaPayload.Payload).toEvent? = _ by rfl)
    simp only [disturbedEnds, List.forall_mem_cons]
    exact ⟨hsub, hsub, hsub, hnul, by simp⟩
  have empty : db.ledger = [] := rfl
  have search := search_finds_ends_up_to_nul translated empty .janua
  have told : ∃ k ∈ trace disturbedEnds db, Ends .janua "sub" k :=
    ⟨_, .tail _ (.head _), by decide +kernel, rfl, rfl, rfl⟩
  have toldOfNul : ∃ k ∈ trace disturbedEnds db, Ends .janua "s\x00" k :=
    ⟨_, .tail _ (.tail _ (.tail _ (.head _))), by decide +kernel, rfl, rfl, rfl⟩
  have overlooked : after.cancels .janua "s\x00" ≠ true :=
    fun h => ((search "s\x00").2.mp h).1 (by decide)
  have mistaken : after.cancels .janua "s" = true := by
    obtain ⟨k, hk, hends⟩ := toldOfNul
    exact (search "s").2.mpr ⟨by decide, k, hk, .inr ⟨"", hends⟩⟩
  obtain ⟨k, hk, hends⟩ := told
  exact ⟨translated, empty, by decide +kernel, (search "sub").2.mpr ⟨by decide, k, hk, .inl hends⟩,
    (search "s\x00").1.mpr toldOfNul, Bool.eq_false_iff.mpr overlooked, mistaken⟩

end Arrival
end SubscriptionBilling
