import SubscriptionBilling.Proofs.Finality
import SubscriptionBilling.Proofs.Translation

/-! Events as the translation of a payload gives them. Of the facts that such an event brings along
none has a name that the ledger keeps for itself, so an entry that books it names the subscription
of the event. The ends in the ledger are those of the cancellations that were processed, one by one. -/
namespace SubscriptionBilling

namespace Json

theorem lookup_field (name other : String) (v : Json) (fields : List (String × Json)) :
    ((name, v) :: fields).lookup other = if other = name then some v else fields.lookup other := by
  rw [List.lookup_cons]
  by_cases h : other = name
  · simp [h]
  · simp [beq_false_of_ne h, h]

theorem lookup_setField (name other : String) (v : Json) (fields : List (String × Json)) :
    (setField name v fields).lookup other = if other = name then some v else fields.lookup other := by
  induction fields with
  | nil => exact lookup_field name other v []
  | cons f rest ih =>
    obtain ⟨n, w⟩ := f
    unfold setField
    split
    · next hn =>
      rw [lookup_field, lookup_field, hn]
      split <;> rfl
    · next hn =>
      rw [lookup_field, lookup_field, ih]
      split
      · next ho => rw [if_neg (ho ▸ hn)]
      · rfl

theorem mem_foldl_setField {facts fields : List (String × Json)} {f : String × Json}
    (h : f ∈ facts.foldl (fun fs g => setField g.1 g.2 fs) fields) : f ∈ facts ∨ f ∈ fields := by
  induction facts generalizing fields with
  | nil => exact .inr h
  | cons g rest ih =>
    rcases ih h with hrest | hset
    · exact .inl (List.mem_cons_of_mem g hrest)
    · rcases mem_setField hset with rfl | hfields
      · exact .inl List.mem_cons_self
      · exact .inr hfields

/-- Facts of other names leave a field as it was. -/
theorem lookup_foldl_setField {facts : List (String × Json)} {name : String}
    (h : ∀ f ∈ facts, f.1 ≠ name) (fields : List (String × Json)) :
    (facts.foldl (fun fs f => setField f.1 f.2 fs) fields).lookup name = fields.lookup name := by
  induction facts generalizing fields with
  | nil => rfl
  | cons f rest ih =>
    obtain ⟨hf, hrest⟩ := List.forall_mem_cons.mp h
    rw [List.foldl_cons, ih hrest, lookup_setField, if_neg hf.symm]

end Json

/-- A field with a value stays when those without one are left out. -/
theorem lookup_withoutNulls {fields : List (String × Json)} {name : String} {v : Json}
    (value : v ≠ .null) (h : fields.lookup name = some v) :
    (withoutNulls fields).lookup name = some v := by
  obtain ⟨before, after, rfl, hbefore⟩ := List.lookup_eq_some_iff.mp h
  refine List.lookup_eq_some_iff.mpr ⟨withoutNulls before, withoutNulls after, ?_, ?_⟩
  · cases v <;> simp_all [withoutNulls]
  · exact fun f hf => hbefore f (List.mem_filter.mp hf).1

/-- A field that never has a value is left out. -/
theorem lookup_withoutNulls_eq_none {fields : List (String × Json)} {name : String}
    (h : ∀ v, (name, v) ∈ fields → v = .null) : (withoutNulls fields).lookup name = none := by
  rw [List.lookup_eq_none_iff]
  rintro ⟨n, v⟩ hf
  obtain ⟨hmem, hvalue⟩ := List.mem_filter.mp hf
  rw [bne_iff_ne]
  rintro rfl
  rw [h v hmem] at hvalue
  cases hvalue

namespace ProviderEvent

/-- The names of the facts that a translation adds to its event. -/
def translatedFacts : List String := ["status", "invoice_id", "charge_id"]

/-- Whether an event is what the payload of a delivery is translated to. -/
inductive IsTranslated (e : ProviderEvent) : Prop
  | direct {s : Settings} {payload : StripePayload.Payload}
      (translation : payload.toEvent? s = .ok (some e)) : IsTranslated e
  | brokered {payload : JanuaPayload.Payload} (translation : payload.toEvent? = .ok (some e)) :
      IsTranslated e

end ProviderEvent

open ProviderEvent (translatedFacts)

namespace StripePayload

theorem facts_of_subscriptionEvent {s : Settings} {p : Payload} {kind : EventKind}
    {e : ProviderEvent} (h : subscriptionEvent s p kind = .ok e) :
    ∀ f ∈ e.metadata, f.1 ∈ translatedFacts := by
  unfold subscriptionEvent at h
  simp only [bind_eq_ok, pure_eq_ok, check_eq_ok] at h
  obtain ⟨sub, -, _, -, _, -, _, -, rfl⟩ := h
  simp [translatedFacts]

theorem facts_of_paymentEvent? {p : Payload} {x : Fields.Parse ProviderEvent} {e : ProviderEvent}
    (hx : paymentEvent? p = some x) (h : x = .ok e) : ∀ f ∈ e.metadata, f.1 ∈ translatedFacts := by
  subst h
  unfold paymentEvent? at hx
  split at hx
  · have h := Option.some.inj hx
    simp only [checkoutEvent, bind_eq_ok, pure_eq_ok] at h
    obtain ⟨_, -, _, -, _, -, _, -, _, -, _, -, rfl⟩ := h
    simp [Payload.event]
  · have h := Option.some.inj hx
    simp only [invoiceEvent, bind_eq_ok, pure_eq_ok] at h
    obtain ⟨_, -, _, -, _, -, _, -, _, -, _, -, rfl⟩ := h
    simp [translatedFacts]
  · have h := Option.some.inj hx
    simp only [invoiceEvent, bind_eq_ok, pure_eq_ok] at h
    obtain ⟨_, -, _, -, _, -, _, -, _, -, _, -, rfl⟩ := h
    simp [translatedFacts]
  · have h := Option.some.inj hx
    simp only [refundEvent, bind_eq_ok, pure_eq_ok] at h
    obtain ⟨_, -, _, -, _, -, _, -, rfl⟩ := h
    simp [translatedFacts]
  · cases hx

theorem facts_of_translation {s : Settings} {p : Payload} {e : ProviderEvent}
    (h : p.toEvent? s = .ok (some e)) : ∀ f ∈ e.metadata, f.1 ∈ translatedFacts := by
  rcases toEvent?_cases h with ⟨kind, -, he⟩ | ⟨-, hx⟩
  · exact facts_of_subscriptionEvent he
  · exact facts_of_paymentEvent? hx rfl

end StripePayload

theorem JanuaPayload.facts_of_translation {p : Payload} {e : ProviderEvent}
    (h : p.toEvent? = .ok (some e)) : ∀ f ∈ e.metadata, f.1 ∈ translatedFacts := by
  unfold Payload.toEvent? at h
  split at h
  · cases h
  · simp only [bind_eq_ok, pure_eq_ok] at h
    obtain ⟨_, -, _, -, hsome⟩ := h
    obtain rfl := Option.some.inj hsome
    change ∀ f ∈ statusMetadata p.status, f.1 ∈ translatedFacts
    unfold statusMetadata
    split
    · split <;> simp [translatedFacts]
    · simp

namespace ProviderEvent

theorem IsTranslated.facts {e : ProviderEvent} (h : e.IsTranslated) :
    ∀ f ∈ e.metadata, f.1 ∈ translatedFacts := by
  cases h with
  | direct translation => exact StripePayload.facts_of_translation translation
  | brokered translation => exact JanuaPayload.facts_of_translation translation

/-- A booking names the subscription of its event, unless a fact takes the place of the name. -/
theorem lookup_posting {e : ProviderEvent} {facts : List (String × Json)}
    (others : ∀ f ∈ e.metadata ++ facts, f.1 ≠ "subscription_id") (u : Subscriber) (kind : EntryKind)
    (status : EntryStatus) (amount : Decimal) :
    (e.posting u kind status amount facts).metadata.lookup "subscription_id" =
      e.subscriptionId.map Json.string := by
  cases own : e.subscriptionId with
  | some s =>
    refine lookup_withoutNulls nofun ?_
    rw [Json.lookup_foldl_setField others, own]
    rfl
  | none =>
    refine lookup_withoutNulls_eq_none fun v hv => ?_
    rcases Json.mem_foldl_setField hv with hfact | hown
    · exact absurd rfl (others _ hfact)
    · simpa [own, textField, Json.ofOption] using hown

/-- The fact that a booking adds last stands in its entry. -/
theorem lookup_posting_of_fact {e : ProviderEvent} {facts before : List (String × Json)} {name : String}
    {v : Json} (last : e.metadata ++ facts = before ++ [(name, v)]) (value : v ≠ .null) (u : Subscriber)
    (kind : EntryKind) (status : EntryStatus) (amount : Decimal) :
    (e.posting u kind status amount facts).metadata.lookup name = some v := by
  refine lookup_withoutNulls value ?_
  rw [last, List.foldl_append, List.foldl_cons, List.foldl_nil, Json.lookup_setField, if_pos rfl]

/-- What is said of a cancellation beside its own facts is at most that it is stale. -/
theorem posting_cancelled (e : ProviderEvent) (u : Subscriber) :
    ∃ facts, (∀ f ∈ facts, f.1 = "stale_subscription") ∧ (e.onCancelled u).posting =
      some (e.posting u .subscriptionCancelled .succeeded Decimal.zero facts) := by
  unfold onCancelled
  split
  · exact ⟨_, by simp, rfl⟩
  · exact ⟨[], by simp, rfl⟩

/-- Only cancellations are booked as such. -/
theorem kind_of_posting_eq_cancelled_iff {e : ProviderEvent} {now : Moment} {ended : Bool}
    {u : Subscriber} {posting : Posting} (h : (e.transition now ended u).posting = some posting) :
    posting.kind = .subscriptionCancelled ↔ e.kind = .subscriptionCancelled := by
  unfold transition at h
  generalize e.kind = kind at h ⊢
  cases kind with
  | subscriptionCreated =>
    obtain ⟨_, hposting⟩ := onCreated_posting now ended e u
    obtain rfl := Option.some.inj (hposting.symm.trans h)
    exact ⟨nofun, nofun⟩
  | checkoutCompleted =>
    obtain ⟨_, hposting⟩ := onCheckoutCompleted_posting now e u
    obtain rfl := Option.some.inj (hposting.symm.trans h)
    exact ⟨nofun, nofun⟩
  | subscriptionCancelled =>
    obtain ⟨_, hposting⟩ := onCancelled_posting e u
    obtain rfl := Option.some.inj (hposting.symm.trans h)
    exact ⟨fun _ => rfl, fun _ => rfl⟩
  | subscriptionUpdated => cases (onUpdated_quiet e u).2.1.symm.trans h
  | subscriptionResumed => cases (onResumed_quiet e).2.1.symm.trans h
  | subscriptionPaused => cases h
  | paymentSucceeded => cases h; exact ⟨nofun, nofun⟩
  | paymentFailed => cases h; exact ⟨nofun, nofun⟩
  | refundIssued => cases h; exact ⟨nofun, nofun⟩

/-- The booking of a translated cancellation names its subscription. -/
theorem IsTranslated.lookup_posting_of_cancelled {e : ProviderEvent} (h : e.IsTranslated)
    (kind : e.kind = .subscriptionCancelled) {now : Moment} {ended : Bool} {u : Subscriber}
    {posting : Posting} (hposting : (e.transition now ended u).posting = some posting) :
    posting.metadata.lookup "subscription_id" = e.subscriptionId.map Json.string := by
  obtain ⟨facts, hstale, hcancelled⟩ := e.posting_cancelled u
  simp only [transition, kind, hcancelled] at hposting
  obtain rfl := Option.some.inj hposting
  refine lookup_posting (fun f hf hname => ?_) u _ _ _
  rcases List.mem_append.mp hf with hf | hf
  · have hfact := h.facts f hf
    rw [hname] at hfact
    exact absurd hfact (by decide)
  · rw [hstale f hf] at hname
    exact absurd hname (by decide)

end ProviderEvent

/-- The end of a subscription as the ledger keeps it: the provider, and what stands in the place of the
subscription's id. -/
def LedgerEntry.ending? (row : LedgerEntry) : Option (Provider × Option Json) :=
  if row.kind = .subscriptionCancelled then some (row.provider, row.metadata.lookup "subscription_id")
  else none

def Database.endings (db : Database) : List (Provider × Option Json) :=
  db.ledger.filterMap LedgerEntry.ending?

theorem Database.ends_iff {db : Database} {p : Provider} {s : String} :
    db.ends p s = true ↔ (p, some (.string s)) ∈ db.endings := by
  have hrow : ∀ row : LedgerEntry,
      row.ends p s = true ↔ row.ending? = some (p, some (.string s)) := by
    intro row
    unfold LedgerEntry.ends LedgerEntry.ending? LedgerEntry.subscriptionId?
    by_cases hkind : row.kind = .subscriptionCancelled
    · rw [if_pos hkind]
      split <;> simp_all
    · simp [hkind]
  rw [endings, List.mem_filterMap, ends, List.any_eq_true]
  exact exists_congr fun row => and_congr_right fun _ => hrow row

namespace Arrival

/-- The end of a subscription that an arrival brings into the ledger: that of its event, when it is a
cancellation and is processed. -/
def ending? (k : Arrival × Database) : Option (Provider × Option Json) :=
  if k.1.isProcessed k.2 = true ∧ k.1.event.kind = .subscriptionCancelled then
    some (k.1.event.provider, k.1.event.subscriptionId.map Json.string)
  else none

/-- A translated event adds the end that it tells of, whether it is stale or not, and no other one. -/
theorem endings_after {a : Arrival} (translated : a.event.IsTranslated) (db : Database) :
    (a.after db).endings = db.endings ++ (ending? (a, db)).toList := by
  cases processed : a.isProcessed db with
  | false => simp [ending?, processed, after_eq_of_not_processed processed]
  | true =>
    obtain ⟨u, hs⟩ := isProcessed_iff.mp processed
    cases booked : a.event.kind.isBooked with
    | false =>
      have hkind : a.event.kind ≠ .subscriptionCancelled := by
        intro hkind
        rw [hkind] at booked
        cases booked
      rw [Database.endings, ledger_after_of_not_booked db booked, ending?, if_neg fun h => hkind h.2,
        Option.toList_none, List.append_nil, Database.endings]
    | true =>
      obtain ⟨posting, amount, hposting, hprovider, -, -, hledger⟩ := ledger_of_settles hs booked
      have hkind := ProviderEvent.kind_of_posting_eq_cancelled_iff hposting
      rw [Database.endings, hledger, List.filterMap_append, ← Database.endings]
      refine congrArg (db.endings ++ ·) ?_
      by_cases cancelled : a.event.kind = .subscriptionCancelled
      · have hnames := translated.lookup_posting_of_cancelled cancelled hposting
        simp [LedgerEntry.ending?, ending?, processed, cancelled, hkind, hprovider, hnames]
      · simp [LedgerEntry.ending?, ending?, cancelled, hkind]

/-- A translated cancellation that is processed leaves the end of its subscription in the ledger. -/
theorem ends_of_cancelled {a : Arrival} {db : Database} {s : String}
    (kind : a.event.kind = .subscriptionCancelled) (own : a.event.subscriptionId = some s)
    (translated : a.event.IsTranslated) (processed : a.isProcessed db = true) :
    (a.after db).ends a.event.provider s = true := by
  rw [Database.ends_iff, endings_after translated, ending?, if_pos ⟨processed, kind⟩, own]
  exact List.mem_append_right _ List.mem_cons_self

end Arrival
end SubscriptionBilling
