import Mathlib.Tactic.Common
import SubscriptionBilling.Proofs.StrictDocuments
import SubscriptionBilling.Webhook.JanuaPayload
import SubscriptionBilling.Webhook.StripePayload

/-! Readers of fields meet broken text only where a document holds some. A reading that follows
others needs what they have established of their values, such as that the fields of an object inside
a document hold nothing broken either. -/
namespace SubscriptionBilling
namespace Fields

/-- A reading gives a value with a property, or it fails for another reason than broken text. -/
def Reads (P : α → Prop) : Parse α → Prop
  | .ok a => P a
  | .error problem => problem ≠ .brokenText

/-- A reading about whose value nothing is said. -/
abbrev ReadsAny (x : Parse α) : Prop := Reads (fun _ => True) x

/-- Fields whose values hold no broken text. -/
def AreEncodable (fs : List (String × Json)) : Prop := ∀ f ∈ fs, f.2.isEncodable = true

variable {P : α → Prop} {Q : β → Prop} {fs : List (String × Json)} {name : String} {v : Json}

theorem Reads.pure {a : α} (h : P a) : Reads P (Pure.pure a : Parse α) := h

theorem Reads.bind {x : Parse α} {f : α → Parse β} (hx : Reads P x)
    (hf : ∀ a, P a → Reads Q (f a)) : Reads Q (x >>= f) := by
  cases x with
  | ok a => exact hf a hx
  | error problem => exact hx

theorem Reads.map {x : Parse α} {f : α → β} (hx : Reads P x) (hf : ∀ a, P a → Q (f a)) :
    Reads Q (x.map f) := by
  cases x with
  | ok a => exact hf a hx
  | error problem => exact hx

theorem Reads.mapM {f : α → Parse β} {as : List α} (h : ∀ a ∈ as, Reads Q (f a)) :
    Reads (fun bs => ∀ b ∈ bs, Q b) (as.mapM f) := by
  induction as with
  | nil => exact Reads.pure (by simp)
  | cons a rest ih =>
    obtain ⟨ha, hrest⟩ := List.forall_mem_cons.mp h
    rw [List.mapM_cons]
    refine Reads.bind ha fun b hb => Reads.bind (ih hrest) fun bs hbs => Reads.pure ?_
    exact List.forall_mem_cons.mpr ⟨hb, hbs⟩

/-- A field that is looked up holds no broken text. -/
theorem AreEncodable.lookup (h : AreEncodable fs) (hv : fs.lookup name = some v) :
    v.isEncodable = true := by
  obtain ⟨f, hf, rfl⟩ := Json.mem_of_lookup_eq_some hv
  exact h f hf

theorem reads_required {read : Json → Parse α} (h : AreEncodable fs)
    (hr : ∀ v, v.isEncodable = true → Reads P (read v)) : Reads P (required fs name read) := by
  unfold required
  split
  · next v hv => exact hr v (h.lookup hv)
  · exact fun h => nomatch h

theorem reads_withDefault {read : Json → Parse α} {value : α} (h : AreEncodable fs)
    (hvalue : P value) (hr : ∀ v, v.isEncodable = true → Reads P (read v)) :
    Reads P (withDefault fs name value read) := by
  unfold withDefault
  split
  · next v hv => exact hr v (h.lookup hv)
  · exact hvalue

theorem readsAny_nullable {read : Json → Parse α} (hr : ReadsAny (read v)) :
    ReadsAny (nullable read v) := by
  unfold nullable
  split
  · trivial
  · exact hr.map fun _ _ => trivial

theorem readsAny_optional {read : Json → Parse α} (h : AreEncodable fs)
    (hr : ∀ v, v.isEncodable = true → ReadsAny (read v)) : ReadsAny (optional fs name read) :=
  reads_withDefault h trivial fun v hv => readsAny_nullable (hr v hv)

/-! The readers of single values. -/

theorem readsAny_text (v : Json) (h : v.isEncodable = true) : ReadsAny (text v) := by
  unfold text
  split
  · trivial
  · cases h
  · exact fun h => nomatch h

theorem readsAny_wholeOfFloat (x : Binary64) : ReadsAny (wholeOfFloat x) := by
  unfold wholeOfFloat
  grind [Reads]

theorem readsAny_wholeText (s : String) : ReadsAny (wholeText s) := by
  unfold wholeText
  grind [Reads]

theorem readsAny_whole (v : Json) (_ : v.isEncodable = true) : ReadsAny (whole v) := by
  unfold whole
  split
  · trivial
  · trivial
  · exact readsAny_wholeOfFloat _
  · exact readsAny_wholeText _
  · exact fun h => nomatch h

theorem readsAny_truth (v : Json) (_ : v.isEncodable = true) : ReadsAny (truth v) := by
  unfold truth truthOfWhole
  grind [Reads]

theorem readsAny_decimal (v : Json) (_ : v.isEncodable = true) : ReadsAny (decimal v) := by
  unfold decimal
  grind [Reads]

theorem reads_object (v : Json) (h : v.isEncodable = true) : Reads AreEncodable (object v) := by
  unfold object
  split
  · exact Json.isEncodable_object.mp h
  · exact fun h => nomatch h

theorem reads_items (v : Json) (h : v.isEncodable = true) :
    Reads (fun vs => ∀ v ∈ vs, v.isEncodable = true) (items v) := by
  unfold items
  split
  · exact Json.isEncodable_array.mp h
  · exact fun h => nomatch h

end Fields
open Fields

/-! The records of both providers. -/

namespace JanuaPayload
variable {fs : List (String × Json)}

theorem readsAny_readMetadata (h : AreEncodable fs) : ReadsAny (readMetadata fs) := by
  refine reads_withDefault h trivial fun v hv => (reads_object v hv).bind fun m hm => ?_
  refine (readsAny_optional hm readsAny_text).bind fun _ _ => ?_
  refine (readsAny_optional hm readsAny_text).bind fun _ _ => ?_
  exact (readsAny_optional hm readsAny_text).bind fun _ _ => trivial

theorem readsAny_ofFields (h : AreEncodable fs) : ReadsAny (Payload.ofFields fs) := by
  refine (reads_required h readsAny_text).bind fun _ _ => ?_
  refine (reads_required h readsAny_text).bind fun _ _ => ?_
  refine (reads_required h reads_object).bind fun data hdata => ?_
  refine (reads_required hdata readsAny_text).bind fun _ _ => ?_
  refine (readsAny_optional hdata readsAny_text).bind fun _ _ => ?_
  refine (readsAny_optional hdata readsAny_text).bind fun _ _ => ?_
  refine (readsAny_optional hdata readsAny_text).bind fun _ _ => ?_
  refine (readsAny_optional hdata readsAny_text).bind fun _ _ => ?_
  refine (readsAny_optional hdata readsAny_decimal).bind fun _ _ => ?_
  refine (readsAny_optional hdata readsAny_text).bind fun _ _ => ?_
  refine (readsAny_optional hdata readsAny_whole).bind fun _ _ => ?_
  refine (readsAny_optional hdata readsAny_whole).bind fun _ _ => ?_
  refine (readsAny_readMetadata hdata).bind fun _ _ => ?_
  exact (readsAny_optional h readsAny_text).bind fun _ _ => trivial

end JanuaPayload

namespace StripePayload
variable {fs : List (String × Json)}

/-- The subject of a payload holds no broken text either. -/
theorem reads_ofFields (h : AreEncodable fs) :
    Reads (fun p => AreEncodable p.subject) (Payload.ofFields fs) := by
  refine (reads_required h readsAny_text).bind fun _ _ => ?_
  refine (reads_required h readsAny_text).bind fun _ _ => ?_
  refine (reads_required h reads_object).bind fun data hdata => ?_
  refine (reads_required hdata reads_object).bind fun subject hsubject => ?_
  refine (reads_required h readsAny_whole).bind fun _ _ => ?_
  exact (reads_withDefault h trivial readsAny_truth).bind fun _ _ => hsubject

theorem readsAny_metadata (h : AreEncodable fs) : ReadsAny (Metadata.ofFields fs) := by
  refine (readsAny_optional h readsAny_text).bind fun _ _ => ?_
  refine (readsAny_optional h readsAny_text).bind fun _ _ => ?_
  refine (readsAny_optional h readsAny_text).bind fun _ _ => ?_
  refine (readsAny_optional h readsAny_text).bind fun _ _ => ?_
  refine (readsAny_optional h readsAny_text).bind fun _ _ => ?_
  exact (readsAny_optional h readsAny_text).bind fun _ _ => trivial

theorem readsAny_readMetadata (h : AreEncodable fs) : ReadsAny (readMetadata fs) :=
  reads_withDefault h trivial fun v hv => (reads_object v hv).bind fun _ hm => readsAny_metadata hm

/-- What stands for the product of a price is text or no text, but not broken text. -/
theorem reads_ofItem (item : Json) (h : item.isEncodable = true) :
    Reads (fun p : ItemPrice => p.product.isEncodable = true) (ItemPrice.ofItem item) := by
  refine (reads_object item h).bind fun fs hfs => ?_
  refine (reads_required hfs reads_object).bind fun price hprice => ?_
  refine (reads_required hprice readsAny_text).bind fun _ _ => ?_
  have hproduct : Reads (fun v => v.isEncodable = true) (withDefault price "product" .null .ok) :=
    reads_withDefault hprice rfl fun _ hv => hv
  refine hproduct.bind fun _ hproduct => ?_
  exact (readsAny_optional hprice readsAny_whole).bind fun _ _ => hproduct

theorem reads_readPrices (h : AreEncodable fs) :
    Reads (fun ps => ∀ p ∈ ps, p.product.isEncodable = true) (readPrices fs) := by
  refine reads_withDefault h (by simp) fun v hv => (reads_object v hv).bind fun data hdata => ?_
  refine reads_withDefault hdata (by simp) fun v hv => (reads_items v hv).bind fun vs hvs => ?_
  exact Reads.mapM fun item hitem => reads_ofItem item (hvs item hitem)

theorem reads_subscription (h : AreEncodable fs) :
    Reads (fun s => ∀ p ∈ s.prices, p.product.isEncodable = true) (Subscription.ofFields fs) := by
  refine (reads_required h readsAny_text).bind fun _ _ => ?_
  refine (reads_required h readsAny_text).bind fun _ _ => ?_
  refine (reads_required h readsAny_text).bind fun _ _ => ?_
  refine (readsAny_optional h readsAny_text).bind fun _ _ => ?_
  refine (readsAny_optional h readsAny_whole).bind fun _ _ => ?_
  refine (readsAny_optional h readsAny_whole).bind fun _ _ => ?_
  refine (reads_readPrices h).bind fun _ hprices => ?_
  exact (readsAny_readMetadata h).bind fun _ _ => hprices

theorem isEncodable_productId {p : ItemPrice} (h : p.product.isEncodable = true) :
    p.productId.isEncodable = true := by
  unfold ItemPrice.productId
  split
  · next fs hfs =>
    rw [hfs] at h
    cases hid : fs.lookup "id" with
    | none => rfl
    | some v => exact AreEncodable.lookup (Json.isEncodable_object.mp h) hid
  · exact h

theorem readsAny_checkoutEvent {p : Payload} (h : AreEncodable p.subject) :
    ReadsAny (checkoutEvent p) := by
  refine (reads_required h readsAny_text).bind fun _ _ => ?_
  refine (readsAny_optional h readsAny_text).bind fun _ _ => ?_
  refine (readsAny_optional h readsAny_text).bind fun _ _ => ?_
  refine (readsAny_optional h readsAny_whole).bind fun _ _ => ?_
  refine (readsAny_optional h readsAny_text).bind fun _ _ => ?_
  exact (readsAny_readMetadata h).bind fun _ _ => trivial

theorem readsAny_invoiceEvent {p : Payload} (kind : EventKind) (h : AreEncodable p.subject) :
    ReadsAny (invoiceEvent p kind) := by
  refine (reads_required h readsAny_text).bind fun _ _ => ?_
  refine (reads_required h readsAny_text).bind fun _ _ => ?_
  refine (readsAny_optional h readsAny_text).bind fun _ _ => ?_
  refine (reads_withDefault h trivial readsAny_whole).bind fun _ _ => ?_
  refine (reads_withDefault h trivial readsAny_whole).bind fun _ _ => ?_
  exact (readsAny_optional h readsAny_text).bind fun _ _ => trivial

theorem readsAny_refundEvent {p : Payload} (h : AreEncodable p.subject) :
    ReadsAny (refundEvent p) := by
  refine (reads_required h readsAny_text).bind fun _ _ => ?_
  refine (readsAny_optional h readsAny_text).bind fun _ _ => ?_
  refine (reads_withDefault h trivial readsAny_whole).bind fun _ _ => ?_
  exact (readsAny_optional h readsAny_text).bind fun _ _ => trivial

end StripePayload
end SubscriptionBilling
