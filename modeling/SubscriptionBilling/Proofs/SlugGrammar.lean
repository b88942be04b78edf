import SubscriptionBilling.Proofs.PlanSpellings

/-! The grammar of slugs, `[<product>_]<base>[_yearly]`, as a printer. A slug is accepted exactly if it
is printed or listed among the older ones, and it is put together in one way only. -/
namespace SubscriptionBilling
open Text

theorem BasePlan.ofName?_name (base : BasePlan) : BasePlan.ofName? base.name = some base := by
  cases base <;> decide

theorem Product.ofName?_name (product : Product) : Product.ofName? product.name = some product := by
  cases product <;> decide

namespace Plan

/-- How a slug is put together: a product where one is named, a base, and an interval. -/
structure SlugForm where
  product? : Option Product
  base : BasePlan
  interval : Interval
  deriving DecidableEq, Repr

namespace SlugForm

/-- What stands in front of the interval. -/
def stem (f : SlugForm) : List Char :=
  match f.product? with
  | some product => product.name.toList ++ '_' :: f.base.name.toList
  | none => f.base.name.toList

/-- A month is not spelled out. -/
def ending (f : SlugForm) : List Char :=
  match f.interval with
  | .monthly => []
  | .yearly => yearlyEnding

def text (f : SlugForm) : String := String.ofList (f.stem ++ f.ending)

/-- A slug that names no product is one of the home product. -/
def product (f : SlugForm) : Product := f.product?.getD .home

end SlugForm

/-! Names hold no underscore, which is what separates them in a slug, and no base looks like the end of
a yearly slug. -/

theorem underscore_notMem_base (base : BasePlan) : '_' ∉ base.name.toList := by
  cases base <;> decide

theorem underscore_notMem_product (product : Product) : '_' ∉ product.name.toList := by
  cases product <;> decide

theorem getLast?_base (base : BasePlan) :
    ∃ c, base.name.toList.getLast? = some c ∧ yearlyEnding.getLast? ≠ some c := by
  cases base <;> exact ⟨_, rfl, by decide⟩

theorem parts?_stem (f : SlugForm) : parts? f.stem = some (f.product, f.base) := by
  unfold parts? SlugForm.stem SlugForm.product
  cases f.product? with
  | none =>
    simp only [cutFirst_eq_none.mpr (underscore_notMem_base f.base), String.ofList_toList,
      BasePlan.ofName?_name]
    rfl
  | some product =>
    have hcut := cutFirst_eq_some.mpr
      ⟨underscore_notMem_product product, rfl (a := product.name.toList ++ '_' :: f.base.name.toList)⟩
    simp only [hcut, String.ofList_toList, BasePlan.ofName?_name, Product.ofName?_name]
    rfl

theorem dropEnding?_append (cs ending : List Char) : dropEnding? ending (cs ++ ending) = some cs := by
  rw [dropEnding?, if_pos (List.isSuffixOf_iff_suffix.mpr (List.suffix_append cs ending))]
  simp

/-- A slug without its interval does not end as a yearly one does. -/
theorem dropEnding?_stem (f : SlugForm) : dropEnding? yearlyEnding f.stem = none := by
  obtain ⟨c, hlast, hother⟩ := getLast?_base f.base
  have hstem : f.stem.getLast? = some c := by
    unfold SlugForm.stem
    split
    · rw [List.getLast?_append, List.getLast?_cons, hlast]
      rfl
    · exact hlast
  cases hdrop : dropEnding? yearlyEnding f.stem with
  | none => rfl
  | some rest =>
    rw [eq_append_of_dropEnding? hdrop, List.getLast?_append] at hstem
    exact absurd hstem hother

/-- Product, base and interval of a slug by its grammar alone. -/
def meaning? (cs : List Char) : Option (Product × BasePlan × Interval) :=
  match dropEnding? yearlyEnding cs with
  | some rest => (parts? rest).map fun r => (r.1, r.2, .yearly)
  | none => (parts? cs).map fun r => (r.1, r.2, .monthly)

theorem ofNormal?_eq (slug : String) :
    ofNormal? slug =
      match legacy.lookup slug with
      | some (product, base) => some ⟨slug, product, base, .monthly⟩
      | none => (meaning? slug.toList).map fun r => ⟨slug, r.1, r.2.1, r.2.2⟩ := by
  unfold ofNormal? meaning?
  cases legacy.lookup slug with
  | some entry => rfl
  | none =>
    cases dropEnding? yearlyEnding slug.toList with
    | some rest => rw [Option.map_map]; rfl
    | none => rw [Option.map_map]; rfl

theorem meaning?_text (f : SlugForm) :
    meaning? f.text.toList = some (f.product, f.base, f.interval) := by
  rw [SlugForm.text, String.toList_ofList, meaning?, SlugForm.ending]
  cases f.interval with
  | monthly =>
    rw [List.append_nil, dropEnding?_stem, parts?_stem]
    rfl
  | yearly =>
    rw [dropEnding?_append]
    simp only [parts?_stem]
    rfl

/-- What reads as a product and a base is printed for them. -/
theorem exists_stem_of_parts? {cs : List Char} {product : Product} {base : BasePlan}
    (h : parts? cs = some (product, base)) (interval : Interval) :
    ∃ f : SlugForm, cs = f.stem ∧ f.product = product ∧ f.base = base ∧ f.interval = interval := by
  rcases spelled_of_parts? h with ⟨rfl, hname⟩ | hname
  · refine ⟨⟨none, base, interval⟩, ?_, rfl, rfl, rfl⟩
    rw [← String.toList_ofList (l := cs), hname]
    rfl
  · refine ⟨⟨some product, base, interval⟩, ?_, rfl, rfl, rfl⟩
    rw [← String.toList_ofList (l := cs), hname]
    simp [SlugForm.stem]

/-- The grammar reads exactly what it prints. -/
theorem meaning?_eq_some_iff {slug : String} {product : Product} {base : BasePlan}
    {interval : Interval} :
    meaning? slug.toList = some (product, base, interval) ↔
      ∃ f : SlugForm, f.text = slug ∧ f.product = product ∧ f.base = base ∧
        f.interval = interval := by
  constructor
  · intro h
    unfold meaning? at h
    split at h
    · next rest hdrop =>
      obtain ⟨⟨_, _⟩, hparts, heq⟩ := Option.map_eq_some_iff.mp h
      cases heq
      obtain ⟨f, rfl, hp, hb, hi⟩ := exists_stem_of_parts? hparts .yearly
      refine ⟨f, ?_, hp, hb, hi⟩
      rw [← String.toList_inj, eq_append_of_dropEnding? hdrop, SlugForm.text, SlugForm.ending, hi,
        String.toList_ofList]
    · obtain ⟨⟨_, _⟩, hparts, heq⟩ := Option.map_eq_some_iff.mp h
      cases heq
      obtain ⟨f, hstem, hp, hb, hi⟩ := exists_stem_of_parts? hparts .monthly
      refine ⟨f, ?_, hp, hb, hi⟩
      rw [← String.toList_inj, hstem, SlugForm.text, SlugForm.ending, hi, String.toList_ofList,
        List.append_nil]
  · rintro ⟨f, rfl, rfl, rfl, rfl⟩
    exact meaning?_text f

/-- A product that is named shows by its underscore, even if it is the home product. -/
theorem underscore_mem_stem_iff (f : SlugForm) : '_' ∈ f.stem ↔ f.product?.isSome = true := by
  unfold SlugForm.stem
  cases f.product? with
  | none => simp [underscore_notMem_base]
  | some product => simp

/-- The text of a slug says how it is put together. -/
theorem SlugForm.text_injective : Function.Injective SlugForm.text := by
  rintro ⟨p, base, interval⟩ ⟨p', base', interval'⟩ h
  have hmeaning := (meaning?_text _).symm.trans ((congrArg (meaning? ·.toList) h).trans
    (meaning?_text _))
  obtain ⟨hproduct, rfl, rfl⟩ : p.getD .home = p'.getD .home ∧ base = base' ∧
      interval = interval' := by
    simpa [SlugForm.product] using hmeaning
  have hstem : SlugForm.stem ⟨p, base, interval⟩ = SlugForm.stem ⟨p', base, interval⟩ :=
    List.append_cancel_right (String.ofList_inj.mp h)
  have hnamed : p.isSome = true ↔ p'.isSome = true := by
    rw [← underscore_mem_stem_iff ⟨p, base, interval⟩, hstem, underscore_mem_stem_iff]
  cases p <;> cases p' <;> simp_all

theorem lookup_legacy_iff {slug : String} {entry : Product × BasePlan} :
    legacy.lookup slug = some entry ↔ (slug, entry) ∈ legacy := by
  constructor
  · intro h
    obtain ⟨before, after, hlist, -⟩ := List.lookup_eq_some_iff.mp h
    rw [hlist]
    exact List.mem_append_right _ List.mem_cons_self
  · intro h
    have hall : ∀ e ∈ legacy, legacy.lookup e.1 = some e.2 := by decide
    exact hall _ h

/-- No older slug follows the grammar. -/
theorem text_notMem_legacy (f : SlugForm) (entry : Product × BasePlan) :
    (f.text, entry) ∉ legacy := by
  intro h
  have hall : ∀ e ∈ legacy, meaning? e.1.toList = none := by decide
  cases (hall _ h).symm.trans (meaning?_text f)

/-- What a slug in normal form stands for: its entry among the older slugs, or what it is put together
of. -/
inductive Denotes (slug : String) : Product → BasePlan → Interval → Prop
  | listed {product : Product} {base : BasePlan} (entry : (slug, product, base) ∈ legacy) :
      Denotes slug product base .monthly
  | printed (f : SlugForm) (spelled : f.text = slug) : Denotes slug f.product f.base f.interval

theorem denotes_iff {slug : String} {product : Product} {base : BasePlan} {interval : Interval} :
    Denotes slug product base interval ↔
      ((slug, product, base) ∈ legacy ∧ interval = .monthly) ∨
        meaning? slug.toList = some (product, base, interval) := by
  rw [meaning?_eq_some_iff]
  constructor
  · rintro (entry | ⟨f, spelled⟩)
    · exact .inl ⟨entry, rfl⟩
    · exact .inr ⟨f, spelled, rfl, rfl, rfl⟩
  · rintro (⟨entry, rfl⟩ | ⟨f, spelled, rfl, rfl, rfl⟩)
    · exact .listed entry
    · exact .printed f spelled

theorem ofNormal?_eq_some_iff {slug : String} {p : Plan} :
    ofNormal? slug = some p ↔ p.slug = slug ∧ Denotes slug p.product p.base p.interval := by
  obtain ⟨name, product, base, interval⟩ := p
  rw [ofNormal?_eq, denotes_iff]
  cases hlookup : legacy.lookup slug with
  | some entry =>
    have hentry := lookup_legacy_iff.mp hlookup
    have hnone : meaning? slug.toList = none := by
      rw [Option.eq_none_iff_forall_ne_some]
      rintro ⟨product', base', interval'⟩ hmeaning
      obtain ⟨f, rfl, -⟩ := meaning?_eq_some_iff.mp hmeaning
      exact text_notMem_legacy f entry hentry
    rw [← lookup_legacy_iff, hlookup, hnone]
    obtain ⟨p, b⟩ := entry
    simp [and_assoc, eq_comm]
  | none =>
    rw [← lookup_legacy_iff, hlookup]
    cases hmeaning : meaning? slug.toList <;> simp [eq_comm, Prod.ext_iff]

/-- A slug is accepted exactly if its normal form is listed among the older ones or printed for a
product, a base and an interval, which the plan then has; no text is both, or printed in two ways, and
the normal form leads to the same plan again. -/
theorem ofSlug?_follows_grammar (s : String) :
    ((ofSlug? s).isSome = true ↔
      (∃ entry, (normalize s, entry) ∈ legacy) ∨ ∃ f : SlugForm, f.text = normalize s) ∧
    (∀ p, ofSlug? s = some p ↔
      p.slug = normalize s ∧ Denotes (normalize s) p.product p.base p.interval) ∧
    (∀ f : SlugForm, f.text = normalize s →
      (∀ entry, (normalize s, entry) ∉ legacy) ∧ ∀ g : SlugForm, g.text = normalize s → g = f) ∧
    ∀ p, ofSlug? s = some p →
      (p.tier = if p.base = .essentials then .essentials else .pro) ∧ ofSlug? p.slug = some p := by
  refine ⟨?_, fun p => ofNormal?_eq_some_iff, ?_, ?_⟩
  · rw [Option.isSome_iff_exists]
    constructor
    · rintro ⟨p, hp⟩
      rcases denotes_iff.mp (ofNormal?_eq_some_iff.mp hp).2 with ⟨entry, -⟩ | hmeaning
      · exact .inl ⟨_, entry⟩
      · obtain ⟨f, spelled, -⟩ := meaning?_eq_some_iff.mp hmeaning
        exact .inr ⟨f, spelled⟩
    · rintro (⟨⟨product, base⟩, entry⟩ | ⟨f, spelled⟩)
      · exact ⟨⟨normalize s, product, base, .monthly⟩, ofNormal?_eq_some_iff.mpr ⟨rfl, .listed entry⟩⟩
      · exact ⟨⟨normalize s, f.product, f.base, f.interval⟩,
          ofNormal?_eq_some_iff.mpr ⟨rfl, .printed f spelled⟩⟩
  · rintro f hf
    rw [← hf]
    exact ⟨text_notMem_legacy f, fun g hg => SlugForm.text_injective hg⟩
  · intro p hp
    refine ⟨?_, ofSlug?_slug hp⟩
    unfold tier BasePlan.tier
    cases p.base <;> rfl

example :
    ofSlug? " Tezca_Essentials_YEARLY\n" =
        some ⟨"tezca_essentials_yearly", .tezca, .essentials, .yearly⟩ ∧
      ofSlug? "pro_yearly_yearly" = none ∧ ofSlug? "enclii_sovereign_yearly" = none ∧
      ofSlug? "_pro" = none := by
  decide +kernel

end Plan
end SubscriptionBilling
