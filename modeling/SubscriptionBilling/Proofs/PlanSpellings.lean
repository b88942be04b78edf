import SubscriptionBilling.Payment.Janua
import SubscriptionBilling.Proofs.TextPieces

/-! How plans are spelled. A slug that is accepted is kept in its normal form, which is accepted again as
the same plan; and the broker's own name of a plan leads back to all that makes up the plan. -/
namespace SubscriptionBilling.Plan
open Text

/-- The ways in which plans are spelled in normal form. -/
inductive IsSpelled : Plan → Prop
  | legacy {slug : String} {product : Product} {base : BasePlan}
      (listed : (slug, product, base) ∈ Plan.legacy) : IsSpelled ⟨slug, product, base, .monthly⟩
  | homeMonthly (base : BasePlan) : IsSpelled ⟨base.name, .home, base, .monthly⟩
  | homeYearly (base : BasePlan) : IsSpelled ⟨base.name ++ "_yearly", .home, base, .yearly⟩
  | named (p : Plan) : IsSpelled ⟨Janua.planId p, p.product, p.base, p.interval⟩

theorem base_name_of_ofName? {text : String} {base : BasePlan} (h : BasePlan.ofName? text = some base) :
    text = base.name := by
  simpa [eq_comm] using List.find?_some h

theorem product_name_of_ofName? {text : String} {product : Product}
    (h : Product.ofName? text = some product) : text = product.name := by
  simpa [eq_comm] using List.find?_some h

theorem eq_append_of_dropEnding? {ending cs rest : List Char} (h : dropEnding? ending cs = some rest) :
    cs = rest ++ ending := by
  unfold dropEnding? at h
  split at h
  · next hsuffix =>
    obtain ⟨before, rfl⟩ := List.isSuffixOf_iff_suffix.mp hsuffix
    cases h
    simp
  · cases h

/-- Without its interval a slug is a base of the home product, or a product and a base. -/
theorem spelled_of_parts? {cs : List Char} {product : Product} {base : BasePlan}
    (h : parts? cs = some (product, base)) :
    product = .home ∧ String.ofList cs = base.name ∨
      String.ofList cs = product.name ++ "_" ++ base.name := by
  unfold parts? at h
  split at h
  · obtain ⟨found, hfound, hparts⟩ := Option.map_eq_some_iff.mp h
    obtain ⟨rfl, rfl⟩ := Prod.mk.inj hparts
    exact .inl ⟨rfl, base_name_of_ofName? hfound⟩
  · next before after hcut =>
    obtain ⟨-, rfl⟩ := cutFirst_eq_some.mp hcut
    obtain ⟨p, hp, h⟩ := Option.bind_eq_some_iff.mp h
    obtain ⟨b, hb, h⟩ := Option.bind_eq_some_iff.mp h
    cases h
    rw [← product_name_of_ofName? hp, ← base_name_of_ofName? hb]
    refine .inr (String.toList_inj.mp ?_)
    simp

theorem isSpelled_of_ofNormal? {slug : String} {p : Plan} (h : ofNormal? slug = some p) :
    p.IsSpelled := by
  unfold ofNormal? at h
  split at h
  · next product base hlegacy =>
    obtain ⟨before, after, hlist, -⟩ := List.lookup_eq_some_iff.mp hlegacy
    cases h
    exact .legacy (by rw [hlist]; exact List.mem_append_right _ List.mem_cons_self)
  split at h
  · next cs hending =>
    obtain ⟨⟨product, base⟩, hparts, rfl⟩ := Option.map_eq_some_iff.mp h
    have hslug : slug = String.ofList cs ++ "_yearly" := by
      rw [← String.ofList_toList (s := slug), eq_append_of_dropEnding? hending, String.ofList_append]
      rfl
    rcases spelled_of_parts? hparts with ⟨rfl, hname⟩ | hname <;> rw [hslug, hname]
    · exact .homeYearly base
    · exact .named ⟨slug, product, base, .yearly⟩
  · obtain ⟨⟨product, base⟩, hparts, rfl⟩ := Option.map_eq_some_iff.mp h
    have hparted := spelled_of_parts? hparts
    rw [String.ofList_toList] at hparted
    rcases hparted with ⟨rfl, hname⟩ | hname
    · rw [hname]
      exact .homeMonthly base
    · have hnamed : slug = Janua.planId ⟨slug, product, base, .monthly⟩ := by
        simp only [Janua.planId, String.append_empty, hname]
      have hspelled := IsSpelled.named ⟨slug, product, base, .monthly⟩
      rwa [← hnamed] at hspelled

theorem ofSlug?_named (product : Product) (base : BasePlan) (interval : Interval) :
    ofSlug? (Janua.planId ⟨"", product, base, interval⟩) =
      some ⟨Janua.planId ⟨"", product, base, interval⟩, product, base, interval⟩ := by
  cases product <;> cases base <;> cases interval <;> decide +kernel

/-- A plan is found again by the way it is spelled. -/
theorem IsSpelled.found {p : Plan} (h : p.IsSpelled) : ofSlug? p.slug = some p := by
  cases h with
  | legacy listed =>
    simp only [Plan.legacy, List.mem_cons, Prod.mk.injEq, List.not_mem_nil, or_false] at listed
    rcases listed with ⟨rfl, rfl, rfl⟩ | ⟨rfl, rfl, rfl⟩ | ⟨rfl, rfl, rfl⟩ <;> decide +kernel
  | homeMonthly base => cases base <;> decide +kernel
  | homeYearly base => cases base <;> decide +kernel
  | named p => exact ofSlug?_named p.product p.base p.interval

/-- The slug of a plan that was found leads to the plan. -/
theorem ofSlug?_slug {slug : String} {p : Plan} (h : ofSlug? slug = some p) :
    ofSlug? p.slug = some p := (isSpelled_of_ofNormal? h).found

end SubscriptionBilling.Plan
