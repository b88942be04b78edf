import SubscriptionBilling.Proofs.TextPieces
import SubscriptionBilling.Proofs.UpperCase
import SubscriptionBilling.Routing.Router

/-! Prices and routes by country. Prices are listed in pesos exactly where the broker would charge through
its Mexican processor. A country that is normalized once more stays what it is, and so does the route,
except for a default country with blanks around it: those are not trimmed from the default itself. -/
namespace SubscriptionBilling
open Text

/-! Letters and blanks. -/

theorem Text.isBlank_of_isLetter {c : Char} (h : isLetter c = true) : isBlank c = false := by
  have hapart : (letterRanges.all fun r =>
      (r.2 < 28 || 31 < r.1) && whiteSpaceRanges.all fun q => r.2 < q.1 || q.2 < r.1) = true := by
    decide +kernel
  obtain ⟨r, hr, hin⟩ := List.any_eq_true.mp h
  have hbeside := List.all_eq_true.mp hapart r hr
  simp only [Bool.and_eq_true, Bool.or_eq_true, decide_eq_true_eq, List.all_eq_true] at hin hbeside
  simp only [isBlank, isWhiteSpace, inRanges, Bool.or_eq_false_iff, List.any_eq_false,
    Bool.and_eq_false_iff, Bool.and_eq_true, decide_eq_true_eq, decide_eq_false_iff_not]
  refine ⟨fun q hq hwhite => ?_, ?_⟩
  · have := hbeside.2 q hq
    omega
  · omega

namespace Router

/-- Two letters of any script. -/
def IsCode (code : String) : Prop := code.length = 2 ∧ code.toList.all isLetter = true

instance (code : String) : Decidable (IsCode code) := inferInstanceAs (Decidable (_ ∧ _))

theorem normalizeCountry_eq (r : Router) (country : Option String) :
    r.normalizeCountry country =
      if IsCode (upper (trimBlank (country.getD ""))) then upper (trimBlank (country.getD ""))
      else r.defaultCountry := rfl

/-- A code has no blanks around it. -/
theorem IsCode.trimBlank {code : String} (h : IsCode code) : trimBlank code = code := by
  have hletters := List.all_eq_true.mp h.2
  rw [Text.trimBlank, trimBy, trimCharsBy_eq_self fun c hc => isBlank_of_isLetter (hletters c hc),
    String.ofList_toList]

theorem isCode_mexico : IsCode Offer.mexico := by decide +kernel

/-- Whether a text stands for the default country, not being a code. -/
def FallsBack (country : Option String) : Prop := ¬IsCode (upper (trimBlank (country.getD "")))

/-- The default country is in upper case. -/
def IsRaised (r : Router) : Prop := ∀ c ∈ r.defaultCountry.toList, IsCapital c

theorem isRaised_make (s : Settings) (federated : Option Bool) (directProducts : Option (List String))
    (defaultCountry : Option String) : (make s federated directProducts defaultCountry).IsRaised :=
  fun _ hc => isCapital_of_mem_upper hc

variable {r : Router}

/-- Every country is normalized to a text in upper case. -/
theorem IsRaised.upper_normalizeCountry (h : r.IsRaised) (country : Option String) :
    upper (r.normalizeCountry country) = r.normalizeCountry country := by
  rw [normalizeCountry_eq]
  split
  · exact upper_upper _
  · exact upper_of_isCapital h

/-- The default country as a country: without the blanks around it, if it is a code then. -/
theorem IsRaised.normalizeCountry_default (h : r.IsRaised) :
    r.normalizeCountry (some r.defaultCountry) =
      if IsCode (trimBlank r.defaultCountry) then trimBlank r.defaultCountry
      else r.defaultCountry := by
  have hraised : upper (trimBlank r.defaultCountry) = trimBlank r.defaultCountry := by
    refine upper_of_isCapital fun c hc => h c ?_
    rw [trimBlank, trimBy, String.toList_ofList] at hc
    exact mem_of_mem_trimCharsBy hc
  rw [normalizeCountry_eq, Option.getD_some, hraised]

/-- A code is normalized to itself. -/
theorem normalizeCountry_of_isCode {code : String} (h : IsCode code) (raised : upper code = code) :
    r.normalizeCountry (some code) = code := by
  rw [normalizeCountry_eq, Option.getD_some, h.trimBlank, raised, if_pos h]

/-- The default country is a code with blanks around it. -/
def IsPadded (r : Router) : Prop :=
  IsCode (trimBlank r.defaultCountry) ∧ trimBlank r.defaultCountry ≠ r.defaultCountry

/-- What becomes of a country that is normalized twice. -/
theorem IsRaised.normalizeCountry_again (h : r.IsRaised) (country : Option String) :
    r.normalizeCountry (some (r.normalizeCountry country)) = r.normalizeCountry country ∧
        ¬(FallsBack country ∧ r.IsPadded) ∨
      FallsBack country ∧ r.IsPadded ∧ r.normalizeCountry country = r.defaultCountry ∧
        r.normalizeCountry (some (r.normalizeCountry country)) = trimBlank r.defaultCountry := by
  by_cases hcode : IsCode (upper (trimBlank (country.getD "")))
  · have hcountry : r.normalizeCountry country = upper (trimBlank (country.getD "")) := by
      rw [normalizeCountry_eq, if_pos hcode]
    refine .inl ⟨?_, fun hboth => hboth.1 hcode⟩
    rw [hcountry]
    exact normalizeCountry_of_isCode hcode (upper_upper _)
  · have hcountry : r.normalizeCountry country = r.defaultCountry := by
      rw [normalizeCountry_eq, if_neg hcode]
    rw [hcountry, h.normalizeCountry_default]
    by_cases hpadded : r.IsPadded
    · exact .inr ⟨hcode, hpadded, rfl, if_pos hpadded.1⟩
    · refine .inl ⟨?_, fun hboth => hpadded hboth.2⟩
      split
      · next hinner => exact not_not.mp fun hne => hpadded ⟨hinner, hne⟩
      · rfl

theorem upstreamFor_eq_conekta_iff {country : String} :
    upstreamFor country = .conekta ↔ country = Offer.mexico := by
  unfold upstreamFor
  split <;> simp [*]

/-- Two countries have one route exactly if the broker, where it is used, charges for both through one
processor. -/
theorem route_eq_iff {a b : Option String} {product : Product} :
    r.route a product = r.route b product ↔
      ((r.route b product).provider = .janua →
        upstreamFor (r.normalizeCountry a) = upstreamFor (r.normalizeCountry b)) := by
  unfold route brokerRoute
  split <;> simp [Route.direct]

/-- A provider charges through another processor exactly if it is the broker. -/
theorem upstream_isSome_iff (r : Router) (country : Option String) :
    (∀ product, (r.route country product).upstream.isSome = true ↔
        (r.route country product).provider = .janua) ∧
      ∀ p, (r.routeExisting p country).upstream.isSome = true ↔
        (r.routeExisting p country).provider = .janua := by
  constructor
  · intro product
    unfold route brokerRoute
    split <;> simp [Route.direct]
  · intro p
    cases p <;> simp [routeExisting, brokerRoute, Route.direct]

/-- Prices are in pesos exactly where the broker charges through its Mexican processor. -/
theorem IsRaised.offer_of_mem (h : r.IsRaised) {country : Option String} {o : Offer}
    (ho : o ∈ r.offers country) :
    (o.currency = "MXN" ↔ (r.brokerRoute country).upstream = some .conekta) ∧
      o.price = if (r.brokerRoute country).upstream = some .conekta then Offer.pesoPrice o.tier
        else Offer.dollarPrice o.tier := by
  unfold offers Offer.listFor at ho
  rw [h.upper_normalizeCountry] at ho
  simp only [brokerRoute, Option.some.injEq, upstreamFor_eq_conekta_iff]
  split at ho <;> next hcountry => obtain ⟨t, -, rfl⟩ := List.mem_map.mp ho; simp [hcountry]

/-- A normalized country has another route only where the default country is Mexico with blanks around
it and the broker is used. -/
theorem IsRaised.route_again (h : r.IsRaised) (country : Option String) (product : Product) :
    r.route (some (r.normalizeCountry country)) product = r.route country product ↔
      ¬(FallsBack country ∧ r.IsPadded ∧ trimBlank r.defaultCountry = Offer.mexico ∧
        (r.route country product).provider = .janua) := by
  rw [route_eq_iff]
  rcases h.normalizeCountry_again country with ⟨hsame, hnot⟩ | ⟨hfalls, hpadded, hdefault, hagain⟩
  · rw [hsame]
    exact iff_of_true (fun _ => rfl) fun hall => hnot ⟨hall.1, hall.2.1⟩
  · have hpolar : r.normalizeCountry country ≠ Offer.mexico := by
      rw [hdefault]
      intro hmexico
      have htrim := isCode_mexico.trimBlank
      rw [← hmexico] at htrim
      exact hpadded.2 htrim
    rw [hagain, upstreamFor, upstreamFor, if_neg hpolar]
    by_cases hmexico : trimBlank r.defaultCountry = Offer.mexico <;> simp [hmexico, hfalls, hpadded]

/-- Prices and routes agree on the country. A country that is normalized once more, and its route, stay
the same, except where blanks around the default country show. -/
theorem prices_and_routes_agree (s : Settings) (federated : Option Bool)
    (directProducts : Option (List String)) (defaultCountry country : Option String) :
    let r := make s federated directProducts defaultCountry
    ((r.offers country).map Offer.tier = Tier.all ∧ ∀ o ∈ r.offers country,
      (o.currency = "MXN" ↔ (r.brokerRoute country).upstream = some .conekta) ∧
      o.price = if (r.brokerRoute country).upstream = some .conekta then Offer.pesoPrice o.tier
        else Offer.dollarPrice o.tier) ∧
    (∀ product, r.route (some (r.normalizeCountry country)) product = r.route country product ↔
      ¬(FallsBack country ∧ r.IsPadded ∧ trimBlank r.defaultCountry = Offer.mexico ∧
        (r.route country product).provider = .janua)) ∧
    (r.normalizeCountry (some (r.normalizeCountry country)) = r.normalizeCountry country ↔
      ¬(FallsBack country ∧ r.IsPadded)) ∧
    (∀ product, (r.route country product).upstream.isSome = true ↔
      (r.route country product).provider = .janua) ∧
    ∀ p, (r.routeExisting p country).upstream.isSome = true ↔
      (r.routeExisting p country).provider = .janua := by
  intro r
  have hraised : r.IsRaised := isRaised_make s federated directProducts defaultCountry
  refine ⟨⟨?_, fun o => hraised.offer_of_mem⟩, hraised.route_again country, ?_,
    r.upstream_isSome_iff country⟩
  · unfold offers Offer.listFor
    split <;> rfl
  · rcases hraised.normalizeCountry_again country with
      ⟨hsame, hnot⟩ | ⟨hfalls, hpadded, hdefault, hagain⟩
    · exact iff_of_true hsame hnot
    · rw [hagain, hdefault]
      exact iff_of_false hpadded.2 fun hnot => hnot ⟨hfalls, hpadded⟩

/-! Blanks around the default country: prices are in dollars, and the processor that a normalized country
leads to is the Mexican one. -/

example :
    let r := make {} (some true) (some []) (some " mx ")
    (∀ o ∈ r.offers none, o.currency = "USD") ∧ r.route none .dhanam = ⟨.janua, some .polar⟩ ∧
      r.route (some (r.normalizeCountry none)) .dhanam = ⟨.janua, some .conekta⟩ := by
  decide +kernel

end Router
end SubscriptionBilling
