import Mathlib.Data.List.Basic
import SubscriptionBilling.Proofs.CaseRuns

/-! What upper case gives, it leaves as it is: a text in upper case is in upper case for good. -/
namespace SubscriptionBilling.Text

theorem upperRuns_misses : (upperRuns.all fun r => upperRuns.all r.misses) = true := by
  decide +kernel

/-- Letters are mapped to letters of ASCII, to characters beyond it that do not become several, and
nothing else. -/
theorem upperRuns_isPlain :
    (upperRuns.all fun r => r.last < 128 || r.first = 305 && r.last = 305 && r.offset = -232 ||
      r.first = 383 && r.last = 383 && r.offset = -300 ||
      r.isPlain && upperExpansions.all fun e => r.avoids e.1) = true := by
  decide +kernel

/-- A character that upper case leaves as it is. -/
def IsCapital (c : Char) : Prop := upperOfChar c = [c]

instance (c : Char) : Decidable (IsCapital c) := inferInstanceAs (Decidable (_ = _))

theorem upperExpansions_isCapital :
    (upperExpansions.all fun e => e.2.all fun n => IsCapital (Char.ofNat n)) = true := by
  decide +kernel

theorem isCapital_of_ascii {c : Char} (h : c.toNat < 128) (hc : c.toUpper = c) : IsCapital c := by
  rw [IsCapital, upperOfChar, if_pos h, hc]

theorem toUpper_ascii {c : Char} (h : c.toNat < 128) :
    c.toUpper.toNat < 128 ∧ c.toUpper.toUpper = c.toUpper :=
  ascii_induction (P := fun c => c.toUpper.toNat < 128 ∧ c.toUpper.toUpper = c.toUpper) (by decide) h

/-- A character beyond ASCII that becomes neither another one nor several. -/
theorem isCapital_of_uncovered {c : Char} (h : 128 ≤ c.toNat)
    (single : upperExpansions.lookup c.toNat = none)
    (hc : ∀ q ∈ upperRuns, q.covers c.toNat = false) : IsCapital c := by
  rw [IsCapital, upperOfChar, if_neg (by omega), single]
  simp only [mapByRuns_of_uncovered hc]

/-- What upper case gives, it leaves as it is. -/
theorem isCapital_of_mem {c x : Char} (h : x ∈ upperOfChar c) : IsCapital x := by
  unfold upperOfChar at h
  split at h
  · next hc =>
    obtain rfl := List.mem_singleton.mp h
    exact isCapital_of_ascii (toUpper_ascii hc).1 (toUpper_ascii hc).2
  next hc =>
  split at h
  · next codes hcodes =>
    obtain ⟨before, after, hlist, -⟩ := List.lookup_eq_some_iff.mp hcodes
    obtain ⟨n, hn, rfl⟩ := List.mem_map.mp h
    have hentry : (c.toNat, codes) ∈ upperExpansions := by
      rw [hlist]
      exact List.mem_append_right _ List.mem_cons_self
    have hall := List.all_eq_true.mp (List.all_eq_true.mp upperExpansions_isCapital _ hentry) n hn
    exact of_decide_eq_true hall
  · next hsingle =>
    obtain rfl := List.mem_singleton.mp h
    rcases mapByRuns_eq_or upperRuns c with ⟨heq, hnone⟩ | ⟨r, hmem, hcovers, heq⟩
    · rw [heq]
      exact isCapital_of_uncovered (by omega) hsingle hnone
    obtain ⟨hfirst, hlast, -⟩ := CaseRun.covers_iff.mp hcovers
    have hkind := List.all_eq_true.mp upperRuns_isPlain r hmem
    simp only [Bool.or_eq_true, Bool.and_eq_true, decide_eq_true_eq] at hkind
    rcases hkind with ((hascii | ⟨⟨h1, h2⟩, h3⟩) | ⟨⟨h1, h2⟩, h3⟩) | ⟨hplain, havoids⟩
    · omega
    · have hcode : (c.toNat + r.offset : Int).toNat = 73 := by omega
      rw [heq, hcode]
      exact isCapital_of_ascii (by decide) (by decide)
    · have hcode : (c.toNat + r.offset : Int).toNat = 83 := by omega
      rw [heq, hcode]
      exact isCapital_of_ascii (by decide) (by decide)
    · obtain ⟨hlow, hhigh, hnone⟩ := mapByRuns_of_isPlain
        (List.all_eq_true.mp upperRuns_misses r hmem) hplain hcovers heq
      refine isCapital_of_uncovered ((CaseRun.low_of_isPlain hplain).trans hlow) ?_ hnone
      rw [List.lookup_eq_none_iff]
      intro e he
      have hbeside := List.all_eq_true.mp havoids e he
      simp only [CaseRun.avoids, Bool.or_eq_true, decide_eq_true_eq] at hbeside
      simp
      omega

/-- Capitals are in upper case already. -/
theorem upper_of_isCapital {s : String} (h : ∀ c ∈ s.toList, IsCapital c) : upper s = s := by
  rw [← String.toList_inj, upper, String.toList_ofList]
  calc s.toList.flatMap upperOfChar = s.toList.flatMap fun c => [c] := List.flatMap_congr h
    _ = s.toList := List.flatMap_singleton' s.toList

theorem isCapital_of_mem_upper {s : String} {x : Char} (h : x ∈ (upper s).toList) : IsCapital x := by
  rw [upper, String.toList_ofList] at h
  obtain ⟨c, -, hx⟩ := List.mem_flatMap.mp h
  exact isCapital_of_mem hx

theorem upper_upper (s : String) : upper (upper s) = upper s :=
  upper_of_isCapital fun _ hc => isCapital_of_mem_upper hc

end SubscriptionBilling.Text
