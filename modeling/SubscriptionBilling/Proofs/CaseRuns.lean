import Mathlib.Data.List.TakeWhile
import Mathlib.Tactic.Common
import SubscriptionBilling.Text.CaseMap

/-! The tables of case mapping. Where every run of a table maps to characters that no run of it covers,
what the table gives it leaves as it is. The checks of a table are stated on bounds of runs, since a
check of every code point would take long. -/
namespace SubscriptionBilling.Text

namespace CaseRun

/-- The first and the last code point that a run maps to. -/
def low (r : CaseRun) : Nat := (r.first + r.offset : Int).toNat
def high (r : CaseRun) : Nat := (r.last + r.offset : Int).toNat

/-- Whether what a run maps to is beside another run, or between the code points it covers. -/
def misses (r q : CaseRun) : Bool :=
  Nat.blt r.high q.first || (Nat.blt q.last r.low ||
    (Nat.beq q.step 2 && (Nat.beq r.step 2 || Nat.beq r.first r.last) &&
      Nat.beq ((r.low + q.first) % 2) 1))

/-- Whether what a run maps to are characters beyond ASCII. -/
def isPlain (r : CaseRun) : Bool :=
  0 ≤ r.first + r.offset && 128 ≤ r.low && (r.high < 55296 || 57344 ≤ r.low && r.high < 1114112)

theorem low_of_isPlain {r : CaseRun} (h : r.isPlain = true) : 128 ≤ r.low := by
  simp only [isPlain, Bool.and_eq_true, decide_eq_true_eq] at h
  exact h.1.2

/-- Whether what a run maps to is beside a code point. -/
def avoids (r : CaseRun) (n : Nat) : Bool := r.high < n || n < r.low

theorem covers_iff {r : CaseRun} {n : Nat} :
    r.covers n = true ↔ r.first ≤ n ∧ n ≤ r.last ∧ (n - r.first) % r.step = 0 := by
  simp [covers, and_assoc]

/-- What a run maps to is not covered by a run that it misses. -/
theorem not_covers {r q : CaseRun} {n : Nat} (h : r.misses q = true)
    (hn : r.covers n = true) (hpos : 0 ≤ r.first + r.offset) :
    q.covers (n + r.offset : Int).toNat = false := by
  obtain ⟨hfirst, hlast, hmod⟩ := covers_iff.mp hn
  have hlow : r.low ≤ (n + r.offset : Int).toNat := by unfold low; omega
  have hhigh : (n + r.offset : Int).toNat ≤ r.high := by unfold high; omega
  rw [Bool.eq_false_iff, ne_eq, covers_iff]
  rintro ⟨hq, hq', hqmod⟩
  simp only [misses, Bool.or_eq_true, Bool.and_eq_true, Nat.blt_eq, Nat.beq_eq] at h
  rcases h with h | h | ⟨⟨hqstep, hsingle⟩, hodd⟩
  · omega
  · omega
  · -- Every second code point is mapped at most, so all images have the parity of the first one.
    have hparity : (n - r.first) % 2 = 0 := by
      rcases hsingle with h | h
      · rwa [h] at hmod
      · omega
    rw [hqstep] at hqmod
    unfold low at hodd
    omega

end CaseRun

theorem toNat_ofNat {n : Nat} (h : n < 55296 ∨ 57344 ≤ n ∧ n < 1114112) :
    (Char.ofNat n).toNat = n := by
  have hvalid : n.isValidChar := by
    unfold Nat.isValidChar
    omega
  rw [Char.ofNat, dif_pos hvalid]
  rfl

/-- What a run maps to beyond ASCII are its images. -/
theorem CaseRun.toNat_image {r : CaseRun} {n : Nat} (hplain : r.isPlain = true)
    (hn : r.covers n = true) :
    (Char.ofNat (n + r.offset : Int).toNat).toNat = (n + r.offset : Int).toNat ∧
      r.low ≤ (n + r.offset : Int).toNat ∧ (n + r.offset : Int).toNat ≤ r.high := by
  obtain ⟨hfirst, hlast, -⟩ := covers_iff.mp hn
  simp only [isPlain, Bool.and_eq_true, Bool.or_eq_true, decide_eq_true_eq] at hplain
  obtain ⟨⟨hpos, -⟩, hvalid⟩ := hplain
  have hlow : r.low ≤ (n + r.offset : Int).toNat := by unfold low; omega
  have hhigh : (n + r.offset : Int).toNat ≤ r.high := by unfold high; omega
  exact ⟨toNat_ofNat (by omega), hlow, hhigh⟩

/-- A table leaves a character as it is, or maps it by one of its runs. -/
theorem mapByRuns_eq_or (runs : List CaseRun) (c : Char) :
    (mapByRuns runs c = c ∧ ∀ q ∈ runs, q.covers c.toNat = false) ∨
      ∃ r ∈ runs, r.covers c.toNat = true ∧
        mapByRuns runs c = Char.ofNat (c.toNat + r.offset : Int).toNat := by
  unfold mapByRuns
  cases hr : runs.find? fun r => r.covers c.toNat with
  | none =>
    refine .inl ⟨rfl, fun q hq => ?_⟩
    simpa using List.find?_eq_none.mp hr q hq
  | some r => exact .inr ⟨r, List.mem_of_find?_eq_some hr, by simpa using List.find?_some hr, rfl⟩

theorem mapByRuns_of_uncovered {runs : List CaseRun} {c : Char}
    (h : ∀ q ∈ runs, q.covers c.toNat = false) : mapByRuns runs c = c := by
  rcases mapByRuns_eq_or runs c with ⟨heq, -⟩ | ⟨r, hr, hcovers, -⟩
  · exact heq
  · rw [h r hr] at hcovers
    cases hcovers

/-- What a run maps to beyond ASCII is covered by no run that it misses. -/
theorem mapByRuns_of_isPlain {runs : List CaseRun} {r : CaseRun} {c : Char}
    (misses : runs.all r.misses = true) (plain : r.isPlain = true) (hc : r.covers c.toNat = true)
    (heq : mapByRuns runs c = Char.ofNat (c.toNat + r.offset : Int).toNat) :
    r.low ≤ (mapByRuns runs c).toNat ∧ (mapByRuns runs c).toNat ≤ r.high ∧
      ∀ q ∈ runs, q.covers (mapByRuns runs c).toNat = false := by
  obtain ⟨hcode, hlow, hhigh⟩ := CaseRun.toNat_image plain hc
  rw [heq, hcode]
  refine ⟨hlow, hhigh, fun q hq => CaseRun.not_covers (List.all_eq_true.mp misses q hq) hc ?_⟩
  simp only [CaseRun.isPlain, Bool.and_eq_true, decide_eq_true_eq] at plain
  exact plain.1.1

/-- A fact about all characters of ASCII. -/
theorem ascii_induction {P : Char → Prop} (h : ∀ n < 128, P (Char.ofNat n)) {c : Char}
    (hc : c.toNat < 128) : P c := by
  have hP := h c.toNat hc
  rwa [Char.ofNat_toNat] at hP

end SubscriptionBilling.Text
