import SubscriptionBilling.Proofs.CaseRuns

/-! What lower case does to the parts of a text. What it gives stays as it is, and separators stay in
their place: nothing else becomes one of them. A capital sigma is the one character whose lower case
depends on what stands around it. -/
namespace SubscriptionBilling.Text

/-! Single characters first. -/

theorem lowerRuns_misses : (lowerRuns.all fun r => lowerRuns.all r.misses) = true := by
  decide +kernel

/-- The letters of ASCII are mapped to letters of ASCII, and so is the sign for Kelvin. No run leads to
the one small letter that has a rule of its own. -/
theorem lowerRuns_isPlain :
    (lowerRuns.all fun r => r.last < 128 || r.first = 8490 && r.last = 8490 && r.offset = -8383 ||
      r.isPlain && r.avoids 304) = true := by
  decide +kernel

/-- What a run maps to is a character beyond ASCII that no run covers, or else it is a letter. -/
theorem mapByRuns_cases (c : Char) (h : 128 ≤ c.toNat) :
    (mapByRuns lowerRuns c = c ∧ ∀ q ∈ lowerRuns, q.covers c.toNat = false) ∨
    mapByRuns lowerRuns c = 'k' ∨
    (128 ≤ (mapByRuns lowerRuns c).toNat ∧ (mapByRuns lowerRuns c).toNat ≠ 304 ∧
      ∀ q ∈ lowerRuns, q.covers (mapByRuns lowerRuns c).toNat = false) := by
  rcases mapByRuns_eq_or lowerRuns c with hnone | ⟨r, hmem, hcovers, heq⟩
  · exact .inl hnone
  obtain ⟨hfirst, hlast, -⟩ := CaseRun.covers_iff.mp hcovers
  have hkind := List.all_eq_true.mp lowerRuns_isPlain r hmem
  simp only [Bool.or_eq_true, Bool.and_eq_true, decide_eq_true_eq] at hkind
  rcases hkind with (hascii | ⟨⟨h1, h2⟩, h3⟩) | ⟨hplain, havoids⟩
  · omega
  · refine .inr (.inl ?_)
    have hcode : (c.toNat + r.offset : Int).toNat = 107 := by omega
    rw [heq, hcode]
  · obtain ⟨hlow, hhigh, hnone⟩ := mapByRuns_of_isPlain
      (List.all_eq_true.mp lowerRuns_misses r hmem) hplain hcovers heq
    simp only [CaseRun.avoids, Bool.or_eq_true, decide_eq_true_eq] at havoids
    exact .inr (.inr ⟨(CaseRun.low_of_isPlain hplain).trans hlow, by omega, hnone⟩)

/-- A character that lower case leaves as it is, wherever it stands. -/
def IsSettled (c : Char) : Prop := ∀ before after, lowerOfChar before after c = [c]

theorem isSettled_of_ascii {c : Char} (h : c.toNat < 128) (hc : c.toLower = c) : IsSettled c := by
  intro before after
  rw [lowerOfChar, if_pos h, hc]

theorem isSettled_of_uncovered {c : Char} (h : 128 ≤ c.toNat) (hi : c.toNat ≠ 304)
    (hc : ∀ q ∈ lowerRuns, q.covers c.toNat = false) : IsSettled c := by
  intro before after
  have hsigma : c ≠ 'Σ' := by
    rintro rfl
    have hcovers : (lowerRuns.any fun q => q.covers 931) = true := by decide +kernel
    obtain ⟨q, hq, hcovers⟩ := List.any_eq_true.mp hcovers
    rw [show q.covers 931 = false from hc q hq] at hcovers
    cases hcovers
  have hdotted : c ≠ 'İ' := by
    rintro rfl
    exact hi rfl
  rw [lowerOfChar, if_neg (by omega), if_neg hsigma, if_neg hdotted, mapByRuns_of_uncovered hc]

theorem toLower_ascii {c : Char} (h : c.toNat < 128) :
    c.toLower.toNat < 128 ∧ c.toLower.toLower = c.toLower :=
  ascii_induction (P := fun c => c.toLower.toNat < 128 ∧ c.toLower.toLower = c.toLower) (by decide) h

/-- What lower case gives, it leaves as it is. -/
theorem isSettled_of_mem {before after : List Char} {c x : Char}
    (h : x ∈ lowerOfChar before after c) : IsSettled x := by
  unfold lowerOfChar at h
  split at h
  · next hc =>
    obtain rfl := List.mem_singleton.mp h
    exact isSettled_of_ascii (toLower_ascii hc).1 (toLower_ascii hc).2
  · next hc =>
    have hc : 128 ≤ c.toNat := by omega
    have hk : IsSettled 'k' := isSettled_of_ascii (by decide) (by decide)
    split at h
    · have hsmall : IsSettled 'ς' ∧ IsSettled 'σ' := by
        constructor <;> refine isSettled_of_uncovered (by decide) (by decide) ?_ <;> decide +kernel
      split at h <;> obtain rfl := List.mem_singleton.mp h
      · exact hsmall.1
      · exact hsmall.2
    · next hsigma =>
      split at h
      · rcases List.mem_cons.mp h with rfl | h
        · exact isSettled_of_ascii (by decide) (by decide)
        · obtain rfl := List.mem_singleton.mp h
          refine isSettled_of_uncovered (by decide) (by decide) ?_
          decide +kernel
      · next hdotted =>
        obtain rfl := List.mem_singleton.mp h
        rcases mapByRuns_cases c hc with ⟨heq, hnone⟩ | heq | ⟨hhigh, hi, hnone⟩
        · rw [heq]
          refine isSettled_of_uncovered hc (fun hi => hdotted ?_) hnone
          rw [← Char.ofNat_toNat c, hi]
        · rwa [heq]
        · exact isSettled_of_uncovered hhigh hi hnone

/-- The characters of ASCII that are no letters. -/
def IsSeparator (x : Char) : Prop := x.toNat < 128 ∧ x.isAlpha = false

instance (x : Char) : Decidable (IsSeparator x) := inferInstanceAs (Decidable (_ ∧ _))

theorem IsSeparator.toLower {x : Char} (h : IsSeparator x) : x.toLower = x :=
  ascii_induction (P := fun x => x.isAlpha = false → x.toLower = x) (by decide) h.1 h.2

theorem IsSeparator.isSettled {x : Char} (h : IsSeparator x) : IsSettled x :=
  isSettled_of_ascii h.1 h.toLower

/-- Nothing but a separator itself becomes one in lower case. -/
theorem IsSeparator.eq_of_mem {x c : Char} {before after : List Char} (hx : IsSeparator x)
    (h : x ∈ lowerOfChar before after c) : c = x := by
  unfold lowerOfChar at h
  split at h
  · next hc =>
    obtain rfl := List.mem_singleton.mp h
    exact (ascii_induction (P := fun c => c.toLower.isAlpha = false → c = c.toLower) (by decide) hc)
      hx.2
  · next hc =>
    have hascii : x.toNat < 128 := hx.1
    split at h
    · split at h <;> obtain rfl := List.mem_singleton.mp h <;> exact absurd hascii (by decide)
    · split at h
      · rcases List.mem_cons.mp h with rfl | h
        · exact absurd hx.2 (by decide)
        · obtain rfl := List.mem_singleton.mp h
          exact absurd hascii (by decide)
      · obtain rfl := List.mem_singleton.mp h
        rcases mapByRuns_cases c (by omega) with ⟨heq, -⟩ | heq | ⟨hhigh, -⟩
        · exact heq.symm
        · rw [heq] at hx
          exact absurd hx.2 (by decide)
        · omega

/-! Then whole texts. -/

/-- The lower case of a piece of text between others; what is in front has its last character
first. -/
def lowerWithin (before after : List Char) : List Char → List Char
  | [] => []
  | c :: rest => lowerOfChar before (rest ++ after) c ++ lowerWithin (c :: before) after rest

theorem lowerFrom_eq (before cs : List Char) : lowerFrom before cs = lowerWithin before [] cs := by
  induction cs generalizing before with
  | nil => rfl
  | cons c rest ih => rw [lowerFrom, lowerWithin, ih, List.append_nil]

theorem lowerWithin_append (before after xs ys : List Char) :
    lowerWithin before after (xs ++ ys) =
      lowerWithin before (ys ++ after) xs ++ lowerWithin (xs.reverse ++ before) after ys := by
  induction xs generalizing before with
  | nil => rfl
  | cons x rest ih =>
    simp only [List.cons_append, lowerWithin, ih, List.append_assoc, List.reverse_cons,
      List.nil_append]

theorem mem_lowerWithin {x : Char} {before after cs : List Char}
    (h : x ∈ lowerWithin before after cs) :
    ∃ c ∈ cs, ∃ before after, x ∈ lowerOfChar before after c := by
  induction cs generalizing before with
  | nil => cases h
  | cons c rest ih =>
    rw [lowerWithin] at h
    rcases List.mem_append.mp h with h | h
    · exact ⟨c, List.mem_cons_self, _, _, h⟩
    · obtain ⟨d, hd, hx⟩ := ih h
      exact ⟨d, List.mem_cons_of_mem c hd, hx⟩

/-- Settled text stays as it is. -/
theorem lowerWithin_of_settled {before after cs : List Char} (h : ∀ c ∈ cs, IsSettled c) :
    lowerWithin before after cs = cs := by
  induction cs generalizing before with
  | nil => rfl
  | cons c rest ih =>
    obtain ⟨hc, hrest⟩ := List.forall_mem_cons.mp h
    rw [lowerWithin, hc, ih hrest]
    rfl

theorem isSettled_of_mem_lowerWithin {x : Char} {before after cs : List Char}
    (h : x ∈ lowerWithin before after cs) : IsSettled x := by
  obtain ⟨c, -, _, _, hx⟩ := mem_lowerWithin h
  exact isSettled_of_mem hx

/-- A separator is in the lower case of a text exactly if it is in the text. -/
theorem separator_mem_lowerWithin {x : Char} (hx : IsSeparator x) (before after : List Char)
    {cs : List Char} :
    x ∈ lowerWithin before after cs ↔ x ∈ cs := by
  constructor
  · intro h
    obtain ⟨c, hc, _, _, h⟩ := mem_lowerWithin h
    rwa [← hx.eq_of_mem h]
  · intro h
    obtain ⟨xs, ys, rfl⟩ := List.append_of_mem h
    rw [lowerWithin_append, lowerWithin, hx.isSettled]
    simp

/-- Up to a separator, the lower case of a text is that of the piece in front of it. -/
theorem takeWhile_lowerWithin {x : Char} (hx : IsSeparator x) (before after cs : List Char) :
    (lowerWithin before after cs).takeWhile (· ≠ x) =
      lowerWithin before (cs.dropWhile (· ≠ x) ++ after) (cs.takeWhile (· ≠ x)) := by
  have hfront : ∀ y ∈ lowerWithin before (cs.dropWhile (· ≠ x) ++ after) (cs.takeWhile (· ≠ x)),
      decide (y ≠ x) = true := by
    intro y hy
    rw [decide_eq_true_eq]
    rintro rfl
    have hmem := (separator_mem_lowerWithin hx _ _).mp hy
    simpa using List.mem_takeWhile_imp hmem
  conv_lhs => rw [← List.takeWhile_append_dropWhile (p := fun c => decide (c ≠ x)) (l := cs)]
  rw [lowerWithin_append, List.takeWhile_append_of_pos hfront]
  cases hrest : cs.dropWhile (· ≠ x) with
  | nil => simp [lowerWithin]
  | cons y rest =>
    obtain rfl : y = x := by
      have hhead := List.head?_dropWhile_not (fun c => decide (c ≠ x)) cs
      rw [hrest] at hhead
      simpa using hhead
    rw [lowerWithin, hx.isSettled]
    simp

/-- Without a sigma, the lower case of a text does not depend on what stands around it. -/
theorem lowerWithin_eq_of_no_sigma {before after cs : List Char} (before' after' : List Char)
    (h : ∀ y ∈ lowerWithin before after cs, y ≠ 'ς' ∧ y ≠ 'σ') :
    lowerWithin before after cs = lowerWithin before' after' cs := by
  induction cs generalizing before before' with
  | nil => rfl
  | cons c rest ih =>
    rw [lowerWithin] at h ⊢
    obtain ⟨hc, hrest⟩ := List.forall_mem_append.mp h
    rw [lowerWithin, ih (c :: before') hrest]
    congr 1
    have hsigma : c ≠ 'Σ' := by
      rintro rfl
      unfold lowerOfChar at hc
      simp only [show ¬ 'Σ'.toNat < 128 by decide, if_false, if_true] at hc
      split at hc <;> simp at hc
    simp only [lowerOfChar, if_neg hsigma]

/-- A character that is neither skipped when the end of a word is looked for nor part of one. -/
def EndsWord (x : Char) : Prop :=
  inRanges caseIgnorableRanges x = false ∧ inRanges casedRanges x = false

instance (x : Char) : Decidable (EndsWord x) := inferInstanceAs (Decidable (_ ∧ _))

/-- Nothing is looked for behind the end of a word. -/
theorem EndsWord.nextIsCased {x : Char} (hx : EndsWord x) (xs ys : List Char) :
    nextIsCased (xs ++ x :: ys) = nextIsCased xs := by
  unfold Text.nextIsCased
  rw [List.find?_append]
  cases xs.find? fun c => !inRanges caseIgnorableRanges c with
  | some c => rfl
  | none => simp [hx.1, hx.2]

theorem lowerOfChar_congr {before before' after after' : List Char} (c : Char)
    (hb : nextIsCased before = nextIsCased before') (ha : nextIsCased after = nextIsCased after') :
    lowerOfChar before after c = lowerOfChar before' after' c := by
  unfold lowerOfChar
  rw [hb, ha]

theorem EndsWord.lowerWithin_after {x : Char} (hx : EndsWord x) (before ys cs : List Char) :
    lowerWithin before (x :: ys) cs = lowerWithin before [] cs := by
  induction cs generalizing before with
  | nil => rfl
  | cons c rest ih =>
    rw [lowerWithin, lowerWithin, ih, List.append_nil,
      lowerOfChar_congr c rfl (hx.nextIsCased rest ys)]

theorem EndsWord.lowerWithin_before {x : Char} (hx : EndsWord x) (xs ys after cs : List Char) :
    lowerWithin (xs ++ x :: ys) after cs = lowerWithin xs after cs := by
  induction cs generalizing xs with
  | nil => rfl
  | cons c rest ih =>
    rw [lowerWithin, lowerWithin, ← List.cons_append, ih,
      lowerOfChar_congr c (hx.nextIsCased xs ys) rfl]

/-- A separator at which words end splits the lower case of a text in two. -/
theorem lowerWithin_split {x : Char} (hx : IsSeparator x) (hword : EndsWord x) (xs ys : List Char) :
    lowerWithin [] [] (xs ++ x :: ys) = lowerWithin [] [] xs ++ x :: lowerWithin [] [] ys := by
  have hbefore := hword.lowerWithin_before [] xs.reverse [] ys
  rw [List.nil_append] at hbefore
  rw [lowerWithin_append, List.append_nil, hword.lowerWithin_after, lowerWithin, hx.isSettled,
    List.append_nil, hbefore]
  rfl

end SubscriptionBilling.Text
