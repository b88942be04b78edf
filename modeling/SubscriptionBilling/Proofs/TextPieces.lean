import Mathlib.Data.List.TakeWhile
import SubscriptionBilling.Text.Blank
import SubscriptionBilling.Text.Split

/-! Cutting a text at a separator gives the pieces of it that have none, and trimming a text takes
nothing but blanks away. -/
namespace SubscriptionBilling.Text

theorem cutFirst_eq_some {x : Char} {cs before after : List Char} :
    cutFirst x cs = some (before, after) ↔ x ∉ before ∧ cs = before ++ x :: after := by
  induction cs generalizing before with
  | nil => simp [cutFirst]
  | cons c rest ih =>
    rw [cutFirst]
    by_cases hc : c = x
    · subst hc
      cases before with
      | nil => simp
      | cons b before => simp; grind
    · rw [if_neg hc]
      cases before with
      | nil => simp [hc]
      | cons b before => simp; grind

theorem cutFirst_eq_none {x : Char} {cs : List Char} : cutFirst x cs = none ↔ x ∉ cs := by
  induction cs with
  | nil => simp [cutFirst]
  | cons c rest ih =>
    rw [cutFirst]
    by_cases hc : c = x
    · simp [hc]
    · simp [hc, ih, Ne.symm hc]

/-- Everything up to the first occurrence of a character. -/
theorem cutFirst_getD (x : Char) (cs : List Char) :
    ((cutFirst x cs).map Prod.fst).getD cs = cs.takeWhile (· ≠ x) := by
  induction cs with
  | nil => rfl
  | cons c rest ih =>
    rw [cutFirst]
    by_cases hc : c = x
    · simp [hc]
    · cases hcut : cutFirst x rest <;> simp [hc, hcut] at ih ⊢ <;> exact ih

/-- Without the separator a text is one piece. -/
theorem pieces_of_notMem {x : Char} {cs : List Char} (h : x ∉ cs) : pieces x cs = [cs] := by
  induction cs with
  | nil => rfl
  | cons c rest ih =>
    obtain ⟨hc, hrest⟩ := not_or.mp (mt List.mem_cons.mpr h)
    rw [pieces, if_neg (Ne.symm hc), ih hrest]

/-- A first piece ends at the first separator. -/
theorem pieces_append {x : Char} {before : List Char} (h : x ∉ before) (after : List Char) :
    pieces x (before ++ x :: after) = before :: pieces x after := by
  induction before with
  | nil => rw [List.nil_append, pieces, if_pos rfl]
  | cons c rest ih =>
    obtain ⟨hc, hrest⟩ := not_or.mp (mt List.mem_cons.mpr h)
    rw [List.cons_append, pieces, if_neg (Ne.symm hc), ih hrest]

/-- One separator makes two pieces. -/
theorem pieces_pair {x : Char} {first second : List Char} (h : x ∉ first) (h' : x ∉ second) :
    pieces x (first ++ x :: second) = [first, second] := by
  rw [pieces_append h, pieces_of_notMem h']

theorem mem_of_mem_pieces {x y : Char} {cs piece : List Char} (hp : piece ∈ pieces x cs)
    (hy : y ∈ piece) : y ∈ cs := by
  induction cs generalizing piece with
  | nil =>
    rw [pieces, List.mem_singleton] at hp
    rwa [hp] at hy
  | cons c rest ih =>
    rw [pieces] at hp
    split at hp
    · rcases List.mem_cons.mp hp with rfl | hp
      · cases hy
      · exact List.mem_cons_of_mem c (ih hp hy)
    · split at hp
      · rw [List.mem_singleton] at hp
        subst hp
        exact List.mem_cons.mpr (.inl (List.mem_singleton.mp hy))
      · next p ps hps =>
        rcases List.mem_cons.mp hp with rfl | hp
        · rcases List.mem_cons.mp hy with rfl | hy
          · exact List.mem_cons_self
          · exact List.mem_cons_of_mem c (ih (hps ▸ List.mem_cons_self) hy)
        · exact List.mem_cons_of_mem c (ih (hps ▸ List.mem_cons_of_mem p hp) hy)

/-- A text without blanks has none to trim. -/
theorem trimCharsBy_eq_self {q : Char → Bool} {cs : List Char} (h : ∀ x ∈ cs, q x = false) :
    trimCharsBy q cs = cs := by
  have hdrop : ∀ ds : List Char, (∀ x ∈ ds, q x = false) → ds.dropWhile q = ds :=
    fun ds hds => List.dropWhile_eq_self_iff.mpr fun _ => by simp [hds]
  rw [trimCharsBy, hdrop cs h, hdrop cs.reverse (by simpa using h), List.reverse_reverse]

theorem mem_of_mem_trimCharsBy {q : Char → Bool} {x : Char} {cs : List Char}
    (h : x ∈ trimCharsBy q cs) : x ∈ cs := by
  rw [trimCharsBy, List.mem_reverse] at h
  have hback := (List.dropWhile_sublist q).subset h
  rw [List.mem_reverse] at hback
  exact (List.dropWhile_sublist q).subset hback

end SubscriptionBilling.Text
