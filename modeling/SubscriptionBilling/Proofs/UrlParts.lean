import SubscriptionBilling.Proofs.LowerCase
import SubscriptionBilling.Proofs.TextPieces
import SubscriptionBilling.Url.Basic

/-! The parts of a URL. A scheme ends at the first colon, an authority stands behind two slashes; and a
URL that is put together of a scheme, an authority without special characters and a rest is taken apart
into them again. -/
namespace SubscriptionBilling.Url
open Text

theorem afterLast_of_notMem {x : Char} {cs : List Char} (h : x ∉ cs) : afterLast x cs = cs := by
  rw [afterLast, pieces_of_notMem h]
  rfl

theorem mem_of_mem_afterLast {x y : Char} {cs : List Char} (h : y ∈ afterLast x cs) : y ∈ cs := by
  unfold afterLast at h
  cases hlast : (pieces x cs).getLast? with
  | none => rwa [hlast] at h
  | some piece =>
    rw [hlast] at h
    exact mem_of_mem_pieces (List.mem_of_getLast? hlast) h

/-- A scheme ends at the first colon. -/
theorem takeScheme_eq {cs scheme rest : List Char} (h : takeScheme cs = (scheme, rest))
    (hne : scheme ≠ []) :
    ∃ name, ':' ∉ name ∧ cs = name ++ ':' :: rest ∧ scheme = name.map Char.toLower := by
  unfold takeScheme at h
  split at h
  · next first more rest' hcut =>
    split at h
    · obtain ⟨rfl, rfl⟩ := Prod.mk.inj h
      obtain ⟨hcolon, hcs⟩ := cutFirst_eq_some.mp hcut
      exact ⟨first :: more, hcolon, hcs, rfl⟩
    · exact absurd (Prod.mk.inj h).1.symm hne
  · exact absurd (Prod.mk.inj h).1.symm hne

/-- An authority stands behind two slashes. -/
theorem takeAuthority_eq {rest : List Char} (hne : takeAuthority rest ≠ []) :
    ∃ behind, rest = '/' :: '/' :: behind ∧
      takeAuthority rest = behind.takeWhile fun c => !endsAuthority c := by
  unfold takeAuthority at hne ⊢
  split at hne
  · exact ⟨_, rfl, rfl⟩
  · exact absurd rfl hne

theorem split?_eq_some {url : String} {parts : Parts} (h : split? url = some parts) :
    ∃ scheme rest, takeScheme (clean url.toList) = (scheme, rest) ∧
      bracketsValid (takeAuthority rest) = true ∧
      parts = ⟨String.ofList scheme, String.ofList (takeAuthority rest)⟩ := by
  unfold split? at h
  generalize htake : takeScheme (clean url.toList) = taken at h
  obtain ⟨scheme, rest⟩ := taken
  simp only at h
  split at h
  · next hvalid =>
    rw [Bool.and_eq_true] at hvalid
    exact ⟨scheme, rest, rfl, hvalid.1, (Option.some.inj h).symm⟩
  · cases h

/-! Then the way back. -/

/-- The characters that are taken out of a URL. -/
def isDropped (c : Char) : Bool := c = '\t' || c = '\n' || c = '\r'

/-- A character without a meaning in an authority: it is kept, ends nothing, and is neither a bracket
nor a separator in disguise. -/
structure IsPlain (c : Char) : Prop where
  kept : isDropped c = false
  inside : endsAuthority c = false
  unbracketed : c ≠ '[' ∧ c ≠ ']'
  undisguised : disguised.contains c.toNat = false

theorem clean_cons {first : Char} (hfirst : 32 < first.toNat) (more : List Char) :
    clean (first :: more) = (first :: more).filter fun c => !isDropped c := by
  rw [clean, List.dropWhile_cons_of_neg (by simpa using hfirst)]
  refine List.filter_congr fun c _ => ?_
  simp [isDropped, Bool.and_assoc]

theorem bracketsValid_of_plain {authority : List Char} (h : ∀ c ∈ authority, IsPlain c) :
    bracketsValid authority = true := by
  have hopen : authority.contains '[' = false := by
    simpa using fun hmem => (h _ hmem).unbracketed.1 rfl
  have hclose : authority.contains ']' = false := by
    simpa using fun hmem => (h _ hmem).unbracketed.2 rfl
  rw [bracketsValid, hopen, hclose]

/-- A scheme as it is written, in letters of any case. -/
structure IsScheme (scheme : List Char) : Prop where
  filled : scheme ≠ []
  letters : ∀ c ∈ scheme, c.isAlpha = true

theorem IsScheme.notMem_colon {scheme : List Char} (h : IsScheme scheme) : ':' ∉ scheme :=
  fun hmem => absurd (h.letters ':' hmem) (by decide)

theorem takeScheme_append {scheme : List Char} (h : IsScheme scheme) (behind : List Char) :
    takeScheme (scheme ++ ':' :: behind) = (scheme.map Char.toLower, behind) := by
  rw [takeScheme, cutFirst_eq_some.mpr ⟨h.notMem_colon, rfl⟩]
  obtain ⟨first, more, rfl⟩ := List.exists_cons_of_ne_nil h.filled
  obtain ⟨hfirst, hmore⟩ := List.forall_mem_cons.mp h.letters
  have hall : more.all isSchemeChar = true := by
    refine List.all_eq_true.mpr fun c hc => ?_
    simp [isSchemeChar, Char.isAlphanum, hmore c hc]
  simp only [hfirst, hall, Bool.and_self, if_true]

theorem takeAuthority_append {authority rest : List Char} (h : ∀ c ∈ authority, IsPlain c)
    (hrest : ∀ c ∈ rest.head?, endsAuthority c = true) :
    takeAuthority ('/' :: '/' :: (authority ++ rest)) = authority := by
  rw [takeAuthority, List.takeWhile_append_of_pos fun c hc => by rw [(h c hc).inside]; rfl]
  cases rest with
  | nil => simp
  | cons c more => simp [hrest c rfl]

/-- A letter of ASCII is a printed character. -/
theorem printed_of_isAlpha {c : Char} (h : c.isAlpha = true) : 32 < c.toNat := by
  by_contra hlow
  have hnone := ascii_induction (P := fun c => c.toNat ≤ 32 → c.isAlpha = false) (by decide)
    (show c.toNat < 128 by omega) (by omega)
  rw [h] at hnone
  cases hnone

theorem isDropped_of_printed {c : Char} (h : 32 < c.toNat) : isDropped c = false := by
  rw [Bool.eq_false_iff]
  intro hdropped
  simp only [isDropped, Bool.or_eq_true, decide_eq_true_eq] at hdropped
  rcases hdropped with (rfl | rfl) | rfl <;> exact absurd h (by decide)

theorem printed_of_endsAuthority {c : Char} (h : endsAuthority c = true) : 32 < c.toNat := by
  simp only [endsAuthority, Bool.or_eq_true, decide_eq_true_eq] at h
  rcases h with (rfl | rfl) | rfl <;> decide

/-- What is put together is taken apart again. -/
theorem split?_append {scheme authority rest : List Char} (hscheme : IsScheme scheme)
    (hauthority : ∀ c ∈ authority, IsPlain c) (hrest : ∀ c ∈ rest.head?, endsAuthority c = true) :
    split? (String.ofList (scheme ++ "://".toList ++ authority ++ rest)) =
      some ⟨String.ofList (scheme.map Char.toLower), String.ofList authority⟩ := by
  have hmarker : ("://".toList.all fun c => !isDropped c) = true := by decide
  have hkept : ∀ c ∈ scheme ++ "://".toList ++ authority, (!isDropped c) = true := by
    intro c hc
    rw [List.append_assoc, List.mem_append, List.mem_append] at hc
    rcases hc with hc | hc | hc
    · rw [isDropped_of_printed (printed_of_isAlpha (hscheme.letters c hc))]
      rfl
    · exact List.all_eq_true.mp hmarker c hc
    · rw [(hauthority c hc).kept]
      rfl
  have hclean : clean (scheme ++ "://".toList ++ authority ++ rest) =
      scheme ++ ':' :: '/' :: '/' :: (authority ++ rest.filter fun c => !isDropped c) := by
    obtain ⟨first, more, rfl⟩ := List.exists_cons_of_ne_nil hscheme.filled
    have hfirst := printed_of_isAlpha (hscheme.letters first List.mem_cons_self)
    simp only [List.cons_append]
    rw [clean_cons hfirst]
    simp only [← List.cons_append]
    rw [List.filter_append, List.filter_eq_self.mpr hkept]
    simp
  have hhead : ∀ c ∈ (rest.filter fun c => !isDropped c).head?, endsAuthority c = true := by
    cases rest with
    | nil => simp
    | cons c more =>
      have hc : endsAuthority c = true := hrest c rfl
      simpa [isDropped_of_printed (printed_of_endsAuthority hc)] using hc
  have hplain : (authority.any fun c => disguised.contains c.toNat) = false := by
    rw [List.any_eq_false]
    intro c hc
    rw [(hauthority c hc).undisguised]
    exact Bool.false_ne_true
  rw [split?, String.toList_ofList, hclean, takeScheme_append hscheme]
  simp only [takeAuthority_append hauthority hhead, bracketsValid_of_plain hauthority, hplain]
  rfl

/-- The host in an authority that names no user: what stands in front of a port, in lower case. -/
theorem hostOf_append {host : List Char} {port : Option (List Char)}
    (hhost : ∀ c ∈ host, c ∉ ['@', '[', ':', '%']) (hport : ∀ ds ∈ port, '@' ∉ ds ∧ '[' ∉ ds) :
    hostOf (String.ofList (host ++ (port.map (':' :: ·)).getD [])) = lower (String.ofList host) := by
  have habsent : ∀ x ∈ ['@', '[', ':', '%'], x ∉ host := fun x hx hmem => hhost x hmem hx
  have hport' : ∀ x ∈ ['@', '['], x ∉ (port.map (':' :: ·)).getD [] := by
    cases port with
    | none => simp
    | some ds => simpa using hport ds rfl
  have hwhole : ∀ x ∈ ['@', '['], x ∉ host ++ (port.map (':' :: ·)).getD [] := by
    intro x hx hmem
    rcases List.mem_append.mp hmem with hmem | hmem
    · exact habsent x (List.mem_of_mem_take (i := 2) hx) hmem
    · exact hport' x hx hmem
  have hfront : ((cutFirst ':' (host ++ (port.map (':' :: ·)).getD [])).map Prod.fst).getD
      (host ++ (port.map (':' :: ·)).getD []) = host := by
    cases port with
    | none => simp [cutFirst_eq_none.mpr (habsent ':' (by decide))]
    | some ds => simp [cutFirst_eq_some.mpr ⟨habsent ':' (by decide), rfl⟩]
  rw [hostOf, String.toList_ofList, afterLast_of_notMem (hwhole '@' (by decide)),
    cutFirst_eq_none.mpr (hwhole '[' (by decide))]
  simp only [hfront, cutFirst_eq_none.mpr (habsent '%' (by decide))]

end SubscriptionBilling.Url
