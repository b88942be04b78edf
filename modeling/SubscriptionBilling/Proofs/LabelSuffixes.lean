import SubscriptionBilling.Proofs.ReturnHosts
import SubscriptionBilling.Text.Letters

/-! Allow-lists compare host names label by label. A host is at or below a domain exactly if the labels of
the domain end the labels of the host, and on web addresses with ordinary host names that is all the
check of a return URL looks at. -/
namespace SubscriptionBilling.ReturnUrl
open Text

/-- Labels behind others are what stands behind a separator, once both are joined. -/
theorem intercalate_append {x : Char} {front back : List (List Char)} (hfront : front ≠ [])
    (hback : back ≠ []) :
    [x].intercalate (front ++ back) = [x].intercalate front ++ x :: [x].intercalate back := by
  induction front with
  | nil => exact absurd rfl hfront
  | cons piece more ih =>
    cases more with
    | nil => simp [List.intercalate_cons_of_ne_nil hback]
    | cons next more =>
      have hmore := ih (by simp)
      simp only [List.cons_append] at hmore ⊢
      rw [List.intercalate_cons_cons, hmore, List.intercalate_cons_cons]
      simp

/-- The labels of one text end those of another exactly if the text itself does, at the start or behind a
separator. -/
theorem splitOn_suffix_iff {x : Char} {domain host : List Char} :
    domain.splitOn x <:+ host.splitOn x ↔ host = domain ∨ (x :: domain) <:+ host := by
  constructor
  · rintro ⟨front, hfront⟩
    have hhost := congrArg [x].intercalate hfront
    rw [List.intercalate_splitOn] at hhost
    by_cases hnone : front = []
    · subst hnone
      rw [List.nil_append, List.intercalate_splitOn] at hhost
      exact .inl hhost.symm
    · rw [intercalate_append hnone (List.splitOn_ne_nil _ _), List.intercalate_splitOn] at hhost
      exact .inr ⟨_, hhost⟩
  · rintro (rfl | ⟨before, rfl⟩)
    · exact List.suffix_refl _
    · rw [List.splitOn_append_cons_self]
      exact List.suffix_append _ _

theorem isWithin_iff_labels {suffix : String} {host : List Char} :
    IsWithin suffix host ↔
      domainOf suffix ≠ [] ∧ (domainOf suffix).splitOn '.' <:+ host.splitOn '.' := by
  rw [IsWithin, splitOn_suffix_iff]

/-- The characters of ordinary host names, in any script and letter case. -/
def isNameChar (c : Char) : Bool := isLetter c || (digitValue? c).isSome || c = '.' || c = '-'

/-- A web address with an ordinary host name. What follows the authority is apart from it. -/
structure WebAddress where
  scheme : List Char
  host : List Char
  port : Option (List Char)
  rest : List Char
  web : scheme.map Char.toLower = "http".toList ∨ scheme.map Char.toLower = "https".toList
  named : host ≠ []
  name_chars : ∀ c ∈ host, isNameChar c = true
  port_digits : ∀ digits ∈ port, ∀ c ∈ digits, c.isDigit = true
  apart : ∀ c ∈ rest.head?, c = '/' ∨ c = '?' ∨ c = '#'

namespace WebAddress

def authority (a : WebAddress) : List Char := a.host ++ (a.port.map (':' :: ·)).getD []

def text (a : WebAddress) : String :=
  String.ofList (a.scheme ++ "://".toList ++ a.authority ++ a.rest)

end WebAddress

/-- Name characters are none of those that mean something in an authority. -/
theorem isPlain_of_isNameChar {c : Char} (h : isNameChar c = true) :
    Url.IsPlain c ∧ c ∉ ['@', '[', ':', '%'] := by
  have hspecial : (['\t', '\n', '\r', '/', '?', '#', '[', ']', '@', ':', '%'].all fun x =>
      !isNameChar x) = true := by
    decide +kernel
  have hdisguised : ∀ n ∈ Url.disguised, isNameChar (Char.ofNat n) = false := by decide +kernel
  have hother : ∀ x, isNameChar x = false → c ≠ x := by
    rintro x hx rfl
    rw [h] at hx
    cases hx
  have hne : ∀ x ∈ ['\t', '\n', '\r', '/', '?', '#', '[', ']', '@', ':', '%'], c ≠ x :=
    fun x hx => hother x (by simpa using List.all_eq_true.mp hspecial x hx)
  refine ⟨⟨?_, ?_, ⟨hne '[' (by decide), hne ']' (by decide)⟩, ?_⟩, fun hmem => ?_⟩
  · simp [Url.isDropped, hne '\t', hne '\n', hne '\r']
  · simp [Url.endsAuthority, hne '/', hne '?', hne '#']
  · rw [Bool.eq_false_iff]
    intro hmem
    have hcode := hdisguised c.toNat (List.contains_iff_mem.mp hmem)
    exact hother _ hcode (Char.ofNat_toNat c).symm
  · have hsubset : ['@', '[', ':', '%'] ⊆
        ['\t', '\n', '\r', '/', '?', '#', '[', ']', '@', ':', '%'] := by
      decide
    exact hne c (hsubset hmem) rfl

theorem isNameChar_of_isDigit {c : Char} (h : c.isDigit = true) : isNameChar c = true := by
  simp [isNameChar, digitValue?, h]

/-- Lower case leaves no text empty. -/
theorem isEmpty_lower {cs : List Char} (h : cs ≠ []) : (lower (String.ofList cs)).isEmpty = false := by
  obtain ⟨c, rest, rfl⟩ := List.exists_cons_of_ne_nil h
  have hfirst : lowerOfChar [] rest c ≠ [] := by
    unfold lowerOfChar
    split_ifs <;> simp
  rw [Bool.eq_false_iff]
  intro hempty
  have hlist := congrArg String.toList (String.isEmpty_iff.mp hempty)
  rw [lower, String.toList_ofList, String.toList_ofList, lowerFrom] at hlist
  exact hfirst (List.append_eq_nil_iff.mp hlist).1

theorem isAlpha_of_toLower {c : Char} (h : c.toLower.isAlpha = true) : c.isAlpha = true := by
  unfold Char.toLower at h
  split at h
  · next hupper =>
    have hcapital : c.isUpper = true := decide_eq_true hupper
    exact Bool.or_eq_true_iff.mpr (.inl hcapital)
  · exact h

namespace WebAddress

/-- The schemes of the web are letters, in any case. -/
theorem isScheme (a : WebAddress) : Url.IsScheme a.scheme := by
  have hletters : ∀ c ∈ a.scheme.map Char.toLower, c.isAlpha = true := by
    rcases a.web with h | h <;> rw [h] <;> exact List.all_eq_true.mp (by decide)
  refine ⟨?_, fun c hc => isAlpha_of_toLower (hletters _ (List.mem_map_of_mem hc))⟩
  intro hnone
  have hweb := a.web
  rw [hnone] at hweb
  revert hweb
  decide

theorem isNameChar_port (a : WebAddress) {digits : List Char} (h : digits ∈ a.port) :
    ∀ c ∈ digits, isNameChar c = true :=
  fun c hc => isNameChar_of_isDigit (a.port_digits digits h c hc)

theorem isPlain_authority (a : WebAddress) : ∀ c ∈ a.authority, Url.IsPlain c := by
  intro c hc
  rcases List.mem_append.mp hc with hc | hc
  · exact (isPlain_of_isNameChar (a.name_chars c hc)).1
  · cases hport : a.port with
    | none =>
      rw [hport] at hc
      cases hc
    | some digits =>
      rw [hport] at hc
      rcases List.mem_cons.mp hc with rfl | hc
      · exact ⟨by decide, by decide, by decide, by decide⟩
      · exact (isPlain_of_isNameChar (a.isNameChar_port hport c hc)).1

theorem split?_text (a : WebAddress) :
    Url.split? a.text =
      some ⟨String.ofList (a.scheme.map Char.toLower), String.ofList a.authority⟩ :=
  Url.split?_append a.isScheme a.isPlain_authority fun c hc => by
    simpa [Url.endsAuthority, or_assoc] using a.apart c hc

theorem host_authority (a : WebAddress) (scheme : String) :
    (Url.Parts.mk scheme (String.ofList a.authority)).host = lower (String.ofList a.host) := by
  refine Url.hostOf_append (fun c hc => (isPlain_of_isNameChar (a.name_chars c hc)).2) ?_
  intro digits hdigits
  have hplain : ∀ c ∈ digits, c ∉ ['@', '[', ':', '%'] :=
    fun c hc => (isPlain_of_isNameChar (a.isNameChar_port hdigits c hc)).2
  exact ⟨fun hmem => hplain _ hmem (by decide), fun hmem => hplain _ hmem (by decide)⟩

end WebAddress

/-- A web address with an ordinary host name is trusted, where the local machine is not admitted, exactly
if the labels of its host end with those of a listed domain. -/
theorem trusted_iff_labels {s : Settings} {allowLocalhost : Option Bool}
    (remote : allowLocalhost.getD (!s.isProduction) = false) (a : WebAddress)
    (suffixes : List String) :
    ∃ verdict, isTrusted? s (some a.text) (some suffixes) allowLocalhost = some verdict ∧
      (verdict = true ↔ ∃ suffix ∈ suffixes, domainOf suffix ≠ [] ∧
        (domainOf suffix).splitOn '.' <:+ (lower (String.ofList a.host)).toList.splitOn '.') := by
  refine ⟨suffixes.any fun d => isAtOrBelow (domainOf d) (lower (String.ofList a.host)).toList, ?_, ?_⟩
  · have hweb : ¬((String.ofList (a.scheme.map Char.toLower) ≠ "http" ∧
        String.ofList (a.scheme.map Char.toLower) ≠ "https") ∨
        (lower (String.ofList a.host)).isEmpty = true) := by
      rw [isEmpty_lower a.named]
      rcases a.web with h | h <;> simp [h]
    unfold isTrusted?
    simp only [Option.getD_some, a.split?_text, a.host_authority, remote, Bool.false_and]
    rw [if_neg hweb, if_neg Bool.false_ne_true]
  · simp only [List.any_eq_true, isAtOrBelow_iff, isWithin_iff_labels]

/-- An address in capitals, with a port and with all that can follow it, and an entry in capitals too. -/
theorem trusted_iff_labels_app :
    ∃ a : WebAddress, a.text = "HTTPS://App.MadFam.io:8443/done?at=evil.example#@x" ∧
      isTrusted? {} (some a.text) (some ["evil.example", "..MADFAM.io"]) (some false) = some true := by
  let a : WebAddress :=
    { scheme := "HTTPS".toList, host := "App.MadFam.io".toList, port := some "8443".toList,
      rest := "/done?at=evil.example#@x".toList, web := by decide, named := by decide,
      name_chars := List.all_eq_true.mp (by decide +kernel), port_digits := by simp, apart := by simp }
  have remote : (some false).getD (!({} : Settings).isProduction) = false := rfl
  obtain ⟨verdict, hverdict, hiff⟩ := trusted_iff_labels remote a ["evil.example", "..MADFAM.io"]
  obtain rfl : verdict = true := hiff.mpr ⟨"..MADFAM.io", by decide, by decide +kernel, by decide +kernel⟩
  exact ⟨a, by decide, hverdict⟩

end SubscriptionBilling.ReturnUrl
