import SubscriptionBilling.Checkout.ReturnUrl
import SubscriptionBilling.Proofs.UrlParts

/-! Where trusted return URLs lead. The check reads a URL by rules of its own; a browser that follows
it goes by others, under which a backslash ends the authority. -/
namespace SubscriptionBilling
open Text

namespace Browser

/-- What stands before and after the first `://`. -/
def cutMarker : List Char → Option (List Char × List Char)
  | ':' :: '/' :: '/' :: rest => some ([], rest)
  | c :: rest => (cutMarker rest).map fun r => (c :: r.1, r.2)
  | [] => none

def endsAuthority (c : Char) : Bool := c = '/' || c = '\\' || c = '?' || c = '#'

def authorityIn (rest : List Char) : List Char := rest.takeWhile fun c => !endsAuthority c

/-- The host in an authority, behind the user and before the port. The brackets around an address
are no part of it. -/
def hostIn (authority : List Char) : List Char :=
  match Url.afterLast '@' authority with
  | '[' :: address => address.takeWhile (· ≠ ']')
  | info => info.takeWhile (· ≠ ':')

/-- A scheme without a colon ends at the marker. -/
theorem cutMarker_append {name : List Char} (h : ':' ∉ name) (behind : List Char) :
    cutMarker (name ++ ':' :: '/' :: '/' :: behind) = some (name, behind) := by
  induction name with
  | nil => rfl
  | cons c rest ih =>
    obtain ⟨hc, hrest⟩ := not_or.mp (mt List.mem_cons.mpr h)
    simp [cutMarker, ih hrest, Ne.symm hc]

/-- Without a backslash, a browser ends an authority where the check does. -/
theorem authorityIn_eq {behind : List Char}
    (h : '\\' ∉ behind.takeWhile fun c => !Url.endsAuthority c) :
    authorityIn behind = behind.takeWhile fun c => !Url.endsAuthority c := by
  unfold authorityIn
  induction behind with
  | nil => rfl
  | cons c rest ih =>
    cases hc : Url.endsAuthority c with
    | true =>
      have hends : endsAuthority c = true := by
        simp only [Url.endsAuthority, endsAuthority, Bool.or_eq_true, decide_eq_true_eq] at hc ⊢
        tauto
      simp [hc, hends]
    | false =>
      simp only [List.takeWhile_cons, hc, Bool.not_false, if_true] at h ⊢
      obtain ⟨hslash, hrest⟩ := not_or.mp (mt List.mem_cons.mpr h)
      have hends : endsAuthority c = false := by
        simp only [Url.endsAuthority, endsAuthority, Bool.or_eq_false_iff,
          decide_eq_false_iff_not] at hc ⊢
        tauto
      simp only [hends, Bool.not_false, if_true, ih hrest]

/-- The host that the check finds in an authority, before it is put in lower case. -/
theorem hostIn_eq {authority : List Char} (h : Url.bracketsValid authority = true) :
    hostIn authority =
      match cutFirst '[' (Url.afterLast '@' authority) with
      | some (_, bracketed) => ((cutFirst ']' bracketed).map Prod.fst).getD bracketed
      | none => ((cutFirst ':' (Url.afterLast '@' authority)).map Prod.fst).getD
          (Url.afterLast '@' authority) := by
  unfold hostIn
  cases hcut : cutFirst '[' (Url.afterLast '@' authority) with
  | none =>
    have hnone := cutFirst_eq_none.mp hcut
    simp only [cutFirst_getD]
    split
    · next hinfo =>
      rw [hinfo] at hnone
      exact absurd List.mem_cons_self hnone
    · rfl
  | some cut =>
    obtain ⟨before, bracketed⟩ := cut
    obtain ⟨-, hinfo⟩ := cutFirst_eq_some.mp hcut
    have hopen : authority.contains '[' = true := by
      rw [List.contains_iff_mem]
      refine Url.mem_of_mem_afterLast (x := '@') ?_
      simp [hinfo]
    have hbefore : before = [] := by
      unfold Url.bracketsValid at h
      rw [hopen] at h
      cases hclose : authority.contains ']' with
      | false =>
        rw [hclose] at h
        cases h
      | true =>
        rw [hclose] at h
        simp only [hcut, Bool.and_eq_true] at h
        exact List.isEmpty_iff.mp h.1.1
    subst hbefore
    rw [hinfo, List.nil_append]
    simp only [cutFirst_getD]

end Browser

namespace Url

/-- An empty authority has no host. -/
theorem hostOf_empty : hostOf (String.ofList []) = "" := by decide +kernel

/-- The host that is checked is that of a browser in lower case, up to a zone. -/
theorem host_mk (scheme : String) (authority : List Char) (h : bracketsValid authority = true) :
    (Parts.mk scheme (String.ofList authority)).host =
      match cutFirst '%' (Browser.hostIn authority) with
      | some (name, zone) => lower (String.ofList name) ++ "%" ++ String.ofList zone
      | none => lower (String.ofList (Browser.hostIn authority)) := by
  generalize htext : String.ofList authority = text
  obtain rfl : text.toList = authority := by rw [← htext, String.toList_ofList]
  rw [Browser.hostIn_eq h]
  rfl

end Url

namespace ReturnUrl

/-- The lower case of a text. -/
theorem toList_lower (cs : List Char) :
    (lower (String.ofList cs)).toList = lowerWithin [] [] cs := by
  rw [lower, String.toList_ofList, String.toList_ofList, lowerFrom_eq]

theorem isSettled_of_mem_domainOf {suffix : String} {x : Char} (h : x ∈ domainOf suffix) :
    IsSettled x := by
  have hmem := (List.dropWhile_sublist _).subset h
  rw [lower, String.toList_ofList, lowerFrom_eq] at hmem
  exact isSettled_of_mem_lowerWithin hmem

/-- Whether a host in lower case is an allowed domain or lies below it. -/
def IsWithin (suffix : String) (host : List Char) : Prop :=
  domainOf suffix ≠ [] ∧ (host = domainOf suffix ∨ ('.' :: domainOf suffix) <:+ host)

theorem isAtOrBelow_iff {suffix : String} {host : List Char} :
    isAtOrBelow (domainOf suffix) host = true ↔ IsWithin suffix host := by
  simp [isAtOrBelow, IsWithin]

/-- A domain is in lower case already, so a host that is within it stays there. -/
theorem IsWithin.lower {suffix : String} {host : List Char} (h : IsWithin suffix host) :
    IsWithin suffix (lowerWithin [] [] host) := by
  obtain ⟨hnamed, rfl | ⟨before, rfl⟩⟩ := h
  · rw [lowerWithin_of_settled fun x hx => isSettled_of_mem_domainOf hx]
    exact ⟨hnamed, .inl rfl⟩
  · have hpoint : ∀ x ∈ '.' :: domainOf suffix, IsSettled x := by
      refine List.forall_mem_cons.mpr ⟨?_, fun x hx => isSettled_of_mem_domainOf hx⟩
      exact IsSeparator.isSettled (by decide)
    rw [lowerWithin_append, lowerWithin_of_settled hpoint]
    exact ⟨hnamed, .inr (List.suffix_append _ _)⟩

/-- A zone keeps its case in the host that is checked, and that makes no difference. -/
theorem isWithin_of_host {suffix scheme : String} {authority : List Char}
    (hvalid : Url.bracketsValid authority = true)
    (h : IsWithin suffix (Url.Parts.mk scheme (String.ofList authority)).host.toList) :
    IsWithin suffix (lower (String.ofList (Browser.hostIn authority))).toList := by
  rw [Url.host_mk scheme authority hvalid] at h
  rw [toList_lower]
  split at h
  · next name zone hcut =>
    obtain ⟨-, hhost⟩ := cutFirst_eq_some.mp hcut
    have hseparator : IsSeparator '%' := by decide
    have hword : EndsWord '%' := by decide +kernel
    have htext : (Text.lower (String.ofList name) ++ "%" ++ String.ofList zone).toList =
        lowerWithin [] [] name ++ '%' :: zone := by
      simp [toList_lower]
    have hname : lowerWithin [] [] (lowerWithin [] [] name) = lowerWithin [] [] name :=
      lowerWithin_of_settled fun x hx => isSettled_of_mem_lowerWithin hx
    rw [htext] at h
    have hlower := h.lower
    rw [lowerWithin_split hseparator hword, hname] at hlower
    rwa [hhost, lowerWithin_split hseparator hword]
  · rwa [toList_lower] at h

theorem isLocalhost_cases {authority : String} (h : isLocalhost authority = true) :
    authority.toList = "localhost".toList ∨
      ∃ port, authority.toList = "localhost".toList ++ ':' :: port ∧
        ∀ x ∈ port, (digitValue? x).isSome = true := by
  unfold isLocalhost at h
  split at h
  · next rest hrest =>
    split at h
    · exact .inl hrest
    · next port =>
      rw [Bool.and_eq_true, List.all_eq_true] at h
      exact .inr ⟨port, hrest, h.2⟩
    · cases h
  · cases h

/-- The local machine is recognized by a whole authority, which has no user and no brackets then. -/
theorem lower_hostIn_of_isLocalhost {authority : List Char}
    (h : isLocalhost (lower (String.ofList authority)) = true) :
    lower (String.ofList (Browser.hostIn authority)) = "localhost" := by
  have hcases := isLocalhost_cases h
  rw [toList_lower] at hcases
  have habsent : ∀ x, IsSeparator x → x ∉ "localhost".toList → x ≠ ':' → digitValue? x = none →
      x ∉ authority := by
    intro x hx hname hcolon hdigit hmem
    have hlower := (separator_mem_lowerWithin hx [] []).mpr hmem
    rcases hcases with heq | ⟨port, heq, hport⟩
    · exact hname (heq ▸ hlower)
    · rw [heq] at hlower
      rcases List.mem_append.mp hlower with hmem | hmem
      · exact hname hmem
      · rcases List.mem_cons.mp hmem with rfl | hmem
        · exact hcolon rfl
        · simpa [hdigit] using hport x hmem
  have hat : '@' ∉ authority := habsent '@' (by decide) (by decide) (by decide) (by decide +kernel)
  have hbracket : '[' ∉ authority :=
    habsent '[' (by decide) (by decide) (by decide) (by decide +kernel)
  have hhost : Browser.hostIn authority = authority.takeWhile (· ≠ ':') := by
    unfold Browser.hostIn
    rw [Url.afterLast_of_notMem hat]
    split
    · exact absurd List.mem_cons_self hbracket
    · rfl
  have hname : (lowerWithin [] [] authority).takeWhile (· ≠ ':') = "localhost".toList := by
    rcases hcases with heq | ⟨port, heq, -⟩
    · rw [heq]
      decide
    · rw [heq]
      simp
  rw [takeWhile_lowerWithin (by decide), ← hhost] at hname
  have hplain : ∀ y ∈ lowerWithin [] (authority.dropWhile (· ≠ ':') ++ []) (Browser.hostIn authority),
      y ≠ 'ς' ∧ y ≠ 'σ' := by
    rw [hname]
    simp
  rw [lower, String.toList_ofList, lowerFrom_eq, ← lowerWithin_eq_of_no_sigma [] [] hplain, hname]
  rfl

/-- The hosts that a return URL may lead to, by the authority they stand in. The web application is
compared in lower case as a whole. -/
inductive Admitted (s : Settings) (suffixes : Option (List String)) (allowLocalhost : Option Bool)
    (authority : List Char) : Prop
  | listed {suffix : String} (mem : suffix ∈ suffixes.getD s.checkoutAllowedHostSuffixes)
      (within : IsWithin suffix (lower (String.ofList (Browser.hostIn authority))).toList)
  | webApp {web : Url.Parts} (unlisted : suffixes = none) (own : Url.split? s.webUrl = some web)
      (same : Browser.hostIn (lower (String.ofList authority)).toList =
        Browser.hostIn (lower web.authority).toList)
  | localhost (admitted : allowLocalhost.getD (!s.isProduction) = true)
      (here : lower (String.ofList (Browser.hostIn authority)) = "localhost")

/-- What the check accepts is on the web, and the host in front of the first slash, question mark or
number sign is admitted. -/
theorem admitted_of_isTrusted {s : Settings} {url : Option String}
    {suffixes : Option (List String)} {allowLocalhost : Option Bool}
    (h : isTrusted? s url suffixes allowLocalhost = some true) :
    ∃ name behind, Browser.cutMarker (Url.clean (url.getD "").toList) = some (name, behind) ∧
      (String.ofList (name.map Char.toLower) = "http" ∨
        String.ofList (name.map Char.toLower) = "https") ∧
      Admitted s suffixes allowLocalhost (behind.takeWhile fun c => !Url.endsAuthority c) := by
  unfold isTrusted? at h
  split at h
  · cases h
  · next parts hparts =>
    obtain ⟨scheme, rest, hscheme, hvalid, rfl⟩ := Url.split?_eq_some hparts
    simp only at h
    split at h
    · cases h
    · next hweb =>
      obtain ⟨hprotocol, hhost⟩ := not_or.mp hweb
      have hnamed : scheme ≠ [] := by
        rintro rfl
        exact hprotocol (by decide)
      have hfilled : Url.takeAuthority rest ≠ [] := by
        intro hnone
        rw [hnone] at hhost
        exact hhost (String.isEmpty_iff.mpr Url.hostOf_empty)
      obtain ⟨name, hcolon, hclean, rfl⟩ := Url.takeScheme_eq hscheme hnamed
      obtain ⟨behind, rfl, hauthority⟩ := Url.takeAuthority_eq hfilled
      refine ⟨name, behind, ?_, ?_, ?_⟩
      · rw [hclean]
        exact Browser.cutMarker_append hcolon behind
      · by_contra hno
        exact hprotocol (not_or.mp hno)
      rw [← hauthority]
      split at h
      · next hlocal =>
        rw [Bool.and_eq_true] at hlocal
        exact .localhost hlocal.1 (lower_hostIn_of_isLocalhost hlocal.2)
      · split at h
        · obtain ⟨suffix, hmem, hbelow⟩ := List.any_eq_true.mp (Option.some.inj h)
          exact .listed hmem (isWithin_of_host hvalid (isAtOrBelow_iff.mp hbelow))
        · split at h
          · cases h
          · next web hown =>
            rcases (Bool.or_eq_true _ _).mp (Option.some.inj h) with hsame | hlisted
            · refine .webApp rfl hown ?_
              rw [of_decide_eq_true hsame]
            · obtain ⟨suffix, hmem, hbelow⟩ := List.any_eq_true.mp hlisted
              exact .listed hmem (isWithin_of_host hvalid (isAtOrBelow_iff.mp hbelow))

/-- A trusted return URL leads to an admitted host on the web, unless a backslash stands in front of
the first slash, question mark or number sign. -/
theorem trusted_leads_to_admitted {s : Settings} {url : Option String}
    {suffixes : Option (List String)} {allowLocalhost : Option Bool}
    (h : isTrusted? s url suffixes allowLocalhost = some true) :
    ∃ name behind, Browser.cutMarker (Url.clean (url.getD "").toList) = some (name, behind) ∧
      (String.ofList (name.map Char.toLower) = "http" ∨
        String.ofList (name.map Char.toLower) = "https") ∧
      ('\\' ∉ behind.takeWhile (fun c => !Url.endsAuthority c) →
        Admitted s suffixes allowLocalhost (Browser.authorityIn behind)) := by
  obtain ⟨name, behind, hmarker, hprotocol, hadmitted⟩ := admitted_of_isTrusted h
  refine ⟨name, behind, hmarker, hprotocol, fun hplain => ?_⟩
  rwa [Browser.authorityIn_eq hplain]

theorem trusted_leads_to_admitted_app :
    ∃ name behind,
      Browser.cutMarker (Url.clean "https://app.madfam.io/done".toList) = some (name, behind) ∧
      Admitted {} (some [".madfam.io"]) (some false) (Browser.authorityIn behind) := by
  have htrusted : isTrusted? {} (some "https://app.madfam.io/done") (some [".madfam.io"])
      (some false) = some true := by
    decide +kernel
  have hcut : Browser.cutMarker (Url.clean "https://app.madfam.io/done".toList) =
      some ("https".toList, "app.madfam.io/done".toList) := by
    decide +kernel
  obtain ⟨name, behind, hmarker, -, hadmitted⟩ := trusted_leads_to_admitted htrusted
  obtain ⟨rfl, rfl⟩ := Prod.mk.inj (Option.some.inj (hcut.symm.trans hmarker))
  exact ⟨_, _, hmarker, hadmitted (by decide +kernel)⟩

/-- The characters of ordinary host names in lower case. -/
def isHostChar (c : Char) : Bool :=
  c.toNat < 128 && (c.isLower || c.isDigit || c = '-' || c = '.')

/-- Characters that mean nothing to the check: they are printed, settled, and no separators. -/
structure IsInert (c : Char) : Prop where
  ascii : c.toNat < 128
  printed : 32 < c.toNat
  settled : c.toLower = c
  inside : Url.endsAuthority c = false
  plain : c ∉ ['@', '[', ']', ':', '%']

theorem isInert_backslash : IsInert '\\' :=
  ⟨by decide, by decide, by decide, by decide, by decide⟩

theorem isInert_of_isHostChar {c : Char} (h : isHostChar c = true) :
    IsInert c ∧ Browser.endsAuthority c = false := by
  have hascii : c.toNat < 128 := of_decide_eq_true (Bool.and_eq_true_iff.mp h).1
  obtain ⟨h1, h2, h3, h4, h5⟩ := ascii_induction
    (P := fun c => isHostChar c = true → 32 < c.toNat ∧ c.toLower = c ∧
      Url.endsAuthority c = false ∧ c ∉ ['@', '[', ']', ':', '%'] ∧
      Browser.endsAuthority c = false) (by decide) hascii h
  exact ⟨⟨hascii, h1, h2, h3, h4⟩, h5⟩

theorem IsInert.isPlain {c : Char} (h : IsInert c) : Url.IsPlain c := by
  refine ⟨Url.isDropped_of_printed h.printed, h.inside, ?_, ?_⟩
  · constructor <;> rintro rfl <;> exact h.plain (by decide)
  · have hlarge : ∀ n ∈ Url.disguised, 128 ≤ n := by decide
    rw [Bool.eq_false_iff]
    intro hmem
    have hn := hlarge c.toNat (List.contains_iff_mem.mp hmem)
    have hascii := h.ascii
    omega

theorem split?_of_inert {authority : List Char} (h : ∀ c ∈ authority, IsInert c) :
    Url.split? (String.ofList ("https://".toList ++ authority)) =
      some ⟨"https", String.ofList authority⟩ := by
  have hscheme : Url.IsScheme "https".toList :=
    ⟨by decide, List.all_eq_true.mp (by decide)⟩
  have hnothing : ∀ c ∈ ([] : List Char).head?, Url.endsAuthority c = true := by simp
  have hsplit := Url.split?_append hscheme (fun c hc => (h c hc).isPlain) hnothing
  rwa [List.append_nil] at hsplit

theorem host_of_inert {authority : List Char} (h : ∀ c ∈ authority, IsInert c) :
    (Url.Parts.mk "https" (String.ofList authority)).host = String.ofList authority := by
  have hlower : lower (String.ofList authority) = String.ofList authority := by
    rw [← String.toList_inj, toList_lower, String.toList_ofList]
    exact lowerWithin_of_settled fun c hc => isSettled_of_ascii (h c hc).ascii (h c hc).settled
  have hplain : ∀ c ∈ authority, c ∉ ['@', '[', ':', '%'] := by
    intro c hc hmem
    have hsubset : ['@', '[', ':', '%'] ⊆ ['@', '[', ']', ':', '%'] := by decide
    exact (h c hc).plain (hsubset hmem)
  have hport : ∀ ds ∈ (none : Option (List Char)), '@' ∉ ds ∧ '[' ∉ ds := by simp
  have hhost := Url.hostOf_append hplain hport
  rw [Option.map_none, Option.getD_none, List.append_nil] at hhost
  exact hhost.trans hlower

/-- A domain of ordinary characters that starts with no point is taken as it is. -/
theorem domainOf_of_hostChars {domain : List Char} (h : ∀ c ∈ domain, isHostChar c = true)
    (hpoint : domain.head? ≠ some '.') : domainOf (String.ofList domain) = domain := by
  have hsettled : ∀ c ∈ domain, IsSettled c := by
    intro c hc
    have hinert := (isInert_of_isHostChar (h c hc)).1
    exact isSettled_of_ascii hinert.ascii hinert.settled
  rw [domainOf, toList_lower, lowerWithin_of_settled hsettled]
  cases domain with
  | nil => rfl
  | cons c rest =>
    refine List.dropWhile_cons_of_neg ?_
    simpa using hpoint

/-- A browser takes a host of ordinary characters as it is. -/
theorem hostIn_of_hostChars {host : List Char} (h : ∀ c ∈ host, isHostChar c = true) :
    Browser.hostIn host = host := by
  have hplain : ∀ c ∈ host, c ∉ ['@', '[', ']', ':', '%'] :=
    fun c hc => (isInert_of_isHostChar (h c hc)).1.plain
  rw [Browser.hostIn, Url.afterLast_of_notMem fun hmem => hplain _ hmem (by decide)]
  split
  · exact absurd (by decide) (hplain '[' List.mem_cons_self)
  · rw [List.takeWhile_eq_self_iff]
    intro c hc
    have hcolon : c ≠ ':' := by
      rintro rfl
      exact hplain _ hc (by decide)
    simpa using hcolon

/-- A browser's authority ends in front of a backslash. -/
theorem authorityIn_backslash {host : List Char} (h : ∀ c ∈ host, isHostChar c = true)
    (rest : List Char) : Browser.authorityIn (host ++ '\\' :: rest) = host := by
  have hinside : ∀ c ∈ host, (!Browser.endsAuthority c) = true := by
    intro c hc
    rw [(isInert_of_isHostChar (h c hc)).2]
    rfl
  rw [Browser.authorityIn, List.takeWhile_append_of_pos hinside]
  simp [Browser.endsAuthority]

/-- Behind a backslash the check sees whatever it is to see: every host is trusted with every
allow-list, and a browser goes there. -/
theorem trusted_behind_backslash (s : Settings) (allowLocalhost : Option Bool)
    {host domain : List Char} (hhost : ∀ c ∈ host, isHostChar c = true)
    (hdomain : ∀ c ∈ domain, isHostChar c = true) (hnamed : domain ≠ [])
    (hpoint : domain.head? ≠ some '.') :
    isTrusted? s (some (String.ofList ("https://".toList ++ (host ++ '\\' :: '.' :: domain))))
        (some [String.ofList domain]) allowLocalhost = some true ∧
      Browser.hostIn (Browser.authorityIn (host ++ '\\' :: '.' :: domain)) = host := by
  have hinert : ∀ c ∈ host ++ '\\' :: '.' :: domain, IsInert c := by
    refine List.forall_mem_append.mpr ⟨fun c hc => (isInert_of_isHostChar (hhost c hc)).1, ?_⟩
    refine List.forall_mem_cons.mpr ⟨isInert_backslash, List.forall_mem_cons.mpr ⟨?_, ?_⟩⟩
    · exact (isInert_of_isHostChar (by decide)).1
    · exact fun c hc => (isInert_of_isHostChar (hdomain c hc)).1
  have hwithin : isAtOrBelow (domainOf (String.ofList domain))
      (String.ofList (host ++ '\\' :: '.' :: domain)).toList = true := by
    rw [isAtOrBelow_iff, IsWithin, domainOf_of_hostChars hdomain hpoint, String.toList_ofList]
    refine ⟨hnamed, .inr ⟨host ++ ['\\'], ?_⟩⟩
    simp
  have hfilled : (String.ofList (host ++ '\\' :: '.' :: domain)).isEmpty = false := by
    rw [Bool.eq_false_iff]
    intro hempty
    have hlist := congrArg String.toList (String.isEmpty_iff.mp hempty)
    simp at hlist
  constructor
  · unfold isTrusted?
    simp only [Option.getD_some, split?_of_inert hinert, host_of_inert hinert, hfilled,
      List.any_cons, hwithin, Bool.true_or]
    rw [if_neg (by simp)]
    exact ite_self _
  · rw [authorityIn_backslash hhost, hostIn_of_hostChars hhost]

example :
    isTrusted? {} (some "https://evil.example\\.madfam.io/") (some [".madfam.io"]) (some false) =
        some true ∧
      Browser.hostIn (Browser.authorityIn "evil.example\\.madfam.io/".toList) =
        "evil.example".toList := by
  decide +kernel

end ReturnUrl
end SubscriptionBilling
