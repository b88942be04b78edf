import SubscriptionBilling.Proofs.LowerCase
import SubscriptionBilling.Proofs.StoreWrites
import SubscriptionBilling.Proofs.TextPieces
import SubscriptionBilling.Webhook.Signature

/-! When the signature of a delivery cannot be judged. The candidates of a header are compared one by
one, so what stands behind a match is never looked at. -/
namespace SubscriptionBilling.Signature
open Text

/-- Whether a text can be compared with a signature. -/
def isAscii (cs : List Char) : Bool := cs.all fun x => x.toNat < 128

/-- A text that is not ASCII stands among candidates, and none of those before it is the expected
one. -/
def MeetsForeign (expected : List Char) (candidates : List (List Char)) : Prop :=
  ∃ before foreign after, candidates = before ++ foreign :: after ∧
    (∀ c ∈ before, isAscii c = true ∧ c ≠ expected) ∧ isAscii foreign = false

theorem not_meetsForeign_nil (expected : List Char) : ¬MeetsForeign expected [] := by
  rintro ⟨before, foreign, after, h, -⟩
  cases before <;> cases h

theorem meetsForeign_cons_iff {expected c : List Char} {rest : List (List Char)} :
    MeetsForeign expected (c :: rest) ↔
      isAscii c = false ∨ isAscii c = true ∧ c ≠ expected ∧ MeetsForeign expected rest := by
  constructor
  · rintro ⟨before, foreign, after, h, hbefore, hforeign⟩
    cases before with
    | nil =>
      obtain ⟨rfl, -⟩ := List.cons.inj h
      exact .inl hforeign
    | cons b before =>
      obtain ⟨rfl, rfl⟩ := List.cons.inj h
      obtain ⟨⟨hascii, hne⟩, hbefore⟩ := List.forall_mem_cons.mp hbefore
      exact .inr ⟨hascii, hne, before, foreign, after, rfl, hbefore, hforeign⟩
  · rintro (h | ⟨hascii, hne, before, foreign, after, rfl, hbefore, hforeign⟩)
    · exact ⟨[], c, rest, rfl, by simp, h⟩
    · exact ⟨c :: before, foreign, after, rfl,
        List.forall_mem_cons.mpr ⟨⟨hascii, hne⟩, hbefore⟩, hforeign⟩

/-- The search among candidates fails at the first one that is not ASCII, unless it has ended. -/
theorem anyMatches_eq_error {expected : List Char} {candidates : List (List Char)}
    {problem : SignatureProblem} :
    anyMatches expected candidates = .error problem ↔
      problem = .uncomparable ∧ MeetsForeign expected candidates := by
  induction candidates with
  | nil => simp [anyMatches, not_meetsForeign_nil]
  | cons c rest ih =>
    rw [anyMatches, meetsForeign_cons_iff]
    cases hascii : isAscii c with
    | false =>
      rw [if_pos (by simpa [isAscii] using hascii)]
      simp [eq_comm]
    | true =>
      rw [if_neg (by simpa [isAscii] using hascii)]
      by_cases hc : c = expected
      · simp [hc]
      · simp [hc, ih]

/-- What has to hold for the candidates of a header to be searched for the signature of a body. -/
structure Verifier.Searches (v : Verifier) (body : List UInt8) (header : Option String)
    (payload : String) (h : Header) : Prop where
  secret : v.stripeSecret.toList.all isAsciiSpace = false
  payload : String.fromUTF8? ⟨body.toArray⟩ = some payload
  header : Header.ofString? (header.getD "") = some h

/-- The signature that a header is searched for. -/
def Verifier.expected (v : Verifier) (payload : String) (h : Header) : String :=
  Hmac.sign v.stripeSecret (Hmac.bytesOf (signedText h.time payload))

/-- A search has a secret, a header and candidates. -/
theorem Verifier.Searches.filled {v : Verifier} {body : List UInt8} {header : Option String}
    {payload : String} {h : Header} (hs : v.Searches body header payload h)
    (hmeets : MeetsForeign (v.expected payload h).toList h.candidates) :
    ¬v.stripeSecret.isEmpty = true ∧ ¬(header.getD "").isEmpty = true ∧
      ¬h.candidates.isEmpty = true := by
  refine ⟨fun hempty => ?_, fun hempty => ?_, fun hempty => ?_⟩
  · have hblank := hs.secret
    rw [String.isEmpty_iff.mp hempty] at hblank
    cases hblank
  · have hparsed : (Header.ofString? "").isSome = true := by
      rw [← String.isEmpty_iff.mp hempty, hs.header]
      rfl
    exact absurd hparsed (by decide +kernel)
  · rw [List.isEmpty_iff.mp hempty] at hmeets
    exact not_meetsForeign_nil _ hmeets

theorem verifyStripe_eq_uncomparable {v : Verifier} {now : Int} {body : List UInt8}
    {header : Option String} :
    verifyStripe v now body header = .error .uncomparable ↔
      ∃ payload h, v.Searches body header payload h ∧
        MeetsForeign (v.expected payload h).toList h.candidates := by
  unfold verifyStripe
  simp only [throw_bind]
  rw [guard_eq_error (by decide), guard_eq_error (by decide)]
  constructor
  · rintro ⟨-, -, h⟩
    split at h
    · next payload hpayload =>
      obtain ⟨hsecret, h⟩ := (guard_eq_error (by decide)).mp h
      split at h
      · next parsed hparsed =>
        obtain ⟨-, h⟩ := (guard_eq_error (by decide)).mp h
        refine ⟨payload, parsed, ⟨Bool.eq_false_iff.mpr hsecret, hpayload, hparsed⟩, ?_⟩
        cases hmatch : anyMatches (v.expected payload parsed).toList parsed.candidates with
        | error problem => exact (anyMatches_eq_error.mp hmatch).2
        | ok found =>
          -- What is left to fail then is the match or the time, each in its own way.
          rw [Verifier.expected] at hmatch
          rw [hmatch] at h
          obtain ⟨-, h⟩ := (guard_eq_error (by decide)).mp h
          obtain ⟨-, h⟩ := (guard_eq_error (by simp)).mp h
          cases h
      · cases h
    · cases h
  · rintro ⟨payload, parsed, hs, hmeets⟩
    obtain ⟨hsecret, hheader, hcandidates⟩ := hs.filled hmeets
    have hmatch := anyMatches_eq_error.mpr ⟨rfl, hmeets⟩
    rw [Verifier.expected] at hmatch
    refine ⟨hsecret, hheader, ?_⟩
    simp only [hs.payload, hs.secret, hs.header, hcandidates, hmatch]
    rfl

/-- The broker's signature can always be judged. -/
theorem verifyJanua_ne_uncomparable (v : Verifier) (body : List UInt8) (header : Option String) :
    verifyJanua v body header ≠ .error .uncomparable := by
  unfold verifyJanua
  simp only [throw_bind]
  intro h
  obtain ⟨-, h⟩ := (guard_eq_error (by decide)).mp h
  obtain ⟨-, h⟩ := (guard_eq_error (by decide)).mp h
  obtain ⟨-, h⟩ := (guard_eq_error (by decide)).mp h
  cases h

/-! The broker's own signature passes: its digits are in lower case and none of them is blank. -/

theorem length_digest (message : List UInt8) : (Sha256.digest message).length = 32 := by
  unfold Sha256.digest Sha256.State.bytes
  simp [Sha256.bigEndian]

theorem hexDigit_facts {n : Nat} (h : n < 16) :
    (Hmac.hexDigit n).toNat < 128 ∧ (Hmac.hexDigit n).toLower = Hmac.hexDigit n ∧
      isBlank (Hmac.hexDigit n) = false := by
  revert n
  decide

theorem mem_hex {bytes : List UInt8} {x : Char} (h : x ∈ (Hmac.hex bytes).toList) :
    ∃ n, n < 16 ∧ x = Hmac.hexDigit n := by
  rw [Hmac.hex, String.toList_ofList] at h
  obtain ⟨b, -, hx⟩ := List.mem_flatMap.mp h
  have hb : b.toNat < 256 := b.toNat_lt
  rcases List.mem_cons.mp hx with rfl | hx
  · exact ⟨_, by omega, rfl⟩
  · exact ⟨_, by omega, List.mem_singleton.mp hx⟩

/-- What the broker signs is accepted. -/
theorem verifyJanua_sign {v : Verifier} (h : v.januaSecret ≠ "") (body : List UInt8) :
    verifyJanua v body (some (Hmac.sign v.januaSecret body)) = .ok () := by
  have hfacts : ∀ x ∈ (Hmac.sign v.januaSecret body).toList,
      (x.toNat < 128 ∧ x.toLower = x) ∧ isBlank x = false := by
    intro x hx
    obtain ⟨n, hn, rfl⟩ := mem_hex hx
    obtain ⟨hascii, hlower, hblank⟩ := hexDigit_facts hn
    exact ⟨⟨hascii, hlower⟩, hblank⟩
  have hnormal : lower (trimBlank (Hmac.sign v.januaSecret body)) =
      Hmac.sign v.januaSecret body := by
    rw [lower, trimBlank, trimBy, String.toList_ofList,
      trimCharsBy_eq_self fun x hx => (hfacts x hx).2,
      lowerFrom_eq, lowerWithin_of_settled fun x hx => isSettled_of_ascii (hfacts x hx).1.1
        (hfacts x hx).1.2, String.ofList_toList]
  have hlength : (Hmac.sign v.januaSecret body).toList.length = 64 := by
    simp [Hmac.sign, Hmac.hex, Hmac.digest, List.map_const', length_digest]
  have hfilled : (Hmac.sign v.januaSecret body).isEmpty = false := by
    rw [Bool.eq_false_iff]
    intro hempty
    rw [String.isEmpty_iff.mp hempty] at hlength
    cases hlength
  have hsecret : v.januaSecret.isEmpty = false := by
    rw [Bool.eq_false_iff]
    exact fun hempty => h (String.isEmpty_iff.mp hempty)
  simp [verifyJanua, hsecret, hfilled, hnormal, pure, Except.pure]

/-! The direct processor's signature passes too: neither its digits nor those of its time are
separators. -/

/-- A header of the direct processor's with its time and one signature. -/
def stripeHeader (time signature : String) : String := "t=" ++ time ++ ",v1=" ++ signature

/-- Whether a character separates the parts of a header. -/
def isHeaderSeparator (x : Char) : Bool := x = ',' || x = '='

theorem isHeaderSeparator_hexDigit {n : Nat} (h : n < 16) :
    isHeaderSeparator (Hmac.hexDigit n) = false := by
  revert n
  decide

theorem notMem_of_no_separator {cs : List Char} (h : ∀ x ∈ cs, isHeaderSeparator x = false) :
    ',' ∉ cs ∧ '=' ∉ cs :=
  ⟨fun hx => Bool.noConfusion (h _ hx), fun hx => Bool.noConfusion (h _ hx)⟩

/-- A header is read back when its time can be read and nothing in it separates. -/
theorem ofString?_stripeHeader {time signature : String} {t : Int} (reads : whole? time = some t)
    (htime : ∀ x ∈ time.toList, isHeaderSeparator x = false)
    (hsignature : ∀ x ∈ signature.toList, isHeaderSeparator x = false) :
    Header.ofString? (stripeHeader time signature) = some ⟨t, [signature.toList]⟩ := by
  obtain ⟨htimeComma, htimeEquals⟩ := notMem_of_no_separator htime
  obtain ⟨hsignatureComma, hsignatureEquals⟩ := notMem_of_no_separator hsignature
  have hlist : (stripeHeader time signature).toList =
      (['t'] ++ '=' :: time.toList) ++ ',' :: (['v', '1'] ++ '=' :: signature.toList) := by
    simp [stripeHeader]
  have hitems : headerItems (stripeHeader time signature) =
      [[['t'], time.toList], [['v', '1'], signature.toList]] := by
    rw [headerItems, hlist, pieces_pair (by simp [htimeComma]) (by simp [hsignatureComma]),
      List.map_cons, List.map_cons, List.map_nil, pieces_pair (by decide) htimeEquals,
      pieces_pair (by decide) hsignatureEquals]
  simp [Header.ofString?, hitems, valuesOf?, reads]

/-- What the direct processor signs is accepted, unless it is too old. -/
theorem verifyStripe_sign {v : Verifier} {now : Int} {body : List UInt8} {payload time : String}
    {t : Int} (secret : v.stripeSecret.toList.all isAsciiSpace = false)
    (decodes : String.fromUTF8? ⟨body.toArray⟩ = some payload) (reads : whole? time = some t)
    (plain : ∀ x ∈ time.toList, isHeaderSeparator x = false)
    (recent : v.tolerance = 0 ∨ now - v.tolerance ≤ t) :
    verifyStripe v now body (some (stripeHeader time
      (Hmac.sign v.stripeSecret (Hmac.bytesOf (signedText t payload))))) = .ok () := by
  generalize hsigned : Hmac.bytesOf (signedText t payload) = signed
  have hdigits : ∀ x ∈ (Hmac.sign v.stripeSecret signed).toList,
      x.toNat < 128 ∧ isHeaderSeparator x = false := by
    intro x hx
    obtain ⟨n, hn, rfl⟩ := mem_hex hx
    exact ⟨(hexDigit_facts hn).1, isHeaderSeparator_hexDigit hn⟩
  have hparsed := ofString?_stripeHeader reads plain fun x hx => (hdigits x hx).2
  have hfilled : (stripeHeader time (Hmac.sign v.stripeSecret signed)).isEmpty = false := by
    rw [Bool.eq_false_iff]
    intro hempty
    have hlist := congrArg String.toList (String.isEmpty_iff.mp hempty)
    simp [stripeHeader] at hlist
  have hsecret : v.stripeSecret.isEmpty = false := by
    rw [Bool.eq_false_iff]
    intro hempty
    rw [String.isEmpty_iff.mp hempty] at secret
    cases secret
  have hmatch : anyMatches (Hmac.sign v.stripeSecret signed).toList
      [(Hmac.sign v.stripeSecret signed).toList] = .ok true := by
    rw [anyMatches, if_neg (by simpa using fun x hx => (hdigits x hx).1), if_pos rfl]
  have hrecent : ¬(v.tolerance ≠ 0 ∧ t < now - v.tolerance) := by omega
  simp [verifyStripe, hsecret, hfilled, decodes, secret, hparsed, hsigned, hmatch, hrecent, bind,
    Except.bind, pure, Except.pure]

end SubscriptionBilling.Signature
