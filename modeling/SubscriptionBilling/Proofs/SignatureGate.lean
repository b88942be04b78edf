import SubscriptionBilling.Proofs.TierMoves

/-! The gate before deliveries. A delivery that is not signed changes nothing, calls nobody and leaves
no work; what has to be shown for a signature is stated here on the header and the bytes of the body,
apart from the way in which it is checked. -/
namespace SubscriptionBilling

/-- What is read off the elements of a list, where it is read off all of them. -/
theorem map_of_mapM {f : α → Option β} {l : List α} {values : List β} (h : l.mapM f = some values) :
    l.map f = values.map some := by
  induction l generalizing values with
  | nil =>
    cases h
    rfl
  | cons a rest ih =>
    rw [List.mapM_cons] at h
    obtain ⟨b, hb, h⟩ := Option.bind_eq_some_iff.mp h
    obtain ⟨found, hfound, h⟩ := Option.bind_eq_some_iff.mp h
    cases h
    rw [List.map_cons, List.map_cons, hb, ih hfound]

namespace Hmac

theorem toList_loop (bytes : ByteArray) (i : Nat) (read : List UInt8) :
    ByteArray.toList.loop bytes i read = read.reverse ++ bytes.data.toList.drop i := by
  have hlength : bytes.size = bytes.data.toList.length := Array.length_toList.symm
  fun_induction ByteArray.toList.loop bytes i read with
  | case1 i read h ih =>
    have hi : i < bytes.data.toList.length := hlength ▸ h
    have hget : bytes.get! i = bytes.data.toList[i] := by
      change bytes.data[i]! = _
      rw [getElem!_pos bytes.data i h, Array.getElem_toList]
    rw [ih, List.drop_eq_getElem_cons hi, hget, List.reverse_cons, List.append_assoc]
    rfl
  | case2 i read h => rw [List.drop_of_length_le (by omega), List.append_nil]

theorem bytesOf_eq (text : String) : bytesOf text = text.toByteArray.data.toList :=
  toList_loop text.toByteArray 0 []

theorem bytesOf_append (first second : String) :
    bytesOf (first ++ second) = bytesOf first ++ bytesOf second := by
  simp [bytesOf_eq]

/-- A text stands for the bytes that it was decoded from. -/
theorem bytesOf_of_decoded {bytes : List UInt8} {text : String}
    (h : String.fromUTF8? ⟨bytes.toArray⟩ = some text) : bytesOf text = bytes := by
  unfold String.fromUTF8? at h
  split at h
  · rw [← Option.some.inj h, bytesOf_eq]
    rfl
  · cases h

theorem isValidUTF8_of_decoded {bytes : ByteArray} {text : String}
    (h : String.fromUTF8? bytes = some text) : bytes.IsValidUTF8 := by
  unfold String.fromUTF8? at h
  split at h
  · assumption
  · cases h

end Hmac

namespace Signature
open Text

/-- The items of a header that have a name. -/
def itemsNamed (name : List Char) (header : String) : List (List (List Char)) :=
  (headerItems header).filter fun item => item.head? = some name

/-- The time in the first item for it. -/
def timeOf? (header : String) : Option Int := do
  let item ← (itemsNamed ['t'] header).head?
  let value ← item[1]?
  whole? (String.ofList value)

/-- One of the items for signatures has that signature. -/
def Carries (header signature : String) : Prop :=
  ∃ item ∈ itemsNamed ['v', '1'] header, item[1]? = some signature.toList

theorem map_of_valuesOf? {name : List Char} {header : String} {values : List (List Char)}
    (h : valuesOf? name (headerItems header) = some values) :
    (itemsNamed name header).map (fun item => item[1]?) = values.map some := map_of_mapM h

theorem timeOf?_of_header {header : String} {h : Header} (parsed : Header.ofString? header = some h) :
    timeOf? header = some h.time := by
  obtain ⟨times, htimes, parsed⟩ := Option.bind_eq_some_iff.mp parsed
  obtain ⟨first, hfirst, parsed⟩ := Option.bind_eq_some_iff.mp parsed
  obtain ⟨time, htime, parsed⟩ := Option.bind_eq_some_iff.mp parsed
  obtain ⟨candidates, -, parsed⟩ := Option.bind_eq_some_iff.mp parsed
  cases parsed
  have hvalues := congrArg List.head? (map_of_valuesOf? htimes)
  rw [List.head?_map, List.head?_map, hfirst] at hvalues
  obtain ⟨item, hitem, hvalue⟩ := Option.map_eq_some_iff.mp hvalues
  simp only [timeOf?, hitem, hvalue, Option.bind_eq_bind, Option.bind_some]
  exact htime

/-- The time of a header that the direct processor makes is the one that it is made with. -/
theorem timeOf?_stripeHeader {secret time : String} {message : List UInt8} {t : Int}
    (reads : whole? time = some t) (plain : ∀ x ∈ time.toList, isHeaderSeparator x = false) :
    timeOf? (stripeHeader time (Hmac.sign secret message)) = some t := by
  have hdigits : ∀ x ∈ (Hmac.sign secret message).toList, isHeaderSeparator x = false := by
    intro x hx
    obtain ⟨n, hn, rfl⟩ := mem_hex hx
    exact isHeaderSeparator_hexDigit hn
  exact timeOf?_of_header (ofString?_stripeHeader reads plain hdigits)

theorem carries_of_candidate {header signature : String} {h : Header}
    (parsed : Header.ofString? header = some h) (candidate : signature.toList ∈ h.candidates) :
    Carries header signature := by
  obtain ⟨times, -, parsed⟩ := Option.bind_eq_some_iff.mp parsed
  obtain ⟨first, -, parsed⟩ := Option.bind_eq_some_iff.mp parsed
  obtain ⟨time, -, parsed⟩ := Option.bind_eq_some_iff.mp parsed
  obtain ⟨candidates, hcandidates, parsed⟩ := Option.bind_eq_some_iff.mp parsed
  cases parsed
  have hvalue : some signature.toList ∈ (itemsNamed ['v', '1'] header).map fun item => item[1]? := by
    rw [map_of_valuesOf? hcandidates]
    exact List.mem_map_of_mem candidate
  obtain ⟨item, hitem, hvalue⟩ := List.mem_map.mp hvalue
  exact ⟨item, hitem, hvalue⟩

theorem mem_of_anyMatches {expected : List Char} {candidates : List (List Char)}
    (h : anyMatches expected candidates = .ok true) : expected ∈ candidates := by
  induction candidates with
  | nil => cases h
  | cons c rest ih =>
    rw [anyMatches] at h
    split at h
    · cases h
    split at h
    · next hc => exact hc ▸ List.mem_cons_self
    · exact List.mem_cons_of_mem c (ih h)

/-- The direct processor has signed a body: the header has a time, and a signature of that time and the
body, which is text. Unless the tolerance is zero the time is not past it. -/
structure Verifier.StripeSigned (v : Verifier) (now : Int) (body : List UInt8) (header : String) :
    Prop where
  secret : v.stripeSecret ≠ ""
  decodes : ByteArray.IsValidUTF8 ⟨body.toArray⟩
  signed : ∃ time, timeOf? header = some time ∧
    Carries header (Hmac.sign v.stripeSecret (Hmac.bytesOf (intText time ++ ".") ++ body)) ∧
    (v.tolerance = 0 ∨ now - v.tolerance ≤ time)

/-- The broker has signed a body: the header is the signature, in any case and with blanks around. -/
structure Verifier.JanuaSigned (v : Verifier) (body : List UInt8) (header : String) : Prop where
  secret : v.januaSecret ≠ ""
  signed : lower (trimBlank header) = Hmac.sign v.januaSecret body

/-- A provider has signed a body. -/
def Verifier.Signed (v : Verifier) (now : Int) (p : Provider) (body : List UInt8)
    (signature : Option String) : Prop :=
  ∃ header, signature = some header ∧
    match p with
    | .stripe => v.StripeSigned now body header
    | .janua => v.JanuaSigned body header

/-- A header that is not empty is there. -/
theorem eq_some_of_getD {header : Option String} (h : ¬(header.getD "").isEmpty = true) :
    header = some (header.getD "") := by
  cases header with
  | none => exact absurd rfl h
  | some _ => rfl

theorem ne_empty_of_isEmpty {text : String} (h : ¬text.isEmpty = true) : text ≠ "" := by
  rintro rfl
  exact h rfl

theorem stripeSigned_of_verified {v : Verifier} {now : Int} {body : List UInt8}
    {signature : Option String} (h : verifyStripe v now body signature = .ok ()) :
    v.Signed now .stripe body signature := by
  unfold verifyStripe at h
  simp only [throw_bind] at h
  obtain ⟨hsecret, h⟩ := guard_eq_ok.mp h
  obtain ⟨hheader, h⟩ := guard_eq_ok.mp h
  refine ⟨_, eq_some_of_getD hheader, ?_⟩
  split at h
  · next payload hpayload =>
    obtain ⟨-, h⟩ := guard_eq_ok.mp h
    split at h
    · next parsed hparsed =>
      obtain ⟨-, h⟩ := guard_eq_ok.mp h
      obtain ⟨found, hmatch, h⟩ := bind_eq_ok.mp h
      obtain ⟨hfound, h⟩ := guard_eq_ok.mp h
      obtain ⟨hrecent, -⟩ := guard_eq_ok.mp h
      obtain rfl : found = true := by simpa using hfound
      rw [signedText, Hmac.bytesOf_append, Hmac.bytesOf_of_decoded hpayload] at hmatch
      have hcarries := carries_of_candidate hparsed (mem_of_anyMatches hmatch)
      exact
        { secret := ne_empty_of_isEmpty hsecret
          decodes := Hmac.isValidUTF8_of_decoded hpayload
          signed := ⟨parsed.time, timeOf?_of_header hparsed, hcarries, by omega⟩ }
    · cases h
  · cases h

theorem januaSigned_of_verified {v : Verifier} {now : Int} {body : List UInt8}
    {signature : Option String} (h : verifyJanua v body signature = .ok ()) :
    v.Signed now .janua body signature := by
  unfold verifyJanua at h
  simp only [throw_bind] at h
  obtain ⟨hsecret, h⟩ := guard_eq_ok.mp h
  obtain ⟨hheader, h⟩ := guard_eq_ok.mp h
  obtain ⟨hmatch, -⟩ := guard_eq_ok.mp h
  exact ⟨_, eq_some_of_getD hheader, ne_empty_of_isEmpty hsecret, Decidable.not_not.mp hmatch⟩

/-- What passes as signed is signed. -/
theorem Verifier.signed_of_verified {v : Verifier} {now : Int} {p : Provider} {body : List UInt8}
    {signature : Option String} (h : v.verify now p body signature = .ok ()) :
    v.Signed now p body signature := by
  cases p with
  | stripe => exact stripeSigned_of_verified h
  | janua => exact januaSigned_of_verified h

end Signature

namespace Delivery
variable {c : Context} {v : Signature.Verifier} {p : Provider} {body : List UInt8}
  {signature : Option String} {w : World}

/-- The work that a delivery leaves. -/
def tasks (c : Context) (v : Signature.Verifier) (p : Provider) (body : List UInt8)
    (signature : Option String) (db : Database) : List IdentityTask :=
  match (receive c v p body signature db).1 with
  | .ok (_, tasks) => tasks
  | .error _ => []

/-- A delivery does something: it changes the store, calls another system, or leaves work. -/
def Acts (c : Context) (v : Signature.Verifier) (p : Provider) (body : List UInt8)
    (signature : Option String) (w : World) : Prop :=
  (handle c v p body signature w).2 ≠ w ∨ tasks c v p body signature w.database ≠ []

/-- A delivery that is not verified is answered at once, or not at all. -/
theorem receive_of_unverified (h : v.verify c.now p body signature ≠ .ok ()) (db : Database) :
    ∃ answer : Except Failure Receipt,
      receive c v p body signature db = (answer.map fun r => (r, []), db) := by
  cases hverify : v.verify c.now p body signature with
  | ok _ => exact absurd hverify h
  | error problem =>
    cases problem
    case secretMissing =>
      exact ⟨.ok .secretMissing, by simp only [receive, read, hverify, Except.map]⟩
    case uncomparable =>
      exact ⟨.error .uncomparableSignature, by simp only [receive, read, hverify, Except.map]⟩
    all_goals exact ⟨.ok .invalidSignature, by simp only [receive, read, hverify, Except.map]⟩

theorem not_acts_of_unverified (h : v.verify c.now p body signature ≠ .ok ()) :
    ¬Acts c v p body signature w := by
  obtain ⟨answer, hreceive⟩ := receive_of_unverified h w.database
  rintro (hchange | hwork)
  · refine hchange ?_
    cases answer <;> simp only [handle, hreceive, Except.map]
    rfl
  · refine hwork ?_
    cases answer <;> simp only [tasks, hreceive, Except.map]

/-- A delivery does something only if its provider has signed it. -/
theorem acts_only_if_signed (acts : Acts c v p body signature w) :
    v.Signed c.now p body signature := by
  by_contra hsigned
  exact not_acts_of_unverified (mt Signature.Verifier.signed_of_verified hsigned) acts

/-- A verified delivery whose event changes the store does something. -/
theorem acts_of_arrival {e : ProviderEvent} (verified : v.verify c.now p body signature = .ok ())
    (event : event? c.settings p body = .ok (some e))
    (changes : (⟨c, e⟩ : Arrival).after w.database ≠ w.database) : Acts c v p body signature w := by
  refine .inl fun hsame => changes ?_
  rw [← receive_of_event verified event, ← database_handle, hsame]

/-- The direct processor's notice that a checkout of the top plan is completed. -/
def completionText : String :=
  "\x7b\"id\":\"evt\",\"type\":\"checkout.session.completed\",\"created\":0,\"data\":\x7b\"object\":\x7b\"id\":\"cs\",\"customer\":\"cus\",\"metadata\":\x7b\"plan\":\"pro\"\x7d\x7d\x7d\x7d"

/-- The header of the notice, signed under the secret `k` at the time zero. -/
def completionHeader : String :=
  Signature.stripeHeader "0" (Hmac.sign "k" (Hmac.bytesOf (Signature.signedText 0 completionText)))

theorem plain_zero : ∀ x ∈ "0".toList, Signature.isHeaderSeparator x = false := by
  intro x hx
  obtain rfl : x = '0' := by simpa using hx
  rfl

/-- A world with a customer of the direct processor's. -/
def customerWorld : World where
  database := Database.ofCustomer "u" "u@example.com" .stripe "cus"

theorem verified_completion {now tolerance : Int} (recent : tolerance = 0 ∨ now - tolerance ≤ 0) :
    Signature.Verifier.verify ⟨"k", "", tolerance⟩ now .stripe (asciiBytes completionText)
      (some completionHeader) = .ok () := by
  have hascii : Signature.isAscii completionText.toList = true := by decide +kernel
  have hdecodes : String.fromUTF8? ⟨(asciiBytes completionText).toArray⟩ = some completionText :=
    fromUTF8?_asciiBytes
      (by simpa only [Signature.isAscii, List.all_eq_true, decide_eq_true_eq] using hascii)
  have hsecret : "k".toList.all Text.isAsciiSpace = false := by decide
  rw [Signature.Verifier.verify, completionHeader]
  exact Signature.verifyStripe_sign (v := ⟨"k", "", tolerance⟩) hsecret hdecodes (by decide)
    plain_zero recent

/-- The notice is acted on wherever it moves the customer, unless it is too old. -/
theorem acts_on_completion {now tolerance : Int} (recent : tolerance = 0 ∨ now - tolerance ≤ 0)
    (moves : ((event? {} .stripe (asciiBytes completionText)).toOption.join.map fun e =>
      ((⟨⟨{}, now, none⟩, e⟩ : Arrival).after customerWorld.database).tier? "u") = some (some .pro)) :
    Acts ⟨{}, now, none⟩ ⟨"k", "", tolerance⟩ .stripe (asciiBytes completionText)
      (some completionHeader) customerWorld := by
  obtain ⟨e, he, hpro⟩ := Option.map_eq_some_iff.mp moves
  refine acts_of_arrival (verified_completion recent)
    (toOption_eq_some.mp (Option.join_eq_some_iff.mp he)) fun hsame => ?_
  rw [hsame] at hpro
  cases hpro

/-- The notice in time does something, and is signed. -/
theorem acts_only_if_signed_completion :
    Acts ⟨{}, 0, none⟩ ⟨"k", "", 300⟩ .stripe (asciiBytes completionText) (some completionHeader)
        customerWorld ∧
      Signature.Verifier.Signed ⟨"k", "", 300⟩ 0 .stripe (asciiBytes completionText)
        (some completionHeader) := by
  have hacts : Acts ⟨{}, 0, none⟩ ⟨"k", "", 300⟩ .stripe (asciiBytes completionText)
      (some completionHeader) customerWorld :=
    acts_on_completion (by decide) (by decide +kernel)
  exact ⟨hacts, acts_only_if_signed hacts⟩

/-- With a tolerance of zero a notice does something though its time is before the present. -/
theorem acts_on_old_delivery :
    Acts ⟨{}, 1, none⟩ ⟨"k", "", 0⟩ .stripe (asciiBytes completionText) (some completionHeader)
        customerWorld ∧
      ¬∃ time, Signature.timeOf? completionHeader = some time ∧ 1 - 0 ≤ time := by
  refine ⟨acts_on_completion (by decide) (by decide +kernel), ?_⟩
  rintro ⟨time, htime, hrecent⟩
  have hzero : Signature.timeOf? completionHeader = some 0 :=
    Signature.timeOf?_stripeHeader (by decide) plain_zero
  obtain rfl : 0 = time := Option.some.inj (hzero.symm.trans htime)
  exact absurd hrecent (by decide)

end Delivery
end SubscriptionBilling
