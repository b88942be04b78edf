import SubscriptionBilling.Access.Verifier
import SubscriptionBilling.Proofs.StoreWrites

/-! Verdicts on bearer tokens. A verification ends with the claims of the token or with a refusal, except
where what the token, the secret or the served keys hold makes it fail in a way that nobody answers. -/
namespace SubscriptionBilling.Token
open Text

/-- Whether an error is a refusal to the caller. -/
def TokenError.isRefusal : TokenError → Bool
  | notConfigured => true
  | expired => true
  | invalid => true
  | _ => false

theorem TokenError.isRefusal_iff {e : TokenError} :
    e.isRefusal = true ↔ ∃ detail, e.failure = .refused 401 detail false := by
  cases e <;> simp [isRefusal, failure]

theorem TokenError.failure_of_not_isRefusal {e : TokenError} (h : e.isRefusal = false) (status : Nat)
    (detail : String) (challenge : Bool) : e.failure ≠ .refused status detail challenge := by
  cases e with
  | notConfigured => cases h
  | expired => cases h
  | invalid => cases h
  | _ => exact fun hf => nomatch hf

/-- Whether a piece of a verification fails in another way than by a refusal. -/
def Escapes (x : Except TokenError α) : Prop := ∃ e, x = .error e ∧ e.isRefusal = false

section Calculus
variable {x : Except TokenError α} {f : α → Except TokenError β} {e : TokenError}

@[simp] theorem not_escapes_ok (a : α) : ¬Escapes (.ok a) := fun ⟨_, h, _⟩ => nomatch h

@[simp] theorem not_escapes_pure (a : α) : ¬Escapes (pure a) := not_escapes_ok a

@[simp] theorem escapes_error : Escapes (.error e : Except TokenError α) ↔ e.isRefusal = false := by
  simp [Escapes]

theorem not_escapes_of_refusal (refuses : e.isRefusal = true) :
    ¬Escapes (throw e : Except TokenError α) := fun h => by
  rw [escapes_error.mp h] at refuses
  cases refuses

theorem escapes_bind : Escapes (x >>= f) ↔ Escapes x ∨ ∃ a, x = .ok a ∧ Escapes (f a) := by
  cases x with
  | error e => simp [bind, Except.bind]
  | ok a => simp [bind, Except.bind]

/-- A check that refuses escapes where what comes after it does. -/
theorem escapes_guard {p : Prop} [Decidable p] (refuses : e.isRefusal = true) :
    Escapes (if p then throw e else x) ↔ ¬p ∧ Escapes x := by
  by_cases hp : p <;> simp [hp, not_escapes_of_refusal refuses]

end Calculus

/-! Tokens. -/

theorem escapes_partFields {bytes : List UInt8} :
    Escapes (partFields bytes) ↔ Json.ofBytes bytes = .error .tooDeep := by
  unfold partFields
  split
  · next h => simp [h]
  · next h => simp [h, TokenError.isRefusal]
  · next hother => exact ⟨fun h => by simp [TokenError.isRefusal] at h, fun h => (hother h).elim⟩

theorem not_escapes_partBytes (segment : List Char) : ¬Escapes (partBytes segment) := by
  unfold partBytes
  split <;> simp [TokenError.isRefusal]

/-- Whether the header of a token is nested too deep to be read. -/
def HasDeepHeader (token : String) : Prop :=
  ∃ head middle last more bytes, pieces '.' token.toList = head :: middle :: last :: more ∧
    Base64.decodeCanonical? head = some bytes ∧ Json.ofBytes bytes = .error .tooDeep

theorem escapes_ofString {token : String} : Escapes (Parts.ofString token) ↔ HasDeepHeader token := by
  constructor
  · intro h
    unfold Parts.ofString at h
    split at h
    · next head middle last more hpieces =>
      rcases escapes_bind.mp h with h | ⟨bytes, hbytes, h⟩
      · exact absurd h (not_escapes_partBytes head)
      rcases escapes_bind.mp h with h | ⟨header, -, h⟩
      · have hdecoded : Base64.decodeCanonical? head = some bytes := by
          unfold partBytes at hbytes
          split at hbytes
          · next hdecoded => rw [hdecoded, Except.ok.inj hbytes]
          · cases hbytes
        exact ⟨head, middle, last, more, bytes, hpieces, hdecoded, escapes_partFields.mp h⟩
      obtain ⟨-, h⟩ := (escapes_guard rfl).mp h
      rcases escapes_bind.mp h with h | ⟨payload, -, h⟩
      · exact absurd h (not_escapes_partBytes middle)
      rcases escapes_bind.mp h with h | ⟨signature, -, h⟩
      · exact absurd h (not_escapes_partBytes last)
      split at h
      · exact absurd h (not_escapes_pure _)
      · exact absurd h (not_escapes_of_refusal rfl)
    · exact absurd h (not_escapes_of_refusal rfl)
  · rintro ⟨head, middle, last, more, bytes, hpieces, hdecoded, hdeep⟩
    have hbytes : partBytes head = .ok bytes := by rw [partBytes, hdecoded]
    unfold Parts.ofString
    rw [hpieces]
    refine escapes_bind.mpr (.inr ⟨bytes, hbytes, escapes_bind.mpr (.inl ?_)⟩)
    exact escapes_partFields.mpr hdeep

theorem not_escapes_checkClaims (e : Expectation) (now : Int) (claims : List (String × Json)) :
    ¬Escapes (checkClaims e now claims) := by
  intro h
  unfold checkClaims at h
  obtain ⟨-, h⟩ := (escapes_guard rfl).mp h
  obtain ⟨-, h⟩ := (escapes_guard rfl).mp h
  generalize (claims.lookup "exp").bind wholeClaim? = expiry at h
  cases expiry with
  | none => exact absurd h (not_escapes_of_refusal rfl)
  | some expiry =>
    obtain ⟨-, h⟩ := (escapes_guard rfl).mp h
    obtain ⟨-, h⟩ := (escapes_guard rfl).mp h
    obtain ⟨-, h⟩ := (escapes_guard rfl).mp h
    exact not_escapes_pure _ h

/-! Keys. -/

/-- Whether a key does not suit its algorithm: a secret that holds a public key, or a listed key that is
no public RSA key. -/
def Key.IsUnsuited : Key → Prop
  | .shared secret => KeyMaterial.isPresentIn secret = true
  | .listed key => ∀ known, key ≠ .rsaPublic known

theorem escapes_verifies {k : Key} {p : Parts} : Escapes (k.verifies p) ↔ k.IsUnsuited := by
  unfold Key.IsUnsuited
  cases k with
  | shared secret =>
    cases hpresent : KeyMaterial.isPresentIn secret <;>
      simp [Key.verifies, hpresent, TokenError.isRefusal]
  | listed key => cases key <;> simp [Key.verifies, TokenError.isRefusal]

/-- A check escapes over its key, or over the claims of a token with a good signature. -/
theorem escapes_check {p : Parts} {k : Key} {e : Expectation} {now : Int} :
    Escapes (p.check k e now) ↔ p.names k.algorithm = true ∧
      (k.IsUnsuited ∨ k.verifies p = .ok true ∧ Json.ofBytes p.payload = .error .tooDeep) := by
  constructor
  · intro h
    obtain ⟨hnamed, h⟩ := (escapes_guard rfl).mp h
    refine ⟨by simpa using hnamed, ?_⟩
    rcases escapes_bind.mp h with h | ⟨good, hgood, h⟩
    · exact .inl (escapes_verifies.mp h)
    obtain ⟨hsigned, h⟩ := (escapes_guard rfl).mp h
    obtain rfl : good = true := by simpa using hsigned
    rcases escapes_bind.mp h with h | ⟨claims, -, h⟩
    · exact .inr ⟨hgood, escapes_partFields.mp h⟩
    rcases escapes_bind.mp h with h | ⟨-, -, h⟩
    · exact absurd h (not_escapes_checkClaims e now claims)
    · exact absurd h (not_escapes_pure _)
  · rintro ⟨hnamed, h⟩
    unfold Parts.check
    refine (escapes_guard rfl).mpr ⟨by simp [hnamed], escapes_bind.mpr ?_⟩
    rcases h with h | ⟨hgood, hdeep⟩
    · exact .inl (escapes_verifies.mpr h)
    · refine .inr ⟨true, hgood, (escapes_guard rfl).mpr ⟨by simp, ?_⟩⟩
      exact escapes_bind.mpr (.inl (escapes_partFields.mpr hdeep))

/-- Once the claims could be read, only the key is left. -/
theorem escapes_check_of_read {p : Parts} {k : Key} {e : Expectation} {now : Int}
    {claims : List (String × Json)} (read : p.claims = .ok claims) :
    Escapes (p.check k e now) ↔ p.names k.algorithm = true ∧ k.IsUnsuited := by
  have hshallow : Json.ofBytes p.payload ≠ .error .tooDeep := by
    intro hdeep
    rw [Parts.claims, partFields, hdeep] at read
    cases read
  simp only [escapes_check, hshallow, and_false, or_false]

/-- What passes a check are the claims of the token, an expiry and a subject among them. -/
theorem check_eq_ok {p : Parts} {k : Key} {e : Expectation} {now : Int} {claims : List (String × Json)}
    (h : p.check k e now = .ok claims) :
    p.claims = .ok claims ∧ present claims "exp" = true ∧ present claims "sub" = true := by
  obtain ⟨-, h⟩ := guard_eq_ok.mp h
  obtain ⟨good, -, h⟩ := bind_eq_ok.mp h
  obtain ⟨-, h⟩ := guard_eq_ok.mp h
  obtain ⟨read, hread, h⟩ := bind_eq_ok.mp h
  obtain ⟨checked, hchecked, h⟩ := bind_eq_ok.mp h
  obtain rfl : claims = read := pure_eq_ok.mp h
  obtain ⟨hpresent, -⟩ := guard_eq_ok.mp hchecked
  exact ⟨hread, by simpa using hpresent⟩

/-! Key sets. -/

theorem not_isRefusal_of_keyOf {fields : List (String × Json)} {e : TokenError}
    (h : keyOf fields = .error e) : e.isRefusal = false := by
  unfold keyOf at h
  split at h
  · split at h
    · cases h
      rfl
    · cases h
    · split at h
      · cases h
      · split at h
        · cases h
          rfl
        · cases h
    all_goals cases h
  · cases h

theorem not_isRefusal_of_entryOf {item : Json} {e : TokenError} (h : entryOf item = .error e) :
    e.isRefusal = false := by
  cases item with
  | object fields =>
    cases hkey : keyOf fields with
    | error f =>
      simp only [entryOf, hkey] at h
      cases h
      exact not_isRefusal_of_keyOf hkey
    | ok key =>
      simp only [entryOf, hkey] at h
      cases h
  | _ => cases h

/-- Reading entries fails over one of them, or it reads each of them. -/
theorem mapM_entryOf_cases (items : List Json) :
    (Escapes (items.mapM entryOf) ∧ ∃ item ∈ items, ∃ e, entryOf item = .error e) ∨
      ∃ entries, items.mapM entryOf = .ok entries ∧ items.map entryOf = entries.map .ok := by
  induction items with
  | nil => exact .inr ⟨[], rfl, rfl⟩
  | cons item rest ih =>
    rw [List.mapM_cons]
    cases hitem : entryOf item with
    | error e =>
      exact .inl ⟨⟨e, rfl, not_isRefusal_of_entryOf hitem⟩, item, List.mem_cons_self, e, hitem⟩
    | ok entry =>
      rcases ih with ⟨hescapes, faulty, hmem, hfaulty⟩ | ⟨entries, hentries, hmap⟩
      · refine .inl ⟨?_, faulty, List.mem_cons_of_mem _ hmem, hfaulty⟩
        exact escapes_bind.mpr (.inr ⟨entry, rfl, escapes_bind.mpr (.inl hescapes)⟩)
      · refine .inr ⟨entry :: entries, ?_, by rw [List.map_cons, hitem, hmap]; rfl⟩
        rw [hentries]
        rfl

/-- Whether no keys can be taken from what was served. -/
inductive UnusableKeySet (served : Option Json) : Prop
  | noList {set : List (String × Json)} (object : served = some (.object set))
      (other : ∀ items, (set.lookup "keys").getD (.array []) ≠ .array items) : UnusableKeySet served
  | faulty {set : List (String × Json)} {items : List Json} (object : served = some (.object set))
      (listed : (set.lookup "keys").getD (.array []) = .array items) {item : Json} (mem : item ∈ items)
      {e : TokenError} (fails : entryOf item = .error e) : UnusableKeySet served
  | nothing {set : List (String × Json)} {items : List Json} (object : served = some (.object set))
      (listed : (set.lookup "keys").getD (.array []) = .array items)
      (unusable : ∀ item ∈ items, entryOf item = .ok none) : UnusableKeySet served

section
variable {set : List (String × Json)} {id : Option String}

/-- A set whose keys are in a list: they are read, and then one of them is chosen. -/
theorem keyFor_of_list {items : List Json}
    (listed : (set.lookup "keys").getD (.array []) = .array items) :
    keyFor (some (.object set)) id = items.mapM entryOf >>= fun read =>
      let entries := read.filterMap fun e => e
      if entries.isEmpty then throw .unusableKeySet
      else match (entries.filter SetEntry.forSigning).find? fun e => e.isNamed id with
        | some e => pure e.key
        | none => throw .invalid := by
  simp only [keyFor, listed]
  rfl

theorem keyFor_of_no_list (other : ∀ items, (set.lookup "keys").getD (.array []) ≠ .array items) :
    keyFor (some (.object set)) id = .error .unusableKeySet := by
  cases hkeys : (set.lookup "keys").getD (.array []) with
  | array items => exact absurd hkeys (other items)
  | _ =>
    simp only [keyFor, hkeys]
    rfl

end

/-- No entry can be used exactly if each of them is passed over. -/
theorem filterMap_entries {items : List Json} {entries : List (Option SetEntry)}
    (h : items.map entryOf = entries.map .ok) :
    (entries.filterMap fun e => e) = [] ↔ ∀ item ∈ items, entryOf item = .ok none := by
  calc (entries.filterMap fun e => e) = []
      ↔ ∀ entry ∈ entries, entry = none := List.filterMap_eq_nil_iff
    _ ↔ ∀ read ∈ items.map entryOf, read = .ok none := by simp [h]
    _ ↔ ∀ item ∈ items, entryOf item = .ok none := List.forall_mem_map

/-- A list of keys is unusable over a faulty key, or when no key in it can be used. -/
theorem unusableKeySet_iff {set : List (String × Json)} {items : List Json}
    (listed : (set.lookup "keys").getD (.array []) = .array items) :
    UnusableKeySet (some (.object set)) ↔
      (∃ item ∈ items, ∃ e, entryOf item = .error e) ∨ ∀ item ∈ items, entryOf item = .ok none := by
  constructor
  · intro h
    cases h with
    | noList object other =>
      cases object
      exact absurd listed (other items)
    | faulty object own mem fails =>
      cases object
      obtain rfl := Json.array.inj (own.symm.trans listed)
      exact .inl ⟨_, mem, _, fails⟩
    | nothing object own unusable =>
      cases object
      obtain rfl := Json.array.inj (own.symm.trans listed)
      exact .inr unusable
  · rintro (⟨item, mem, e, fails⟩ | unusable)
    · exact .faulty rfl listed mem fails
    · exact .nothing rfl listed unusable

theorem escapes_keyFor {served : Option Json} {id : Option String} :
    Escapes (keyFor served id) ↔ UnusableKeySet served := by
  by_cases hobject : ∃ set, served = some (.object set)
  · obtain ⟨set, rfl⟩ := hobject
    by_cases hlist : ∃ items, (set.lookup "keys").getD (.array []) = .array items
    · obtain ⟨items, listed⟩ := hlist
      rw [keyFor_of_list listed, escapes_bind, unusableKeySet_iff listed]
      rcases mapM_entryOf_cases items with ⟨hescapes, hfaulty⟩ | ⟨entries, hentries, hmap⟩
      · exact iff_of_true (.inl hescapes) (.inl hfaulty)
      have hread : ¬∃ item ∈ items, ∃ e, entryOf item = .error e := by
        rintro ⟨item, hmem, e, hfails⟩
        have hentry : Except.error e ∈ entries.map Except.ok := by
          rw [← hmap, ← hfails]
          exact List.mem_map_of_mem hmem
        simp at hentry
      simp only [hentries, not_escapes_ok, Except.ok.injEq, exists_eq_left', hread, false_or,
        ← filterMap_entries hmap]
      split
      · next hempty => exact iff_of_true (escapes_error.mpr rfl) (by simpa using hempty)
      · next hsome =>
        refine iff_of_false ?_ (by simpa using hsome)
        split
        · exact not_escapes_pure _
        · exact not_escapes_of_refusal rfl
    · have other := not_exists.mp hlist
      rw [keyFor_of_no_list other, escapes_error]
      exact iff_of_true rfl (.noList rfl other)
  · refine iff_of_false (fun h => ?_) fun h => ?_
    · unfold keyFor at h
      split at h
      · exact hobject ⟨_, rfl⟩
      · exact not_escapes_of_refusal rfl h
    · cases h <;> exact hobject ⟨_, ‹_›⟩

/-! Verifiers. -/

namespace Verifier
variable {v : Verifier} {now : Int} {served : Option Json} {token : String}

/-- Whether a verifier works with a shared secret. -/
def IsShared (v : Verifier) : Prop := v.keySetUrl.isEmpty = true ∧ v.secret.isEmpty = false

/-- Whether a verifier works with a key set that can be fetched. -/
def IsListed (v : Verifier) : Prop := v.keySetUrl.isEmpty = false ∧ checkAddress v.keySetUrl = .ok ()

/-- What a verifier has no answer to. -/
inductive Overlooks (v : Verifier) (served : Option Json) (token : String) : Prop
  /-- The address of the key set cannot be taken apart. -/
  | address (listed : v.keySetUrl.isEmpty = false) (unreadable : Url.split? v.keySetUrl = none) :
      Overlooks v served token
  /-- The header is nested too deep. -/
  | header (ready : v.IsShared ∨ v.IsListed) (deep : HasDeepHeader token) : Overlooks v served token
  /-- The secret holds a public key. -/
  | secret (shared : v.IsShared) {p : Parts} (parts : Parts.ofString token = .ok p)
      (named : p.names "HS256" = true) (material : KeyMaterial.isPresentIn v.secret = true) :
      Overlooks v served token
  /-- The claims are signed with the secret and nested too deep. -/
  | signedClaims (shared : v.IsShared) {p : Parts} (parts : Parts.ofString token = .ok p)
      (named : p.names "HS256" = true)
      (signed : p.signature = Hmac.digest (Hmac.bytesOf v.secret) p.signedBytes)
      (deep : Json.ofBytes p.payload = .error .tooDeep) : Overlooks v served token
  /-- The claims are nested too deep, signed or not. -/
  | claims (listed : v.IsListed) {p : Parts} (parts : Parts.ofString token = .ok p)
      (deep : Json.ofBytes p.payload = .error .tooDeep) : Overlooks v served token
  /-- No keys can be taken from what is served. -/
  | keySet (listed : v.IsListed) {p : Parts} {claims : List (String × Json)}
      (parts : Parts.ofString token = .ok p) (read : p.claims = .ok claims)
      (unusable : UnusableKeySet served) : Overlooks v served token
  /-- The key that the token names is no public RSA key. -/
  | key (listed : v.IsListed) {p : Parts} {claims : List (String × Json)} {key : SetKey}
      (parts : Parts.ofString token = .ok p) (read : p.claims = .ok claims)
      (found : keyFor served p.keyId? = .ok key) (named : p.names "RS256" = true)
      (unsuited : ∀ known, key ≠ .rsaPublic known) : Overlooks v served token

theorem escapes_checkAddress {url : String} :
    Escapes (checkAddress url) ↔ Url.split? url = none := by
  unfold checkAddress
  split
  · next h => simp [h, TokenError.isRefusal]
  · next parts h =>
    rw [h]
    split <;> simp [TokenError.isRefusal]

theorem result_of_shared (shared : v.IsShared) : (v.verify now served token).result =
    Parts.ofString token >>= fun p => p.check (.shared v.secret) v.expectation now := by
  simp only [verify, shared.1, shared.2]
  rfl

theorem result_of_unconfigured (unlisted : v.keySetUrl.isEmpty = true)
    (secretless : v.secret.isEmpty = true) :
    (v.verify now served token).result = .error .notConfigured := by
  simp only [verify, unlisted, secretless]
  rfl

theorem result_of_keySet (listed : v.keySetUrl.isEmpty = false) :
    (v.verify now served token).result = v.prepare token >>= fun p =>
      keyFor served p.keyId? >>= fun k => p.check (.listed k) v.expectation now := by
  simp only [verify, listed]
  cases v.prepare token <;> rfl

theorem prepare_eq_ok {p : Parts} : v.prepare token = .ok p ↔
    checkAddress v.keySetUrl = .ok () ∧ Parts.ofString token = .ok p ∧ ∃ claims, p.claims = .ok claims := by
  unfold prepare
  simp only [bind_eq_ok, pure_eq_ok]
  constructor
  · rintro ⟨checked, haddress, q, hparts, claims, hclaims, rfl⟩
    exact ⟨haddress, hparts, claims, hclaims⟩
  · rintro ⟨haddress, hparts, claims, hclaims⟩
    exact ⟨(), haddress, p, hparts, claims, hclaims, rfl⟩

theorem escapes_prepare : Escapes (v.prepare token) ↔ Url.split? v.keySetUrl = none ∨
    checkAddress v.keySetUrl = .ok () ∧ (HasDeepHeader token ∨
      ∃ p, Parts.ofString token = .ok p ∧ Json.ofBytes p.payload = .error .tooDeep) := by
  unfold prepare
  simp only [escapes_bind, escapes_checkAddress, escapes_ofString, Parts.claims, escapes_partFields,
    not_escapes_pure, and_false, exists_false, or_false]
  have hchecked : (∃ checked, checkAddress v.keySetUrl = .ok checked) ↔
      checkAddress v.keySetUrl = .ok () := ⟨fun ⟨_, h⟩ => h, fun h => ⟨_, h⟩⟩
  rw [exists_and_right, hchecked]

theorem overlooks_of_shared (shared : v.IsShared) : v.Overlooks served token ↔
    HasDeepHeader token ∨ ∃ p, Parts.ofString token = .ok p ∧ p.names "HS256" = true ∧
      (KeyMaterial.isPresentIn v.secret = true ∨
        p.signature = Hmac.digest (Hmac.bytesOf v.secret) p.signedBytes ∧
          Json.ofBytes p.payload = .error .tooDeep) := by
  have hunlisted : ¬v.keySetUrl.isEmpty = false := by simp [shared.1]
  constructor
  · intro h
    cases h with
    | address listed _ => exact absurd listed hunlisted
    | header _ deep => exact .inl deep
    | secret _ parts named material => exact .inr ⟨_, parts, named, .inl material⟩
    | signedClaims _ parts named signed deep => exact .inr ⟨_, parts, named, .inr ⟨signed, deep⟩⟩
    | claims listed _ _ => exact absurd listed.1 hunlisted
    | keySet listed _ _ _ => exact absurd listed.1 hunlisted
    | key listed _ _ _ _ _ => exact absurd listed.1 hunlisted
  · rintro (deep | ⟨p, parts, named, material | ⟨signed, deep⟩⟩)
    · exact .header (.inl shared) deep
    · exact .secret shared parts named material
    · exact .signedClaims shared parts named signed deep

theorem overlooks_of_keySet (listed : v.keySetUrl.isEmpty = false) : v.Overlooks served token ↔
    Url.split? v.keySetUrl = none ∨ checkAddress v.keySetUrl = .ok () ∧ (HasDeepHeader token ∨
      ∃ p, Parts.ofString token = .ok p ∧ (Json.ofBytes p.payload = .error .tooDeep ∨
        ∃ claims, p.claims = .ok claims ∧ (UnusableKeySet served ∨
          ∃ key, keyFor served p.keyId? = .ok key ∧ p.names "RS256" = true ∧
            ∀ known, key ≠ .rsaPublic known))) := by
  have hunshared : ¬v.IsShared := fun shared => by simp [shared.1] at listed
  constructor
  · intro h
    cases h with
    | address _ unreadable => exact .inl unreadable
    | header ready deep => exact .inr ⟨(ready.resolve_left hunshared).2, .inl deep⟩
    | secret shared _ _ _ => exact absurd shared hunshared
    | signedClaims shared _ _ _ _ => exact absurd shared hunshared
    | claims listed parts deep => exact .inr ⟨listed.2, .inr ⟨_, parts, .inl deep⟩⟩
    | keySet listed parts read unusable =>
      exact .inr ⟨listed.2, .inr ⟨_, parts, .inr ⟨_, read, .inl unusable⟩⟩⟩
    | key listed parts read found named unsuited =>
      exact .inr ⟨listed.2, .inr ⟨_, parts, .inr ⟨_, read, .inr ⟨_, found, named, unsuited⟩⟩⟩⟩
  · rintro (unreadable | ⟨ready, deep | ⟨p, parts, deep | ⟨claims, read, unusable | ⟨key, h⟩⟩⟩⟩)
    · exact .address listed unreadable
    · exact .header (.inr ⟨listed, ready⟩) deep
    · exact .claims ⟨listed, ready⟩ parts deep
    · exact .keySet ⟨listed, ready⟩ parts read unusable
    · exact .key ⟨listed, ready⟩ parts read h.1 h.2.1 h.2.2

/-- A verification escapes exactly where a verifier has no answer. -/
theorem escapes_verify : Escapes (v.verify now served token).result ↔ v.Overlooks served token := by
  cases hunlisted : v.keySetUrl.isEmpty with
  | true =>
    cases hsecret : v.secret.isEmpty with
    | true =>
      rw [result_of_unconfigured hunlisted hsecret, escapes_error]
      refine iff_of_false (by simp [TokenError.isRefusal]) fun h => ?_
      cases h <;> simp_all [IsShared, IsListed]
    | false =>
      have shared : v.IsShared := ⟨hunlisted, hsecret⟩
      rw [result_of_shared shared, overlooks_of_shared shared, escapes_bind, escapes_ofString]
      refine or_congr_right (exists_congr fun p => and_congr_right fun _ => ?_)
      rw [escapes_check]
      refine and_congr_right fun _ => ?_
      cases hpresent : KeyMaterial.isPresentIn v.secret with
      | true => exact iff_of_true (.inl hpresent) (.inl rfl)
      | false => simp [Key.IsUnsuited, Key.verifies, hpresent]
  | false =>
    rw [result_of_keySet hunlisted, overlooks_of_keySet hunlisted, escapes_bind, escapes_prepare]
    constructor
    · rintro ((unreadable | ⟨ready, deep | ⟨p, parts, deep⟩⟩) | ⟨p, hprepare, h⟩)
      · exact .inl unreadable
      · exact .inr ⟨ready, .inl deep⟩
      · exact .inr ⟨ready, .inr ⟨p, parts, .inl deep⟩⟩
      · obtain ⟨ready, parts, claims, read⟩ := prepare_eq_ok.mp hprepare
        refine .inr ⟨ready, .inr ⟨p, parts, .inr ⟨claims, read, ?_⟩⟩⟩
        rcases escapes_bind.mp h with h | ⟨key, found, h⟩
        · exact .inl (escapes_keyFor.mp h)
        · exact .inr ⟨key, found, (escapes_check_of_read read).mp h⟩
    · rintro (unreadable | ⟨ready, deep | ⟨p, parts, deep | ⟨claims, read, h⟩⟩⟩)
      · exact .inl (.inl unreadable)
      · exact .inl (.inr ⟨ready, .inl deep⟩)
      · exact .inl (.inr ⟨ready, .inr ⟨p, parts, deep⟩⟩)
      · refine .inr ⟨p, prepare_eq_ok.mpr ⟨ready, parts, claims, read⟩, escapes_bind.mpr ?_⟩
        rcases h with unusable | ⟨key, found, hunsuited⟩
        · exact .inl (escapes_keyFor.mpr unusable)
        · exact .inr ⟨key, found, (escapes_check_of_read read).mpr hunsuited⟩

/-- What a verification lets through are the claims of the token. -/
theorem verify_eq_ok {claims : List (String × Json)}
    (h : (v.verify now served token).result = .ok claims) :
    ∃ p, Parts.ofString token = .ok p ∧ p.claims = .ok claims ∧
      present claims "exp" = true ∧ present claims "sub" = true := by
  cases hunlisted : v.keySetUrl.isEmpty with
  | true =>
    cases hsecret : v.secret.isEmpty with
    | true =>
      rw [result_of_unconfigured hunlisted hsecret] at h
      cases h
    | false =>
      rw [result_of_shared ⟨hunlisted, hsecret⟩] at h
      obtain ⟨p, hparts, h⟩ := bind_eq_ok.mp h
      exact ⟨p, hparts, check_eq_ok h⟩
  | false =>
    rw [result_of_keySet hunlisted] at h
    obtain ⟨p, hprepare, h⟩ := bind_eq_ok.mp h
    obtain ⟨k, -, h⟩ := bind_eq_ok.mp h
    exact ⟨p, (prepare_eq_ok.mp hprepare).2.1, check_eq_ok h⟩

/-- A verification ends with the claims of the token, an expiry and a subject among them, or it turns the
caller away with the status 401, or the verifier has no answer. Exactly in the last case it fails with
something else than a refusal. -/
theorem verified_or_refused_or_overlooked (v : Verifier) (now : Int) (served : Option Json)
    (token : String) :
    ((∃ p claims, (v.verify now served token).result = .ok claims ∧ Parts.ofString token = .ok p ∧
        p.claims = .ok claims ∧ present claims "exp" = true ∧ present claims "sub" = true) ∨
      (∃ e detail, (v.verify now served token).result = .error e ∧
        e.failure = .refused 401 detail false) ∨
      v.Overlooks served token) ∧
    (v.Overlooks served token ↔ ∃ e, (v.verify now served token).result = .error e ∧
      ∀ status detail challenge, e.failure ≠ .refused status detail challenge) := by
  constructor
  · cases hresult : (v.verify now served token).result with
    | ok claims =>
      obtain ⟨p, hparts, hclaims, hpresent⟩ := verify_eq_ok hresult
      exact .inl ⟨p, claims, rfl, hparts, hclaims, hpresent⟩
    | error e =>
      cases hrefusal : e.isRefusal with
      | true =>
        obtain ⟨detail, hdetail⟩ := TokenError.isRefusal_iff.mp hrefusal
        exact .inr (.inl ⟨e, detail, rfl, hdetail⟩)
      | false => exact .inr (.inr (escapes_verify.mp ⟨e, hresult, hrefusal⟩))
  · rw [← escapes_verify]
    refine exists_congr fun e => and_congr_right fun _ => ?_
    refine ⟨TokenError.failure_of_not_isRefusal, fun h => Bool.eq_false_iff.mpr fun hrefusal => ?_⟩
    obtain ⟨detail, hdetail⟩ := TokenError.isRefusal_iff.mp hrefusal
    exact h 401 detail false hdetail

/-- A key set without keys is served: a token without any claims is enough to make the verifier fail. -/
theorem overlooks_empty_key_set :
    let v := Verifier.make {} none (some "https://id.example/keys") none none
    let served : Option Json := some (.object [("keys", .array [])])
    v.Overlooks served "e30.e30." ∧ ∃ e, (v.verify 0 served "e30.e30.").result = .error e ∧
      ∀ status detail challenge, e.failure ≠ .refused status detail challenge := by
  intro v served
  have hprepared : (v.prepare "e30.e30.").toOption.isSome = true := by decide +kernel
  obtain ⟨p, hp⟩ := Option.isSome_iff_exists.mp hprepared
  obtain ⟨ready, parts, claims, read⟩ := prepare_eq_ok.mp (toOption_eq_some.mp hp)
  have hoverlooks : v.Overlooks served "e30.e30." :=
    .keySet ⟨by decide, ready⟩ parts read (.nothing rfl rfl (by simp))
  exact ⟨hoverlooks, (verified_or_refused_or_overlooked v 0 served "e30.e30.").2.mp hoverlooks⟩

end Verifier
end SubscriptionBilling.Token
