import Mathlib.Tactic.Common
import SubscriptionBilling.Json.Reader
import SubscriptionBilling.Proofs.StoreWrites

/-! Documents that are read to the letter have only texts that are strings. The tokens come first,
none of which is broken text, then the machine over them, whose open frames hold nothing broken. -/
namespace SubscriptionBilling.Json
open Text

theorem isEncodable_array {items : List Json} :
    (array items).isEncodable = true ↔ ∀ v ∈ items, v.isEncodable = true := by
  unfold isEncodable
  rw [allValues]
  induction items with
  | nil => simp [allItems]
  | cons v rest ih => simp [allItems, ih]

theorem isEncodable_object {fields : List (String × Json)} :
    (object fields).isEncodable = true ↔ ∀ f ∈ fields, f.2.isEncodable = true := by
  unfold isEncodable
  rw [allValues]
  induction fields with
  | nil => simp [allFields]
  | cons f rest ih => simp [allFields, ih]

/-- Every field that is looked up is one of the fields. -/
theorem mem_of_lookup_eq_some {fields : List (String × Json)} {name : String} {v : Json}
    (h : fields.lookup name = some v) : ∃ f ∈ fields, f.2 = v := by
  obtain ⟨before, after, hsplit, -⟩ := List.lookup_eq_some_iff.mp h
  exact ⟨(name, v), by simp [hsplit], rfl⟩

theorem mem_setField {name : String} {v : Json} {fields : List (String × Json)}
    {f : String × Json} (h : f ∈ setField name v fields) : f = (name, v) ∨ f ∈ fields := by
  induction fields with
  | nil => exact .inl (List.mem_singleton.mp h)
  | cons g rest ih =>
    unfold setField at h
    split at h
    · rcases List.mem_cons.mp h with h | h
      · exact .inl h
      · exact .inr (List.mem_cons_of_mem g h)
    · rcases List.mem_cons.mp h with h | h
      · exact .inr (h ▸ List.mem_cons_self)
      · exact (ih h).imp_right (List.mem_cons_of_mem g)

/-- Whether the value of a token, if it has one, can be encoded. -/
def Token.IsEncodable : Token → Prop
  | .atom v => v.isEncodable = true
  | .longFloat v => v.isEncodable = true
  | _ => True

theorem number_isEncodable (cs : List Char) : (number cs).IsEncodable := by
  unfold number
  grind [Token.IsEncodable, isEncodable, allValues]

theorem word_isEncodable (cs : List Char) : (word cs).IsEncodable := by
  unfold word
  split
  case h_7 => exact number_isEncodable cs
  all_goals rfl

/-- What one character emits can be encoded. -/
theorem outside_isEncodable {c : Char} {ts : List Token} {s : LexState}
    (h : outside c = some (ts, s)) : ∀ t ∈ ts, t.IsEncodable := by
  unfold outside at h
  split at h
  · obtain ⟨rfl, -⟩ := Prod.mk.inj (Option.some.inj h)
    simp
  · split at h <;> obtain ⟨rfl, -⟩ := Prod.mk.inj (Option.some.inj h) <;> simp [Token.IsEncodable]

theorem textStep_isEncodable {taken : List Nat} {c : Char} {ts : List Token} {s : LexState}
    (h : textStep taken c = some (ts, s)) : ∀ t ∈ ts, t.IsEncodable := by
  unfold textStep at h
  grind [Token.IsEncodable]

theorem escapeStep_quiet {taken : List Nat} {high : Option Nat} {c : Char} {ts : List Token}
    {s : LexState} (h : escapeStep taken high c = some (ts, s)) : ts = [] := by
  unfold escapeStep at h
  split at h
  · exact (Prod.mk.inj (Option.some.inj h)).1.symm
  · obtain ⟨_, -, h⟩ := Option.map_eq_some_iff.mp h
    exact (Prod.mk.inj h).1.symm

/-- A digit of an escape emits nothing. -/
theorem code_quiet {taken : List Nat} {high : Option Nat} {left value : Nat} {c : Char}
    {ts : List Token} {s : LexState} (h : charStep (.code taken high left value) c = some (ts, s)) :
    ts = [] := by
  rw [charStep] at h
  obtain ⟨d, -, h⟩ := Option.bind_eq_some_iff.mp h
  cases left with
  | zero => exact (Prod.mk.inj (Option.some.inj h)).1.symm
  | succ k => exact (Prod.mk.inj (Option.some.inj h)).1.symm

theorem charStep_isEncodable {s s' : LexState} {c : Char} {ts : List Token}
    (h : charStep s c = some (ts, s')) : ∀ t ∈ ts, t.IsEncodable := by
  cases s with
  | between => exact outside_isEncodable h
  | word taken =>
    rw [charStep] at h
    split at h
    · obtain ⟨rfl, -⟩ := Prod.mk.inj (Option.some.inj h)
      simp
    · obtain ⟨⟨us, _⟩, hout, h⟩ := Option.map_eq_some_iff.mp h
      obtain ⟨rfl, -⟩ := Prod.mk.inj h
      exact List.forall_mem_cons.mpr ⟨word_isEncodable _, outside_isEncodable hout⟩
  | text taken => exact textStep_isEncodable h
  | escape taken => simp [escapeStep_quiet h]
  | code taken high left value => simp [code_quiet h]
  | highText taken high =>
    rw [charStep] at h
    split at h
    · obtain ⟨rfl, -⟩ := Prod.mk.inj (Option.some.inj h)
      simp
    · exact textStep_isEncodable h
  | highEscape taken high => simp [escapeStep_quiet h]

/-- A surrogate is part of a text, so it emits nothing. -/
theorem lexStep_isEncodable {s s' : LexState} {n : Nat} {ts : List Token}
    (h : lexStep s n = some (ts, s')) : ∀ t ∈ ts, t.IsEncodable := by
  unfold lexStep at h
  split at h
  · split at h
    · obtain ⟨rfl, -⟩ := Prod.mk.inj (Option.some.inj h)
      simp
    · obtain ⟨rfl, -⟩ := Prod.mk.inj (Option.some.inj h)
      simp
    · cases h
  · exact charStep_isEncodable h

/-- No token holds broken text but a text itself. -/
theorem tokens_isEncodable (codes : List Nat) : ∀ t ∈ tokens codes, t.IsEncodable := by
  unfold tokens
  fun_induction lexFrom .between codes with
  | case1 => simp
  | case2 taken => simpa using word_isEncodable _
  | case3 => simp [Token.IsEncodable]
  | case4 n rest s ts s' hstep ih =>
    intro t ht
    rcases List.mem_append.mp ht with ht | ht
    · exact lexStep_isEncodable hstep t ht
    · exact ih t ht
  | case5 => simp [Token.IsEncodable]

/-- Whether everything that an open list or object has taken can be encoded. -/
def Frame.IsEncodable : Frame → Prop
  | .array items => ∀ v ∈ items, v.isEncodable = true
  | .object fields => ∀ f ∈ fields, f.2.isEncodable = true
  | .field fields _ => ∀ f ∈ fields, f.2.isEncodable = true

/-- Whether everything that was read so far can be encoded. -/
structure ReadState.IsEncodable (s : ReadState) : Prop where
  stack : ∀ f ∈ s.stack, f.IsEncodable
  result : ∀ v, s.expecting = .nothing v → v.isEncodable = true

namespace ReadState
variable {d : Dialect} {stack : List Frame} {s s' : ReadState} {t : Token}

/-- A state that is not at the end. -/
theorem isEncodable_of_stack (h : ∀ f ∈ s.stack, f.IsEncodable)
    (hopen : ∀ v, s.expecting ≠ .nothing v) : s.IsEncodable :=
  ⟨h, fun v hv => absurd hv (hopen v)⟩

theorem complete_isEncodable {v : Json} (h : complete stack v = .ok s)
    (hs : ∀ f ∈ stack, f.IsEncodable) (hv : v.isEncodable = true) : s.IsEncodable := by
  unfold complete at h
  split at h
  · obtain rfl := Except.ok.inj h
    exact ⟨hs, fun w hw => by cases hw; exact hv⟩
  · obtain rfl := Except.ok.inj h
    obtain ⟨hf, hs⟩ := List.forall_mem_cons.mp hs
    refine isEncodable_of_stack (List.forall_mem_cons.mpr ⟨?_, hs⟩) (by simp)
    exact List.forall_mem_cons.mpr ⟨hv, hf⟩
  · obtain rfl := Except.ok.inj h
    obtain ⟨hf, hs⟩ := List.forall_mem_cons.mp hs
    refine isEncodable_of_stack (List.forall_mem_cons.mpr ⟨fun f hmem => ?_, hs⟩) (by simp)
    rcases mem_setField hmem with rfl | hmem
    · exact hv
    · exact hf f hmem
  · cases h

/-- A strict text is a string. -/
theorem textOf_isEncodable {codes : List Nat} (h : codes.any isSurrogate = false) :
    (textOf codes).isEncodable = true := by
  simp [textOf, h, isEncodable, allValues]

theorem beginValue_isEncodable (h : beginValue strict stack t = .ok s)
    (hs : ∀ f ∈ stack, f.IsEncodable) (ht : t.IsEncodable) : s.IsEncodable := by
  unfold beginValue at h
  split at h
  · split at h
    · cases h
    · next hc => exact complete_isEncodable h hs (textOf_isEncodable (by simpa [strict] using hc))
  · exact complete_isEncodable h hs ht
  · cases h
  · cases h
  · obtain rfl := Except.ok.inj h
    exact isEncodable_of_stack (List.forall_mem_cons.mpr ⟨by simp [Frame.IsEncodable], hs⟩) (by simp)
  · obtain rfl := Except.ok.inj h
    exact isEncodable_of_stack (List.forall_mem_cons.mpr ⟨by simp [Frame.IsEncodable], hs⟩) (by simp)
  · cases h

theorem beginName_isEncodable (h : beginName d stack t = .ok s)
    (hs : ∀ f ∈ stack, f.IsEncodable) : s.IsEncodable := by
  unfold beginName at h
  split at h
  · split at h
    · cases h
    · obtain rfl := Except.ok.inj h
      obtain ⟨hf, hs⟩ := List.forall_mem_cons.mp hs
      exact isEncodable_of_stack (List.forall_mem_cons.mpr ⟨hf, hs⟩) (by simp)
  · cases h

theorem endFrame_isEncodable (h : endFrame stack t = .ok s)
    (hs : ∀ f ∈ stack, f.IsEncodable) : s.IsEncodable := by
  unfold endFrame at h
  split at h
  · obtain ⟨hf, hs⟩ := List.forall_mem_cons.mp hs
    refine complete_isEncodable h hs (isEncodable_array.mpr fun v hv => ?_)
    exact hf v (List.mem_reverse.mp hv)
  · obtain ⟨hf, hs⟩ := List.forall_mem_cons.mp hs
    exact complete_isEncodable h hs (isEncodable_object.mpr hf)
  · cases h

/-- A step of the strict machine takes nothing broken. -/
theorem step_isEncodable (h : s.step strict t = .ok s') (hs : s.IsEncodable)
    (ht : t.IsEncodable) : s'.IsEncodable := by
  unfold step at h
  split at h
  · exact beginValue_isEncodable h hs.stack ht
  · split at h
    · exact endFrame_isEncodable h hs.stack
    · obtain ⟨-, -, h⟩ := bind_eq_ok.mp h
      exact beginValue_isEncodable h hs.stack ht
  · exact beginName_isEncodable h hs.stack
  · split at h
    · exact endFrame_isEncodable h hs.stack
    · obtain ⟨-, -, h⟩ := bind_eq_ok.mp h
      exact beginName_isEncodable h hs.stack
  · split at h
    · obtain rfl := Except.ok.inj h
      exact isEncodable_of_stack hs.stack (by simp)
    · cases h
  · split at h
    · obtain rfl := Except.ok.inj h
      exact isEncodable_of_stack hs.stack (by simp)
    · obtain rfl := Except.ok.inj h
      exact isEncodable_of_stack hs.stack (by simp)
    · exact endFrame_isEncodable h hs.stack
  · cases h

end ReadState

theorem readTokens_isEncodable {s : ReadState} {ts : List Token} {j : Json}
    (h : readTokens strict s ts = .ok j) (hs : s.IsEncodable) (hts : ∀ t ∈ ts, t.IsEncodable) :
    j.isEncodable = true := by
  fun_induction readTokens strict s ts with
  | case1 stack v =>
    obtain rfl := Except.ok.inj h
    exact hs.result v rfl
  | case2 => cases h
  | case3 s t rest ih =>
    obtain ⟨s', hstep, h⟩ := bind_eq_ok.mp h
    obtain ⟨ht, hrest⟩ := List.forall_mem_cons.mp hts
    exact ih s' h (ReadState.step_isEncodable hstep hs ht) hrest

/-- Every text in a document that was read to the letter is a string. -/
theorem ofUtf8_isEncodable {bytes : List UInt8} {j : Json} (h : ofUtf8 bytes = .ok j) :
    j.isEncodable = true := by
  unfold ofUtf8 at h
  split at h
  · refine readTokens_isEncodable h ?_ (tokens_isEncodable _)
    exact ReadState.isEncodable_of_stack (by simp) (by simp)
  · cases h

end SubscriptionBilling.Json
