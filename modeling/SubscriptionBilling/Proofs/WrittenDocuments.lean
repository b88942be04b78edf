import SubscriptionBilling.Json.Reader
import SubscriptionBilling.Json.Writer
import SubscriptionBilling.Proofs.Deliveries
import SubscriptionBilling.Proofs.SignatureGate

/-! Documents of texts, nulls and objects come back when what was written in ASCII is read again. First
every character survives its escape, then every text its quotes, and then every object its punctuation. -/
namespace SubscriptionBilling.Json
open Text

/-- The code points of characters. -/
def codesOf (cs : List Char) : List Nat := cs.map Char.toNat

@[simp] theorem codesOf_nil : codesOf [] = [] := rfl

@[simp] theorem codesOf_cons (c : Char) (cs : List Char) : codesOf (c :: cs) = c.toNat :: codesOf cs :=
  rfl

@[simp] theorem codesOf_append (cs ds : List Char) : codesOf (cs ++ ds) = codesOf cs ++ codesOf ds :=
  List.map_append

/-! Characters. -/

/-- No character is a surrogate. -/
theorem isSurrogate_toNat (c : Char) : isSurrogate c.toNat = false := by
  have hvalid : c.toNat < 0xd800 ∨ 0xdfff < c.toNat ∧ c.toNat < 0x110000 := c.valid
  simp only [isSurrogate, isHighSurrogate, isLowSurrogate, Bool.or_eq_false_iff, Bool.and_eq_false_iff,
    decide_eq_false_iff_not]
  omega

/-- One step of the lexer over a character. -/
theorem lexFrom_cons {s s' : LexState} {c : Char} {ts : List Token}
    (h : charStep s c = some (ts, s')) (rest : List Nat) :
    lexFrom s (c.toNat :: rest) = ts ++ lexFrom s' rest := by
  rw [lexFrom]
  simp only [lexStep, isSurrogate_toNat, Bool.false_eq_true, if_false, Char.ofNat_toNat, h]

theorem hexValue?_hexDigit : ∀ d < 16, hexValue? (hexDigit d) = some d := by decide

/-- Four digits of an escape give the number that they write. -/
theorem lexFrom_digits {n : Nat} (small : n < 0x10000) (taken : List Nat) (high : Option Nat)
    (rest : List Nat) :
    lexFrom (.code taken high 3 0)
        (codesOf [hexDigit (n / 4096 % 16), hexDigit (n / 256 % 16), hexDigit (n / 16 % 16),
          hexDigit (n % 16)] ++ rest) =
      lexFrom (finishCode taken high n) rest := by
  have hdigit : ∀ k, hexValue? (hexDigit (k % 16)) = some (k % 16) := fun k =>
    hexValue?_hexDigit _ (Nat.mod_lt k (by decide))
  have hstep : ∀ left value k more,
      lexFrom (.code taken high (left + 1) value) ((hexDigit (k % 16)).toNat :: more) =
        lexFrom (.code taken high left (16 * value + k % 16)) more := by
    intro left value k more
    have h : charStep (.code taken high (left + 1) value) (hexDigit (k % 16)) =
        some ([], .code taken high left (16 * value + k % 16)) := by
      simp [charStep, hdigit]
    rw [lexFrom_cons h, List.nil_append]
  have hlast : ∀ value more,
      lexFrom (.code taken high 0 value) ((hexDigit (n % 16)).toNat :: more) =
        lexFrom (finishCode taken high (16 * value + n % 16)) more := by
    intro value more
    have h : charStep (.code taken high 0 value) (hexDigit (n % 16)) =
        some ([], finishCode taken high (16 * value + n % 16)) := by
      simp [charStep, hdigit]
    rw [lexFrom_cons h, List.nil_append]
  simp only [codesOf_cons, codesOf_nil, List.cons_append, List.nil_append, hstep, hlast]
  congr 2
  omega

/-- The escape of a unit, in a text or behind a high surrogate. -/
theorem lexFrom_unitEscape {s escape : LexState} {taken : List Nat} {high : Option Nat} {n : Nat}
    (hbackslash : charStep s '\\' = some ([], escape))
    (hmark : charStep escape 'u' = some ([], .code taken high 3 0)) (small : n < 0x10000)
    (rest : List Nat) :
    lexFrom s (codesOf (unitEscape n) ++ rest) = lexFrom (finishCode taken high n) rest := by
  rw [unitEscape, codesOf_cons, codesOf_cons, List.cons_append, List.cons_append,
    lexFrom_cons hbackslash, lexFrom_cons hmark]
  exact lexFrom_digits small taken high rest

/-- The two units of a code point that does not fit into one. -/
theorem surrogates_facts {n : Nat} (large : 0x10000 ≤ n) (valid : n < 0x110000) :
    isHighSurrogate (0xd800 + (n - 0x10000) / 0x400) = true ∧
      isLowSurrogate (0xdc00 + (n - 0x10000) % 0x400) = true ∧
      joinSurrogates (0xd800 + (n - 0x10000) / 0x400) (0xdc00 + (n - 0x10000) % 0x400) = n := by
  refine ⟨?_, ?_, ?_⟩
  · simp only [isHighSurrogate, Bool.and_eq_true, decide_eq_true_eq]
    omega
  · simp only [isLowSurrogate, Bool.and_eq_true, decide_eq_true_eq]
    omega
  · unfold joinSurrogates
    omega

/-- A character comes back from its escape. -/
theorem lexFrom_escapeChar (c : Char) (taken rest : List Nat) :
    lexFrom (.text taken) (codesOf (escapeChar true c) ++ rest) =
      lexFrom (.text (c.toNat :: taken)) rest := by
  have hsimple : ∀ x e : Char, simpleEscape? x = some e → x ≠ 'u' →
      lexFrom (.text taken) (codesOf ['\\', x] ++ rest) = lexFrom (.text (e.toNat :: taken)) rest := by
    intro x e hx hu
    have hbackslash : charStep (.text taken) '\\' = some ([], .escape taken) := rfl
    have hescaped : charStep (.escape taken) x = some ([], .text (e.toNat :: taken)) := by
      simp [charStep, escapeStep, hu, hx]
    simp only [codesOf_cons, codesOf_nil, List.cons_append, List.nil_append, lexFrom_cons hbackslash,
      lexFrom_cons hescaped]
  unfold escapeChar
  split
  iterate 7 exact hsimple _ _ rfl (by decide)
  next quote backslash _ _ _ _ _ =>
  have hvalid : c.toNat < 0xd800 ∨ 0xdfff < c.toNat ∧ c.toNat < 0x110000 := c.valid
  dsimp only
  split
  · next hplain =>
    have hstep : charStep (.text taken) c = some ([], .text (c.toNat :: taken)) := by
      rw [charStep, textStep, if_neg quote, if_neg backslash, if_neg (Nat.not_lt.mpr hplain.1)]
    rw [codesOf_cons, codesOf_nil, List.cons_append, lexFrom_cons hstep]
    rfl
  · split
    · next hsmall =>
      rw [lexFrom_unitEscape (s := .text taken) rfl rfl hsmall]
      have hhigh : isHighSurrogate c.toNat = false := by
        simp only [isHighSurrogate, Bool.and_eq_false_iff, decide_eq_false_iff_not]
        omega
      simp [finishCode, hhigh]
    · next hlarge =>
      obtain ⟨hhigh, hlow, hjoined⟩ := surrogates_facts (Nat.not_lt.mp hlarge) (by omega)
      rw [codesOf_append, List.append_assoc, lexFrom_unitEscape (s := .text taken) rfl rfl (by omega)]
      simp only [finishCode, hhigh, if_true]
      rw [lexFrom_unitEscape (s := .highText taken _) rfl rfl (by omega)]
      simp only [finishCode, hlow, if_true, hjoined]

/-! Texts. -/

/-- The characters of a text come back up to the quote behind it. -/
theorem lexFrom_escaped (cs : List Char) (taken rest : List Nat) :
    lexFrom (.text taken) (codesOf (cs.flatMap (escapeChar true)) ++ ('"'.toNat :: rest)) =
      .text (taken.reverse ++ codesOf cs) :: lexFrom .between rest := by
  induction cs generalizing taken with
  | nil =>
    have hquote : charStep (.text taken) '"' = some ([.text taken.reverse], .between) := rfl
    rw [List.flatMap_nil, codesOf_nil, List.nil_append, lexFrom_cons hquote]
    simp
  | cons c cs ih =>
    rw [List.flatMap_cons, codesOf_append, List.append_assoc, lexFrom_escapeChar, ih]
    simp

/-- A text comes back from its quotes. -/
theorem lexFrom_quote (s : String) (rest : List Nat) :
    lexFrom .between (codesOf (quote true s).toList ++ rest) =
      .text (codesOf s.toList) :: lexFrom .between rest := by
  have hquote : charStep .between '"' = some ([], .text []) := rfl
  rw [quote, String.toList_ofList, codesOf_cons, List.cons_append, lexFrom_cons hquote, codesOf_append,
    List.append_assoc]
  exact lexFrom_escaped s.toList [] rest

@[simp] theorem any_isSurrogate_codesOf (cs : List Char) : (codesOf cs).any isSurrogate = false := by
  simp [codesOf, isSurrogate_toNat]

@[simp] theorem nameOf_codesOf (s : String) : nameOf (codesOf s.toList) = s := by
  have hchar : ∀ c : Char, nameChar c.toNat = c := fun c => by simp [nameChar, isSurrogate_toNat]
  simp [nameOf, codesOf, Function.comp_def, hchar]

@[simp] theorem textOf_codesOf (s : String) : textOf (codesOf s.toList) = .string s := by
  simp [textOf]

/-! Documents. -/

/-- Documents that consist of nulls, texts and objects with distinct names, with at most so many objects
inside each other. -/
inductive Textual : Nat → Json → Prop
  | null (depth : Nat) : Textual depth .null
  | string (depth : Nat) (s : String) : Textual depth (.string s)
  | object {depth : Nat} {fields : List (String × Json)} (distinct : (fields.map Prod.fst).Nodup)
      (values : ∀ f ∈ fields, Textual depth f.2) : Textual (depth + 1) (.object fields)

/-- What follows a document in such a way that a word in front ends there. -/
def EndsWords (rest : List Nat) : Prop :=
  ∀ taken, lexFrom (.word taken) rest = word taken.reverse :: lexFrom .between rest

theorem endsWords_nil : EndsWords [] := fun _ => rfl

theorem endsWords_comma (rest : List Nat) : EndsWords (','.toNat :: rest) := by
  intro taken
  have hword : charStep (.word taken) ',' = some ([word taken.reverse, .comma], .between) := rfl
  have hbetween : charStep .between ',' = some ([.comma], .between) := rfl
  rw [lexFrom_cons hword, lexFrom_cons hbetween]
  rfl

theorem endsWords_endObject (rest : List Nat) : EndsWords ('\x7d'.toNat :: rest) := by
  intro taken
  have hword : charStep (.word taken) '\x7d' = some ([word taken.reverse, .endObject], .between) := rfl
  have hbetween : charStep .between '\x7d' = some ([.endObject], .between) := rfl
  rw [lexFrom_cons hword, lexFrom_cons hbetween]
  rfl

/-- A name that is new goes behind the others. -/
theorem setField_of_notMem {name : String} {v : Json} {fields : List (String × Json)}
    (h : name ∉ fields.map Prod.fst) : setField name v fields = fields ++ [(name, v)] := by
  induction fields with
  | nil => rfl
  | cons f fields ih =>
    rw [List.map_cons, List.mem_cons, not_or] at h
    rw [setField, if_neg (Ne.symm h.1), ih h.2]
    rfl

section
variable {d : Dialect} {stack : List Frame}

theorem readTokens_cons (s : ReadState) (t : Token) (rest : List Token) :
    readTokens d s (t :: rest) = s.step d t >>= fun s => readTokens d s rest := by
  rw [readTokens]

theorem readTokens_of_step {s s' : ReadState} {t : Token} (h : s.step d t = .ok s')
    (rest : List Token) : readTokens d s (t :: rest) = readTokens d s' rest := by
  rw [readTokens_cons, h]
  rfl

/-- Where a value is expected, its written form completes it, and reading goes on behind it. -/
def Reads (d : Dialect) (stack : List Frame) (v : Json) : Prop :=
  ∀ rest, EndsWords rest →
    readTokens d ⟨stack, .value⟩ (lexFrom .between (codesOf (v.write compact).toList ++ rest)) =
      ReadState.complete stack v >>= fun s => readTokens d s (lexFrom .between rest)

theorem reads_null : Reads d stack .null := by
  intro rest hrest
  have hlexed : lexFrom .between (codesOf (null.write compact).toList ++ rest) =
      .atom .null :: lexFrom .between rest := by
    have hn : charStep .between 'n' = some ([], .word ['n']) := rfl
    have hu : charStep (.word ['n']) 'u' = some ([], .word ['u', 'n']) := rfl
    have hl : charStep (.word ['u', 'n']) 'l' = some ([], .word ['l', 'u', 'n']) := rfl
    have hend : charStep (.word ['l', 'u', 'n']) 'l' = some ([], .word ['l', 'l', 'u', 'n']) := rfl
    rw [write, show "null".toList = ['n', 'u', 'l', 'l'] from rfl]
    simp only [codesOf_cons, codesOf_nil, List.cons_append, List.nil_append, lexFrom_cons hn,
      lexFrom_cons hu, lexFrom_cons hl, lexFrom_cons hend]
    exact hrest _
  rw [hlexed, readTokens_cons]
  rfl

theorem reads_string (s : String) : Reads d stack (.string s) := by
  intro rest _
  rw [write, show compact.ascii = true from rfl, lexFrom_quote, readTokens_cons]
  simp [ReadState.step, ReadState.beginValue]

/-- The code points of a field. -/
def fieldCodes (name : String) (v : Json) : List Nat :=
  codesOf (quote true name).toList ++ (':'.toNat :: codesOf (v.write compact).toList)

theorem codesOf_writeFields_cons (f : String × Json) (more : List (String × Json)) :
    codesOf (writeFields compact (f :: more)).toList =
      ','.toNat :: (fieldCodes f.1 f.2 ++ codesOf (writeFields compact more).toList) := by
  simp [writeFields, compact, fieldCodes]

theorem codesOf_write_object (f : String × Json) (more : List (String × Json)) :
    codesOf ((object (f :: more)).write compact).toList = '\x7b'.toNat ::
      (fieldCodes f.1 f.2 ++ (codesOf (writeFields compact more).toList ++ ['\x7d'.toNat])) := by
  simp [write, compact, fieldCodes]

/-- What stands behind a field ends words. -/
theorem endsWords_writeFields (more : List (String × Json)) (rest : List Nat) :
    EndsWords (codesOf (writeFields compact more).toList ++ ('\x7d'.toNat :: rest)) := by
  cases more with
  | nil => exact endsWords_endObject rest
  | cons f more =>
    rw [codesOf_writeFields_cons]
    exact endsWords_comma _

/-- A field joins the others when its name is new. -/
theorem readTokens_field {fields : List (String × Json)} {name : String} {v : Json} {rest : List Nat}
    (hv : Reads d (.field fields name :: stack) v) (new : name ∉ fields.map Prod.fst)
    (hrest : EndsWords rest) :
    readTokens d ⟨.object fields :: stack, .name⟩ (lexFrom .between (fieldCodes name v ++ rest)) =
      readTokens d ⟨.object (fields ++ [(name, v)]) :: stack, .commaOrEnd⟩
        (lexFrom .between rest) := by
  have hcolon : charStep .between ':' = some ([.colon], .between) := rfl
  have hname : ReadState.step d ⟨.object fields :: stack, .name⟩ (.text (codesOf name.toList)) =
      .ok ⟨.field fields name :: stack, .colon⟩ := by
    simp [ReadState.step, ReadState.beginName]
  have hopen : ReadState.step d ⟨.field fields name :: stack, .colon⟩ .colon =
      .ok ⟨.field fields name :: stack, .value⟩ := rfl
  rw [fieldCodes, List.append_assoc, lexFrom_quote, readTokens_of_step hname, List.cons_append,
    lexFrom_cons hcolon, List.singleton_append, readTokens_of_step hopen, hv rest hrest,
    ReadState.complete, setField_of_notMem new]
  rfl

/-- The further fields of an object, and its end. -/
theorem readTokens_fields {fields more : List (String × Json)}
    (values : ∀ f ∈ more, ∀ others name, Reads d (.field others name :: stack) f.2)
    (distinct : ((fields ++ more).map Prod.fst).Nodup) (rest : List Nat) :
    readTokens d ⟨.object fields :: stack, .commaOrEnd⟩ (lexFrom .between
        (codesOf (writeFields compact more).toList ++ ('\x7d'.toNat :: rest))) =
      ReadState.complete stack (.object (fields ++ more)) >>= fun s =>
        readTokens d s (lexFrom .between rest) := by
  induction more generalizing fields with
  | nil =>
    have hend : charStep .between '\x7d' = some ([.endObject], .between) := rfl
    rw [writeFields, String.toList_empty, codesOf_nil, List.nil_append, lexFrom_cons hend,
      List.singleton_append, readTokens_cons, List.append_nil]
    rfl
  | cons f more ih =>
    obtain ⟨hf, hmore⟩ := List.forall_mem_cons.mp values
    have hcomma : charStep .between ',' = some ([.comma], .between) := rfl
    have new : f.1 ∉ fields.map Prod.fst := by
      simp only [List.map_append, List.map_cons, List.nodup_append] at distinct
      exact fun hmem => distinct.2.2 f.1 hmem f.1 List.mem_cons_self rfl
    have hnext : ReadState.step d ⟨.object fields :: stack, .commaOrEnd⟩ .comma =
        .ok ⟨.object fields :: stack, .name⟩ := rfl
    rw [codesOf_writeFields_cons, List.cons_append, lexFrom_cons hcomma, List.append_assoc,
      List.singleton_append, readTokens_of_step hnext,
      readTokens_field (hf fields f.1) new (endsWords_writeFields more rest),
      ih hmore (by rwa [List.append_assoc]), List.append_assoc, List.singleton_append]

theorem reads_object {fields : List (String × Json)} (distinct : (fields.map Prod.fst).Nodup)
    (room : stack.length < d.maxDepth)
    (values : ∀ f ∈ fields, ∀ others name, Reads d (.field others name :: stack) f.2) :
    Reads d stack (.object fields) := by
  intro rest _
  have hbegin : charStep .between '\x7b' = some ([.beginObject], .between) := rfl
  cases fields with
  | nil =>
    have hend : charStep .between '\x7d' = some ([.endObject], .between) := rfl
    rw [write, show "\x7b\x7d".toList = ['\x7b', '\x7d'] from rfl]
    simp only [codesOf_cons, codesOf_nil, List.cons_append, List.nil_append, lexFrom_cons hbegin,
      lexFrom_cons hend, readTokens_cons]
    rfl
  | cons f fields =>
    obtain ⟨hf, hfields⟩ := List.forall_mem_cons.mp values
    have hopen : ReadState.step d ⟨stack, .value⟩ .beginObject = .ok ⟨.object [] :: stack, .nameOrEnd⟩ :=
      rfl
    -- The first name may also be missing; when it is there, it is read like any other.
    have hfirst : ∀ codes more, readTokens d ⟨.object [] :: stack, .nameOrEnd⟩ (.text codes :: more) =
        readTokens d ⟨.object [] :: stack, .name⟩ (.text codes :: more) := by
      intro codes more
      have hdepth : checkDepth d (.object [] :: stack) = .ok () := if_pos room
      have hname : ReadState.step d ⟨.object [] :: stack, .nameOrEnd⟩ (.text codes) =
          checkDepth d (.object [] :: stack) >>= fun _ =>
            ReadState.step d ⟨.object [] :: stack, .name⟩ (.text codes) := rfl
      rw [readTokens_cons, readTokens_cons, hname, hdepth]
      rfl
    rw [codesOf_write_object, List.cons_append, lexFrom_cons hbegin, List.singleton_append,
      readTokens_of_step hopen, List.append_assoc, List.append_assoc, List.singleton_append, fieldCodes,
      List.append_assoc, lexFrom_quote, hfirst, ← lexFrom_quote, ← List.append_assoc, ← fieldCodes,
      readTokens_field (hf [] f.1) (by simp) (endsWords_writeFields fields rest), List.nil_append,
      readTokens_fields hfields distinct, List.singleton_append]

/-- Textual documents come back, in every dialect that lets them be as deep as they are. -/
theorem reads_of_textual {depth : Nat} {v : Json} (h : Textual depth v)
    (fits : stack.length + depth ≤ d.maxDepth) : Reads d stack v := by
  induction h generalizing stack with
  | null => exact reads_null
  | string depth s => exact reads_string s
  | object distinct _ ih =>
    refine reads_object distinct (by omega) fun f hf others name => ih f hf ?_
    simp only [List.length_cons]
    omega

end

/-- Textual documents come back from their written form. -/
theorem ofCodes_write {d : Dialect} {depth : Nat} {v : Json} (h : Textual depth v)
    (fits : depth ≤ d.maxDepth) : ofCodes d (codesOf (v.write compact).toList) = .ok v := by
  have comes : Reads d [] v := reads_of_textual h (by simpa using fits)
  have hread := comes [] endsWords_nil
  rw [List.append_nil] at hread
  rw [ofCodes, tokens, hread]
  rfl

/-! The written form is in ASCII, and so it also comes back from its bytes. -/

/-- Whether code points stand for characters that can be printed in ASCII. -/
def Printable (codes : List Nat) : Prop := ∀ n ∈ codes, 32 ≤ n ∧ n < 127

@[simp] theorem printable_nil : Printable [] := by simp [Printable]

@[simp] theorem printable_cons {n : Nat} {codes : List Nat} :
    Printable (n :: codes) ↔ (32 ≤ n ∧ n < 127) ∧ Printable codes := List.forall_mem_cons

@[simp] theorem printable_append {first second : List Nat} :
    Printable (first ++ second) ↔ Printable first ∧ Printable second := List.forall_mem_append

theorem printable_hexDigit : ∀ d < 16, 32 ≤ (hexDigit d).toNat ∧ (hexDigit d).toNat < 127 := by
  decide

theorem printable_unitEscape (n : Nat) : Printable (codesOf (unitEscape n)) := by
  have hdigit : ∀ k, 32 ≤ (hexDigit (k % 16)).toNat ∧ (hexDigit (k % 16)).toNat < 127 := fun k =>
    printable_hexDigit _ (Nat.mod_lt k (by decide))
  simp [unitEscape, hdigit]

theorem printable_escapeChar (c : Char) : Printable (codesOf (escapeChar true c)) := by
  unfold escapeChar
  split
  iterate 7 simp
  dsimp only
  split
  · next hplain => simpa using hplain
  · split
    · exact printable_unitEscape _
    · simp [printable_unitEscape]

theorem printable_escaped (cs : List Char) :
    Printable (codesOf (cs.flatMap (escapeChar true))) := by
  induction cs with
  | nil => exact printable_nil
  | cons c cs ih => simpa [printable_escapeChar] using ih

theorem printable_quote (s : String) : Printable (codesOf (quote true s).toList) := by
  simp [quote, printable_escaped]

theorem printable_fieldCodes {name : String} {v : Json}
    (hv : Printable (codesOf (v.write compact).toList)) : Printable (fieldCodes name v) := by
  simp [fieldCodes, printable_quote, hv]

theorem printable_writeFields {fields : List (String × Json)}
    (values : ∀ f ∈ fields, Printable (codesOf (f.2.write compact).toList)) :
    Printable (codesOf (writeFields compact fields).toList) := by
  induction fields with
  | nil => exact printable_nil
  | cons f fields ih =>
    obtain ⟨hf, hfields⟩ := List.forall_mem_cons.mp values
    simp [codesOf_writeFields_cons, printable_fieldCodes hf, ih hfields]

theorem printable_write {depth : Nat} {v : Json} (h : Textual depth v) :
    Printable (codesOf (v.write compact).toList) := by
  induction h with
  | null => simp [write]
  | string depth s => exact printable_quote s
  | @object depth fields _ _ ih =>
    cases fields with
    | nil => simp [write]
    | cons f fields =>
      obtain ⟨hf, hfields⟩ := List.forall_mem_cons.mp ih
      simp [codesOf_write_object, printable_fieldCodes hf, printable_writeFields hfields]

theorem codes8?_of_ascii {bytes : List UInt8} (h : ∀ b ∈ bytes, b.toNat < 128) :
    codes8? bytes = some (bytes.map UInt8.toNat) := by
  induction bytes with
  | nil => rfl
  | cons b bytes ih =>
    obtain ⟨hb, hbytes⟩ := List.forall_mem_cons.mp h
    have hsmall : b < 0x80 := UInt8.lt_iff_toNat_lt.mpr hb
    unfold codes8?
    rw [if_pos hsmall, ih hbytes]
    rfl

/-- Bytes of printable characters stand for these, whichever encoding is looked for. -/
theorem decodeUnicode?_of_printable {bytes : List UInt8} (h : Printable (bytes.map UInt8.toNat)) :
    decodeUnicode? bytes = some (bytes.map UInt8.toNat) := by
  have hbyte : ∀ b ∈ bytes, 32 ≤ b.toNat ∧ b.toNat < 127 := fun b hb => h _ (List.mem_map_of_mem hb)
  have hunmarked : markedEncoding? bytes = none := by
    unfold markedEncoding?
    split
    iterate 5 exact absurd (hbyte _ List.mem_cons_self) (by decide)
    rfl
  have hplain : plainEncoding bytes = .utf8 := by
    have hzero : ∀ b ∈ bytes, b ≠ 0 := by
      rintro b hb rfl
      exact absurd (hbyte 0 hb) (by decide)
    unfold plainEncoding
    split
    · rw [if_neg (hzero _ (by simp)), if_neg (hzero _ (by simp))]
    · rw [if_neg (hzero _ (by simp)), if_neg (hzero _ (by simp))]
    · rfl
  rw [decodeUnicode?, hunmarked, hplain]
  exact codes8?_of_ascii fun b hb => lt_trans (hbyte b hb).2 (by decide)

/-- A printable text has a byte for each character. -/
theorem bytesOf_of_printable {text : String} (h : Printable (codesOf text.toList)) :
    String.fromUTF8? ⟨(Hmac.bytesOf text).toArray⟩ = some text ∧
      (Hmac.bytesOf text).map UInt8.toNat = codesOf text.toList := by
  have hchar : ∀ x ∈ text.toList, x.toNat < 127 := fun x hx => (h _ (List.mem_map_of_mem hx)).2
  have hdecoded := Delivery.fromUTF8?_asciiBytes fun x hx => lt_trans (hchar x hx) (by decide)
  rw [Hmac.bytesOf_of_decoded hdecoded]
  refine ⟨hdecoded, ?_⟩
  rw [Delivery.asciiBytes, List.map_map, codesOf]
  refine List.map_congr_left fun x hx => ?_
  exact UInt8.toNat_ofNat_of_lt' (lt_trans (hchar x hx) (by decide))

/-- Textual documents come back from the bytes of their written form, to the letter or not. -/
theorem read_bytesOf_write {depth : Nat} {v : Json} (h : Textual depth v) (fits : depth ≤ 200) :
    ofUtf8 (Hmac.bytesOf (v.write compact)) = .ok v ∧
      ofBytes (Hmac.bytesOf (v.write compact)) = .ok v := by
  obtain ⟨hdecoded, hcodes⟩ := bytesOf_of_printable (printable_write h)
  have hbytes : decodeUnicode? (Hmac.bytesOf (v.write compact)) =
      some (codesOf (v.write compact).toList) := by
    rw [← hcodes]
    exact decodeUnicode?_of_printable (by rw [hcodes]; exact printable_write h)
  constructor
  · rw [ofUtf8, hdecoded]
    exact ofCodes_write h fits
  · rw [ofBytes, hbytes]
    exact ofCodes_write h (fits.trans (by decide))

end SubscriptionBilling.Json
