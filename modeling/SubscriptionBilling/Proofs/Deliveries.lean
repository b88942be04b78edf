import SubscriptionBilling.Proofs.ExactlyOnce
import SubscriptionBilling.Proofs.Signatures
import SubscriptionBilling.Proofs.Translation
import SubscriptionBilling.Webhook.Intake

/-! Answers to deliveries: which deliveries get none, and what an answer says about the store. -/
namespace SubscriptionBilling
namespace Delivery
variable {c : Context} {v : Signature.Verifier} {p : Provider} {body : List UInt8}
  {signature : Option String}

/-- The deliveries that end without an answer. A candidate that is not ASCII keeps the signature
from being judged, and a time off the clock keeps a verified body from being translated. -/
inductive Escapes (c : Context) (v : Signature.Verifier) (body : List UInt8)
    (signature : Option String) : Provider → Prop
  | unjudged {payload : String} {h : Signature.Header} (searches : v.Searches body signature payload h)
      (meets : Signature.MeetsForeign (v.expected payload h).toList h.candidates) :
      Escapes c v body signature .stripe
  | untranslated {p : Provider} (verified : v.verify c.now p body signature = .ok ())
      {period : Period} (given : period ∈ period? p body) (off : period.IsOffClock) :
      Escapes c v body signature p

/-- A signature cannot be judged only at the direct processor. -/
theorem verify_eq_uncomparable :
    v.verify c.now p body signature = .error .uncomparable ↔
      p = .stripe ∧ ∃ payload h, v.Searches body signature payload h ∧
        Signature.MeetsForeign (v.expected payload h).toList h.candidates := by
  cases p with
  | stripe => simpa [Signature.Verifier.verify] using Signature.verifyStripe_eq_uncomparable
  | janua =>
    simpa [Signature.Verifier.verify] using Signature.verifyJanua_ne_uncomparable v body signature

/-- A delivery whose signature is refused escapes exactly if it could not be judged. -/
theorem escapes_of_refused {problem : SignatureProblem}
    (h : v.verify c.now p body signature = .error problem) :
    Escapes c v body signature p ↔ problem = .uncomparable := by
  constructor
  · rintro (⟨searches, meets⟩ | ⟨verified, -, -⟩)
    · have hunjudged : v.verify c.now .stripe body signature = .error .uncomparable :=
        verify_eq_uncomparable.mpr ⟨rfl, _, _, searches, meets⟩
      exact Except.error.inj (h.symm.trans hunjudged)
    · rw [h] at verified
      cases verified
  · rintro rfl
    obtain ⟨rfl, payload, parsed, searches, meets⟩ := verify_eq_uncomparable.mp h
    exact .unjudged searches meets

/-- A verified delivery escapes exactly over its period. -/
theorem escapes_of_verified (h : v.verify c.now p body signature = .ok ()) :
    Escapes c v body signature p ↔ ∃ period ∈ period? p body, period.IsOffClock := by
  constructor
  · rintro (⟨searches, meets⟩ | ⟨-, given, off⟩)
    · have hunjudged : v.verify c.now .stripe body signature = .error .uncomparable :=
        verify_eq_uncomparable.mpr ⟨rfl, _, _, searches, meets⟩
      cases h.symm.trans hunjudged
    · exact ⟨_, given, off⟩
  · rintro ⟨period, given, off⟩
    exact .untranslated h given off

/-- What is known of a delivery at first: it has an answer, it has an event, or it escapes. -/
theorem read_cases (c : Context) (v : Signature.Verifier) (p : Provider) (body : List UInt8)
    (signature : Option String) :
    (∃ r, read c v p body signature = .ok (.inl r) ∧ ¬Escapes c v body signature p ∧
      ∀ o, r = .handled o → o = .ignored) ∨
    (∃ e, read c v p body signature = .ok (.inr e) ∧ ¬Escapes c v body signature p ∧
      v.verify c.now p body signature = .ok () ∧ event? c.settings p body = .ok (some e)) ∨
    ((∃ f, read c v p body signature = .error f) ∧ Escapes c v body signature p) := by
  unfold read
  cases hverify : v.verify c.now p body signature with
  | error problem =>
    rw [escapes_of_refused hverify]
    cases problem with
    | uncomparable => exact .inr (.inr ⟨⟨_, rfl⟩, rfl⟩)
    | _ => exact .inl ⟨_, rfl, by simp, by simp⟩
  | ok _ =>
    rw [escapes_of_verified hverify]
    obtain ⟨hoff, hon⟩ := failsOffClock_event? c.settings p body
    by_cases hperiod : ∃ period ∈ period? p body, period.IsOffClock
    · obtain ⟨f, hf, hevent⟩ := hoff hperiod
      rw [hevent]
      refine .inr (.inr ⟨⟨f, ?_⟩, hperiod⟩)
      cases f with
      | timestampBeyondWord => rfl
      | timestampBeyondYearWord => rfl
      | _ => cases hf
    · cases hevent : event? c.settings p body with
      | error f =>
        have hf := hon hperiod f hevent
        refine .inl ⟨.invalidPayload, ?_, hperiod, by simp⟩
        cases f with
        | invalidRecord => rfl
        | timestampBeyondCalendar => rfl
        | _ => cases hf
      | ok e? =>
        cases e? with
        | none => exact .inl ⟨.handled .ignored, rfl, hperiod, by simp⟩
        | some e => exact .inr (.inl ⟨e, rfl, hperiod, rfl, rfl⟩)

/-- An answer says in its status and in its body alike whether the delivery is taken. -/
theorem status_and_received (r : Receipt) :
    r.status = 200 ∧ r.body.field? "received" = some (.bool true) ∨
      r.status = 503 ∧ r.body.field? "received" = some (.bool false) := by
  cases r <;> simp [Receipt.status, Receipt.body, Receipt.received, Json.field?]

/-- What the store, the event and the work that is left have to do with each answer. -/
inductive Answers (c : Context) (p : Provider) (body : List UInt8) (db : Database) :
    Receipt → List IdentityTask → Database → Prop
  | processed {e : ProviderEvent} {work : List IdentityTask} {after : Database}
      (event : event? c.settings p body = .ok (some e))
      (committed : e.apply c db = .ok (⟨.processed, work⟩, after))
      (booked : e.kind.isBooked = true → after.bookings p e.eventId = 1) :
      Answers c p body db (.handled .processed) (scheduled c ⟨.processed, work⟩) after
  | duplicate {e : ProviderEvent} (event : event? c.settings p body = .ok (some e))
      (known : db.books p e.eventId = true) : Answers c p body db (.handled .duplicate) [] db
  | inert {r : Receipt} (unprocessed : r ≠ .handled .processed) (fresh : r ≠ .handled .duplicate) :
      Answers c p body db r [] db

/-- Without any work there is nothing to schedule. -/
theorem scheduled_nil (c : Context) (o : Outcome) : scheduled c ⟨o, []⟩ = [] := rfl

/-- A settled event of a booked kind is in the ledger once. -/
theorem bookings_of_settles {e : ProviderEvent} {u : Subscriber} {db : Database}
    (h : e.Settles c db u) (hk : e.kind.isBooked = true) :
    ((e.transitionAt c db u).result c u db).bookings e.provider e.eventId = 1 := by
  let a : Arrival := ⟨c, e⟩
  have hprocessed : a.isProcessed db = true := Arrival.isProcessed_iff.mpr ⟨u, h⟩
  have hbooked : Arrival.isBookedAs e.provider e.eventId (a, db) = true := by
    simp [Arrival.isBookedAs, hprocessed, hk, a]
  have hafter := Arrival.bookings_after a db e.provider e.eventId
  rw [hbooked, Arrival.bookings_eq_zero_of_isBookedAs hbooked, Arrival.after_of_settles h] at hafter
  exact hafter

/-- Processing the event of a delivery gives an answer, and the store bears it out. -/
theorem answers_of_process {e : ProviderEvent} (event : event? c.settings p body = .ok (some e))
    (db : Database) :
    ∃ r tasks after, Answers c p body db r tasks after ∧
      (match e.process c db with
        | (.ok r, db) => (.ok (.handled r.outcome, scheduled c r), db)
        | (.error f, db) => (.ok (failed f, []), db) :
          Except Failure (Receipt × List IdentityTask) × Database) = (.ok (r, tasks), after) := by
  obtain rfl : e.provider = p := provider_of_event? event
  rcases e.process_cases c db with ⟨u, hs, hp⟩ | ⟨hp, hknown⟩ | ⟨hp, -⟩ | ⟨f, hp⟩
  · rw [hp]
    exact ⟨_, _, _, .processed event hs.apply (bookings_of_settles hs), rfl⟩
  · rw [hp]
    exact ⟨_, _, _, .duplicate event hknown, by simp only [scheduled_nil]⟩
  · rw [hp]
    exact ⟨.handled .unmapped, _, _, .inert (by simp) (by simp), by simp only [scheduled_nil]⟩
  · rw [hp]
    refine ⟨_, _, _, .inert ?_ ?_, rfl⟩ <;> cases f <;> simp [failed]

/-- Everything that receiving a delivery can do: the store bears the answer out, or there is none and
the delivery escapes. -/
theorem receive_cases (c : Context) (v : Signature.Verifier) (p : Provider) (body : List UInt8)
    (signature : Option String) (db : Database) :
    (∃ r tasks after, receive c v p body signature db = (.ok (r, tasks), after) ∧
      ¬Escapes c v body signature p ∧ Answers c p body db r tasks after) ∨
    (∃ f, receive c v p body signature db = (.error f, db) ∧ Escapes c v body signature p) := by
  unfold receive
  rcases read_cases c v p body signature with
    ⟨r, hr, hno, hignored⟩ | ⟨e, hr, hno, -, event⟩ | ⟨⟨f, hr⟩, hescapes⟩
  · rw [hr]
    refine .inl ⟨r, [], db, rfl, hno, .inert ?_ ?_⟩
    · rintro rfl
      cases hignored _ rfl
    · rintro rfl
      cases hignored _ rfl
  · rw [hr]
    obtain ⟨r, tasks, after, hanswers, hprocess⟩ := answers_of_process event db
    exact .inl ⟨r, tasks, after, hprocess, hno, hanswers⟩
  · rw [hr]
    exact .inr ⟨f, rfl, hescapes⟩

/-- A delivery is answered, as taken or as not taken, unless it escapes. One that escapes leaves the
store alone. -/
theorem answered_or_escapes (c : Context) (v : Signature.Verifier) (p : Provider)
    (body : List UInt8) (signature : Option String) (db : Database) :
    match receive c v p body signature db with
    | (.ok (r, _), _) =>
      ¬Escapes c v body signature p ∧
        (r.status = 200 ∧ r.body.field? "received" = some (.bool true) ∨
          r.status = 503 ∧ r.body.field? "received" = some (.bool false))
    | (.error _, after) => Escapes c v body signature p ∧ after = db := by
  rcases receive_cases c v p body signature db with ⟨r, _, _, h, hno, -⟩ | ⟨f, h, hescapes⟩
  · rw [h]
    exact ⟨hno, status_and_received r⟩
  · rw [h]
    exact ⟨hescapes, rfl⟩

example :
    (receive { settings := {}, now := 0 } ⟨"k", "", 0⟩ .stripe [] (some "t=0,v1=é") {}).1 =
      .error .uncomparableSignature := by
  rfl

theorem name_injective {o o' : Outcome} (h : o.name = o'.name) : o = o' := by
  cases o <;> cases o' <;> first | rfl | simp [Outcome.name] at h

/-- Only a handled delivery has a status in its answer, which is its outcome. -/
theorem field?_status (r : Receipt) :
    r.body.field? "status" =
      match r with
      | .handled o => some (.string o.name)
      | _ => none := by
  cases r <;> rfl

theorem field?_status_iff {r : Receipt} {o : Outcome} :
    r.body.field? "status" = some (.string o.name) ↔ r = .handled o := by
  rw [field?_status]
  cases r with
  | handled o' =>
    rw [Option.some.injEq, Json.string.injEq, Receipt.handled.injEq]
    exact ⟨name_injective, congrArg Outcome.name⟩
  | _ => simp

/-- A handled delivery has no error in its answer. -/
theorem field?_error (o : Outcome) : (Receipt.handled o).body.field? "error" = none := rfl

/-- An answer tells what became of the store. A delivery that is not taken has changed nothing, and
so has one that is a duplicate, unmapped, ignored or invalid; one that is processed has had its
transaction, and the ledger shows it once. -/
theorem answers_truly {r : Receipt} {tasks : List IdentityTask} {db after : Database}
    (h : receive c v p body signature db = (.ok (r, tasks), after)) :
    (r.status = 503 → after = db ∧ tasks = []) ∧
    (r.status = 200 ∧ r.body.field? "status" = some (.string "processed") →
      ∃ e work, event? c.settings p body = .ok (some e) ∧ e.provider = p ∧
        e.apply c db = .ok (⟨.processed, work⟩, after) ∧ tasks = scheduled c ⟨.processed, work⟩ ∧
        (e.kind.isBooked = true → after.bookings p e.eventId = 1)) ∧
    (r.status = 200 ∧ r.body.field? "status" = some (.string "duplicate") →
      (∃ e, event? c.settings p body = .ok (some e) ∧ e.provider = p ∧
        db.books p e.eventId = true) ∧ after = db ∧ tasks = []) ∧
    (r.status = 200 ∧
        (r.body.field? "status" = some (.string "unmapped") ∨
          r.body.field? "status" = some (.string "ignored") ∨
          r.body.field? "error" = some (.string "invalid payload") ∨
          r.body.field? "error" = some (.string "invalid signature")) →
      after = db ∧ tasks = []) := by
  obtain ⟨r', tasks', after', h', -, hanswers⟩ | ⟨f, h', -⟩ := receive_cases c v p body signature db
  swap
  · cases h'.symm.trans h
  obtain ⟨⟨rfl, rfl⟩, rfl⟩ : (r' = r ∧ tasks' = tasks) ∧ after' = after := by
    simpa using h'.symm.trans h
  have hprocessed : r'.body.field? "status" = some (.string "processed") ↔ r' = .handled .processed :=
    field?_status_iff (o := .processed)
  have hduplicate : r'.body.field? "status" = some (.string "duplicate") ↔ r' = .handled .duplicate :=
    field?_status_iff (o := .duplicate)
  cases hanswers with
  | @processed e work _ event committed booked =>
    refine ⟨by simp [Receipt.status, Receipt.received], fun _ => ?_, ?_, ?_⟩
    · exact ⟨e, work, event, provider_of_event? event, committed, rfl, booked⟩
    · rw [hduplicate]
      simp
    · rw [field?_status, field?_error]
      simp [Outcome.name]
  | @duplicate e event known =>
    refine ⟨fun _ => ⟨rfl, rfl⟩, ?_, fun _ => ?_, fun _ => ⟨rfl, rfl⟩⟩
    · rw [hprocessed]
      simp
    · exact ⟨⟨e, event, provider_of_event? event, known⟩, rfl, rfl⟩
  | inert unprocessed fresh =>
    refine ⟨fun _ => ⟨rfl, rfl⟩, ?_, ?_, fun _ => ⟨rfl, rfl⟩⟩
    · rw [hprocessed]
      exact fun hr => absurd hr.2 unprocessed
    · rw [hduplicate]
      exact fun hr => absurd hr.2 fresh

/-- The bytes of a text in ASCII. -/
def asciiBytes (text : String) : List UInt8 := text.toList.map fun x => UInt8.ofNat x.toNat

/-- A text in ASCII is what its bytes stand for. -/
theorem fromUTF8?_asciiBytes {text : String} (ascii : ∀ x ∈ text.toList, x.toNat < 128) :
    String.fromUTF8? ⟨(asciiBytes text).toArray⟩ = some text := by
  have hchar : ∀ x ∈ text.toList, String.utf8EncodeChar x = [UInt8.ofNat x.toNat] := by
    intro x hx
    have hsmall : x.val.toNat ≤ 127 := Nat.le_of_lt_succ (ascii x hx)
    simp only [String.utf8EncodeChar, if_pos hsmall]
    rfl
  have hbytes : text.toList.flatMap String.utf8EncodeChar = asciiBytes text := by
    rw [asciiBytes, List.map_eq_flatMap]
    simp only [List.flatMap_def, List.map_congr_left hchar]
  have hencoded : (⟨(asciiBytes text).toArray⟩ : ByteArray) = text.toByteArray := by
    rw [← String.utf8Encode_toList, List.utf8Encode, hbytes]
    ext1
    simp
  unfold String.fromUTF8?
  rw [hencoded, dif_pos text.isValidUTF8]
  rfl

/-- A payment of a customer of the broker's. -/
def paymentBody : List UInt8 :=
  asciiBytes "\x7b\"id\":\"evt\",\"type\":\"payment.succeeded\",\"data\":\x7b\"customer_id\":\"cus\"\x7d\x7d"

theorem answers_truly_payment :
    let c : Context := { settings := {}, now := 0 }
    let db := Database.ofCustomer "u" "u@example.com" .janua "cus"
    ∃ signature tasks after,
      receive c ⟨"", "k", 0⟩ .janua paymentBody signature db =
        (.ok (.handled .processed, tasks), after) ∧
      ∃ e, event? {} .janua paymentBody = .ok (some e) ∧ e.provider = .janua ∧
        after.bookings .janua e.eventId = 1 := by
  intro c db
  obtain ⟨signature, hverify⟩ :
      ∃ signature, Signature.Verifier.verify ⟨"", "k", 0⟩ 0 .janua paymentBody signature = .ok () :=
    ⟨_, Signature.verifyJanua_sign (v := ⟨"", "k", 0⟩) (by decide) paymentBody⟩
  have hanswer : (receive c ⟨"", "k", 0⟩ .janua paymentBody signature db).1.toOption.map Prod.fst =
      some (.handled .processed) := by
    simp only [receive, read, hverify, c]
    decide +kernel
  obtain ⟨r, tasks, after, h, -, -⟩ | ⟨f, h, -⟩ :=
    receive_cases c ⟨"", "k", 0⟩ .janua paymentBody signature db
  swap
  · rw [h] at hanswer
    cases hanswer
  rw [h] at hanswer
  obtain rfl : r = .handled .processed := Option.some.inj hanswer
  obtain ⟨e, _, event, provider, -, -, booked⟩ := (answers_truly h).2.1 ⟨rfl, rfl⟩
  have hkind : ((event? {} .janua paymentBody).toOption.join.map fun e => e.kind.isBooked) =
      some true := by
    decide +kernel
  rw [show event? {} .janua paymentBody = .ok (some e) from event] at hkind
  exact ⟨signature, tasks, after, h, e, event, provider, booked (Option.some.inj hkind)⟩

end Delivery
end SubscriptionBilling
