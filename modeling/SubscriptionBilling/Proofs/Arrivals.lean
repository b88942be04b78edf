import SubscriptionBilling.Proofs.Transitions

/-! Runs of events that arrive one after the other, each in circumstances of its own. An arrival that
is not answered as processed leaves the store alone, and entries of the ledger stay once they are
there. -/
namespace SubscriptionBilling

/-- An event that is handed in for processing, and the circumstances in which it is. -/
structure Arrival where
  context : Context
  event : ProviderEvent

namespace Arrival

def answer (a : Arrival) (db : Database) : Except Failure Processed :=
  (a.event.process a.context db).1

/-- The store after an arrival. -/
def after (a : Arrival) (db : Database) : Database := (a.event.process a.context db).2

/-- Whether the answer is that the event was processed. -/
def isProcessed (a : Arrival) (db : Database) : Bool :=
  match a.answer db with
  | .ok p => p.outcome = .processed
  | .error _ => false

/-- The work that an arrival leaves to run in the background. -/
def tasks (a : Arrival) (db : Database) : List IdentityTask :=
  match a.answer db with
  | .ok p => scheduled a.context p
  | .error _ => []

/-- The same arrival with nothing to disturb it. -/
def calm (a : Arrival) : Arrival := { a with context := a.context.calm }

/-- The store after a run of arrivals. -/
def run (arrivals : List Arrival) (db : Database) : Database := arrivals.foldl (fun db a => a.after db) db

/-- The arrivals of a run, each with the store that it finds. -/
def trace : List Arrival → Database → List (Arrival × Database)
  | [], _ => []
  | a :: rest, db => (a, db) :: trace rest (a.after db)

@[simp] theorem run_nil (db : Database) : run [] db = db := rfl

@[simp] theorem run_cons (a : Arrival) (rest : List Arrival) (db : Database) :
    run (a :: rest) db = run rest (a.after db) := rfl

theorem mem_of_mem_trace {arrivals : List Arrival} {db : Database} {s : Arrival × Database}
    (h : s ∈ trace arrivals db) : s.1 ∈ arrivals := by
  induction arrivals generalizing db with
  | nil => cases h
  | cons a rest ih =>
    rcases List.mem_cons.mp h with rfl | h
    · exact List.mem_cons_self
    · exact List.mem_cons_of_mem a (ih h)

/-- What every arrival keeps, every run keeps. -/
theorem run_induction {P : Database → Prop} (step : ∀ (a : Arrival) db, P db → P (a.after db))
    (arrivals : List Arrival) {db : Database} (h : P db) : P (run arrivals db) := by
  induction arrivals generalizing db with
  | nil => exact h
  | cons a rest ih => exact ih (step a db h)

theorem isProcessed_iff {a : Arrival} {db : Database} :
    a.isProcessed db = true ↔ ∃ u, a.event.Settles a.context db u := by
  constructor
  · intro h
    unfold isProcessed answer at h
    rcases a.event.process_cases a.context db with ⟨u, hs, -⟩ | ⟨hp, -⟩ | ⟨hp, -⟩ | ⟨f, hp⟩
    · exact ⟨u, hs⟩
    all_goals simp [hp] at h
  · rintro ⟨u, hs⟩
    simp [isProcessed, answer, hs.process]

/-- The store after a processed event has all of the event's transition. -/
theorem after_of_settles {a : Arrival} {db : Database} {u : Subscriber}
    (h : a.event.Settles a.context db u) :
    a.after db = (a.event.transitionAt a.context db u).result a.context u db := by
  rw [after, h.process]

theorem answer_of_settles {a : Arrival} {db : Database} {u : Subscriber}
    (h : a.event.Settles a.context db u) :
    a.answer db = .ok ⟨.processed, (a.event.transitionAt a.context db u).tasks⟩ := by
  rw [answer, h.process]

/-- Whatever keeps an event from being processed undoes all of its arrival. -/
theorem inert_of_not_processed {a : Arrival} {db : Database} (h : a.isProcessed db = false) :
    a.after db = db ∧ a.tasks db = [] := by
  unfold after tasks answer
  rcases a.event.process_cases a.context db with ⟨u, hs, -⟩ | ⟨hp, -⟩ | ⟨hp, -⟩ | ⟨f, hp⟩
  · rw [isProcessed_iff.mpr ⟨u, hs⟩] at h
    cases h
  all_goals
    rw [hp]
    exact ⟨rfl, rfl⟩

theorem after_eq_of_not_processed {a : Arrival} {db : Database} (h : a.isProcessed db = false) :
    a.after db = db := (inert_of_not_processed h).1

/-- Every arrival leaves the store alone, or it settles its event there. -/
theorem after_cases (a : Arrival) (db : Database) :
    a.after db = db ∨ ∃ u, a.event.Settles a.context db u := by
  cases h : a.isProcessed db with
  | false => exact .inl (after_eq_of_not_processed h)
  | true => exact .inr (isProcessed_iff.mp h)

/-- A run that processes nothing ends where it started. -/
theorem run_eq_self {arrivals : List Arrival} {db : Database}
    (idle : ∀ s ∈ trace arrivals db, s.1.isProcessed s.2 = false) : run arrivals db = db := by
  induction arrivals with
  | nil => rfl
  | cons a rest ih =>
    have hafter := after_eq_of_not_processed (idle (a, db) List.mem_cons_self)
    rw [run_cons, hafter]
    refine ih fun s hs => idle s (List.mem_cons_of_mem _ ?_)
    rwa [hafter]

/-- A settled event of a booked kind adds one entry of its own to the ledger. -/
theorem ledger_of_settles {a : Arrival} {db : Database} {u : Subscriber}
    (h : a.event.Settles a.context db u) (hk : a.event.kind.isBooked = true) :
    ∃ posting amount, (a.event.transitionAt a.context db u).posting = some posting ∧
      posting.provider = a.event.provider ∧ posting.eventId = a.event.eventId ∧
      bookedAmount? posting.amount = some amount ∧
      (a.after db).ledger = db.ledger ++
        [{ posting with amount := amount, id := db.nextEntry, createdAt := a.context.moment }] := by
  obtain ⟨kind, status, amount, facts, hp⟩ :=
    ProviderEvent.posting_of_booked hk a.context.moment (a.event.hasEnded db) u
  obtain ⟨kept, hkept⟩ := Option.isSome_iff_exists.mp (h.passes.posting _ hp).2.2
  refine ⟨_, kept, hp, rfl, rfl, hkept, ?_⟩
  rw [after_of_settles h]
  simp only [Transition.result, ProviderEvent.transitionAt, hp, Option.bind_some, Posting.entry?,
    hkept, Option.map_some, Option.toList_some]

/-- No other kind adds to the ledger. -/
theorem ledger_after_of_not_booked {a : Arrival} (db : Database)
    (hk : a.event.kind.isBooked = false) : (a.after db).ledger = db.ledger := by
  rcases after_cases a db with h | ⟨u, hs⟩
  · rw [h]
  · obtain ⟨-, hnone, -⟩ := ProviderEvent.quiet_of_not_booked hk a.context.moment
      (a.event.hasEnded db) u
    rw [after_of_settles hs]
    simp only [Transition.result, ProviderEvent.transitionAt, hnone, Option.bind_none,
      Option.toList_none, List.append_nil]

/-- Entries of the ledger stay where they are. -/
theorem ledger_grows (a : Arrival) (db : Database) :
    List.IsPrefix db.ledger (a.after db).ledger := by
  rcases after_cases a db with h | ⟨u, hs⟩
  · exact ⟨[], by rw [h, List.append_nil]⟩
  · rw [after_of_settles hs]
    exact List.prefix_append _ _

theorem ledger_run_grows (arrivals : List Arrival) (db : Database) :
    List.IsPrefix db.ledger (run arrivals db).ledger :=
  run_induction (P := fun after => List.IsPrefix db.ledger after.ledger)
    (fun a _ h => h.trans (ledger_grows a _)) arrivals (List.prefix_refl _)

/-- Every arrival of a run finds the entries that were there at its start. -/
theorem ledger_of_mem_trace {arrivals : List Arrival} {db : Database} {s : Arrival × Database}
    (h : s ∈ trace arrivals db) : List.IsPrefix db.ledger s.2.ledger := by
  induction arrivals generalizing db with
  | nil => cases h
  | cons a rest ih =>
    rcases List.mem_cons.mp h with rfl | h
    · exact List.prefix_refl _
    · exact (ledger_grows a db).trans (ih h)

/-- What an arrival leaves in the ledger is there at the end of its run. -/
theorem ledger_run_of_mem_trace {arrivals : List Arrival} {db : Database} {s : Arrival × Database}
    (h : s ∈ trace arrivals db) :
    List.IsPrefix (s.1.after s.2).ledger (run arrivals db).ledger := by
  induction arrivals generalizing db with
  | nil => cases h
  | cons a rest ih =>
    rcases List.mem_cons.mp h with rfl | h
    · exact ledger_run_grows rest (a.after db)
    · exact ih h

/-- Arrivals that keep the records, whatever else they find, keep them over a run. -/
theorem subscribers_run_of_kept {arrivals : List Arrival} {db : Database}
    (kept : ∀ a ∈ arrivals, ∀ mid : Database, mid.subscribers = db.subscribers →
      (a.after mid).subscribers = db.subscribers) :
    (∀ s ∈ trace arrivals db, s.2.subscribers = db.subscribers) ∧
      (run arrivals db).subscribers = db.subscribers := by
  have hrun : ∀ mid : Database, mid.subscribers = db.subscribers →
      (∀ s ∈ trace arrivals mid, s.2.subscribers = db.subscribers) ∧
        (run arrivals mid).subscribers = db.subscribers := by
    induction arrivals with
    | nil => exact fun mid hmid => ⟨fun s hs => (nomatch hs), hmid⟩
    | cons a rest ih =>
      intro mid hmid
      obtain ⟨ha, hrest⟩ := List.forall_mem_cons.mp kept
      obtain ⟨htrace, hend⟩ := ih hrest (a.after mid) (ha mid hmid)
      exact ⟨List.forall_mem_cons.mpr ⟨hmid, htrace⟩, hend⟩
  exact hrun db rfl

end Arrival
end SubscriptionBilling
