import SubscriptionBilling.Proofs.UsageAccounting

/-! Caps are hard for attempts. An attempt to use a feature under a cap is allowed while the counter
stands below the cap, and then it counts one use. At the cap and above it an attempt is refused and
does nothing. So of the attempts of a run as many are allowed as there is room for, and all later ones
are refused. -/
namespace SubscriptionBilling

namespace Database

/-- No counter stands below zero. -/
def CountsUp (db : Database) : Prop := ∀ c ∈ db.usage, 0 ≤ c.count

theorem CountsUp.count_nonneg {db : Database} (h : db.CountsUp) (k : CounterKey) :
    0 ≤ db.count k := by
  unfold count
  cases hrow : db.counter? k with
  | none => exact Int.le_refl 0
  | some c => exact h c (List.mem_of_find?_eq_some hrow)

/-- The count under a key moves on by what is added. -/
theorem count_increment (db : Database) (k : CounterKey) (amount : Int) :
    (db.increment k amount).2.count k = db.count k + amount := by
  rw [← fst_increment]
  unfold increment
  cases hrow : db.counter? k with
  | none =>
    have hnone : db.counters k = [] := List.head?_eq_none_iff.mp (counter?_eq_head? db k ▸ hrow)
    simp [count, counter?_eq_head?, counters_addCounter, hnone]
  | some c =>
    have hkey : c.key = k := by simpa using List.find?_some hrow
    have hhead : (db.counters k).head? = some c := counter?_eq_head? db k ▸ hrow
    simp [count, counter?_eq_head?, counters_setCount, hhead, hkey]

end Database

namespace Meter
variable {c : Context} {id : String} {f : Feature} {w : World}

theorem capOf_of_dailyCap {t : Tier} {cap : Nat} (h : t.dailyCap f = some cap) :
    capOf t f = some (cap : Int) := by
  have hlimited : t.isUnlimited = false := by
    cases t
    · rfl
    · rfl
    · cases h
  simp only [capOf, hlimited, Bool.false_eq_true, if_false, h, Option.map_some, Int.ofNat_eq_natCast]

/-- What attempts come to while there is room for some of them: as many as that are allowed. -/
def untilFull (n room : Nat) : List Bool :=
  List.replicate (min n room) true ++ List.replicate (n - room) false

theorem untilFull_succ_succ (n room : Nat) :
    untilFull (n + 1) (room + 1) = true :: untilFull n room := by
  simp only [untilFull, Nat.add_min_add_right, List.replicate_succ, Nat.add_sub_add_right,
    List.cons_append]

theorem untilFull_succ_zero (n : Nat) : untilFull (n + 1) 0 = false :: untilFull n 0 := by
  simp only [untilFull, Nat.min_zero, List.replicate_zero, List.nil_append, Nat.sub_zero,
    List.replicate_succ]

/-- Without the store at hand the tier of a subscriber is not found out. -/
theorem tierOf_of_closed {g : Failure} (closed : c.strike .session = .error g) (id : String)
    (w : World) : tierOf c id w = (.error g, w) := by
  have hread : Service.read c (fun db => db.subscriber? id) w = (.error g, w) := by
    simp only [Service.read, Service.commit, closed]
  have hrequire : Subscription.require c id w = (.error g, w) := bind_of_error hread
  exact bind_of_error hrequire

/-- The ways in which an attempt to use a feature under a cap can end. -/
inductive Attempted (k : CounterKey) (cap : Nat) (w : World) :
    Except Failure Consumption → World → Prop
  | allowed (below : w.database.count k < cap) :
      Attempted k cap w (.ok ⟨true, k.feature, w.database.count k + 1, some cap⟩)
        { w with database := (w.database.increment k 1).2 }
  | refused (full : cap ≤ w.database.count k) :
      Attempted k cap w (.ok ⟨false, k.feature, w.database.count k, some cap⟩) w
  | failed (g : Failure) : Attempted k cap w (.error g) w

theorem attempted_consume {cap : Nat} (counted : 0 ≤ w.database.count (keyOf c id f))
    (capped : ∀ u, w.database.subscriber? id = some u → u.tier.dailyCap f = some cap) :
    Attempted (keyOf c id f) cap w (consume c id f w).1 (consume c id f w).2 := by
  cases hstrike : c.strike .session with
  | error g =>
    rw [show consume c id f w = (.error g, w) from bind_of_error (tierOf_of_closed hstrike id w)]
    exact .failed g
  | ok _ =>
    cases hu : w.database.subscriber? id with
    | none =>
      rw [consume_of_none hstrike hu]
      exact .failed _
    | some u =>
      rw [consume_of_some hstrike hu, capOf_of_dailyCap (capped u hu), verdict]
      -- A cap of zero needs no case of its own, as no count is below zero.
      by_cases hbelow : w.database.count (keyOf c id f) < cap
      · rw [if_pos ⟨by omega, hbelow⟩]
        exact .allowed hbelow
      · rw [if_neg fun h => hbelow h.2]
        exact .refused (by omega)

end Meter

namespace Operation

/-- Whether an operation attempts a use of a counter. -/
def attempts (c : Context) (k : CounterKey) : Operation → Bool
  | consume id f => Meter.keyOf c id f = k
  | _ => false

theorem eq_consume_of_attempts {c : Context} {k : CounterKey} {o : Operation}
    (h : o.attempts c k = true) : ∃ id f, o = consume id f ∧ Meter.keyOf c id f = k := by
  cases o with
  | consume id f => exact ⟨id, f, rfl, of_decide_eq_true h⟩
  | _ => cases h

/-- What an operation is answered that attempts a use of a counter. -/
def answer? (c : Context) (k : CounterKey) (o : Operation) (w : World) : Option Consumption :=
  match o with
  | consume id f =>
    if Meter.keyOf c id f = k then (Meter.consume c id f w).1.toOption else none
  | _ => none

theorem answer?_of_not_attempts {c : Context} {k : CounterKey} {o : Operation}
    (h : o.attempts c k = false) (w : World) : o.answer? c k w = none := by
  cases o with
  | consume id f => exact if_neg (of_decide_eq_false h)
  | _ => rfl

end Operation

namespace Step

def attempts (k : CounterKey) (s : Step) : Bool := s.operation.attempts s.context k

def answer? (k : CounterKey) (s : Step) (w : World) : Option Consumption :=
  s.operation.answer? s.context k (s.prepare w)

/-- An attempt is answered as the meter answers it, and changes what the meter changes. -/
theorem eq_consume_of_attempts {k : CounterKey} {s : Step} (h : s.attempts k = true) :
    ∃ id f, Meter.keyOf s.context id f = k ∧ ∀ w,
      s.answer? k w = (Meter.consume s.context id f (s.prepare w)).1.toOption ∧
      s.after w = (Meter.consume s.context id f (s.prepare w)).2 := by
  obtain ⟨id, f, hoperation, hkey⟩ := Operation.eq_consume_of_attempts h
  refine ⟨id, f, hkey, fun w => ⟨?_, ?_⟩⟩
  · rw [answer?, hoperation, Operation.answer?, if_pos hkey]
  · rw [after, hoperation, Operation.after]

/-- What the attempts of a run on a counter are answered, in their order. -/
def answers (k : CounterKey) (steps : List Step) (w : World) : List Consumption :=
  (trace steps w).filterMap fun step => step.1.answer? k step.2

theorem trace_append (first rest : List Step) (w : World) :
    trace (first ++ rest) w = trace first w ++ trace rest (run first w) := by
  induction first generalizing w with
  | nil => rfl
  | cons s first ih => simp only [List.cons_append, trace, ih, run_cons]

section Caps
variable {k : CounterKey} {cap : Nat}

/-- A step from which nothing else changes the counter is allowed a use below the cap, is refused one at
the cap, or leaves the counter where it is. -/
theorem count_after {s : Step} {w : World} (counted : 0 ≤ w.database.count k)
    (capped : ∀ u, w.database.subscriber? k.subscriberId = some u →
      u.tier.dailyCap k.feature = some cap)
    (alone : s.attempts k = true ∨ (s.after w).database.count k = w.database.count k) :
    (s.answer? k w = none ∧ (s.after w).database.count k = w.database.count k) ∨
      ∃ answer, s.answer? k w = some answer ∧
        (answer.allowed = true ∧ w.database.count k < cap ∧
            (s.after w).database.count k = w.database.count k + 1 ∨
          answer.allowed = false ∧ cap ≤ w.database.count k ∧
            (s.after w).database.count k = w.database.count k) := by
  cases hattempts : s.attempts k with
  | false =>
    refine .inl ⟨Operation.answer?_of_not_attempts hattempts _, alone.resolve_left ?_⟩
    rw [hattempts]
    exact Bool.false_ne_true
  | true =>
  obtain ⟨id, f, rfl, hends⟩ := eq_consume_of_attempts hattempts
  obtain ⟨hanswer, hafter⟩ := hends w
  rw [hanswer, hafter]
  generalize hconsume : Meter.consume s.context id f (s.prepare w) = result
  have hended := Meter.attempted_consume (c := s.context) (w := s.prepare w) counted capped
  rw [hconsume] at hended
  obtain ⟨answer, after⟩ := result
  cases hended with
  | allowed below => exact .inr ⟨_, rfl, .inl ⟨rfl, below, Database.count_increment _ _ 1⟩⟩
  | refused full => exact .inr ⟨_, rfl, .inr ⟨rfl, full, rfl⟩⟩
  | failed g => exact .inl ⟨rfl, rfl⟩

/-- Along a run the attempts are allowed as long as there is room below the cap, and the counter moves
by the number of those. -/
theorem allowed_answers {steps : List Step} {start : World} (counted : 0 ≤ start.database.count k)
    (capped : ∀ step ∈ trace steps start, ∀ u,
      step.2.database.subscriber? k.subscriberId = some u → u.tier.dailyCap k.feature = some cap)
    (alone : ∀ step ∈ trace steps start,
      step.1.attempts k = true ∨ (step.1.after step.2).database.count k = step.2.database.count k)
    {n room : Nat} (hn : (answers k steps start).length = n)
    (hroom : (cap - start.database.count k).toNat = room) :
    (answers k steps start).map (·.allowed) = Meter.untilFull n room ∧
      (run steps start).database.count k = start.database.count k + min n room := by
  induction steps generalizing start n room with
  | nil =>
    subst hn
    simp [answers, trace, Meter.untilFull]
  | cons s rest ih =>
    obtain ⟨hcapped, hcappedRest⟩ := List.forall_mem_cons.mp capped
    obtain ⟨halone, haloneRest⟩ := List.forall_mem_cons.mp alone
    have hanswers : answers k (s :: rest) start =
        (s.answer? k start).toList ++ answers k rest (s.after start) := by
      unfold answers
      rw [trace, List.filterMap_cons]
      cases s.answer? k start <;> rfl
    rw [run_cons, hanswers]
    rw [hanswers] at hn
    rcases count_after (s := s) (w := start) counted hcapped halone with
      ⟨hnone, hsame⟩ | ⟨answer, hsome, hcounts⟩
    · rw [hnone, Option.toList_none, List.nil_append] at hn ⊢
      rw [← hsame] at counted hroom ⊢
      exact ih counted hcappedRest haloneRest hn hroom
    rw [hsome, Option.toList_some, List.singleton_append, List.length_cons] at hn
    rw [hsome, Option.toList_some, List.singleton_append, List.map_cons]
    subst hn
    rcases hcounts with ⟨hallowed, hbelow, hmoved⟩ | ⟨hrefused, hfull, hsame⟩
    · obtain ⟨left, rfl⟩ : ∃ left, room = left + 1 := ⟨room - 1, by omega⟩
      obtain ⟨hflags, hcount⟩ := ih (by omega) hcappedRest haloneRest rfl
        (show (cap - (s.after start).database.count k).toNat = left by omega)
      rw [hallowed, hflags, Meter.untilFull_succ_succ]
      exact ⟨rfl, by omega⟩
    · obtain rfl : room = 0 := by omega
      rw [← hsame] at counted hroom ⊢
      obtain ⟨hflags, hcount⟩ := ih counted hcappedRest haloneRest rfl hroom
      rw [hrefused, hflags, Meter.untilFull_succ_zero]
      exact ⟨rfl, by omega⟩

/-- Without failures of the store every attempt of a known subscriber is answered. -/
theorem length_answers {steps : List Step} {start : World}
    (served : ∀ step ∈ trace steps start, step.1.attempts k = true →
      step.1.context.strike .session = .ok () ∧
        (step.2.database.subscriber? k.subscriberId).isSome = true) :
    (answers k steps start).length = (trace steps start).countP fun step => step.1.attempts k := by
  rw [answers, List.length_filterMap_eq_countP]
  refine List.countP_congr fun step hstep => ?_
  cases hattempts : step.1.attempts k with
  | false =>
    rw [answer?, Operation.answer?_of_not_attempts hattempts]
    rfl
  | true =>
    obtain ⟨opened, known⟩ := served step hstep hattempts
    obtain ⟨id, f, rfl, hends⟩ := eq_consume_of_attempts hattempts
    obtain ⟨u, hu⟩ := Option.isSome_iff_exists.mp known
    have hfound : (step.1.prepare step.2).database.subscriber? id = some u := hu
    rw [(hends step.2).1, Meter.consume_of_some opened hfound]
    rfl

end Caps

/-- A feature under a cap is used within the cap by attempts. With the store at hand an attempt is
answered. Either it is allowed, counts one use and leaves the counter at the cap at most, or it is
refused, does nothing and has found the counter at the cap or above. In a run in which the tier stays
and attempts alone move the counter, they are allowed as far as there was room at the start, then all
are refused, and the counter never passes the cap unless it stood above it at the start. -/
theorem attempts_stop_at_cap {t : Tier} {f : Feature} {cap : Nat} (capped : t.dailyCap f = some cap)
    (id : String) :
    (∀ c w u, w.database.CountsUp → w.database.subscriber? id = some u → u.tier = t →
      let k := Meter.keyOf c id f
      (c.strike .session = .ok () → ∃ answer after, Meter.consume c id f w = (.ok answer, after)) ∧
      ∀ answer after, Meter.consume c id f w = (.ok answer, after) →
        (answer.allowed = true → answer.count = after.database.count k ∧
          after.database.count k = w.database.count k + 1 ∧ after.database.count k ≤ cap) ∧
        (answer.allowed = false →
          after = w ∧ answer.count = w.database.count k ∧ cap ≤ w.database.count k)) ∧
    ∀ day steps start,
      let k : CounterKey := ⟨id, f, day⟩
      start.database.CountsUp →
      (∀ step ∈ trace steps start, ∀ u, step.2.database.subscriber? id = some u → u.tier = t) →
      (∀ step ∈ trace steps start, step.1.attempts k = true ∨
        (step.1.after step.2).database.count k = step.2.database.count k) →
      ((answers k steps start).map (·.allowed) = Meter.untilFull (answers k steps start).length
        (cap - start.database.count k).toNat) ∧
      ((∀ step ∈ trace steps start, step.1.attempts k = true →
          step.1.context.strike .session = .ok () ∧
            (step.2.database.subscriber? id).isSome = true) →
        (answers k steps start).length =
          (trace steps start).countP fun step => step.1.attempts k) ∧
      ∀ past later, steps = past ++ later →
        (run past start).database.count k ≤ max (cap : Int) (start.database.count k) := by
  constructor
  · intro c w u counts hu htier k
    refine ⟨fun opened => ⟨_, _, Meter.consume_of_some opened hu f⟩, fun answer after hconsume => ?_⟩
    have hended : Meter.Attempted k cap w (Meter.consume c id f w).1 (Meter.consume c id f w).2 := by
      refine Meter.attempted_consume (counts.count_nonneg k) fun v hv => ?_
      rw [Option.some.inj (hv.symm.trans hu), htier, capped]
    rw [hconsume] at hended
    dsimp only at hended
    cases hended with
    | allowed below =>
      have hmoved := Database.count_increment w.database k 1
      have hwithin : w.database.count k + 1 ≤ cap := by omega
      exact ⟨fun _ => ⟨hmoved.symm, hmoved, hmoved.trans_le hwithin⟩, fun h => by cases h⟩
    | refused full => exact ⟨fun h => absurd h Bool.false_ne_true, fun _ => ⟨rfl, rfl, full⟩⟩
  · intro day steps start k counts stays alone
    have hcapped : ∀ step ∈ trace steps start, ∀ u,
        step.2.database.subscriber? k.subscriberId = some u →
          u.tier.dailyCap k.feature = some cap := by
      intro step hstep u hu
      rw [stays step hstep u hu, capped]
    have hcounted := counts.count_nonneg k
    refine ⟨(allowed_answers hcounted hcapped alone rfl rfl).1, length_answers, ?_⟩
    rintro past later rfl
    rw [trace_append, List.forall_mem_append] at hcapped alone
    obtain ⟨-, hcount⟩ := allowed_answers hcounted hcapped.1 alone.1 rfl rfl
    omega

/-- An enrolment and three attempts under a cap of two. -/
def attempting : List Step :=
  [undisturbed 0 (.enroll "user" "mail" none none .community),
    undisturbed 1 (.consume "user" .monteCarloSimulation),
    undisturbed 2 (.consume "user" .monteCarloSimulation),
    undisturbed 3 (.consume "user" .monteCarloSimulation)]

/-- Two of the three attempts are allowed, and the last one is refused. -/
theorem attempts_stop_at_two :
    let k : CounterKey := ⟨"user", .monteCarloSimulation, ⟨1970, 1, 1⟩⟩
    (answers k attempting {}).map (·.allowed) = [true, true, false] ∧
      (run attempting {}).database.count k ≤ 2 := by
  intro k
  have hcounts : ({} : World).database.CountsUp := fun c hc => by cases hc
  have hsteps : (trace attempting {}).all (fun step =>
      (step.2.database.subscriber? "user").all (fun u => u.tier = .community) &&
      (step.1.attempts k ||
        (step.1.after step.2).database.count k = step.2.database.count k)) = true := by
    decide +kernel
  have hstep := List.all_eq_true.mp hsteps
  obtain ⟨-, hruns⟩ := attempts_stop_at_cap (t := .community) (f := .monteCarloSimulation) rfl "user"
  obtain ⟨hflags, -, hcount⟩ := hruns ⟨1970, 1, 1⟩ attempting {} hcounts
    (fun step hmem u hu => by simpa [hu] using (Bool.and_eq_true_iff.mp (hstep step hmem)).1)
    (fun step hmem => by simpa using (Bool.and_eq_true_iff.mp (hstep step hmem)).2)
  have hlength : (answers k attempting {}).length = 3 := by decide +kernel
  rw [hlength] at hflags
  exact ⟨hflags, hcount attempting [] (List.append_nil _).symm⟩

end Step
end SubscriptionBilling
