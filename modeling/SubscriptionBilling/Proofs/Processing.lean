import SubscriptionBilling.Proofs.StoreWrites

/-! Everything that processing an event can do. Either its transition is written as a whole and its
tasks are left, or the store stays as it was and nothing is left to do. -/
namespace SubscriptionBilling
namespace ProviderEvent

/-- The transition of an event for a subscriber in a store. -/
def transitionAt (c : Context) (db : Database) (e : ProviderEvent) (u : Subscriber) : Transition :=
  e.transition c.moment (e.hasEnded db) u

/-- What has to hold for an event to be processed for a subscriber. -/
structure Settles (c : Context) (db : Database) (e : ProviderEvent) (u : Subscriber) : Prop where
  inTime : c.settings.webhookDeadlineSeconds.isPositive = true
  opened : c.strike .session = .ok ()
  checked : c.strike .duplicateCheck = .ok ()
  unbooked : c.fault = some .missedDuplicate ∨ db.books e.provider e.eventId = false
  subject : e.subject? db = some u
  passes : (e.transitionAt c db u).Passes c u db

/-- The transaction of an event, case by case. -/
theorem apply_eq_ok {c : Context} {e : ProviderEvent} {db after : Database} {p : Processed} :
    e.apply c db = .ok (p, after) ↔ c.strike .duplicateCheck = .ok () ∧
      if c.fault ≠ some .missedDuplicate ∧ db.books e.provider e.eventId = true then
        p = ⟨.duplicate, []⟩ ∧ after = db
      else
        match e.subject? db with
        | none => p = ⟨.unmapped, []⟩ ∧ after = db
        | some u =>
          (e.transitionAt c db u).Passes c u db ∧ p = ⟨.processed, (e.transitionAt c db u).tasks⟩ ∧
            after = (e.transitionAt c db u).result c u db := by
  unfold apply
  have hopen : ∀ g : Bool → Transaction Processed,
      (isBooked c true e.provider e.eventId >>= g) db = .ok (p, after) ↔
        c.strike .duplicateCheck = .ok () ∧
          g (!(true && decide (c.fault = some .missedDuplicate)) && db.books e.provider e.eventId)
            db = .ok (p, after) := by
    intro g
    simp only [Transaction.bind_eq_ok, isBooked_eq_ok, Prod.mk.injEq]
    exact ⟨fun ⟨_, _, ⟨hc, ha, hm⟩, h⟩ => ⟨hc, ha ▸ hm ▸ h⟩, fun ⟨hc, h⟩ => ⟨_, _, ⟨hc, rfl, rfl⟩, h⟩⟩
  rw [hopen, and_congr_right_iff]
  intro _
  by_cases hb : c.fault ≠ some .missedDuplicate ∧ db.books e.provider e.eventId = true
  · rw [if_pos hb, if_pos (by simpa using hb), Transaction.pure_eq_ok, Prod.mk.injEq]
  rw [if_neg hb, if_neg (by simpa using hb), Transaction.query_bind]
  cases hu : e.subject? db with
  | none =>
    change (pure (⟨.unmapped, []⟩ : Processed) : Transaction Processed) db = _ ↔ _
    rw [Transaction.pure_eq_ok, Prod.mk.injEq]
  | some u =>
    change (Transition.write c u (e.transitionAt c db u) >>= fun _ =>
      pure (⟨.processed, (e.transitionAt c db u).tasks⟩ : Processed)) db = .ok (p, after) ↔ _
    simp only [Transaction.bind_eq_ok, Transition.write_eq_ok, Transaction.pure_eq_ok,
      Prod.mk.injEq]
    exact ⟨fun ⟨_, _, ⟨hp, _, hm⟩, ht, ha⟩ => ⟨hp, ht, ha.trans hm⟩,
      fun ⟨hp, ht, ha⟩ => ⟨(), _, ⟨hp, trivial, rfl⟩, ht, ha⟩⟩

/-- The transaction of an event, opened within its time. -/
theorem limited_eq_ok {c : Context} {t : Transaction α} {db : Database} {r : α × Database} :
    limited c (fun db => do c.strike .session; t db) db = .ok r ↔
      c.settings.webhookDeadlineSeconds.isPositive = true ∧ c.strike .session = .ok () ∧
        t db = .ok r := by
  unfold limited
  split
  · next h => simp only [h, true_and, strike_bind_eq_ok]
  · next h => simp [h]

/-- A transaction that goes through is the answer. -/
theorem process_of_ok {c : Context} {e : ProviderEvent} {db : Database} {r : Processed × Database}
    (h : limited c (fun db => do c.strike .session; e.apply c db) db = .ok r) :
    e.process c db = (.ok r.1, r.2) := by
  simp only [ProviderEvent.process, Transaction.attempt, h]

/-- A transaction that fails leaves the store as it was. It is answered by its failure, unless a
refused write turns out to be a second booking. -/
theorem process_of_error {c : Context} {e : ProviderEvent} {db : Database} {f : Failure}
    (h : limited c (fun db => do c.strike .session; e.apply c db) db = .error f) :
    (e.process c db = (.ok ⟨.duplicate, []⟩, db) ∧ db.books e.provider e.eventId = true) ∨
      ∃ g, e.process c db = (.error g, db) := by
  by_cases hf : f = .constraint
  · subst hf
    cases hcheck : isBooked c false e.provider e.eventId db with
    | error g =>
      exact .inr ⟨g, by simp only [ProviderEvent.process, Transaction.attempt, h, hcheck]⟩
    | ok r =>
      obtain ⟨-, rfl⟩ := isBooked_eq_ok.mp hcheck
      cases hb : db.books e.provider e.eventId with
      | true =>
        exact .inl ⟨by simp [ProviderEvent.process, Transaction.attempt, h, hcheck, hb], rfl⟩
      | false =>
        exact .inr ⟨.constraint, by
          simp [ProviderEvent.process, Transaction.attempt, h, hcheck, hb]⟩
  · refine .inr ⟨f, ?_⟩
    simp only [ProviderEvent.process, Transaction.attempt, h]
    split
    · next hc => exact absurd (by simpa using congrArg Prod.fst hc) hf
    · rfl

/-- The transaction of an event that passes every check goes through. -/
theorem Settles.apply {c : Context} {db : Database} {e : ProviderEvent} {u : Subscriber}
    (h : e.Settles c db u) :
    e.apply c db = .ok (⟨.processed, (e.transitionAt c db u).tasks⟩,
      (e.transitionAt c db u).result c u db) := by
  have hno : ¬(c.fault ≠ some .missedDuplicate ∧ db.books e.provider e.eventId = true) := by
    rintro ⟨hf, hb⟩
    rcases h.unbooked with hm | hm
    · exact hf hm
    · rw [hm] at hb
      cases hb
  rw [apply_eq_ok, if_neg hno, h.subject]
  exact ⟨h.checked, h.passes, rfl, rfl⟩

/-- An event that passes every check is processed. -/
theorem Settles.process {c : Context} {db : Database} {e : ProviderEvent} {u : Subscriber}
    (h : e.Settles c db u) :
    e.process c db = (.ok ⟨.processed, (e.transitionAt c db u).tasks⟩,
      (e.transitionAt c db u).result c u db) :=
  process_of_ok (limited_eq_ok.mpr ⟨h.inTime, h.opened, h.apply⟩)

/-- Everything that processing an event can do. -/
theorem process_cases (c : Context) (e : ProviderEvent) (db : Database) :
    (∃ u, e.Settles c db u ∧
      e.process c db = (.ok ⟨.processed, (e.transitionAt c db u).tasks⟩,
        (e.transitionAt c db u).result c u db)) ∨
    (e.process c db = (.ok ⟨.duplicate, []⟩, db) ∧ db.books e.provider e.eventId = true) ∨
    (e.process c db = (.ok ⟨.unmapped, []⟩, db) ∧ e.subject? db = none) ∨
    ∃ f, e.process c db = (.error f, db) := by
  cases hrun : limited c (fun db => do c.strike .session; e.apply c db) db with
  | error f =>
    rcases process_of_error hrun with hduplicate | hfailed
    · exact .inr (.inl hduplicate)
    · exact .inr (.inr (.inr hfailed))
  | ok r =>
    obtain ⟨p, after⟩ := r
    have hprocess : e.process c db = (.ok p, after) := process_of_ok hrun
    obtain ⟨hin, hopen, happly⟩ := limited_eq_ok.mp hrun
    obtain ⟨hcheck, h⟩ := apply_eq_ok.mp happly
    split at h
    · next hb =>
      obtain ⟨rfl, rfl⟩ := h
      exact .inr (.inl ⟨hprocess, hb.2⟩)
    · next hb =>
      cases hu : e.subject? db with
      | none =>
        obtain ⟨rfl, rfl⟩ : p = ⟨.unmapped, []⟩ ∧ after = db := by simpa [hu] using h
        exact .inr (.inr (.inl ⟨hprocess, rfl⟩))
      | some u =>
        simp only [hu] at h
        obtain ⟨hp, rfl, rfl⟩ := h
        refine .inl ⟨u, ⟨hin, hopen, hcheck, ?_, hu, hp⟩, hprocess⟩
        by_cases hf : c.fault = some .missedDuplicate
        · exact .inl hf
        · exact .inr (by simpa [hf] using hb)

end ProviderEvent
end SubscriptionBilling
