import SubscriptionBilling.Proofs.ServiceWrites

/-! Failures that are mishaps, and failures that are verdicts on what was asked for. Work decides first
when it comes to its verdict before it has done anything; from then on there are only mishaps. -/
namespace SubscriptionBilling

/-- A failure that is no verdict: every one but the billing errors, and that a provider is
unavailable. -/
def Failure.isMishap : Failure → Bool
  | .billing (.providerUnavailable ..) => true
  | .billing _ => false
  | _ => true

/-- A result that fails by mishap if it fails. -/
def FailsByMishap (r : Except Failure α) : Prop := ∀ f, r = .error f → f.isMishap = true

namespace FailsByMishap

theorem ok (a : α) : FailsByMishap (.ok a) := by
  intro f h
  cases h

theorem error {f : Failure} (h : f.isMishap = true) :
    FailsByMishap (.error f : Except Failure α) := by
  intro g hg
  cases hg
  exact h

theorem bind {r : Except Failure α} {f : α → Except Failure β} (hr : FailsByMishap r)
    (hf : ∀ a, FailsByMishap (f a)) : FailsByMishap (r >>= f) := by
  cases r with
  | error g => exact error (hr g rfl)
  | ok a => exact hf a

theorem ite {p : Prop} [Decidable p] {r r' : Except Failure α} (hr : FailsByMishap r)
    (hr' : FailsByMishap r') : FailsByMishap (if p then r else r') := by
  split
  · exact hr
  · exact hr'

end FailsByMishap

section Work
variable {x : ExceptT ε (StateM σ) α} {f : α → ExceptT ε (StateM σ) β} {s after : σ} {e : ε}

/-- Work in two halves that fails has failed in the first one or in the second. -/
theorem error_of_bind (h : (x >>= f) s = (.error e, after)) :
    x s = (.error e, after) ∨ ∃ a mid, x s = (.ok a, mid) ∧ f a mid = (.error e, after) := by
  rcases hx : x s with ⟨g | a, mid⟩
  · cases (bind_of_error (f := f) hx).symm.trans h
    exact .inl rfl
  · exact .inr ⟨a, mid, rfl, (bind_of_ok hx).symm.trans h⟩

end Work

/-- Work that fails by mishap, or with a verdict of some kind before it has done anything. -/
def DecidesFirst (C : Failure → Prop) (x : ExceptT Failure (StateM σ) α) : Prop :=
  ∀ s f after, x s = (.error f, after) → f.isMishap = false → C f ∧ after = s

/-- Work without a verdict of its own. -/
abbrev Stumbles (x : ExceptT Failure (StateM σ) α) : Prop := DecidesFirst (fun _ => False) x

namespace DecidesFirst
variable {C : Failure → Prop} {x : ExceptT Failure (StateM σ) α}

theorem pure (a : α) : DecidesFirst C (Pure.pure a : ExceptT Failure (StateM σ) α) := by
  intro s f after h
  cases h

theorem throw {f : Failure} (h : f.isMishap = false → C f) :
    DecidesFirst C (MonadExcept.throw f : ExceptT Failure (StateM σ) α) := by
  intro s g after hthrow verdict
  cases hthrow
  exact ⟨h verdict, rfl⟩

theorem lift {r : Except Failure α} (h : FailsByMishap r) :
    DecidesFirst C (liftM r : ExceptT Failure (StateM σ) α) := by
  intro s f after hlift verdict
  cases r with
  | ok a => cases hlift
  | error g =>
    cases hlift
    cases verdict.symm.trans (h f rfl)

/-- Verdicts of a second half would come too late. -/
theorem bind {f : α → ExceptT Failure (StateM σ) β} (hx : DecidesFirst C x)
    (hf : ∀ a, Stumbles (f a)) : DecidesFirst C (x >>= f) := by
  intro s g after h verdict
  rcases error_of_bind h with hfirst | ⟨a, mid, -, hsecond⟩
  · exact hx s g after hfirst verdict
  · exact (hf a mid g after hsecond verdict).1.elim

theorem refuse {p : Prop} [Decidable p] {e : Failure} {f : PUnit → ExceptT Failure (StateM σ) α}
    (he : p → e.isMishap = false → C e) (hf : ∀ u, DecidesFirst C (f u)) :
    DecidesFirst C (if p then MonadExcept.throw e >>= f else f ()) := by
  intro s g after h verdict
  by_cases hp : p
  · rw [if_pos hp] at h
    cases h
    exact ⟨he hp verdict, rfl⟩
  · rw [if_neg hp] at h
    exact hf () s g after h verdict

/-- Work without a verdict fails by mishap. -/
theorem isMishap {s after : σ} {f : Failure} (hx : Stumbles x) (h : x s = (.error f, after)) :
    f.isMishap = true := by
  by_contra verdict
  exact (hx s f after h (Bool.eq_false_iff.mpr verdict)).1

theorem mono {D : Failure → Prop} (hx : DecidesFirst C x) (h : ∀ f, C f → D f) : DecidesFirst D x :=
  fun s f after hfail verdict => (hx s f after hfail verdict).imp (h f) id

end DecidesFirst

/-! Mishaps of the store. -/

theorem Column.failsByMishap_checkWhole (n : Int) : FailsByMishap (Column.checkWhole n) := by
  unfold Column.checkWhole
  split
  · exact .ok ()
  · exact .error rfl

theorem Column.failsByMishap_text (v : Json) : FailsByMishap (Column.text v) := by
  cases v with
  | int n =>
    rw [Column.text]
    exact (Column.failsByMishap_checkWhole n).bind fun _ => .ok _
  | brokenText _ | array _ | object _ => exact .error rfl
  | _ => exact .ok _

theorem Context.failsByMishap_strike (c : Context) (p : FaultPoint) :
    FailsByMishap (c.strike p) := by
  unfold Context.strike Fault.strike
  split
  · next q d _ => cases d <;> exact .ite (.error rfl) (.ok ())
  · exact .ok ()

theorem Subscriber.failsByMishap_keepCustomerId (id : String) (p : Provider) (given : Json)
    (db : Database) : FailsByMishap (keepCustomerId id p given db) := by
  unfold keepCustomerId
  refine (Column.failsByMishap_text given).bind fun customerId => ?_
  unfold assignCustomerId
  split
  · exact .ok _
  refine .ite (.ok _) (.bind ?_ fun _ => .ok _)
  exact .ite (.error rfl) (.ok _)

namespace Service
variable {c : Context}

theorem decidesFirst_online {C : Failure → Prop} {x : Online α} (hx : DecidesFirst C x) :
    DecidesFirst C (online x) := by
  intro w f after h verdict
  rcases hcall : x w.network with ⟨result, n⟩
  have honline : online x w = (result, { w with network := n }) := by simp only [online, hcall]
  cases honline.symm.trans h
  obtain ⟨decided, rfl⟩ := hx _ _ _ hcall verdict
  exact ⟨decided, rfl⟩

/-- Transactions and reads come to no verdict unless they do it by themselves. -/
theorem stumbles_commit {t : Transaction α} (ht : ∀ db, FailsByMishap (t db)) :
    Stumbles (commit c t) := by
  intro w f after h verdict
  have hstrike := c.failsByMishap_strike .session
  unfold commit at h
  cases hs : c.strike .session with
  | error g =>
    rw [hs] at h
    cases h
    cases verdict.symm.trans (hstrike f hs)
  | ok _ =>
    simp only [hs, Transaction.attempt] at h
    cases hdone : t w.database with
    | error g =>
      rw [hdone] at h
      cases h
      cases verdict.symm.trans (ht w.database f hdone)
    | ok r =>
      rw [hdone] at h
      cases h

theorem stumbles_read (f : Database → α) : Stumbles (read c f) :=
  stumbles_commit fun db => .ok (f db, db)

end Service

end SubscriptionBilling
