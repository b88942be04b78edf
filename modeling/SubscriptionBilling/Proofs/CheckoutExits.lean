import SubscriptionBilling.Proofs.CheckoutCourses
import SubscriptionBilling.Proofs.StaleRecords

/-! The exits of a checkout. One that is turned away has called nobody and written nothing. Every other
one was made for a plan above the tier that its subscriber has, and it leaves no more than a slot that is
filled and a note in the audit trail, whatever the provider does. -/
namespace SubscriptionBilling

/-- A result that turns nobody away. -/
def Unrejected (r : Except Failure α) : Prop := ∀ f, r = .error f → f.isRejection = false

theorem Unrejected.ok (a : α) : Unrejected (.ok a) := by
  intro f h
  cases h

theorem Unrejected.error {f : Failure} (h : f.isRejection = false) :
    Unrejected (.error f : Except Failure α) := by
  intro g hg
  cases hg
  exact h

/-- No mishap turns anybody away. -/
theorem Failure.isRejection_of_isMishap {f : Failure} (h : f.isMishap = true) :
    f.isRejection = false := by
  cases f with
  | billing e => cases e <;> first | rfl | cases h
  | _ => rfl

theorem DecidesFirst.isRejection {C : Failure → Prop} {x : ExceptT Failure (StateM σ) α} {s after : σ}
    {f : Failure} (hx : DecidesFirst C x) (hC : ∀ f, C f → f.isRejection = false)
    (h : x s = (.error f, after)) : f.isRejection = false := by
  cases hmishap : f.isMishap with
  | true => exact Failure.isRejection_of_isMishap hmishap
  | false => exact hC f (hx s f after h hmishap).1

/-- Nor does the want of an account, or of what a plan lacks. -/
theorem Provider.WantsAccount.isRejection {s : Settings} {p : Provider} (f : Failure)
    (h : p.WantsAccount s f) : f.isRejection = false := by
  obtain ⟨-, rfl⟩ := h
  rfl

theorem Plan.Wants.isRejection {s : Settings} {plan : Plan} {p : Provider} (f : Failure)
    (h : plan.Wants s p f) : f.isRejection = false := by
  obtain ⟨missing, -, rfl⟩ := h
  rfl

namespace Checkout

section Notes
variable (c : Context) (r : CheckoutRequest) (plan : Plan) (u : Subscriber)

/-- The store with the note that a session was made. -/
def noted (session : String) (db : Database) : Database :=
  { db with audit := db.audit ++
      [(note r plan (productOf r plan) (routeOf c r plan u) session).entry db.nextAudit c.moment] }

/-- The note is all that jotting it down leaves, if it leaves anything. -/
theorem noted_of_jot (session : String) (w : World) :
    (jot c r plan u session w).2.database = w.database ∨
      (jot c r plan u session w).2.database = noted c r plan u session w.database := by
  unfold jot
  rcases Service.commit_cases c (do
      let _ ← (note r plan (productOf r plan) (routeOf c r plan u) session).log c) w with
    ⟨f, hcommit⟩ | ⟨_, db, hlog, hcommit⟩ <;> rw [hcommit]
  · exact .inl rfl
  · obtain ⟨entry, mid, hentry, hlast⟩ := Transaction.bind_eq_ok.mp hlog
    cases hlast
    exact .inr (Prod.mk.inj (AuditNote.log_eq_ok.mp hentry).2).2

end Notes

/-- The ways in which a checkout can end. It has come to nothing before anybody was called; or it was
for a plan above its subscriber's tier, and a customer was ensured on its route, and a note was added if
a session was made. -/
inductive Leaves (c : Context) (r : CheckoutRequest) (w : World) :
    Except Failure CheckoutResult → World → Prop
  | nothing (f : Failure) : Leaves c r w (.error f) w
  | work {plan : Plan} {u : Subscriber} {customer : Except Failure Json} {mid after : World}
      {result : Except Failure CheckoutResult}
      (bought : Plan.ofSlug? (textOr r.plan Plan.defaultSlug) = some plan)
      (found : w.database.subscriber? r.subscriberId = some u) (above : u.tier < plan.tier)
      (unrejected : Unrejected result)
      (ensures : u.Ensures (routeOf c r plan u).provider w customer mid)
      (noted : after.database = mid.database ∨ (∃ x, result = .ok x) ∧
        ∃ session, after.database = noted c r plan u session mid.database) :
      Leaves c r w result after

theorem Course.leaves {c : Context} {r : CheckoutRequest} {w after : World}
    {result : Except Failure CheckoutResult} (h : Course c r w result after) :
    Leaves c r w result after := by
  cases h with
  | refused => exact .nothing _
  | unnamed begins ensured =>
    have hunrejected := (decidesFirst_ensure c r _ _).isRejection Provider.WantsAccount.isRejection ensured
    exact .work begins.bought begins.found begins.above (.error hunrejected)
      (ensures_of_ensured ensured) (.inl rfl)
  | unsold begins ensured offered =>
    have hunrejected := (decidesFirst_offer c r _ _ _).isRejection Plan.Wants.isRejection offered
    exact .work begins.bought begins.found begins.above (.error hunrejected)
      (ensures_of_ensured ensured) (.inl rfl)
  | @sold plan u _ mid session n begins read ensured offered =>
    have hnoted := noted_of_jot c r plan u session.id { mid with network := n }
    exact .work begins.bought begins.found begins.above (.ok _) (ensures_of_ensured ensured)
      (hnoted.imp_right fun h => ⟨⟨_, rfl⟩, _, h⟩)

/-- A checkout as it is asked for: for a subscriber, or for a user of another product. -/
inductive Visit where
  | own (r : CheckoutRequest)
  | external (user : String) (plan returnUrl : Option String) (product : Option Product)

namespace Visit

def request : Visit → CheckoutRequest
  | own r => r
  | external user plan returnUrl product =>
    { subscriberId := user
      plan := plan
      product := product
      returnUrls := ⟨returnUrl, returnUrl⟩
      extraMetadata := [("janua_user_id", .string user), ("source", .string "external")] }

def checkOut (c : Context) : Visit → Service CheckoutResult
  | own r => create c r
  | external user plan returnUrl product => createExternal c user plan returnUrl product

end Visit

/-- The return URL decides first whether a checkout for another product's user is one at all. -/
theorem createExternal_eq (c : Context) (user : String) (plan returnUrl : Option String)
    (product : Option Product) (w : World) :
    createExternal c user plan returnUrl product w =
      match ReturnUrl.isTrusted? c.settings returnUrl none none with
      | none => (.error .unknownName, w)
      | some false => (.error (.billing (.untrustedRedirect returnUrl)), w)
      | some true => create c (Visit.external user plan returnUrl product).request w := by
  unfold createExternal trusts
  cases ReturnUrl.isTrusted? c.settings returnUrl none none with
  | none => rfl
  | some trusted =>
    have hread : (liftM (.ok trusted : Except Failure Bool) : Service Bool) w = (.ok trusted, w) := rfl
    rw [bind_of_ok hread]
    cases trusted with
    | false => rfl
    | true =>
      rw [if_neg (by decide)]
      rfl

/-- It is only for the sake of the web application's own URL that a return URL can go unanswered. -/
theorem split?_webUrl_of_isTrusted? {s : Settings} {url : Option String}
    {suffixes : Option (List String)} {allowLocalhost : Option Bool}
    (h : ReturnUrl.isTrusted? s url suffixes allowLocalhost = none) : Url.split? s.webUrl = none := by
  unfold ReturnUrl.isTrusted? at h
  split at h
  · cases h
  extract_lets host authority at h
  split at h
  · cases h
  split at h
  · cases h
  split at h
  · cases h
  split at h
  · assumption
  · cases h

/-- A bracket that is left open in that URL leaves other hosts undecided. -/
example : ReturnUrl.isTrusted? { webUrl := "http://[::1:3000" } (some "https://evil.example/") none none =
    none := by
  decide +kernel

/-- A visit is refused for its return URL, or it is the checkout that it asks for. -/
theorem Visit.checkOut_cases (c : Context) (v : Visit) (w : World) :
    (∃ f, v.checkOut c w = (.error f, w)) ∨ v.checkOut c w = create c v.request w := by
  cases v with
  | own r => exact .inr rfl
  | external user plan returnUrl product => exact createExternal_cases c user plan returnUrl product w

theorem Visit.leaves (c : Context) (v : Visit) (w : World) :
    Leaves c v.request w (v.checkOut c w).1 (v.checkOut c w).2 := by
  rcases v.checkOut_cases c w with ⟨f, hrefused⟩ | hcreate
  · rw [hrefused]
    exact .nothing f
  · rw [hcreate]
    exact (course_create c v.request w).leaves

/-- A checkout that is turned away leaves everything as it was. For another product's user an untrusted
return URL is enough to be turned away, whatever the plan and whoever the user, as long as the web
application's own URL can be read. Where a provider is called, the plan lies above the tier that the
subscriber has in the store. All that can come of it there is an empty slot of the subscriber's for the
provider on the route that is filled and, if a session was made, a note of it. -/
theorem Visit.turned_away_without_trace {c : Context} {v : Visit} {w after : World}
    {result : Except Failure CheckoutResult} (h : v.checkOut c w = (result, after)) :
    (∀ f, result = .error f → f.isRejection = true → after = w) ∧
    (∀ user plan url product, v = .external user plan url product →
      ReturnUrl.isTrusted? c.settings url none none ≠ some true →
      after = w ∧ (result = .error (.billing (.untrustedRedirect url)) ∨
        result = .error .unknownName ∧ Url.split? c.settings.webUrl = none)) ∧
    (after.calls ≠ w.calls → ∃ plan u,
      Plan.ofSlug? (textOr v.request.plan Plan.defaultSlug) = some plan ∧
      w.database.subscriber? v.request.subscriberId = some u ∧ u.tier < plan.tier) ∧
    (w.database.Consistent → after.database = w.database ∨ ∃ plan u mid,
      Plan.ofSlug? (textOr v.request.plan Plan.defaultSlug) = some plan ∧
      w.database.subscriber? v.request.subscriberId = some u ∧ u.tier < plan.tier ∧
      w.database.Fills v.request.subscriberId (routeOf c v.request plan u).provider mid ∧
      (after.database = mid ∨ (∃ x, result = .ok x) ∧
        ∃ session, after.database = noted c v.request plan u session mid)) := by
  have hleaves := v.leaves c w
  rw [h] at hleaves
  refine ⟨?_, ?_, ?_, ?_⟩
  · rintro f rfl rejection
    cases hleaves with
    | nothing => rfl
    | work bought found above unrejected ensures noted =>
      cases rejection.symm.trans (unrejected f rfl)
  · rintro user plan url product rfl untrusted
    rw [checkOut, createExternal_eq] at h
    cases htrusted : ReturnUrl.isTrusted? c.settings url none none with
    | none =>
      simp only [htrusted] at h
      cases h
      exact ⟨rfl, .inr ⟨rfl, split?_webUrl_of_isTrusted? htrusted⟩⟩
    | some trusted =>
      cases trusted with
      | false =>
        simp only [htrusted] at h
        cases h
        exact ⟨rfl, .inl rfl⟩
      | true => exact absurd htrusted untrusted
  · intro called
    cases hleaves with
    | nothing => exact absurd rfl called
    | work bought found above unrejected ensures noted => exact ⟨_, _, bought, found, above⟩
  · intro consistent
    cases hleaves with
    | nothing => exact .inl rfl
    | work bought found above unrejected ensures noted =>
      have hfills := ensures.fills consistent
      rw [Database.id_of_subscriber? found] at hfills
      exact .inr ⟨_, _, _, bought, found, above, hfills, noted⟩

/-- A subscriber who is about to buy. -/
def Visit.buyer : Visit := .own { subscriberId := "user" }

/-- Somebody who is to be led away to another place. -/
def Visit.stranger : Visit := .external "user" (some "pro") (some "https://evil.example/") none

/-- Where both of them come to. -/
def Visit.shop : World := Step.buying.prepare (Step.run [Step.enrolling] {})

/-- The stranger is turned away without a trace. The buyer is not: a provider is called, for a plan above
the tier in the store, and a slot is filled that was empty. -/
theorem Visit.turned_away_stranger :
    stranger.checkOut Step.buying.context shop =
      (.error (.billing (.untrustedRedirect (some "https://evil.example/"))), shop) ∧
    (∃ plan u, Plan.ofSlug? "pro" = some plan ∧ shop.database.subscriber? "user" = some u ∧
      u.tier < plan.tier) ∧
    ∃ p mid, shop.database.Fills "user" p mid ∧
      (buyer.checkOut Step.buying.context shop).2.database.subscribers = mid.subscribers ∧
      mid.slot? "user" .stripe = some "cus" := by
  have huntrusted : ReturnUrl.isTrusted? Step.buying.context.settings
      (some "https://evil.example/") none none ≠ some true := by
    decide +kernel
  have hreadable : Url.split? Step.buying.context.settings.webUrl ≠ none := by decide +kernel
  have hslot : (buyer.checkOut Step.buying.context shop).2.database.slot? "user" .stripe =
      some "cus" := by
    with_unfolding_all rfl
  have hcalls : (buyer.checkOut Step.buying.context shop).2.calls ≠ shop.calls := by
    obtain ⟨call, hcall, -⟩ := Step.sessions_buying
    have hcall : call ∈ (buyer.checkOut Step.buying.context shop).2.calls := hcall
    exact fun hnone => List.not_mem_nil (hnone ▸ hcall)
  rcases hstranger : stranger.checkOut Step.buying.context shop with ⟨answer, left⟩
  rcases hbuyer : buyer.checkOut Step.buying.context shop with ⟨sold, after⟩
  rw [hbuyer] at hslot hcalls
  obtain ⟨hrejected, hlook, -, -⟩ := turned_away_without_trace hstranger
  have hanswer := (hlook _ _ _ _ rfl huntrusted).2.resolve_right fun h => hreadable h.2
  obtain ⟨-, -, hcalled, hframe⟩ := turned_away_without_trace hbuyer
  have hconsistent : shop.database.Consistent :=
    Step.consistent_run (w := {}) [Step.enrolling] Database.Consistent.empty
  refine ⟨Prod.ext hanswer (hrejected _ hanswer rfl), hcalled hcalls, ?_⟩
  rcases hframe hconsistent with hunchanged | ⟨plan, u, mid, -, -, -, hfills, hnoted⟩
  · rw [hunchanged] at hslot
    cases hslot
  have hsubscribers : after.database.subscribers = mid.subscribers := by
    rcases hnoted with hmid | ⟨-, session, hmid⟩ <;> rw [hmid]
    rfl
  exact ⟨_, mid, hfills, hsubscribers,
    (Database.slot?_of_subscribers hsubscribers "user" .stripe).symm.trans hslot⟩

end Checkout

end SubscriptionBilling
