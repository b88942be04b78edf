import Mathlib.Algebra.BigOperators.Ring.Finset
import Mathlib.Algebra.BigOperators.Ring.List
import Mathlib.Algebra.Order.BigOperators.Group.List
import SubscriptionBilling.Proofs.BookedAmounts
import SubscriptionBilling.Proofs.MoneyEvents
import SubscriptionBilling.Proofs.TranslatedEvents

/-! Refunds of a charge. Each notice of the direct processor tells how much of the charge has been paid
back so far, and all of that is booked as the amount of the refund. So the entries of a charge are its
running totals: the last of them is what was paid back, and their sum is that only if nothing was paid
back before. -/
namespace SubscriptionBilling

/-- The charge of which an entry books a refund. -/
def LedgerEntry.refundedCharge? (row : LedgerEntry) : Option String :=
  match row.provider, row.kind, row.metadata.lookup "charge_id" with
  | .stripe, .refunded, some (.string charge) => some charge
  | _, _, _ => none

namespace Database

/-- The amounts of a charge's refunds, in the order of the ledger. -/
def refunds (db : Database) (charge : String) : List Decimal :=
  (db.ledger.filter fun row => row.refundedCharge? = some charge).map fun row => row.amount

/-- What the ledger says was paid back of a charge. -/
def refunded (db : Database) (charge : String) : ℚ := ((db.refunds charge).map Decimal.value).sum

end Database

/-- The event of a refund of a customer's charge. -/
structure ProviderEvent.IsRefundOf (e : ProviderEvent) (charge customer : String) : Prop where
  kind : e.kind = .refundIssued
  provider : e.provider = .stripe
  customer : e.customerId = some customer
  facts : e.metadata = [("charge_id", .string charge)]

section
variable {a : Arrival} {charge customer : String} {db : Database} {u : Subscriber}

theorem ProviderEvent.IsRefundOf.money {e : ProviderEvent} (h : e.IsRefundOf charge customer) :
    e.kind.moneyEntry? = some .refunded := by
  rw [h.kind]
  rfl

/-- A refund is one for the customer whose charge it is. -/
theorem ProviderEvent.IsRefundOf.subject {e : ProviderEvent} (h : e.IsRefundOf charge customer)
    (named : customer ≠ "") (known : db.subscriberOf? .stripe customer = some u) :
    e.subject? db = some u := by
  have hkind : e.kind ≠ .checkoutCompleted := by
    rw [h.kind]
    exact nofun
  rw [subject?_of_customerId (.inl hkind), h.customer, h.provider, filled_eq_some_iff.mpr ⟨rfl, named⟩,
    Option.bind_some, known]

/-- The entry that books a refund is one of its charge. -/
theorem ProviderEvent.IsRefundOf.refundedCharge?_moneyRow (h : a.event.IsRefundOf charge customer)
    (db : Database) (u : Subscriber) (amount : Decimal) :
    (a.moneyRow db u .refunded amount).refundedCharge? = some charge := by
  have hlast : a.event.metadata ++ [] = [] ++ [("charge_id", .string charge)] := by
    rw [h.facts]
    rfl
  have hcharge : (a.moneyRow db u .refunded amount).metadata.lookup "charge_id" =
      some (.string charge) := lookup_posting_of_fact hlast nofun u _ _ _
  have hprovider : (a.moneyRow db u .refunded amount).provider = .stripe := h.provider
  have hkind : (a.moneyRow db u .refunded amount).kind = .refunded := rfl
  simp only [LedgerEntry.refundedCharge?, hcharge, hprovider, hkind]

/-- A refund that nothing disturbs adds what is kept of its amount to the refunds of its charge. -/
theorem Arrival.refunds_after (h : a.event.IsRefundOf charge customer) (calm : a.context.fault = none)
    (inTime : a.context.settings.webhookDeadlineSeconds.isPositive = true)
    (subject : a.event.subject? db = some u)
    (fresh : db.books a.event.provider a.event.eventId = false) :
    (a.after db).refunds charge = db.refunds charge ++ (bookedAmount? a.event.amount).toList := by
  have hmonetary := EventKind.isMonetary_of_moneyEntry? h.money
  cases hkept : bookedAmount? a.event.amount with
  | none =>
    rcases a.after_cases db with hsame | ⟨w, hs⟩
    · rw [hsame, Option.toList_none, List.append_nil]
    · have hbooked := kept_of_settles hs h.money
      rw [hkept] at hbooked
      cases hbooked
  | some kept =>
    have hsettles := settles_of_kept hmonetary (by rw [hkept]; rfl) calm inTime subject fresh
    have hrow := h.refundedCharge?_moneyRow db u kept
    simp only [after_of_money hsettles h.money hkept, Database.refunds, List.filter_append,
      List.map_append, List.filter_cons, hrow, decide_true, if_true, List.filter_nil]
    rfl

end

/-- A notice of the direct processor, and the circumstances in which it is translated and processed. -/
structure ProcessorNotice where
  context : Context
  payload : StripePayload.Payload

namespace ProcessorNotice

/-- The event of a notice, as it arrives. -/
def arrival? (n : ProcessorNotice) : Option Arrival :=
  match n.payload.toEvent? n.context.settings with
  | .ok (some e) => some ⟨n.context, e⟩
  | _ => none

/-- An undisturbed notice, in its time, that a number of the smallest units of a currency has been paid
back so far of a customer's charge. -/
structure TellsRefund (n : ProcessorNotice) (charge customer currency : String) (total : Int) :
    Prop where
  type : n.payload.type = "charge.refunded"
  chargeId : n.payload.subject.lookup "id" = some (.string charge)
  customerId : n.payload.subject.lookup "customer" = some (.string customer)
  amount : n.payload.subject.lookup "amount_refunded" = some (.int total)
  unit : n.payload.subject.lookup "currency" = some (.string currency)
  calm : n.context.fault = none
  inTime : n.context.settings.webhookDeadlineSeconds.isPositive = true

section
variable {n : ProcessorNotice} {charge customer currency : String} {total : Int} {db : Database}
  {u : Subscriber}

/-- Every notice of a refund is translated, and the running total is taken for the amount. -/
theorem TellsRefund.translated (h : n.TellsRefund charge customer currency total) :
    ∃ e, n.arrival? = some ⟨n.context, e⟩ ∧ e.IsRefundOf charge customer ∧
      e.eventId = n.payload.id ∧
      e.amount = Price.fromMinorUnits (some total) (some currency) := by
  have htranslated : n.payload.toEvent? n.context.settings = .ok (some
      { n.payload.event .refundIssued with
        customerId := some customer
        amount := Price.fromMinorUnits (some total) (some currency)
        currency := StripePayload.eventCurrency (some currency)
        metadata := [("charge_id", .string charge)] }) := by
    simp only [StripePayload.Payload.toEvent?, h.type, StripePayload.refundEvent, Fields.required,
      h.chargeId, Fields.optional, Fields.withDefault, h.customerId, h.amount, h.unit]
    rfl
  exact ⟨_, by rw [arrival?, htranslated], ⟨rfl, rfl, rfl, rfl⟩, rfl, rfl⟩

/-- What the ledger keeps of a running total. -/
def keptTotal? (currency : String) (total : Int) : Option Decimal :=
  bookedAmount? (Price.fromMinorUnits (some total) (some currency))

/-- Totals below `10 ^ 13` are kept without loss. -/
theorem values_of_keptTotals (currency : String) {totals : List Int}
    (bounded : ∀ total ∈ totals, total.natAbs < 10 ^ 13) :
    (totals.filterMap (keptTotal? currency)).map (fun d =>
      d.value * Price.unitsOf (Price.currencyOr Price.defaultCurrency (some currency))) =
        totals.map (Int.cast : Int → ℚ) := by
  induction totals with
  | nil => rfl
  | cons total totals ih =>
    obtain ⟨htotal, hrest⟩ := List.forall_mem_cons.mp bounded
    have hunits : ((some total).getD 0).natAbs < 10 ^ 13 := htotal
    obtain ⟨kept, hkept, hvalue⟩ := Price.exists_bookedAmount (some currency) hunits
    have hfirst : keptTotal? currency total = some kept := hkept
    rw [List.filterMap_cons_some hfirst, List.map_cons, List.map_cons, hvalue, ih hrest, Option.getD_some]

/-- Notices of a known customer's charge, under ids that are not booked yet, add what is kept of their
running totals to its refunds. -/
theorem refunds_run {notices : List ProcessorNotice} {totals : List Int}
    (told : List.Forall₂ (fun n total => n.TellsRefund charge customer currency total) notices totals)
    (named : customer ≠ "") {db : Database} (known : db.subscriberOf? .stripe customer = some u)
    (distinct : (notices.map fun n => n.payload.id).Nodup)
    (fresh : ∀ n ∈ notices, db.books .stripe n.payload.id = false) :
    (Arrival.run (notices.filterMap arrival?) db).refunds charge =
      db.refunds charge ++ totals.filterMap (keptTotal? currency) := by
  induction told generalizing db with
  | nil => simp
  | @cons n total notices totals h _ ih =>
    obtain ⟨hfresh, hrest⟩ := List.forall_mem_cons.mp fresh
    obtain ⟨hother, hdistinct⟩ := List.nodup_cons.mp distinct
    obtain ⟨e, harrival, hrefund, hid, hamount⟩ := h.translated
    let a : Arrival := ⟨n.context, e⟩
    -- The first notice leaves the records alone and books no id but its own, so the rest is met as it was.
    have hsubscribers : (a.after db).subscribers = db.subscribers :=
      Arrival.subscribers_after_of_monetary (EventKind.isMonetary_of_moneyEntry? hrefund.money) db
    have hknown : (a.after db).subscriberOf? .stripe customer = some u := by
      rw [Database.subscriberOf?, hsubscribers, ← known, Database.subscriberOf?]
    have hunbooked : ∀ m ∈ notices, (a.after db).books .stripe m.payload.id = false := by
      intro m hm
      have hne : a.event.eventId ≠ m.payload.id := fun hsame =>
        hother (List.mem_map.mpr ⟨m, hm, hsame.symm.trans hid⟩)
      rw [Arrival.books_after_of_ne fun hsame => hne hsame.2, hrest m hm]
    have hstep : (a.after db).refunds charge = db.refunds charge ++ (keptTotal? currency total).toList := by
      rw [keptTotal?, ← hamount]
      refine Arrival.refunds_after (a := a) hrefund h.calm h.inTime (hrefund.subject named known) ?_
      rw [hrefund.provider, hid, hfresh]
    rw [List.filterMap_cons_some harrival, Arrival.run_cons, ih hknown hdistinct hunbooked, hstep,
      List.filterMap_cons, List.append_assoc]
    cases keptTotal? currency total <;> rfl

/-- Notices of what has been paid back of a charge so far, under ids of their own, make its refunds: what
is kept of each total, in their order. Totals below `10 ^ 13` are kept without loss. Then the last refund
alone is what was paid back, and the refunds together are that exactly if the earlier totals cancel out:
of totals that are not negative, if nothing was paid back before. -/
theorem refunds_are_running_totals {notices : List ProcessorNotice} {totals : List Int}
    (told : List.Forall₂ (fun n total => n.TellsRefund charge customer currency total) notices totals)
    (named : customer ≠ "") (known : db.subscriberOf? .stripe customer = some u)
    (distinct : (notices.map fun n => n.payload.id).Nodup)
    (fresh : ∀ n ∈ notices, db.books .stripe n.payload.id = false) (first : db.refunds charge = []) :
    let after := Arrival.run (notices.filterMap arrival?) db
    let units := Price.unitsOf (Price.currencyOr Price.defaultCurrency (some currency))
    after.refunds charge = totals.filterMap (keptTotal? currency) ∧
    ((∀ total ∈ totals, total.natAbs < 10 ^ 13) →
      (after.refunds charge).map (fun d => d.value * units) = totals.map (Int.cast : Int → ℚ) ∧
      ∀ (earlier : List Int) (last : Int), totals = earlier ++ [last] →
        after.refunded charge * units = (earlier.sum : ℚ) + last ∧
        (after.refunded charge = last / units ↔ earlier.sum = 0) ∧
        ((∀ total ∈ totals, 0 ≤ total) →
          (after.refunded charge = last / units ↔ ∀ total ∈ earlier, total = 0))) := by
  intro after units
  have hrefunds : after.refunds charge = totals.filterMap (keptTotal? currency) := by
    rw [refunds_run told named known distinct fresh, first, List.nil_append]
  refine ⟨hrefunds, fun bounded => ?_⟩
  have hvalues : (after.refunds charge).map (fun d => d.value * units) =
      totals.map (Int.cast : Int → ℚ) := hrefunds ▸ values_of_keptTotals currency bounded
  refine ⟨hvalues, ?_⟩
  rintro earlier last rfl
  have hsum : after.refunded charge * units = (earlier.sum : ℚ) + last := by
    rw [Database.refunded, ← List.sum_map_mul_right, hvalues, ← Int.cast_list_sum, List.sum_append,
      List.sum_singleton, Int.cast_add]
  have hlast : after.refunded charge = last / units ↔ earlier.sum = 0 := by
    rw [eq_div_iff (Price.unitsOf_ne_zero _), hsum, add_eq_right, Int.cast_eq_zero]
  refine ⟨hsum, hlast, fun nonneg => hlast.trans ⟨fun hzero total htotal => ?_, List.sum_eq_zero⟩⟩
  exact List.all_zero_of_le_zero_le_of_sum_eq_zero
    (fun n hn => nonneg n (List.mem_append_left _ hn)) hzero htotal

end

/-- A notice of what has been paid back so far, in cents, of the charge `ch_1` of the customer `cus`. -/
def ofCharge (eventId : String) (cents : Int) : ProcessorNotice where
  context := { settings := {}, now := 0 }
  payload :=
    { id := eventId
      type := "charge.refunded"
      subject := [("id", .string "ch_1"), ("customer", .string "cus"), ("amount_refunded", .int cents),
        ("currency", .string "usd")] }

theorem refunds_are_running_totals_of_two :
    let db := Database.ofCustomer "u" "u@example.com" .stripe "cus"
    let notices := [ofCharge "evt_1" 1000, ofCharge "evt_2" 2500]
    let after := Arrival.run (notices.filterMap arrival?) db
    List.Forall₂ (fun n total => n.TellsRefund "ch_1" "cus" "usd" total) notices [1000, 2500] ∧
      after.refunds "ch_1" = [⟨false, 1000, -2⟩, ⟨false, 2500, -2⟩] ∧ after.refunded "ch_1" ≠ 25 := by
  intro db notices after
  have inTime : ({} : Settings).webhookDeadlineSeconds.isPositive = true := by decide +kernel
  have tells : ∀ eventId cents, (ofCharge eventId cents).TellsRefund "ch_1" "cus" "usd" cents :=
    fun eventId cents => ⟨rfl, rfl, rfl, rfl, rfl, rfl, inTime⟩
  have told : List.Forall₂ (fun n total => n.TellsRefund "ch_1" "cus" "usd" total) notices
      [1000, 2500] := .cons (tells _ _) (.cons (tells _ _) .nil)
  have hunits : Price.unitsOf (Price.currencyOr Price.defaultCurrency (some "usd")) = 100 :=
    if_neg (by decide +kernel)
  obtain ⟨hrefunds, hsums⟩ := refunds_are_running_totals told (by decide)
    (show db.subscriberOf? .stripe "cus" = some _ from rfl) (by decide) (fun _ _ => rfl) rfl
  obtain ⟨-, hends⟩ := hsums (by decide)
  obtain ⟨-, hlast, -⟩ := hends [1000] 2500 rfl
  refine ⟨told, hrefunds.trans (by decide +kernel), fun hsame => ?_⟩
  rw [hunits, hsame] at hlast
  exact absurd (hlast.mp (by norm_num)) (by decide)

end ProcessorNotice
end SubscriptionBilling
