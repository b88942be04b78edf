import Mathlib.Tactic.Ring
import SubscriptionBilling.Proofs.FiniteAmounts
import SubscriptionBilling.Proofs.Translation

/-! Amounts in the smallest unit of a currency. As long as they have at most as many digits as a quotient
keeps, their hundredths are exact, so the event that a payload is translated to has the very amount that
its object states. -/
namespace SubscriptionBilling

namespace Decimal

/-- The number that a decimal stands for. -/
def value (d : Decimal) : ℚ := if d.negative then -d.magnitude else d.magnitude

/-- A decimal with the sign of a whole number, and its magnitude up to a scale, is the number itself on
that scale. -/
theorem value_of_natAbs {n : Int} {c : Nat} {e : Int} {scale : ℚ}
    (h : (c : ℚ) * 10 ^ e = n.natAbs * scale) : value ⟨n < 0, c, e⟩ = n * scale := by
  have habs : (n.natAbs : ℚ) = |(n : ℚ)| := by
    rw [Nat.cast_natAbs, Int.cast_abs]
  simp only [value, magnitude, decide_eq_true_eq, h, habs]
  split
  · next hneg =>
    rw [abs_of_neg (Int.cast_lt_zero.mpr hneg)]
    ring
  · next hpos => rw [abs_of_nonneg (Int.cast_nonneg (not_lt.mp hpos))]

theorem value_ofInt (n : Int) : (ofInt n).value = n := by
  have h : value ⟨n < 0, n.natAbs, 0⟩ = n * 1 := value_of_natAbs (by rw [zpow_zero])
  rwa [mul_one] at h

/-- Zeros that are removed make no difference, and what is left is not longer. -/
theorem stripZeros_spec (places n : Nat) :
    ((stripZeros places n).1 : ℚ) * 10 ^ (-((stripZeros places n).2 : Int)) =
        n * 10 ^ (-(places : Int)) ∧ (stripZeros places n).1 ≤ n := by
  induction places generalizing n with
  | zero => exact ⟨rfl, le_rfl⟩
  | succ places ih =>
    rw [stripZeros]
    by_cases hzero : n % 10 = 0
    · rw [if_pos hzero]
      obtain ⟨hvalue, hle⟩ := ih (n / 10)
      refine ⟨?_, hle.trans (Nat.div_le_self n 10)⟩
      have hn : (n : ℚ) = (n / 10 : Nat) * 10 := by
        exact_mod_cast (Nat.div_mul_cancel (Nat.dvd_of_mod_eq_zero hzero)).symm
      have hplace : (10 : ℚ) ^ (-(places : Int)) = 10 * 10 ^ (-((places + 1 : Nat) : Int)) := by
        rw [← zpow_one_add₀ (by norm_num)]
        congr 1
        omega
      rw [hvalue, hn, hplace, mul_assoc]
    · rw [if_neg hzero]
      exact ⟨rfl, le_rfl⟩

/-- A coefficient with at most as many digits as are kept is not rounded. -/
theorem round_of_lt {d : Decimal} (h : d.coefficient < 10 ^ precision) : d.round = d := by
  have hdigits : digitCount d.coefficient ≤ precision :=
    (Nat.length_toDigits_le_iff (by norm_num) (by decide)).mpr h
  unfold round
  rw [if_pos (Nat.sub_eq_zero_of_le hdigits)]

/-- Hundredths of numbers with at most as many digits as are kept are exact. -/
theorem value_hundredths {n : Int} (h : n.natAbs < 10 ^ precision) :
    (hundredths n).value * 100 = n := by
  obtain ⟨hvalue, hle⟩ := stripZeros_spec 2 n.natAbs
  rw [hundredths, round_of_lt (hle.trans_lt h), value_of_natAbs hvalue]
  norm_num
  ring

/-- Of longer numbers different ones can have the same hundredths. -/
example : hundredths (10 ^ 28 + 1) = hundredths (10 ^ 28 + 2) := by decide +kernel

end Decimal

namespace Price

/-- How many of its smallest units make a unit of a currency. -/
def unitsOf (currency : String) : ℚ :=
  if Text.lower currency ∈ zeroDecimalCurrencies then 1 else 100

theorem unitsOf_ne_zero (currency : String) : unitsOf currency ≠ 0 := by
  unfold unitsOf
  split <;> norm_num

theorem value_fromMinorUnits {amount : Option Int} {currency : Option String}
    (h : (amount.getD 0).natAbs < 10 ^ Decimal.precision) :
    (fromMinorUnits amount currency).value * unitsOf (currencyOr defaultCurrency currency) =
      amount.getD 0 := by
  unfold fromMinorUnits isZeroDecimal unitsOf
  simp only [List.contains_iff_mem]
  split
  · rw [mul_one]
    exact Decimal.value_ofInt _
  · exact Decimal.value_hundredths h

end Price

open Fields

/-- A whole number as a field states it: none and null stand for zero. -/
def Fields.statedWhole? (field : Option Json) : Option Int :=
  match field with
  | none => some 0
  | some .null => some 0
  | some v => (whole v).toOption

section readers
variable {fs : List (String × Json)} {name : String}

theorem Fields.statedWhole?_of_whole {v : Json} {n : Int} (h : whole v = .ok n) :
    statedWhole? (some v) = some n := by
  unfold statedWhole?
  split
  · next hnone => cases hnone
  · next hnull =>
    cases hnull
    cases h
  · next hvalue =>
    cases hvalue
    rw [h]
    rfl

theorem Fields.statedWhole?_of_optional {n : Option Int} (h : optional fs name whole = .ok n) :
    statedWhole? (fs.lookup name) = some (n.getD 0) := by
  unfold optional withDefault at h
  cases hfield : fs.lookup name with
  | none =>
    rw [hfield] at h
    cases h
    rfl
  | some v =>
    simp only [hfield] at h
    unfold nullable at h
    split at h
    · cases h
      rfl
    · obtain ⟨m, hm, rfl⟩ := map_eq_ok.mp h
      exact statedWhole?_of_whole hm

theorem Fields.statedWhole?_of_withDefault {n : Int} (h : withDefault fs name 0 whole = .ok n) :
    statedWhole? (fs.lookup name) = some n := by
  unfold withDefault at h
  cases hfield : fs.lookup name with
  | none =>
    rw [hfield] at h
    cases h
    rfl
  | some v =>
    simp only [hfield] at h
    exact statedWhole?_of_whole h

end readers

namespace StripePayload

/-- The currency that an object states, the default one where it is missing or empty. -/
def statedCurrency (fs : List (String × Json)) : String :=
  match fs.lookup "currency" with
  | some (.string c) => if c = "" then Price.defaultCurrency else c
  | _ => Price.defaultCurrency

/-- The price in the first of a subscription's items. -/
def firstPrice? (fs : List (String × Json)) : Option (List (String × Json)) :=
  match fs.lookup "items" with
  | some (.object list) =>
    match list.lookup "data" with
    | some (.array (.object item :: _)) =>
      match item.lookup "price" with
      | some (.object price) => some price
      | _ => none
    | _ => none
  | _ => none

/-- The field that states the amount, by the type of a payload. The types about subscriptions are the
others that events come of. -/
def Payload.amountField? (p : Payload) : Option Json :=
  match p.type with
  | "checkout.session.completed" => p.subject.lookup "amount_total"
  | "invoice.payment_succeeded" => p.subject.lookup "amount_paid"
  | "invoice.payment_failed" => p.subject.lookup "amount_due"
  | "charge.refunded" => p.subject.lookup "amount_refunded"
  | _ => (firstPrice? p.subject).bind fun price => price.lookup "unit_amount"

theorem statedCurrency_of_optional {fs : List (String × Json)} {c : Option String}
    (h : Fields.optional fs "currency" text = .ok c) :
    statedCurrency fs = Price.currencyOr Price.defaultCurrency c := by
  unfold Fields.optional withDefault at h
  unfold statedCurrency
  cases hfield : fs.lookup "currency" with
  | none =>
    rw [hfield] at h
    cases h
    rfl
  | some v =>
    simp only [hfield] at h
    cases v <;> cases h
    · rfl
    · simp [Price.currencyOr, String.isEmpty_iff]

theorem object_eq_ok {v : Json} {fs : List (String × Json)} : object v = .ok fs ↔ v = .object fs := by
  cases v <;> simp [object]

theorem items_eq_ok {v : Json} {vs : List Json} : items v = .ok vs ↔ v = .array vs := by
  cases v <;> simp [items]

/-- The amount of an item is that of its price. -/
theorem statedWhole?_of_ofItem {item : Json} {price : ItemPrice} (h : ItemPrice.ofItem item = .ok price) :
    ∃ fs priceFields, item = .object fs ∧ fs.lookup "price" = some (.object priceFields) ∧
      statedWhole? (priceFields.lookup "unit_amount") = some (price.unitAmount.getD 0) := by
  simp only [ItemPrice.ofItem, bind_eq_ok, pure_eq_ok, object_eq_ok] at h
  obtain ⟨fs, rfl, priceFields, hprice, _, -, _, -, amount, hamount, rfl⟩ := h
  refine ⟨fs, priceFields, rfl, ?_, statedWhole?_of_optional hamount⟩
  unfold required at hprice
  split at hprice
  · next v hv => rw [hv, object_eq_ok.mp hprice]
  · cases hprice

/-- The first price that is read is the one in the first item. -/
theorem statedWhole?_of_readPrices {fs : List (String × Json)} {prices : List ItemPrice}
    (h : readPrices fs = .ok prices) :
    statedWhole? ((firstPrice? fs).bind fun price => price.lookup "unit_amount") =
      some ((prices.head?.bind ItemPrice.unitAmount).getD 0) := by
  unfold readPrices withDefault at h
  unfold firstPrice?
  split at h
  · next v hv =>
    simp only [bind_eq_ok, object_eq_ok] at h
    obtain ⟨list, rfl, h⟩ := h
    simp only [hv]
    split at h
    · next data hdata =>
      simp only [bind_eq_ok, items_eq_ok] at h
      obtain ⟨vs, rfl, h⟩ := h
      cases vs with
      | nil =>
        cases h
        simp only [hdata]
        rfl
      | cons item rest =>
        simp only [List.mapM_cons, bind_eq_ok, pure_eq_ok] at h
        obtain ⟨price, hprice, _, -, rfl⟩ := h
        obtain ⟨itemFields, priceFields, rfl, hfield, hamount⟩ := statedWhole?_of_ofItem hprice
        simp only [hdata, hfield]
        exact hamount
    · next hnone =>
      cases h
      simp only [hnone]
      rfl
  · next hnone =>
    cases h
    simp only [hnone]
    rfl

/-- An amount that is made of the number and the currency that the object of a payload states. -/
structure Payload.IsAmountOf (p : Payload) (amount : Decimal) (units : Option Int)
    (currency : Option String) : Prop where
  converted : amount = Price.fromMinorUnits units currency
  units : statedWhole? p.amountField? = some (units.getD 0)
  currency : statedCurrency p.subject = Price.currencyOr Price.defaultCurrency currency

theorem isAmountOf_subscriptionEvent {s : Settings} {p : Payload} {kind : EventKind}
    {e : ProviderEvent} (hk : subscriptionKind? p.type = some kind)
    (h : subscriptionEvent s p kind = .ok e) :
    ∃ units currency, p.IsAmountOf e.amount units currency := by
  unfold subscriptionEvent at h
  simp only [bind_eq_ok, pure_eq_ok, check_eq_ok] at h
  obtain ⟨sub, hsub, _, -, _, -, _, -, rfl⟩ := h
  simp only [Subscription.ofFields, bind_eq_ok, pure_eq_ok] at hsub
  obtain ⟨_, -, _, -, _, -, currency, hcurrency, _, -, _, -, prices, hprices, _, -, rfl⟩ := hsub
  refine ⟨_, currency, ⟨rfl, ?_, statedCurrency_of_optional hcurrency⟩⟩
  have hfield : p.amountField? =
      (firstPrice? p.subject).bind fun price => price.lookup "unit_amount" := by
    unfold Payload.amountField?
    unfold subscriptionKind? at hk
    generalize p.type = type at hk
    split at hk <;> first | rfl | cases hk
  rw [hfield]
  exact statedWhole?_of_readPrices hprices

theorem isAmountOf_paymentEvent? {p : Payload} {x : Parse ProviderEvent} {e : ProviderEvent}
    (hx : paymentEvent? p = some x) (h : x = .ok e) :
    ∃ units currency, p.IsAmountOf e.amount units currency := by
  subst h
  unfold paymentEvent? at hx
  split at hx
  · next htype =>
    have h := Option.some.inj hx
    simp only [checkoutEvent, bind_eq_ok, pure_eq_ok] at h
    obtain ⟨_, -, _, -, _, -, amount, hamount, currency, hcurrency, _, -, rfl⟩ := h
    refine ⟨amount, currency, ⟨rfl, ?_, statedCurrency_of_optional hcurrency⟩⟩
    rw [Payload.amountField?, htype]
    exact statedWhole?_of_optional hamount
  · next htype =>
    have h := Option.some.inj hx
    simp only [invoiceEvent, bind_eq_ok, pure_eq_ok] at h
    obtain ⟨_, -, _, -, _, -, _, -, paid, hpaid, currency, hcurrency, rfl⟩ := h
    refine ⟨some paid, currency, ⟨rfl, ?_, statedCurrency_of_optional hcurrency⟩⟩
    rw [Payload.amountField?, htype]
    exact statedWhole?_of_withDefault hpaid
  · next htype =>
    have h := Option.some.inj hx
    simp only [invoiceEvent, bind_eq_ok, pure_eq_ok] at h
    obtain ⟨_, -, _, -, _, -, due, hdue, _, -, currency, hcurrency, rfl⟩ := h
    refine ⟨some due, currency, ⟨rfl, ?_, statedCurrency_of_optional hcurrency⟩⟩
    rw [Payload.amountField?, htype]
    exact statedWhole?_of_withDefault hdue
  · next htype =>
    have h := Option.some.inj hx
    simp only [refundEvent, bind_eq_ok, pure_eq_ok] at h
    obtain ⟨_, -, _, -, amount, hamount, currency, hcurrency, rfl⟩ := h
    refine ⟨some amount, currency, ⟨rfl, ?_, statedCurrency_of_optional hcurrency⟩⟩
    rw [Payload.amountField?, htype]
    exact statedWhole?_of_withDefault hamount
  · cases hx

theorem isAmountOf_toEvent? {s : Settings} {p : Payload} {e : ProviderEvent}
    (h : p.toEvent? s = .ok (some e)) :
    ∃ units currency, p.IsAmountOf e.amount units currency := by
  rcases toEvent?_cases h with ⟨kind, hk, he⟩ | ⟨-, hx⟩
  · exact isAmountOf_subscriptionEvent hk he
  · exact isAmountOf_paymentEvent? hx rfl

/-- The event of a payload has the amount that its object states. -/
theorem value_of_toEvent? {s : Settings} {p : Payload} {e : ProviderEvent} {n : Int}
    (h : p.toEvent? s = .ok (some e)) (stated : statedWhole? p.amountField? = some n)
    (bounded : n.natAbs < 10 ^ Decimal.precision) :
    e.amount.value * Price.unitsOf (statedCurrency p.subject) = n := by
  obtain ⟨units, currency, hamount⟩ := isAmountOf_toEvent? h
  obtain rfl : n = units.getD 0 := Option.some.inj (stated.symm.trans hamount.units)
  rw [hamount.converted, hamount.currency]
  exact Price.value_fromMinorUnits bounded

/-- The object of every payload that is translated states a number, and without loss: below 10^28 it
is the amount of the event, or a hundred times the amount where the currency has a smaller unit. So
amounts in one currency are equal exactly if the numbers are. -/
theorem amounts_are_exact {s : Settings} {p : Payload} {e : ProviderEvent}
    (translated : p.toEvent? s = .ok (some e)) :
    ∃ n : Int, statedWhole? p.amountField? = some n ∧ (n.natAbs < 10 ^ 28 →
      (Text.lower (statedCurrency p.subject) ∈ Price.zeroDecimalCurrencies → e.amount.value = n) ∧
      (Text.lower (statedCurrency p.subject) ∉ Price.zeroDecimalCurrencies →
        e.amount.value * 100 = n) ∧
      ∀ (s' : Settings) (p' : Payload) (e' : ProviderEvent) (n' : Int),
        p'.toEvent? s' = .ok (some e') → statedWhole? p'.amountField? = some n' →
        n'.natAbs < 10 ^ 28 →
        Text.lower (statedCurrency p'.subject) = Text.lower (statedCurrency p.subject) →
        (e.amount.value = e'.amount.value ↔ n = n')) := by
  obtain ⟨units, currency, hamount⟩ := isAmountOf_toEvent? translated
  refine ⟨units.getD 0, hamount.units, fun bounded => ?_⟩
  have hvalue := value_of_toEvent? translated hamount.units bounded
  refine ⟨fun hzero => ?_, fun hhundred => ?_, fun s' p' e' n' translated' stated' bounded' hsame => ?_⟩
  · rwa [Price.unitsOf, if_pos hzero, mul_one] at hvalue
  · rwa [Price.unitsOf, if_neg hhundred] at hvalue
  · have hvalue' := value_of_toEvent? translated' stated' bounded'
    have hunits : Price.unitsOf (statedCurrency p'.subject) =
        Price.unitsOf (statedCurrency p.subject) := by
      unfold Price.unitsOf
      rw [hsame]
    rw [hunits] at hvalue'
    have hnumbers : ((units.getD 0 : Int) : ℚ) = n' ↔ units.getD 0 = n' := Int.cast_inj
    rw [← hnumbers, ← hvalue, ← hvalue',
      mul_left_inj' (Price.unitsOf_ne_zero (statedCurrency p.subject))]

/-- A charge of which a number of the smallest units of a currency is paid back. -/
def refundPayload (units : Int) (currency : String) : Payload :=
  ⟨"evt_1", "charge.refunded",
    [("id", .string "ch_1"), ("amount_refunded", .int units), ("currency", .string currency)]⟩

theorem amounts_are_exact_refund :
    ∃ e, (refundPayload 1999 "EUR").toEvent? {} = .ok (some e) ∧ e.amount.value * 100 = 1999 := by
  have translated : (refundPayload 1999 "EUR").toEvent? {} = .ok (some _) := rfl
  obtain ⟨n, stated, hexact⟩ := amounts_are_exact translated
  obtain rfl : n = 1999 := (Option.some.inj stated).symm
  exact ⟨_, translated, (hexact (by decide)).2.1 (by decide +kernel)⟩

end StripePayload

end SubscriptionBilling
