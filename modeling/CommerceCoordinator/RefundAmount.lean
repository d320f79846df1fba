import CommerceCoordinator.Platform
import CommerceCoordinator.SignificantDigits
import Mathlib.Data.Finset.Card
import Mathlib.Algebra.BigOperators.Ring.List

open Commercetools SignificantDigits

-- `decimal.Decimal` under the default context: 28 significant digits, half even.
-- A finite decimal is its value; exponents stay far inside the context's range.
namespace Decimal

def precision : ℕ := 28
def add (a b : ℚ) : ℚ := roundTo 10 precision (a+b)
def mul (a b : ℚ) : ℚ := roundTo 10 precision (a*b)
def div (a b : ℚ) : ℚ := roundTo 10 precision (a/b)

-- `quantize(Decimal(10) ** -digits, ROUND_HALF_UP)`; `none` is InvalidOperation,
-- raised when the coefficient does not fit the precision.
def quantizeHalfUp (digits : ℕ) (q : ℚ) : Option ℚ :=
  let coefficient := roundHalfUp (q * 10^digits)
  if |coefficient| < 10^precision then some ((coefficient : ℚ) / 10^digits) else none

end Decimal

namespace EdxUtils

def getQuantizedAmount (centAmount : ℚ) (fractionDigits : ℕ) : Option ℚ :=
  Decimal.quantizeHalfUp fractionDigits (Decimal.div centAmount (10^fractionDigits))

def getEdxItems (order : Order) : List LineItem := order.lineItems.filter fun _ => true

def sumLineItemTotals (items : List LineItem) (returnLineItemIds : List String) : Int :=
  items.foldl (fun refundCents item =>
    if item.id ∈ returnLineItemIds then refundCents + item.totalPrice.centAmount else refundCents) 0

-- The charge split by each item's share of the order total. Every operation of
-- the loop is rounded by the decimal context.
def allocateByShare (items : List LineItem) (returnLineItemIds : List String)
    (amountPlannedCents orderTotalCents : Int) : ℚ :=
  items.foldl (fun refundCents item =>
    if item.id ∈ returnLineItemIds then
      let lineItemPercentage := Decimal.div item.totalPrice.centAmount orderTotalCents
      Decimal.add refundCents (Decimal.mul lineItemPercentage amountPlannedCents)
    else refundCents) 0

def returnsAllItems (order : Order) (returnLineItemIds : List String) : Prop :=
  let orderLineItemIds := ((getEdxItems order).map (·.id)).toFinset
  returnLineItemIds.length = orderLineItemIds.card ∧ returnLineItemIds.toFinset = orderLineItemIds

instance : Decidable (returnsAllItems order ids) := inferInstanceAs (Decidable (_ ∧ _))

-- `none` where the decimal context refuses an amount.
def getLineItemPriceToRefund (order : Order) (payment : Payment) (returnLineItemIds : List String) : Option ℚ :=
  let amountPlannedCents := payment.amountPlanned.centAmount
  let orderTotalCents := order.totalPrice.centAmount
  let fractionDigits := payment.amountPlanned.fractionDigits.getD 2
  if amountPlannedCents = 0 ∨ orderTotalCents = 0 then getQuantizedAmount 0 fractionDigits
  else if 1 < order.lineItems.length then
    let orderLineItems := getEdxItems order
    if returnsAllItems order returnLineItemIds then getQuantizedAmount amountPlannedCents fractionDigits
    else if amountPlannedCents = orderTotalCents then
      getQuantizedAmount (sumLineItemTotals orderLineItems returnLineItemIds) fractionDigits
    else do
      let refundUnits ← getQuantizedAmount
        (allocateByShare orderLineItems returnLineItemIds amountPlannedCents orderTotalCents) fractionDigits
      let amountPlannedUnits ← getQuantizedAmount amountPlannedCents fractionDigits
      some (min refundUnits amountPlannedUnits)
  else match order.lineItems with
    | [item] => if item.id ∈ returnLineItemIds then getQuantizedAmount amountPlannedCents fractionDigits
        else getQuantizedAmount 0 fractionDigits
    | _ => getQuantizedAmount 0 fractionDigits

theorem quantized_zero (digits : ℕ) : getQuantizedAmount 0 digits = some 0 := by
  have units : Decimal.div 0 (10^digits) = 0 := by simp [Decimal.div]
  have zero : roundHalfUp (0 : ℚ) = 0 := by simpa using roundHalfUp_int 0
  simp [getQuantizedAmount,units,Decimal.quantizeHalfUp,zero,Decimal.precision]

theorem quantized_nonneg (nonneg : 0 ≤ q) (quantized : getQuantizedAmount q digits = some units) :
    0 ≤ units := by
  unfold getQuantizedAmount Decimal.quantizeHalfUp at quantized
  dsimp only at quantized
  split at quantized
  · cases Option.some.inj quantized
    have scaled : 0 ≤ Decimal.div q (10^digits) := roundTo_nonneg (by norm_num) (by positivity)
    have coefficient := roundHalfUp_nonneg (mul_nonneg scaled (by positivity : (0 : ℚ) ≤ 10^digits))
    exact div_nonneg (by exact_mod_cast coefficient) (by positivity)
  · cases quantized

theorem quantized_kept (kept : HasDigits 10 28 q) : getQuantizedAmount q digits =
    if |roundHalfUp q| < 10^28 then some ((roundHalfUp q : ℚ) / 10^digits) else none := by
  have exactQuotient : Decimal.div q (10^digits) = q / 10^digits := by
    have scaled := roundTo_kept (b := 10) (p := 28) (by norm_num) (hasDigits_shift (by norm_num) kept (-(digits : ℤ)))
    simpa [Decimal.div,Decimal.precision,div_eq_mul_inv] using scaled
  have back : (q / 10^digits : ℚ) * 10^digits = q := div_mul_cancel₀ _ (by positivity)
  simp only [getQuantizedAmount,Decimal.quantizeHalfUp,exactQuotient,back]
  rfl

theorem quantized_int (cents : ℤ) (small : |cents| < 10^28) :
    getQuantizedAmount cents digits = some ((cents : ℚ) / 10^digits) := by
  rw [quantized_kept (hasDigits_int cents (by exact_mod_cast small)),roundHalfUp_int,if_pos small]

theorem quantized_large (cents : ℤ) (large : 10^28 ≤ cents) : getQuantizedAmount cents digits = none := by
  have quotient : ((10 : ℕ) : ℚ)^((28 : ℤ)-digits) ≤ cents / 10^digits := by
    rw [zpow_sub₀ (by norm_num),zpow_natCast,Nat.cast_ofNat]
    gcongr
    exact_mod_cast large
  have rounded := pow_le_roundTo (b := 10) (p := 28) (by norm_num) (by norm_num) quotient
  have scaled : ((10^28 : ℤ) : ℚ) ≤ Decimal.div cents (10^digits) * 10^digits := by
    calc ((10^28 : ℤ) : ℚ)
        = ((10 : ℕ) : ℚ)^((28 : ℤ)-digits) * 10^digits := by
          rw [zpow_sub₀ (by norm_num),zpow_natCast,Nat.cast_ofNat,div_mul_cancel₀ _ (by positivity)]
          norm_num
      _ ≤ Decimal.div cents (10^digits) * 10^digits := by
          gcongr
          exact rounded
  have coefficient := roundHalfUp_mono (by norm_num) scaled
  rw [roundHalfUp_int] at coefficient
  have full : ¬ |roundHalfUp (Decimal.div cents (10^digits) * 10^digits)| < 10^28 := by
    rw [abs_of_nonneg (by omega)]
    omega
  exact if_neg full

theorem quantized_value {cents : ℤ} (nonneg : 0 ≤ cents)
    (quantized : getQuantizedAmount cents digits = some units) : units = cents / 10^digits := by
  by_cases small : cents < 10^28
  · rw [quantized_int cents (by rw [abs_of_nonneg nonneg]; exact small)] at quantized
    exact (Option.some.inj quantized).symm
  · rw [quantized_large cents (by omega)] at quantized
    cases quantized

theorem edx_items (order : Order) : getEdxItems order = order.lineItems := by simp [getEdxItems]

def returnedItems (order : Order) (returnLineItemIds : List String) : List LineItem :=
  order.lineItems.filter (·.id ∈ returnLineItemIds)

def returnedTotal (order : Order) (returnLineItemIds : List String) : Int :=
  ((returnedItems order returnLineItemIds).map (·.totalPrice.centAmount)).sum

theorem sum_line_item_totals (order : Order) (ids : List String) :
    sumLineItemTotals (getEdxItems order) ids = returnedTotal order ids := by
  have loop : ∀ (items : List LineItem) (start : Int),
      items.foldl (fun cents item => if item.id ∈ ids then cents + item.totalPrice.centAmount else cents) start =
        start + ((items.filter (·.id ∈ ids)).map (·.totalPrice.centAmount)).sum := by
    intro items
    induction items with
    | nil => simp
    | cons item rest ih =>
      intro start
      by_cases listed : item.id ∈ ids <;> simp [listed,ih,Int.add_assoc]
  rw [edx_items,sumLineItemTotals,loop,Int.zero_add,returnedTotal,returnedItems]

variable {order : Order} {payment : Payment} {ids : List String}

def allocatedShare (amountPlannedCents orderTotalCents : Int) (item : LineItem) : ℚ :=
  Decimal.mul (Decimal.div item.totalPrice.centAmount orderTotalCents) amountPlannedCents

theorem allocate_rounded_sum (order : Order) (ids : List String) (amountPlannedCents orderTotalCents : Int) :
    allocateByShare order.lineItems ids amountPlannedCents orderTotalCents =
      roundedSum 10 Decimal.precision 0
        ((returnedItems order ids).map (allocatedShare amountPlannedCents orderTotalCents)) := by
  simp [roundedSum,List.foldl_map,returnedItems,List.foldl_filter,allocateByShare,allocatedShare,Decimal.add]

theorem returned_item_total (totals : ∀ item ∈ order.lineItems, 0 ≤ item.totalPrice.centAmount)
    (member : item ∈ returnedItems order ids) : (0 : ℚ) ≤ item.totalPrice.centAmount := by
  exact_mod_cast totals item (List.mem_filter.mp member).1

theorem shares_nonneg (totals : ∀ item ∈ order.lineItems, 0 ≤ item.totalPrice.centAmount)
    (planned : 0 ≤ amountPlannedCents) (total : 0 ≤ orderTotalCents) :
    ∀ share ∈ (returnedItems order ids).map (allocatedShare amountPlannedCents orderTotalCents), (0 : ℚ) ≤ share := by
  intro share member
  obtain ⟨item,listed,rfl⟩ := List.mem_map.mp member
  have price := returned_item_total totals listed
  have whole : (0 : ℚ) ≤ orderTotalCents := by exact_mod_cast total
  have charge : (0 : ℚ) ≤ amountPlannedCents := by exact_mod_cast planned
  have percentage := roundTo_nonneg (b := 10) (p := Decimal.precision) (by norm_num) (div_nonneg price whole)
  exact roundTo_nonneg (by norm_num) (mul_nonneg percentage charge)

theorem allocated_nonneg (totals : ∀ item ∈ order.lineItems, 0 ≤ item.totalPrice.centAmount)
    (planned : 0 ≤ amountPlannedCents) (total : 0 ≤ orderTotalCents) :
    0 ≤ allocateByShare order.lineItems ids amountPlannedCents orderTotalCents := by
  rw [allocate_rounded_sum]
  exact roundedSum_nonneg (by norm_num) le_rfl (shares_nonneg totals planned total)

def halfUnit : ℚ := 1 / (2 * 10^27)

theorem halfUnit_eq : ((10 : ℕ) : ℚ)^((1 : ℤ)-(28 : ℕ)) / 2 = halfUnit := by
  rw [halfUnit]
  norm_num

def itemShare (amountPlannedCents orderTotalCents : Int) (item : LineItem) : ℚ :=
  item.totalPrice.centAmount / orderTotalCents * amountPlannedCents

theorem allocated_share_bounds {amountPlannedCents orderTotalCents : Int} {item : LineItem}
    (price : 0 ≤ item.totalPrice.centAmount) (planned : 0 ≤ amountPlannedCents) (total : 0 ≤ orderTotalCents) :
    itemShare amountPlannedCents orderTotalCents item * (1-halfUnit)^2 ≤
      allocatedShare amountPlannedCents orderTotalCents item ∧
    allocatedShare amountPlannedCents orderTotalCents item ≤
      itemShare amountPlannedCents orderTotalCents item * (1+halfUnit)^2 := by
  have charge : (0 : ℚ) ≤ amountPlannedCents := by exact_mod_cast planned
  have quotient : (0 : ℚ) ≤ item.totalPrice.centAmount / orderTotalCents :=
    div_nonneg (by exact_mod_cast price) (by exact_mod_cast total)
  have percentage : 0 ≤ Decimal.div item.totalPrice.centAmount orderTotalCents := roundTo_nonneg (by norm_num) quotient
  have low := le_roundTo (b := 10) (p := 28) (by norm_num) quotient
  have high := roundTo_le (b := 10) (p := 28) (by norm_num) quotient
  have low' := le_roundTo (b := 10) (p := 28) (by norm_num) (mul_nonneg percentage charge)
  have high' := roundTo_le (b := 10) (p := 28) (by norm_num) (mul_nonneg percentage charge)
  rw [halfUnit_eq] at low high low' high'
  have small : 0 ≤ 1-halfUnit ∧ 0 ≤ 1+halfUnit := by norm_num [halfUnit]
  constructor
  · calc itemShare amountPlannedCents orderTotalCents item * (1-halfUnit)^2
        = item.totalPrice.centAmount / orderTotalCents * (1-halfUnit) * amountPlannedCents * (1-halfUnit) := by
          rw [itemShare]
          ring
      _ ≤ Decimal.div item.totalPrice.centAmount orderTotalCents * amountPlannedCents * (1-halfUnit) := by
          have := small.1
          gcongr
          exact low
      _ ≤ allocatedShare amountPlannedCents orderTotalCents item := low'
  · calc allocatedShare amountPlannedCents orderTotalCents item
        ≤ Decimal.div item.totalPrice.centAmount orderTotalCents * amountPlannedCents * (1+halfUnit) := high'
      _ ≤ item.totalPrice.centAmount / orderTotalCents * (1+halfUnit) * amountPlannedCents * (1+halfUnit) := by
          have := small.2
          gcongr
          exact high
      _ = itemShare amountPlannedCents orderTotalCents item * (1+halfUnit)^2 := by
          rw [itemShare]
          ring

theorem returned_share_sum (order : Order) (ids : List String) (amountPlannedCents orderTotalCents : Int) :
    (returnedTotal order ids * amountPlannedCents / orderTotalCents : ℚ) =
      ((returnedItems order ids).map (itemShare amountPlannedCents orderTotalCents)).sum := by
  rw [returnedTotal]
  induction returnedItems order ids with
  | nil => simp
  | cons item rest ih =>
    simp only [List.map_cons,List.sum_cons,Int.cast_add,add_mul,add_div,ih,itemShare]
    ring

-- A share of the returned items is rounded in its division, in its product and in
-- every addition.
theorem allocated_bounds {amountPlannedCents orderTotalCents : Int} (totals : ∀ item ∈ order.lineItems, 0 ≤ item.totalPrice.centAmount)
    (planned : 0 ≤ amountPlannedCents) (total : 0 ≤ orderTotalCents) :
    (returnedTotal order ids * amountPlannedCents / orderTotalCents : ℚ) *
        (1-halfUnit)^(2 + (returnedItems order ids).length) ≤
      allocateByShare order.lineItems ids amountPlannedCents orderTotalCents ∧
    allocateByShare order.lineItems ids amountPlannedCents orderTotalCents ≤
      (returnedTotal order ids * amountPlannedCents / orderTotalCents : ℚ) *
        (1+halfUnit)^(2 + (returnedItems order ids).length) := by
  have shares : ∀ share ∈ (returnedItems order ids).map (allocatedShare amountPlannedCents orderTotalCents),
      (0 : ℚ) ≤ share := shares_nonneg totals planned total
  have each (item : LineItem) (member : item ∈ returnedItems order ids) :=
    allocated_share_bounds (totals item (List.mem_filter.mp member).1) planned total
  have low := le_roundedSum (b := 10) (p := 28) (by norm_num) (by norm_num) (le_refl (0 : ℚ)) shares
  have high := roundedSum_le (b := 10) (p := 28) (by norm_num) (le_refl (0 : ℚ)) shares
  rw [halfUnit_eq,zero_add,List.length_map] at low high
  have lower : (returnedTotal order ids * amountPlannedCents / orderTotalCents : ℚ) * (1-halfUnit)^2 ≤
      ((returnedItems order ids).map (allocatedShare amountPlannedCents orderTotalCents)).sum := by
    rw [returned_share_sum,← List.sum_map_mul_right]
    exact List.sum_le_sum fun item member => (each item member).1
  have upper : ((returnedItems order ids).map (allocatedShare amountPlannedCents orderTotalCents)).sum ≤
      (returnedTotal order ids * amountPlannedCents / orderTotalCents : ℚ) * (1+halfUnit)^2 := by
    rw [returned_share_sum,← List.sum_map_mul_right]
    exact List.sum_le_sum fun item member => (each item member).2
  have small : 0 ≤ 1-halfUnit ∧ 0 ≤ 1+halfUnit := by norm_num [halfUnit]
  rw [allocate_rounded_sum,pow_add,pow_add,← mul_assoc,← mul_assoc]
  constructor
  · exact (mul_le_mul_of_nonneg_right lower (pow_nonneg small.1 _)).trans low
  · exact high.trans (mul_le_mul_of_nonneg_right upper (pow_nonneg small.2 _))

inductive RefundBranch (order : Order) (payment : Payment) (ids : List String) (refund : ℚ) : Prop where
  | nothing (zero : refund = 0)
  | charge (total : order.totalPrice.centAmount ≠ 0) (selected : returnedItems order ids = order.lineItems)
      (whole : getQuantizedAmount payment.amountPlanned.centAmount
        (payment.amountPlanned.fractionDigits.getD 2) = some refund)
  | totals (several : 1 < order.lineItems.length) (charged : payment.amountPlanned.centAmount ≠ 0)
      (part : ¬ returnsAllItems order ids)
      (equal : payment.amountPlanned.centAmount = order.totalPrice.centAmount)
      (summed : getQuantizedAmount (returnedTotal order ids)
        (payment.amountPlanned.fractionDigits.getD 2) = some refund)
  | shares (units planned : ℚ) (total : order.totalPrice.centAmount ≠ 0)
      (differ : payment.amountPlanned.centAmount ≠ order.totalPrice.centAmount)
      (allocated : getQuantizedAmount (allocateByShare order.lineItems ids payment.amountPlanned.centAmount
        order.totalPrice.centAmount) (payment.amountPlanned.fractionDigits.getD 2) = some units)
      (cap : getQuantizedAmount payment.amountPlanned.centAmount
        (payment.amountPlanned.fractionDigits.getD 2) = some planned)
      (least : refund = min units planned)

theorem returned_all (all : returnsAllItems order ids) : returnedItems order ids = order.lineItems := by
  rw [returnedItems,List.filter_eq_self]
  intro item member
  have listed : item.id ∈ ((getEdxItems order).map (·.id)).toFinset := by
    rw [edx_items,List.mem_toFinset]
    exact List.mem_map_of_mem member
  rw [← all.2,List.mem_toFinset] at listed
  simpa using listed

theorem price_branch (refunded : getLineItemPriceToRefund order payment ids = some refund) :
    RefundBranch order payment ids refund := by
  unfold getLineItemPriceToRefund at refunded
  dsimp only at refunded
  split_ifs at refunded with edge several all equal
  · rw [quantized_zero] at refunded
    exact .nothing (Option.some.inj refunded).symm
  · exact .charge (fun zero => edge (.inr zero)) (returned_all all) refunded
  · rw [sum_line_item_totals] at refunded
    exact .totals several (fun zero => edge (.inl zero)) all equal refunded
  · rw [edx_items] at refunded
    obtain ⟨units,allocated,rest⟩ := Option.bind_eq_some_iff.mp refunded
    obtain ⟨planned,cap,least⟩ := Option.bind_eq_some_iff.mp rest
    exact .shares units planned (fun zero => edge (.inr zero)) equal allocated cap (Option.some.inj least).symm
  · split at refunded
    · rename_i item only
      split at refunded
      · exact .charge (fun zero => edge (.inr zero)) (by simp [returnedItems,only,‹item.id ∈ ids›]) refunded
      · rw [quantized_zero] at refunded
        exact .nothing (Option.some.inj refunded).symm
    · rw [quantized_zero] at refunded
      exact .nothing (Option.some.inj refunded).symm

theorem returned_total_nonneg (totals : ∀ item ∈ order.lineItems, 0 ≤ item.totalPrice.centAmount) :
    0 ≤ returnedTotal order ids := by
  apply List.sum_nonneg
  intro price member
  obtain ⟨item,listed,rfl⟩ := List.mem_map.mp member
  exact totals item (List.mem_filter.mp listed).1

def plannedUnits (payment : Payment) : Option ℚ :=
  getQuantizedAmount payment.amountPlanned.centAmount (payment.amountPlanned.fractionDigits.getD 2)

theorem refund_nonneg (totals : ∀ item ∈ order.lineItems, 0 ≤ item.totalPrice.centAmount)
    (planned : 0 ≤ payment.amountPlanned.centAmount) (total : 0 ≤ order.totalPrice.centAmount)
    (refunded : getLineItemPriceToRefund order payment ids = some refund) : 0 ≤ refund := by
  have charge : (0 : ℚ) ≤ payment.amountPlanned.centAmount := by exact_mod_cast planned
  cases price_branch refunded with
  | nothing zero => exact zero.ge
  | charge _ _ whole => exact quantized_nonneg charge whole
  | totals _ _ _ _ summed => exact quantized_nonneg (by exact_mod_cast returned_total_nonneg totals) summed
  | shares units plannedUnits _ _ allocated cap least =>
    rw [least]
    exact le_min (quantized_nonneg (allocated_nonneg totals planned total) allocated) (quantized_nonneg charge cap)

theorem refund_of_nothing (planned : 0 ≤ payment.amountPlanned.centAmount)
    (refunded : getLineItemPriceToRefund order payment [] = some refund) : refund = 0 := by
  have charge : (0 : ℚ) ≤ payment.amountPlanned.centAmount := by exact_mod_cast planned
  have zero : ∀ {units}, getQuantizedAmount 0 (payment.amountPlanned.fractionDigits.getD 2) = some units → units = 0 :=
    fun quantized => Option.some.inj (quantized.symm.trans (quantized_zero _))
  by_cases empty : order.lineItems = []
  · simp only [getLineItemPriceToRefund,empty,List.length_nil,Nat.not_lt_zero,if_false,ite_self] at refunded
    exact zero refunded
  · cases price_branch refunded with
    | nothing none => exact none
    | charge _ selected _ => exact absurd (by simpa [returnedItems] using selected.symm) empty
    | totals _ _ _ _ summed => exact zero (by simpa [returnedTotal,returnedItems] using summed)
    | shares units plannedUnits _ _ allocated cap least =>
      rw [allocate_rounded_sum] at allocated
      have none : units = 0 := zero (by simpa [returnedItems,roundedSum] using allocated)
      rw [least,none]
      exact min_eq_left (quantized_nonneg charge cap)

-- The one branch without a cap: several items, a charge equal to the order
-- total, and line totals added up as they are.
def SummedTotalsFit (order : Order) (payment : Payment) (ids : List String) : Prop :=
  1 < order.lineItems.length → payment.amountPlanned.centAmount ≠ 0 →
    payment.amountPlanned.centAmount = order.totalPrice.centAmount → ¬ returnsAllItems order ids →
      returnedTotal order ids ≤ payment.amountPlanned.centAmount ∨ 10^28 ≤ returnedTotal order ids

theorem refund_capped (fits : SummedTotalsFit order payment ids)
    (totals : ∀ item ∈ order.lineItems, 0 ≤ item.totalPrice.centAmount)
    (charged : 0 ≤ payment.amountPlanned.centAmount)
    (refunded : getLineItemPriceToRefund order payment ids = some refund)
    (planned : plannedUnits payment = some units) : refund ≤ units := by
  have charge : (0 : ℚ) ≤ payment.amountPlanned.centAmount := by exact_mod_cast charged
  cases price_branch refunded with
  | nothing zero => exact zero.le.trans (quantized_nonneg charge planned)
  | charge _ _ whole => exact (Option.some.inj (whole.symm.trans planned)).le
  | shares _ _ _ _ _ capped least =>
    cases Option.some.inj (capped.symm.trans planned)
    exact least.le.trans (min_le_right ..)
  | totals several nonzero part equal summed =>
    have sumNonneg : 0 ≤ returnedTotal order ids := returned_total_nonneg totals
    rcases fits several nonzero equal part with below | large
    · rw [quantized_value sumNonneg summed,quantized_value charged planned]
      gcongr
    · rw [quantized_large _ large] at summed
      cases summed

theorem summed_totals_refund (several : 1 < order.lineItems.length) (nonzero : payment.amountPlanned.centAmount ≠ 0)
    (equal : payment.amountPlanned.centAmount = order.totalPrice.centAmount) (part : ¬ returnsAllItems order ids) :
    getLineItemPriceToRefund order payment ids =
      getQuantizedAmount (returnedTotal order ids) (payment.amountPlanned.fractionDigits.getD 2) := by
  have total : order.totalPrice.centAmount ≠ 0 := equal ▸ nonzero
  simp only [getLineItemPriceToRefund,equal,total,or_self,if_false,several,if_true,part,sum_line_item_totals]

def RefundWithinCharge (order : Order) (payment : Payment) (ids : List String) : Prop :=
  ∀ refund, getLineItemPriceToRefund order payment ids = some refund →
    0 ≤ refund ∧ ∀ units, plannedUnits payment = some units → refund ≤ units

theorem refund_within_charge_iff (order : Order) (payment : Payment) (ids : List String)
    (totals : ∀ item ∈ order.lineItems, 0 ≤ item.totalPrice.centAmount)
    (charged : 0 ≤ payment.amountPlanned.centAmount) :
    (0 ≤ order.totalPrice.centAmount →
      (RefundWithinCharge order payment ids ↔ SummedTotalsFit order payment ids)) ∧
    (order.totalPrice.centAmount < 0 → ∀ refund units, getLineItemPriceToRefund order payment ids = some refund →
      plannedUnits payment = some units → refund ≤ units) := by
  refine ⟨fun total => ⟨?_,?_⟩,?_⟩
  · intro within several nonzero equal part
    by_contra exceeding
    obtain ⟨exceeds,small⟩ := not_or.mp exceeding
    have refunded := summed_totals_refund several nonzero equal part
    rw [quantized_int _ (by rw [abs_of_nonneg (returned_total_nonneg totals)]; omega)] at refunded
    have planned : plannedUnits payment = _ := quantized_int _ (by rw [abs_of_nonneg charged]; omega)
    have capped := (within _ refunded).2 _ planned
    rw [div_le_div_iff_of_pos_right (by positivity)] at capped
    exact exceeds (by exact_mod_cast capped)
  · intro fits refund refunded
    exact ⟨refund_nonneg totals charged total refunded,fun units planned =>
      refund_capped fits totals charged refunded planned⟩
  · intro negative refund units refunded planned
    exact refund_capped (fun _ _ equal => by omega) totals charged refunded planned

-- Two items of 1.00 each, a discount of 1.50 on the order total, and the
-- remaining 0.50 charged: returning one item refunds 1.00.
def discountedOrder : Order :=
  ⟨"order",1,"customer",false,[⟨"first",1,⟨100,"USD",some 2⟩,[],none⟩,⟨"second",1,⟨100,"USD",some 2⟩,[],none⟩],
    ⟨50,"USD",some 2⟩,[],[]⟩
def discountedPayment : Payment :=
  ⟨"payment",1,some "intent",some "intent",⟨50,"USD",some 2⟩,none,none,[]⟩

theorem discounted_refund_exceeds_charge :
    (∀ item ∈ discountedOrder.lineItems, 0 ≤ item.totalPrice.centAmount) ∧
    (discountedOrder.lineItems.map (·.id)).Nodup ∧
    getLineItemPriceToRefund discountedOrder discountedPayment ["first"] = some 1 ∧
    plannedUnits discountedPayment = some (1/2) ∧
    ¬ RefundWithinCharge discountedOrder discountedPayment ["first"] := by
  have refund : getLineItemPriceToRefund discountedOrder discountedPayment ["first"] = some 1 := by decide +kernel
  have charge : plannedUnits discountedPayment = some (1/2) := by decide +kernel
  refine ⟨by decide,by decide,refund,charge,?_⟩
  intro within
  have := (within 1 refund).2 _ charge
  norm_num at this

theorem undiscounted_refund_within_charge :
    RefundWithinCharge {discountedOrder with totalPrice := ⟨200,"USD",some 2⟩}
      {discountedPayment with amountPlanned := ⟨200,"USD",some 2⟩} ["first"] :=
  ((refund_within_charge_iff _ _ _ (by decide) (by decide)).1 (by decide)).mpr
    fun _ _ _ _ => .inl (by decide)

end EdxUtils
