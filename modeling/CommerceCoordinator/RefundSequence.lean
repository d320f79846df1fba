import CommerceCoordinator.CallTree
import CommerceCoordinator.OrderReturn
import CommerceCoordinator.RefundAmount
import Mathlib.Algebra.BigOperators.Ring.Finset

open Commercetools CallTree SignificantDigits EdxUtils OrderReturn Rollout

-- Returns of one order, one after the other, each refunded by an amount that is
-- computed without looking at the earlier ones.
namespace RefundSequence

structure State where
  order : Order
  paid : ℚ
  deriving DecidableEq

def openReturns (returnLineItems : Dict String) : List ReturnItem :=
  returnLineItems.map fun (lineItemId,returnId) => ⟨returnId,lineItemId,.initial,none,none⟩

-- The return is created in payment state INITIAL, the amount is computed for
-- its ids not yet refunded, and then all its items become REFUNDED. An amount
-- the decimal context refuses leaves the return open and refunds nothing.
def refundReturn (payment : Payment) (s : State) (returnLineItems : Dict String) : Option State :=
  let returned := addReturnInfo s.order (openReturns returnLineItems)
  match getLineItemPriceToRefund returned payment (filterReturnItems returned returnLineItems).1 with
  | none => some {s with order := returned}
  | some refund => some ⟨setReturnPaymentStates returned returnLineItems.values .refunded,s.paid+refund⟩

-- The exact share is not rounded up to the next minor unit. The margin covers
-- the roundings of the decimal context, at most three and one for each item.
def NotRoundedUp (order : Order) (payment : Payment) (ids : List String) : Prop :=
  let share : ℚ := payment.amountPlanned.centAmount * returnedTotal order ids / order.totalPrice.centAmount
  share * (1+5/10^28)^((returnedItems order ids).length+3) < ⌊share⌋ + 1/2

def SharesExactly (payment : Payment) (order : Order) (ids : List String) : Prop :=
  payment.amountPlanned.centAmount = order.totalPrice.centAmount ∨
    returnedItems order ids = order.lineItems ∨ NotRoundedUp order payment ids

def SharesFairly (payment : Payment) (s : State) (returnLineItems : Dict String) : Prop :=
  SharesExactly payment s.order (returnLineItems.keys.filter (¬ Refunded s.order ·))

def refundedTotal (order : Order) : Int :=
  ((order.lineItems.filter (Refunded order ·.id)).map (·.totalPrice.centAmount)).sum

section Amount
variable {order : Order} {payment : Payment} {ids : List String}

theorem context_le (nonneg : 0 ≤ q) : roundTo 10 28 q ≤ q * (1+5/10^28) := by
  have bound := roundTo_le (b := 10) (p := 28) (by norm_num) nonneg
  norm_num at bound ⊢
  exact bound

theorem allocated_le (totals : ∀ item ∈ order.lineItems, 0 ≤ item.totalPrice.centAmount)
    (planned : 0 ≤ amountPlannedCents) (total : 0 ≤ orderTotalCents) :
    allocateByShare order.lineItems ids amountPlannedCents orderTotalCents ≤
      (amountPlannedCents * returnedTotal order ids / orderTotalCents : ℚ) *
        (1+5/10^28)^((returnedItems order ids).length+2) := by
  have unit : halfUnit = 5/10^28 := by norm_num [halfUnit]
  rw [mul_comm (amountPlannedCents : ℚ),add_comm _ 2,← unit]
  exact (allocated_bounds totals planned total).2

theorem quantized_le {cents : ℚ} {n : ℤ} (nonneg : 0 ≤ cents) (below : cents * (1+5/10^28) < n + 1/2)
    (quantized : getQuantizedAmount cents digits = some units) : units ≤ n / 10^digits := by
  unfold getQuantizedAmount Decimal.quantizeHalfUp at quantized
  dsimp only at quantized
  split at quantized
  · cases Option.some.inj quantized
    have scaleNonneg : (0 : ℚ) ≤ cents / 10^digits := by positivity
    have quotient : Decimal.div cents (10^digits) * 10^digits ≤ cents * (1+5/10^28) := by
      calc Decimal.div cents (10^digits) * 10^digits
          ≤ cents / 10^digits * (1+5/10^28) * 10^digits := by gcongr; exact context_le scaleNonneg
        _ = cents * (1+5/10^28) := by field_simp
    have floor := roundHalfUp_le (mul_nonneg (roundTo_nonneg (by norm_num) scaleNonneg) (by positivity))
      (quotient.trans_lt below)
    gcongr
    exact_mod_cast floor
  · cases quantized

theorem total_nonneg (totals : ∀ item ∈ order.lineItems, 0 ≤ item.totalPrice.centAmount)
    (summed : (order.lineItems.map (·.totalPrice.centAmount)).sum = order.totalPrice.centAmount) :
    0 ≤ order.totalPrice.centAmount := by
  rw [← summed]
  apply List.sum_nonneg
  intro price member
  obtain ⟨item,listed,rfl⟩ := List.mem_map.mp member
  exact totals item listed

theorem refund_le_share (totals : ∀ item ∈ order.lineItems, 0 ≤ item.totalPrice.centAmount)
    (summed : (order.lineItems.map (·.totalPrice.centAmount)).sum = order.totalPrice.centAmount)
    (charged : 0 ≤ payment.amountPlanned.centAmount) (exactly : SharesExactly payment order ids)
    (refunded : getLineItemPriceToRefund order payment ids = some refund) :
    refund ≤ (payment.amountPlanned.centAmount * returnedTotal order ids / order.totalPrice.centAmount : ℚ) /
      10^(payment.amountPlanned.fractionDigits.getD 2) := by
  have charge : (0 : ℚ) ≤ payment.amountPlanned.centAmount := by exact_mod_cast charged
  have part : (0 : ℚ) ≤ returnedTotal order ids := by exact_mod_cast returned_total_nonneg totals
  have sumNonneg := total_nonneg totals summed
  have whole : (0 : ℚ) ≤ order.totalPrice.centAmount := by exact_mod_cast sumNonneg
  -- A return of every item is due the whole charge.
  have all (selected : returnedItems order ids = order.lineItems) (total : order.totalPrice.centAmount ≠ 0) :
      (payment.amountPlanned.centAmount * returnedTotal order ids / order.totalPrice.centAmount : ℚ) =
        payment.amountPlanned.centAmount := by
    rw [returnedTotal,selected,summed,mul_div_assoc,div_self (by exact_mod_cast total),mul_one]
  cases price_branch refunded with
  | nothing zero =>
    rw [zero]
    positivity
  | charge total selected wholeCharge => rw [all selected total,quantized_value charged wholeCharge]
  | totals several nonzero part equal summedTotals =>
    rw [quantized_value (returned_total_nonneg totals) summedTotals,equal,mul_div_assoc,
      mul_div_cancel₀ _ (by exact_mod_cast equal ▸ nonzero)]
  | shares units planned total differ allocated cap least =>
    rcases exactly with equal | selected | below
    · exact absurd equal differ
    · rw [all selected total,← quantized_value charged cap,least]
      exact min_le_right ..
    · rw [least]
      refine (min_le_left ..).trans ?_
      have margin : allocateByShare order.lineItems ids payment.amountPlanned.centAmount order.totalPrice.centAmount *
          (1+5/10^28) ≤
          (payment.amountPlanned.centAmount * returnedTotal order ids / order.totalPrice.centAmount : ℚ) *
            (1+5/10^28)^((returnedItems order ids).length+3) := by
        rw [pow_succ (1+5/10^28 : ℚ) ((returnedItems order ids).length+2),← mul_assoc]
        exact mul_le_mul_of_nonneg_right (allocated_le totals charged sumNonneg) (by norm_num)
      refine (quantized_le (allocated_nonneg totals charged sumNonneg) (margin.trans_lt below) allocated).trans ?_
      gcongr
      exact Int.floor_le _

end Amount

theorem disjoint_selections (items : List LineItem) (nonneg : ∀ item ∈ items, 0 ≤ item.totalPrice.centAmount)
    {p q r : LineItem → Bool} (left : ∀ item ∈ items, p item → r item) (right : ∀ item ∈ items, q item → r item)
    (disjoint : ∀ item ∈ items, p item → ¬ q item) :
    ((items.filter p).map (·.totalPrice.centAmount)).sum + ((items.filter q).map (·.totalPrice.centAmount)).sum ≤
      ((items.filter r).map (·.totalPrice.centAmount)).sum := by
  induction items with
  | nil => simp
  | cons item rest ih =>
    have tail := ih (fun _ m => nonneg _ (List.mem_cons_of_mem _ m)) (fun _ m => left _ (List.mem_cons_of_mem _ m))
      (fun _ m => right _ (List.mem_cons_of_mem _ m)) (fun _ m => disjoint _ (List.mem_cons_of_mem _ m))
    have price := nonneg item (List.mem_cons_self ..)
    have inLeft := left item (List.mem_cons_self ..)
    have inRight := right item (List.mem_cons_self ..)
    have apart := disjoint item (List.mem_cons_self ..)
    cases hp : p item <;> cases hq : q item <;> cases hr : r item <;>
      simp_all <;> omega

section Step
variable {order : Order}

theorem open_returns_initial (returnLineItems : Dict String) :
    ∀ item ∈ openReturns returnLineItems, item.paymentState ≠ .refunded := by
  intro item member
  obtain ⟨entry,_,rfl⟩ := List.mem_map.mp member
  simp

theorem refunded_total_added (order : Order) (returnLineItems : Dict String) :
    refundedTotal (addReturnInfo order (openReturns returnLineItems)) = refundedTotal order := by
  simp only [refundedTotal,refunded_added (open_returns_initial returnLineItems)]
  rfl

theorem filtered_added (order : Order) (returnLineItems : Dict String) :
    (filterReturnItems (addReturnInfo order (openReturns returnLineItems)) returnLineItems).1 =
      returnLineItems.keys.filter (¬ Refunded order ·) := by
  simp only [filtered_line_items,refunded_added (open_returns_initial returnLineItems)]

theorem has_open_return (listed : lineItemId ∈ returnLineItems.keys) :
    ∃ returnId ∈ returnLineItems.values,
      HasReturn (addReturnInfo order (openReturns returnLineItems)) returnId lineItemId := by
  obtain ⟨entry,member,rfl⟩ := List.mem_map.mp listed
  refine ⟨entry.2,List.mem_map_of_mem member,⟨entry.2,entry.1,.initial,none,none⟩,?_,rfl,rfl⟩
  rw [return_items_added]
  exact List.mem_append_right _ (List.mem_map_of_mem member)

theorem refunded_total_grows (totals : ∀ item ∈ order.lineItems, 0 ≤ item.totalPrice.centAmount)
    (returnLineItems : Dict String) :
    refundedTotal order + returnedTotal order (returnLineItems.keys.filter (¬ Refunded order ·)) ≤
      refundedTotal (setReturnPaymentStates (addReturnInfo order (openReturns returnLineItems))
        returnLineItems.values .refunded) := by
  rw [refundedTotal,returnedTotal,returnedItems,refundedTotal,(all_set_frame _ _ _).1]
  refine disjoint_selections order.lineItems totals ?_ ?_ ?_
  · intro item _ refunded
    apply decide_eq_true
    refine all_refunded_kept ?_ _
    exact (refunded_added (open_returns_initial returnLineItems)).mpr (of_decide_eq_true refunded)
  · intro item _ selected
    have listed := (List.mem_filter.mp (of_decide_eq_true selected)).1
    obtain ⟨returnId,named,present⟩ := has_open_return listed
    exact decide_eq_true (all_refunded_set present named)
  · intro item _ refunded selected
    have pending := (List.mem_filter.mp (of_decide_eq_true selected)).2
    exact absurd (of_decide_eq_true refunded) (of_decide_eq_true pending)

end Step

def Sharing (payment : Payment) (origin : Order) (s : State) : Prop :=
  s.order.lineItems = origin.lineItems ∧ s.order.totalPrice = origin.totalPrice ∧
    s.paid ≤ (payment.amountPlanned.centAmount * refundedTotal s.order / origin.totalPrice.centAmount : ℚ) /
      10^(payment.amountPlanned.fractionDigits.getD 2)

section Runs
variable {payment : Payment} {origin : Order}

theorem refund_preserves (totals : ∀ item ∈ origin.lineItems, 0 ≤ item.totalPrice.centAmount)
    (summed : (origin.lineItems.map (·.totalPrice.centAmount)).sum = origin.totalPrice.centAmount)
    (charged : 0 ≤ payment.amountPlanned.centAmount) (sharing : Sharing payment origin s)
    (fair : SharesFairly payment s returnLineItems)
    (ran : refundReturn payment s returnLineItems = some next) : Sharing payment origin next := by
  obtain ⟨items,total,paid⟩ := sharing
  have charge : (0 : ℚ) ≤ payment.amountPlanned.centAmount := by exact_mod_cast charged
  have whole : (0 : ℚ) ≤ origin.totalPrice.centAmount := by exact_mod_cast total_nonneg totals summed
  rw [← items] at totals summed
  rw [← total] at summed
  unfold refundReturn at ran
  dsimp only at ran
  rw [filtered_added] at ran
  split at ran
  · cases Option.some.inj ran
    refine ⟨items,total,?_⟩
    rw [refunded_total_added]
    exact paid
  · rename_i refund refunded
    cases Option.some.inj ran
    obtain ⟨sameItems,sameTotal⟩ := all_set_frame
      (addReturnInfo s.order (openReturns returnLineItems)) returnLineItems.values .refunded
    refine ⟨sameItems.trans items,sameTotal.trans total,?_⟩
    have grows := refunded_total_grows totals returnLineItems
    have share : refund ≤ _ := refund_le_share totals summed charged fair refunded
    rw [total] at share
    have cast : (refundedTotal s.order : ℚ) +
        returnedTotal s.order (returnLineItems.keys.filter (¬ Refunded s.order ·)) ≤
        refundedTotal (setReturnPaymentStates (addReturnInfo s.order (openReturns returnLineItems))
          returnLineItems.values .refunded) := by exact_mod_cast grows
    calc s.paid + refund
        ≤ _ + _ := add_le_add paid share
      _ = (payment.amountPlanned.centAmount * (refundedTotal s.order +
            returnedTotal s.order (returnLineItems.keys.filter (¬ Refunded s.order ·))) /
              origin.totalPrice.centAmount : ℚ) / 10^(payment.amountPlanned.fractionDigits.getD 2) := by ring
      _ ≤ _ := by gcongr

theorem refunded_total_le (totals : ∀ item ∈ origin.lineItems, 0 ≤ item.totalPrice.centAmount) :
    refundedTotal origin ≤ (origin.lineItems.map (·.totalPrice.centAmount)).sum := by
  apply List.Sublist.sum_le_sum (List.filter_sublist.map _)
  intro price member
  obtain ⟨item,listed,rfl⟩ := List.mem_map.mp member
  exact totals item listed

-- However the items are spread over returns, as long as no share is rounded up.
theorem refunds_within_charge (payment : Payment) (origin : Order)
    (totals : ∀ item ∈ origin.lineItems, 0 ≤ item.totalPrice.centAmount)
    (summed : (origin.lineItems.map (·.totalPrice.centAmount)).sum = origin.totalPrice.centAmount)
    (charged : 0 ≤ payment.amountPlanned.centAmount)
    (path : RunsWhen (refundReturn payment) (SharesFairly payment) ⟨origin,0⟩ returns s) :
    s.paid ≤ (payment.amountPlanned.centAmount : ℚ) / 10^(payment.amountPlanned.fractionDigits.getD 2) := by
  have charge : (0 : ℚ) ≤ payment.amountPlanned.centAmount := by exact_mod_cast charged
  have whole : (0 : ℚ) ≤ origin.totalPrice.centAmount := by exact_mod_cast total_nonneg totals summed
  have begun : Sharing payment origin ⟨origin,0⟩ := by
    have selected : 0 ≤ refundedTotal origin := by
      apply List.sum_nonneg
      intro price member
      obtain ⟨item,listed,rfl⟩ := List.mem_map.mp member
      exact totals item (List.mem_filter.mp listed).1
    have selectedCast : (0 : ℚ) ≤ refundedTotal origin := by exact_mod_cast selected
    exact ⟨rfl,rfl,by positivity⟩
  obtain ⟨items,total,paid⟩ := path.preserves (Sharing payment origin) begun
    fun _ _ _ sharing fair ran => refund_preserves totals summed charged sharing fair ran
  have bound : refundedTotal s.order ≤ origin.totalPrice.centAmount := by
    rw [← summed,← items]
    exact refunded_total_le (items ▸ totals)
  have cast : (refundedTotal s.order : ℚ) ≤ origin.totalPrice.centAmount := by exact_mod_cast bound
  apply paid.trans
  gcongr
  rw [mul_div_assoc]
  exact mul_le_of_le_one_right charge (div_le_one_of_le₀ cast whole)

end Runs

def twoItems (price total : Int) : Order :=
  ⟨"order",1,"customer",false,[⟨"first",1,⟨price,"USD",some 2⟩,[],none⟩,⟨"second",1,⟨price,"USD",some 2⟩,[],none⟩],
    ⟨total,"USD",some 2⟩,[],[]⟩
def charge (cents : Int) : Payment :=
  ⟨"payment",1,some "intent",some "intent",⟨cents,"USD",some 2⟩,none,none,[]⟩

-- Two items of 0.01 and a charge of 0.01: each return alone is rounded up from
-- half a cent and stays within the cap, and together they refund 0.02.
theorem split_cent_refunded_twice :
    ((twoItems 1 2).lineItems.map (·.totalPrice.centAmount)).sum = (twoItems 1 2).totalPrice.centAmount ∧
    ∃ s, run (refundReturn (charge 1)) ⟨twoItems 1 2,0⟩ [[("first","return 1")],[("second","return 2")]] = some s ∧
      s.paid = 2/100 ∧ (charge 1).amountPlanned.centAmount / 10^2 < s.paid := by
  refine ⟨by decide,
    ⟨{twoItems 1 2 with returnInfo := [[⟨"return 1","first",.refunded,none,none⟩],[⟨"return 2","second",.refunded,none,none⟩]]},2/100⟩,
    by decide +kernel,rfl,by decide +kernel⟩

theorem even_shares_within_charge :
    ∃ s, run (refundReturn (charge 100)) ⟨twoItems 100 200,0⟩ [[("first","return 1")],[("second","return 2")]] = some s ∧
      s.paid = 1 ∧ s.paid ≤ ((charge 100).amountPlanned.centAmount : ℚ) / 10^2 := by
  have first : refundReturn (charge 100) ⟨twoItems 100 200,0⟩ [("first","return 1")] =
      some ⟨{twoItems 100 200 with returnInfo := [[⟨"return 1","first",.refunded,none,none⟩]]},1/2⟩ := by decide +kernel
  have second : refundReturn (charge 100)
      ⟨{twoItems 100 200 with returnInfo := [[⟨"return 1","first",.refunded,none,none⟩]]},1/2⟩ [("second","return 2")] =
      some ⟨{twoItems 100 200 with returnInfo := [[⟨"return 1","first",.refunded,none,none⟩],
        [⟨"return 2","second",.refunded,none,none⟩]]},1/2+1/2⟩ := by decide +kernel
  have path : RunsWhen (refundReturn (charge 100)) (SharesFairly (charge 100)) ⟨twoItems 100 200,0⟩ _ _ :=
    (RunsWhen.nil.snoc (.inr (.inr (by unfold NotRoundedUp; decide +kernel))) first).snoc
      (.inr (.inr (by unfold NotRoundedUp; decide +kernel))) second
  exact ⟨_,path.sound,by norm_num,
    refunds_within_charge (charge 100) (twoItems 100 200) (by decide) (by decide) (by decide) path⟩

end RefundSequence
