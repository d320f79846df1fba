import CommerceCoordinator.RefundPipeline
import Mathlib.Data.List.Induction

open Commercetools PaymentTransactions EdxUtils RefundPipeline

-- Which transactions of a payment count: the decision whether it is refunded in full, the
-- charge that a refund is asked for, and the money that has moved.
namespace MovedMoney

-- The amounts and sums of has_full_refund_transaction with any rounding of each operation.
def dollars (rounding : ℚ → ℚ) (amount : CentPrecisionMoney) : ℚ :=
  rounding (amount.centAmount / 10^(amount.fractionDigits.getD 2))

def refundsEqualCharges (rounding : ℚ → ℚ) (payment : Payment) : Bool :=
  let (chargeAmount,refundedAmount) := payment.transactions.foldl (fun (chargeAmount,refundedAmount) transaction =>
    (if transaction.type = .charge then rounding (chargeAmount + dollars rounding transaction.amount) else chargeAmount,
      if transaction.type = .refund then rounding (refundedAmount + dollars rounding transaction.amount) else refundedAmount))
    ((0 : ℚ),(0 : ℚ))
  refundedAmount = chargeAmount

theorem code_rounds_to_float (payment : Payment) :
    hasFullRefundTransaction payment = refundsEqualCharges float payment := rfl

def hasFullRefund (payment : Payment) : Bool := refundsEqualCharges (fun q => q) payment

def total (type : TransactionType) (transactions : List Transaction) : ℚ :=
  ((transactions.filter (·.type = type)).map fun transaction => dollars (fun q => q) transaction.amount).sum

theorem full_refund_iff (payment : Payment) : hasFullRefund payment = true ↔
    total .refund payment.transactions = total .charge payment.transactions := by
  have loop : ∀ (transactions : List Transaction) (charged refunded : ℚ),
      transactions.foldl (fun (chargeAmount,refundedAmount) transaction =>
        (if transaction.type = .charge then chargeAmount + dollars (fun q => q) transaction.amount else chargeAmount,
          if transaction.type = .refund then refundedAmount + dollars (fun q => q) transaction.amount else refundedAmount))
        (charged,refunded) = (charged + total .charge transactions,refunded + total .refund transactions) := by
    intro transactions
    induction transactions with
    | nil => simp [total]
    | cons transaction rest ih =>
      intro charged refunded
      rw [List.foldl_cons,ih]
      cases type : transaction.type <;> simp [total,type,add_assoc]
  rw [hasFullRefund,refundsEqualCharges,loop]
  simp

def failed (payment : Payment) : List Transaction := payment.transactions.filter (·.state = .failure)

def withoutFailures (payment : Payment) : Payment :=
  {payment with transactions := payment.transactions.filter (·.state ≠ .failure)}

theorem total_without_failures (type : TransactionType) (payment : Payment) : total type payment.transactions =
    total type (withoutFailures payment).transactions + total type (failed payment) := by
  have split := List.sum_map_filter_add_sum_map_filter_not (fun transaction : Transaction => transaction.state = .failure)
    (fun transaction => dollars (fun q => q) transaction.amount) (payment.transactions.filter (·.type = type))
  rw [List.filter_comm,List.filter_comm (fun transaction : Transaction => ¬transaction.state = .failure)] at split
  rw [total,← split,add_comm]
  rfl

theorem total_append (type : TransactionType) (earlier later : List Transaction) :
    total type (earlier ++ later) = total type earlier + total type later := by
  simp [total]

def lastCharge (payment : Payment) : Option Transaction := payment.transactions.reverse.find? (·.type = .charge)

theorem refund_info (payment : Payment) (order : Order) (returnLineItemIds : List String) :
    getEdxRefundInfo payment order returnLineItemIds =
      (getLineItemPriceToRefund order payment returnLineItemIds).map fun refundAmount =>
        (refundAmount,(lastCharge payment).bind (·.interactionId)) := by
  have loop : payment.transactions.foldl (fun interactionId transaction =>
      if transaction.type = .charge then transaction.interactionId else interactionId) none =
        (lastCharge payment).bind (·.interactionId) := by
    unfold lastCharge
    induction payment.transactions using List.reverseRecOn with
    | nil => rfl
    | append_singleton earlier last ih =>
      rw [List.foldl_append,List.foldl_cons,List.foldl_nil,ih,List.reverse_append,List.reverse_singleton,
        List.singleton_append,List.find?_cons]
      by_cases charge : last.type = .charge <;> simp [charge]
  rw [getEdxRefundInfo,loop]
  cases getLineItemPriceToRefund order payment returnLineItemIds <;> rfl

-- The decision and the charge to refund do not depend on the FAILURE transactions, and a
-- full refund stays one whatever refunds are added.
structure OnlyMovedMoneyCounts (payment : Payment) (further : List Transaction) : Prop where
  decision : hasFullRefund (withoutFailures payment) = hasFullRefund payment
  charge : ∀ order returnLineItemIds, (getEdxRefundInfo (withoutFailures payment) order returnLineItemIds).map (·.2) =
    (getEdxRefundInfo payment order returnLineItemIds).map (·.2)
  stays : hasFullRefund payment = true →
    hasFullRefund {payment with transactions := payment.transactions ++ further} = true

def FailuresBalance (payment : Payment) : Prop :=
  let moved := (withoutFailures payment).transactions
  total .refund (failed payment) = total .charge (failed payment) ∨
    total .refund moved - total .charge moved ≠ 0 ∧
      total .refund moved - total .charge moved ≠ total .charge (failed payment) - total .refund (failed payment)

def LastChargeMoved (payment : Payment) : Prop :=
  ∀ charge ∈ lastCharge payment, charge.state = .failure →
    charge.interactionId = (lastCharge (withoutFailures payment)).bind (·.interactionId)

theorem decision_iff (payment : Payment) :
    hasFullRefund (withoutFailures payment) = hasFullRefund payment ↔ FailuresBalance payment := by
  rw [Bool.eq_iff_iff,full_refund_iff,full_refund_iff,total_without_failures .refund payment,
    total_without_failures .charge payment]
  unfold FailuresBalance
  dsimp only
  generalize total .refund (withoutFailures payment).transactions = refunded
  generalize total .charge (withoutFailures payment).transactions = charged
  generalize total .refund (failed payment) = failedRefunds
  generalize total .charge (failed payment) = failedCharges
  constructor
  · intro same
    by_cases equal : failedRefunds = failedCharges
    · exact .inl equal
    · refine .inr ⟨fun settled => equal ?_,fun made => equal ?_⟩
      · have both := same.mp (by linarith)
        linarith
      · have both := same.mpr (by linarith)
        linarith
  · rintro (equal | ⟨differ,unmade⟩)
    · rw [equal,add_left_inj]
    · constructor
      · intro settled
        exact absurd (sub_eq_zero.mpr settled) differ
      · intro settled
        exact absurd (by linarith) unmade

theorem find_kept {α : Type} (keep sought : α → Bool) (list : List α) {item : α} (found : list.find? sought = some item)
    (kept : keep item = true) : (list.filter keep).find? sought = some item := by
  obtain ⟨meets,before,after,rfl,others⟩ := List.find?_eq_some_iff_append.mp found
  rw [List.filter_append,List.filter_cons_of_pos kept]
  refine List.find?_eq_some_iff_append.mpr ⟨meets,before.filter keep,after.filter keep,rfl,fun other member => ?_⟩
  exact others other (List.mem_filter.mp member).1

theorem last_charge_unchanged (payment : Payment) :
    (lastCharge (withoutFailures payment)).bind (·.interactionId) = (lastCharge payment).bind (·.interactionId) ↔
      LastChargeMoved payment := by
  have filtered : lastCharge (withoutFailures payment) =
      (payment.transactions.reverse.filter (·.state ≠ .failure)).find? (·.type = .charge) := by
    rw [lastCharge,withoutFailures,List.filter_reverse]
  unfold LastChargeMoved
  cases last : lastCharge payment with
  | none =>
    have none : lastCharge (withoutFailures payment) = none := by
      rw [filtered,List.find?_eq_none]
      intro transaction member
      exact List.find?_eq_none.mp last transaction (List.mem_filter.mp member).1
    simp [none]
  | some charge =>
    by_cases declined : charge.state = .failure
    · simp [declined,eq_comm]
    · have kept : lastCharge (withoutFailures payment) = some charge := by
        rw [filtered]
        exact find_kept _ _ _ last (by simpa using declined)
      simp [kept]

def emptyOrder : Order := ⟨"order",1,"customer",false,[],⟨0,"USD",some 2⟩,[],[]⟩

theorem charge_iff (payment : Payment) : (∀ order returnLineItemIds,
      (getEdxRefundInfo (withoutFailures payment) order returnLineItemIds).map (·.2) =
        (getEdxRefundInfo payment order returnLineItemIds).map (·.2)) ↔ LastChargeMoved payment := by
  have price (order : Order) (ids : List String) :
      getLineItemPriceToRefund order (withoutFailures payment) ids = getLineItemPriceToRefund order payment ids := rfl
  simp only [refund_info,price,Option.map_map,Function.comp_def]
  rw [← last_charge_unchanged]
  constructor
  · intro same
    have nothing : getLineItemPriceToRefund emptyOrder payment [] = some 0 := by
      simp [getLineItemPriceToRefund,emptyOrder,quantized_zero]
    simpa [nothing] using same emptyOrder []
  · intro same order ids
    rw [same]

theorem stays_iff (payment : Payment) (further : List Transaction)
    (refunds : ∀ transaction ∈ further, transaction.type = .refund ∧ transaction.state = .success) :
    (hasFullRefund payment = true → hasFullRefund {payment with transactions := payment.transactions ++ further} = true) ↔
      (total .refund payment.transactions ≠ total .charge payment.transactions ∨ total .refund further = 0) := by
  have charges : total .charge further = 0 := by
    have none : further.filter (·.type = .charge) = [] := by
      rw [List.filter_eq_nil_iff]
      intro transaction member
      simp [(refunds transaction member).1]
    simp [total,none]
  rw [full_refund_iff {payment with transactions := payment.transactions ++ further},total_append,total_append,charges,
    add_zero,full_refund_iff]
  constructor
  · intro stays
    by_cases full : total .refund payment.transactions = total .charge payment.transactions
    · exact .inr (by linarith [stays full])
    · exact .inl full
  · rintro (part | nothing) full
    · exact absurd full part
    · linarith

theorem moved_money_iff (payment : Payment) (further : List Transaction)
    (refunds : ∀ transaction ∈ further, transaction.type = .refund ∧ transaction.state = .success) :
    OnlyMovedMoneyCounts payment further ↔ FailuresBalance payment ∧ LastChargeMoved payment ∧
      (total .refund payment.transactions ≠ total .charge payment.transactions ∨ total .refund further = 0) := by
  rw [← decision_iff,← charge_iff,← stays_iff payment further refunds]
  exact ⟨fun counts => ⟨counts.decision,counts.charge,counts.stays⟩,fun ⟨decision,charge,stays⟩ => ⟨decision,charge,stays⟩⟩

def transactionOf (type : TransactionType) (state : TransactionState) (cents : Int) (interactionId : String) : Transaction :=
  ⟨interactionId,0,type,⟨cents,"USD",some 2⟩,some interactionId,state,none⟩

def paymentWith (transactions : List Transaction) : Payment :=
  ⟨"payment",1,none,some "intent",⟨4900,"USD",some 2⟩,some "stripe_edx",none,transactions⟩

def settledCharge : Transaction := transactionOf .charge .success 4900 "charge"

theorem settled_charge_counts : OnlyMovedMoneyCounts (paymentWith [settledCharge]) [transactionOf .refund .success 4900 "refund"] :=
  (moved_money_iff (paymentWith [settledCharge]) [transactionOf .refund .success 4900 "refund"] (by decide)).mpr
    ⟨.inl (by decide +kernel),by unfold LastChargeMoved; decide +kernel,by decide +kernel⟩

theorem failures_count :
    ¬ OnlyMovedMoneyCounts (paymentWith [settledCharge,transactionOf .refund .failure 4900 "refund"]) [] ∧
    ¬ OnlyMovedMoneyCounts (paymentWith [settledCharge,transactionOf .charge .failure 4900 "declined"]) [] ∧
    ¬ OnlyMovedMoneyCounts (paymentWith [settledCharge,transactionOf .refund .success 4900 "refund"])
      [transactionOf .refund .success 100 "again"] := by
  refine ⟨fun counts => ?_,fun counts => ?_,fun counts => ?_⟩
  · have decision := counts.decision
    revert decision
    decide +kernel
  · have charge := counts.charge emptyOrder []
    revert charge
    decide +kernel
  · have stays := counts.stays (by decide +kernel)
    revert stays
    decide +kernel

end MovedMoney
