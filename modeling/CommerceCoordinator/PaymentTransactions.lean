import CommerceCoordinator.Platform
import CommerceCoordinator.SignificantDigits
import Mathlib.Data.List.Sort

open Commercetools SignificantDigits

-- What is read off the transactions of a payment, and how a refund reported by
-- a payment service provider becomes one.
namespace PaymentTransactions

def edxStripePaymentInterfaceName : String := "stripe_edx"
def edxPaypalPaymentInterfaceName : String := "paypal_edx"
def edxAndroidIapPaymentInterfaceName : String := "android_iap_edx"
def edxIosIapPaymentInterfaceName : String := "ios_iap_edx"
def paymentStatusInterfaceCodeSucceeded : String := "succeeded"

-- `created` is in seconds for Stripe, in milliseconds for the others.
structure Refund where
  id : String
  amount : ℚ
  currency : String
  created : Int
  status : String
  paymentIntent : Option String
  paypalCaptureId : Option String
  deriving DecidableEq

-- A Python float, away from overflow and subnormal results.
def float (q : ℚ) : ℚ := roundTo 2 53 q
def truncate (q : ℚ) : Int := if 0 ≤ q then ⌊q⌋ else ⌈q⌉

def centsToDollars (amount : CentPrecisionMoney) : ℚ :=
  float (amount.centAmount / 10^(amount.fractionDigits.getD 2))

def hasFullRefundTransaction (payment : Payment) : Bool :=
  let (chargeAmount,refundedAmount) := payment.transactions.foldl (fun (chargeAmount,refundedAmount) transaction =>
    (if transaction.type = .charge then float (chargeAmount+centsToDollars transaction.amount) else chargeAmount,
      if transaction.type = .refund then float (refundedAmount+centsToDollars transaction.amount) else refundedAmount))
    ((0 : ℚ),(0 : ℚ))
  refundedAmount = chargeAmount

def isRefund (pspRefundTransactionId : Option String) (transaction : Transaction) : Bool :=
  transaction.type = .refund ∧ transaction.interactionId = pspRefundTransactionId

def isTransactionAlreadyRefunded (payment : Payment) (pspRefundTransactionId : Option String) : Bool :=
  payment.transactions.any (isRefund pspRefundTransactionId)

def findRefundTransaction (payment : Payment) (pspRefundTransactionId : Option String) : String :=
  ((payment.transactions.find? (isRefund pspRefundTransactionId)).map (·.id)).getD ""

def findLatestRefund (payment : Payment) : String :=
  let sortedTransactions := payment.transactions.insertionSort fun a b => b.timestamp ≤ a.timestamp
  ((sortedTransactions.find? (·.type = .refund)).map (·.id)).getD ""

def translateRefundStatusToTransactionStatus (refundStatus : String) : TransactionState :=
  match refundStatus.toLower with
  | "succeeded" => .success
  | "completed" => .success
  | "pending" => .pending
  | "failed" => .failure
  | "canceled" => .failure
  | _ => .success

structure ProcessedRefund where
  id : String
  created : Int
  amount : Int
  currency : String
  status : TransactionState
  deriving DecidableEq

def preprocessRefundObject (refund : Refund) (psp : String) : ProcessedRefund :=
  let (amount,created) :=
    if psp = edxPaypalPaymentInterfaceName then (float (float refund.amount * 100),refund.created)
    else if psp = edxAndroidIapPaymentInterfaceName ∨ psp = edxIosIapPaymentInterfaceName then
      (refund.amount,refund.created)
    else (refund.amount,refund.created*1000)
  ⟨refund.id,created,truncate amount,refund.currency.toUpper,
    translateRefundStatusToTransactionStatus refund.status⟩

structure TransactionDraft where
  type : TransactionType
  centAmount : Int
  currencyCode : String
  timestamp : Int
  state : TransactionState
  interactionId : String
  deriving DecidableEq

def refundTransactionDraft (refund : Refund) (psp : String) : TransactionDraft :=
  let processedRefund := preprocessRefundObject refund psp
  ⟨.refund,processedRefund.amount,processedRefund.currency,processedRefund.created,processedRefund.status,
    processedRefund.id⟩

-- Commercetools numbers the transaction and gives it the payment's precision.
def addTransaction (payment : Payment) (draft : TransactionDraft) : Payment :=
  {payment with
    version := payment.version+1
    transactions := payment.transactions++[⟨payment.id++"/"++toString payment.transactions.length,draft.timestamp,
      draft.type,⟨draft.centAmount,draft.currencyCode,payment.amountPlanned.fractionDigits⟩,
      some draft.interactionId,draft.state,none⟩]}

def UniqueRefunds (payment : Payment) : Prop :=
  payment.transactions.Pairwise fun a b =>
    a.type = .refund → b.type = .refund → a.interactionId ≠ b.interactionId

instance : Decidable (UniqueRefunds payment) := inferInstanceAs (Decidable (List.Pairwise _ _))

theorem add_unique (unique : UniqueRefunds payment)
    (unrecorded : isTransactionAlreadyRefunded payment (some draft.interactionId) = false) :
    UniqueRefunds (addTransaction payment draft) := by
  refine List.pairwise_append.mpr ⟨unique,List.pairwise_singleton _ _,?_⟩
  intro a earlier b added refundA _
  cases List.mem_singleton.mp added
  intro same
  have absent := List.any_eq_false.mp unrecorded a earlier
  exact absent (by simp [isRefund,refundA,same])

end PaymentTransactions
