import CommerceCoordinator.RefundPipeline
import Mathlib.Tactic.Linarith
import Mathlib.Tactic.Positivity

open Commercetools CallTree SignificantDigits PaymentTransactions EdxUtils CommercetoolsClient RefundPipeline

-- The same money in the payment's minor units, in the provider's request and in
-- the recorded transaction.
namespace RefundCurrency

section Truncation
variable {q v x : ℚ} {n : ℤ} {f : ℕ}

theorem truncate_int (n : ℤ) : truncate n = n := by
  unfold truncate
  split <;> simp

theorem abs_truncate_le (q : ℚ) : |(truncate q : ℚ)| ≤ |q| := by
  unfold truncate
  split
  · rename_i nonneg
    have low : (0 : ℚ) ≤ ⌊q⌋ := by exact_mod_cast Int.floor_nonneg.mpr nonneg
    rw [abs_of_nonneg low,abs_of_nonneg nonneg]
    exact Int.floor_le q
  · rename_i negative
    have below : q ≤ 0 := (not_le.mp negative).le
    have high : ((⌈q⌉ : ℤ) : ℚ) ≤ 0 := by exact_mod_cast Int.ceil_nonpos.mpr below
    rw [abs_of_nonpos high,abs_of_nonpos below]
    exact neg_le_neg (Int.le_ceil q)

theorem abs_truncate_sub_lt (q : ℚ) : |(truncate q : ℚ) - q| < 1 := by
  unfold truncate
  split
  · have low := Int.floor_le q
    rw [abs_of_nonpos (by linarith)]
    linarith [Int.lt_floor_add_one q]
  · have high := Int.le_ceil q
    rw [abs_of_nonneg (by linarith)]
    linarith [Int.ceil_lt_add_one q]

-- What is as good as a hundredfold is the minor units of no currency that has not
-- exactly two fraction digits.
theorem hundredfold_scale (close : |x - v*100| ≤ |v| / 1000) (same : (truncate x : ℚ) = v*10^f) : v = 0 ∨ f = 2 := by
  by_contra neither
  obtain ⟨nonzero,other⟩ := not_or.mp neither
  have positive : 0 < |v| := abs_pos.mpr nonzero
  have hundredfold : |v*100| = |v| * 100 := by rw [abs_mul]; norm_num
  have scaled : |(truncate x : ℚ)| = |v| * 10^f := by rw [same,abs_mul,abs_of_pos (by positivity : (0 : ℚ) < 10^f)]
  have above : |x| ≤ |v| * 100+|v| / 1000 := by
    have := abs_sub_abs_le_abs_sub x (v*100)
    linarith
  have below : |v| * 100-|v| / 1000 ≤ |x| := by
    have := abs_sub_abs_le_abs_sub (v*100) x
    rw [abs_sub_comm] at this
    linarith
  rcases Nat.lt_or_gt_of_ne other with few | many
  · have scale : (10 : ℚ)^f ≤ 10 := by
      calc (10 : ℚ)^f ≤ 10^1 := by gcongr <;> [norm_num; omega]
        _ = 10 := by norm_num
    have whole : (1 : ℚ) ≤ |(truncate x : ℚ)| := by
      have nonzero' : truncate x ≠ 0 := by
        intro zero
        rw [zero] at scaled
        have : 0 < |v| * 10^f := by positivity
        simp at scaled
        tauto
      exact_mod_cast Int.one_le_abs nonzero'
    have near := abs_truncate_sub_lt x
    have less := abs_sub_abs_le_abs_sub x (truncate x)
    rw [abs_sub_comm] at less
    have most : |v| * 10^f ≤ |v| * 10 := by gcongr
    linarith
  · have scale : (1000 : ℚ) ≤ 10^f := by
      calc (1000 : ℚ) = 10^3 := by norm_num
        _ ≤ 10^f := by gcongr <;> [norm_num; omega]
    have least : |v| * 1000 ≤ |v| * 10^f := by gcongr
    have := abs_truncate_le x
    linarith

end Truncation
section Requests
variable {order : Order} {payment : Payment} {ids : List String} {units : ℚ} {digits : ℕ}

def fractionDigits (payment : Payment) : ℕ := payment.amountPlanned.fractionDigits.getD 2

theorem quantized_coefficient (quantized : getQuantizedAmount q digits = some units) :
    ∃ n : ℤ, |n| < 10^28 ∧ units = n/10^digits := by
  unfold getQuantizedAmount Decimal.quantizeHalfUp at quantized
  dsimp only at quantized
  split at quantized
  · rename_i fits
    exact ⟨_,fits,(Option.some.inj quantized).symm⟩
  · cases quantized

theorem refund_coefficient (computed : getLineItemPriceToRefund order payment ids = some units) :
    ∃ n : ℤ, |n| < 10^28 ∧ units = n/10^fractionDigits payment := by
  unfold getLineItemPriceToRefund at computed
  dsimp only at computed
  split at computed
  · exact quantized_coefficient computed
  · split at computed
    · split at computed
      · exact quantized_coefficient computed
      · split at computed
        · exact quantized_coefficient computed
        · obtain ⟨shares,first,rest⟩ := Option.bind_eq_some_iff.mp computed
          obtain ⟨planned,second,least⟩ := Option.bind_eq_some_iff.mp rest
          rcases min_choice shares planned with same | same
          · rw [← Option.some.inj least,same]
            exact quantized_coefficient first
          · rw [← Option.some.inj least,same]
            exact quantized_coefficient second
    · split at computed
      · split at computed
        · exact quantized_coefficient computed
        · exact quantized_coefficient computed
      · exact quantized_coefficient computed

theorem hundredfold_exact {n : ℤ} (small : |n| < 10^28) : Decimal.mul (n/10^digits) 100 = n/10^digits * 100 := by
  have scaled := roundTo_exact (b := 10) (p := 28) (by norm_num) n (2-(digits : ℤ)) (by exact_mod_cast small)
  have same : (n : ℚ) * ((10 : ℕ) : ℚ)^(2-(digits : ℤ)) = n/10^digits * 100 := by
    rw [zpow_sub₀ (by norm_num),zpow_natCast,Nat.cast_ofNat]
    norm_num
    ring
  rw [same] at scaled
  exact scaled

theorem stripe_asks_exactly (computed : getLineItemPriceToRefund order payment ids = some units)
    (paymentIntentId : String) (covers : List String) :
    (∃ cents : ℤ, (refundPaymentIntentAtStripe paymentIntentId units covers).firstCall =
        some (.stripeRefundCreate paymentIntentId cents covers) ∧ (cents : ℚ) = units*10^fractionDigits payment) ↔
      units = 0 ∨ fractionDigits payment = 2 := by
  obtain ⟨n,small,rfl⟩ := refund_coefficient computed
  have asked : (refundPaymentIntentAtStripe paymentIntentId (n/10^fractionDigits payment) covers).firstCall =
      some (.stripeRefundCreate paymentIntentId (truncate (n/10^fractionDigits payment * 100)) covers) := by
    rw [← hundredfold_exact small]
    rfl
  rw [asked]
  constructor
  · intro exactly
    obtain ⟨cents,sent,same⟩ := exactly
    cases sent
    exact hundredfold_scale (by rw [sub_self,abs_zero]; positivity) same
  · intro possible
    refine ⟨_,rfl,?_⟩
    rcases possible with zero | two
    · rw [zero]
      norm_num [truncate]
    · rw [two]
      have whole : (n : ℚ)/10^2 * 100 = n := by norm_num
      rw [whole,truncate_int]
      norm_num

theorem paypal_asks_exactly (payment : Payment) (captureId : String) (units : ℚ) (covers : List String) :
    (∃ value currencyCode, (refundOrder captureId units covers).firstCall =
        some (.refundCapturedPayment captureId value currencyCode covers) ∧ value = units ∧
        currencyCode = payment.amountPlanned.currencyCode) ↔ payment.amountPlanned.currencyCode = "USD" := by
  constructor
  · intro exactly
    obtain ⟨value,currencyCode,sent,_,same⟩ := exactly
    cases sent
    exact same.symm
  · intro dollars
    exact ⟨units,"USD",rfl,rfl,dollars.symm⟩

theorem asked_exactly (order : Order) (payment : Payment) (ids : List String) (paymentIntentId captureId : String)
    (covers : List String) (computed : getLineItemPriceToRefund order payment ids = some units) :
    ((∃ cents : ℤ, (refundPaymentIntentAtStripe paymentIntentId units covers).firstCall =
        some (.stripeRefundCreate paymentIntentId cents covers) ∧ (cents : ℚ) = units*10^fractionDigits payment) ↔
      units = 0 ∨ fractionDigits payment = 2) ∧
    ((∃ value currencyCode, (refundOrder captureId units covers).firstCall =
        some (.refundCapturedPayment captureId value currencyCode covers) ∧ value = units ∧
        currencyCode = payment.amountPlanned.currencyCode) ↔ payment.amountPlanned.currencyCode = "USD") :=
  ⟨stripe_asks_exactly computed paymentIntentId covers,paypal_asks_exactly payment captureId units covers⟩

def paid (currencyCode : String) (digits : ℕ) : Payment :=
  ⟨"payment",1,some "pi_1",some "pi_1",⟨4900,currencyCode,some digits⟩,some edxStripePaymentInterfaceName,
    some paymentStatusInterfaceCodeSucceeded,[]⟩

def course (currencyCode : String) (digits : ℕ) : Order :=
  ⟨"order",1,"customer",false,[⟨"line-item",1,⟨4900,currencyCode,some digits⟩,[],none⟩],⟨4900,currencyCode,some digits⟩,
    [],[paid currencyCode digits]⟩

theorem dollars_asked_exactly :
    (∃ cents : ℤ, (refundPaymentIntentAtStripe "pi_1" 49 ["line-item"]).firstCall =
      some (.stripeRefundCreate "pi_1" cents ["line-item"]) ∧ (cents : ℚ) = 49*10^fractionDigits (paid "USD" 2)) ∧
    ∃ value currencyCode, (refundOrder "capture" 49 ["line-item"]).firstCall =
      some (.refundCapturedPayment "capture" value currencyCode ["line-item"]) ∧ value = 49 ∧ currencyCode = "USD" := by
  have computed : getLineItemPriceToRefund (course "USD" 2) (paid "USD" 2) ["line-item"] = some 49 := by decide +kernel
  obtain ⟨stripe,paypal⟩ := asked_exactly (course "USD" 2) (paid "USD" 2) ["line-item"] "pi_1" "capture" ["line-item"] computed
  exact ⟨stripe.mpr (.inr rfl),paypal.mpr rfl⟩

-- The yen has no minor units: a hundredfold is asked for, and dollars of PayPal.
theorem yen_asked_wrongly :
    getLineItemPriceToRefund (course "JPY" 0) (paid "JPY" 0) ["line-item"] = some 4900 ∧
    (refundPaymentIntentAtStripe "pi_1" 4900 ["line-item"]).firstCall =
      some (.stripeRefundCreate "pi_1" 490000 ["line-item"]) ∧ (490000 : ℚ) ≠ 4900*10^fractionDigits (paid "JPY" 0) ∧
    (refundOrder "capture" 4900 ["line-item"]).firstCall =
      some (.refundCapturedPayment "capture" 4900 "USD" ["line-item"]) ∧
    "USD" ≠ (paid "JPY" 0).amountPlanned.currencyCode := by
  refine ⟨by decide +kernel,by decide +kernel,by norm_num [fractionDigits,paid],rfl,by decide⟩

end Requests

section Records
variable {refund : Refund} {psp : String} {f : ℕ}

-- The draft with another arithmetic in place of Python's floats.
def refundTransactionDraftWith (float : ℚ → ℚ) (refund : Refund) (psp : String) : TransactionDraft :=
  {refundTransactionDraft refund psp with
    centAmount := truncate (if psp = edxPaypalPaymentInterfaceName then float (float refund.amount * 100)
      else refund.amount)}

theorem draft_of_floats (refund : Refund) (psp : String) :
    refundTransactionDraftWith float refund psp = refundTransactionDraft refund psp := by
  unfold refundTransactionDraftWith refundTransactionDraft preprocessRefundObject
  dsimp only
  split
  · rfl
  · split <;> rfl

def RecordsValue (draft : TransactionDraft) (refund : Refund) (f : ℕ) : Prop :=
  (draft.centAmount : ℚ) = refund.amount*10^f ∧ draft.currencyCode = refund.currency.toUpper

theorem stripe_records (refund : Refund) (float : ℚ → ℚ) (cents : ℤ) (whole : refund.amount = cents) :
    (refundTransactionDraftWith float refund edxStripePaymentInterfaceName).centAmount = cents ∧
    (refundTransactionDraftWith float refund edxStripePaymentInterfaceName).currencyCode = refund.currency.toUpper := by
  have other : edxStripePaymentInterfaceName ≠ edxPaypalPaymentInterfaceName := by decide
  refine ⟨?_,rfl⟩
  simp only [refundTransactionDraftWith,if_neg other,whole,truncate_int]

theorem paypal_records (refund : Refund) (float : ℚ → ℚ) (f : ℕ)
    (close : |float (float refund.amount * 100) - refund.amount*100| ≤ |refund.amount| / 1000) :
    RecordsValue (refundTransactionDraftWith float refund edxPaypalPaymentInterfaceName) refund f ↔
      refund.amount = 0 ∨ f = 2 ∧ (truncate (float (float refund.amount * 100)) : ℚ) = refund.amount*100 := by
  have recorded : RecordsValue (refundTransactionDraftWith float refund edxPaypalPaymentInterfaceName) refund f ↔
      (truncate (float (float refund.amount * 100)) : ℚ) = refund.amount*10^f := by
    simp [RecordsValue,refundTransactionDraftWith,refundTransactionDraft,preprocessRefundObject]
  rw [recorded]
  constructor
  · intro same
    rcases hundredfold_scale close same with zero | two
    · exact .inl zero
    · subst two
      norm_num at same
      exact .inr ⟨rfl,same⟩
  · intro possible
    rcases possible with zero | ⟨rfl,same⟩
    · rw [zero] at close ⊢
      have nothing : float (float 0 * 100) = 0 := by
        simpa using close
      rw [nothing]
      norm_num [truncate]
    · rw [same]
      norm_num

theorem float_error (q : ℚ) : |float q - q| ≤ |q| / 1000000 := by
  have bound := roundTo_error (b := 2) (p := 53) (by norm_num) q
  have tiny : ((2 : ℕ) : ℚ)^((1 : ℤ)-(53 : ℕ)) / 2 ≤ 1/1000000 := by norm_num
  calc |float q - q| ≤ |q| * (((2 : ℕ) : ℚ)^((1 : ℤ)-(53 : ℕ)) / 2) := bound
    _ ≤ |q| * (1/1000000) := by gcongr
    _ = |q| / 1000000 := by ring

theorem float_hundredfold (v : ℚ) : |float (float v * 100) - v*100| ≤ |v| / 1000 := by
  have first := float_error v
  have second := float_error (float v * 100)
  have size : |float v| ≤ |v| + |v| / 1000000 := by
    have := abs_sub_abs_le_abs_sub (float v) v
    linarith
  have positive := abs_nonneg v
  have scaled : |float v * 100| = |float v| * 100 := by rw [abs_mul]; norm_num
  calc |float (float v * 100) - v*100|
      = |(float (float v * 100) - float v * 100) + (float v - v)*100| := by ring_nf
    _ ≤ |float (float v * 100) - float v * 100| + |(float v - v)*100| := abs_add_le _ _
    _ = |float (float v * 100) - float v * 100| + |float v - v| * 100 := by rw [abs_mul (float v - v)]; norm_num
    _ ≤ |v| / 1000 := by linarith

-- Stripe's integers are kept. PayPal's decimals are, over exact rationals, in a
-- currency with two fraction digits only; Python's floats lose more of these.
theorem recorded_exactly (refund : Refund) (f : ℕ) :
    (∀ cents : ℤ, refund.amount = cents →
      (refundTransactionDraft refund edxStripePaymentInterfaceName).centAmount = cents ∧
      (refundTransactionDraft refund edxStripePaymentInterfaceName).currencyCode = refund.currency.toUpper) ∧
    (RecordsValue (refundTransactionDraftWith id refund edxPaypalPaymentInterfaceName) refund f ↔
      refund.amount = 0 ∨ f = 2 ∧ ∃ n : ℤ, refund.amount*100 = n) ∧
    (RecordsValue (refundTransactionDraft refund edxPaypalPaymentInterfaceName) refund f ↔
      refund.amount = 0 ∨ f = 2 ∧ (truncate (float (float refund.amount * 100)) : ℚ) = refund.amount*100) := by
  refine ⟨?_,?_,?_⟩
  · intro cents whole
    rw [← draft_of_floats]
    exact stripe_records refund float cents whole
  · have exactly := paypal_records refund id f (by rw [id,id,sub_self,abs_zero]; positivity)
    rw [exactly]
    apply or_congr_right
    apply and_congr_right
    intro _
    constructor
    · intro same
      exact ⟨_,same.symm⟩
    · intro whole
      obtain ⟨n,whole⟩ := whole
      rw [id,id,whole,truncate_int]
  · rw [← draft_of_floats]
    exact paypal_records refund float f (float_hundredfold refund.amount)

def paypalRefund (value : ℚ) (currency : String) : Refund :=
  ⟨"refund",value,currency,1750000000000,"COMPLETED",none,none⟩

-- 4900 yen are recorded as 490000, over exact rationals and in floats, and 0.29
-- dollars as 28 cents in floats.
theorem yen_recorded_wrongly :
    ¬RecordsValue (refundTransactionDraftWith id (paypalRefund 4900 "JPY") edxPaypalPaymentInterfaceName)
      (paypalRefund 4900 "JPY") 0 ∧
    (refundTransactionDraft (paypalRefund 4900 "JPY") edxPaypalPaymentInterfaceName).centAmount = 490000 ∧
    (refundTransactionDraft (paypalRefund (29/100) "USD") edxPaypalPaymentInterfaceName).centAmount = 28 := by
  refine ⟨?_,by decide +kernel,by decide +kernel⟩
  intro records
  have recorded : (refundTransactionDraftWith id (paypalRefund 4900 "JPY") edxPaypalPaymentInterfaceName).centAmount =
      490000 := by
    decide +kernel
  have same := records.1
  rw [recorded] at same
  norm_num [paypalRefund] at same

end Records
end RefundCurrency
