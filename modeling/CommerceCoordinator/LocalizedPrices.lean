import CommerceCoordinator.MobileCreateOrder
import CommerceCoordinator.RefundCurrency

open Commercetools SignificantDigits

-- Store prices in cents and back, in decimal.Decimal with its default context.
namespace LocalizedPrices

def precision : ℕ := 28

def scaleb (d : ℚ) (shift : ℤ) : ℚ := roundTo 10 precision (d*10^shift)

section Conversion
-- Currency(code).exponent, which some codes do not have; unknown codes are refused.
variable (currency : String → Option (Option ℕ))

def convertLocalizedPriceToCtCentAmount (amount : ℚ) (currencyCode : String) (exponent : ℕ) : Except Exn ℤ :=
  match currency currencyCode with
  | none => .error .valueError
  | some digits =>
    let fractionDigits := digits.getD 0
    .ok (PaymentTransactions.truncate (scaleb amount (fractionDigits-exponent)))

def convertCtCentAmountToLocalizedPrice (centAmount : ℤ) (fractionDigits : ℕ) : ℚ := scaleb centAmount (-fractionDigits)

end Conversion

theorem scaleb_exact {d : ℚ} (written : HasDigits 10 precision d) (shift : ℤ) : scaleb d shift = d*10^shift :=
  roundTo_kept (by decide) (hasDigits_shift (by decide) written shift)

theorem hasDigits_mono {p p' : ℕ} {q : ℚ} (le : p ≤ p') (written : HasDigits 10 p q) : HasDigits 10 p' q := by
  obtain ⟨m,k,small,rfl⟩ := written
  exact ⟨m,k,small.trans_le (pow_le_pow_right₀ (by decide) le),rfl⟩

-- Where no digit is cut off, only the scale matters: this is the amount of the view that
-- creates the order.
theorem convert_unrounded {currency : String → Option (Option ℕ)} {currencyCode : String} {digits : Option ℕ}
    (known : currency currencyCode = some digits) {amount : ℚ} (written : HasDigits 10 precision amount) (exponent : ℕ) :
    convertLocalizedPriceToCtCentAmount currency amount currencyCode exponent =
      .ok (MobileCreateOrder.convertLocalizedPriceToCtCentAmount amount (digits.getD 0) exponent) := by
  have scale : amount*10^((digits.getD 0 : ℤ)-exponent) = amount*10^digits.getD 0/10^exponent := by
    rw [zpow_sub₀ (by norm_num),zpow_natCast,zpow_natCast,mul_div_assoc]
  simp only [convertLocalizedPriceToCtCentAmount,known,scaleb_exact written,scale]
  rfl

structure Price (p : ℚ) : Prop where
  nonneg : 0 ≤ p
  decimals : ∃ n : ℤ, p*10^3 = n
  digits : HasDigits 10 20 p

theorem same_cents {currency : String → Option (Option ℕ)} {currencyCode : String} {digits : Option ℕ}
    (known : currency currencyCode = some digits) {p : ℚ} (price : Price p) :
    convertLocalizedPriceToCtCentAmount currency p currencyCode 0 =
      convertLocalizedPriceToCtCentAmount currency (1000*p) currencyCode 3 := by
  have written : HasDigits 10 precision p := hasDigits_mono (by decide) price.digits
  have scaled : HasDigits 10 precision (1000*p) := by
    have shifted := hasDigits_shift (by decide) written 3
    norm_num at shifted
    rwa [mul_comm]
  rw [convert_unrounded known written,convert_unrounded known scaled]
  unfold MobileCreateOrder.convertLocalizedPriceToCtCentAmount
  congr 2
  ring

theorem cents_returned {currency : String → Option (Option ℕ)} {currencyCode : String} {digits : Option ℕ}
    (known : currency currencyCode = some digits) {centAmount : ℤ} (small : |centAmount| < 10^20) :
    convertLocalizedPriceToCtCentAmount currency
      (convertCtCentAmountToLocalizedPrice centAmount (digits.getD 0)) currencyCode 0 = .ok centAmount := by
  have written : HasDigits 10 precision (centAmount : ℚ) := hasDigits_mono (p := 20) (by decide) (hasDigits_int _ small)
  have shifted : HasDigits 10 precision ((centAmount : ℚ)*10^(-(digits.getD 0 : ℤ))) := by
    simpa using hasDigits_shift (by decide) written (-(digits.getD 0 : ℤ))
  have back : (centAmount : ℚ)*10^(-(digits.getD 0 : ℤ))*10^digits.getD 0 = centAmount := by
    rw [zpow_neg,zpow_natCast,inv_mul_cancel_right₀ (by positivity)]
  rw [convertCtCentAmountToLocalizedPrice,scaleb_exact written,convert_unrounded known shifted]
  unfold MobileCreateOrder.convertLocalizedPriceToCtCentAmount
  rw [back,pow_zero,div_one,RefundCurrency.truncate_int]

theorem charge_and_refund_cents {currency : String → Option (Option ℕ)} {currencyCode : String} {digits : Option ℕ}
    (known : currency currencyCode = some digits) :
    (∀ p, Price p → convertLocalizedPriceToCtCentAmount currency p currencyCode 0 =
      convertLocalizedPriceToCtCentAmount currency (1000*p) currencyCode 3) ∧
    ∀ centAmount : ℤ, |centAmount| < 10^20 → convertLocalizedPriceToCtCentAmount currency
      (convertCtCentAmountToLocalizedPrice centAmount (digits.getD 0)) currencyCode 0 = .ok centAmount :=
  ⟨fun _ price => same_cents known price,fun _ small => cents_returned known small⟩

def iso4217 : String → Option (Option ℕ)
  | "USD" => some (some 2)
  | "JPY" => some (some 0)
  | "CLF" => some (some 4)
  | "XAU" => some none
  | _ => none

theorem fund_price_cents :
    convertLocalizedPriceToCtCentAmount iso4217 (49999/1000) "CLF" 0 =
      convertLocalizedPriceToCtCentAmount iso4217 (1000*(49999/1000)) "CLF" 3 ∧
    convertLocalizedPriceToCtCentAmount iso4217 (convertCtCentAmountToLocalizedPrice 499990 4) "CLF" 0 = .ok 499990 := by
  have cents := charge_and_refund_cents (show iso4217 "CLF" = some (some 4) by decide)
  have price : Price (49999/1000) := ⟨by norm_num,⟨49999,by norm_num⟩,⟨49999,-3,by decide,by norm_num⟩⟩
  exact ⟨cents.1 _ price,cents.2 499990 (by decide)⟩

end LocalizedPrices
