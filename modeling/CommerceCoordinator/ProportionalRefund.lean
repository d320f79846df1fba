import CommerceCoordinator.RefundAmount

-- The refund of a part of an order against the exact proportion of the charge.
namespace EdxUtils
open Commercetools SignificantDigits

structure PartialReturn (order : Order) (payment : Payment) (ids : List String) : Prop where
  several : 1 < order.lineItems.length
  totals : ∀ item ∈ order.lineItems, 0 ≤ item.totalPrice.centAmount
  total : 0 < order.totalPrice.centAmount
  charged : 0 < payment.amountPlanned.centAmount
  differ : payment.amountPlanned.centAmount ≠ order.totalPrice.centAmount
  kept : ∃ item ∈ order.lineItems, item.id ∉ ids

def exactShare (order : Order) (payment : Payment) (ids : List String) : ℚ :=
  returnedTotal order ids * payment.amountPlanned.centAmount / order.totalPrice.centAmount

def RefundIsProportional (order : Order) (payment : Payment) (ids : List String) : Prop :=
  getLineItemPriceToRefund order payment ids =
    some (((min payment.amountPlanned.centAmount (roundHalfUp (exactShare order payment ids)) : ℤ) : ℚ) /
      10^payment.amountPlanned.fractionDigits.getD 2)

def decimalShare (order : Order) (payment : Payment) (ids : List String) : ℚ :=
  allocateByShare order.lineItems ids payment.amountPlanned.centAmount order.totalPrice.centAmount

variable {order : Order} {payment : Payment} {ids : List String}

theorem allocated_refund (returned : PartialReturn order payment ids) : getLineItemPriceToRefund order payment ids =
    (getQuantizedAmount (decimalShare order payment ids) (payment.amountPlanned.fractionDigits.getD 2)).bind fun units =>
      (plannedUnits payment).bind fun planned => some (min units planned) := by
  obtain ⟨several,_,total,charged,differ,item,member,unlisted⟩ := returned
  have part : ¬ returnsAllItems order ids := by
    intro all
    have selected := returned_all all
    rw [returnedItems,List.filter_eq_self] at selected
    exact unlisted (by simpa using selected item member)
  simp only [getLineItemPriceToRefund,charged.ne',total.ne',or_self,if_false,several,if_true,part,differ,edx_items]
  rfl

theorem allocated_shares_nonneg (returned : PartialReturn order payment ids) :
    ∀ share ∈ (returnedItems order ids).map (allocatedShare payment.amountPlanned.centAmount order.totalPrice.centAmount),
      (0 : ℚ) ≤ share :=
  shares_nonneg returned.totals returned.charged.le returned.total.le

theorem decimal_share_digits (returned : PartialReturn order payment ids) :
    0 ≤ decimalShare order payment ids ∧ HasDigits 10 28 (decimalShare order payment ids) := by
  have shares := allocated_shares_nonneg returned
  refine ⟨allocated_nonneg returned.totals returned.charged.le returned.total.le,?_⟩
  rw [decimalShare,allocate_rounded_sum]
  exact roundedSum_hasDigits (by norm_num) (by norm_num) le_rfl (hasDigits_zero (by norm_num)) shares

theorem exact_share_nonneg (returned : PartialReturn order payment ids) : 0 ≤ exactShare order payment ids := by
  have sum : (0 : ℚ) ≤ returnedTotal order ids := by exact_mod_cast returned_total_nonneg returned.totals
  have charge : (0 : ℚ) ≤ payment.amountPlanned.centAmount := by exact_mod_cast returned.charged.le
  have total : (0 : ℚ) ≤ order.totalPrice.centAmount := by exact_mod_cast returned.total.le
  exact div_nonneg (mul_nonneg sum charge) total

-- Two amounts are rounded and capped to the same one if no half-way point below the
-- cap lies between them.
theorem capped_eq_iff (cap : ℤ) {x y : ℚ} (nonneg : 0 ≤ x) (nonneg' : 0 ≤ y) :
    min cap (roundHalfUp x) = min cap (roundHalfUp y) ↔ ∀ n : ℤ, n < cap → ((n : ℚ) + 1/2 ≤ x ↔ (n : ℚ) + 1/2 ≤ y) := by
  simp only [← lt_roundHalfUp nonneg,← lt_roundHalfUp nonneg']
  constructor
  · intro same n below
    have inside : n < min cap (roundHalfUp x) ↔ n < min cap (roundHalfUp y) := by rw [same]
    simpa [below] using inside
  · intro sides
    refine eq_of_forall_lt_iff fun n => ?_
    rw [lt_min_iff,lt_min_iff]
    exact and_congr_right (sides n)

-- The computed and the exact proportion lie on the same side of every half-way point
-- below the charge, and both amounts fit the decimal context.
structure SameSides (order : Order) (payment : Payment) (ids : List String) : Prop where
  charge : payment.amountPlanned.centAmount < 10^28
  fits : decimalShare order payment ids < 10^28 - 1/2
  sides : ∀ n : ℤ, n < payment.amountPlanned.centAmount →
    ((n : ℚ) + 1/2 ≤ decimalShare order payment ids ↔ (n : ℚ) + 1/2 ≤ exactShare order payment ids)

theorem proportional_iff_sides (returned : PartialReturn order payment ids) :
    RefundIsProportional order payment ids ↔ SameSides order payment ids := by
  obtain ⟨nonneg,digits⟩ := decimal_share_digits returned
  rw [RefundIsProportional,allocated_refund returned,quantized_kept digits]
  have size : |roundHalfUp (decimalShare order payment ids)| < 10^28 ↔ decimalShare order payment ids < 10^28 - 1/2 := by
    rw [abs_of_nonneg (roundHalfUp_nonneg nonneg)]
    have carried := lt_roundHalfUp (n := 10^28 - 1) nonneg
    rw [Int.sub_one_lt_iff] at carried
    rw [← not_le,carried,not_le]
    push_cast
    constructor <;> intro below <;> linarith
  by_cases fits : decimalShare order payment ids < 10^28 - 1/2
  · rw [if_pos (size.mpr fits)]
    by_cases small : payment.amountPlanned.centAmount < 10^28
    · have planned : plannedUnits payment = some ((payment.amountPlanned.centAmount : ℚ) /
          10^payment.amountPlanned.fractionDigits.getD 2) :=
        quantized_int _ (by rw [abs_of_pos returned.charged]; exact small)
      have unit : (0 : ℚ) < 10^payment.amountPlanned.fractionDigits.getD 2 := by positivity
      have capped := capped_eq_iff payment.amountPlanned.centAmount nonneg (exact_share_nonneg returned)
      simp only [planned,Option.bind_some,Option.some.injEq]
      rw [min_div_div_right unit.le,div_left_inj' unit.ne',min_comm]
      exact ⟨fun same => ⟨small,fits,capped.mp (by exact_mod_cast same)⟩,fun same => by exact_mod_cast capped.mpr same.sides⟩
    · have refused : plannedUnits payment = none := quantized_large _ (by omega)
      rw [refused]
      exact ⟨(fun never => by cases never),fun same => absurd same.charge small⟩
  · rw [if_neg (size.not.mpr fits)]
    exact ⟨(fun never => by cases never),fun same => absurd same.fits fits⟩

-- How often a share of the returned items is rounded: in its division, in its product
-- and in every addition.
def roundings (order : Order) (ids : List String) : ℕ := 2 + (returnedItems order ids).length

theorem decimal_share_bounds (returned : PartialReturn order payment ids) :
    exactShare order payment ids * (1-halfUnit)^roundings order ids ≤ decimalShare order payment ids ∧
    decimalShare order payment ids ≤ exactShare order payment ids * (1+halfUnit)^roundings order ids :=
  allocated_bounds returned.totals returned.charged.le returned.total.le

structure NothingRounded (order : Order) (payment : Payment) (ids : List String) : Prop where
  quotients : ∀ item ∈ returnedItems order ids, HasDigits 10 28 (item.totalPrice.centAmount / order.totalPrice.centAmount : ℚ)
  shares : ∀ item ∈ returnedItems order ids,
    HasDigits 10 28 (itemShare payment.amountPlanned.centAmount order.totalPrice.centAmount item)
  sums : ∀ before, before <+: returnedItems order ids →
    HasDigits 10 28 (before.map (itemShare payment.amountPlanned.centAmount order.totalPrice.centAmount)).sum

def RoundedOnOneSide (order : Order) (payment : Payment) (ids : List String) : Prop :=
  ∀ n : ℤ, n < payment.amountPlanned.centAmount →
    (n : ℚ) + 1/2 ≤ exactShare order payment ids * (1-halfUnit)^roundings order ids ∨
      exactShare order payment ids * (1+halfUnit)^roundings order ids < (n : ℚ) + 1/2

theorem nothing_rounded_exact (nothing : NothingRounded order payment ids) :
    decimalShare order payment ids = exactShare order payment ids := by
  have each : (returnedItems order ids).map (allocatedShare payment.amountPlanned.centAmount order.totalPrice.centAmount) =
      (returnedItems order ids).map (itemShare payment.amountPlanned.centAmount order.totalPrice.centAmount) := by
    refine List.map_congr_left fun item member => ?_
    have quotient : Decimal.div item.totalPrice.centAmount order.totalPrice.centAmount =
        item.totalPrice.centAmount / order.totalPrice.centAmount := roundTo_kept (by norm_num) (nothing.quotients item member)
    rw [allocatedShare,quotient]
    exact roundTo_kept (by norm_num) (nothing.shares item member)
  rw [decimalShare,allocate_rounded_sum,each,exactShare,returned_share_sum]
  refine (roundedSum_kept (by norm_num) fun before leads => ?_).trans (zero_add _)
  obtain ⟨items,leading,rfl⟩ := List.prefix_map_iff.mp leads
  rw [zero_add]
  exact nothing.sums items leading

structure ShareDecided (order : Order) (payment : Payment) (ids : List String) : Prop where
  charge : payment.amountPlanned.centAmount < 10^28
  fits : exactShare order payment ids * (1+halfUnit)^roundings order ids < 10^28 - 1/2
  side : NothingRounded order payment ids ∨ RoundedOnOneSide order payment ids

theorem decided_same_sides (returned : PartialReturn order payment ids) (decided : ShareDecided order payment ids) :
    SameSides order payment ids := by
  obtain ⟨low,high⟩ := decimal_share_bounds returned
  refine ⟨decided.charge,high.trans_lt decided.fits,fun n below => ?_⟩
  rcases decided.side with nothing | oneSide
  · rw [nothing_rounded_exact nothing]
  · have nonneg := exact_share_nonneg returned
    have small : 0 ≤ 1-halfUnit ∧ 1-halfUnit ≤ 1 ∧ 1 ≤ 1+halfUnit := by norm_num [halfUnit]
    have shrunk : exactShare order payment ids * (1-halfUnit)^roundings order ids ≤ exactShare order payment ids :=
      mul_le_of_le_one_right nonneg (pow_le_one₀ small.1 small.2.1)
    have grown : exactShare order payment ids ≤ exactShare order payment ids * (1+halfUnit)^roundings order ids :=
      le_mul_of_one_le_right nonneg (one_le_pow₀ small.2.2)
    rcases oneSide n below with beyond | short
    · exact iff_of_true (beyond.trans low) (beyond.trans shrunk)
    · exact iff_of_false (high.trans_lt short).not_ge (grown.trans_lt short).not_ge

theorem refund_proportional (returned : PartialReturn order payment ids) :
    (RefundIsProportional order payment ids ↔ SameSides order payment ids) ∧
    (ShareDecided order payment ids → RefundIsProportional order payment ids) := by
  have same := proportional_iff_sides returned
  exact ⟨same,fun decided => same.mpr (decided_same_sides returned decided)⟩

def twoItems (first second total : Int) : Order :=
  ⟨"order",1,"customer",false,[⟨"first",1,⟨first,"USD",some 2⟩,[],none⟩,⟨"second",1,⟨second,"USD",some 2⟩,[],none⟩],
    ⟨total,"USD",some 2⟩,[],[]⟩

def planned (cents : Int) : Payment := ⟨"payment",1,some "intent",some "intent",⟨cents,"USD",some 2⟩,none,none,[]⟩

theorem half_refund_proportional : RefundIsProportional (twoItems 100 100 200) (planned 825) ["first"] := by
  have returned : PartialReturn (twoItems 100 100 200) (planned 825) ["first"] :=
    ⟨by decide,by decide,by decide,by decide,by decide,by decide⟩
  have only : returnedItems (twoItems 100 100 200) ["first"] = [⟨"first",1,⟨100,"USD",some 2⟩,[],none⟩] := by decide
  have share : exactShare (twoItems 100 100 200) (planned 825) ["first"] = 825/2 := by decide +kernel
  have tenths : HasDigits 10 28 (825/2) := ⟨4125,-1,by norm_num,by norm_num⟩
  have half : itemShare (planned 825).amountPlanned.centAmount (twoItems 100 100 200).totalPrice.centAmount
      ⟨"first",1,⟨100,"USD",some 2⟩,[],none⟩ = 825/2 := by
    norm_num [itemShare,planned,twoItems]
  refine (refund_proportional returned).2 ⟨by decide,?_,.inl ⟨?_,?_,?_⟩⟩
  · rw [share,roundings,only,halfUnit]
    norm_num
  · rw [only]
    intro item member
    cases List.mem_singleton.mp member
    exact ⟨5,-1,by norm_num,by norm_num [twoItems]⟩
  · rw [only]
    intro item member
    cases List.mem_singleton.mp member
    rwa [half]
  · rw [only]
    intro before leads
    rcases List.prefix_cons_iff.mp leads with rfl | ⟨rest,rfl,leading⟩
    · exact hasDigits_zero (by norm_num)
    · cases List.prefix_nil.mp leading
      rwa [List.map_singleton,List.sum_singleton,half]

-- The share of 1.70 in 15.00, of a charge of 8.25, is 93.5 cents; what is computed of
-- it is less.
theorem half_cent_lost : PartialReturn (twoItems 170 1330 1500) (planned 825) ["first"] ∧
    exactShare (twoItems 170 1330 1500) (planned 825) ["first"] = 93 + 1/2 ∧
    getLineItemPriceToRefund (twoItems 170 1330 1500) (planned 825) ["first"] = some (93/100) ∧
    ¬ RefundIsProportional (twoItems 170 1330 1500) (planned 825) ["first"] := by
  refine ⟨⟨by decide,by decide,by decide,by decide,by decide,by decide⟩,by decide +kernel,by decide +kernel,?_⟩
  unfold RefundIsProportional
  decide +kernel

example : RefundIsProportional (twoItems 1 5 6) (planned 3) ["first"] := by
  unfold RefundIsProportional
  decide +kernel

end EdxUtils
