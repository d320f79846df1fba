import CommerceCoordinator.CatalogInfo
import CommerceCoordinator.LocalizedPrices
import Mathlib.Algebra.Order.BigOperators.Group.List
import Mathlib.Tactic.LinearCombination

open Commercetools
open LegacyOrders (FieldValue TypedMoney Price attributeDict iterate pick)
open CatalogInfo (Product)

-- calculate_total_discount_on_order and what the order confirmation shows.
namespace OrderDiscounts

-- An entry of discounted_price_per_quantity, with the discount amounts of one unit.
structure DiscountedPrice where
  quantity : Int
  includedDiscounts : List TypedMoney
  deriving DecidableEq

structure LineItem where
  id : String
  quantity : Int
  price : Price
  discountedPricePerQuantity : List DiscountedPrice
  deriving DecidableEq

-- The codes are those of the expanded references; `discountOnTotalPrice` is the
-- discounted amount.
structure Order where
  orderNumber : Option String
  lastModifiedAt : Int
  lineItems : List LineItem
  totalPrice : TypedMoney
  discountOnTotalPrice : Option TypedMoney
  discountCodes : List (Option String)
  deriving DecidableEq

structure Customer where
  firstName : Option String
  lastName : Option String

section Totals

def filteredLineItems (order : Order) (lineItemIds : Option (List String)) : List LineItem :=
  match lineItemIds with
  | none | some [] => order.lineItems
  | some lineItemIds => order.lineItems.filter (·.id ∈ lineItemIds)

def calculateTotalDiscountOnOrder (order : Order) (lineItemIds : Option (List String)) : TypedMoney :=
  let discountOnTotalPrice := (order.discountOnTotalPrice.map (·.centAmount)).getD 0
  let items := filteredLineItems order lineItemIds
  let cartDiscountOnLineItems := (items.map fun item =>
    (item.discountedPricePerQuantity.map fun discountedPrice =>
      (discountedPrice.includedDiscounts.map (·.centAmount)).sum).sum).sum
  let productDiscountOnLineItems := (items.filterMap fun item =>
    item.price.discounted.map fun discounted => item.price.value.centAmount-discounted.centAmount).sum
  ⟨discountOnTotalPrice+cartDiscountOnLineItems+productDiscountOnLineItems,order.totalPrice.currencyCode,
    order.totalPrice.fractionDigits,none⟩

def subtotal (order : Order) : Int := order.totalPrice.centAmount+(calculateTotalDiscountOnOrder order none).centAmount

end Totals

section Canvas

-- The settings, how dates and values are written, and Babel, which refuses some
-- currencies.
structure Environment where
  lmsDashboardUrl : String
  commerceCoordinatorUrl : String
  orderReceipt : String
  date : Int → String
  time : Int → String
  iso8601 : Int → String
  printed : FieldValue → String
  formatCurrency : ℚ → String → Option String
  currencySymbol : String → Option String
  twoDecimals : ℚ → String

structure CanvasEntryProperties where
  firstName : Option String
  lastName : Option String
  redirectUrl : String
  viewReceiptCtaUrl : String
  purchaseDate : String
  purchaseTime : String
  subtotal : String
  total : String
  discountCode : Option (Option String)
  discountValue : Option String
  deriving DecidableEq

structure ProductInformation where
  title : String
  imageUrl : String
  partnerName : FieldValue
  price : String
  startDate : FieldValue
  duration : String
  deriving DecidableEq

variable (env : Environment)

-- re.sub(r'^([A-Z]{3})(.+)$', r'\1 \2', formatted)
def spaced (formatted : String) : String :=
  match formatted.toList with
  | a::b::c::rest =>
    let line := if rest.getLast? = some '\n' then rest.dropLast else rest
    if a.isUpper ∧ b.isUpper ∧ c.isUpper ∧ line ≠ [] ∧ '\n' ∉ line then String.ofList (a :: b :: c :: ' ' :: rest) else formatted
  | _ => formatted

def formatIsoLikeCurrencySpacing (value : ℚ) (currencyCode : String) : Option String := do
  let formatted ← env.formatCurrency value currencyCode
  let symbol ← env.currencySymbol currencyCode
  return if symbol = currencyCode then spaced formatted else formatted

def formatAmountForBrazeCanvas (centAmount : Int) (currencyCode : String) (fractionDigits : Nat) : String :=
  let localizedPrice := LocalizedPrices.convertCtCentAmountToLocalizedPrice centAmount fractionDigits
  match formatIsoLikeCurrencySpacing env localizedPrice currencyCode with
  | some text => text
  | none => currencyCode++" "++env.twoDecimals localizedPrice

def firstDiscountCode : List (Option String) → Except Exn (Option String)
  | [] => .ok none
  | some code::_ => .ok (some code)
  | none::_ => .error .attributeError

def extractCtOrderInformationForBrazeCanvas (customer : Customer) (order : Order) : Except Exn CanvasEntryProperties := do
  let totalDiscount := calculateTotalDiscountOnOrder order none
  let format := fun centAmount =>
    formatAmountForBrazeCanvas env centAmount order.totalPrice.currencyCode order.totalPrice.fractionDigits
  let properties : CanvasEntryProperties :=
    {firstName := customer.firstName, lastName := customer.lastName, redirectUrl := env.lmsDashboardUrl,
      viewReceiptCtaUrl := env.commerceCoordinatorUrl++env.orderReceipt++"?order_number="++order.orderNumber.getD "None",
      purchaseDate := env.date order.lastModifiedAt, purchaseTime := env.time order.lastModifiedAt,
      subtotal := format (subtotal order), total := format order.totalPrice.centAmount, discountCode := none,
      discountValue := none}
  if totalDiscount.centAmount ≠ 0 then
    let discountCode ← firstDiscountCode order.discountCodes
    return {properties with discountCode := some discountCode, discountValue := some (format totalDiscount.centAmount)}
  else return properties

-- .get('label', 'weeks'), which only the value of an enumeration has
def durationUnit : Option FieldValue → Except Exn FieldValue
  | none => .ok (.text "weeks")
  | some (.dict _ .null) => .ok (.text "weeks")
  | some (.dict _ label) => .ok label
  | some _ => .error .attributeError

def duration (durationLow durationHigh : FieldValue) : FieldValue :=
  if durationLow.truthy ∧ durationHigh.truthy then .text (env.printed durationLow++"-"++env.printed durationHigh)
  else if durationLow.truthy then durationLow
  else if durationHigh.truthy then durationHigh
  else .text ""

def extractCtProductInformationForBrazeCanvas (product : Product) (price : Price) : Except Exn ProductInformation := do
  let attributes ← iterate product.attributes
  let get := fun name => (attributeDict (some attributes) name).getD (.text "")
  let duration := duration env (get "duration-low") (get "duration-high")
  let unit ← durationUnit (attributeDict (some attributes) "duration-unit")
  let price := formatAmountForBrazeCanvas env price.value.centAmount price.value.currencyCode price.value.fractionDigits
  return ⟨(pick product.name "en-US").getD "",product.images.head?.getD "",get "brand-text",price,get "courserun-start",
    if duration.truthy then env.printed duration++" "++env.printed unit else ""⟩

def DiscountNamed (order : Order) : Prop :=
  (calculateTotalDiscountOnOrder order none).centAmount = 0 ∨ order.discountCodes.head? ≠ some none

def DurationLabelled (product : Product) : Prop :=
  ∃ attributes, product.attributes = some attributes ∧
    ∀ value, attributeDict (some attributes) "duration-unit" = some value → ∃ size label, value = .dict size label

theorem order_information_read (customer : Customer) {order : Order} :
    (∃ properties, extractCtOrderInformationForBrazeCanvas env customer order = .ok properties) ↔ DiscountNamed order := by
  unfold extractCtOrderInformationForBrazeCanvas DiscountNamed
  by_cases none_ : (calculateTotalDiscountOnOrder order none).centAmount = 0
  · simp [none_,pure,Except.pure]
  · rcases codes : order.discountCodes with _ | ⟨_ | code,rest⟩ <;>
      simp [none_,firstDiscountCode,bind,Except.bind,pure,Except.pure]

theorem duration_unit_read {value : Option FieldValue} :
    (∃ unit, durationUnit value = .ok unit) ↔ ∀ given, value = some given → ∃ size label, given = .dict size label := by
  rcases value with _ | value
  · simp [durationUnit]
  · cases value with
    | dict size label => cases label <;> simp [durationUnit]
    | _ => simp [durationUnit]

theorem product_information_read (price : Price) {product : Product} :
    (∃ information, extractCtProductInformationForBrazeCanvas env product price = .ok information) ↔
      DurationLabelled product := by
  unfold extractCtProductInformationForBrazeCanvas DurationLabelled iterate
  cases product.attributes with
  | none => simp [bind,Except.bind]
  | some attributes =>
    have unit := @duration_unit_read (attributeDict (some attributes) "duration-unit")
    simp only [Option.some.injEq,exists_eq_left']
    rw [← unit]
    cases read : durationUnit (attributeDict (some attributes) "duration-unit") <;>
      simp [read,bind,Except.bind,pure,Except.pure]

end Canvas

section Pricing

def LineItem.unitPrice (item : LineItem) : Int := (item.price.discounted.getD item.price.value).centAmount

def LineItem.productDiscount (item : LineItem) : Int := item.price.value.centAmount-item.unitPrice

def DiscountedPrice.discount (entry : DiscountedPrice) : Int := (entry.includedDiscounts.map (·.centAmount)).sum

def LineItem.total (item : LineItem) : Int :=
  if item.discountedPricePerQuantity = [] then item.quantity*item.unitPrice
  else (item.discountedPricePerQuantity.map fun entry => entry.quantity*(item.unitPrice-entry.discount)).sum

def Order.onTotalPrice (order : Order) : Int := (order.discountOnTotalPrice.map (·.centAmount)).getD 0

-- The pricing equations of Commercetools.
structure Priced (order : Order) : Prop where
  split : ∀ item ∈ order.lineItems, item.discountedPricePerQuantity ≠ [] →
    (item.discountedPricePerQuantity.map (·.quantity)).sum = item.quantity
  total : order.totalPrice.centAmount = (order.lineItems.map LineItem.total).sum-order.onTotalPrice

def listPrice (order : Order) : Int := (order.lineItems.map fun item => item.quantity*item.price.value.centAmount).sum

def LineItem.beyondFirst (item : LineItem) : Int :=
  (item.quantity-1)*item.productDiscount+
    (item.discountedPricePerQuantity.map fun entry => (entry.quantity-1)*entry.discount).sum

end Pricing

section Subtotal
variable {order : Order}

theorem product_discounts (items : List LineItem) :
    (items.filterMap fun item =>
      item.price.discounted.map fun discounted => item.price.value.centAmount-discounted.centAmount).sum =
      (items.map LineItem.productDiscount).sum := by
  induction items with
  | nil => rfl
  | cons item rest ih =>
    cases discounted : item.price.discounted with
    | none => simpa [LineItem.productDiscount,LineItem.unitPrice,discounted] using ih
    | some price => simpa [LineItem.productDiscount,LineItem.unitPrice,discounted] using ih

theorem total_discount (order : Order) : (calculateTotalDiscountOnOrder order none).centAmount =
    order.onTotalPrice+(order.lineItems.map fun item =>
      item.productDiscount+(item.discountedPricePerQuantity.map DiscountedPrice.discount).sum).sum := by
  have product := product_discounts order.lineItems
  simp only [calculateTotalDiscountOnOrder,filteredLineItems,product,List.sum_map_add]
  change order.onTotalPrice+_+_ = _
  rw [add_assoc,add_comm (List.sum (List.map LineItem.productDiscount _))]
  rfl

theorem entries_total (entries : List DiscountedPrice) (unitPrice : Int) :
    (entries.map fun entry => entry.quantity*(unitPrice-entry.discount)).sum+(entries.map DiscountedPrice.discount).sum+
      (entries.map fun entry => (entry.quantity-1)*entry.discount).sum = (entries.map (·.quantity)).sum*unitPrice := by
  induction entries with
  | nil => simp
  | cons entry rest ih =>
    simp only [List.map_cons,List.sum_cons]
    linear_combination ih

theorem line_total (item : LineItem) (split : item.discountedPricePerQuantity ≠ [] →
    (item.discountedPricePerQuantity.map (·.quantity)).sum = item.quantity) :
    item.total+(item.productDiscount+(item.discountedPricePerQuantity.map DiscountedPrice.discount).sum)+item.beyondFirst =
      item.quantity*item.price.value.centAmount := by
  unfold LineItem.total LineItem.beyondFirst
  by_cases plain : item.discountedPricePerQuantity = []
  · rw [if_pos plain,plain]
    simp only [LineItem.productDiscount,List.map_nil,List.sum_nil]
    ring
  · have entries := entries_total item.discountedPricePerQuantity item.unitPrice
    rw [split plain] at entries
    rw [if_neg plain]
    unfold LineItem.productDiscount
    linear_combination entries

theorem lines_total (items : List LineItem) (split : ∀ item ∈ items, item.discountedPricePerQuantity ≠ [] →
    (item.discountedPricePerQuantity.map (·.quantity)).sum = item.quantity) :
    (items.map LineItem.total).sum+(items.map fun item =>
      item.productDiscount+(item.discountedPricePerQuantity.map DiscountedPrice.discount).sum).sum+
      (items.map LineItem.beyondFirst).sum = (items.map fun item => item.quantity*item.price.value.centAmount).sum := by
  rw [← List.sum_map_add,← List.sum_map_add]
  exact congrArg List.sum (List.map_congr_left fun item member => line_total item (split item member))

theorem subtotal_short (priced : Priced order) :
    subtotal order+(order.lineItems.map LineItem.beyondFirst).sum = listPrice order := by
  have lines := lines_total order.lineItems priced.split
  unfold subtotal listPrice
  rw [total_discount,priced.total]
  linear_combination lines

structure LineItem.Discounted (item : LineItem) : Prop where
  bought : 1 ≤ item.quantity
  product : 0 ≤ item.productDiscount
  entries : ∀ entry ∈ item.discountedPricePerQuantity, 1 ≤ entry.quantity ∧
    ∀ discount ∈ entry.includedDiscounts, 0 ≤ discount.centAmount

structure LineItem.Single (item : LineItem) : Prop where
  product : item.productDiscount = 0 ∨ item.quantity = 1
  entries : ∀ entry ∈ item.discountedPricePerQuantity,
    (∀ discount ∈ entry.includedDiscounts, discount.centAmount = 0) ∨ entry.quantity = 1

theorem sum_zero {α : Type} {f : α → Int} {items : List α} (nonneg : ∀ item ∈ items, 0 ≤ f item) :
    (items.map f).sum = 0 ↔ ∀ item ∈ items, f item = 0 := by
  induction items with
  | nil => simp
  | cons item rest ih =>
    obtain ⟨first,later⟩ := List.forall_mem_cons.mp nonneg
    have others : 0 ≤ (rest.map f).sum := List.sum_nonneg (by simpa using later)
    rw [List.map_cons,List.sum_cons,List.forall_mem_cons,← ih later]
    omega

theorem entry_discount_nonneg {entry : DiscountedPrice} (nonneg : ∀ discount ∈ entry.includedDiscounts, 0 ≤ discount.centAmount) :
    0 ≤ entry.discount := List.sum_nonneg (by simpa [DiscountedPrice.discount] using nonneg)

theorem beyond_first_zero {units discount : Int} : (units-1)*discount = 0 ↔ discount = 0 ∨ units = 1 := by
  rw [mul_eq_zero,or_comm,sub_eq_zero]

section Line
variable {item : LineItem}

theorem beyond_first_entries (discounted : item.Discounted) : ∀ entry ∈ item.discountedPricePerQuantity,
    0 ≤ (entry.quantity-1)*entry.discount := by
  intro entry member
  obtain ⟨bought,nonneg⟩ := discounted.entries entry member
  exact mul_nonneg (sub_nonneg.mpr bought) (entry_discount_nonneg nonneg)

theorem beyond_first_parts (discounted : item.Discounted) : 0 ≤ (item.quantity-1)*item.productDiscount ∧
    0 ≤ (item.discountedPricePerQuantity.map fun entry => (entry.quantity-1)*entry.discount).sum :=
  ⟨mul_nonneg (sub_nonneg.mpr discounted.bought) discounted.product,
    List.sum_nonneg (by simpa using beyond_first_entries discounted)⟩

theorem beyond_first_nonneg (discounted : item.Discounted) : 0 ≤ item.beyondFirst := by
  obtain ⟨product,entries⟩ := beyond_first_parts discounted
  exact add_nonneg product entries

theorem beyond_first_single (discounted : item.Discounted) : item.beyondFirst = 0 ↔ item.Single := by
  obtain ⟨product,entries⟩ := beyond_first_parts discounted
  have each : ∀ entry ∈ item.discountedPricePerQuantity, (entry.quantity-1)*entry.discount = 0 ↔
      (∀ discount ∈ entry.includedDiscounts, discount.centAmount = 0) ∨ entry.quantity = 1 := by
    intro entry member
    rw [beyond_first_zero,DiscountedPrice.discount,sum_zero (discounted.entries entry member).2]
  unfold LineItem.beyondFirst
  rw [add_eq_zero_iff_of_nonneg product entries,beyond_first_zero,sum_zero (beyond_first_entries discounted),
    forall₂_congr each]
  exact ⟨fun both => ⟨both.1,both.2⟩,fun single => ⟨single.product,single.entries⟩⟩

end Line

-- The subtotal of the confirmation is the list price where the discounts of the units
-- beyond the first come to nothing, that is where every discounted unit is single.
theorem subtotal_is_list_price_iff (priced : Priced order) :
    (subtotal order = listPrice order ↔ (order.lineItems.map LineItem.beyondFirst).sum = 0) ∧
    ((∀ item ∈ order.lineItems, item.Discounted) →
      (subtotal order = listPrice order ↔ ∀ item ∈ order.lineItems, item.Single)) := by
  have short := subtotal_short priced
  have exactly : subtotal order = listPrice order ↔ (order.lineItems.map LineItem.beyondFirst).sum = 0 := by omega
  refine ⟨exactly,fun discounted => exactly.trans ?_⟩
  rw [sum_zero fun item member => beyond_first_nonneg (discounted item member)]
  exact forall₂_congr fun item member => beyond_first_single (discounted item member)

def usd (centAmount : Int) : TypedMoney := ⟨centAmount,"USD",2,none⟩

def discountedUnits (quantity totalPrice : Int) : Order :=
  ⟨some "2U-1",0,[⟨"course",quantity,⟨usd 10000,some (usd 8000)⟩,[]⟩],usd totalPrice,none,[]⟩

theorem single_unit_adds_up : subtotal (discountedUnits 1 8000) = listPrice (discountedUnits 1 8000) := by
  have priced : Priced (discountedUnits 1 8000) := ⟨by decide,by decide⟩
  exact (subtotal_is_list_price_iff priced).1.mpr (by decide)

theorem two_units_fall_short :
    Priced (discountedUnits 2 16000) ∧ subtotal (discountedUnits 2 16000) = 18000 ∧
      subtotal (discountedUnits 2 16000) ≠ listPrice (discountedUnits 2 16000) :=
  ⟨⟨by decide,by decide⟩,by decide,by decide⟩

theorem legacy_total_discount {legacy : LegacyOrders.Order} (totals : legacy.totalPrice = order.totalPrice)
    (onTotal : legacy.discountOnTotalPrice = order.discountOnTotalPrice)
    (lines : legacy.lineItems.map (fun item => (item.price,item.discountedPricePerQuantity)) =
      order.lineItems.map fun item => (item.price,item.discountedPricePerQuantity.map (·.includedDiscounts))) :
    LegacyOrders.calculateTotalDiscountOnOrder legacy = calculateTotalDiscountOnOrder order none := by
  have cart := congrArg (fun pairs => (pairs.map fun pair : Price × List (List TypedMoney) =>
    (pair.2.map fun discounts => (discounts.map (·.centAmount)).sum).sum).sum) lines
  have product := congrArg (fun pairs => (pairs.filterMap fun pair : Price × List (List TypedMoney) =>
    pair.1.discounted.map fun discounted => pair.1.value.centAmount-discounted.centAmount).sum) lines
  simp only [List.map_map,List.filterMap_map,Function.comp_def] at cart product
  simp only [LegacyOrders.calculateTotalDiscountOnOrder,calculateTotalDiscountOnOrder,filteredLineItems,totals,onTotal,cart,product]

end Subtotal

end OrderDiscounts
