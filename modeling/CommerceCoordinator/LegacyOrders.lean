import CommerceCoordinator.OrderHistory
import Mathlib.Algebra.Ring.Int.Defs

open Commercetools

-- order_from_commercetools: the Commercetools order as the order of the legacy
-- system, whose classes check their fields.
namespace LegacyOrders

abbrev LocalizedString := List (String × String)

-- `preciseAmount` makes it a HighPrecisionMoney.
structure TypedMoney where
  centAmount : Int
  currencyCode : String
  fractionDigits : Nat
  preciseAmount : Option Int
  deriving DecidableEq

-- The value of an attribute or a custom field; of a dict, only its label is read
-- (null where it has none).
inductive FieldValue where
  | null
  | boolean (value : Bool)
  | number (value : Rat)
  | text (value : String)
  | list (length : Nat)
  | dict (size : Nat) (label : FieldValue)
  deriving DecidableEq

structure Attribute where
  name : String
  value : FieldValue
  deriving DecidableEq

structure Address where
  firstName : Option String
  lastName : Option String
  streetNumber : Option String
  streetName : Option String
  additionalStreetInfo : Option String
  postalCode : Option String
  state : Option String
  country : String
  city : Option String
  deriving DecidableEq

-- `state` is the state itself where the reference is expanded, with its name.
structure ItemState where
  state : Option (Option LocalizedString)
  deriving DecidableEq

-- `discounted` is the value of the discounted price.
structure Price where
  value : TypedMoney
  discounted : Option TypedMoney
  deriving DecidableEq

-- `attributes` are the variant's; for each quantity, the included discounts.
structure LineItem where
  id : String
  productId : String
  name : LocalizedString
  quantity : Int
  price : Price
  discountedPricePerQuantity : List (List TypedMoney)
  state : List ItemState
  attributes : Option (List Attribute)
  deriving DecidableEq

structure PaymentMethodInfo where
  paymentInterface : Option String
  name : Option LocalizedString
  deriving DecidableEq

structure TaxedPrice where
  totalTax : Option TypedMoney
  deriving DecidableEq

-- `orderMobileOrder` is the entry of that name.
structure CustomFields where
  orderMobileOrder : Option FieldValue
  deriving DecidableEq

inductive OrderState where
  | open_ | confirmed | complete | cancelled
  deriving DecidableEq

def OrderState.value : OrderState → String
  | .open_ => "Open"
  | .confirmed => "Confirmed"
  | .complete => "Complete"
  | .cancelled => "Cancelled"

-- Of the references of payments and discount codes, what they are expanded to; of
-- a direct discount the type of its value.
structure Order where
  id : String
  lastModifiedAt : Int
  orderNumber : Option String
  orderState : OrderState
  lineItems : List LineItem
  totalPrice : TypedMoney
  taxedPrice : Option TaxedPrice
  discountOnTotalPrice : Option TypedMoney
  billingAddress : Option Address
  paymentInfo : Option (List (Option PaymentMethodInfo))
  discountCodes : Option (List (Option String))
  directDiscounts : Option (List String)
  custom : Option CustomFields
  deriving DecidableEq

structure Customer where
  email : String
  lmsUserName : String
  deriving DecidableEq

structure BillingAddress where
  firstName : Option String
  lastName : Option String
  line1 : String
  line2 : Option String
  city : Option String
  state : Option String
  postcode : Option String
  country : String
  deriving DecidableEq

structure LineProduct where
  url : String
  title : Option String
  expires : FieldValue
  certificateType : FieldValue
  deriving DecidableEq

structure Line where
  title : Option String
  quantity : Int
  linePriceExclTax : String
  courseOrganization : Option String
  description : Option String
  status : Option String
  unitPriceExclTax : String
  product : LineProduct
  deriving DecidableEq

structure User where
  username : String
  email : String
  deriving DecidableEq

structure LegacyOrder where
  datePlaced : Int
  user : User
  totalExclTax : String
  lines : List Line
  number : Option String
  basketDiscounts : Option String
  billingAddress : Option BillingAddress
  containsCreditSeat : String
  currency : String
  dashboardUrl : String
  discount : Option String
  mobileOrder : Option Bool
  enableHoistOrderHistory : String
  enterpriseLearnerPortalUrl : String
  orderProductIds : String
  paymentProcessor : Option String
  paymentMethod : Option String
  productTracking : Option String
  status : String
  totalBeforeDiscountsInclTax : String
  vouchers : Option String
  deriving DecidableEq

-- The settings, the currencies package (which raises at a code it does not know)
-- and the text of total / pow(10, fraction_digits).
structure Environment where
  merchantCenterOrdersPageUrl : String
  lmsDashboardUrl : String
  currency : String → Except Exn Unit
  decimalText : Int → Nat → String

section Validators

-- optional([instance_of(str), max_len(most), min_len(least)])
def checkText (least most : Nat) : Option String → Except Exn Unit
  | some text => if least ≤ text.length ∧ text.length ≤ most then .ok () else .error .valueError
  | none => .ok ()

-- optional(instance_of(str)), for what need not be a text
def checkString : FieldValue → Except Exn (Option String)
  | .null => .ok none
  | .text value => .ok (some value)
  | _ => .error .typeError

-- optional(instance_of(bool))
def checkBool : FieldValue → Except Exn (Option Bool)
  | .null => .ok none
  | .boolean value => .ok (some value)
  | _ => .error .typeError

-- [instance_of(int), lt(4294967295), gt(0)]
def checkQuantity (quantity : Int) : Except Exn Unit :=
  if quantity < 4294967295 ∧ 0 < quantity then .ok () else .error .valueError

end Validators

section Catalog

def pick (s : LocalizedString) (language : String) : Option String := (s.find? (·.1 = language)).map (·.2)

-- Of several languages, English and then US English; else the first one.
def unLs : Option LocalizedString → Option String
  | none => none
  | some s => ((pick s "en").or (pick s "en-US")).or (s.head?.map (·.2))

def FieldValue.truthy : FieldValue → Bool
  | .null => false
  | .boolean value => value
  | .number value => value ≠ 0
  | .text value => value ≠ ""
  | .list length => length ≠ 0
  | .dict size _ => size ≠ 0

-- The variant may come without attributes, which are iterated all the same.
def iterate (attributes : Option (List Attribute)) : Except Exn (List Attribute) :=
  match attributes with
  | some attributes => .ok attributes
  | none => .error .typeError

def lineItemAttribute (attributes : Option (List Attribute)) (name : String) : Except Exn FieldValue := do
  let attributes ← iterate attributes
  return match attributes.find? (·.name = name) with
    | some ⟨_,.dict _ label⟩ => label
    | some ⟨_,.text value⟩ => .text value
    | _ => .null

def getLineItemAttribute (lineItem : LineItem) (name : String) : Except Exn FieldValue :=
  lineItemAttribute lineItem.attributes name

def getAttributeValue (attributes : Option (List Attribute)) (key : String) : Except Exn FieldValue := do
  let attributes ← iterate attributes
  return ((attributes.find? (·.name = key)).map (·.value)).getD .null

-- dict([(d.name, d.value) for d in attr_list]): the last of a name counts.
def attributeDict (attributes : Option (List Attribute)) (key : String) : Option FieldValue :=
  attributes.bind fun attributes => (attributes.reverse.find? (·.name = key)).map (·.value)

end Catalog

section Money
variable (env : Environment)

def typedMoneyToString (money : TypedMoney) : Except Exn String := do
  env.currency money.currencyCode
  let total := money.preciseAmount.getD money.centAmount
  if money.fractionDigits = 0 then return toString total
  else return env.decimalText total money.fractionDigits

def typedMoneyAdd (a : TypedMoney) (b : Option TypedMoney) : Except Exn TypedMoney :=
  match b with
  | none => .ok a
  | some b =>
    if a.preciseAmount.isSome = b.preciseAmount.isSome ∧ a.currencyCode = b.currencyCode ∧ a.fractionDigits = b.fractionDigits then
      match a.preciseAmount with
      | some amount => .ok {a with preciseAmount := some (amount+b.preciseAmount.getD 0)}
      | none => .ok {a with centAmount := a.centAmount+b.centAmount}
    else .error .valueError

def calculateTotalDiscountOnOrder (order : Order) : TypedMoney :=
  let discountOnTotalPrice := (order.discountOnTotalPrice.map (·.centAmount)).getD 0
  let cartDiscountOnLineItems := (order.lineItems.map fun item =>
    ((item.discountedPricePerQuantity.map fun discounts => (discounts.map (·.centAmount)).sum).sum)).sum
  let productDiscountOnLineItems := (order.lineItems.filterMap fun item =>
    item.price.discounted.map fun discounted => item.price.value.centAmount-discounted.centAmount).sum
  ⟨discountOnTotalPrice+cartDiscountOnLineItems+productDiscountOnLineItems,order.totalPrice.currencyCode,
    order.totalPrice.fractionDigits,none⟩

end Money

section Conversion
variable (env : Environment)

-- An f-string prints None.
def printed (text : Option String) : String := text.getD "None"

def convertAddress : Option Address → Except Exn (Option BillingAddress)
  | none => .ok none
  | some address => do
    let line1 := printed address.streetNumber++" "++printed address.streetName
    checkText 0 255 address.firstName
    checkText 0 255 address.lastName
    checkText 0 255 (some line1)
    checkText 0 255 address.additionalStreetInfo
    checkText 0 255 address.city
    checkText 0 255 address.state
    checkText 0 64 address.postalCode
    return some ⟨address.firstName,address.lastName,line1,address.additionalStreetInfo,address.city,address.state,
      address.postalCode,address.country⟩

-- li.state[0].state.obj.name
def stateName (lineItem : LineItem) : Except Exn (Option LocalizedString) :=
  match lineItem.state with
  | [] => .error .indexError
  | ⟨none⟩::_ => .error .attributeError
  | ⟨some name⟩::_ => .ok name

def convertLineItem (lineItem : LineItem) (orderId : String) : Except Exn Line := do
  let title := unLs (some lineItem.name)
  let organization ← getLineItemAttribute lineItem "brand-text"
  let status := unLs (← stateName lineItem)
  let price ← typedMoneyToString env lineItem.price.value
  let expires ← getAttributeValue lineItem.attributes "verification-upgrade-deadline"
  let mode ← getAttributeValue lineItem.attributes "mode"
  checkText 1 255 title
  checkQuantity lineItem.quantity
  let courseOrganization ← checkString organization
  checkText 0 255 status
  return ⟨title,lineItem.quantity,price,courseOrganization,title,status,price,
    ⟨env.merchantCenterOrdersPageUrl++"/"++orderId++"/general/line-items/"++lineItem.id++"/attributes",title,expires,mode⟩⟩

def convertLineItemProdId (lineItem : LineItem) : FieldValue :=
  match attributeDict lineItem.attributes "courserun-id" with
  | some value => if value.truthy then value else .text lineItem.productId
  | none => .text lineItem.productId

-- ", ".join, which takes texts only
def joinTexts (values : List FieldValue) : Except Exn String := do
  let texts ← values.mapM fun
    | .text value => (.ok value : Except Exn String)
    | _ => .error .typeError
  return ", ".intercalate texts

def convertDiscountCodeInfo (discountCodes : Option (List (Option String))) : Option String :=
  let codes := (discountCodes.getD []).filterMap fun code => code.filter (· ≠ "")
  if codes = [] then none else some (", ".intercalate codes)

def convertDirectDiscount (directDiscounts : Option (List String)) : Option String :=
  if directDiscounts.getD [] = [] then none else some (", ".intercalate (directDiscounts.getD []))

def convertCustomer (customer : Customer) : Except Exn User := do
  checkText 1 150 (some customer.lmsUserName)
  checkText 0 254 (some customer.email)
  return ⟨customer.lmsUserName,customer.email⟩

-- payments[-1].obj.payment_method_info, where there is a payment
def lastPaymentMethod (paymentInfo : Option (List (Option PaymentMethodInfo))) : Except Exn (Option PaymentMethodInfo) :=
  match (paymentInfo.getD []).getLast? with
  | none => .ok none
  | some none => .error .attributeError
  | some (some info) => .ok (some info)

def convertPaymentInfo (paymentInfo : Option (List (Option PaymentMethodInfo))) : Except Exn (Option String) := do
  match ← lastPaymentMethod paymentInfo with
  | some info => return unLs info.name
  | none => return some "Unknown"

def taxOf (order : Order) : Except Exn (Option TypedMoney) :=
  match order.taxedPrice with
  | some taxedPrice => .ok taxedPrice.totalTax
  | none => .error .attributeError

def totalBeforeDiscounts (order : Order) : Except Exn TypedMoney := do
  let discountedAmount := calculateTotalDiscountOnOrder order
  let undiscounted ← typedMoneyAdd order.totalPrice (if discountedAmount.centAmount ≠ 0 then some discountedAmount else none)
  let totalTax ← taxOf order
  typedMoneyAdd undiscounted totalTax

def discountText (order : Order) : Except Exn (Option String) :=
  match order.discountOnTotalPrice with
  | some _ => (typedMoneyToString env (calculateTotalDiscountOnOrder order)).map some
  | none => .ok none

def thisOr (a b : Option String) : Option String := if a.getD "" ≠ "" then a else b

def orderFromCommercetools (order : Order) (customer : Customer) : Except Exn LegacyOrder := do
  let mobileOrder := (order.custom.bind (·.orderMobileOrder)).getD (.boolean false)
  let paymentMethod ← lastPaymentMethod order.paymentInfo
  let user ← convertCustomer customer
  let lines ← order.lineItems.mapM fun lineItem => convertLineItem env lineItem order.id
  let billingAddress ← convertAddress order.billingAddress
  let totalExclTax ← typedMoneyToString env order.totalPrice
  let orderProductIds ← joinTexts (order.lineItems.map convertLineItemProdId)
  let discount ← discountText env order
  let total ← totalBeforeDiscounts order
  let totalBeforeDiscountsInclTax ← typedMoneyToString env total
  let vouchers := thisOr (convertDiscountCodeInfo order.discountCodes) (convertDirectDiscount order.directDiscounts)
  let paymentName ← convertPaymentInfo order.paymentInfo
  checkText 1 128 order.orderNumber
  checkText 1 12 (some order.totalPrice.currencyCode)
  let mobileOrder ← checkBool mobileOrder
  checkText 0 100 (some order.orderState.value)
  return ⟨order.lastModifiedAt,user,totalExclTax,lines,order.orderNumber,convertDirectDiscount order.directDiscounts,billingAddress,
    "True",order.totalPrice.currencyCode,env.lmsDashboardUrl,discount,mobileOrder,"False","about:blank",orderProductIds,
    paymentMethod.bind (·.paymentInterface),paymentName,none,order.orderState.value,totalBeforeDiscountsInclTax,vouchers⟩

end Conversion

structure PaginatedResult (α : Type) where
  results : List α
  total : Nat
  offset : Nat
  deriving DecidableEq

def PaginatedResult.rebuild (page : PaginatedResult α) (results : List β) : PaginatedResult β := ⟨results,page.total,page.offset⟩

-- GetCommercetoolsOrders.run_filter, from what the client returns.
def runFilter (env : Environment) (flagIsActive : Bool) (ctOrders : Except Exn (PaginatedResult Order × Customer))
    (orderData : List (PaginatedResult LegacyOrder)) : Except Exn (List (PaginatedResult LegacyOrder)) :=
  if flagIsActive then
    match (do
      let (page,customer) ← ctOrders
      let convertedOrders ← page.results.mapM fun order => orderFromCommercetools env order customer
      return page.rebuild convertedOrders) with
    | .ok page => .ok (orderData++[page])
    | .error e => if OrderHistory.continues e then .ok orderData else .error e
  else .ok orderData

end LegacyOrders
