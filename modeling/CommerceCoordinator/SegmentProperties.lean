import CommerceCoordinator.OrderDiscounts

open Commercetools
open LegacyOrders (FieldValue TypedMoney pick lineItemAttribute)
open CatalogInfo (Product expandedType)

-- prepare_segment_event_properties and get_product_data: what the 'Order Refunded'
-- event says of an order and of its line items.
namespace SegmentProperties

-- `bundleId` is a custom field.
structure SoldItem extends OrderDiscounts.LineItem, Product where
  bundleId : Option String
  deriving DecidableEq

structure TaxedPrice where
  totalGross : TypedMoney
  totalTax : Option TypedMoney
  deriving DecidableEq

-- `cart` is the id of the cart the order was made from.
structure SoldOrder where
  orderNumber : Option String
  lastModifiedAt : Int
  cart : Option String
  lineItems : List SoldItem
  totalPrice : TypedMoney
  taxedPrice : Option TaxedPrice
  discountOnTotalPrice : Option TypedMoney
  discountCodes : List (Option String)
  deriving DecidableEq

def SoldOrder.discounts (order : SoldOrder) : OrderDiscounts.Order where
  orderNumber := order.orderNumber
  lastModifiedAt := order.lastModifiedAt
  lineItems := order.lineItems.map (·.toLineItem)
  totalPrice := order.totalPrice
  discountOnTotalPrice := order.discountOnTotalPrice
  discountCodes := order.discountCodes

structure ProductProperties where
  productId : FieldValue
  sku : Option String
  name : String
  price : ℚ
  quantity : Int
  category : FieldValue
  imageUrl : Option String
  brand : FieldValue
  url : FieldValue
  lob : FieldValue
  productType : String
  deriving DecidableEq

structure SegmentEventProperties where
  orderId : Option String
  checkoutId : String
  returnId : String
  total : ℚ
  currency : String
  tax : ℚ
  coupon : Option String
  couponName : List String
  discount : ℚ
  products : List ProductProperties
  multiItemCartEnabled : Bool
  title : Option String
  deriving DecidableEq

def centsToDollars (amount : TypedMoney) : ℚ :=
  PaymentTransactions.centsToDollars ⟨amount.centAmount,amount.currencyCode,some amount.fractionDigits⟩

def isBundle (bundleId : Option String) : Bool := bundleId.getD "" ≠ ""
def checkIsBundle (lineItems : List SoldItem) : Bool := lineItems.any fun item => isBundle item.bundleId

-- discount_code.obj.code
def codeOf (code : Option String) : Except Exn String :=
  match code with
  | some code => .ok code
  | none => .error .attributeError

def cartOf (order : SoldOrder) : Except Exn String :=
  match order.cart with
  | some cart => .ok cart
  | none => .error .attributeError

def taxedPriceOf (order : SoldOrder) : Except Exn TaxedPrice :=
  match order.taxedPrice with
  | some taxedPrice => .ok taxedPrice
  | none => .error .attributeError

def prepareSegmentEventProperties (order : SoldOrder) (totalInDollars : ℚ) (lineItemIds : List String) (returnId : String) :
    Except Exn SegmentEventProperties := do
  let cart ← cartOf order
  let taxedPrice ← taxedPriceOf order
  let codes ← order.discountCodes.mapM codeOf
  .ok
    {orderId := order.orderNumber, checkoutId := cart, returnId, total := totalInDollars,
      currency := taxedPrice.totalGross.currencyCode, tax := (taxedPrice.totalTax.map centsToDollars).getD 0,
      coupon := codes.getLast?, couponName := codes.dropLast,
      discount := centsToDollars (OrderDiscounts.calculateTotalDiscountOnOrder order.discounts (some lineItemIds)),
      products := [], multiItemCartEnabled := 1 < order.lineItems.length, title := none}

def getProductData (lineItem : SoldItem) (isBundle : Bool) : Except Exn ProductProperties := do
  let productId ← if isBundle then lineItemAttribute lineItem.attributes "course-key"
    else .ok ((lineItem.productKey.map .text).getD .null)
  let name ← match pick lineItem.name "en-US" with
    | some name => .ok name
    | none => .error (.keyError "en-US")
  let category ← lineItemAttribute lineItem.attributes "primary-subject-area"
  let brand ← lineItemAttribute lineItem.attributes "brand-text"
  let url ← lineItemAttribute lineItem.attributes "url-course"
  let lob ← lineItemAttribute lineItem.attributes "lob"
  let productType ← expandedType lineItem.toProduct
  .ok
    {productId, sku := lineItem.sku, name, price := centsToDollars lineItem.price.value, quantity := lineItem.quantity,
      category, imageUrl := lineItem.images.head?, brand, url, lob := if lob.truthy then lob else .text "edx",
      productType := productType.name}

end SegmentProperties
