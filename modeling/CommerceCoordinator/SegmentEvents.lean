import CommerceCoordinator.MobileStore
import CommerceCoordinator.PaymentTransactions

open Commercetools MobileStore PaymentTransactions
open LegacyOrders (FieldValue getAttributeValue pick)
open CatalogInfo (expandedType)

-- What a mobile order reports to Segment: each event as it is put together, which
-- may raise, before it is sent.
namespace SegmentEvents

structure ProductData where
  productId : Option String
  sku : Option String
  name : String
  price : ℚ
  quantity : Nat
  category : FieldValue
  url : FieldValue
  lob : FieldValue
  imageUrl : Option String
  brand : FieldValue
  productType : Option String
  deriving DecidableEq

structure CheckoutStarted where
  cartId : String
  currency : String
  revenue : ℚ
  coupon : Option String
  discount : ℚ
  products : List ProductData
  multiItemCartEnabled : Bool
  deriving DecidableEq

structure ProductAdded where
  cartId : String
  coupon : Option String
  product : ProductData
  multiItemCartEnabled : Bool
  deriving DecidableEq

structure PaymentInfoEntered where
  cartId : String
  currency : String
  paymentMethod : String
  multiItemCartEnabled : Bool
  deriving DecidableEq

structure OrderCompleted where
  orderId : String
  cartId : String
  currency : String
  total : ℚ
  tax : ℚ
  coupon : Option String
  couponName : List String
  discount : ℚ
  paymentMethod : String
  processorName : String
  products : List ProductData
  multiItemCartEnabled : Bool
  deriving DecidableEq

def edxCourseEntitlement : String := "edx_course_entitlement"

-- For an entitlement the variant is read as a dict, which it is not.
def productIdOf (lineItem : CartItem) : Except Exn (Option String) := do
  let productType ← expandedType lineItem.toProduct
  if productType.key = some edxCourseEntitlement then .error .typeError else .ok lineItem.productKey

def getProductFromLineItem (lineItem : CartItem) (standalonePrice : CentPrecisionMoney) : Except Exn ProductData := do
  let productId ← productIdOf lineItem
  let category ← getAttributeValue lineItem.attributes "primary-subject-area"
  let url ← getAttributeValue lineItem.attributes "url-course"
  let lob ← getAttributeValue lineItem.attributes "lob"
  let brand ← getAttributeValue lineItem.attributes "brand-text"
  let productType ← expandedType lineItem.toProduct
  .ok
    {productId, sku := lineItem.sku, name := (pick lineItem.name "en-US").getD "", price := centsToDollars standalonePrice,
      quantity := lineItem.quantity, category, url, lob := if lob.truthy then lob else .text "edx",
      imageUrl := lineItem.images.head?, brand, productType := (some productType.name).filter (· ≠ "")}

-- "code" in discount_codes[-1], of which none is a container
def discountCode (discountCodes : List String) : Except Exn (Option String) :=
  if discountCodes = [] then .ok none else .error .typeError

-- sum_money of the discount of a cart, whose amount is a member of a member
def sumMoney (discountOnTotalPrice : Option DiscountOnTotalPrice) : Except Exn (Option CentPrecisionMoney) :=
  match discountOnTotalPrice with
  | none => .ok none
  | some _ => .error .attributeError

def inDollars (amount : Option CentPrecisionMoney) : ℚ := (amount.map centsToDollars).getD 0

def products (lineItems : List CartItem) (standalonePrice : CentPrecisionMoney) : Except Exn (List ProductData) :=
  lineItems.mapM fun item => getProductFromLineItem item standalonePrice

def emitCheckoutStartedEvent (cartId : String) (standalonePrice : CentPrecisionMoney) (lineItems : List CartItem)
    (discountCodes : List String) (discountOnTotalPrice : Option DiscountOnTotalPrice) : Except Exn CheckoutStarted := do
  let coupon ← discountCode discountCodes
  let discount ← sumMoney discountOnTotalPrice
  let products ← products lineItems standalonePrice
  .ok ⟨cartId,standalonePrice.currencyCode,centsToDollars standalonePrice,coupon,inDollars discount,products,
    1 < lineItems.length⟩

def emitProductAddedEvent (cartId : String) (standalonePrice : CentPrecisionMoney) (lineItem : CartItem)
    (discountCodes : List String) (lineItems : List CartItem) : Except Exn ProductAdded := do
  let coupon ← discountCode discountCodes
  let product ← getProductFromLineItem lineItem standalonePrice
  .ok ⟨cartId,coupon,product,1 < lineItems.length⟩

def emitPaymentInfoEnteredEvent (cartId : String) (standalonePrice : CentPrecisionMoney) (paymentMethod : String)
    (lineItems : List CartItem) : Except Exn PaymentInfoEntered :=
  .ok ⟨cartId,standalonePrice.currencyCode,paymentMethod,1 < lineItems.length⟩

-- coupon_name lists the codes that are dicts.
def emitOrderCompletedEvent (cartId orderId : String) (tax : Option CentPrecisionMoney) (standalonePrice : CentPrecisionMoney)
    (lineItems : List CartItem) (paymentMethod processorName : String) (discountCodes : List String)
    (discountOnTotalPrice : Option DiscountOnTotalPrice) : Except Exn OrderCompleted := do
  let coupon ← discountCode discountCodes
  let discount ← sumMoney discountOnTotalPrice
  let products ← products lineItems standalonePrice
  .ok
    {orderId, cartId, currency := standalonePrice.currencyCode, total := centsToDollars standalonePrice, tax := inDollars tax,
      coupon, couponName := [], discount := inDollars discount, paymentMethod, processorName, products,
      multiItemCartEnabled := 1 < lineItems.length}

-- What the events read of a cart: product types that are expanded and no
-- entitlements, variants with attributes, and no discount.
structure Described (lineItem : CartItem) : Prop where
  typed : ∃ productType, lineItem.productType = some productType ∧ productType.key ≠ some edxCourseEntitlement
  attributes : lineItem.attributes.isSome

structure Reportable (cart : Cart) : Prop where
  codes : cart.discountCodes = []
  discount : cart.discountOnTotalPrice = none
  lineItems : ∀ item ∈ cart.lineItems, Described item

def Unreported (e : Exn) : Prop := e = .typeError ∨ e = .attributeError

section Reports
variable {standalonePrice : CentPrecisionMoney} {cart : Cart} {lineItem : CartItem}

def Tells (fit : Prop) (x : Except Exn α) : Prop := fit ∧ (∃ a, x = .ok a) ∨ ¬fit ∧ ∃ e, x = .error e ∧ Unreported e

theorem product_told : Tells (Described lineItem) (getProductFromLineItem lineItem standalonePrice) := by
  unfold getProductFromLineItem productIdOf expandedType getAttributeValue LegacyOrders.iterate
  cases typed : lineItem.productType with
  | none =>
    refine .inr ⟨fun described => ?_,.attributeError,rfl,.inr rfl⟩
    obtain ⟨productType,given,_⟩ := described.typed
    cases typed.symm.trans given
  | some productType =>
    by_cases entitlement : productType.key = some edxCourseEntitlement
    · refine .inr ⟨fun described => ?_,.typeError,by simp [entitlement,bind,Except.bind],.inl rfl⟩
      obtain ⟨other,given,course⟩ := described.typed
      cases typed.symm.trans given
      exact course entitlement
    · cases attributes : lineItem.attributes with
      | none =>
        refine .inr ⟨fun described => ?_,.typeError,by simp [entitlement,bind,Except.bind],.inl rfl⟩
        simpa [attributes] using described.attributes
      | some listed =>
        refine .inl ⟨⟨⟨productType,typed,entitlement⟩,by simp [attributes]⟩,?_⟩
        simp [entitlement,bind,Except.bind,pure,Except.pure]

theorem products_told (lineItems : List CartItem) :
    Tells (∀ item ∈ lineItems, Described item) (products lineItems standalonePrice) := by
  induction lineItems with
  | nil => exact .inl ⟨by simp,[],rfl⟩
  | cons item rest ih =>
    unfold Tells products at ih ⊢
    rw [List.mapM_cons,List.forall_mem_cons]
    rcases @product_told standalonePrice item with ⟨described,data,told⟩ | ⟨bare,e,failed,kind⟩
    · rw [told]
      rcases ih with ⟨others,datas,told⟩ | ⟨bare,e,failed,kind⟩
      · rw [told]
        exact .inl ⟨⟨described,others⟩,_,rfl⟩
      · rw [failed]
        exact .inr ⟨fun both => bare both.2,e,rfl,kind⟩
    · rw [failed]
      exact .inr ⟨fun both => bare both.1,e,rfl,kind⟩

theorem checkout_started_told : Tells (Reportable cart) (emitCheckoutStartedEvent cart.id standalonePrice cart.lineItems
    cart.discountCodes cart.discountOnTotalPrice) := by
  unfold emitCheckoutStartedEvent discountCode sumMoney
  by_cases codes : cart.discountCodes = []
  · rw [if_pos codes]
    cases discount : cart.discountOnTotalPrice with
    | some amount =>
      refine .inr ⟨fun reportable => ?_,.attributeError,rfl,.inr rfl⟩
      cases discount.symm.trans reportable.discount
    | none =>
      rcases @products_told standalonePrice cart.lineItems with ⟨described,datas,told⟩ | ⟨bare,e,failed,kind⟩
      · rw [told]
        exact .inl ⟨⟨codes,discount,described⟩,_,rfl⟩
      · rw [failed]
        exact .inr ⟨fun reportable => bare reportable.lineItems,e,rfl,kind⟩
  · rw [if_neg codes]
    exact .inr ⟨fun reportable => codes reportable.codes,.typeError,rfl,.inl rfl⟩

theorem product_added_told (reportable : Reportable cart) (member : lineItem ∈ cart.lineItems) :
    ∃ event, emitProductAddedEvent cart.id standalonePrice lineItem cart.discountCodes cart.lineItems = .ok event := by
  rcases @product_told standalonePrice lineItem with ⟨_,data,told⟩ | ⟨bare,_⟩
  · exact ⟨_,by rw [emitProductAddedEvent,discountCode,if_pos reportable.codes,told]; rfl⟩
  · exact absurd (reportable.lineItems lineItem member) bare

theorem order_completed_told (reportable : Reportable cart) (cartId orderId : String) (tax : Option CentPrecisionMoney)
    (paymentMethod processorName : String) (discountCodes : List String) :
    Tells (discountCodes = []) (emitOrderCompletedEvent cartId orderId tax standalonePrice cart.lineItems paymentMethod
      processorName discountCodes cart.discountOnTotalPrice) := by
  unfold emitOrderCompletedEvent discountCode sumMoney
  by_cases codes : discountCodes = []
  · rcases @products_told standalonePrice cart.lineItems with ⟨_,datas,told⟩ | ⟨bare,_⟩
    · rw [if_pos codes,reportable.discount,told]
      exact .inl ⟨codes,_,rfl⟩
    · exact absurd reportable.lineItems bare
  · rw [if_neg codes]
    exact .inr ⟨codes,.typeError,rfl,.inl rfl⟩

end Reports

end SegmentEvents
