import CommerceCoordinator.CatalogInfo
import CommerceCoordinator.Fulfillment
import CommerceCoordinator.OrderNumber

open Commercetools CallTree
open LegacyOrders (LocalizedString)
open CatalogInfo (Product)

-- The Commercetools resources of a mobile purchase, the calls the client makes
-- on them, and the app stores behind the purchase tokens.
namespace MobileStore

structure Customer where
  id : String
  version : Nat
  email : String
  firstName : String
  lastName : String
  -- custom fields
  lmsUserId : String
  lmsUserName : Option String
  deriving DecidableEq

inductive CustomerUpdateAction where
  | setLmsUserName (value : String)
  | changeEmail (email : String)
  | setFirstName (firstName : String)
  | setLastName (lastName : String)
  deriving DecidableEq

structure CustomerDraft where
  email : String
  firstName : String
  lastName : String
  isEmailVerified : Bool
  lmsUserId : String
  lmsUserName : String
  deriving DecidableEq

inductive CartState where
  | active | ordered
  deriving DecidableEq

structure CartItem extends LineItem, Product
  deriving DecidableEq

structure DiscountOnTotalPrice where
  discountedAmount : CentPrecisionMoney
  deriving DecidableEq

structure Cart where
  id : String
  version : Nat
  customerId : String
  cartState : CartState
  lineItems : List CartItem
  totalPrice : CentPrecisionMoney
  discountOnTotalPrice : Option DiscountOnTotalPrice
  discountCodes : List String
  -- custom field
  orderNumber : Option String
  -- paymentInfo
  payments : List String
  deriving DecidableEq

structure CartDraft where
  customerId : String
  customerEmail : String
  currency : String
  sku : String
  externalPrice : CentPrecisionMoney
  country : String
  orderNumber : String
  emailDomain : String
  mobileOrder : Bool
  deriving DecidableEq

inductive CartUpdateAction where
  | addPayment (paymentId : String)
  | setBillingAddress (country : String)
  | setShippingAddress (country : String)
  deriving DecidableEq

-- `interactionIds` are those of the transactions; a payment is created with a
-- method and a name.
structure Payment where
  id : String
  key : Option String
  customerId : Option String
  amountPlanned : CentPrecisionMoney
  interactionIds : List String
  method : String
  name : LocalizedString
  deriving DecidableEq

-- With one successful CHARGE transaction of the planned amount.
structure PaymentDraft where
  key : String
  amountPlanned : CentPrecisionMoney
  customerId : String
  interfaceId : String
  paymentInterface : String
  method : String
  name : String
  interfaceCode : String
  interfaceText : String
  interactionId : String
  timestamp : Int
  usdCentAmount : Int
  deriving DecidableEq

structure Order where
  id : String
  version : Nat
  cartId : String
  customerId : String
  orderNumber : Option String
  lineItems : List LineItem
  totalPrice : CentPrecisionMoney
  totalTax : Option CentPrecisionMoney
  discountCodes : List String
  payments : List String
  deriving DecidableEq

-- OrderTransitionLineItemStateAction, from a state's id to a state's key
structure TransitionAction where
  lineItemId : String
  quantity : Nat
  fromStateId : String
  toStateKey : String
  deriving DecidableEq

instance : Versioned.HasVersion Cart := ⟨Cart.version⟩

structure GooglePlayPurchase where
  orderId : Option String
  purchaseState : Nat
  purchaseTimeMillis : Option Int
  regionCode : Option String
  deriving DecidableEq

structure InAppPurchase where
  productId : String
  purchaseDateMs : Int
  originalTransactionId : String
  cancellationReason : Option String
  deriving DecidableEq

-- `receiptCreationDate` is none where the text is not a date; `printed` is the
-- receipt in a message.
structure AppStoreReceipt where
  inApp : List InAppPurchase
  receiptCreationDate : Option Int
  printed : String
  deriving DecidableEq

-- What the services hold that a mobile order does not change.
structure Outside where
  googlePlay : (productId purchaseToken : String) → Except String GooglePlayPurchase
  appStore : (purchaseToken : String) → Except String AppStoreReceipt
  standalonePrices : (sku : String) → List CentPrecisionMoney
  products : (sku : String) → Product
  discountOnTotalPrice : CartDraft → Option DiscountOnTotalPrice
  initialStateId : String
  stateId : (key : String) → Option String

inductive Request (ι : Type) where
  | queryCustomers (lmsUserId : String)
  | updateCustomerById (id : String) (version : Nat) (actions : List CustomerUpdateAction)
  | createCustomer (draft : CustomerDraft)
  | getCartByCustomerId (customerId : String)
  | deleteCartById (id : String) (version : Nat)
  | createCart (draft : CartDraft)
  | updateCartById (id : String) (version : Nat) (actions : List CartUpdateAction)
  | queryCarts (paymentId : String)
  | queryPayments (interactionId : String)
  | createPayment (draft : PaymentDraft)
  | createOrder (cartId : String) (version : Nat) (orderNumber : Option String)
  | updateOrderById (id : String) (version : Nat) (actions : List TransitionAction)
  | orderNumber (request : OrderNumber.Request ι)
  | getStandalonePrices (sku : String)
  | validateGooglePlay (productId purchaseToken : String)
  | validateAppStore (purchaseToken : String)

abbrev Response {ι : Type} : Request ι → Type
  | .queryCustomers _ => Except ErrorCode (List Customer)
  | .updateCustomerById _ _ _ => Except ErrorCode Customer
  | .createCustomer _ => Except ErrorCode Customer
  | .getCartByCustomerId _ => Except ErrorCode Cart
  | .deleteCartById _ _ => Except ErrorCode Cart
  | .createCart _ => Except ErrorCode Cart
  | .updateCartById _ _ _ => Except ErrorCode Cart
  | .queryCarts _ => Except ErrorCode (List Cart)
  | .queryPayments _ => Except ErrorCode (List Payment)
  | .createPayment _ => Except ErrorCode Payment
  | .createOrder _ _ _ => Except ErrorCode Order
  | .updateOrderById _ _ _ => Except ErrorCode Order
  | .orderNumber request => OrderNumber.Response request
  | .getStandalonePrices _ => List CentPrecisionMoney
  | .validateGooglePlay _ _ => Except String GooglePlayPurchase
  | .validateAppStore _ => Except String AppStoreReceipt

-- Carts are in the order of their last modification. `usedIds` are the ids
-- handed out so far, also those of resources that are gone.
structure Store (ι : Type) where
  customers : List Customer
  carts : List Cart
  payments : List Payment
  orders : List Order
  usedIds : List String
  counter : OrderNumber.Store ι

structure Choice where
  answers : Bool
  id : String

def applyCustomerAction (customer : Customer) : CustomerUpdateAction → Customer
  | .setLmsUserName value => {customer with lmsUserName := some value}
  | .changeEmail email => {customer with email}
  | .setFirstName firstName => {customer with firstName}
  | .setLastName lastName => {customer with lastName}

def applyCartAction (cart : Cart) : CartUpdateAction → Cart
  | .addPayment paymentId => {cart with payments := cart.payments++[paymentId]}
  | .setBillingAddress _ => cart
  | .setShippingAddress _ => cart

def knownPayment (s : Store ι) : CartUpdateAction → Bool
  | .addPayment paymentId => s.payments.any (·.id = paymentId)
  | _ => true

def updateCart (s : Store ι) (version : Nat) (actions : List CartUpdateAction) (cart : Cart) : Option Cart :=
  Versioned.compareAndSet version cart fun cart =>
    if cart.cartState = .active ∧ actions.all (knownPayment s) then
      some {actions.foldl applyCartAction cart with version := cart.version+1}
    else none

def lineItemOf (outside : Outside) (id : String) (draft : CartDraft) : CartItem where
  toLineItem := ⟨id,1,draft.externalPrice,[⟨1,outside.initialStateId⟩],none⟩
  toProduct := outside.products draft.sku

def cartOf (outside : Outside) (id : String) (draft : CartDraft) : Cart where
  id := id
  version := 1
  customerId := draft.customerId
  cartState := .active
  lineItems := [lineItemOf outside id draft]
  totalPrice := draft.externalPrice
  discountOnTotalPrice := outside.discountOnTotalPrice draft
  discountCodes := []
  orderNumber := some draft.orderNumber
  payments := []

def customerOf (id : String) (draft : CustomerDraft) : Customer :=
  ⟨id,1,draft.email,draft.firstName,draft.lastName,draft.lmsUserId,some draft.lmsUserName⟩

def paymentOf (id : String) (draft : PaymentDraft) : Payment :=
  ⟨id,some draft.key,some draft.customerId,draft.amountPlanned,[draft.interactionId],draft.method,[("en",draft.name)]⟩

-- No tax is calculated for a mobile cart.
def orderOf (id : String) (orderNumber : Option String) (cart : Cart) : Order where
  id := id
  version := 1
  cartId := cart.id
  customerId := cart.customerId
  orderNumber := orderNumber
  lineItems := cart.lineItems.map (·.toLineItem)
  totalPrice := cart.totalPrice
  totalTax := none
  discountCodes := cart.discountCodes
  payments := cart.payments

def applyTransition (outside : Outside) (lineItems : List LineItem) (action : TransitionAction) :
    Option (List LineItem) := do
  let toStateId ← outside.stateId action.toStateKey
  Fulfillment.updateLineItemOf lineItems action.lineItemId fun lineItem => do
    let state ← Fulfillment.transition lineItem.state action.quantity action.fromStateId toStateId
    some {lineItem with state}

def transitionOrder (outside : Outside) (actions : List TransitionAction) (order : Order) : Option Order := do
  let lineItems ← actions.foldlM (applyTransition outside) order.lineItems
  some {order with lineItems, version := order.version+1}

def replaceCart (cart : Cart) (carts : List Cart) : List Cart := carts.filter (·.id ≠ cart.id) ++ [cart]

-- Creating takes an id that was never used; keys of payments, numbers of orders
-- and emails of customers are unique.
def serve (outside : Outside) (choice : Choice) : (r : Request ι) → Store ι → Response r × Store ι
  | .queryCustomers lmsUserId,s =>
    (if choice.answers then .ok ((s.customers.filter (·.lmsUserId = lmsUserId)).take 2) else .error .unavailable,s)
  | .updateCustomerById id version actions,s =>
    if choice.answers then
      match s.customers.find? (·.id = id) with
      | none => (.error .resourceNotFound,s)
      | some customer =>
        if customer.version = version then
          let updated := {actions.foldl applyCustomerAction customer with version := customer.version+1}
          if s.customers.any fun other => other.id ≠ id ∧ other.email = updated.email then (.error .duplicateField,s)
          else (.ok updated,{s with
            customers := s.customers.map fun other => if other.id = id then updated else other})
        else (.error .concurrentModification,s)
    else (.error .unavailable,s)
  | .createCustomer draft,s =>
    if choice.answers ∧ choice.id ∉ s.usedIds then
      if s.customers.any (·.email = draft.email) then (.error .duplicateField,s)
      else (.ok (customerOf choice.id draft),{s with
        customers := s.customers++[customerOf choice.id draft], usedIds := choice.id::s.usedIds})
    else (.error .unavailable,s)
  | .getCartByCustomerId customerId,s =>
    (if choice.answers then
      match (s.carts.filter fun cart => cart.customerId = customerId ∧ cart.cartState = .active).getLast? with
      | some cart => .ok cart
      | none => .error .resourceNotFound
      else .error .unavailable,s)
  | .deleteCartById id version,s =>
    if choice.answers then
      match s.carts.find? (·.id = id) with
      | none => (.error .resourceNotFound,s)
      | some cart =>
        if cart.version = version then (.ok cart,{s with carts := s.carts.filter (·.id ≠ id)})
        else (.error .concurrentModification,s)
    else (.error .unavailable,s)
  | .createCart draft,s =>
    if choice.answers ∧ choice.id ∉ s.usedIds then
      (.ok (cartOf outside choice.id draft),{s with
        carts := s.carts++[cartOf outside choice.id draft], usedIds := choice.id::s.usedIds})
    else (.error .unavailable,s)
  | .updateCartById id version actions,s =>
    if choice.answers then
      match s.carts.find? (·.id = id) with
      | none => (.error .resourceNotFound,s)
      | some cart =>
        match updateCart s version actions cart with
        | some updated => (.ok updated,{s with carts := replaceCart updated s.carts})
        | none => (.error (if cart.version = version then .invalidOperation else .concurrentModification),s)
    else (.error .unavailable,s)
  | .queryCarts paymentId,s =>
    (if choice.answers then .ok (s.carts.filter (paymentId ∈ ·.payments)) else .error .unavailable,s)
  | .queryPayments interactionId,s =>
    (if choice.answers then .ok (s.payments.filter (interactionId ∈ ·.interactionIds)) else .error .unavailable,s)
  | .createPayment draft,s =>
    if choice.answers ∧ choice.id ∉ s.usedIds then
      if s.payments.any (·.key = some draft.key) then (.error .duplicateField,s)
      else (.ok (paymentOf choice.id draft),{s with
        payments := s.payments++[paymentOf choice.id draft], usedIds := choice.id::s.usedIds})
    else (.error .unavailable,s)
  | .createOrder cartId version orderNumber,s =>
    if choice.answers ∧ choice.id ∉ s.usedIds then
      match s.carts.find? (·.id = cartId) with
      | none => (.error .resourceNotFound,s)
      | some cart =>
        if cart.version ≠ version then (.error .concurrentModification,s)
        else if cart.cartState ≠ .active then (.error .invalidOperation,s)
        else if orderNumber.isSome ∧ s.orders.any (·.orderNumber = orderNumber) then (.error .duplicateField,s)
        else (.ok (orderOf choice.id orderNumber cart),{s with
          carts := replaceCart {cart with cartState := .ordered, version := cart.version+1} s.carts
          orders := s.orders++[orderOf choice.id orderNumber cart], usedIds := choice.id::s.usedIds})
    else (.error .unavailable,s)
  | .updateOrderById id version actions,s =>
    if choice.answers then
      match s.orders.find? (·.id = id) with
      | none => (.error .resourceNotFound,s)
      | some order =>
        if order.version = version then
          match transitionOrder outside actions order with
          | some updated => (.ok updated,{s with
              orders := s.orders.map fun other => if other = order then updated else other})
          | none => (.error .invalidOperation,s)
        else (.error .concurrentModification,s)
    else (.error .unavailable,s)
  | .orderNumber request,s =>
    let (answer,counter) := OrderNumber.serve choice.answers request s.counter
    (answer,{s with counter})
  | .getStandalonePrices sku,s => (if choice.answers then outside.standalonePrices sku else [],s)
  | .validateGooglePlay productId purchaseToken,s =>
    (if choice.answers then outside.googlePlay productId purchaseToken else .error "unavailable",s)
  | .validateAppStore purchaseToken,s =>
    (if choice.answers then outside.appStore purchaseToken else .error "unavailable",s)

def advanceClock (year : OrderNumber.Year) (s : Store ι) : Option (Store ι) :=
  (OrderNumber.advanceClock year s.counter).map fun counter => {s with counter}

def commercetools (outside : Outside) : System (Request ι) Response Exn (Store ι) Choice OrderNumber.Year where
  serve := serve outside
  environment := advanceClock
  restarts := fun _ => false

theorem customer_updated (actions : List CustomerUpdateAction) (customer : Customer) :
    (actions.foldl applyCustomerAction customer).id = customer.id := by
  induction actions generalizing customer with
  | nil => rfl
  | cons action rest ih => exact (ih _).trans (by cases action <;> rfl)

section Cases
variable {ι : Type} (outside : Outside) (choice : Choice) (cartId : String) (version : Nat) (s : Store ι)

theorem update_cart_cases (actions : List CartUpdateAction) :
    (∃ code, serve outside choice (.updateCartById cartId version actions) s = (.error code,s)) ∨
    ∃ cart updated, s.carts.find? (·.id = cartId) = some cart ∧ updateCart s version actions cart = some updated ∧
      serve outside choice (.updateCartById cartId version actions) s =
        (.ok updated,{s with carts := replaceCart updated s.carts}) := by
  simp only [serve]
  split
  · cases found : s.carts.find? (·.id = cartId) with
    | none => exact .inl ⟨_,rfl⟩
    | some cart =>
      dsimp only
      cases accepted : updateCart s version actions cart with
      | none => exact .inl ⟨_,rfl⟩
      | some updated => exact .inr ⟨cart,updated,rfl,accepted,rfl⟩
  · exact .inl ⟨_,rfl⟩

theorem create_order_cases (orderNumber : Option String) :
    (∃ code, serve outside choice (.createOrder cartId version orderNumber) s = (.error code,s)) ∨
    ∃ cart, s.carts.find? (·.id = cartId) = some cart ∧ cart.version = version ∧ cart.cartState = .active ∧
      choice.id ∉ s.usedIds ∧ serve outside choice (.createOrder cartId version orderNumber) s =
        (.ok (orderOf choice.id orderNumber cart),{s with
          carts := replaceCart {cart with cartState := .ordered, version := cart.version+1} s.carts
          orders := s.orders++[orderOf choice.id orderNumber cart], usedIds := choice.id::s.usedIds}) := by
  simp only [serve]
  split
  · rename_i accepted
    cases found : s.carts.find? (·.id = cartId) with
    | none => exact .inl ⟨_,rfl⟩
    | some cart =>
      dsimp only
      split
      · exact .inl ⟨_,rfl⟩
      · rename_i current
        split
        · exact .inl ⟨_,rfl⟩
        · rename_i active
          split
          · exact .inl ⟨_,rfl⟩
          · exact .inr ⟨cart,rfl,not_ne_iff.mp current,not_ne_iff.mp active,accepted.2,rfl⟩
  · exact .inl ⟨_,rfl⟩

theorem get_cart_cases (customerId : String) :
    (∃ code, serve outside choice (.getCartByCustomerId customerId) s = (.error code,s)) ∨
    ∃ cart, (s.carts.filter fun cart => cart.customerId = customerId ∧ cart.cartState = .active).getLast? = some cart ∧
      serve outside choice (.getCartByCustomerId customerId) s = (.ok cart,s) := by
  simp only [serve]
  split
  · cases found : (s.carts.filter fun cart => cart.customerId = customerId ∧ cart.cartState = .active).getLast? with
    | none => exact .inl ⟨_,rfl⟩
    | some cart => exact .inr ⟨cart,rfl,rfl⟩
  · exact .inl ⟨_,rfl⟩

theorem delete_cart_cases :
    (∃ code, serve outside choice (.deleteCartById cartId version) s = (.error code,s)) ∨
    ∃ cart, s.carts.find? (·.id = cartId) = some cart ∧ cart.version = version ∧
      serve outside choice (.deleteCartById cartId version) s = (.ok cart,{s with carts := s.carts.filter (·.id ≠ cartId)}) := by
  simp only [serve]
  split
  · cases found : s.carts.find? (·.id = cartId) with
    | none => exact .inl ⟨_,rfl⟩
    | some cart =>
      dsimp only
      split
      · exact .inr ⟨cart,rfl,by assumption,rfl⟩
      · exact .inl ⟨_,rfl⟩
  · exact .inl ⟨_,rfl⟩

theorem update_customer_cases (id : String) (updates : List CustomerUpdateAction) :
    (∃ code, serve outside choice (.updateCustomerById id version updates) s = (.error code,s)) ∨
    ∃ customer updated, s.customers.find? (·.id = id) = some customer ∧ updated.id = customer.id ∧
      serve outside choice (.updateCustomerById id version updates) s = (.ok updated,{s with
        customers := s.customers.map fun other => if other.id = id then updated else other}) := by
  simp only [serve]
  split
  · cases found : s.customers.find? (·.id = id) with
    | none => exact .inl ⟨_,rfl⟩
    | some customer =>
      dsimp only
      split
      · split
        · exact .inl ⟨_,rfl⟩
        · refine .inr ⟨customer,_,rfl,?_,rfl⟩
          exact customer_updated updates customer
      · exact .inl ⟨_,rfl⟩
  · exact .inl ⟨_,rfl⟩

theorem create_customer_cases (draft : CustomerDraft) :
    (∃ code, serve outside choice (.createCustomer draft) s = (.error code,s)) ∨
    choice.id ∉ s.usedIds ∧ serve outside choice (.createCustomer draft) s = (.ok (customerOf choice.id draft),{s with
      customers := s.customers++[customerOf choice.id draft], usedIds := choice.id::s.usedIds}) := by
  simp only [serve]
  split
  · rename_i accepted
    split
    · exact .inl ⟨_,rfl⟩
    · exact .inr ⟨accepted.2,rfl⟩
  · exact .inl ⟨_,rfl⟩

theorem create_cart_cases (draft : CartDraft) :
    (∃ code, serve outside choice (.createCart draft) s = (.error code,s)) ∨
    choice.id ∉ s.usedIds ∧ serve outside choice (.createCart draft) s = (.ok (cartOf outside choice.id draft),{s with
      carts := s.carts++[cartOf outside choice.id draft], usedIds := choice.id::s.usedIds}) := by
  simp only [serve]
  split
  · rename_i accepted
    exact .inr ⟨accepted.2,rfl⟩
  · exact .inl ⟨_,rfl⟩

theorem create_payment_cases (draft : PaymentDraft) :
    (∃ code, serve outside choice (.createPayment draft) s = (.error code,s)) ∨
    choice.id ∉ s.usedIds ∧ serve outside choice (.createPayment draft) s = (.ok (paymentOf choice.id draft),{s with
      payments := s.payments++[paymentOf choice.id draft], usedIds := choice.id::s.usedIds}) := by
  simp only [serve]
  split
  · rename_i accepted
    split
    · exact .inl ⟨_,rfl⟩
    · exact .inr ⟨accepted.2,rfl⟩
  · exact .inl ⟨_,rfl⟩

theorem update_order_cases (orderId : String) (actions : List TransitionAction) :
    (∃ code, serve outside choice (.updateOrderById orderId version actions) s = (.error code,s)) ∨
    ∃ order updated, transitionOrder outside actions order = some updated ∧
      serve outside choice (.updateOrderById orderId version actions) s =
        (.ok updated,{s with orders := s.orders.map fun other => if other = order then updated else other}) := by
  simp only [serve]
  split
  · cases found : s.orders.find? (·.id = orderId) with
    | none => exact .inl ⟨_,rfl⟩
    | some order =>
      dsimp only
      split
      · cases changed : transitionOrder outside actions order with
        | none => exact .inl ⟨_,rfl⟩
        | some updated => exact .inr ⟨order,updated,changed,rfl⟩
      · exact .inl ⟨_,rfl⟩
  · exact .inl ⟨_,rfl⟩

theorem transition_order_kept {order updated : Order} (changed : transitionOrder outside actions order = some updated) :
    updated.payments = order.payments := by
  obtain ⟨lineItems,_,same⟩ := Option.bind_eq_some_iff.mp changed
  cases same
  rfl

end Cases

end MobileStore
