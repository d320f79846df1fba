import CommerceCoordinator.SegmentEvents

open Commercetools CallTree MobileStore SegmentEvents
open LegacyOrders (pick)

-- MobileCreateOrderView.post: a validated store purchase becomes a cart with a
-- payment, and the cart an order.
namespace MobileCreateOrder

def androidIap : String := "android_iap"
def iosIap : String := "ios_iap"
def pendingFulfilmentState : String := "2u-fulfillment-pending-state"

-- `fullName` is the name of a user without first and last name.
structure User where
  lmsUserId : Option Nat
  username : String
  email : String
  firstName : String
  lastName : String
  fullName : String
  deriving DecidableEq

-- `price` is in hundred-thousandths, to which the serializer quantizes.
structure MobileOrderRequestData where
  courseRunKey : String
  currencyCode : String
  price : Int
  paymentProcessor : String
  purchaseToken : String
  deriving DecidableEq

-- `request.data` as sent, where the view reads it again, and as validated.
structure MobileOrderRequest where
  paymentProcessor : String
  purchaseToken : String
  data : MobileOrderRequestData
  deriving DecidableEq

abbrev Call (ι α : Type) := Prog (Request ι) Response Exn α

section Client
variable {ι α : Type}

def conditionalRetry (p : Call ι α) : Call ι α := p.retry OrderNumber.isCommercetoolsError 2

def getCustomerByLmsUserId (lmsUserId : Option Nat) : Call ι (Option Customer) :=
  match lmsUserId with
  | none => .raise .valueError
  | some 0 => .raise .valueError
  | some id => conditionalRetry do
    match ← .expect .commercetoolsError (.perform (Request.queryCustomers (toString id))) with
    | [] => return none
    | [customer] => return some customer
    | _ => .raise .valueError

def createCustomer (email firstName lastName lmsUserId lmsUserName : String) : Call ι Customer :=
  conditionalRetry (.expect .commercetoolsError
    (.perform (Request.createCustomer ⟨email,firstName,lastName,true,lmsUserId,lmsUserName⟩)))

def updateCustomer (customer : Customer) (updates : List CustomerUpdateAction) : Call ι Customer :=
  conditionalRetry (.expect .commercetoolsError
    (.perform (Request.updateCustomerById customer.id customer.version updates)))

def getCustomerCart (customerId : String) : Call ι (Option Cart) := conditionalRetry do
  match ← .perform (Request.getCartByCustomerId customerId) with
  | .ok cart => return some cart
  | .error .resourceNotFound => return none
  | .error code => .raise (.commercetoolsError code)

def deleteCart (cart : Cart) : Call ι Unit := conditionalRetry do
  let _ ← .expect .commercetoolsError (.perform (Request.deleteCartById cart.id cart.version))
  return ()

def getNewOrderNumber (caller : ι) : Call ι String :=
  (OrderNumber.getNewOrderNumber true caller).embed .orderNumber fun _ answer => answer

def createCart (courseRunKey : String) (customer : Customer) (emailDomain : String)
    (externalPrice : CentPrecisionMoney) (orderNumber : String) : Call ι Cart :=
  conditionalRetry (.expect .commercetoolsError (.perform (Request.createCart
    ⟨customer.id,customer.email,externalPrice.currencyCode,courseRunKey,externalPrice,"UNDEFINED",orderNumber,
      emailDomain,true⟩)))

def cartActions (paymentId : String) (address : Option String) : List CartUpdateAction :=
  .addPayment paymentId :: match address with
    | some country => [.setBillingAddress country,.setShippingAddress country]
    | none => []

def addPaymentAndAddressToCart (cart : Cart) (paymentId : String) (address : Option String) : Call ι Cart :=
  conditionalRetry (.expect .commercetoolsError
    (.perform (Request.updateCartById cart.id cart.version (cartActions paymentId address))))

def paymentName (paymentMethod : String) : String :=
  if paymentMethod = androidIap then "Android In-app Purchase"
  else if paymentMethod = iosIap then "iOS In-app Purchase"
  else paymentMethod

def capitalize (s : String) : String :=
  match s.toList with
  | [] => ""
  | c::rest => String.ofList (c.toUpper :: rest.map Char.toLower)

def paymentDraft (amountPlanned : CentPrecisionMoney) (customerId paymentMethod paymentStatus paymentProcessor
    pspPaymentId pspTransactionId : String) (pspTransactionCreatedAt usdCentAmount : Int) : PaymentDraft where
  key := normalizedPaymentKey pspPaymentId
  amountPlanned := amountPlanned
  customerId := customerId
  interfaceId := pspPaymentId
  paymentInterface := paymentProcessor++"_edx"
  method := paymentMethod
  name := paymentName paymentMethod
  interfaceCode := paymentStatus
  interfaceText := capitalize paymentStatus
  interactionId := pspTransactionId
  timestamp := pspTransactionCreatedAt
  usdCentAmount := usdCentAmount

def createPayment (draft : PaymentDraft) : Call ι MobileStore.Payment :=
  conditionalRetry (.expect .commercetoolsError (.perform (Request.createPayment draft)))

def createOrderFromCart (cart : Cart) : Call ι MobileStore.Order :=
  conditionalRetry (.expect .commercetoolsError
    (.perform (Request.createOrder cart.id cart.version cart.orderNumber)))

-- With use_state_id the transition is asked for whatever the new state is.
def updateLineItemsTransitionState (orderId : String) (orderVersion : Nat) (lineItems : List LineItem)
    (fromStateId newStateKey : String) : Call ι MobileStore.Order :=
  conditionalRetry (.expect .commercetoolsError (.perform (Request.updateOrderById orderId orderVersion
    (lineItems.map fun item => ⟨item.id,item.quantity,fromStateId,newStateKey⟩))))

end Client

section Utils
variable {ι : Type}

-- full_name.split(" ", 1), where the user has no first and last name
def splitName (user : User) : String × String :=
  if (user.firstName = "" ∨ user.lastName = "") ∧ user.fullName ≠ "" then
    (String.ofList (user.fullName.toList.takeWhile (· ≠ ' ')),
      String.ofList ((user.fullName.toList.dropWhile (· ≠ ' ')).drop 1))
  else (user.firstName,user.lastName)

def getAttributesToUpdate (user : User) (customer : Customer) (firstName lastName : String) :
    List CustomerUpdateAction :=
  (if customer.lmsUserName ≠ some user.username then [.setLmsUserName user.username] else []) ++
  (if customer.email ≠ user.email then [.changeEmail user.email] else []) ++
  (if customer.firstName ≠ firstName then [.setFirstName firstName] else []) ++
  (if customer.lastName ≠ lastName then [.setLastName lastName] else [])

def getCtCustomer (user : User) : Call ι Customer := do
  let customer ← getCustomerByLmsUserId user.lmsUserId
  let (firstName,lastName) := splitName user
  match customer with
  | some customer =>
    let updates := getAttributesToUpdate user customer firstName lastName
    if updates ≠ [] then updateCustomer customer updates else return customer
  | none => createCustomer user.email firstName lastName (toString (user.lmsUserId.getD 0)) user.username

def lower (s : String) : String := String.ofList (s.toList.map Char.toLower)

-- email.lower().strip().partition("@")[-1]
def getEmailDomain (email : String) : String :=
  String.ofList (((lower email).trimAscii.toString.toList.dropWhile (· ≠ '@')).drop 1)

def getStandalonePriceForSku (sku : String) : Call ι CentPrecisionMoney := do
  match ← .perform (Request.getStandalonePrices sku) with
  | [] => .raise .valueError
  | price::_ => return price

def convertLocalizedPriceToCtCentAmount (amount : ℚ) (fractionDigits exponent : Nat) : Int :=
  PaymentTransactions.truncate (amount*10^fractionDigits/10^exponent)

end Utils

inductive IapError where
  | validationError (message : String)
  | userCancelled (message : String)
  | paymentError (message : String)
  | receiptError (message : String)
  | redundantPaymentError (message : String)
  | commercetoolsError (code : ErrorCode)
  | other
  deriving DecidableEq

structure ValidationResponse where
  transactionId : String
  createdAt : Int
  payment : Option MobileStore.Payment
  regionCode : Option String
  deriving DecidableEq

abbrev IapCall (ι α : Type) := Prog (Request ι) Response IapError α

section PaymentProcessor
variable {ι α : Type}

def getPaymentByTransactionInteractionId (interactionId : String) : IapCall ι (Option MobileStore.Payment) := do
  let results ← .expect .commercetoolsError (.perform (Request.queryPayments interactionId))
  return results.head?

def isDanglingPayment (payment : MobileStore.Payment) : IapCall ι Bool := do
  match ← .perform (Request.queryCarts payment.id) with
  | .ok carts => return carts.isEmpty
  | .error _ => return false

def redundantPayment (transactionId : String) : String :=
  "Redundant payment: existing payment found with transaction ID: "++transactionId++", already attached to a cart."

def checkExistingPayment (transactionId : String) : IapCall ι (Option MobileStore.Payment) := do
  match ← getPaymentByTransactionInteractionId transactionId with
  | none => return none
  | some payment =>
    if ← isDanglingPayment payment then return some payment
    else .raise (.redundantPaymentError (redundantPayment transactionId))

-- The first of the latest purchases, as max() finds it.
def latestPurchase : List InAppPurchase → Option InAppPurchase
  | [] => none
  | purchase::rest =>
    match latestPurchase rest with
    | none => some purchase
    | some later => some (if purchase.purchaseDateMs < later.purchaseDateMs then later else purchase)

def getConsumableIosSku (price : Int) : String := "mobile.ios.usd"++toString price
def getConsumableAndroidSku (price : Int) : String := "mobile.android.usd"++toString price

def isExpired (_ : GooglePlayPurchase) : Bool := false

def handleAndroidValidation (purchase : GooglePlayPurchase) : IapCall ι ValidationResponse := do
  let transactionId := purchase.orderId.getD ""
  if transactionId = "" then .raise (.validationError "Android IAP validation missing transaction ID.")
  else if purchase.purchaseState = 1 then
    .raise (.userCancelled ("Android payment is cancelled for ["++transactionId++"]"))
  else if isExpired purchase then .raise (.paymentError ("Android payment is expired for ["++transactionId++"]"))
  else do
    let payment ← checkExistingPayment transactionId
    match purchase.purchaseTimeMillis with
    | none => .raise .other
    | some createdAt => return ⟨transactionId,createdAt,payment,purchase.regionCode⟩

def handleIosValidation (receipt : AppStoreReceipt) (price : Int) (cartId : String) :
    IapCall ι ValidationResponse := do
  if receipt.inApp.isEmpty then
    .raise (.receiptError ("No in-app purchases found in the receipt: "++receipt.printed))
  else match latestPurchase (receipt.inApp.filter (·.productId = getConsumableIosSku price)) with
  | none => .raise (.validationError ("No matching iOS IAP purchase found for SKU: "++getConsumableIosSku price++
      " for receipt: "++receipt.printed))
  | some purchase =>
    let transactionId := purchase.originalTransactionId
    if purchase.cancellationReason.isSome then
      .raise (.userCancelled ("iOS payment is cancelled for ["++transactionId++"] in cart ["++cartId++"]"))
    else do
      let payment ← checkExistingPayment transactionId
      match receipt.receiptCreationDate with
      | none => .raise .other
      | some createdAt => return ⟨transactionId,createdAt,payment,none⟩

-- stop_after_attempt(AVAILABLE_ATTEMPTS + RETRY_ATTEMPTS); what is left is raised
-- as a ValidationError.
def retryValidation (validation : IapCall ι (Except String α)) : IapCall ι α :=
  (Prog.expect .validationError validation).retry (fun _ => true) 2

def validateIap (paymentProcessor purchaseToken cartId : String) (price : Int) :
    IapCall ι ValidationResponse := do
  if paymentProcessor = androidIap then
    let purchase ← retryValidation
      (.perform (Request.validateGooglePlay (getConsumableAndroidSku price) purchaseToken))
    handleAndroidValidation purchase
  else if paymentProcessor = iosIap then
    let receipt ← retryValidation (.perform (Request.validateAppStore purchaseToken))
    handleIosValidation receipt price cartId
  else .raise (.validationError ("Unsupported payment_processor: "++paymentProcessor))

inductive PaymentInfo where
  | accepted (response : ValidationResponse)
  | refused (error : String) (statusCode : Nat)
  deriving DecidableEq

def refusal : IapError → PaymentInfo
  | .validationError message => .refused message 400
  | .userCancelled message => .refused message 400
  | .paymentError message => .refused message 400
  | .receiptError message => .refused message 402
  | .redundantPaymentError message => .refused message 409
  | .commercetoolsError _ => .refused "Internal Server Error" 500
  | .other => .refused "Internal Server Error" 500

def getPaymentInfoFromPurchaseToken (paymentProcessor purchaseToken cartId : String) (price : Int) :
    Call ι PaymentInfo := do
  if lower paymentProcessor ≠ androidIap ∧ lower paymentProcessor ≠ iosIap then
    return .refused "Unsupported payment processor" 400
  else match ← (validateIap paymentProcessor purchaseToken cartId price).attempt with
    | .ok response => return .accepted response
    | .error error => return refusal error

end PaymentProcessor

inductive HttpResponse where
  | created (orderId : String) (orderNumber : Option String)
  | error (message : String) (status : Nat)
  deriving DecidableEq

structure Locals where
  forUserMsg : String
  cart : Option Cart
  order : Option MobileStore.Order

structure Failed where
  locals : Locals
  error : Exn

section View
variable {ι α : Type}

abbrev Body (ι α : Type) := Prog (Request ι) Response Failed α

def during (locals : Locals) (p : Call ι α) : Body ι α := .expect (⟨locals,·⟩) p.attempt

def priceText (price : Int) : String :=
  (if price < 0 then "-" else "")++toString (price.natAbs/100000)++"."++
    OrderNumber.zfill 5 (toString (price.natAbs%100000))

def forLmsUser (user : User) : String := "for LMS user: "++(user.lmsUserId.map toString).getD "None"

def forCustomer (user : User) (customer : Customer) (data : MobileOrderRequestData) : String :=
  forLmsUser user++", Customer ID: "++customer.id++", PSP: "++data.paymentProcessor++
    ", course_run_key: "++data.courseRunKey++", price: "++data.currencyCode++" "++priceText data.price

def validationFailed (forUserMsg error : String) : String :=
  "[CreateOrderView] Payment Validation Failed "++forUserMsg++". "++
    if error ≠ "" then "Error: "++error else ""

def externalPriceOf (currencies : String → Option Nat) (data : MobileOrderRequestData) :
    Call ι CentPrecisionMoney :=
  match currencies data.currencyCode with
  | none => .raise .valueError
  | some fractionDigits => .pure
      ⟨convertLocalizedPriceToCtCentAmount (data.price/100000) fractionDigits 0,data.currencyCode,none⟩

def firstStateId (order : MobileStore.Order) : Call ι String :=
  match order.lineItems with
  | ⟨_,_,_,state::_,_⟩::_ => .pure state.stateId
  | _ => .raise .indexError

def emits (x : Except Exn α) : Call ι α := .orRaise id x

def emitProductAddedEvents (standalonePrice : CentPrecisionMoney) (cart : Cart) : Except Exn Unit :=
  cart.lineItems.forM fun item => do
    let _ ← emitProductAddedEvent cart.id standalonePrice item cart.discountCodes cart.lineItems
    return ()

def completeOrder (forUserMsg : String) (standalonePrice : CentPrecisionMoney) (cart : Cart) (payment : MobileStore.Payment)
    (regionCode : Option String) : Body ι HttpResponse := do
  let locals : Locals := ⟨forUserMsg,some cart,none⟩
  let cart ← during locals (addPaymentAndAddressToCart cart payment.id
    ((regionCode.filter (· ≠ "")).map fun code => String.ofList (code.toList.map Char.toUpper)))
  let order ← during {locals with cart := some cart} (createOrderFromCart cart)
  let locals := {locals with cart := some cart, order := some order}
  let fromStateId ← during locals (firstStateId order)
  let order ← during locals
    (updateLineItemsTransitionState order.id order.version order.lineItems fromStateId pendingFulfilmentState)
  let _ ← during {locals with order := some order} (emits (emitOrderCompletedEvent order.cartId order.id order.totalTax
    standalonePrice cart.lineItems payment.method ((pick payment.name "en").getD "") order.discountCodes
    cart.discountOnTotalPrice))
  return .created order.id order.orderNumber

def deleteExistingCart (cart : Option Cart) : Call ι Unit :=
  match cart with
  | some cart => deleteCart cart
  | none => .pure ()

def givenOrNewPayment (payment : Option MobileStore.Payment) (draft : PaymentDraft) : Call ι MobileStore.Payment :=
  match payment with
  | some payment => .pure payment
  | none => createPayment draft

def createOrder (currencies : String → Option Nat) (caller : ι) (user : User) (request : MobileOrderRequest) :
    Body ι HttpResponse := do
  let data := request.data
  let customer ← during ⟨forLmsUser user,none,none⟩ (getCtCustomer user)
  let forUserMsg := forCustomer user customer data
  let cart ← during ⟨forUserMsg,none,none⟩ (getCustomerCart customer.id)
  let locals : Locals := ⟨forUserMsg,cart,none⟩
  during locals (deleteExistingCart cart)
  let externalPrice ← during locals (externalPriceOf currencies data)
  let standalonePrice ← during locals (getStandalonePriceForSku data.courseRunKey)
  let orderNumber ← during locals (getNewOrderNumber caller)
  let cart ← during locals
    (createCart data.courseRunKey customer (getEmailDomain customer.email) externalPrice orderNumber)
  let locals := {locals with cart := some cart}
  let paymentInfo ← during locals (getPaymentInfoFromPurchaseToken request.paymentProcessor
    request.purchaseToken cart.id (standalonePrice.centAmount.tdiv 100))
  match paymentInfo with
  | .refused error statusCode => do
    during locals (deleteCart cart)
    return .error (validationFailed forUserMsg error) statusCode
  | .accepted response => do
    let _ ← during locals (emits (emitCheckoutStartedEvent cart.id standalonePrice cart.lineItems cart.discountCodes
      cart.discountOnTotalPrice))
    during locals (emits (emitProductAddedEvents standalonePrice cart))
    let payment ← during locals (givenOrNewPayment response.payment (paymentDraft externalPrice customer.id
      data.paymentProcessor "succeeded" data.paymentProcessor response.transactionId response.transactionId
      response.createdAt standalonePrice.centAmount))
    let _ ← during locals (emits (emitPaymentInfoEnteredEvent cart.id standalonePrice payment.method cart.lineItems))
    completeOrder forUserMsg standalonePrice cart payment response.regionCode

def cleanUp (locals : Locals) : Call ι Unit :=
  match locals.cart,locals.order with
  | some cart,none => deleteCart cart
  | _,_ => .pure ()

def post (currencies : String → Option Nat) (caller : ι) (user : User) (request : MobileOrderRequest) :
    Call ι HttpResponse := do
  match ← (createOrder currencies caller user request).attempt with
  | .ok response => return response
  | .error ⟨locals,.commercetoolsError _⟩ => do
    cleanUp locals
    return .error ("[CreateOrderView] Error creating order "++locals.forUserMsg) 500
  | .error ⟨_,error⟩ => .raise error

end View
end MobileCreateOrder
