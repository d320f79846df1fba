import CommerceCoordinator.CommercetoolsClient
import CommerceCoordinator.RefundAmount

open Commercetools CallTree EdxUtils OrderReturn PaymentTransactions CommercetoolsClient

-- The steps of org.edx.coordinator.commercetools.order.refund.requested.v1 and
-- the client calls behind them.
namespace RefundPipeline

def commercetoolsOrderManagementSystem : String := "commercetools"
def ecommerceOrderManagementSystem : String := "ecommerce"

-- The keys FetchOrderDetailsByOrderID adds, all of them or none.
structure Fetched where
  orderData : Order
  psp : Option String
  paymentIntentId : Option String
  filteredLineItemIds : List String
  refundedLineItemRefunds : Dict String
  amountInDollars : ℚ
  ctTransactionInteractionId : Option String
  hasBeenRefunded : Bool
  paymentData : Option Payment
  deriving DecidableEq

inductive RefundResponse where
  | chargeAlreadyRefunded
  | refund (object : Refund)
  | none
  deriving DecidableEq

-- The output the pipeline accumulates and hands to every step as kwargs;
-- `pspRefundError` is whether psp_refund_error is a text other than the empty one.
structure Kwargs where
  orderId : String
  returnLineItems : Dict String
  returnLineEntitlementIds : Dict String
  activeOrderManagementSystem : Option String
  fetched : Option Fetched
  refundResponse : Option RefundResponse
  pspRefundError : Bool
  deriving DecidableEq

-- re.search("EDX-[0-9]{1,6}", order_number)
def isLegacyOrder (orderNumber : String) : Bool :=
  orderNumber.toList.tails.any fun
    | 'E' :: 'D' :: 'X' :: '-' :: digit :: _ => digit.isDigit
    | _ => false

def determineActiveOrderManagementSystemByOrderId (k : Kwargs) : Call Kwargs :=
  .pure {k with activeOrderManagementSystem :=
    if isLegacyOrder k.orderId then ecommerceOrderManagementSystem else commercetoolsOrderManagementSystem}

def getEdxSuccessfulPaymentInfo (order : Order) : Option Payment × Option String :=
  match order.payments.find? fun payment =>
    payment.interfaceCode = some paymentStatusInterfaceCodeSucceeded ∧ payment.interfaceId.getD "" ≠ "" with
  | some payment => (some payment,payment.paymentInterface)
  | none => (none,none)

def getEdxRefundInfo (payment : Payment) (order : Order) (returnLineItemIds : List String) :
    Option (ℚ × Option String) := do
  let interactionId := payment.transactions.foldl (fun interactionId transaction =>
    if transaction.type = .charge then transaction.interactionId else interactionId) none
  let refundAmount ← getLineItemPriceToRefund order payment returnLineItemIds
  some (refundAmount,interactionId)

def fetchOrderDetails (k : Kwargs) : Call Kwargs := do
  let ctOrder ← getOrderById k.orderId
  let (filteredLineItemIds,refundedItems) := filterReturnItems ctOrder k.returnLineItems
  match getEdxSuccessfulPaymentInfo ctOrder with
  | (some payment,psp) => do
    let ctPayment ← getPaymentByKey .fetchOrderDetails (payment.interfaceId.getD "")
    match getEdxRefundInfo ctPayment ctOrder filteredLineItemIds with
    | none => .raise .invalidOperation
    | some (refundAmount,ctTransactionInteractionId) =>
      return {k with fetched := some ⟨ctOrder,psp,payment.interfaceId,filteredLineItemIds,refundedItems,refundAmount,
        ctTransactionInteractionId,hasFullRefundTransaction ctPayment || refundAmount = 0,some ctPayment⟩}
  | (none,psp) =>
    return {k with fetched := some ⟨ctOrder,psp,none,filteredLineItemIds,refundedItems,0,none,false,none⟩}

def fetchOrderDetailsByOrderId (k : Kwargs) : Call Kwargs :=
  if k.activeOrderManagementSystem ≠ some commercetoolsOrderManagementSystem then .pure k
  else exceptCommercetoolsError (fetchOrderDetails k) fun _ => .pure k

-- StripeAPIClient.refund_payment_intent
def createOrListRefund (paymentIntentId : String) (amountInCents : Int) (covers : List String) : Call Refund := do
  match ← .perform (Request.stripeRefundCreate paymentIntentId amountInCents covers) with
  | .ok refund => return refund
  | .error .chargeAlreadyRefunded =>
    match ← .perform (Request.stripeRefundList paymentIntentId) with
    | [] => .raise .indexError
    | latest :: _ => return latest
  | .error _ => .raise .stripeError

def refundPaymentIntentAtStripe (paymentIntentId : String) (amount : ℚ) (covers : List String) :
    Call RefundResponse := do
  let refund ← createOrListRefund paymentIntentId (truncate (Decimal.mul amount 100)) covers
  return if refund.status = "succeeded" then .refund refund else .none

def refundPaymentIntent (k : Kwargs) : Call Kwargs :=
  match k.fetched with
  | none => .raise .typeError
  | some fetched =>
    if ¬ (fetched.psp = some edxStripePaymentInterfaceName ∧ fetched.paymentIntentId.getD "" ≠ "" ∧
        fetched.amountInDollars ≠ 0) then .pure k
    else if fetched.hasBeenRefunded then .pure {k with refundResponse := some .chargeAlreadyRefunded}
    else Prog.handle (do
      let retVal ← refundPaymentIntentAtStripe (fetched.paymentIntentId.getD "") fetched.amountInDollars
        fetched.filteredLineItemIds
      return {k with refundResponse := some retVal}) fun
        | .stripeError => .pure {k with pspRefundError := true}
        | error => .raise error

-- PayPalClient.refund_order; a response may come without a body.
def refundOrder (captureId : String) (amount : ℚ) (covers : List String) : Call RefundResponse := do
  match ← .perform (Request.refundCapturedPayment captureId amount "USD" covers) with
  | .ok (some refund) => return .refund refund
  | .ok none => return .none
  | .error error => .raise (.paypalError error.message)

def refundPayPalPayment (k : Kwargs) : Call Kwargs :=
  match k.fetched with
  | none => .raise .typeError
  | some fetched =>
    if ¬ (fetched.psp = some edxPaypalPaymentInterfaceName ∧ fetched.amountInDollars ≠ 0 ∧
        fetched.ctTransactionInteractionId.getD "" ≠ "") then .pure k
    else if fetched.hasBeenRefunded then .pure {k with refundResponse := some .chargeAlreadyRefunded}
    else Prog.handle (do
      let paypalRefundResponse ← refundOrder (fetched.ctTransactionInteractionId.getD "") fetched.amountInDollars
        fetched.filteredLineItemIds
      return {k with refundResponse := some paypalRefundResponse}) fun
        | .paypalError message => .pure {k with pspRefundError := message ≠ ""}
        | error => .raise error

-- What the handlers of CreateReturnPaymentTransaction raise themselves, while
-- they look up the ids for their message.
def messageError (psp : Option String) (refundResponse : Refund) : Option Exn :=
  if psp = some edxStripePaymentInterfaceName ∧ refundResponse.paymentIntent = none then
    some (.keyError "payment_intent")
  else if psp = some edxPaypalPaymentInterfaceName ∧ refundResponse.paypalCaptureId = none then
    some (.keyError "paypal_capture_id")
  else none

def paymentOfRefund (fetched : Fetched) (refundResponse : Refund) : Call Payment :=
  if fetched.psp = some edxStripePaymentInterfaceName then
    match refundResponse.paymentIntent with
    | some paymentKey => getPaymentByKey .createReturnPaymentTransaction paymentKey
    | none => .raise (.keyError "payment_intent")
  else if fetched.psp = some edxPaypalPaymentInterfaceName then
    getPaymentByKey .createReturnPaymentTransaction (fetched.paymentIntentId.getD "")
  else .raise .attributeError

def createReturnPaymentTransactionStep (k : Kwargs) : Call Kwargs :=
  match k.fetched with
  | none => .raise .typeError
  | some fetched =>
    if k.activeOrderManagementSystem ≠ some commercetoolsOrderManagementSystem then .pure k
    else if k.refundResponse = some .chargeAlreadyRefunded ∨ fetched.hasBeenRefunded then .pure k
    else if k.pspRefundError then .pure k
    else if fetched.paymentData = none ∧ fetched.psp = none then .pure k
    else match k.refundResponse with
      | some (.refund refundResponse) => do
        let paymentOnOrder ← match fetched.paymentData with
          | some paymentData => .pure paymentData
          | none => exceptCommercetoolsError (paymentOfRefund fetched refundResponse) fun _ =>
              .raise ((messageError fetched.psp refundResponse).getD .attributeError)
        exceptCommercetoolsError (do
          let _ ← createReturnPaymentTransaction paymentOnOrder.id paymentOnOrder.version refundResponse
            (fetched.psp.getD "")
          return k) fun _ =>
            match messageError fetched.psp refundResponse with
            | some error => .raise error
            | none => .pure k
      | _ => .raise .attributeError

def refundedStateActions (returnLineItemReturnIds : List String) (paymentState : ReturnPaymentState) :
    List OrderUpdateAction :=
  returnLineItemReturnIds.map fun returnId => .setReturnPaymentState returnId paymentState

def transactionIdActions (returnLineItemReturnIds : List String) (refundedLineItemRefunds : Dict String)
    (returnLineEntitlementIds : Dict String) (transactionId : String) : List OrderUpdateAction :=
  returnLineItemReturnIds.map fun returnId =>
    .setReturnItemCustomType returnId ((refundedLineItemRefunds.get returnId).getD transactionId)
      ((returnLineEntitlementIds.get returnId).filter (· ≠ ""))

def refundTransactionId (payment : Payment) (interactionId : Option String) : String :=
  let transactionId := findRefundTransaction payment interactionId
  if transactionId = "" then findLatestRefund payment else transactionId

def setTransactionReturnItemId (payment : Payment) (transactionId : String) (returnLineItemReturnIds : List String) :
    Call Unit :=
  if transactionId = "" then .pure () else do
    let _ ← updatePaymentById payment.id payment.version
      [.setTransactionCustomType transactionId (", ".intercalate returnLineItemReturnIds)]
    return ()

def givenOrFoundPayment (payment : Option Payment) (paymentIntentId : Option String) : Call Payment :=
  match payment with
  | some payment => .pure payment
  | none => getPaymentByKey .updateReturnPaymentState (paymentIntentId.getD "")

def updateReturnPaymentStateAfterSuccessfulRefund (orderId : String) (orderVersion : Nat)
    (returnLineItemReturnIds : List String) (returnLineEntitlementIds refundedLineItemRefunds : Dict String)
    (paymentIntentId : Option String) (interactionId : Option String) (paymentState : ReturnPaymentState)
    (payment : Option Payment) (shouldTransitionState : Bool) : Call Order :=
  exceptCommercetoolsError (do
    let payment ← givenOrFoundPayment payment paymentIntentId
    let transactionId := refundTransactionId payment interactionId
    let stateActions := if shouldTransitionState then refundedStateActions returnLineItemReturnIds paymentState else []
    let updatedOrder ← updateOrderById orderId orderVersion (stateActions ++
      transactionIdActions returnLineItemReturnIds refundedLineItemRefunds returnLineEntitlementIds transactionId)
    setTransactionReturnItemId payment transactionId returnLineItemReturnIds
    return updatedOrder) fun _ => .raise .openEdxFilterException

def updateCommercetoolsOrderReturnPaymentStatus (k : Kwargs) : Call Kwargs :=
  match k.fetched with
  | none => .pure k
  | some fetched =>
    if fetched.paymentIntentId = none ∧ fetched.psp = none then .pure k
    else do
      let paymentState := if k.pspRefundError then .notRefunded else .refunded
      let interactionId := match k.refundResponse with
        | some (.refund refundResponse) => some refundResponse.id
        | _ => none
      let _ ← updateReturnPaymentStateAfterSuccessfulRefund fetched.orderData.id fetched.orderData.version
        k.returnLineItems.values k.returnLineEntitlementIds fetched.refundedLineItemRefunds fetched.paymentIntentId
        interactionId paymentState none true
      return k

inductive PipelineStep where
  | determineActiveOrderManagementSystemByOrderId
  | fetchOrderDetailsByOrderId
  | refundPaymentIntent
  | refundPayPalPayment
  | createReturnPaymentTransaction
  | updateCommercetoolsOrderReturnPaymentStatus
  deriving DecidableEq

def runFilter : PipelineStep → Kwargs → Call Kwargs
  | .determineActiveOrderManagementSystemByOrderId => determineActiveOrderManagementSystemByOrderId
  | .fetchOrderDetailsByOrderId => fetchOrderDetailsByOrderId
  | .refundPaymentIntent => refundPaymentIntent
  | .refundPayPalPayment => refundPayPalPayment
  | .createReturnPaymentTransaction => createReturnPaymentTransactionStep
  | .updateCommercetoolsOrderReturnPaymentStatus => updateCommercetoolsOrderReturnPaymentStatus

def orderRefundRequested : List PipelineStep :=
  [.determineActiveOrderManagementSystemByOrderId,.fetchOrderDetailsByOrderId,.refundPaymentIntent,
    .refundPayPalPayment,.createReturnPaymentTransaction,.updateCommercetoolsOrderReturnPaymentStatus]

def runPipeline (steps : List PipelineStep) (k : Kwargs) : Call Kwargs := steps.foldlM (fun k step => runFilter step k) k

end RefundPipeline
