import CommerceCoordinator.Execution
import CommerceCoordinator.RefundPipeline
import CommerceCoordinator.SegmentProperties

open Commercetools CallTree OrderReturn PaymentTransactions CommercetoolsClient RefundPipeline
open SegmentProperties (SoldOrder SoldItem SegmentEventProperties)

-- fulfill_order_returned_signal_task, without its logging.
namespace OrderReturned

structure ReturnedItem where
  id : String
  lineItemId : String
  deriving DecidableEq

def returnLineItems (returnItems : List ReturnedItem) : Dict String :=
  returnItems.foldl (fun d item => d.set item.lineItemId item.id) []

theorem return_line_items_entries (returnItems : List ReturnedItem) (entry : String × String)
    (member : entry ∈ returnLineItems returnItems) : ∃ item ∈ returnItems, entry = (item.lineItemId,item.id) := by
  suffices loop : ∀ (d : Dict String), entry ∈ returnItems.foldl (fun d item => d.set item.lineItemId item.id) d →
      entry ∈ d ∨ ∃ item ∈ returnItems, entry = (item.lineItemId,item.id) by
    exact (loop [] member).resolve_left (by simp)
  clear member
  induction returnItems with
  | nil => exact fun d member => .inl member
  | cons item rest ih =>
    intro d member
    rcases ih _ member with earlier | ⟨other,listed,equal⟩
    · rcases Dict.set_entry earlier with earlier | equal
      · exact .inl earlier
      · exact .inr ⟨item,List.mem_cons_self,equal⟩
    · exact .inr ⟨other,List.mem_cons_of_mem _ listed,equal⟩

theorem return_line_items_keys (returnItems : List ReturnedItem) (key : String) :
    key ∈ (returnLineItems returnItems).keys ↔ ∃ item ∈ returnItems, item.lineItemId = key := by
  suffices loop : ∀ (d : Dict String), key ∈ (returnItems.foldl (fun d item => d.set item.lineItemId item.id) d).keys ↔
      key ∈ d.keys ∨ ∃ item ∈ returnItems, item.lineItemId = key by
    refine (loop []).trans ?_
    simp [Dict.keys]
  induction returnItems with
  | nil => simp
  | cons item rest ih =>
    intro d
    rw [List.foldl_cons,ih,Dict.set_keys,List.exists_mem_cons_iff,eq_comm (a := key),or_assoc]

theorem return_line_items_distinct (returnItems : List ReturnedItem) : (returnLineItems returnItems).keys.Nodup := by
  suffices loop : ∀ d : Dict String, d.keys.Nodup →
      (returnItems.foldl (fun d item => d.set item.lineItemId item.id) d).keys.Nodup from loop [] List.nodup_nil
  induction returnItems with
  | nil => exact fun _ distinct => distinct
  | cons item rest ih => exact fun d distinct => ih _ (Dict.set_distinct distinct item.lineItemId item.id)

-- The last item of a line item is the one that is kept.
theorem some_return_listed (nonempty : returnItems ≠ []) :
    ∃ item ∈ returnItems, item.id ∈ (returnLineItems returnItems).values := by
  obtain ⟨first,present⟩ := List.exists_mem_of_ne_nil returnItems nonempty
  obtain ⟨entry,member,_⟩ := List.mem_map.mp ((return_line_items_keys returnItems first.lineItemId).mpr ⟨first,present,rfl⟩)
  obtain ⟨item,returned,rfl⟩ := return_line_items_entries returnItems entry member
  exact ⟨item,returned,List.mem_map_of_mem member⟩

-- A missing entitlement id is as good as an empty one to every reader.
def returnLineEntitlementIds (order : Order) (returnLineItems : Dict String) : Dict String :=
  order.lineItems.foldl (fun d lineItem =>
    match returnLineItems.get lineItem.id with
    | some returnId => d.set returnId (lineItem.lmsEntitlementId.getD "")
    | none => d) []

def isEdxLmsOrder (order : Order) : Bool := 1 ≤ order.lineItems.length
def getEdxPspPaymentId (order : Order) : Option String := (getEdxSuccessfulPaymentInfo order).1.bind (·.interfaceId)

def getRefundTransactionIdFromOrder (order : Order) : Option String :=
  order.payments.getLast?.map fun latestPayment =>
    ((latestPayment.transactions.find? (·.type = .refund)).map (·.id)).getD ""

def updateReturnPaymentStateForEnrollmentCodePurchase (orderId : String) (orderVersion : Nat)
    (returnLineItemReturnIds : List String) : Call Order :=
  updateOrderById orderId orderVersion (refundedStateActions returnLineItemReturnIds .notRefunded)

def mobileOrderActions (refundTransactionId : String) (returnItemId : String) : List OrderUpdateAction :=
  .setReturnPaymentState returnItemId .refunded ::
    if refundTransactionId = "" then [] else [.setReturnItemCustomType returnItemId refundTransactionId none]

def updateReturnPaymentStateForMobileOrder (order : Order) (returnLineItemReturnIds : List String) : Call Order :=
  match getRefundTransactionIdFromOrder order with
  | none => .raise .attributeError
  | some refundTransactionId =>
    updateOrderById order.id order.version (returnLineItemReturnIds.flatMap (mobileOrderActions refundTransactionId))

-- What the task reads of the customer, and of the order besides the fields of
-- `Order`; no call changes it. `currency` gives the exponents of ISO 4217.
structure Sale where
  lmsUserId : Option Int
  order : SoldOrder
  currency : String → Option (Option ℕ)

def orRaise (x : Except Exn α) : Call α := Prog.orRaise id x

theorem or_raise_cases (x : Except Exn α) :
    (∃ a, x = .ok a ∧ orRaise x = .pure a) ∨ ∃ e, x = .error e ∧ orRaise x = .raise e := Prog.or_raise_cases id x

section Task
variable (sale : Sale)

def getEdxLmsUserId : Except Exn Int :=
  match sale.lmsUserId with
  | some lmsUserId => .ok lmsUserId
  | none => .error (.keyError "edx-lms_user_id")

-- Everything up to OrderRefundRequested.run_filter: its arguments, unless
-- the order is handled without a call of the pipeline.
def prepareReturn (orderId : String) (returnItems : List ReturnedItem) : Call (Option Kwargs) := do
  let order ← getOrderById orderId
  let _ ← getCustomerById order.customerId
  if ¬ isEdxLmsOrder order then return none
  else do
    let _ ← orRaise (getEdxLmsUserId sale)
    if getEdxPspPaymentId order ≠ none ∧ order.mobileOrder = false then
      return some ⟨orderId,returnLineItems returnItems,
        returnLineEntitlementIds order (returnLineItems returnItems),none,none,none,false⟩
    else if getEdxPspPaymentId order = none ∧ order.totalPrice.centAmount = 0 then do
      let _ ← updateReturnPaymentStateForEnrollmentCodePurchase order.id order.version (returnItems.map (·.id))
      return none
    else if order.mobileOrder then do
      let _ ← updateReturnPaymentStateForMobileOrder order (returnItems.map (·.id))
      return none
    else return none

def stripeAmountInDollars (stripeRefund : Refund) : Except Exn ℚ :=
  match sale.currency (String.ofList (stripeRefund.currency.toList.map Char.toUpper)) with
  | none => .error .valueError
  | some none => .error .typeError
  | some (some fractionDigits) =>
    .ok (LocalizedPrices.convertCtCentAmountToLocalizedPrice (truncate stripeRefund.amount) fractionDigits)

def refundAmountInDollars (result : Kwargs) (refund : Refund) : Except Exn ℚ :=
  let psp := result.fetched.bind (·.psp)
  if psp = some edxStripePaymentInterfaceName then stripeAmountInDollars sale refund
  else if psp = some edxPaypalPaymentInterfaceName then .ok refund.amount
  else .ok ((result.fetched.map (·.amountInDollars)).getD 0)

def refundedItems (refundedLineItemIds : List String) : List SoldItem :=
  sale.order.lineItems.filter (·.id ∈ refundedLineItemIds)

-- The 'Order Refunded' event, without a title where it has no products and is not sent.
def orderRefundedEvent (returnItems : List ReturnedItem) (result : Kwargs) (refund : Refund) :
    Except Exn SegmentEventProperties := do
  let refundedLineItemIds := (result.fetched.map (·.filteredLineItemIds)).getD (returnItems.map (·.lineItemId))
  let refundAmount ← refundAmountInDollars sale result refund
  let returnedItemIds := ((returnLineItems returnItems).filter (·.1 ∈ refundedLineItemIds)).map (·.2)
  let properties ← SegmentProperties.prepareSegmentEventProperties sale.order refundAmount refundedLineItemIds
    (", ".intercalate returnedItemIds)
  let refunded := refundedItems sale refundedLineItemIds
  let titles := refunded.filterMap fun item => LegacyOrders.pick item.name "en-US"
  let products ← refunded.mapM fun item =>
    SegmentProperties.getProductData item (SegmentProperties.checkIsBundle sale.order.lineItems)
  .ok {properties with products, title := if products = [] then none else some (", ".intercalate titles)}

-- The event is prepared before the signal is sent; the analytics take it or leave it.
def revokeLineItems (returnItems : List ReturnedItem) (result : Kwargs) : Call Unit :=
  match result.refundResponse with
  | some .chargeAlreadyRefunded => .perform (Request.sendRevokeLineItems (returnItems.map (·.id)))
  | some (.refund refund) => do
    let _ ← orRaise (orderRefundedEvent sale returnItems result refund)
    .perform (Request.sendRevokeLineItems (returnItems.map (·.id)))
  | _ => .pure ()

def fulfillOrderReturnedSignalTask (orderId : String) (returnItems : List ReturnedItem) : Call Unit := do
  match ← prepareReturn sale orderId returnItems with
  | none => return ()
  | some k => do
    let result ← runPipeline orderRefundRequested k
    revokeLineItems sale returnItems result

end Task

section Courses

def course (lineItemId : String) : SoldItem where
  id := lineItemId
  quantity := 1
  price := ⟨⟨4900,"USD",2,none⟩,none⟩
  discountedPricePerQuantity := []
  productKey := some "course-key"
  name := [("en-US","Course")]
  productType := some ⟨some "edx_course","edX Course"⟩
  sku := some "course-v1:edX+DemoX+Demo_Course"
  attributes := some []
  images := []
  bundleId := none

def courseSale (lineItemIds : List String) : Sale where
  lmsUserId := some 1
  order := ⟨some "2U-000001",0,some "cart",lineItemIds.map course,⟨4900,"USD",2,none⟩,some ⟨⟨4900,"USD",2,none⟩,none⟩,none,[]⟩
  currency := LocalizedPrices.iso4217

end Courses

end OrderReturned
