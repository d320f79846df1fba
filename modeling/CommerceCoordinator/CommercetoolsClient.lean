import CommerceCoordinator.Answers
import CommerceCoordinator.OrderReturn
import CommerceCoordinator.PaymentTransactions

open Commercetools CallTree OrderReturn PaymentTransactions

-- One order with its payment, the provider that holds the charge, and the calls
-- the refund code makes to them.
namespace CommercetoolsClient

inductive OrderUpdateAction where
  | setReturnPaymentState (returnItemId : String) (paymentState : ReturnPaymentState)
  | setReturnItemCustomType (returnItemId transactionId : String) (lmsEntitlementId : Option String)
  deriving DecidableEq

inductive PaymentUpdateAction where
  | addTransaction (transaction : TransactionDraft)
  | setTransactionCustomType (transactionId returnItemId : String)
  deriving DecidableEq

-- `covers` names the line items a refund is for; the provider never sees it.
structure PspRefund where
  cents : Int
  refund : Refund
  covers : List String
  deriving DecidableEq

-- A charge at the provider, in minor units, and the refunds executed on it.
structure Psp where
  chargeId : String
  captured : Int
  currency : String
  refunds : List PspRefund
  deriving DecidableEq

structure Ledger where
  order : Order
  payment : Payment
  psp : Psp
  deriving DecidableEq

inductive PspError where
  | chargeAlreadyRefunded | invalidRequest | other (message : String)
  deriving DecidableEq

-- What str makes of a provider's exception.
def PspError.message : PspError → String
  | .chargeAlreadyRefunded => "charge_already_refunded"
  | .invalidRequest => "invalid_request_error"
  | .other message => message

inductive Caller where
  | fetchOrderDetails | createReturnPaymentTransaction | updateReturnPaymentState | refundTask
  deriving DecidableEq

inductive Request where
  | getOrderById (orderId : String)
  | getOrderByNumber (orderNumber : Option String)
  | getCustomerById (customerId : String)
  | getPaymentByKey (caller : Caller) (paymentKey : String)
  | getPaymentByTransactionInteractionId (interactionId : String)
  | queryOrders (paymentId : String)
  | updateOrderById (id : String) (version : Nat) (actions : List OrderUpdateAction)
  | updatePaymentById (id : String) (version : Nat) (actions : List PaymentUpdateAction)
  | stripeRefundCreate (paymentIntent : String) (amountInCents : Int) (covers : List String)
  | stripeRefundList (paymentIntent : String)
  | refundCapturedPayment (captureId : String) (value : ℚ) (currencyCode : String) (covers : List String)
  | sendRevokeLineItems (returnItemIds : List String)
  | sendRevokeLineMobileOrder (paymentId : String)
  deriving DecidableEq

abbrev Response : Request → Type
  | .getOrderById _ => Except ErrorCode Order
  | .getOrderByNumber _ => Except ErrorCode Order
  | .getCustomerById _ => Except ErrorCode Unit
  | .getPaymentByKey _ _ => Except ErrorCode Payment
  | .getPaymentByTransactionInteractionId _ => Except ErrorCode (Option Payment)
  | .queryOrders _ => Except ErrorCode (Option Order)
  | .updateOrderById _ _ _ => Except ErrorCode Order
  | .updatePaymentById _ _ _ => Except ErrorCode Payment
  | .stripeRefundCreate _ _ _ => Except PspError Refund
  | .stripeRefundList _ => List Refund
  | .refundCapturedPayment _ _ _ _ => Except PspError (Option Refund)
  | .sendRevokeLineItems _ => Unit
  | .sendRevokeLineMobileOrder _ => Unit

def applyOrderAction (order : Order) : OrderUpdateAction → Option Order
  | .setReturnPaymentState returnItemId paymentState =>
    if (Rollout.getOrderReturnInfoReturnItems order).any (·.id = returnItemId) then
      some (setReturnPaymentState order returnItemId paymentState)
    else none
  | .setReturnItemCustomType returnItemId transactionId lmsEntitlementId =>
    if (Rollout.getOrderReturnInfoReturnItems order).any (·.id = returnItemId) then
      some (updateReturnItems order fun item =>
        if item.id = returnItemId then {item with transactionId := some transactionId, lmsEntitlementId} else item)
    else none

def applyOrderActions (actions : List OrderUpdateAction) (order : Order) : Option Order := do
  let updated ← actions.foldlM applyOrderAction order
  some {updated with version := order.version+1}

def applyPaymentAction (payment : Payment) : PaymentUpdateAction → Option Payment
  | .addTransaction transaction => some (addTransaction payment transaction)
  | .setTransactionCustomType transactionId returnItemId =>
    if payment.transactions.any (·.id = transactionId) then
      some {payment with transactions := payment.transactions.map fun transaction =>
        if transaction.id = transactionId then {transaction with returnItemId := some returnItemId} else transaction}
    else none

def applyPaymentActions (actions : List PaymentUpdateAction) (payment : Payment) : Option Payment := do
  let updated ← actions.foldlM applyPaymentAction payment
  some {updated with version := payment.version+1}

-- The references of the order's paymentInfo, expanded as of now.
def expanded (s : Ledger) : Order :=
  {s.order with payments := s.order.payments.map fun p => if p.id = s.payment.id then s.payment else p}

-- where returnInfo(items((paymentState="Refunded" and custom(fields(transactionId is not defined)))))
def hasUnprocessedReturn (order : Order) : Bool :=
  (Rollout.getOrderReturnInfoReturnItems order).any fun item =>
    item.paymentState = .refunded ∧ item.transactionId = none

def refundedCents (psp : Psp) : Int := (psp.refunds.map (·.cents)).sum

def executeRefund (psp : Psp) (chargeId : String) (cents : Int) (refund : Refund) (covers : List String) :
    Except PspError Refund × Psp :=
  if chargeId = psp.chargeId ∧ 0 < cents ∧ refundedCents psp + cents ≤ psp.captured then
    (.ok refund,{psp with refunds := psp.refunds++[⟨cents,refund,covers⟩]})
  else if refundedCents psp = psp.captured then (.error .chargeAlreadyRefunded,psp)
  else (.error .invalidRequest,psp)

def refundId (psp : Psp) : String := "refund "++toString psp.refunds.length

def serve (answers : Bool) (r : Request) (s : Ledger) : Response r × Ledger :=
  match r with
  | .getOrderById orderId =>
    (if answers then if orderId = s.order.id then .ok (expanded s) else .error .resourceNotFound
      else .error .unavailable,s)
  | .getOrderByNumber _ => (if answers then .ok (expanded s) else .error .unavailable,s)
  | .getCustomerById _ => (if answers then .ok () else .error .unavailable,s)
  | .getPaymentByKey _ paymentKey =>
    (if answers then
      if s.payment.key = some (normalizedPaymentKey paymentKey) then .ok s.payment else .error .resourceNotFound
      else .error .unavailable,s)
  | .getPaymentByTransactionInteractionId interactionId =>
    (if answers then
      .ok (if s.payment.transactions.any (·.interactionId = some interactionId) then some s.payment else none)
      else .error .unavailable,s)
  | .queryOrders paymentId =>
    (if answers then
      .ok (if s.order.payments.any (·.id = paymentId) ∧ hasUnprocessedReturn s.order then some s.order else none)
      else .error .unavailable,s)
  | .updateOrderById id version actions =>
    if answers ∧ id = s.order.id then
      match Versioned.compareAndSet version s.order (applyOrderActions actions) with
      | some order => (.ok order,{s with order})
      | none => (.error (if s.order.version = version then .invalidOperation else .concurrentModification),s)
    else (.error .unavailable,s)
  | .updatePaymentById id version actions =>
    if answers ∧ id = s.payment.id then
      match Versioned.compareAndSet version s.payment (applyPaymentActions actions) with
      | some payment => (.ok payment,{s with payment})
      | none => (.error (if s.payment.version = version then .invalidOperation else .concurrentModification),s)
    else (.error .unavailable,s)
  | .stripeRefundCreate paymentIntent amountInCents covers =>
    let (answer,psp) := executeRefund s.psp paymentIntent amountInCents ⟨refundId s.psp,amountInCents,s.psp.currency,
      s.psp.refunds.length,"succeeded",some paymentIntent,none⟩ covers
    (answer,{s with psp})
  | .stripeRefundList _ => ((s.psp.refunds.map (·.refund)).reverse,s)
  | .refundCapturedPayment captureId value currencyCode covers =>
    let (answer,psp) := executeRefund s.psp captureId (truncate (value*100)) ⟨refundId s.psp,value,currencyCode,
      s.psp.refunds.length,"COMPLETED",none,none⟩ covers
    (answer.map some,{s with psp})
  | .sendRevokeLineItems _ => ((),s)
  | .sendRevokeLineMobileOrder _ => ((),s)

abbrev Call (α : Type) := Prog Request Response Exn α

def getOrderById (orderId : String) : Call Order := .expect .commercetoolsError (.perform (Request.getOrderById orderId))
def getOrderByNumber (orderNumber : Option String) : Call Order :=
  .expect .commercetoolsError (.perform (Request.getOrderByNumber orderNumber))
def getCustomerById (customerId : String) : Call Unit :=
  .expect .commercetoolsError (.perform (Request.getCustomerById customerId))
def getPaymentByKey (caller : Caller) (paymentKey : String) : Call Payment :=
  .expect .commercetoolsError (.perform (Request.getPaymentByKey caller paymentKey))
def getPaymentByTransactionInteractionId (interactionId : String) : Call (Option Payment) :=
  .expect .commercetoolsError (.perform (Request.getPaymentByTransactionInteractionId interactionId))
def updateOrderById (id : String) (version : Nat) (actions : List OrderUpdateAction) : Call Order :=
  .expect .commercetoolsError (.perform (Request.updateOrderById id version actions))
def updatePaymentById (id : String) (version : Nat) (actions : List PaymentUpdateAction) : Call Payment :=
  .expect .commercetoolsError (.perform (Request.updatePaymentById id version actions))

-- CommercetoolsError, and nothing else, is caught.
def exceptCommercetoolsError (p : Call α) (handler : ErrorCode → Call α) : Call α :=
  p.handle fun
    | .commercetoolsError code => handler code
    | error => .raise error

def createReturnPaymentTransaction (paymentId : String) (paymentVersion : Nat) (refund : Refund) (psp : String) :
    Call Payment :=
  updatePaymentById paymentId paymentVersion [.addTransaction (refundTransactionDraft refund psp)]

def commercetools (restarts : Exn → Bool) : System Request Response Exn Ledger Bool Empty where
  serve := serve
  environment := fun change _ => change.elim
  restarts := restarts

def isError : Except ε α → Bool
  | .ok _ => false
  | .error _ => true

def commercetoolsFailed : Exchange Request Response → Bool
  | ⟨.getOrderById _,x⟩ => isError x
  | ⟨.getOrderByNumber _,x⟩ => isError x
  | ⟨.getCustomerById _,x⟩ => isError x
  | ⟨.getPaymentByKey _ _,x⟩ => isError x
  | ⟨.getPaymentByTransactionInteractionId _,x⟩ => isError x
  | ⟨.queryOrders _,x⟩ => isError x
  | ⟨.updateOrderById _ _ _,x⟩ => isError x
  | ⟨.updatePaymentById _ _ _,x⟩ => isError x
  | _ => false

theorem update_payment_cases (answers : Bool) (id : String) (version : Nat) (actions : List PaymentUpdateAction)
    (s : Ledger) :
    (∃ code, serve answers (.updatePaymentById id version actions) s = (.error code,s)) ∨
    ∃ payment, Versioned.compareAndSet version s.payment (applyPaymentActions actions) = some payment ∧
      serve answers (.updatePaymentById id version actions) s = (.ok payment,{s with payment}) := by
  simp only [serve]
  split
  · cases accepted : Versioned.compareAndSet version s.payment (applyPaymentActions actions) with
    | none => exact .inl ⟨_,rfl⟩
    | some payment => exact .inr ⟨payment,rfl,rfl⟩
  · exact .inl ⟨_,rfl⟩

theorem update_order_cases (answers : Bool) (id : String) (version : Nat) (actions : List OrderUpdateAction)
    (s : Ledger) :
    (∃ code, serve answers (.updateOrderById id version actions) s = (.error code,s)) ∨
    ∃ order, Versioned.compareAndSet version s.order (applyOrderActions actions) = some order ∧
      serve answers (.updateOrderById id version actions) s = (.ok order,{s with order}) := by
  simp only [serve]
  split
  · cases accepted : Versioned.compareAndSet version s.order (applyOrderActions actions) with
    | none => exact .inl ⟨_,rfl⟩
    | some order => exact .inr ⟨order,rfl,rfl⟩
  · exact .inl ⟨_,rfl⟩

theorem add_transaction_applied (payment : Payment) (draft : TransactionDraft) :
    applyPaymentActions [.addTransaction draft] payment = some (addTransaction payment draft) := by
  simp [applyPaymentActions,applyPaymentAction,addTransaction]

section OrderUpdates
variable {order updated : Order} {actions : List OrderUpdateAction}

def returnKeys (order : Order) : List (String × String) :=
  (Rollout.getOrderReturnInfoReturnItems order).map fun item => (item.id,item.lineItemId)

theorem has_return_key : HasReturn order returnItemId lineItemId ↔ (returnItemId,lineItemId) ∈ returnKeys order := by
  simp [HasReturn,returnKeys]

def OrderUpdateAction.returnItemId : OrderUpdateAction → String
  | .setReturnPaymentState returnItemId _ => returnItemId
  | .setReturnItemCustomType returnItemId _ _ => returnItemId

def OrderUpdateAction.change : OrderUpdateAction → ReturnItem → ReturnItem
  | .setReturnPaymentState returnItemId paymentState,item =>
    if item.id = returnItemId then {item with paymentState} else item
  | .setReturnItemCustomType returnItemId transactionId lmsEntitlementId,item =>
    if item.id = returnItemId then {item with transactionId := some transactionId, lmsEntitlementId} else item

theorem apply_action {action : OrderUpdateAction} : applyOrderAction order action = some updated ↔
    action.returnItemId ∈ (returnKeys order).map (·.1) ∧ updated = updateReturnItems order action.change := by
  cases action <;> simp only [applyOrderAction,OrderUpdateAction.returnItemId,Option.ite_none_right_eq_some,
    Option.some.injEq,eq_comm (b := updated),List.any_eq_true,decide_eq_true_eq,returnKeys,List.map_map,List.mem_map,
    Function.comp_apply] <;> rfl

theorem change_key (action : OrderUpdateAction) (item : ReturnItem) :
    (action.change item).id = item.id ∧ (action.change item).lineItemId = item.lineItemId := by
  cases action <;> simp only [OrderUpdateAction.change] <;> split <;> exact ⟨rfl,rfl⟩

theorem updated_keys (action : OrderUpdateAction) : returnKeys (updateReturnItems order action.change) = returnKeys order := by
  simp [returnKeys,return_items_updated,change_key]

theorem apply_actions_frame (applied : actions.foldlM applyOrderAction order = some updated) :
    {updated with returnInfo := []} = {order with returnInfo := []} ∧ returnKeys updated = returnKeys order := by
  induction actions generalizing order with
  | nil => cases applied; exact ⟨rfl,rfl⟩
  | cons action rest ih =>
    obtain ⟨middle,first,later⟩ := Option.bind_eq_some_iff.mp (List.foldlM_cons.symm.trans applied)
    obtain ⟨_,rfl⟩ := apply_action.mp first
    obtain ⟨frame,keys⟩ := ih later
    exact ⟨frame,keys.trans (updated_keys action)⟩

def itemAfter (actions : List OrderUpdateAction) (item : ReturnItem) : ReturnItem :=
  actions.foldl (fun item action => action.change item) item

theorem apply_actions_items (applied : actions.foldlM applyOrderAction order = some updated) :
    updated = updateReturnItems order (itemAfter actions) := by
  induction actions generalizing order with
  | nil =>
    cases applied
    have same : itemAfter [] = id := rfl
    simp [updateReturnItems,same]
  | cons action rest ih =>
    obtain ⟨middle,first,later⟩ := Option.bind_eq_some_iff.mp (List.foldlM_cons.symm.trans applied)
    obtain ⟨_,rfl⟩ := apply_action.mp first
    rw [ih later]
    have composed : itemAfter rest ∘ action.change = itemAfter (action::rest) := rfl
    simp [updateReturnItems,composed]

theorem apply_actions_accepted (present : ∀ action ∈ actions, action.returnItemId ∈ (returnKeys order).map (·.1)) :
    ∃ updated, actions.foldlM applyOrderAction order = some updated := by
  induction actions generalizing order with
  | nil => exact ⟨order,rfl⟩
  | cons action rest ih =>
    have first := apply_action.mpr ⟨present action List.mem_cons_self,rfl⟩
    have kept : ∀ other ∈ rest, other.returnItemId ∈ (returnKeys (updateReturnItems order action.change)).map (·.1) :=
      fun other member => by rw [updated_keys]; exact present other (List.mem_cons_of_mem _ member)
    obtain ⟨updated,later⟩ := ih kept
    exact ⟨updated,by rw [List.foldlM_cons,first]; exact later⟩

def OrderUpdateAction.refunds : OrderUpdateAction → Prop
  | .setReturnPaymentState _ paymentState => paymentState = .refunded
  | .setReturnItemCustomType _ _ _ => True

theorem change_refunded {action : OrderUpdateAction} (refunds : action.refunds) (refunded : Refunded order lineItemId) :
    Refunded (updateReturnItems order action.change) lineItemId := by
  obtain ⟨item,member,same,state⟩ := refunded
  refine ⟨action.change item,by rw [return_items_updated]; exact List.mem_map_of_mem member,?_,?_⟩
  · rw [(change_key action item).2,same]
  · cases action <;> simp only [OrderUpdateAction.change] <;> split <;> first | exact refunds | exact state

theorem apply_actions_refunded (refunds : ∀ action ∈ actions, action.refunds)
    (applied : actions.foldlM applyOrderAction order = some updated)
    (marked : Refunded order lineItemId ∨ ∃ returnItemId, HasReturn order returnItemId lineItemId ∧
      OrderUpdateAction.setReturnPaymentState returnItemId .refunded ∈ actions) : Refunded updated lineItemId := by
  induction actions generalizing order with
  | nil =>
    cases applied
    rcases marked with refunded | ⟨_,_,never⟩
    · exact refunded
    · cases never
  | cons action rest ih =>
    obtain ⟨middle,first,later⟩ := Option.bind_eq_some_iff.mp (List.foldlM_cons.symm.trans applied)
    obtain ⟨_,rfl⟩ := apply_action.mp first
    apply ih (fun other member => refunds other (List.mem_cons_of_mem _ member)) later
    rcases marked with refunded | ⟨returnItemId,present,listed⟩
    · exact .inl (change_refunded (refunds action List.mem_cons_self) refunded)
    · rcases List.mem_cons.mp listed with rfl | listed
      · exact .inl (refunded_set present)
      · refine .inr ⟨returnItemId,?_,listed⟩
        rw [has_return_key,updated_keys]
        exact has_return_key.mp present

end OrderUpdates

end CommercetoolsClient
