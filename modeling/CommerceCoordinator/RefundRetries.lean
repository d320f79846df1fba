import CommerceCoordinator.MobileRefund
import CommerceCoordinator.RefundWebhooks

open Commercetools CallTree PaymentTransactions CommercetoolsClient RefundPipeline RefundWebhooks MobileRefund
open OrderReturned (Sale orRaise)

-- What Celery sees of a Commercetools call that fails in a refund task.
namespace RefundRetries

inductive RefundTask where
  | stripe (paymentIntentId : String) (stripeRefund : Refund) (orderNumber : Option String)
  | paypal (paypalCaptureId : String) (refund : Refund) (orderNumber : Option String)
  | mobile (paymentInterface : String) (refund : Refund)

def RefundTask.run (sale : Sale) : RefundTask → Call Unit
  | .stripe paymentIntentId stripeRefund orderNumber =>
    (refundFromStripeTask sale paymentIntentId stripeRefund orderNumber).bind fun _ => .pure ()
  | .paypal paypalCaptureId refund orderNumber =>
    (refundFromPaypalTask sale paypalCaptureId refund orderNumber).bind fun _ => .pure ()
  | .mobile paymentInterface refund => refundFromMobileTask paymentInterface refund

def linksRefund : PaymentUpdateAction → Bool
  | .setTransactionCustomType _ _ => true
  | .addTransaction _ => false

-- The calls whose failure leaves a task as another exception: the payment lookup
-- of the first two, the update of the return's state in the third.
def RefundTask.loses : RefundTask → Request → Bool
  | .stripe _ _ _,.getPaymentByKey _ _ => true
  | .paypal _ _ _,.getPaymentByTransactionInteractionId _ => true
  | .mobile _ _,.updateOrderById _ _ _ => true
  | .mobile _ _,.updatePaymentById _ _ actions => actions.any linksRefund
  | _,_ => false

section Tasks
variable {task : RefundTask}

abbrev Accounted (task : RefundTask) (p : Call α) : Prop :=
  Prog.Reports (fun x => commercetoolsFailed x = true) (fun e => retried e = true) (fun r => task.loses r = true) p

-- A call of Commercetools: its failure ends the task, with the exception that the
-- task is retried for unless the call is one that loses failures.
theorem call_accounted {r : Request} {next : Response r → Call α} (answer : Except ErrorCode β → Response r)
    (onto : ∀ x, ∃ y, x = answer y) (failure : ∀ code, commercetoolsFailed ⟨r,answer (.error code)⟩ = true)
    (success : ∀ a, commercetoolsFailed ⟨r,answer (.ok a)⟩ = false)
    (raised : ∀ code, ∃ e, next (answer (.error code)) = .raise e ∧ (retried e = true ↔ ¬ task.loses r = true))
    (returned : ∀ a, Accounted task (next (answer (.ok a)))) : Accounted task (.call r next) := by
  apply Prog.reports_call
  · intro x failed
    obtain ⟨y,rfl⟩ := onto x
    cases y with
    | error code => exact raised code
    | ok a =>
      rw [success a] at failed
      cases failed
  · intro x passed
    obtain ⟨y,rfl⟩ := onto x
    cases y with
    | error code => exact absurd (failure code) passed
    | ok a => exact returned a

theorem client_accounted {r : Request} {next : Response r → Call α} (answer : Except ErrorCode α → Response r)
    (onto : ∀ x, ∃ y, x = answer y) (failure : ∀ code, commercetoolsFailed ⟨r,answer (.error code)⟩ = true)
    (success : ∀ a, commercetoolsFailed ⟨r,answer (.ok a)⟩ = false)
    (raised : ∀ code, next (answer (.error code)) = .raise (.commercetoolsError code))
    (returned : ∀ a, next (answer (.ok a)) = .pure a) (kept : task.loses r = false) : Accounted task (.call r next) := by
  apply call_accounted answer onto failure success
  · exact fun code => ⟨_,raised code,by simp [retried,kept]⟩
  · intro a
    rw [returned a]
    exact Prog.reports_pure a

theorem get_order_accounted (orderNumber : Option String) (kept : task.loses (.getOrderByNumber orderNumber) = false) :
    Accounted task (getOrderByNumber orderNumber) :=
  client_accounted (fun x => x) (fun x => ⟨x,rfl⟩) (fun _ => rfl) (fun _ => rfl) (fun _ => rfl) (fun _ => rfl) kept

theorem get_customer_accounted (customerId : String) (kept : task.loses (.getCustomerById customerId) = false) :
    Accounted task (getCustomerById customerId) :=
  client_accounted (fun x => x) (fun x => ⟨x,rfl⟩) (fun _ => rfl) (fun _ => rfl) (fun _ => rfl) (fun _ => rfl) kept

theorem update_payment_accounted (paymentId : String) (version : Nat) (actions : List PaymentUpdateAction)
    (kept : task.loses (.updatePaymentById paymentId version actions) = false) :
    Accounted task (updatePaymentById paymentId version actions) :=
  client_accounted (fun x => x) (fun x => ⟨x,rfl⟩) (fun _ => rfl) (fun _ => rfl) (fun _ => rfl) (fun _ => rfl) kept

theorem lookup_accounted (interactionId : String)
    (kept : task.loses (.getPaymentByTransactionInteractionId interactionId) = false) :
    Accounted task (getPaymentByTransactionInteractionId interactionId) :=
  client_accounted (fun x => x) (fun x => ⟨x,rfl⟩) (fun _ => rfl) (fun _ => rfl) (fun _ => rfl) (fun _ => rfl) kept

theorem query_orders_accounted (paymentId : String) (kept : task.loses (.queryOrders paymentId) = false) :
    Accounted task (.expect .commercetoolsError (.perform (Request.queryOrders paymentId))) :=
  client_accounted (fun x => x) (fun x => ⟨x,rfl⟩) (fun _ => rfl) (fun _ => rfl) (fun _ => rfl) (fun _ => rfl) kept

theorem prepared_accounted (x : Except Exn α) : Accounted task (orRaise x) := by
  cases x with
  | ok a => exact Prog.reports_pure a
  | error e => exact Prog.reports_raise e

theorem segment_accounted (sale : Sale) (orderNumber : Option String) (totalInDollars : ℚ)
    (keptOrder : task.loses (.getOrderByNumber orderNumber) = false)
    (keptCustomer : ∀ customerId, task.loses (.getCustomerById customerId) = false) :
    Accounted task (sendSegmentEvent sale orderNumber totalInDollars) := by
  apply Prog.Reports.bind (get_order_accounted orderNumber keptOrder)
  intro order
  apply Prog.Reports.bind (get_customer_accounted order.customerId (keptCustomer order.customerId))
  intro _
  exact Prog.Reports.bind (prepared_accounted _) fun _ => Prog.reports_pure ()

theorem recording_accounted (payment : Payment) (refund : Refund) (psp : String)
    (keptUpdate : task.loses (.updatePaymentById payment.id payment.version [.addTransaction (refundTransactionDraft refund psp)]) =
      false) {event : Payment → Call (Option Payment)} (told : ∀ updatedPayment, Accounted task (event updatedPayment)) :
    Accounted task ((createReturnPaymentTransaction payment.id payment.version refund psp).bind event) :=
  Prog.Reports.bind (update_payment_accounted _ _ _ keptUpdate) told

theorem stripe_accounted (sale : Sale) (paymentIntentId : String) (stripeRefund : Refund) (orderNumber : Option String) :
    Accounted (.stripe paymentIntentId stripeRefund orderNumber)
      (refundFromStripeTask sale paymentIntentId stripeRefund orderNumber) := by
  apply call_accounted (fun x => x) (fun x => ⟨x,rfl⟩) (fun _ => rfl) (fun _ => rfl)
  · exact fun _ => ⟨.unboundLocalError,rfl,by simp [retried,RefundTask.loses]⟩
  · intro payment
    change Accounted _ (if _ then Prog.pure none else _)
    split
    · exact Prog.reports_pure none
    · apply recording_accounted payment stripeRefund _ rfl
      intro updatedPayment
      apply Prog.Reports.bind (prepared_accounted _)
      intro totalInDollars
      exact Prog.Reports.bind (segment_accounted sale orderNumber totalInDollars rfl fun _ => rfl)
        fun _ => Prog.reports_pure _

theorem paypal_accounted (sale : Sale) (paypalCaptureId : String) (refund : Refund) (orderNumber : Option String) :
    Accounted (.paypal paypalCaptureId refund orderNumber)
      (refundFromPaypalTask sale paypalCaptureId refund orderNumber) := by
  apply call_accounted (fun x => x) (fun x => ⟨x,rfl⟩) (fun _ => rfl) (fun _ => rfl)
  · exact fun _ => ⟨.unboundLocalError,rfl,by simp [retried,RefundTask.loses]⟩
  · intro found
    cases found with
    | none => exact Prog.reports_pure none
    | some payment =>
      change Accounted _ (if _ then Prog.pure none else _)
      split
      · exact Prog.reports_pure none
      · apply recording_accounted payment refund _ rfl
        exact fun updatedPayment => Prog.Reports.bind (segment_accounted sale orderNumber refund.amount rfl fun _ => rfl)
          fun _ => Prog.reports_pure _

-- The client turns the failures of this method into OpenEdxFilterException.
theorem return_update_accounted (paymentInterface : String) (refund : Refund) (result : OrderWithReturnInfo)
    (payment : Payment) : Accounted (.mobile paymentInterface refund)
      (updateReturnPaymentStateAfterSuccessfulRefund result.orderId result.orderVersion
        result.returnLineItemReturnIds [] [] (some refund.id) (some refund.id) .refunded (some payment) false) := by
  apply call_accounted (fun x => x) (fun x => ⟨x,rfl⟩) (fun _ => rfl) (fun _ => rfl)
  · exact fun _ => ⟨.openEdxFilterException,rfl,by simp [retried,RefundTask.loses]⟩
  · intro order
    change Accounted _ (((setTransactionReturnItemId payment (refundTransactionId payment (some refund.id))
      result.returnLineItemReturnIds).bind fun _ => Prog.pure order).handle _)
    unfold setTransactionReturnItemId
    split
    · exact Prog.reports_pure order
    · apply call_accounted (fun x => x) (fun x => ⟨x,rfl⟩) (fun _ => rfl) (fun _ => rfl)
      · exact fun _ => ⟨.openEdxFilterException,rfl,by simp [retried,RefundTask.loses,linksRefund]⟩
      · exact fun _ => Prog.reports_pure order

theorem record_accounted (paymentInterface : String) (refund : Refund) (payment : Payment) :
    Accounted (.mobile paymentInterface refund) (recordMobileRefund paymentInterface refund payment) := by
  unfold recordMobileRefund
  split
  · exact Prog.reports_pure payment
  · apply Prog.Reports.bind (update_payment_accounted _ _ _ rfl)
    intro recorded
    apply Prog.reports_call
    · intro x failed
      cases failed
    · intro x _
      exact Prog.reports_pure recorded

theorem find_order_accounted (paymentInterface : String) (refund : Refund) (paymentId : String) :
    Accounted (.mobile paymentInterface refund) (findOrderWithUnprocessedReturnForPayment paymentId) := by
  apply Prog.Reports.bind (query_orders_accounted paymentId rfl)
  intro found
  cases found with
  | none => exact Prog.reports_pure none
  | some order =>
    dsimp only
    split
    · exact Prog.reports_raise _
    · exact Prog.reports_pure _

theorem mobile_accounted (paymentInterface : String) (refund : Refund) :
    Accounted (.mobile paymentInterface refund) (refundFromMobileTask paymentInterface refund) := by
  apply Prog.Reports.bind (lookup_accounted refund.id rfl)
  intro found
  cases found with
  | none => exact Prog.reports_pure ()
  | some payment =>
    apply Prog.Reports.bind (record_accounted paymentInterface refund payment)
    intro payment
    apply Prog.Reports.bind (find_order_accounted paymentInterface refund payment.id)
    intro result
    cases result with
    | none => exact Prog.reports_pure ()
    | some result =>
      apply Prog.Reports.bind (return_update_accounted paymentInterface refund result payment)
      exact fun _ => Prog.reports_pure ()

theorem run_accounted (sale : Sale) (task : RefundTask) : Accounted task (task.run sale) := by
  cases task with
  | stripe paymentIntentId stripeRefund orderNumber =>
    exact (stripe_accounted sale paymentIntentId stripeRefund orderNumber).bind fun _ => Prog.reports_pure ()
  | paypal paypalCaptureId refund orderNumber =>
    exact (paypal_accounted sale paypalCaptureId refund orderNumber).bind fun _ => Prog.reports_pure ()
  | mobile paymentInterface refund => exact mobile_accounted paymentInterface refund

theorem failures_retried_iff (sale : Sale) (task : RefundTask) (t : List (Exchange Request Response)) (out : Except Exn Unit)
    (ran : (task.run sale).Answered t out) :
    ((∃ x ∈ t, commercetoolsFailed x = true) → ∃ e, out = .error e ∧ retried e = true) ↔
      ∀ x ∈ t, commercetoolsFailed x = true → task.loses x.1 = false := by
  rw [(run_accounted sale task t out ran).iff]
  simp

end Tasks

section Failures

def charged : Payment :=
  ⟨"payment",1,some "pi_1",some "pi_1",⟨4900,"USD",some 2⟩,some edxStripePaymentInterfaceName,
    some paymentStatusInterfaceCodeSucceeded,
    [⟨"payment/0",0,.charge,⟨4900,"USD",some 2⟩,some "ch_1",.success,none⟩]⟩

def dashboardRefund : Refund := ⟨"re_1",4900,"usd",1750000000,"succeeded",some "pi_1",none⟩

def courseSold : Sale := OrderReturned.courseSale ["line-item"]

def stripeTask : RefundTask := .stripe "pi_1" dashboardRefund (some "2U-2025000001")

def recordingFails : List (Exchange Request Response) :=
  [⟨.getPaymentByKey .refundTask "pi_1",.ok charged⟩,
    ⟨.updatePaymentById "payment" 1 [.addTransaction (refundTransactionDraft dashboardRefund edxStripePaymentInterfaceName)],
      .error .concurrentModification⟩]

theorem recording_fails_run :
    (stripeTask.run courseSold).Answered recordingFails (.error (.commercetoolsError .concurrentModification)) :=
  Prog.follow_answered (by decide +kernel)

theorem failed_recording_retried :
    ∃ e, (.error (.commercetoolsError .concurrentModification) : Except Exn Unit) = .error e ∧ retried e = true := by
  apply (failures_retried_iff courseSold stripeTask recordingFails _ recording_fails_run).mpr
  · intro x member _
    rcases List.mem_cons.mp member with rfl | last
    · cases ‹_ = true›
    · rw [List.mem_singleton.mp last]
      rfl
  · exact ⟨_,List.mem_cons_of_mem _ (List.mem_singleton.mpr rfl),rfl⟩

def purchase : Payment :=
  {charged with
    paymentInterface := some edxAndroidIapPaymentInterfaceName
    transactions := [⟨"payment/0",0,.charge,⟨4900,"USD",some 2⟩,some "GPA.1",.success,none⟩,
      ⟨"payment/1",1,.refund,⟨4900,"USD",some 2⟩,some "GPA.1",.success,none⟩]}

def returnedOrder : Order :=
  ⟨"order",3,"customer",true,[],⟨4900,"USD",some 2⟩,[[⟨"return","line-item",.refunded,none,none⟩]],[purchase]⟩

def voidedPurchase : Refund := ⟨"GPA.1",0,"UNSET",1750000000000,"succeeded",none,none⟩

def mobileTask : RefundTask := .mobile edxAndroidIapPaymentInterfaceName voidedPurchase

def returnUpdate : Request := .updateOrderById "order" 3 [.setReturnItemCustomType "return" "payment/1" none]

-- The payment cannot be looked up, and the task fails over its own log message;
-- the return cannot be linked, and the client raises an exception of its own.
theorem failures_lost :
    (stripeTask.run courseSold).Answered [⟨.getPaymentByKey .refundTask "pi_1",.error .unavailable⟩] (.error .unboundLocalError) ∧
    (mobileTask.run courseSold).Answered [⟨.getPaymentByTransactionInteractionId "GPA.1",.ok (some purchase)⟩,
      ⟨.queryOrders "payment",.ok (some returnedOrder)⟩,⟨returnUpdate,(.error .unavailable : Except ErrorCode Order)⟩]
      (.error .openEdxFilterException) ∧
    retried .unboundLocalError = false ∧ retried .openEdxFilterException = false :=
  ⟨Prog.follow_answered (by decide +kernel),Prog.follow_answered (by decide +kernel),rfl,rfl⟩

end Failures
end RefundRetries
