import CommerceCoordinator.OrderReturned

open Commercetools CallTree PaymentTransactions CommercetoolsClient RefundPipeline
open OrderReturned (Sale orRaise getEdxLmsUserId stripeAmountInDollars)
open SegmentProperties (SegmentEventProperties checkIsBundle getProductData prepareSegmentEventProperties)

-- The tasks behind the refund webhooks, against the return pipeline's own record
-- of the refunds it asks for.
namespace RefundWebhooks

section Tasks
variable (sale : Sale)

-- The 'Order Refunded' event, of the first line item only.
def orderRefundedEvent (totalInDollars : ℚ) : Except Exn SegmentEventProperties := do
  let _ ← getEdxLmsUserId sale
  match sale.order.lineItems with
  | [] => .error .indexError
  | lineItem::_ => do
    let product ← getProductData lineItem (checkIsBundle sale.order.lineItems)
    let eventTitle ← match LegacyOrders.pick lineItem.name "en-US" with
      | some name => .ok name
      | none => .error (.keyError "en-US")
    let properties ← prepareSegmentEventProperties sale.order totalInDollars [lineItem.id] ""
    .ok {properties with products := [product], title := some eventTitle}

def sendSegmentEvent (orderNumber : Option String) (totalInDollars : ℚ) : Call Unit := do
  let order ← getOrderByNumber orderNumber
  let _ ← getCustomerById order.customerId
  let _ ← orRaise (orderRefundedEvent sale totalInDollars)
  return ()

-- The handlers of both tasks read `payment`, which is unbound when its lookup failed.
def refundFromStripeTask (paymentIntentId : String) (stripeRefund : Refund) (orderNumber : Option String) :
    Call (Option Payment) := do
  let payment ← exceptCommercetoolsError (getPaymentByKey .refundTask paymentIntentId) fun _ =>
    .raise .unboundLocalError
  if hasFullRefundTransaction payment || isTransactionAlreadyRefunded payment (some stripeRefund.id) then return none
  else
    let updatedPayment ← createReturnPaymentTransaction payment.id payment.version stripeRefund
      edxStripePaymentInterfaceName
    let totalInDollars ← orRaise (stripeAmountInDollars sale stripeRefund)
    sendSegmentEvent sale orderNumber totalInDollars
    return some updatedPayment

def refundFromPaypalTask (paypalCaptureId : String) (refund : Refund) (orderNumber : Option String) :
    Call (Option Payment) := do
  match ← exceptCommercetoolsError (getPaymentByTransactionInteractionId paypalCaptureId) fun _ =>
      .raise .unboundLocalError with
  | none => return none
  | some payment =>
    if hasFullRefundTransaction payment || isTransactionAlreadyRefunded payment (some refund.id) then return none
    else
      let updatedPayment ← createReturnPaymentTransaction payment.id payment.version refund
        edxPaypalPaymentInterfaceName
      sendSegmentEvent sale orderNumber refund.amount
      return some updatedPayment

end Tasks

-- A run of the return pipeline as far as the payment is concerned: the copy
-- FetchOrderDetailsByOrderID hands on, and the step that appends to it.
def recordReturn (k : Kwargs) (fetched : Fetched) : Call (Option Payment) := do
  let ctPayment ← getPaymentByKey .fetchOrderDetails (fetched.paymentIntentId.getD "")
  let _ ← createReturnPaymentTransactionStep {k with fetched := some {fetched with
    paymentData := some ctPayment
    hasBeenRefunded := hasFullRefundTransaction ctPayment || fetched.amountInDollars = 0}}
  return none

inductive Job where
  | stripe (paymentIntentId : String) (refund : Refund) (orderNumber : Option String)
  | paypal (paypalCaptureId : String) (refund : Refund) (orderNumber : Option String)
  | returned (k : Kwargs) (fetched : Fetched)

def Job.run (sale : Sale) : Job → Call (Option Payment)
  | .stripe paymentIntentId refund orderNumber => refundFromStripeTask sale paymentIntentId refund orderNumber
  | .paypal paypalCaptureId refund orderNumber => refundFromPaypalTask sale paypalCaptureId refund orderNumber
  | .returned k fetched => recordReturn k fetched

-- autoretry_for=(CommercetoolsError,)
def retried : Exn → Bool
  | .commercetoolsError _ => true
  | _ => false

def appends (k : Kwargs) (fetched : Fetched) (payment : Payment) : Bool :=
  k.activeOrderManagementSystem = some commercetoolsOrderManagementSystem ∧ k.pspRefundError = false ∧
    hasFullRefundTransaction payment = false ∧ fetched.amountInDollars ≠ 0

-- A pipeline run reads the payment before the refund it will append is recorded.
def freshFor (job : Job) (payment : Payment) : Bool :=
  match job with
  | .returned k fetched =>
    match k.refundResponse with
    | some (.refund refund) => !(appends k fetched payment && isTransactionAlreadyRefunded payment (some refund.id))
    | _ => true
  | _ => true

def readsFresh (job : Job) (s : Ledger) : Request → Bool
  | .getPaymentByKey .fetchOrderDetails _ => freshFor job s.payment
  | _ => true

def Records (s s' : Ledger) : Prop :=
  Versioned.Evolves s.payment s'.payment ∧ (UniqueRefunds s.payment → UniqueRefunds s'.payment)

theorem Records.refl (s : Ledger) : Records s s := ⟨.refl _,fun unique => unique⟩
theorem Records.trans (ab : Records a b) (bc : Records b c) : Records a c :=
  ⟨ab.1.trans bc.1,fun unique => bc.2 (ab.2 unique)⟩

abbrev Keeps (job : Job) (post : Except Exn α → Ledger → Prop) (p : Call α) (s : Ledger) : Prop :=
  Ensures (commercetools retried) (fun s r => readsFresh job s r = true) Records Records post p s

abbrev anyOutcome : Except Exn α → Ledger → Prop := fun _ _ => True

theorem create_keeps (copied : Versioned.Evolves copy s.payment)
    (unrecorded : isTransactionAlreadyRefunded copy (some refund.id) = false) :
    Keeps job anyOutcome (createReturnPaymentTransaction copy.id copy.version refund psp) s := by
  intro t moved _ answers
  rcases update_payment_cases answers copy.id copy.version [.addTransaction (refundTransactionDraft refund psp)] t with
    ⟨code,refused⟩ | ⟨payment,accepted,written⟩
  · simp only [commercetools,refused]
    exact ⟨.refl _,fun _ _ => trivial⟩
  · obtain ⟨same,changed⟩ := Versioned.compareAndSet_copy (copied.trans moved.1) accepted
    rw [add_transaction_applied] at changed
    cases Option.some.inj changed
    simp only [commercetools,written]
    refine ⟨⟨.inr ?_,?_⟩,fun _ _ => trivial⟩
    · rw [same]
      exact Nat.lt_succ_self copy.version
    · intro unique
      rw [same] at unique
      exact add_unique unique unrecorded

theorem prepared_keeps (x : Except Exn α) : Keeps job anyOutcome (orRaise x) s := by
  cases x <;> exact fun _ _ => trivial

theorem segment_event_keeps (sale : Sale) (orderNumber : Option String) (totalInDollars : ℚ) :
    Keeps job anyOutcome (sendSegmentEvent sale orderNumber totalInDollars) s := by
  refine Ensures.bind anyOutcome ?_ (fun _ _ _ => trivial) ?_
  · intro t _ _ answers
    refine ⟨.refl _,?_⟩
    cases answers <;> exact fun _ _ => trivial
  · intro order t _
    refine Ensures.bind anyOutcome ?_ (fun _ _ _ => trivial) ?_
    · intro u _ _ answers
      refine ⟨.refl _,?_⟩
      cases answers <;> exact fun _ _ => trivial
    · intro _ u _
      exact Ensures.bind anyOutcome (prepared_keeps _) (fun _ _ _ => trivial) fun _ _ _ _ _ => trivial

def Copied (job : Job) (caller : Caller) : Except Exn Payment → Ledger → Prop
  | .ok copy,t => Versioned.Evolves copy t.payment ∧ (caller = .fetchOrderDetails → freshFor job copy = true)
  | .error _,_ => True

theorem get_payment_keeps (caller : Caller) (paymentKey : String) :
    Keeps job (Copied job caller) (getPaymentByKey caller paymentKey) s := by
  intro t _ ready answers
  refine ⟨.refl _,?_⟩
  cases answers with
  | false => exact fun _ _ => trivial
  | true =>
    simp only [commercetools,serve,if_true]
    split
    · exact fun u later => ⟨later.1,by rintro rfl; exact ready⟩
    · exact fun _ _ => trivial

theorem except_keeps {post : Except Exn α → Ledger → Prop} {p : Call α} {handler : ErrorCode → Call α}
    (first : Except Exn α → Ledger → Prop) (holds : Keeps job first p s) (done : ∀ a s, first (.ok a) s → post (.ok a) s)
    (failed : ∀ code s, Keeps job post (handler code) s) (other : ∀ e s, post (.error e) s) :
    Keeps job post (exceptCommercetoolsError p handler) s := by
  apply Ensures.handle first holds done
  intro e t _
  cases e with
  | commercetoolsError code => exact failed code t
  | _ => exact fun u _ => other _ u

theorem unrecorded_of_checked
    (absent : ¬ (hasFullRefundTransaction payment || isTransactionAlreadyRefunded payment (some interactionId)) = true) :
    isTransactionAlreadyRefunded payment (some interactionId) = false := by
  simp only [Bool.or_eq_true,not_or,Bool.not_eq_true] at absent
  exact absent.2

theorem record_keeps (copied : Versioned.Evolves copy s.payment)
    (unrecorded : isTransactionAlreadyRefunded copy (some refund.id) = false) {event : Payment → Call (Option Payment)}
    (told : ∀ updated t, Keeps job anyOutcome (event updated) t) :
    Keeps job anyOutcome ((createReturnPaymentTransaction copy.id copy.version refund psp).bind event) s := by
  apply Ensures.bind _ (create_keeps copied unrecorded) (fun _ _ _ => trivial)
  exact fun updated t _ => told updated t

theorem stripe_task_keeps (sale : Sale) (paymentIntentId : String) (refund : Refund) (orderNumber : Option String) :
    Keeps job anyOutcome (refundFromStripeTask sale paymentIntentId refund orderNumber) s := by
  refine Ensures.bind (Copied job .refundTask) ?_ (fun _ _ _ => trivial) ?_
  · exact except_keeps _ (get_payment_keeps .refundTask paymentIntentId) (fun _ _ copied => copied)
      (fun _ _ _ _ => trivial) fun _ _ => trivial
  · intro payment t copied
    split
    · exact fun _ _ => trivial
    · rename_i absent
      apply record_keeps (copied t (.refl _)).1 (unrecorded_of_checked absent)
      intro updated u
      refine Ensures.bind anyOutcome (prepared_keeps _) (fun _ _ _ => trivial) fun totalInDollars v _ => ?_
      exact Ensures.bind _ (segment_event_keeps sale orderNumber totalInDollars) (fun _ _ _ => trivial)
        fun _ _ _ _ _ => trivial

def Found : Except Exn (Option Payment) → Ledger → Prop
  | .ok (some copy),t => Versioned.Evolves copy t.payment
  | _,_ => True

theorem find_payment_keeps (interactionId : String) :
    Keeps job Found (getPaymentByTransactionInteractionId interactionId) s := by
  intro t _ _ answers
  refine ⟨.refl _,?_⟩
  cases answers with
  | false => exact fun _ _ => trivial
  | true =>
    simp only [commercetools,serve,if_true]
    split
    · exact fun u later => later.1
    · exact fun _ _ => trivial

theorem paypal_task_keeps (sale : Sale) (paypalCaptureId : String) (refund : Refund) (orderNumber : Option String) :
    Keeps job anyOutcome (refundFromPaypalTask sale paypalCaptureId refund orderNumber) s := by
  refine Ensures.bind Found ?_ (fun _ _ _ => trivial) ?_
  · exact except_keeps _ (find_payment_keeps paypalCaptureId) (fun _ _ found => found)
      (fun _ _ _ _ => trivial) fun _ _ => trivial
  · intro found t copied
    cases found with
    | none => exact fun _ _ => trivial
    | some payment =>
      dsimp only
      split
      · exact fun _ _ => trivial
      · rename_i absent
        apply record_keeps (copied t (.refl _)) (unrecorded_of_checked absent)
        exact fun updated u => Ensures.bind _ (segment_event_keeps sale orderNumber refund.amount) (fun _ _ _ => trivial)
          fun _ _ _ _ _ => trivial

theorem return_keeps (k : Kwargs) (fetched : Fetched) :
    Keeps (.returned k fetched) anyOutcome (recordReturn k fetched) s := by
  apply Ensures.bind _ (get_payment_keeps .fetchOrderDetails _) (fun _ _ _ => trivial)
  intro copy t copied
  obtain ⟨evolved,fresh⟩ := copied t (.refl _)
  refine Ensures.bind anyOutcome ?_ (fun _ _ _ => trivial) fun _ _ _ _ _ => trivial
  unfold createReturnPaymentTransactionStep
  dsimp only
  split
  · exact fun _ _ => trivial
  rename_i active
  split
  · exact fun _ _ => trivial
  rename_i pending
  split
  · exact fun _ _ => trivial
  rename_i accepted
  split
  · exact fun _ _ => trivial
  split
  · rename_i refund responded
    have unrecorded : isTransactionAlreadyRefunded copy (some refund.id) = false := by
      obtain ⟨_,pending⟩ := not_or.mp pending
      simp only [Bool.or_eq_true,not_or,Bool.not_eq_true,decide_eq_false_iff_not] at pending accepted
      simpa [freshFor,responded,appends,not_not.mp active,accepted,pending] using fresh rfl
    refine except_keeps anyOutcome ?_ (fun _ _ _ => trivial) ?_ fun _ _ => trivial
    · exact Ensures.bind _ (create_keeps evolved unrecorded) (fun _ _ _ => trivial)
        fun _ _ _ _ _ => trivial
    · intro code u
      split
      · exact fun _ _ => trivial
      · exact fun _ _ => trivial
  · exact fun _ _ => trivial

theorem job_keeps (sale : Sale) (job : Job) (s : Ledger) : Keeps job anyOutcome (job.run sale) s := by
  cases job with
  | stripe paymentIntentId refund orderNumber => exact stripe_task_keeps sale paymentIntentId refund orderNumber
  | paypal paypalCaptureId refund orderNumber => exact paypal_task_keeps sale paypalCaptureId refund orderNumber
  | returned k fetched => exact return_keeps k fetched

section Runs
variable {ι : Type} [DecidableEq ι]

abbrev Cluster (ι : Type) := Config Request Response Exn (Option Payment) Ledger ι

abbrev Runs (sale : Sale) (jobs : ι → Job) (allowed : ι → Ledger → Request → Prop) :
    Cluster ι → List (Event ι Bool Empty) → Cluster ι → Prop :=
  RunsWhen ((commercetools retried).step fun i => (jobs i).run sale) (Permitted allowed)

theorem refunds_recorded_once (sale : Sale) (jobs : ι → Job) (ledger : Ledger) (unique : UniqueRefunds ledger.payment)
    (path : Runs sale jobs (fun i s r => readsFresh (jobs i) s r = true) ⟨ledger,fun i => (jobs i).run sale⟩ events c) :
    UniqueRefunds c.shared.payment := by
  have along := uniform_interference Records.refl (fun _ _ _ => Records.trans) (fun change => change.elim)
    (fun i _ s _ _ => job_keeps sale (jobs i) s) (fun i => job_keeps sale (jobs i) ledger) path
  exact along.2.2 unique

end Runs

def stripeRefund (id : String) (cents : Int) : Refund := ⟨id,cents,"usd",0,"succeeded",some "intent",none⟩
def chargeTransaction : Transaction := ⟨"charge",0,.charge,⟨100,"USD",some 2⟩,some "charge",.success,none⟩
def refundTransaction : Transaction := ⟨"payment/1",0,.refund,⟨40,"USD",some 2⟩,some "refund 1",.success,none⟩

def stripePayment (transactions : List Transaction) : Payment :=
  ⟨"payment",1,some "intent",some "intent",⟨100,"USD",some 2⟩,some edxStripePaymentInterfaceName,
    some paymentStatusInterfaceCodeSucceeded,transactions⟩

def paidOrder (payment : Payment) : Order :=
  ⟨"order",1,"customer",false,[⟨"first",1,⟨60,"USD",some 2⟩,[],none⟩,⟨"second",1,⟨40,"USD",some 2⟩,[],none⟩],
    ⟨100,"USD",some 2⟩,[[⟨"return","second",.initial,none,none⟩]],[payment]⟩

-- Both items were refunded at Stripe; the webhook of the first refund is still
-- on its way, that of the second has been recorded.
def refundedLedger : Ledger :=
  ⟨paidOrder (stripePayment [chargeTransaction,refundTransaction]),stripePayment [chargeTransaction,refundTransaction],
    ⟨"intent",100,"usd",[⟨60,stripeRefund "refund 0" 60,["first"]⟩,⟨40,stripeRefund "refund 1" 40,["second"]⟩]⟩⟩

def returnedSecond : Kwargs := ⟨"order",[("second","return")],[],none,none,none,false⟩

def fetchedSecond : Fetched :=
  ⟨refundedLedger.order,some edxStripePaymentInterfaceName,some "intent",["second"],[],2/5,some "charge",false,
    some refundedLedger.payment⟩

def carriesLatestRefund : Kwargs :=
  {returnedSecond with
    activeOrderManagementSystem := some commercetoolsOrderManagementSystem
    fetched := some fetchedSecond
    refundResponse := some (.refund (stripeRefund "refund 1" 40))}

def bothSold : Sale := OrderReturned.courseSale ["first","second"]

theorem latest_refund_recorded_twice :
    UniqueRefunds refundedLedger.payment ∧
    Prog.exec (serve true) (runPipeline (orderRefundRequested.take 4) returnedSecond) refundedLedger =
      (.ok carriesLatestRefund,refundedLedger) ∧
    ∃ payment, (run ((commercetools retried).step fun _ => (Job.returned carriesLatestRefund fetchedSecond).run bothSold)
        (⟨refundedLedger,fun _ => (Job.returned carriesLatestRefund fetchedSecond).run bothSold⟩ : Cluster Unit)
        [.act () true,.act () true]).map (·.shared.payment) = some payment ∧ ¬ UniqueRefunds payment :=
  ⟨by decide +kernel,by decide +kernel,addTransaction refundedLedger.payment (refundTransactionDraft
    (stripeRefund "refund 1" 40) edxStripePaymentInterfaceName),by decide +kernel,by decide +kernel⟩

def webhookAndReturn (returned : Bool) : Job :=
  if returned then
    .returned {carriesLatestRefund with refundResponse := some (.refund (stripeRefund "refund 2" 10))} fetchedSecond
  else .stripe "intent" (stripeRefund "refund 0" 50) none

theorem webhook_and_return_recorded_once :
    ∃ c, run ((commercetools retried).step fun i => (webhookAndReturn i).run bothSold)
      ⟨refundedLedger,fun i => (webhookAndReturn i).run bothSold⟩ [.act true true,.act true true,.act false true,.act false true] =
        some c ∧ UniqueRefunds c.shared.payment := by
  have ran : (guardedRun ((commercetools retried).step fun i => (webhookAndReturn i).run bothSold)
      (permitted fun i s r => readsFresh (webhookAndReturn i) s r) ⟨refundedLedger,fun i => (webhookAndReturn i).run bothSold⟩
      [.act true true,.act true true,.act false true,.act false true]).isSome = true := by decide +kernel
  have path := RunsWhen.nil.guarded permitted_sound (Option.some_get ran).symm
  exact ⟨_,path.sound,refunds_recorded_once bothSold webhookAndReturn refundedLedger (by decide +kernel) path⟩

end RefundWebhooks
