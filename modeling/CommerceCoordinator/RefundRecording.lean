import CommerceCoordinator.MobileRefund
import CommerceCoordinator.RefundOutcome

open Commercetools CallTree OrderReturn PaymentTransactions CommercetoolsClient RefundPipeline OrderReturned RefundDelivery
open RefundOutcome

-- The two writes by which a refund is recorded, each of which can fail, and the
-- tasks that come to them.
namespace RefundRecording

-- The arguments of update_return_payment_state_after_successful_refund.
structure Recording where
  orderId : String
  orderVersion : Nat
  returnLineItemReturnIds : List String
  returnLineEntitlementIds : Dict String
  refundedLineItemRefunds : Dict String
  paymentIntentId : Option String
  interactionId : Option String
  paymentState : ReturnPaymentState
  payment : Option Payment
  shouldTransitionState : Bool
  deriving DecidableEq

def record (r : Recording) : Call Order :=
  updateReturnPaymentStateAfterSuccessfulRefund r.orderId r.orderVersion r.returnLineItemReturnIds
    r.returnLineEntitlementIds r.refundedLineItemRefunds r.paymentIntentId r.interactionId r.paymentState r.payment
    r.shouldTransitionState

namespace Recording

def actions (r : Recording) (transactionId : String) : List OrderUpdateAction :=
  (if r.shouldTransitionState then refundedStateActions r.returnLineItemReturnIds r.paymentState else []) ++
    transactionIdActions r.returnLineItemReturnIds r.refundedLineItemRefunds r.returnLineEntitlementIds transactionId

def text (r : Recording) : String := ", ".intercalate r.returnLineItemReturnIds

def transactionId (r : Recording) (s : Ledger) : String := refundTransactionId s.payment r.interactionId

def order (r : Recording) (s : Ledger) : Order :=
  {updateReturnItems s.order (itemAfter (r.actions (r.transactionId s))) with version := s.order.version+1}

end Recording

def linkTransaction (transactionId text : String) (transaction : Transaction) : Transaction :=
  if transaction.id = transactionId then {transaction with returnItemId := some text} else transaction

def linkPayment (transactionId text : String) (payment : Payment) : Payment :=
  if transactionId = "" then payment
  else {payment with transactions := payment.transactions.map (linkTransaction transactionId text), version := payment.version+1}

inductive Failure where
  | orderUpdate | paymentUpdate
  deriving DecidableEq

def Failure.raises : Failure → Request → Bool
  | .orderUpdate,.updateOrderById _ _ _ => true
  | .paymentUpdate,.updatePaymentById _ _ _ => true
  | _,_ => false

def failing (failure : Option Failure) (r : Request) (s : Ledger) : Response r × Ledger :=
  serve (!failure.any (·.raises r)) r s

-- The payment states of the returns, and the links between returns and
-- transactions in both directions.
def states (order : Order) : List (String × ReturnPaymentState × Option String) :=
  (Rollout.getOrderReturnInfoReturnItems order).map fun item => (item.id,item.paymentState,item.transactionId)
def links (payment : Payment) : List (String × Option String) :=
  payment.transactions.map fun transaction => (transaction.id,transaction.returnItemId)
def recordOf (s : Ledger) : List (String × ReturnPaymentState × Option String) × List (String × Option String) :=
  (states s.order,links s.payment)

structure Ready (r : Recording) (s : Ledger) : Prop where
  current : r.orderId = s.order.id ∧ r.orderVersion = s.order.version
  payment : r.payment = some s.payment ∨
    r.payment = none ∧ s.payment.key = some (normalizedPaymentKey (r.paymentIntentId.getD ""))
  listed : ∀ returnId ∈ r.returnLineItemReturnIds, returnId ∈ (returnKeys s.order).map (·.1)

section Recordings
variable {r : Recording} {s : Ledger}

theorem refund_transaction_present (named : refundTransactionId payment interactionId ≠ "") :
    ∃ transaction ∈ payment.transactions, transaction.id = refundTransactionId payment interactionId := by
  have found : ∀ (transactions : List Transaction) (sought : Transaction → Bool),
      ((transactions.find? sought).map (·.id)).getD "" ≠ "" →
        ∃ transaction ∈ transactions, transaction.id = ((transactions.find? sought).map (·.id)).getD "" := by
    intro transactions sought some
    cases first : transactions.find? sought with
    | none => simp [first] at some
    | some transaction => exact ⟨transaction,List.mem_of_find?_eq_some first,rfl⟩
  by_cases absent : findRefundTransaction payment interactionId = ""
  · simp only [refundTransactionId,absent,if_true] at named ⊢
    obtain ⟨transaction,member,same⟩ := found _ _ named
    exact ⟨transaction,(List.perm_insertionSort _ _).mem_iff.mp member,same⟩
  · simp only [refundTransactionId,absent,if_false]
    exact found _ _ absent

theorem action_ids (transactionId : String) (member : action ∈ r.actions transactionId) :
    action.returnItemId ∈ r.returnLineItemReturnIds := by
  rcases List.mem_append.mp member with state | transaction
  · split at state
    · obtain ⟨returnId,listed,rfl⟩ := List.mem_map.mp state
      exact listed
    · cases state
  · obtain ⟨returnId,listed,rfl⟩ := List.mem_map.mp transaction
    exact listed

theorem Ready.applied (ready : Ready r s) : Versioned.compareAndSet r.orderVersion s.order
    (applyOrderActions (r.actions (r.transactionId s))) = some (r.order s) := by
  obtain ⟨updated,applied⟩ := apply_actions_accepted fun action member => ready.listed _ (action_ids (r.transactionId s) member)
  refine Versioned.compareAndSet_some.mpr ⟨ready.current.2.symm,?_⟩
  rw [applyOrderActions,applied,apply_actions_items applied]
  rfl

theorem link_applied (named : r.transactionId s ≠ "") : Versioned.compareAndSet s.payment.version s.payment
    (applyPaymentActions [.setTransactionCustomType (r.transactionId s) r.text]) =
      some (linkPayment (r.transactionId s) r.text s.payment) := by
  have present : s.payment.transactions.any (·.id = r.transactionId s) = true := by
    obtain ⟨transaction,member,same⟩ := refund_transaction_present named
    exact List.any_eq_true.mpr ⟨transaction,member,decide_eq_true same⟩
  refine Versioned.compareAndSet_some.mpr ⟨rfl,?_⟩
  simp only [applyPaymentActions,List.foldlM_cons,List.foldlM_nil,applyPaymentAction,linkPayment,named,present,if_true,if_false]
  rfl

theorem payment_at_hand (ready : Ready r s) (failure : Option Failure) :
    Prog.exec (failing failure) (givenOrFoundPayment r.payment r.paymentIntentId) s = (.ok s.payment,s) := by
  rcases ready.payment with given | ⟨absent,key⟩
  · rw [given]
    rfl
  · rw [absent]
    have through : (!failure.any (·.raises (.getPaymentByKey .updateReturnPaymentState (r.paymentIntentId.getD "")))) = true := by
      rcases failure with _ | _ | _ <;> rfl
    simp only [givenOrFoundPayment,getPaymentByKey,Prog.expect,Prog.perform,Prog.call_bind,Prog.pure_bind,Prog.exec_call,
      failing,through,serve,key,if_true,Prog.exec_pure]

theorem order_updated (ready : Ready r s) (failure : Option Failure) : Prog.exec (failing failure)
    (updateOrderById r.orderId r.orderVersion (r.actions (r.transactionId s))) s =
      if failure = some .orderUpdate then (.error (.commercetoolsError .unavailable),s)
      else (.ok (r.order s),{s with order := r.order s}) := by
  have applied := ready.applied
  have own := ready.current.1
  rcases failure with _ | _ | _ <;>
    simp [updateOrderById,Prog.expect,Prog.perform,failing,Failure.raises,serve,own,applied]

theorem payment_linked (s : Ledger) (order : Order) (failure : Option Failure) : Prog.exec (failing failure)
    (setTransactionReturnItemId s.payment (r.transactionId s) r.returnLineItemReturnIds) {s with order} =
      if failure = some .paymentUpdate ∧ r.transactionId s ≠ "" then
        (.error (.commercetoolsError .unavailable),{s with order})
      else (.ok (),{s with order, payment := linkPayment (r.transactionId s) r.text s.payment}) := by
  by_cases named : r.transactionId s = ""
  · simp [setTransactionReturnItemId,linkPayment,named]
  · have applied := link_applied named
    rw [Recording.text] at applied
    rcases failure with _ | _ | _ <;>
      simp [setTransactionReturnItemId,updatePaymentById,Prog.expect,Prog.perform,failing,Failure.raises,serve,named,applied,
        Recording.text]

theorem record_runs (ready : Ready r s) (failure : Option Failure) : Prog.exec (failing failure) (record r) s =
    if failure = some .orderUpdate then (.error .openEdxFilterException,s)
    else if failure = some .paymentUpdate ∧ r.transactionId s ≠ "" then
      (.error .openEdxFilterException,{s with order := r.order s})
    else (.ok (r.order s),{s with order := r.order s, payment := linkPayment (r.transactionId s) r.text s.payment}) := by
  have hand := payment_at_hand ready failure
  have updated := order_updated ready failure
  have linked := payment_linked (r := r) s (r.order s) failure
  unfold Recording.actions at updated
  unfold Recording.transactionId at updated linked ⊢
  simp only [record,updateReturnPaymentStateAfterSuccessfulRefund,exceptCommercetoolsError,Prog.exec_handle,Prog.monad_bind,
    Prog.exec_bind,hand,updated]
  split_ifs with first second
  · rfl
  · simp only [linked,if_pos second]
    rfl
  · simp only [linked,if_neg second]
    rfl

theorem record_answered (ready : Ready r s) : Prog.exec (serve true) (record r) s =
    (.ok (r.order s),{s with order := r.order s, payment := linkPayment (r.transactionId s) r.text s.payment}) :=
  record_runs ready none

end Recordings

def Recording.written (r : Recording) (transactionId : String) (item : ReturnItem) : ReturnItem :=
  {item with
    paymentState := if r.shouldTransitionState then r.paymentState else item.paymentState
    transactionId := some ((r.refundedLineItemRefunds.get item.id).getD transactionId)
    lmsEntitlementId := (r.returnLineEntitlementIds.get item.id).filter (· ≠ "")}

section Items
variable {r : Recording} {s : Ledger}

theorem states_written (ids : List String) (paymentState : ReturnPaymentState) (item : ReturnItem) :
    itemAfter (refundedStateActions ids paymentState) item = if item.id ∈ ids then {item with paymentState} else item := by
  rw [itemAfter,refundedStateActions,List.foldl_map]
  exact MobileRefund.change_listed (fun item => {item with paymentState}) (fun _ => rfl) (fun _ => rfl) ids item

theorem item_written (r : Recording) (transactionId : String) (item : ReturnItem) : itemAfter (r.actions transactionId) item =
    if item.id ∈ r.returnLineItemReturnIds then r.written transactionId item else item := by
  have two : itemAfter (r.actions transactionId) item = itemAfter (transactionIdActions r.returnLineItemReturnIds
      r.refundedLineItemRefunds r.returnLineEntitlementIds transactionId)
      (itemAfter (if r.shouldTransitionState then refundedStateActions r.returnLineItemReturnIds r.paymentState else []) item) :=
    List.foldl_append
  rw [two,MobileRefund.transactions_written]
  cases transition : r.shouldTransitionState with
  | false => simp [itemAfter,Recording.written,transition]
  | true =>
    simp only [states_written,if_true]
    by_cases listed : item.id ∈ r.returnLineItemReturnIds <;> simp [listed,Recording.written,transition]

theorem order_items (r : Recording) (s : Ledger) : Rollout.getOrderReturnInfoReturnItems (r.order s) =
    (Rollout.getOrderReturnInfoReturnItems s.order).map fun item =>
      if item.id ∈ r.returnLineItemReturnIds then r.written (r.transactionId s) item else item := by
  have written : itemAfter (r.actions (r.transactionId s)) = _ := funext (item_written r (r.transactionId s))
  rw [← written]
  exact return_items_updated s.order _

theorem states_order (r : Recording) (s : Ledger) : states (r.order s) =
    (Rollout.getOrderReturnInfoReturnItems s.order).map fun item =>
      if item.id ∈ r.returnLineItemReturnIds then
        (item.id,if r.shouldTransitionState then r.paymentState else item.paymentState,
          some ((r.refundedLineItemRefunds.get item.id).getD (r.transactionId s)))
      else (item.id,item.paymentState,item.transactionId) := by
  rw [states,order_items,List.map_map]
  refine List.map_congr_left fun item _ => ?_
  rw [Function.comp_apply]
  split <;> rfl

end Items

section Links
variable {payment : Payment} {transactionId other text : String}

def Linked (transactionId text : String) (payment : Payment) : Prop := transactionId ≠ "" →
  ∀ transaction ∈ payment.transactions, transaction.id = transactionId → transaction.returnItemId = some text

instance : Decidable (Linked transactionId text payment) := inferInstanceAs (Decidable (_ → ∀ _ ∈ _, _ → _))

theorem links_written : links (linkPayment transactionId text payment) = payment.transactions.map fun transaction =>
    (transaction.id,if transactionId ≠ "" ∧ transaction.id = transactionId then some text else transaction.returnItemId) := by
  unfold links linkPayment
  by_cases named : transactionId = ""
  · simp [named]
  · simp only [named,if_false,List.map_map]
    refine List.map_congr_left fun transaction _ => ?_
    by_cases same : transaction.id = transactionId <;> simp [linkTransaction,same,named]

theorem linked_iff : links payment = links (linkPayment transactionId text payment) ↔ Linked transactionId text payment := by
  rw [links_written,links,List.map_inj_left]
  refine ⟨?_,?_⟩
  · intro same named transaction member here
    simpa [named,here] using congrArg Prod.snd (same transaction member)
  · intro linked transaction member
    by_cases here : transactionId ≠ "" ∧ transaction.id = transactionId
    · simp [here,linked here.1 transaction member here.2]
    · simp [here]

theorem links_agree_iff : links (linkPayment other text payment) = links (linkPayment transactionId text payment) ↔
    other = transactionId ∨ Linked other text payment ∧ Linked transactionId text payment := by
  by_cases same : other = transactionId
  · simp [same]
  simp only [same,false_or]
  constructor
  · intro agree
    rw [links_written,links_written,List.map_inj_left] at agree
    constructor
    · intro named transaction member here
      simpa [named,here,same] using (congrArg Prod.snd (agree transaction member)).symm
    · intro named transaction member here
      simpa [named,here,Ne.symm same] using congrArg Prod.snd (agree transaction member)
  · intro both
    rw [← linked_iff.mpr both.1,← linked_iff.mpr both.2]

theorem texts_agree_iff (named : transactionId ≠ "") (present : ∃ transaction ∈ payment.transactions, transaction.id = transactionId) :
    links (linkPayment transactionId other payment) = links (linkPayment transactionId text payment) ↔ other = text := by
  refine ⟨?_,fun same => by rw [same]⟩
  intro agree
  obtain ⟨transaction,member,here⟩ := present
  rw [links_written,links_written,List.map_inj_left] at agree
  simpa [named,here] using congrArg Prod.snd (agree transaction member)

end Links

inductive Task where
  | refundFromMobile (paymentInterface : String) (refund : Refund)
  | orderReturned (sale : Sale) (orderId : String) (returnItems : List ReturnedItem)

def Task.program : Task → Call Unit
  | .refundFromMobile paymentInterface refund => MobileRefund.refundFromMobileTask paymentInterface refund
  | .orderReturned sale orderId returnItems => fulfillOrderReturnedSignalTask sale orderId returnItems

def mobileRecording (refund : Refund) (payment : Payment) (result : MobileRefund.OrderWithReturnInfo) : Recording :=
  ⟨result.orderId,result.orderVersion,result.returnLineItemReturnIds,[],[],some refund.id,some refund.id,.refunded,
    some payment,false⟩

def returnRecording (k : Kwargs) (fetched : Fetched) : Recording :=
  let interactionId := match k.refundResponse with
    | some (.refund refundResponse) => some refundResponse.id
    | _ => none
  ⟨fetched.orderData.id,fetched.orderData.version,k.returnLineItems.values,k.returnLineEntitlementIds,
    fetched.refundedLineItemRefunds,fetched.paymentIntentId,interactionId,returnedState k,none,true⟩

def recordingOf (k : Kwargs) : Option Recording :=
  match k.fetched with
  | none => none
  | some fetched => if fetched.paymentIntentId = none ∧ fetched.psp = none then none else some (returnRecording k fetched)

-- A task up to the recording, with what it does afterwards.
def Task.reach : Task → Call (Option Recording × Call Unit)
  | .refundFromMobile paymentInterface refund => do
    match ← getPaymentByTransactionInteractionId refund.id with
    | none => return (none,.pure ())
    | some payment => do
      let payment ← MobileRefund.recordMobileRefund paymentInterface refund payment
      let result ← MobileRefund.findOrderWithUnprocessedReturnForPayment payment.id
      return (result.map (mobileRecording refund payment),.pure ())
  | .orderReturned sale orderId returnItems => do
    match ← prepareReturn sale orderId returnItems with
    | none => return (none,.pure ())
    | some k => do
      let k ← runPipeline orderRefundRequested.dropLast k
      return (recordingOf k,revokeLineItems sale returnItems k)

def finish : Option Recording × Call Unit → Call Unit
  | (none,rest) => rest
  | (some r,rest) => (record r).bind fun _ => rest

theorem update_step_records (k : Kwargs) (rest : Kwargs → Call Unit) :
    (updateCommercetoolsOrderReturnPaymentStatus k).bind rest = finish (recordingOf k,rest k) := by
  unfold updateCommercetoolsOrderReturnPaymentStatus recordingOf
  cases k.fetched with
  | none => rfl
  | some fetched =>
    dsimp only
    split
    · rfl
    · simp only [finish,Prog.monad_bind,Prog.bind_assoc]
      rfl

theorem task_reaches (task : Task) : task.program = task.reach.bind finish := by
  cases task with
  | refundFromMobile paymentInterface refund =>
    simp only [Task.program,Task.reach,MobileRefund.refundFromMobileTask,Prog.monad_bind,Prog.bind_assoc]
    congr 1
    funext found
    cases found with
    | none => rfl
    | some payment =>
      simp only [Prog.bind_assoc]
      congr 1
      funext payment
      congr 1
      funext result
      cases result <;> rfl
  | orderReturned sale orderId returnItems =>
    simp only [Task.program,Task.reach,fulfillOrderReturnedSignalTask,Prog.monad_bind,Prog.bind_assoc]
    congr 1
    funext prepared
    cases prepared with
    | none => rfl
    | some k =>
      have whole : runPipeline orderRefundRequested k = (runPipeline orderRefundRequested.dropLast k).bind fun k =>
          (updateCommercetoolsOrderReturnPaymentStatus k).bind .pure :=
        run_pipeline_append orderRefundRequested.dropLast [.updateCommercetoolsOrderReturnPaymentStatus] k
      change (runPipeline orderRefundRequested k).bind (revokeLineItems sale returnItems) =
        ((runPipeline orderRefundRequested.dropLast k).bind fun k =>
          .pure (recordingOf k,revokeLineItems sale returnItems k)).bind finish
      rw [whole,Prog.bind_assoc,Prog.bind_assoc]
      congr 1
      funext k
      rw [Prog.pure_bind,← update_step_records,Prog.bind_pure]

section Mobile
variable {paymentInterface : String} {refund : Refund} {r : Recording} {s : Ledger} {ids : List String}
  {allowed : Bool → Ledger → Request → Prop}

structure MobileReached (refund : Refund) (r : Recording) (s : Ledger) : Prop where
  found : s.payment.transactions.any (·.interactionId = some refund.id) = true
  recorded : (hasFullRefundTransaction s.payment || isTransactionAlreadyRefunded s.payment (some refund.id)) = true
  attached : s.order.payments.any (·.id = s.payment.id) = true
  taken : ∃ ids, MobileRefund.getUnprocessedReturnItemIdsFromOrder s.order = some ids ∧
    r = mobileRecording refund s.payment ⟨s.order.id,s.order.version,ids⟩

theorem record_mobile_meets (found : s.payment.transactions.any (·.interactionId = some refund.id) = true) :
    Meets allowed (fun out t => ∀ payment, out = .ok payment → payment = t.payment ∧ t.order = s.order ∧
      t.payment.transactions.any (·.interactionId = some refund.id) = true ∧
      (hasFullRefundTransaction t.payment || isTransactionAlreadyRefunded t.payment (some refund.id)) = true)
      (MobileRefund.recordMobileRefund paymentInterface refund s.payment) s := by
  unfold MobileRefund.recordMobileRefund
  split
  · rename_i recorded
    rintro payment ⟨⟩
    exact ⟨rfl,rfl,found,recorded⟩
  · apply Prog.wp_bind.mpr
    refine update_payment_meets ?_ fun _ _ never => by cases never
    intro updated accepted
    have added : updated = addTransaction s.payment
        (refundTransactionDraft (MobileRefund.refundOfPayment paymentInterface refund s.payment) paymentInterface) := by
      obtain ⟨_,applied⟩ := Versioned.compareAndSet_some.mp accepted
      rw [add_transaction_applied] at applied
      exact (Option.some.inj applied).symm
    intro answers _
    rintro payment ⟨⟩
    have interaction : (MobileRefund.refundOfPayment paymentInterface refund s.payment).id = refund.id :=
      MobileRefund.refund_of_payment_id ..
    rw [added]
    refine ⟨rfl,rfl,?_,?_⟩
    · change (s.payment.transactions++[_]).any _ = true
      rw [List.any_append,found,Bool.true_or]
    · have refunded : isTransactionAlreadyRefunded (addTransaction s.payment (refundTransactionDraft
          (MobileRefund.refundOfPayment paymentInterface refund s.payment) paymentInterface)) (some refund.id) = true := by
        refine List.any_eq_true.mpr ⟨_,List.mem_append_right _ (List.mem_singleton.mpr rfl),?_⟩
        simpa [isRefund,refundTransactionDraft,preprocessRefundObject] using interaction
      exact Bool.or_eq_true_iff.mpr (.inr refunded)

theorem find_return_meets (paymentId : String) : Meets allowed (fun out t => t = s ∧ ∀ result, out = .ok (some result) →
    s.order.payments.any (·.id = paymentId) = true ∧ ∃ ids,
      MobileRefund.getUnprocessedReturnItemIdsFromOrder s.order = some ids ∧ result = ⟨s.order.id,s.order.version,ids⟩)
    (MobileRefund.findOrderWithUnprocessedReturnForPayment paymentId) s := by
  intro answers _
  cases answers with
  | false => exact ⟨rfl,fun _ never => by cases never⟩
  | true =>
    by_cases waiting : s.order.payments.any (·.id = paymentId) = true ∧ hasUnprocessedReturn s.order = true
    · simp only [serve,if_true,if_pos waiting,Prog.pure_bind]
      cases unprocessed : MobileRefund.getUnprocessedReturnItemIdsFromOrder s.order with
      | none => exact ⟨rfl,fun _ never => by cases never⟩
      | some ids =>
        refine ⟨rfl,?_⟩
        rintro result ⟨⟩
        exact ⟨waiting.1,ids,rfl,rfl⟩
    · simp only [serve,if_true,if_neg waiting,Prog.pure_bind]
      exact ⟨rfl,fun _ never => by cases never⟩

theorem mobile_reach_meets : Meets allowed (fun out t => ∀ r rest, out = .ok (some r,rest) → MobileReached refund r t)
    (Task.reach (.refundFromMobile paymentInterface refund)) s := by
  intro answers _
  cases answers with
  | false => exact fun _ _ never => by cases never
  | true =>
    by_cases found : s.payment.transactions.any (·.interactionId = some refund.id) = true
    · simp only [serve,if_true,if_pos found,Prog.pure_bind]
      refine Prog.wp_bind.mpr (Prog.wp_mono (record_mobile_meets found) ?_)
      intro out t kept
      cases out with
      | error e => exact fun _ _ never => by cases never
      | ok payment =>
        obtain ⟨rfl,same,found,recorded⟩ := kept payment rfl
        refine Prog.wp_bind.mpr (Prog.wp_mono (find_return_meets t.payment.id) ?_)
        intro out u both
        obtain ⟨rfl,taken⟩ := both
        cases out with
        | error e => exact fun _ _ never => by cases never
        | ok result =>
          cases result with
          | none => exact fun _ _ never => by cases never
          | some result =>
            rintro r rest ⟨⟩
            obtain ⟨attached,ids,unprocessed,rfl⟩ := taken result rfl
            exact ⟨found,recorded,attached,ids,unprocessed,rfl⟩
    · simp only [serve,if_true,if_neg found,Prog.pure_bind]
      exact fun _ _ never => by cases never

def nextReturn (order : Order) : Option (List String) :=
  if hasUnprocessedReturn order then MobileRefund.getUnprocessedReturnItemIdsFromOrder order else none

def otherReturn (ids : List String) (order : Order) : Option (List String) :=
  nextReturn (updateReturnItems order fun item => if item.id ∈ ids then {item with paymentState := .initial} else item)

theorem unprocessed_ids {returnInfo : List (List ReturnItem)} (taken : MobileRefund.unprocessedReturnItemIds returnInfo = some ids) :
    ids = [] ∨ ∃ item items, item::items ∈ returnInfo ∧ ids = (item::items).map (·.id) ∧ item.transactionId.getD "" = "" := by
  fun_induction MobileRefund.unprocessedReturnItemIds returnInfo with
  | case1 => exact .inl (Option.some.inj taken).symm
  | case2 => cases taken
  | case3 item items rest waiting =>
    exact .inr ⟨item,items,List.mem_cons_self,(Option.some.inj taken).symm,waiting.2⟩
  | case4 item items rest processed ih =>
    obtain empty | ⟨item,items,member,same⟩ := ih taken
    · exact .inl empty
    · exact .inr ⟨item,items,List.mem_cons_of_mem _ member,same⟩

theorem unprocessed_same {f g : ReturnItem → ReturnItem} (id : ∀ item, (f item).id = (g item).id)
    (waiting : ∀ item, (f item).paymentState = .refunded ∧ (f item).transactionId.getD "" = "" ↔
      (g item).paymentState = .refunded ∧ (g item).transactionId.getD "" = "") (returnInfo : List (List ReturnItem)) :
    MobileRefund.unprocessedReturnItemIds (returnInfo.map (·.map f)) =
      MobileRefund.unprocessedReturnItemIds (returnInfo.map (·.map g)) := by
  induction returnInfo with
  | nil => rfl
  | cons entry rest ih =>
    cases entry with
    | nil => rfl
    | cons item items =>
      simp only [List.map_cons,MobileRefund.unprocessedReturnItemIds,ih,waiting item,id,List.map_map,Function.comp_def]

theorem next_return_same {f g : ReturnItem → ReturnItem} (id : ∀ item, (f item).id = (g item).id)
    (unset : ∀ item, (f item).paymentState = .refunded ∧ (f item).transactionId = none ↔
      (g item).paymentState = .refunded ∧ (g item).transactionId = none)
    (waiting : ∀ item, (f item).paymentState = .refunded ∧ (f item).transactionId.getD "" = "" ↔
      (g item).paymentState = .refunded ∧ (g item).transactionId.getD "" = "") (order : Order) :
    nextReturn (updateReturnItems order f) = nextReturn (updateReturnItems order g) := by
  have queried : hasUnprocessedReturn (updateReturnItems order f) = hasUnprocessedReturn (updateReturnItems order g) := by
    simp only [hasUnprocessedReturn,return_items_updated,List.any_map,Function.comp_def,unset]
  have read : MobileRefund.getUnprocessedReturnItemIdsFromOrder (updateReturnItems order f) =
      MobileRefund.getUnprocessedReturnItemIdsFromOrder (updateReturnItems order g) := by
    simp only [MobileRefund.getUnprocessedReturnItemIdsFromOrder,updateReturnItems,← List.map_reverse]
    exact unprocessed_same id waiting order.returnInfo.reverse
  rw [nextReturn,nextReturn,queried,read]

theorem next_return_recorded (reached : MobileReached refund r s) (named : r.transactionId s ≠ "") :
    nextReturn (r.order s) = otherReturn r.returnLineItemReturnIds s.order := by
  obtain ⟨ids,_,mobile⟩ := reached.taken
  have kept : r.shouldTransitionState = false ∧ r.refundedLineItemRefunds = [] := by rw [mobile]; exact ⟨rfl,rfl⟩
  refine next_return_same ?_ ?_ ?_ s.order <;>
  · intro item
    rw [item_written]
    by_cases listed : item.id ∈ r.returnLineItemReturnIds <;>
      simp [listed,Recording.written,kept,Dict.get,named]

theorem mobile_ready (reached : MobileReached refund r s) : Ready r s := by
  obtain ⟨ids,unprocessed,rfl⟩ := reached.taken
  refine ⟨⟨rfl,rfl⟩,.inl rfl,?_⟩
  intro returnId listed
  rcases unprocessed_ids unprocessed with rfl | ⟨item,items,member,rfl,_⟩
  · cases listed
  · obtain ⟨returned,among,rfl⟩ := List.mem_map.mp listed
    simp only [returnKeys,List.map_map]
    exact List.mem_map_of_mem (List.mem_flatten.mpr ⟨_,List.mem_reverse.mp member,among⟩)

theorem mobile_again (reached : MobileReached refund r s) (order : Order) (same : order.payments = s.order.payments) :
    Prog.exec (serve true) (Task.reach (.refundFromMobile paymentInterface refund)) {s with order} =
      if hasUnprocessedReturn order then
        match MobileRefund.getUnprocessedReturnItemIdsFromOrder order with
        | none => (.error .indexError,{s with order})
        | some ids => (.ok (some (mobileRecording refund s.payment ⟨order.id,order.version,ids⟩),.pure ()),{s with order})
      else (.ok (none,.pure ()),{s with order}) := by
  have attached : order.payments.any (·.id = s.payment.id) = true := same ▸ reached.attached
  have recorded : MobileRefund.recordMobileRefund paymentInterface refund s.payment = .pure s.payment := if_pos reached.recorded
  simp only [Task.reach,MobileRefund.findOrderWithUnprocessedReturnForPayment,getPaymentByTransactionInteractionId,
    Prog.expect,Prog.perform,Prog.monad_bind,Prog.call_bind,Prog.exec_call,serve,if_true,reached.found,Prog.pure_bind,recorded,
    attached,true_and]
  split_ifs
  · dsimp only
    cases MobileRefund.getUnprocessedReturnItemIdsFromOrder order <;> rfl
  · rfl

theorem mobile_retried (reached : MobileReached refund r s) (order : Order) (same : order.payments = s.order.payments) :
    recordOf (Prog.exec (serve true) (Task.program (.refundFromMobile paymentInterface refund)) {s with order}).2 =
      match nextReturn order with
      | none => (states order,links s.payment)
      | some ids =>
        let next := mobileRecording refund s.payment ⟨order.id,order.version,ids⟩
        (states (next.order {s with order}),links (linkPayment (next.transactionId s) next.text s.payment)) := by
  rw [task_reaches,Prog.exec_bind,mobile_again reached order same,nextReturn]
  split_ifs with waiting
  · cases unprocessed : MobileRefund.getUnprocessedReturnItemIdsFromOrder order with
    | none => rfl
    | some ids =>
      have again : MobileReached refund (mobileRecording refund s.payment ⟨order.id,order.version,ids⟩) {s with order} :=
        ⟨reached.found,reached.recorded,same ▸ reached.attached,ids,unprocessed,rfl⟩
      simp only [finish,Prog.exec_bind,record_answered (mobile_ready again)]
      rfl
  · rfl

theorem taken_differs (reached : MobileReached refund r s) (some : r.returnLineItemReturnIds ≠ []) (named : r.transactionId s ≠ "") :
    states (r.order s) ≠ states s.order := by
  obtain ⟨ids,unprocessed,mobile⟩ := reached.taken
  have listed : r.returnLineItemReturnIds = ids := by rw [mobile]; rfl
  rcases unprocessed_ids unprocessed with rfl | ⟨item,items,member,taken,unnamed⟩
  · exact absurd listed some
  · intro same
    have present : item ∈ Rollout.getOrderReturnInfoReturnItems s.order :=
      List.mem_flatten.mpr ⟨_,List.mem_reverse.mp member,List.mem_cons_self⟩
    rw [states,states,order_items,List.map_map,List.map_inj_left] at same
    have here : item.id ∈ r.returnLineItemReturnIds := by rw [listed,taken]; exact List.mem_cons_self
    have plain : r.refundedLineItemRefunds = [] := by rw [mobile]; rfl
    have written := congrArg (·.2.2) (same item present)
    simp only [Function.comp_apply,here,if_true,Recording.written,plain] at written
    rw [← written] at unnamed
    exact named unnamed

-- When the task run again leaves what it would have left without the failure.
def MobileConverges (r : Recording) (s : Ledger) : Prop :=
  match otherReturn r.returnLineItemReturnIds s.order with
  | none => Linked (r.transactionId s) r.text s.payment
  | some others => others = [] ∧ r.text = ""

instance : Decidable (MobileConverges r s) := by
  unfold MobileConverges
  split <;> infer_instance

theorem mobile_converges_iff (reached : MobileReached refund r s) (named : r.transactionId s ≠ "") :
    recordOf (Prog.exec (serve true) (Task.program (.refundFromMobile paymentInterface refund)) {s with order := r.order s}).2 =
      (states (r.order s),links (linkPayment (r.transactionId s) r.text s.payment)) ↔ MobileConverges r s := by
  rw [mobile_retried reached (r.order s) rfl,next_return_recorded reached named,MobileConverges]
  cases other : otherReturn r.returnLineItemReturnIds s.order with
  | none => simpa using linked_iff
  | some others =>
    have mobile : r.interactionId = some refund.id := by
      obtain ⟨ids,_,mobile⟩ := reached.taken
      rw [mobile]
      rfl
    have transaction : (mobileRecording refund s.payment ⟨(r.order s).id,(r.order s).version,others⟩).transactionId s =
        r.transactionId s := congrArg (refundTransactionId s.payment) mobile.symm
    have present := refund_transaction_present named
    simp only [transaction,Prod.mk.injEq]
    by_cases empty : others = []
    · subst empty
      have unchanged : states ((mobileRecording refund s.payment ⟨(r.order s).id,(r.order s).version,[]⟩).order
          {s with order := r.order s}) = states (r.order s) := by
        rw [states,states,order_items]
        simp [mobileRecording]
      have nothing : (mobileRecording refund s.payment ⟨(r.order s).id,(r.order s).version,[]⟩).text = "" := rfl
      simp only [unchanged,true_and,texts_agree_iff named present,nothing]
      exact eq_comm
    · refine iff_of_false ?_ fun both => empty both.1
      intro both
      have waiting := next_return_recorded reached named
      rw [other,nextReturn] at waiting
      obtain ⟨_,unprocessed⟩ := Option.ite_none_right_eq_some.mp waiting
      have again : MobileReached refund (mobileRecording refund s.payment ⟨(r.order s).id,(r.order s).version,others⟩)
          {s with order := r.order s} := ⟨reached.found,reached.recorded,reached.attached,others,unprocessed,rfl⟩
      exact taken_differs again empty (fun unnamed => named (transaction.symm.trans unnamed)) both.1

end Mobile

end RefundRecording
