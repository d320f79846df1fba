import CommerceCoordinator.OrderReturned

open Commercetools CallTree OrderReturn PaymentTransactions CommercetoolsClient RefundPipeline OrderReturned

-- What one delivery of an OrderReturned message does to the order, the payment
-- and the charge, step by step.
namespace RefundDelivery

def covered (lineItemId : String) (s : Ledger) : Nat :=
  s.psp.refunds.countP fun refund => lineItemId ∈ refund.covers

def plain (payment : Payment) : Payment := {payment with version := 0, transactions := []}

def saleOf (s : Ledger) : Order × List (String × String) × Payment :=
  ({s.order with version := 0, returnInfo := []},returnKeys s.order,plain s.payment)

section Frame
variable {s t : Ledger}

theorem payment_action_frame {payment updated : Payment} {action : PaymentUpdateAction}
    (applied : applyPaymentAction payment action = some updated) : plain updated = plain payment := by
  cases action with
  | addTransaction transaction => cases applied; rfl
  | setTransactionCustomType transactionId returnItemId =>
    obtain ⟨_,equal⟩ := Option.ite_none_right_eq_some.mp applied
    cases equal
    rfl

theorem payment_actions_frame {payment updated : Payment} {actions : List PaymentUpdateAction}
    (applied : actions.foldlM applyPaymentAction payment = some updated) : plain updated = plain payment := by
  induction actions generalizing payment with
  | nil => cases applied; rfl
  | cons action rest ih =>
    obtain ⟨middle,first,later⟩ := Option.bind_eq_some_iff.mp (List.foldlM_cons.symm.trans applied)
    exact (ih later).trans (payment_action_frame first)

theorem accepted_applied {stored order : Order}
    (accepted : Versioned.compareAndSet version stored (applyOrderActions actions) = some order) :
    ∃ updated, actions.foldlM applyOrderAction stored = some updated ∧ order = {updated with version := stored.version+1} := by
  obtain ⟨_,changed⟩ := Versioned.compareAndSet_some.mp accepted
  obtain ⟨updated,applied,equal⟩ := Option.bind_eq_some_iff.mp changed
  exact ⟨updated,applied,(Option.some.inj equal).symm⟩

theorem update_order_sale (accepted : Versioned.compareAndSet version s.order (applyOrderActions actions) = some order) :
    saleOf {s with order} = saleOf s := by
  obtain ⟨updated,applied,rfl⟩ := accepted_applied accepted
  obtain ⟨frame,keys⟩ := apply_actions_frame applied
  have rest := congrArg (fun o : Order => {o with version := 0}) frame
  exact Prod.ext rest (Prod.ext keys rfl)

theorem update_payment_sale
    (accepted : Versioned.compareAndSet version s.payment (applyPaymentActions actions) = some payment) :
    saleOf {s with payment} = saleOf s := by
  obtain ⟨_,changed⟩ := Versioned.compareAndSet_some.mp accepted
  obtain ⟨updated,applied,equal⟩ := Option.bind_eq_some_iff.mp changed
  cases equal
  have frame := payment_actions_frame applied
  exact Prod.ext rfl (Prod.ext rfl frame)

theorem serve_sale (answers : Bool) (r : Request) (s : Ledger) : saleOf (serve answers r s).2 = saleOf s := by
  cases r with
  | updateOrderById id version actions =>
    rcases update_order_cases answers id version actions s with ⟨code,same⟩ | ⟨order,accepted,same⟩
    · rw [same]
    · rw [same]; exact update_order_sale accepted
  | updatePaymentById id version actions =>
    rcases update_payment_cases answers id version actions s with ⟨code,same⟩ | ⟨payment,accepted,same⟩
    · rw [same]
    · rw [same]; exact update_payment_sale accepted
  | _ => rfl

-- What the code reads off the payments of an order, apart from transactions.
def paymentInfo (order : Order) : Option (Option String) × Option String :=
  ((getEdxSuccessfulPaymentInfo order).1.map (·.interfaceId),(getEdxSuccessfulPaymentInfo order).2)

def succeeded (payment : Payment) : Bool :=
  payment.interfaceCode = some paymentStatusInterfaceCodeSucceeded ∧ payment.interfaceId.getD "" ≠ ""

theorem payment_info_found (order : Order) : paymentInfo order =
    ((order.payments.find? succeeded).map (·.interfaceId),(order.payments.find? succeeded).bind (·.paymentInterface)) := by
  unfold paymentInfo getEdxSuccessfulPaymentInfo
  have same : (fun payment : Payment => decide (payment.interfaceCode = some paymentStatusInterfaceCodeSucceeded ∧
      payment.interfaceId.getD "" ≠ "")) = succeeded := rfl
  rw [same]
  cases order.payments.find? succeeded <;> rfl

theorem payment_info_plain (order : Order) :
    paymentInfo {order with payments := order.payments.map plain} = paymentInfo order := by
  have same : succeeded ∘ plain = succeeded := rfl
  simp only [payment_info_found,List.find?_map,same,Option.map_map,Option.bind_map]
  rfl

theorem payment_info_sale (same : saleOf s = saleOf t) : paymentInfo (expanded s) = paymentInfo (expanded t) := by
  have payments : s.order.payments = t.order.payments := congrArg (·.1.payments) same
  have payment : plain s.payment = plain t.payment := congrArg (·.2.2) same
  have id : s.payment.id = t.payment.id := congrArg (·.2.2.id) same
  have listed : (expanded s).payments.map plain = (expanded t).payments.map plain := by
    simp only [expanded,payments,id,List.map_map]
    refine List.map_congr_left fun p _ => ?_
    simp only [Function.comp_apply]
    split
    · exact payment
    · rfl
  rw [← payment_info_plain (expanded s),payment_info_found,listed,← payment_info_plain (expanded t),payment_info_found]

end Frame

section Calls
variable {allowed : Bool → Ledger → Request → Prop} {s : Ledger}

abbrev Meets (allowed : Bool → Ledger → Request → Prop) (post : Except Exn α → Ledger → Prop) (p : Call α) (s : Ledger) :
    Prop := Prog.wp serve allowed post p s

theorem get_order_meets {post : Except Exn Order → Ledger → Prop}
    (found : orderId = s.order.id → post (.ok (expanded s)) s)
    (failed : ∀ code, post (.error (.commercetoolsError code)) s) : Meets allowed post (getOrderById orderId) s := by
  intro answers _
  cases answers with
  | false => exact failed _
  | true =>
    by_cases same : orderId = s.order.id
    · simp only [serve,same,if_true]
      exact found same
    · simp only [serve,same,if_true,if_false]
      exact failed _

theorem get_customer_meets {post : Except Exn Unit → Ledger → Prop} (found : post (.ok ()) s)
    (failed : ∀ code, post (.error (.commercetoolsError code)) s) : Meets allowed post (getCustomerById customerId) s := by
  intro answers _
  cases answers with
  | false => exact failed _
  | true => exact found

theorem get_payment_meets {post : Except Exn Payment → Ledger → Prop}
    (found : s.payment.key = some (normalizedPaymentKey key) → post (.ok s.payment) s)
    (failed : ∀ code, post (.error (.commercetoolsError code)) s) : Meets allowed post (getPaymentByKey caller key) s := by
  intro answers _
  cases answers with
  | false => exact failed _
  | true =>
    by_cases same : s.payment.key = some (normalizedPaymentKey key)
    · simp only [serve,same,if_true]
      exact found same
    · simp only [serve,same,if_true,if_false]
      exact failed _

theorem get_payment_through {post : Except Exn Payment → Ledger → Prop}
    (forced : ∀ answers, allowed answers s (.getPaymentByKey caller key) → answers = true)
    (same : s.payment.key = some (normalizedPaymentKey key)) (found : post (.ok s.payment) s) :
    Meets allowed post (getPaymentByKey caller key) s := by
  intro answers ok
  cases forced answers ok
  simp only [serve,same,if_true]
  exact found

theorem update_order_meets {post : Except Exn Order → Ledger → Prop}
    (done : ∀ order, Versioned.compareAndSet version s.order (applyOrderActions actions) = some order →
      post (.ok order) {s with order})
    (failed : ∀ code, post (.error (.commercetoolsError code)) s) :
    Meets allowed post (updateOrderById orderId version actions) s := by
  intro answers _
  rcases update_order_cases answers orderId version actions s with ⟨code,same⟩ | ⟨order,accepted,same⟩
  · rw [same]; exact failed code
  · rw [same]; exact done order accepted

theorem update_payment_meets {post : Except Exn Payment → Ledger → Prop}
    (done : ∀ payment, Versioned.compareAndSet version s.payment (applyPaymentActions actions) = some payment →
      post (.ok payment) {s with payment})
    (failed : ∀ code, post (.error (.commercetoolsError code)) s) :
    Meets allowed post (updatePaymentById paymentId version actions) s := by
  intro answers _
  rcases update_payment_cases answers paymentId version actions s with ⟨code,same⟩ | ⟨payment,accepted,same⟩
  · rw [same]; exact failed code
  · rw [same]; exact done payment accepted

theorem update_order_through {post : Except Exn Order → Ledger → Prop}
    (forced : ∀ answers, allowed answers s (.updateOrderById s.order.id s.order.version actions) → answers = true)
    (applied : actions.foldlM applyOrderAction s.order = some updated)
    (done : post (.ok {updated with version := s.order.version+1}) {s with order := {updated with version := s.order.version+1}}) :
    Meets allowed post (updateOrderById s.order.id s.order.version actions) s := by
  intro answers ok
  cases forced answers ok
  have accepted : Versioned.compareAndSet s.order.version s.order (applyOrderActions actions) =
      some {updated with version := s.order.version+1} :=
    Versioned.compareAndSet_some.mpr ⟨rfl,by rw [applyOrderActions,applied]; rfl⟩
  simp only [serve,accepted,and_self,if_true]
  exact done

theorem add_transaction_through {post : Except Exn Payment → Ledger → Prop}
    (forced : ∀ answers, allowed answers s (.updatePaymentById s.payment.id s.payment.version [.addTransaction draft]) →
      answers = true)
    (done : post (.ok (addTransaction s.payment draft)) {s with payment := addTransaction s.payment draft}) :
    Meets allowed post (updatePaymentById s.payment.id s.payment.version [.addTransaction draft]) s := by
  intro answers ok
  cases forced answers ok
  have accepted : Versioned.compareAndSet s.payment.version s.payment (applyPaymentActions [.addTransaction draft]) =
      some (addTransaction s.payment draft) :=
    Versioned.compareAndSet_some.mpr ⟨rfl,add_transaction_applied s.payment draft⟩
  simp only [serve,accepted,and_self,if_true]
  exact done

theorem except_meets {post : Except Exn α → Ledger → Prop} {p : Call α} {handler : ErrorCode → Call α}
    (first : Meets allowed (fun
      | .ok a,t => post (.ok a) t
      | .error (.commercetoolsError code),t => Meets allowed post (handler code) t
      | .error e,t => post (.error e) t) p s) : Meets allowed post (exceptCommercetoolsError p handler) s := by
  apply Prog.wp_handle.mpr
  apply Prog.wp_mono first
  intro out t holds
  cases out with
  | ok a => exact holds
  | error e => cases e <;> exact holds

end Calls

section Delivery

def refundable (order : Order) : Bool :=
  isEdxLmsOrder order ∧ getEdxPspPaymentId order ≠ none ∧ order.mobileOrder = false

def Uncovered (returnItems : List ReturnedItem) (s : Ledger) : Prop := ∀ item ∈ returnItems, covered item.lineItemId s = 0
def AllRefunded (returnItems : List ReturnedItem) (s : Ledger) : Prop :=
  ∀ item ∈ returnItems, Refunded s.order item.lineItemId

instance : Decidable (Uncovered returnItems s) := inferInstanceAs (Decidable (∀ _ ∈ _, _))
instance : Decidable (AllRefunded returnItems s) := inferInstanceAs (Decidable (∀ _ ∈ _, _))

-- Between two deliveries: no item is refunded twice, and a refund that was
-- executed shows in the returns of the order.
structure Settled (returnItems : List ReturnedItem) (s : Ledger) : Prop where
  listed : ∀ item ∈ returnItems, HasReturn s.order item.id item.lineItemId
  planned : 0 ≤ s.payment.amountPlanned.centAmount
  once : ∀ item ∈ returnItems, covered item.lineItemId s ≤ 1
  recorded : Uncovered returnItems s ∨ refundable (expanded s) = true ∧ AllRefunded returnItems s

-- What a run hands on of its copies, and what is still true of them.
structure Copied (f : Fetched) (s : Ledger) : Prop where
  order : f.orderData.id = s.order.id ∧ f.orderData.version = s.order.version
  psp : f.psp = (paymentInfo (expanded s)).2
  key : f.psp ≠ none → s.payment.key = some (normalizedPaymentKey (f.paymentIntentId.getD ""))

def Current (f : Fetched) (s : Ledger) : Prop :=
  f.psp ≠ none → ∃ copy, f.paymentData = some copy ∧ copy.id = s.payment.id ∧ copy.version = s.payment.version

def Idle (returnItems : List ReturnedItem) (k : Kwargs) (s : Ledger) : Prop :=
  Settled returnItems s ∧ (k.pspRefundError = true → Uncovered returnItems s)

structure Executed (returnItems : List ReturnedItem) (k : Kwargs) (f : Fetched) (s : Ledger) : Prop where
  listed : ∀ item ∈ returnItems, HasReturn s.order item.id item.lineItemId
  planned : 0 ≤ s.payment.amountPlanned.centAmount
  once : ∀ item ∈ returnItems, covered item.lineItemId s ≤ 1
  refundable : refundable (expanded s) = true
  accepted : k.pspRefundError = false
  response : ∃ refund, k.refundResponse = some (.refund refund) ∧
    (f.psp = some edxStripePaymentInterfaceName ∧ refund.paymentIntent ≠ none ∨
      f.psp = some edxPaypalPaymentInterfaceName)

def Outcome (returnItems : List ReturnedItem) (k : Kwargs) (f : Fetched) (s : Ledger) : Prop :=
  Idle returnItems k s ∨ Executed returnItems k f s

structure Requested (returnItems : List ReturnedItem) (k : Kwargs) : Prop where
  lines : k.returnLineItems = returnLineItems returnItems
  fetched : k.fetched = none
  response : k.refundResponse = none
  accepted : k.pspRefundError = false

structure Within (returnItems : List ReturnedItem) (k : Kwargs) (f : Fetched) (s : Ledger) : Prop where
  fetched : k.fetched = some f
  system : k.activeOrderManagementSystem = some commercetoolsOrderManagementSystem
  lines : k.returnLineItems = returnLineItems returnItems
  copied : Copied f s

structure Unasked (returnItems : List ReturnedItem) (k : Kwargs) (f : Fetched) (s : Ledger) : Prop where
  response : k.refundResponse = none
  accepted : k.pspRefundError = false
  refundable : refundable (expanded s) = true
  settled : Settled returnItems s
  amount : AllRefunded returnItems s → f.amountInDollars = 0

-- Where a run of the pipeline can stand, with the steps it has left.
inductive Placed (returnItems : List ReturnedItem) : List PipelineStep → Kwargs → Ledger → Prop where
  | requested : Requested returnItems k → refundable (expanded s) = true → Settled returnItems s →
      Placed returnItems orderRefundRequested k s
  | determined : Requested returnItems k → refundable (expanded s) = true → Settled returnItems s →
      Placed returnItems (orderRefundRequested.drop 1) k s
  | unfetched : k.fetched = none → Settled returnItems s → Placed returnItems (orderRefundRequested.drop 2) k s
  | fetched : Within returnItems k f s → Current f s → Unasked returnItems k f s →
      Placed returnItems (orderRefundRequested.drop 2) k s
  | stripe : Within returnItems k f s → Current f s → Outcome returnItems k f s →
      (f.psp = some edxPaypalPaymentInterfaceName → Unasked returnItems k f s) →
      Placed returnItems (orderRefundRequested.drop 3) k s
  | paypal : Within returnItems k f s → Current f s → Outcome returnItems k f s →
      Placed returnItems (orderRefundRequested.drop 4) k s
  | created : Within returnItems k f s → Outcome returnItems k f s → Placed returnItems (orderRefundRequested.drop 5) k s
  | finished : Settled returnItems s → Placed returnItems [] k s

variable {returnItems : List ReturnedItem} {s t : Ledger} {k : Kwargs} {f : Fetched}

theorem psp_payment_id_sale (same : saleOf s = saleOf t) :
    getEdxPspPaymentId (expanded s) = getEdxPspPaymentId (expanded t) := by
  have read : ∀ order, getEdxPspPaymentId order = (paymentInfo order).1.join := by
    intro order
    unfold getEdxPspPaymentId paymentInfo
    cases (getEdxSuccessfulPaymentInfo order).1 <;> rfl
  rw [read,read,payment_info_sale same]

theorem refundable_sale (same : saleOf s = saleOf t) : refundable (expanded s) = refundable (expanded t) := by
  have lineItems : s.order.lineItems = t.order.lineItems := congrArg (·.1.lineItems) same
  have mobile : s.order.mobileOrder = t.order.mobileOrder := congrArg (·.1.mobileOrder) same
  have psp := psp_payment_id_sale same
  have lms : isEdxLmsOrder (expanded s) = isEdxLmsOrder (expanded t) :=
    congrArg (fun items : List LineItem => decide (1 ≤ items.length)) lineItems
  have form : (expanded s).mobileOrder = (expanded t).mobileOrder := mobile
  simp only [refundable,psp,lms,form]

theorem listed_sale (same : saleOf t = saleOf s) (listed : ∀ item ∈ returnItems, HasReturn s.order item.id item.lineItemId) :
    ∀ item ∈ returnItems, HasReturn t.order item.id item.lineItemId := by
  intro item member
  have keys : returnKeys t.order = returnKeys s.order := congrArg (·.2.1) same
  rw [has_return_key,keys]
  exact has_return_key.mp (listed item member)

theorem planned_sale (same : saleOf t = saleOf s) (planned : 0 ≤ s.payment.amountPlanned.centAmount) :
    0 ≤ t.payment.amountPlanned.centAmount := by
  have amount : t.payment.amountPlanned = s.payment.amountPlanned := congrArg (·.2.2.amountPlanned) same
  rw [amount]
  exact planned

theorem copied_sale (same : saleOf t = saleOf s) (order : t.order = s.order) (copied : Copied f s) : Copied f t := by
  have key : t.payment.key = s.payment.key := congrArg (·.2.2.key) same
  obtain ⟨ids,psp,payable⟩ := copied
  exact ⟨order ▸ ids,psp.trans (congrArg Prod.snd (payment_info_sale same.symm)),key ▸ payable⟩

theorem Settled.payment (settled : Settled returnItems s) (same : saleOf t = saleOf s) (order : t.order = s.order)
    (psp : t.psp = s.psp) : Settled returnItems t := by
  obtain ⟨listed,planned,once,recorded⟩ := settled
  refine ⟨listed_sale same listed,planned_sale same planned,?_,?_⟩
  · simpa only [covered,psp] using once
  · rw [refundable_sale same]
    simpa only [Uncovered,AllRefunded,covered,psp,order] using recorded

theorem Outcome.payment (outcome : Outcome returnItems k f s) (same : saleOf t = saleOf s) (order : t.order = s.order)
    (psp : t.psp = s.psp) : Outcome returnItems k f t := by
  rcases outcome with ⟨settled,error⟩ | ⟨listed,planned,once,refundable,accepted,response⟩
  · refine .inl ⟨settled.payment same order psp,?_⟩
    simpa only [Uncovered,covered,psp] using error
  · refine .inr ⟨listed_sale same listed,planned_sale same planned,?_,?_,accepted,response⟩
    · simpa only [covered,psp] using once
    · rw [refundable_sale same]; exact refundable

theorem Outcome.settled (outcome : Outcome returnItems k f s) (recorded : Uncovered returnItems s ∨ AllRefunded returnItems s) :
    Idle returnItems k s := by
  rcases outcome with idle | executed
  · exact idle
  · refine ⟨⟨executed.listed,executed.planned,executed.once,?_⟩,?_⟩
    · exact recorded.imp_right fun all => ⟨executed.refundable,all⟩
    · intro error
      rw [executed.accepted] at error
      cases error

theorem Unasked.idle (unasked : Unasked returnItems k f s) : Idle returnItems k s := by
  refine ⟨unasked.settled,?_⟩
  intro error
  rw [unasked.accepted] at error
  cases error

theorem Unasked.uncovered (unasked : Unasked returnItems k f s) (asked : f.amountInDollars ≠ 0) : Uncovered returnItems s := by
  rcases unasked.settled.recorded with uncovered | ⟨_,all⟩
  · exact uncovered
  · exact absurd (unasked.amount all) asked

theorem execute_cases (psp : Psp) (chargeId : String) (cents : Int) (refund : Refund) (covers : List String) :
    (∃ e, e.message ≠ "" ∧ executeRefund psp chargeId cents refund covers = (.error e,psp)) ∨
    executeRefund psp chargeId cents refund covers =
      (.ok refund,{psp with refunds := psp.refunds++[⟨cents,refund,covers⟩]}) := by
  unfold executeRefund
  split
  · exact .inr rfl
  · split
    · exact .inl ⟨_,by decide,rfl⟩
    · exact .inl ⟨_,by decide,rfl⟩

theorem executed_once (uncovered : Uncovered returnItems s) (new : PspRefund) :
    ∀ item ∈ returnItems, covered item.lineItemId {s with psp := {s.psp with refunds := s.psp.refunds++[new]}} ≤ 1 := by
  intro item member
  have none := uncovered item member
  unfold covered at none ⊢
  rw [List.countP_append,none,List.countP_singleton]
  split <;> simp

-- Which failures a delivery does not survive: of the update that marks the
-- returns, of the lookup before it, and with PayPal of the transaction's creation.
def marks (s : Ledger) : Request → Bool
  | .getPaymentByKey .updateReturnPaymentState _ => true
  | .updateOrderById _ _ _ => true
  | .updatePaymentById _ _ [.addTransaction _] => (paymentInfo (expanded s)).2 = some edxPaypalPaymentInterfaceName
  | _ => false

def Harmless (returnItems : List ReturnedItem) (answers : Bool) (s : Ledger) (r : Request) : Prop :=
  answers = false → marks s r = true → Uncovered returnItems s ∨ AllRefunded returnItems s

end Delivery

end RefundDelivery
