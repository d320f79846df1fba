import CommerceCoordinator.MobileRefund

open Commercetools CallTree OrderReturn PaymentTransactions CommercetoolsClient RefundPipeline OrderReturned RefundDelivery

-- Both tasks of a mobile refund, call by call: what each leaves to the other, and
-- that one of them links the return.
namespace MobileRefund

-- The two tasks on one ledger. `asked` remembers whether the refund task has
-- looked for an unprocessed return; nothing reads it.
structure Observed where
  ledger : Ledger
  asked : Bool
  deriving DecidableEq

def asksForReturn : Request → Bool
  | .queryOrders _ => true
  | _ => false

def observe (answers : Bool) (r : Request) (s : Observed) : Response r × Observed :=
  ((serve answers r s.ledger).1,⟨(serve answers r s.ledger).2,asksForReturn r || s.asked⟩)

def mobileOrders : System Request Response Exn Observed Bool Empty where
  serve := observe
  environment := fun change _ => change.elim
  restarts := fun _ => false

inductive Task where
  | refundFromMobile | fulfillOrderReturned
  deriving DecidableEq

def Task.program (purchase : Purchase) : Task → Call Unit
  | .refundFromMobile => refundFromMobileTask purchase.paymentInterface purchase.refund
  | .fulfillOrderReturned => fulfillOrderReturnedSignalTask purchase.sold purchase.ledger.order.id purchase.returnItems

def setsTransaction : OrderUpdateAction → Bool
  | .setReturnItemCustomType _ _ _ => true
  | .setReturnPaymentState _ _ => false

-- A return is marked without a transaction only as long as the refund task is
-- still going to look for it.
def marksInTime : Task → Observed → Request → Bool
  | .fulfillOrderReturned,s,.updateOrderById _ _ actions => actions.any setsTransaction || !s.asked
  | _,_,_ => true

structure FulfillStep (purchase : Purchase) (s s' : Observed) : Prop where
  payment : s'.ledger.payment = s.ledger.payment
  asked : s'.asked = s.asked
  order : s'.ledger.order = s.ledger.order ∨ s.ledger.order = purchase.ledger.order ∧
    (Marked purchase s'.ledger.order ∧ s.asked = false ∨ Linked purchase s'.ledger.order)

structure RefundStep (purchase : Purchase) (s s' : Observed) : Prop where
  payment : s'.ledger.payment = s.ledger.payment ∨ Recorded purchase s'.ledger.payment
  asked : s.asked = true → s'.asked = true
  order : s'.ledger.order = s.ledger.order ∨ Marked purchase s.ledger.order ∧ Linked purchase s'.ledger.order

section Steps
variable {purchase : Purchase} {a b c : Observed}

theorem FulfillStep.refl (s : Observed) : FulfillStep purchase s s := ⟨rfl,rfl,.inl rfl⟩

theorem FulfillStep.trans (ab : FulfillStep purchase a b) (bc : FulfillStep purchase b c) : FulfillStep purchase a c := by
  refine ⟨bc.payment.trans ab.payment,bc.asked.trans ab.asked,?_⟩
  rcases bc.order with same | ⟨original,moved⟩
  · rw [same]; exact ab.order
  · rw [ab.asked] at moved
    rcases ab.order with same | ⟨original',_⟩
    · exact .inr ⟨same ▸ original,moved⟩
    · exact .inr ⟨original',moved⟩

theorem RefundStep.refl (s : Observed) : RefundStep purchase s s := ⟨.inl rfl,fun asked => asked,.inl rfl⟩

theorem RefundStep.trans (ab : RefundStep purchase a b) (bc : RefundStep purchase b c) : RefundStep purchase a c := by
  refine ⟨?_,fun asked => bc.asked (ab.asked asked),?_⟩
  · rcases bc.payment with same | recorded
    · rw [same]; exact ab.payment
    · exact .inr recorded
  · rcases ab.order with same | ⟨marked,linked⟩
    · rw [← same]; exact bc.order
    · rcases bc.order with same | ⟨_,linked'⟩
      · rw [same]; exact .inr ⟨marked,linked⟩
      · exact .inr ⟨marked,linked'⟩

end Steps

def Task.guarantee (purchase : Purchase) : Task → Observed → Observed → Prop
  | .refundFromMobile => RefundStep purchase
  | .fulfillOrderReturned => FulfillStep purchase

def Task.rely (purchase : Purchase) : Task → Observed → Observed → Prop
  | .refundFromMobile => FulfillStep purchase
  | .fulfillOrderReturned => RefundStep purchase

def Task.outcome (purchase : Purchase) : Task → Except Exn Unit → Observed → Prop
  | .refundFromMobile,.ok _,s => s.asked = true ∧ Recorded purchase s.ledger.payment ∧
      (s.ledger.order = purchase.ledger.order ∨ Linked purchase s.ledger.order)
  | .fulfillOrderReturned,.ok _,s => Marked purchase s.ledger.order ∨ Linked purchase s.ledger.order
  | _,.error _,_ => True

abbrev Keeps (purchase : Purchase) (task : Task) (post : Except Exn α → Observed → Prop) (p : Call α) (s : Observed) : Prop :=
  Ensures mobileOrders (fun s r => marksInTime task s r = true) (task.rely purchase) (task.guarantee purchase) post p s

section Fulfill
variable {purchase : Purchase} {s : Observed}

def Untouched (purchase : Purchase) (s : Observed) : Prop :=
  s.ledger.order = purchase.ledger.order ∧
    (s.ledger.payment = purchase.ledger.payment ∨ Recorded purchase s.ledger.payment)

theorem Untouched.later (untouched : Untouched purchase s) (moved : RefundStep purchase s t) : Untouched purchase t := by
  refine ⟨?_,?_⟩
  · rcases moved.order with same | ⟨marked,_⟩
    · exact same.trans untouched.1
    · rw [untouched.1] at marked
      exact absurd marked (original_unmarked purchase)
  · rcases moved.payment with same | recorded
    · rw [same]; exact untouched.2
    · exact .inr recorded

def Copied (purchase : Purchase) : Except Exn Order → Observed → Prop
  | .ok copy,s => ∃ earlier, copy = expanded earlier ∧ earlier.order = purchase.ledger.order ∧
      (earlier.payment = purchase.ledger.payment ∨ Recorded purchase earlier.payment ∧ Recorded purchase s.ledger.payment) ∧
      Untouched purchase s
  | .error _,_ => True

theorem Copied.later (copied : Copied purchase (.ok copy) s) (moved : RefundStep purchase s t) :
    Copied purchase (.ok copy) t := by
  obtain ⟨earlier,rfl,order,payment,untouched⟩ := copied
  refine ⟨earlier,rfl,order,payment.imp_right ?_,untouched.later moved⟩
  intro both
  obtain ⟨recorded,now⟩ := both
  rcases moved.payment with same | later
  · exact ⟨recorded,by rw [same]; exact now⟩
  · exact ⟨recorded,later⟩

theorem get_order_keeps (untouched : Untouched purchase s) :
    Keeps purchase .fulfillOrderReturned (Copied purchase) (getOrderById orderId) s := by
  intro t moved _ answers
  refine ⟨FulfillStep.refl t,?_⟩
  have now := untouched.later moved
  have copied : Copied purchase (.ok (expanded t.ledger)) t :=
    ⟨t.ledger,rfl,now.1,now.2.imp_right fun recorded => ⟨recorded,recorded⟩,now⟩
  cases answers with
  | false => exact fun _ _ => trivial
  | true =>
    simp only [mobileOrders,observe,serve,if_true]
    split
    · exact fun u later => copied.later later
    · exact fun _ _ => trivial

theorem get_customer_keeps (copied : Copied purchase (.ok copy) s) :
    Keeps purchase .fulfillOrderReturned (fun
      | .ok _,t => Copied purchase (.ok copy) t
      | .error _,_ => True) (getCustomerById customerId) s := by
  intro t moved _ answers
  refine ⟨FulfillStep.refl t,?_⟩
  cases answers with
  | false => exact fun _ _ => trivial
  | true => exact fun u later => (copied.later moved).later later

def Updated (purchase : Purchase) : Except Exn Order → Observed → Prop
  | .ok _,s => Marked purchase s.ledger.order ∨ Linked purchase s.ledger.order
  | .error _,_ => True

theorem update_order_keeps (untouched : Untouched purchase s) (change : ReturnItem → ReturnItem)
    (effect : itemAfter actions = change)
    (moves : ∀ t : Observed, RefundStep purchase s t → marksInTime .fulfillOrderReturned t (.updateOrderById orderId version actions) = true →
      ∀ order, Becomes purchase change order → Marked purchase order ∧ t.asked = false ∨ Linked purchase order) :
    Keeps purchase .fulfillOrderReturned (Updated purchase) (updateOrderById orderId version actions) s := by
  intro t moved inTime answers
  have now := untouched.later moved
  rcases update_order_cases answers orderId version actions t.ledger with ⟨code,refused⟩ | ⟨order,accepted,written⟩
  · simp only [mobileOrders,observe,refused]
    exact ⟨FulfillStep.refl t,fun _ _ => trivial⟩
  · obtain ⟨updated,applied,rfl⟩ := accepted_applied accepted
    have becomes : Becomes purchase change {updated with version := t.ledger.order.version+1} := by
      rw [apply_actions_items applied,effect,now.1]
      exact ⟨rfl,rfl,rfl⟩
    have reached := moves t moved inTime _ becomes
    simp only [mobileOrders,observe,written]
    refine ⟨⟨rfl,rfl,.inr ⟨now.1,reached⟩⟩,?_⟩
    intro u later
    have here : Marked purchase {updated with version := t.ledger.order.version+1} ∨
        Linked purchase {updated with version := t.ledger.order.version+1} := reached.imp_left (·.1)
    rcases later.order with same | ⟨_,linked⟩
    · change Marked purchase u.ledger.order ∨ Linked purchase u.ledger.order
      rw [same]
      exact here
    · exact .inr linked

theorem mobile_update_keeps (copied : Copied purchase (.ok copy) s) :
    Keeps purchase .fulfillOrderReturned (Updated purchase)
      (updateReturnPaymentStateForMobileOrder copy (purchase.returnItems.map (·.id))) s := by
  obtain ⟨earlier,rfl,order,payment,untouched⟩ := copied
  have same : earlier.payment.id = purchase.ledger.payment.id := by
    rcases payment with same | ⟨recorded,_⟩
    · rw [same]
    · have id := congrArg Payment.id recorded.1
      exact id
  unfold updateReturnPaymentStateForMobileOrder
  rw [copy_transaction_id earlier (by rw [order]) same]
  dsimp only
  rcases payment with unrecorded | ⟨recorded,now⟩
  · have none : earlier.payment.transactions.find? (·.type = .refund) = none := by
      rw [unrecorded,List.find?_eq_none]
      exact fun transaction member => by simp [purchase.unrefunded transaction member]
    rw [none]
    apply update_order_keeps untouched _ marking_actions
    intro t moved inTime changed becomes
    have silent : (List.flatMap (mobileOrderActions "") (purchase.returnItems.map (·.id))).any setsTransaction = false := by
      simp [mobileOrderActions,setsTransaction]
    simp only [marksInTime,silent,Bool.false_or,Bool.not_eq_true'] at inTime
    exact .inl ⟨becomes,inTime⟩
  · rw [recorded_first recorded]
    apply update_order_keeps untouched _ (linking_actions (transaction_id_named purchase))
    exact fun t _ _ changed becomes => .inr becomes

theorem copy_branch (copied : Copied purchase (.ok copy) s) : isEdxLmsOrder copy = true ∧ copy.mobileOrder = true ∧
    ¬ (getEdxPspPaymentId copy = none ∧ copy.totalPrice.centAmount = 0) := by
  obtain ⟨earlier,rfl,order,payment,_⟩ := copied
  have frame : plain earlier.payment = plain purchase.ledger.payment := by
    rcases payment with same | ⟨recorded,_⟩
    · rw [same]
    · exact recorded.1
  have sale : saleOf earlier = saleOf purchase.ledger := by rw [saleOf,saleOf,order,frame]
  refine ⟨?_,?_,?_⟩
  · have edx := purchase.edxOrder
    rw [← order] at edx
    exact edx
  · have mobile := purchase.mobile
    rw [← order] at mobile
    exact mobile
  · rw [psp_payment_id_sale sale]
    have paid := purchase.paid
    rw [← order] at paid
    exact paid

theorem fulfill_keeps (untouched : Untouched purchase s) :
    Keeps purchase .fulfillOrderReturned (Task.outcome purchase .fulfillOrderReturned)
      (Task.program purchase .fulfillOrderReturned) s := by
  refine Ensures.bind (fun
    | .ok start,t => start = none ∧ (Marked purchase t.ledger.order ∨ Linked purchase t.ledger.order)
    | .error _,_ => True) ?_ (fun _ _ _ => trivial) ?_
  · apply Ensures.bind _ (get_order_keeps untouched) (fun _ _ _ => trivial)
    intro copy t copied
    apply Ensures.bind _ (get_customer_keeps (copied t (RefundStep.refl t))) (fun _ _ _ => trivial)
    intro _ u kept
    have copied := kept u (RefundStep.refl u)
    obtain ⟨edx,mobile,paid⟩ := copy_branch copied
    simp only [edx,not_true,if_false]
    rcases or_raise_cases (getEdxLmsUserId purchase.sold) with ⟨_,_,known⟩ | ⟨e,_,unknown⟩
    · simp only [known,Prog.monad_bind,Prog.pure_bind,mobile,Bool.true_eq_false,and_false,if_false,paid,if_true]
      apply Ensures.bind _ (mobile_update_keeps copied) (fun _ _ _ => trivial)
      exact fun order v updated w later => ⟨rfl,updated w later⟩
    · simp only [unknown,Prog.monad_bind,Prog.raise_bind]
      exact fun _ _ => trivial
  · intro start t settled
    obtain ⟨rfl,_⟩ := settled t (RefundStep.refl t)
    exact fun u later => (settled u later).2

end Fulfill

section Refund
variable {purchase : Purchase} {s t : Observed}

def Stands (purchase : Purchase) (s : Observed) : Prop :=
  s.ledger.order = purchase.ledger.order ∨ Marked purchase s.ledger.order ∨ Linked purchase s.ledger.order

theorem Stands.later (stands : Stands purchase s) (moved : FulfillStep purchase s t) : Stands purchase t := by
  rcases moved.order with same | ⟨_,⟨marked,_⟩ | linked⟩
  · unfold Stands
    rw [same]
    exact stands
  · exact .inr (.inl marked)
  · exact .inr (.inr linked)

theorem stands_id (stands : Stands purchase s) :
    s.ledger.order.id = purchase.ledger.order.id ∧ s.ledger.order.payments = purchase.ledger.order.payments := by
  rcases stands with same | marked | linked
  · rw [same]; exact ⟨rfl,rfl⟩
  · exact ⟨marked.1,marked.2.1⟩
  · exact ⟨linked.1,linked.2.1⟩

def Unrecorded (purchase : Purchase) (s : Observed) : Prop :=
  s.ledger.payment = purchase.ledger.payment ∧ Stands purchase s

theorem Unrecorded.later (unrecorded : Unrecorded purchase s) (moved : FulfillStep purchase s t) : Unrecorded purchase t :=
  ⟨moved.payment.trans unrecorded.1,unrecorded.2.later moved⟩

theorem find_payment_keeps (unrecorded : Unrecorded purchase s) :
    Keeps purchase .refundFromMobile (fun
      | .ok found,t => found = some purchase.ledger.payment ∧ Unrecorded purchase t
      | .error _,_ => True) (getPaymentByTransactionInteractionId purchase.refund.id) s := by
  intro t moved _ answers
  refine ⟨RefundStep.refl t,?_⟩
  have now := unrecorded.later moved
  cases answers with
  | false => exact fun _ _ => trivial
  | true =>
    simp only [mobileOrders,observe,serve,if_true,now.1,purchase.charge]
    exact fun u later => ⟨rfl,now.later later⟩

def Holds (purchase : Purchase) (payment : Payment) (s : Observed) : Prop :=
  s.ledger.payment = payment ∧ Recorded purchase payment ∧ Stands purchase s

theorem Holds.later (holds : Holds purchase payment s) (moved : FulfillStep purchase s t) : Holds purchase payment t :=
  ⟨moved.payment.trans holds.1,holds.2.1,holds.2.2.later moved⟩

theorem record_keeps (unrecorded : Unrecorded purchase s) :
    Keeps purchase .refundFromMobile (fun
      | .ok payment,t => Holds purchase payment t
      | .error _,_ => True) (recordMobileRefund purchase.paymentInterface purchase.refund purchase.ledger.payment) s := by
  have absent : isTransactionAlreadyRefunded purchase.ledger.payment (some purchase.refund.id) = false := by
    refine List.any_eq_false.mpr fun transaction member => ?_
    simp [isRefund,purchase.unrefunded transaction member]
  unfold recordMobileRefund
  rw [purchase.charged,absent]
  refine Ensures.bind (fun
    | .ok payment,t => Holds purchase payment t
    | .error _,_ => True) ?_ (fun _ _ _ => trivial) ?_
  · intro t moved _ answers
    have now := unrecorded.later moved
    rcases update_payment_cases answers purchase.ledger.payment.id purchase.ledger.payment.version
        [.addTransaction (refundTransactionDraft (refundOfPayment purchase.paymentInterface purchase.refund
          purchase.ledger.payment) purchase.paymentInterface)] t.ledger with ⟨code,refused⟩ | ⟨payment,accepted,written⟩
    · simp only [mobileOrders,observe,refused]
      exact ⟨RefundStep.refl t,fun _ _ => trivial⟩
    · obtain ⟨_,changed⟩ := Versioned.compareAndSet_some.mp accepted
      rw [add_transaction_applied,now.1] at changed
      have added : payment = addTransaction purchase.ledger.payment purchase.draft := (Option.some.inj changed).symm
      have recorded : Recorded purchase payment := added ▸ add_recorded purchase
      simp only [mobileOrders,observe,written]
      refine ⟨⟨.inr recorded,fun asked => asked,.inl rfl⟩,?_⟩
      have holds : Holds purchase payment ⟨{t.ledger with payment},t.asked⟩ := ⟨rfl,recorded,now.2⟩
      exact fun u later => holds.later later
  · intro payment t holds u later _ _
    refine ⟨RefundStep.refl u,?_⟩
    exact fun v latest => holds v (later.trans latest)

-- The answer to the query: an unprocessed return is one that was marked without
-- the transaction.
def Asked (purchase : Purchase) (payment : Payment) : Except Exn (Option OrderWithReturnInfo) → Observed → Prop
  | .ok none,s => s.asked = true ∧ Recorded purchase s.ledger.payment ∧
      (s.ledger.order = purchase.ledger.order ∨ Linked purchase s.ledger.order)
  | .ok (some result),s => s.asked = true ∧ Holds purchase payment s ∧ Marked purchase s.ledger.order ∧
      result = ⟨s.ledger.order.id,s.ledger.order.version,purchase.ids⟩
  | .error _,_ => True

theorem settled_later (asked : s.asked = true) (recorded : Recorded purchase s.ledger.payment)
    (settled : s.ledger.order = purchase.ledger.order ∨ Linked purchase s.ledger.order) (moved : FulfillStep purchase s t) :
    t.asked = true ∧ Recorded purchase t.ledger.payment ∧
      (t.ledger.order = purchase.ledger.order ∨ Linked purchase t.ledger.order) := by
  refine ⟨moved.asked.trans asked,by rw [moved.payment]; exact recorded,?_⟩
  rcases moved.order with same | ⟨_,⟨_,early⟩ | linked⟩
  · rw [same]; exact settled
  · rw [asked] at early
    cases early
  · exact .inr linked

theorem marked_later (marked : Marked purchase s.ledger.order) (moved : FulfillStep purchase s t) :
    t.ledger.order = s.ledger.order := by
  rcases moved.order with same | ⟨original,_⟩
  · exact same
  · rw [original] at marked
    exact absurd marked (original_unmarked purchase)

theorem find_order_keeps (holds : Holds purchase payment s) :
    Keeps purchase .refundFromMobile (Asked purchase payment) (findOrderWithUnprocessedReturnForPayment payment.id) s := by
  intro t moved _ answers
  have now := holds.later moved
  have id : payment.id = purchase.ledger.payment.id := by
    have id := congrArg Payment.id now.2.1.1
    exact id
  have attached : t.ledger.order.payments.any (·.id = payment.id) = true := by
    obtain ⟨last,latest,same⟩ := Option.map_eq_some_iff.mp purchase.attached
    rw [(stands_id now.2.2).2,List.any_eq_true]
    exact ⟨last,List.mem_of_getLast? latest,decide_eq_true (same.trans id.symm)⟩
  have recorded : Recorded purchase t.ledger.payment := by rw [now.1]; exact now.2.1
  refine ⟨⟨.inl rfl,fun _ => rfl,.inl rfl⟩,?_⟩
  cases answers with
  | false => exact fun _ _ => trivial
  | true =>
    simp only [mobileOrders,observe,serve,if_true,attached,true_and]
    rcases now.2.2 with original | marked | linked
    · have processed : hasUnprocessedReturn t.ledger.order = false := by rw [original]; exact original_processed purchase
      simp only [processed,Bool.false_eq_true,if_false]
      exact fun u later => settled_later (s := ⟨t.ledger,true⟩) rfl recorded (.inl original) later
    · simp only [marked_open marked,if_true,marked_unprocessed marked,Prog.pure_bind]
      intro u later
      have same := marked_later (s := ⟨t.ledger,true⟩) marked later
      have order : Marked purchase u.ledger.order := by rw [same]; exact marked
      have held : Holds purchase payment ⟨t.ledger,true⟩ := now
      exact ⟨later.asked,held.later later,order,by rw [same]⟩
    · simp only [linked_processed linked,Bool.false_eq_true,if_false]
      exact fun u later => settled_later (s := ⟨t.ledger,true⟩) rfl recorded (.inr linked) later

def Done (purchase : Purchase) : Except Exn α → Observed → Prop
  | .ok _,s => Linked purchase s.ledger.order ∧ s.asked = true ∧ Recorded purchase s.ledger.payment
  | .error _,_ => True

theorem Done.later (done : Done purchase (.ok a) s) (moved : FulfillStep purchase s t) : Done purchase (.ok b) t := by
  obtain ⟨linked,asked,recorded⟩ := done
  obtain ⟨asked',recorded',_⟩ := settled_later asked recorded (.inr linked) moved
  refine ⟨?_,asked',recorded'⟩
  rcases moved.order with same | ⟨_,⟨_,early⟩ | linked'⟩
  · rw [same]; exact linked
  · rw [asked] at early
    cases early
  · exact linked'

theorem link_order_keeps (holds : Holds purchase payment s) (marked : Marked purchase s.ledger.order)
    (asked : s.asked = true) :
    Keeps purchase .refundFromMobile (Done purchase) (updateOrderById s.ledger.order.id s.ledger.order.version
      (transactionIdActions purchase.ids [] [] purchase.transactionId)) s := by
  intro t moved _ answers
  have same := marked_later marked moved
  have now := holds.later moved
  rcases update_order_cases answers s.ledger.order.id s.ledger.order.version
      (transactionIdActions purchase.ids [] [] purchase.transactionId) t.ledger with
    ⟨code,refused⟩ | ⟨order,accepted,written⟩
  · simp only [mobileOrders,observe,refused]
    exact ⟨RefundStep.refl t,fun _ _ => trivial⟩
  · obtain ⟨updated,applied,rfl⟩ := accepted_applied accepted
    have linked : Linked purchase {updated with version := t.ledger.order.version+1} := by
      rw [apply_actions_items applied,same]
      refine ⟨marked.1,marked.2.1,?_⟩
      simp only [updateReturnItems,marked.2.2,List.map_map,← relinking_actions,Function.comp_def]
    simp only [mobileOrders,observe,written]
    refine ⟨⟨.inl rfl,fun asked => asked,.inr ⟨by rw [same]; exact marked,linked⟩⟩,?_⟩
    have done : Done purchase (.ok updated)
        ⟨{t.ledger with order := {updated with version := t.ledger.order.version+1}},t.asked⟩ :=
      ⟨linked,moved.asked.trans asked,by rw [now.1]; exact now.2.1⟩
    exact fun u later => done.later later

theorem link_transaction_keeps (linked : Linked purchase s.ledger.order) (asked : s.asked = true)
    (recorded : Recorded purchase s.ledger.payment) :
    Keeps purchase .refundFromMobile (Done purchase)
      (setTransactionReturnItemId payment purchase.transactionId purchase.ids) s := by
  unfold setTransactionReturnItemId
  rw [if_neg (transaction_id_named purchase)]
  intro t moved _ answers
  have done : Done purchase (.ok ()) t := Done.later (a := ()) ⟨linked,asked,recorded⟩ moved
  rcases update_payment_cases answers payment.id payment.version
      [.setTransactionCustomType purchase.transactionId (", ".intercalate purchase.ids)] t.ledger with
    ⟨code,refused⟩ | ⟨updated,accepted,written⟩
  · simp only [mobileOrders,observe,refused]
    exact ⟨RefundStep.refl t,fun _ _ => trivial⟩
  · obtain ⟨_,changed⟩ := Versioned.compareAndSet_some.mp accepted
    have kept := recorded_kept done.2.2 changed
    simp only [mobileOrders,observe,written]
    refine ⟨⟨.inr kept,fun asked => asked,.inl rfl⟩,?_⟩
    have after : Done purchase (.ok ()) ⟨{t.ledger with payment := updated},t.asked⟩ := ⟨done.1,done.2.1,kept⟩
    exact fun u later => after.later later

theorem link_keeps (holds : Holds purchase payment s) (marked : Marked purchase s.ledger.order) (asked : s.asked = true) :
    Keeps purchase .refundFromMobile (fun
      | .ok _,t => t.asked = true ∧ Recorded purchase t.ledger.payment ∧
          (t.ledger.order = purchase.ledger.order ∨ Linked purchase t.ledger.order)
      | .error _,_ => True) (updateReturnPaymentStateAfterSuccessfulRefund s.ledger.order.id s.ledger.order.version
        purchase.ids [] [] (some purchase.refund.id) (some purchase.refund.id) .refunded (some payment) false) s := by
  refine Ensures.handle (fun
    | .ok _,t => t.asked = true ∧ Recorded purchase t.ledger.payment ∧
        (t.ledger.order = purchase.ledger.order ∨ Linked purchase t.ledger.order)
    | .error _,_ => True) ?_ (fun _ _ done => done) ?_
  · change Keeps purchase .refundFromMobile _ (Prog.bind (updateOrderById s.ledger.order.id s.ledger.order.version
      (transactionIdActions purchase.ids [] [] (refundTransactionId payment (some purchase.refund.id)))) _) s
    rw [recorded_found holds.2.1]
    apply Ensures.bind _ (link_order_keeps holds marked asked) (fun _ _ _ => trivial)
    intro order t linked
    obtain ⟨linked,asked,recorded⟩ := linked t (FulfillStep.refl t)
    apply Ensures.bind _ (link_transaction_keeps linked asked recorded) (fun _ _ _ => trivial)
    intro _ u done v later
    obtain ⟨linked,asked,recorded⟩ := done v later
    exact ⟨asked,recorded,.inr linked⟩
  · intro e t _
    cases e <;> exact fun _ _ => trivial

theorem refund_keeps (unrecorded : Unrecorded purchase s) :
    Keeps purchase .refundFromMobile (Task.outcome purchase .refundFromMobile)
      (Task.program purchase .refundFromMobile) s := by
  apply Ensures.bind _ (find_payment_keeps unrecorded) (fun _ _ _ => trivial)
  intro found t looked
  obtain ⟨rfl,now⟩ := looked t (FulfillStep.refl t)
  apply Ensures.bind _ (record_keeps now) (fun _ _ _ => trivial)
  intro payment u held
  apply Ensures.bind _ (find_order_keeps (held u (FulfillStep.refl u))) (fun _ _ _ => trivial)
  intro result v answered
  cases result with
  | none => exact fun w later => answered w later
  | some result =>
    obtain ⟨asked,holds,marked,rfl⟩ := answered v (FulfillStep.refl v)
    apply Ensures.bind _ (link_keeps holds marked asked) (fun _ _ _ => trivial)
    exact fun order w linked x later => linked x later

end Refund

section Runs

abbrev Tasks := Config Request Response Exn Unit Observed Task

def together (purchase : Purchase) : Tasks := ⟨⟨purchase.ledger,false⟩,Task.program purchase⟩

abbrev Runs (purchase : Purchase) : Tasks → List (Event Task Bool Empty) → Tasks → Prop :=
  RunsWhen (mobileOrders.step (Task.program purchase)) (Permitted fun task s r => marksInTime task s r = true)

def CarriesTransaction (order : Order) (returnItems : List ReturnedItem) (transactionId : String) : Prop :=
  ∀ returned ∈ returnItems, (∃ item ∈ Rollout.getOrderReturnInfoReturnItems order, item.id = returned.id) ∧
    ∀ item ∈ Rollout.getOrderReturnInfoReturnItems order, item.id = returned.id →
      item.paymentState = .refunded ∧ item.transactionId = some transactionId

instance : Decidable (CarriesTransaction order returnItems transactionId) :=
  inferInstanceAs (Decidable (∀ _ ∈ _, (∃ _ ∈ _, _) ∧ ∀ _ ∈ _, _ → _))

theorem linked_carries {purchase : Purchase} (linked : Linked purchase order) :
    CarriesTransaction order purchase.returnItems purchase.transactionId := by
  intro returned member
  have named : returned.id ∈ purchase.ids := List.mem_map_of_mem member
  refine ⟨?_,?_⟩
  · have listed := named
    rw [Purchase.ids,← purchase.named] at listed
    obtain ⟨origin,among,same⟩ := List.mem_map.mp listed
    refine ⟨_,changed_member (fun item other => by simp [link,other]) linked among,?_⟩
    simp only [link]
    split <;> exact same
  · intro item present same
    exact linked_items linked item present (same ▸ named)

theorem tasks_keep (purchase : Purchase) (task : Task) :
    Keeps purchase task (task.outcome purchase) (task.program purchase) ⟨purchase.ledger,false⟩ := by
  cases task with
  | refundFromMobile => exact refund_keeps ⟨rfl,.inl rfl⟩
  | fulfillOrderReturned => exact fulfill_keeps ⟨rfl,.inl rfl⟩

theorem rely_refl (task : Task) (s : Observed) : task.rely purchase s s := by
  cases task with
  | refundFromMobile => exact FulfillStep.refl s
  | fulfillOrderReturned => exact RefundStep.refl s

theorem rely_trans (task : Task) (a b c : Observed) (ab : task.rely purchase a b) (bc : task.rely purchase b c) :
    task.rely purchase a c := by
  cases task with
  | refundFromMobile => exact FulfillStep.trans ab bc
  | fulfillOrderReturned => exact RefundStep.trans ab bc

theorem steps_tolerated (i j : Task) (s t : Observed) (different : i ≠ j) (moved : i.guarantee purchase s t) :
    j.rely purchase s t := by
  cases i <;> cases j <;> first | exact absurd rfl different | exact moved

theorem tasks_end {purchase : Purchase} (path : Runs purchase (together purchase) events c)
    (completed : ∀ task, c.threads task = .pure ()) (task : Task) : task.outcome purchase (.ok ()) c.shared := by
  have kept := interference rely_refl rely_trans steps_tolerated (fun _ change => change.elim)
    (fun _ _ _ never _ => by cases never) (tasks_keep purchase) path task
  rw [completed task] at kept
  exact kept c.shared (rely_refl task _)

theorem mobile_refund_linked (purchase : Purchase) (path : Runs purchase (together purchase) events c)
    (completed : ∀ task, c.threads task = .pure ()) :
    ∃ transaction ∈ c.shared.ledger.payment.transactions, transaction.type = .refund ∧
      transaction.interactionId = some purchase.refund.id ∧
      CarriesTransaction c.shared.ledger.order purchase.returnItems transaction.id := by
  have ends := tasks_end path completed
  obtain ⟨_,recorded,state⟩ := ends .refundFromMobile
  have linked : Linked purchase c.shared.ledger.order := by
    rcases ends .fulfillOrderReturned with marked | linked
    · rcases state with original | linked
      · rw [original] at marked
        exact absurd marked (original_unmarked purchase)
      · exact linked
    · exact linked
  obtain ⟨transaction,member,same,refund⟩ := recorded_transaction recorded
  exact ⟨transaction,member,refund.1,refund.2,by rw [same]; exact linked_carries linked⟩

end Runs

def soldCourse : Purchase where
  ledger :=
    let payment : Payment := ⟨"payment",1,some "token",some "token",⟨4900,"USD",some 2⟩,
      some edxAndroidIapPaymentInterfaceName,some paymentStatusInterfaceCodeSucceeded,
      [⟨"charge",0,.charge,⟨4900,"USD",some 2⟩,some "GPA.1",.success,none⟩]⟩
    ⟨⟨"order",1,"customer",true,[⟨"line",1,⟨4900,"USD",some 2⟩,[],none⟩],⟨4900,"USD",some 2⟩,
      [[⟨"return","line",.initial,none,none⟩]],[payment]⟩,payment,⟨"token",4900,"usd",[]⟩⟩
  refund := ⟨"GPA.1",0,"UNSET",1,"succeeded",none,none⟩
  paymentInterface := edxAndroidIapPaymentInterfaceName
  sold := courseSale ["line"]
  returnItems := [⟨"return","line"⟩]
  earlier := []
  returned := [⟨"return","line",.initial,none,none⟩]
  later := []
  returnInfo := rfl
  named := rfl
  someItem := by simp
  distinct := by simp
  pending := by decide
  processed := by simp
  edxOrder := rfl
  mobile := rfl
  paid := by decide
  attached := rfl
  charge := by decide
  charged := by decide +kernel
  unrefunded := by decide

def bothMiss : List (Event Task Bool Empty) :=
  [.act .fulfillOrderReturned true,.act .refundFromMobile true,.act .refundFromMobile true,.act .refundFromMobile true,
    .act .refundFromMobile true,.act .fulfillOrderReturned true,.act .fulfillOrderReturned true]

def finished (c : Tasks) (task : Task) : Bool :=
  match c.threads task with
  | .pure _ => true
  | _ => false

theorem finished_pure {c : Tasks} (ended : finished c task = true) : c.threads task = .pure () := by
  unfold finished at ended
  split at ended
  · assumption
  · cases ended

theorem mobile_refund_unlinked :
    ∃ c, run (mobileOrders.step (Task.program soldCourse)) (together soldCourse) bothMiss = some c ∧
      (∀ task, c.threads task = .pure ()) ∧
      ¬ ∃ transaction ∈ c.shared.ledger.payment.transactions,
        CarriesTransaction c.shared.ledger.order soldCourse.returnItems transaction.id := by
  have ran : (run (mobileOrders.step (Task.program soldCourse)) (together soldCourse) bothMiss).map (fun c =>
      (finished c .refundFromMobile && finished c .fulfillOrderReturned,
        decide (∃ transaction ∈ c.shared.ledger.payment.transactions,
          CarriesTransaction c.shared.ledger.order soldCourse.returnItems transaction.id))) = some (true,false) := by
    decide +kernel
  obtain ⟨c,reached,both⟩ := Option.map_eq_some_iff.mp ran
  obtain ⟨ended,missed⟩ := Prod.mk.inj both
  obtain ⟨refund,fulfill⟩ := Bool.and_eq_true_iff.mp ended
  refine ⟨c,reached,?_,of_decide_eq_false missed⟩
  intro task
  cases task with
  | refundFromMobile => exact finished_pure refund
  | fulfillOrderReturned => exact finished_pure fulfill

def markedInTime : List (Event Task Bool Empty) :=
  [.act .fulfillOrderReturned true,.act .refundFromMobile true,.act .refundFromMobile true,
    .act .fulfillOrderReturned true,.act .fulfillOrderReturned true] ++ List.replicate 4 (.act .refundFromMobile true)

theorem marked_return_linked :
    ∃ c, run (mobileOrders.step (Task.program soldCourse)) (together soldCourse) markedInTime = some c ∧
      ∃ transaction ∈ c.shared.ledger.payment.transactions, transaction.type = .refund ∧
        transaction.interactionId = some soldCourse.refund.id ∧
        CarriesTransaction c.shared.ledger.order soldCourse.returnItems transaction.id := by
  have ran : (guardedRun (mobileOrders.step (Task.program soldCourse)) (permitted marksInTime) (together soldCourse)
      markedInTime).map (fun c => finished c .refundFromMobile && finished c .fulfillOrderReturned) = some true := by
    decide +kernel
  obtain ⟨c,reached,ended⟩ := Option.map_eq_some_iff.mp ran
  have path : Runs soldCourse (together soldCourse) markedInTime c :=
    RunsWhen.nil.guarded (fun c event => permitted_sound c event) reached
  obtain ⟨refund,fulfill⟩ := Bool.and_eq_true_iff.mp ended
  refine ⟨c,path.sound,mobile_refund_linked soldCourse path ?_⟩
  intro task
  cases task with
  | refundFromMobile => exact finished_pure refund
  | fulfillOrderReturned => exact finished_pure fulfill

end MobileRefund
