import CommerceCoordinator.RefundDelivery

open Commercetools CallTree OrderReturn PaymentTransactions CommercetoolsClient RefundPipeline OrderReturned

-- Each pipeline step leaves the delivery where the next one may start, whatever
-- calls fail on the way.
namespace RefundDelivery

section Steps
variable {returnItems : List ReturnedItem} {s t : Ledger} {k : Kwargs} {f : Fetched}
  {allowed : Bool → Ledger → Request → Prop}

def After (returnItems : List ReturnedItem) (steps : List PipelineStep) : Except Exn Kwargs → Ledger → Prop
  | .ok k,t => Placed returnItems steps k t
  | .error _,t => Settled returnItems t

theorem determine_after (requested : Requested returnItems k) (payable : refundable (expanded s) = true)
    (settled : Settled returnItems s) : Meets allowed (After returnItems (orderRefundRequested.drop 1))
      (determineActiveOrderManagementSystemByOrderId k) s :=
  Placed.determined ⟨requested.lines,requested.fetched,requested.response,requested.accepted⟩ payable settled

theorem nothing_left (requested : Requested returnItems k) (all : AllRefunded returnItems s) :
    (filterReturnItems (expanded s) k.returnLineItems).1 = [] := by
  rw [filtered_line_items,requested.lines,List.filter_eq_nil_iff]
  intro lineItemId member
  obtain ⟨item,listed,rfl⟩ := (return_line_items_keys returnItems lineItemId).mp member
  have marked : Refunded (expanded s) item.lineItemId := all item listed
  simpa using marked

theorem nothing_quoted (settled : Settled returnItems s)
    (quoted : getEdxRefundInfo s.payment (expanded s) [] = some (amount,interactionId)) : amount = 0 := by
  obtain ⟨refund,total,equal⟩ := Option.bind_eq_some_iff.mp quoted
  cases equal
  exact EdxUtils.refund_of_nothing settled.planned total

theorem unpaid_interface (order : Order) (unpaid : (getEdxSuccessfulPaymentInfo order).1 = none) :
    (getEdxSuccessfulPaymentInfo order).2 = none := by
  unfold getEdxSuccessfulPaymentInfo at unpaid ⊢
  split at unpaid
  · cases unpaid
  · rfl

theorem fetch_after (requested : Requested returnItems k) (payable : refundable (expanded s) = true)
    (settled : Settled returnItems s) : Meets allowed (After returnItems (orderRefundRequested.drop 2))
      (fetchOrderDetailsByOrderId k) s := by
  unfold fetchOrderDetailsByOrderId
  split
  · exact Placed.unfetched requested.fetched settled
  · rename_i system
    apply except_meets
    unfold fetchOrderDetails
    apply Prog.wp_bind.mpr
    refine get_order_meets ?_ fun _ => Placed.unfetched requested.fetched settled
    intro found
    have copied : (getEdxSuccessfulPaymentInfo (expanded s)).2 = (paymentInfo (expanded s)).2 := rfl
    have interface := unpaid_interface (expanded s)
    dsimp only
    rcases read : getEdxSuccessfulPaymentInfo (expanded s) with ⟨_ | payment,psp⟩
    · rw [read] at copied interface
      have none : psp = none := interface rfl
      refine .fetched ⟨rfl,?_,requested.lines,⟨⟨rfl,rfl⟩,copied,fun some => absurd none some⟩⟩
        (fun some => absurd none some) ⟨requested.response,requested.accepted,payable,settled,fun _ => rfl⟩
      simpa using system
    · apply Prog.wp_bind.mpr
      refine get_payment_meets ?_ fun _ => Placed.unfetched requested.fetched settled
      intro key
      dsimp only
      rcases amount : getEdxRefundInfo s.payment (expanded s) (filterReturnItems (expanded s) k.returnLineItems).1 with
        _ | ⟨refundAmount,ctTransactionInteractionId⟩
      · exact settled
      · rw [read] at copied
        have zero : AllRefunded returnItems s → refundAmount = 0 := by
          intro all
          rw [nothing_left requested all] at amount
          exact nothing_quoted settled amount
        refine .fetched ⟨rfl,?_,requested.lines,⟨⟨rfl,rfl⟩,copied,fun _ => key⟩⟩
          (fun _ => ⟨s.payment,rfl,rfl,rfl⟩) ⟨requested.response,requested.accepted,payable,settled,zero⟩
        simpa using system

theorem asked_executed {k' : Kwargs} (unasked : Unasked returnItems k f s) (asked : f.amountInDollars ≠ 0)
    (new : PspRefund) (accepted : k'.pspRefundError = false)
    (response : ∃ refund, k'.refundResponse = some (.refund refund) ∧
      (f.psp = some edxStripePaymentInterfaceName ∧ refund.paymentIntent ≠ none ∨
        f.psp = some edxPaypalPaymentInterfaceName)) :
    Executed returnItems k' f {s with psp := {s.psp with refunds := s.psp.refunds++[new]}} :=
  ⟨unasked.settled.listed,unasked.settled.planned,executed_once (unasked.uncovered asked) new,unasked.refundable,
    accepted,response⟩

theorem stripe_after (within : Within returnItems k f s) (current : Current f s) (unasked : Unasked returnItems k f s) :
    Meets allowed (After returnItems (orderRefundRequested.drop 3)) (refundPaymentIntent k) s := by
  unfold refundPaymentIntent
  rw [within.fetched]
  dsimp only
  split
  · exact .stripe within current (.inl unasked.idle) fun _ => unasked
  · rename_i chosen
    obtain ⟨stripe,_,asked⟩ := not_not.mp chosen
    have other : f.psp ≠ some edxPaypalPaymentInterfaceName := by rw [stripe]; decide
    split
    · exact .stripe ⟨rfl,within.system,within.lines,within.copied⟩ current
        (.inl ⟨unasked.settled,unasked.idle.2⟩) fun paypal => absurd paypal other
    · apply Prog.wp_handle.mpr
      intro answers _
      rcases execute_cases s.psp (f.paymentIntentId.getD "") (truncate (Decimal.mul f.amountInDollars 100))
          ⟨refundId s.psp,truncate (Decimal.mul f.amountInDollars 100),s.psp.currency,s.psp.refunds.length,"succeeded",
            some (f.paymentIntentId.getD ""),none⟩ f.filteredLineItemIds with ⟨e,told,refused⟩ | executed
      · simp only [serve,refused]
        cases e with
        | chargeAlreadyRefunded =>
          intro again _
          simp only [serve,Prog.pure_bind]
          split
          · exact unasked.settled
          · exact Placed.stripe ⟨rfl,within.system,within.lines,within.copied⟩ current
              (.inl ⟨unasked.settled,unasked.idle.2⟩) fun paypal => absurd paypal other
        | _ =>
          exact Placed.stripe ⟨rfl,within.system,within.lines,within.copied⟩ current
            (.inl ⟨unasked.settled,fun _ => unasked.uncovered asked⟩) fun paypal => absurd paypal other
      · simp only [serve,executed]
        exact Placed.stripe ⟨rfl,within.system,within.lines,copied_sale (s := s) rfl rfl within.copied⟩ current
          (.inr (asked_executed unasked asked _ unasked.accepted ⟨_,rfl,.inl ⟨stripe,by simp⟩⟩))
          fun paypal => absurd paypal other

theorem paypal_after (within : Within returnItems k f s) (current : Current f s) (outcome : Outcome returnItems k f s)
    (unasked : f.psp = some edxPaypalPaymentInterfaceName → Unasked returnItems k f s) :
    Meets allowed (After returnItems (orderRefundRequested.drop 4)) (refundPayPalPayment k) s := by
  unfold refundPayPalPayment
  rw [within.fetched]
  dsimp only
  split
  · exact .paypal within current outcome
  · rename_i chosen
    obtain ⟨paypal,asked,_⟩ := not_not.mp chosen
    have unasked := unasked paypal
    split
    · exact .paypal ⟨rfl,within.system,within.lines,within.copied⟩ current (.inl ⟨unasked.settled,unasked.idle.2⟩)
    · apply Prog.wp_handle.mpr
      intro answers _
      rcases execute_cases s.psp (f.ctTransactionInteractionId.getD "") (truncate (f.amountInDollars*100))
          ⟨refundId s.psp,f.amountInDollars,"USD",s.psp.refunds.length,"COMPLETED",none,none⟩
          f.filteredLineItemIds with ⟨e,_,refused⟩ | executed
      · simp only [serve,refused,Except.map]
        exact Placed.paypal ⟨rfl,within.system,within.lines,within.copied⟩ current
          (.inl ⟨unasked.settled,fun _ => unasked.uncovered asked⟩)
      · simp only [serve,executed,Except.map]
        exact Placed.paypal ⟨rfl,within.system,within.lines,copied_sale (s := s) rfl rfl within.copied⟩ current
          (.inr (asked_executed unasked asked _ unasked.accepted ⟨_,rfl,.inr paypal⟩))

def PaymentOnly (k : Kwargs) (s : Ledger) (out : Except Exn Kwargs) (t : Ledger) : Prop :=
  (∀ k', out = .ok k' → k' = k) ∧ saleOf t = saleOf s ∧ t.order = s.order ∧ t.psp = s.psp

theorem append_payment_only (payment : Payment) (refund : Refund) (psp : Option String) :
    Meets allowed (PaymentOnly k s) (exceptCommercetoolsError (do
      let _ ← createReturnPaymentTransaction payment.id payment.version refund (psp.getD "")
      return k) fun _ =>
        match messageError psp refund with
        | some error => .raise error
        | none => .pure k) s := by
  refine except_meets (Prog.wp_bind.mpr (update_payment_meets ?_ ?_))
  · exact fun payment accepted => ⟨fun _ equal => (Except.ok.inj equal).symm,update_payment_sale accepted,rfl,rfl⟩
  · intro code
    dsimp only
    split
    · exact ⟨fun _ never => (by cases never),rfl,rfl,rfl⟩
    · exact ⟨fun _ equal => (Except.ok.inj equal).symm,rfl,rfl,rfl⟩

theorem payment_of_refund_only (refund : Refund) :
    Meets allowed (fun _ t => t = s) (paymentOfRefund f refund) s := by
  unfold paymentOfRefund
  split
  · split
    · exact get_payment_meets (fun _ => rfl) fun _ => rfl
    · rfl
  · split
    · exact get_payment_meets (fun _ => rfl) fun _ => rfl
    · rfl

theorem create_payment_only : Meets allowed (PaymentOnly k s) (createReturnPaymentTransactionStep k) s := by
  have unchanged : PaymentOnly k s (.ok k) s := ⟨fun _ equal => (Except.ok.inj equal).symm,rfl,rfl,rfl⟩
  have failed : ∀ e, PaymentOnly k s (.error e) s := fun _ => ⟨fun _ never => (by cases never),rfl,rfl,rfl⟩
  unfold createReturnPaymentTransactionStep
  split
  · exact failed _
  · rename_i fetched _
    split_ifs
    · exact unchanged
    · exact unchanged
    · exact unchanged
    · exact unchanged
    · split
      · rename_i refund _
        cases fetched.paymentData with
        | some payment => exact append_payment_only payment refund fetched.psp
        | none =>
          apply Prog.wp_bind.mpr
          refine except_meets (Prog.wp_mono (payment_of_refund_only refund) ?_)
          intro out t kept
          cases kept
          rcases out with e | payment
          · cases e <;> exact failed _
          · exact append_payment_only payment refund fetched.psp
      · exact failed _

theorem Outcome.executed (outcome : Outcome returnItems k f s)
    (unrecorded : ¬ (Uncovered returnItems s ∨ AllRefunded returnItems s)) : Executed returnItems k f s := by
  rcases outcome with idle | executed
  · exact absurd (idle.1.recorded.imp_right (·.2)) unrecorded
  · exact executed

theorem Executed.charged (executed : Executed returnItems k f s) : f.psp ≠ none := by
  obtain ⟨_,_,charged⟩ := executed.response
  rcases charged with ⟨stripe,_⟩ | paypal <;> simp [*]

theorem marking_answered (harmless : ∀ answers s r, allowed answers s r → Harmless returnItems answers s r)
    (unrecorded : ¬ (Uncovered returnItems s ∨ AllRefunded returnItems s)) (ok : allowed answers s r)
    (marking : marks s r = true) : answers = true := by
  by_contra failed
  exact unrecorded (harmless _ _ _ ok (Bool.eq_false_of_not_eq_true failed) marking)

theorem created_after (within : Within returnItems k f s) (outcome : Outcome returnItems k f s)
    (kept : PaymentOnly k s (.ok k) t) : Placed returnItems (orderRefundRequested.drop 5) k t := by
  obtain ⟨_,sale,order,psp⟩ := kept
  exact .created ⟨within.fetched,within.system,within.lines,copied_sale sale order within.copied⟩
    (outcome.payment sale order psp)

-- The handlers of CreateReturnPaymentTransaction look up ids, and may fail at it.
theorem create_after (harmless : ∀ answers s r, allowed answers s r → Harmless returnItems answers s r)
    (within : Within returnItems k f s) (current : Current f s) (outcome : Outcome returnItems k f s) :
    Meets allowed (After returnItems (orderRefundRequested.drop 5)) (createReturnPaymentTransactionStep k) s := by
  have next : ∀ t, PaymentOnly k s (.ok k) t → Placed returnItems (orderRefundRequested.drop 5) k t :=
    fun _ => created_after within outcome
  by_cases recorded : Uncovered returnItems s ∨ AllRefunded returnItems s
  · apply Prog.wp_mono create_payment_only
    intro out t both
    obtain ⟨same,sale,order,psp⟩ := both
    rcases out with e | k'
    · exact (outcome.settled recorded).1.payment sale order psp
    · cases same k' rfl
      exact next t ⟨same,sale,order,psp⟩
  · have executed := outcome.executed recorded
    obtain ⟨refund,response,charged⟩ := executed.response
    obtain ⟨copy,paid,id,version⟩ := current executed.charged
    have unchanged : PaymentOnly k s (.ok k) s := ⟨fun _ equal => (Except.ok.inj equal).symm,rfl,rfl,rfl⟩
    unfold createReturnPaymentTransactionStep
    rw [within.fetched]
    dsimp only
    split_ifs
    · exact next s unchanged
    · exact next s unchanged
    · exact next s unchanged
    · exact next s unchanged
    · rw [response,paid]
      dsimp only
      change Meets allowed _ (exceptCommercetoolsError _ _) s
      apply except_meets
      apply Prog.wp_bind.mpr
      rw [id,version]
      rcases charged with ⟨stripe,intent⟩ | paypal
      · refine update_payment_meets ?_ ?_
        · intro payment accepted
          exact next _ ⟨fun _ equal => (Except.ok.inj equal).symm,update_payment_sale accepted,rfl,rfl⟩
        · intro code
          have silent : messageError f.psp refund = none := by
            simp [messageError,stripe,intent,edxStripePaymentInterfaceName,edxPaypalPaymentInterfaceName]
          dsimp only
          rw [silent]
          exact next s unchanged
      · refine add_transaction_through ?_ ?_
        · exact fun answers ok => marking_answered harmless recorded ok
            (decide_eq_true (within.copied.psp.symm.trans paypal))
        · exact next _ ⟨fun _ equal => (Except.ok.inj equal).symm,rfl,rfl,rfl⟩

def returnActions (k : Kwargs) (f : Fetched) (transactionId : String) : List OrderUpdateAction :=
  refundedStateActions k.returnLineItems.values (if k.pspRefundError then .notRefunded else .refunded) ++
    transactionIdActions k.returnLineItems.values f.refundedLineItemRefunds k.returnLineEntitlementIds transactionId

theorem return_id_listed (listed : ∀ item ∈ returnItems, HasReturn s.order item.id item.lineItemId)
    (member : returnId ∈ (returnLineItems returnItems).values) :
    ∃ lineItemId, HasReturn s.order returnId lineItemId := by
  obtain ⟨entry,present,rfl⟩ := List.mem_map.mp member
  obtain ⟨item,returned,rfl⟩ := return_line_items_entries returnItems entry present
  exact ⟨_,listed item returned⟩

theorem return_actions_accepted (within : Within returnItems k f s)
    (listed : ∀ item ∈ returnItems, HasReturn s.order item.id item.lineItemId) (transactionId : String) :
    ∃ updated, (returnActions k f transactionId).foldlM applyOrderAction s.order = some updated := by
  apply apply_actions_accepted
  intro action member
  have present : ∀ returnId ∈ k.returnLineItems.values, returnId ∈ (returnKeys s.order).map (·.1) := by
    intro returnId value
    rw [within.lines] at value
    obtain ⟨lineItemId,has⟩ := return_id_listed listed value
    exact List.mem_map_of_mem (has_return_key.mp has)
  rcases List.mem_append.mp member with state | transaction
  · obtain ⟨returnId,value,rfl⟩ := List.mem_map.mp state
    exact present returnId value
  · obtain ⟨returnId,value,rfl⟩ := List.mem_map.mp transaction
    exact present returnId value

theorem return_actions_mark (within : Within returnItems k f s) (accepted : k.pspRefundError = false)
    (listed : ∀ item ∈ returnItems, HasReturn s.order item.id item.lineItemId)
    (applied : (returnActions k f transactionId).foldlM applyOrderAction s.order = some updated)
    (item : ReturnedItem) (member : item ∈ returnItems) : Refunded updated item.lineItemId := by
  have paymentState : (if k.pspRefundError then ReturnPaymentState.notRefunded else .refunded) = .refunded := by
    simp [accepted]
  obtain ⟨⟨lineItemId,returnId⟩,entry,rfl⟩ := List.mem_map.mp ((return_line_items_keys returnItems _).mpr ⟨item,member,rfl⟩)
  obtain ⟨other,returned,equal⟩ := return_line_items_entries returnItems _ entry
  refine apply_actions_refunded ?_ applied (.inr ⟨returnId,?_,?_⟩)
  · intro action among
    rcases List.mem_append.mp among with state | transaction
    · obtain ⟨_,_,rfl⟩ := List.mem_map.mp state
      exact paymentState
    · obtain ⟨_,_,rfl⟩ := List.mem_map.mp transaction
      trivial
  · obtain ⟨line,value⟩ := Prod.mk.inj equal
    rw [line,value]
    exact listed other returned
  · refine List.mem_append_left _ (List.mem_map.mpr ⟨returnId,?_,by rw [paymentState]⟩)
    rw [within.lines]
    exact List.mem_map_of_mem entry

theorem return_actions_settled (within : Within returnItems k f s) (outcome : Outcome returnItems k f s)
    (applied : (returnActions k f transactionId).foldlM applyOrderAction s.order = some updated) :
    Settled returnItems {s with order := {updated with version}} := by
  obtain ⟨frame,keys⟩ := apply_actions_frame applied
  have same : saleOf {s with order := {updated with version}} = saleOf s :=
    Prod.ext (congrArg (fun o : Order => {o with version := 0}) frame) (Prod.ext keys rfl)
  have marked : k.pspRefundError = false → (∀ item ∈ returnItems, HasReturn s.order item.id item.lineItemId) →
      AllRefunded returnItems {s with order := {updated with version}} := by
    intro accepted listed item member
    have refunded : Refunded updated item.lineItemId := return_actions_mark within accepted listed applied item member
    exact refunded
  rcases outcome with ⟨⟨listed,planned,once,recorded⟩,error⟩ | executed
  · refine ⟨listed_sale same listed,planned_sale same planned,once,?_⟩
    rcases recorded with uncovered | ⟨payable,_⟩
    · exact .inl uncovered
    · cases accepted : k.pspRefundError with
      | true => exact .inl (error accepted)
      | false => exact .inr ⟨by rw [refundable_sale same]; exact payable,marked accepted listed⟩
  · refine ⟨listed_sale same executed.listed,planned_sale same executed.planned,executed.once,.inr ⟨?_,?_⟩⟩
    · rw [refundable_sale same]
      exact executed.refundable
    · exact marked executed.accepted executed.listed

theorem set_return_item_settles (settled : Settled returnItems s) (payment : Payment) (transactionId : String)
    (returnIds : List String) :
    Meets allowed (fun _ t => Settled returnItems t) (setTransactionReturnItemId payment transactionId returnIds) s := by
  unfold setTransactionReturnItemId
  split
  · exact settled
  · apply Prog.wp_bind.mpr
    refine update_payment_meets ?_ fun _ => settled
    exact fun _ accepted => settled.payment (update_payment_sale accepted) rfl rfl

theorem linked_returns_settle (settled : Settled returnItems s) (payment : Payment) (transactionId : String)
    (returnIds : List String) (order : Order) :
    Meets allowed (fun _ t => Settled returnItems t) (do
      setTransactionReturnItemId payment transactionId returnIds
      return order) s := by
  apply Prog.wp_bind.mpr
  apply Prog.wp_mono (set_return_item_settles settled payment transactionId returnIds)
  intro out u kept
  cases out <;> exact kept

theorem rethrown_settles {p : Call Order} (holds : Meets allowed (fun _ t => Settled returnItems t) p s) :
    Meets allowed (fun _ t => Settled returnItems t)
      (exceptCommercetoolsError p fun _ => .raise .openEdxFilterException) s := by
  apply except_meets
  apply Prog.wp_mono holds
  intro out u kept
  rcases out with e | _
  · cases e <;> exact kept
  · exact kept

-- The lookup and the update of the order; what follows them cannot undo them.
theorem mark_returns_settles (harmless : ∀ answers s r, allowed answers s r → Harmless returnItems answers s r)
    (within : Within returnItems k f s) (outcome : Outcome returnItems k f s) (interactionId : Option String) :
    Meets allowed (fun _ t => Settled returnItems t)
      (updateReturnPaymentStateAfterSuccessfulRefund f.orderData.id f.orderData.version k.returnLineItems.values
        k.returnLineEntitlementIds f.refundedLineItemRefunds f.paymentIntentId interactionId
        (if k.pspRefundError then .notRefunded else .refunded) none true) s := by
  unfold updateReturnPaymentStateAfterSuccessfulRefund
  apply rethrown_settles
  apply Prog.wp_bind.mpr
  by_cases recorded : Uncovered returnItems s ∨ AllRefunded returnItems s
  · have settled := (outcome.settled recorded).1
    refine get_payment_meets ?_ fun _ => settled
    intro _
    apply Prog.wp_bind.mpr
    refine update_order_meets ?_ fun _ => settled
    intro order accepted
    obtain ⟨updated,applied,rfl⟩ := accepted_applied accepted
    exact linked_returns_settle (return_actions_settled within outcome applied) ..
  · have executed := outcome.executed recorded
    apply get_payment_through (fun answers ok => marking_answered harmless recorded ok rfl)
      (within.copied.key executed.charged)
    obtain ⟨updated,applied⟩ := return_actions_accepted within executed.listed
      (refundTransactionId s.payment interactionId)
    dsimp only
    rw [within.copied.order.1,within.copied.order.2]
    apply Prog.wp_bind.mpr
    apply update_order_through (fun answers ok => marking_answered harmless recorded ok rfl) applied
    exact linked_returns_settle (return_actions_settled within outcome applied) ..

theorem update_after (harmless : ∀ answers s r, allowed answers s r → Harmless returnItems answers s r)
    (within : Within returnItems k f s) (outcome : Outcome returnItems k f s) :
    Meets allowed (After returnItems []) (updateCommercetoolsOrderReturnPaymentStatus k) s := by
  unfold updateCommercetoolsOrderReturnPaymentStatus
  rw [within.fetched]
  dsimp only
  split
  · rename_i unpaid
    rcases outcome with idle | executed
    · exact .finished idle.1
    · obtain ⟨_,_,charged⟩ := executed.response
      rw [unpaid.2] at charged
      rcases charged with ⟨never,_⟩ | never <;> cases never
  · apply Prog.wp_bind.mpr
    apply Prog.wp_mono (mark_returns_settles harmless within outcome _)
    intro out t settled
    rcases out with e | order
    · exact settled
    · exact Placed.finished settled

theorem step_after (harmless : ∀ answers s r, allowed answers s r → Harmless returnItems answers s r)
    (placed : Placed returnItems (step::rest) k s) : Meets allowed (After returnItems rest) (runFilter step k) s := by
  generalize equal : step::rest = steps at placed
  cases placed with
  | requested request payable settled =>
    obtain ⟨rfl,rfl⟩ := List.cons.inj equal
    exact determine_after request payable settled
  | determined request payable settled =>
    obtain ⟨rfl,rfl⟩ := List.cons.inj equal
    exact fetch_after request payable settled
  | unfetched none settled =>
    obtain ⟨rfl,rfl⟩ := List.cons.inj equal
    change Meets allowed _ (refundPaymentIntent k) s
    unfold refundPaymentIntent
    rw [none]
    exact settled
  | fetched within current unasked =>
    obtain ⟨rfl,rfl⟩ := List.cons.inj equal
    exact stripe_after within current unasked
  | stripe within current outcome unasked =>
    obtain ⟨rfl,rfl⟩ := List.cons.inj equal
    exact paypal_after within current outcome unasked
  | paypal within current outcome =>
    obtain ⟨rfl,rfl⟩ := List.cons.inj equal
    exact create_after harmless within current outcome
  | created within outcome =>
    obtain ⟨rfl,rfl⟩ := List.cons.inj equal
    exact update_after harmless within outcome
  | finished settled => cases equal

theorem placed_nil (placed : Placed returnItems [] k s) : Settled returnItems s := by
  generalize equal : ([] : List PipelineStep) = steps at placed
  cases placed with
  | finished settled => exact settled
  | _ => cases equal

theorem pipeline_settles (harmless : ∀ answers s r, allowed answers s r → Harmless returnItems answers s r)
    (placed : Placed returnItems steps k s) :
    Meets allowed (fun _ t => Settled returnItems t) (runPipeline steps k) s := by
  induction steps generalizing k s with
  | nil => exact placed_nil placed
  | cons step rest ih =>
    apply Prog.wp_bind.mpr
    apply Prog.wp_mono (step_after harmless placed)
    intro out t after
    rcases out with e | k'
    · exact after
    · exact ih after

-- What the task does before the pipeline, or instead of it.
def Prepared (returnItems : List ReturnedItem) (s : Ledger) (out : Except Exn (Option Kwargs)) (t : Ledger) : Prop :=
  (refundable (expanded s) = true → t = s) ∧ saleOf t = saleOf s ∧ t.psp = s.psp ∧
    ∀ k, out = .ok (some k) → Requested returnItems k ∧ refundable (expanded s) = true

theorem prepare_prepared (sale : Sale) (orderId : String) :
    Meets allowed (Prepared returnItems s) (prepareReturn sale orderId returnItems) s := by
  have raised : ∀ e, Prepared returnItems s (.error e) s := fun _ => ⟨fun _ => rfl,rfl,rfl,fun _ never => by cases never⟩
  have failed : ∀ code, Prepared returnItems s (.error (.commercetoolsError code)) s := fun _ => raised _
  have nothing : Prepared returnItems s (.ok none) s := ⟨fun _ => rfl,rfl,rfl,fun _ never => by cases never⟩
  have elsewhere : ∀ order actions version, refundable (expanded s) = false →
      Versioned.compareAndSet version s.order (applyOrderActions actions) = some order →
      Prepared returnItems s (.ok none) {s with order} := by
    intro order actions version other accepted
    refine ⟨?_,update_order_sale accepted,rfl,fun _ never => by cases never⟩
    intro payable
    rw [other] at payable
    cases payable
  unfold prepareReturn
  apply Prog.wp_bind.mpr
  refine get_order_meets ?_ failed
  intro _
  apply Prog.wp_bind.mpr
  refine get_customer_meets ?_ failed
  dsimp only
  by_cases lms : isEdxLmsOrder (expanded s) = true
  swap
  · rw [if_pos (by simp [lms])]
    exact nothing
  rw [if_neg (by simp [lms])]
  rcases or_raise_cases (getEdxLmsUserId sale) with ⟨_,_,known⟩ | ⟨e,_,unknown⟩
  · rw [known]
    simp only [Prog.monad_bind,Prog.pure_bind]
    split_ifs with payable enrollment mobile
    · refine ⟨fun _ => rfl,rfl,rfl,?_⟩
      intro k equal
      cases equal
      exact ⟨⟨rfl,rfl,rfl,rfl⟩,by simp_all [refundable]⟩
    · apply Prog.wp_bind.mpr
      refine update_order_meets ?_ failed
      exact fun order accepted => elsewhere order _ _ (by simp_all [refundable]) accepted
    · apply Prog.wp_bind.mpr
      unfold updateReturnPaymentStateForMobileOrder
      split
      · exact ⟨fun _ => rfl,rfl,rfl,fun _ never => by cases never⟩
      · refine update_order_meets ?_ failed
        exact fun order accepted => elsewhere order _ _ (by simp_all [refundable]) accepted
    · exact nothing
  · rw [unknown]
    exact raised e

theorem Settled.prepared (settled : Settled returnItems s) (prepared : Prepared returnItems s out t) :
    Settled returnItems t := by
  obtain ⟨unchanged,sale,psp,_⟩ := prepared
  cases payable : refundable (expanded s) with
  | true => rw [unchanged payable]; exact settled
  | false =>
    refine ⟨listed_sale sale settled.listed,planned_sale sale settled.planned,?_,?_⟩
    · simpa only [covered,psp] using settled.once
    · rcases settled.recorded with uncovered | ⟨never,_⟩
      · exact .inl (by simpa only [Uncovered,covered,psp] using uncovered)
      · rw [payable] at never
        cases never

theorem revoke_unchanged (sale : Sale) (returnItems : List ReturnedItem) (result : Kwargs) :
    Meets allowed (fun _ t => t = s) (revokeLineItems sale returnItems result) s := by
  unfold revokeLineItems
  split
  · exact fun _ _ => rfl
  · rename_i refund _
    rcases or_raise_cases (orderRefundedEvent sale returnItems result refund) with ⟨_,_,told⟩ | ⟨e,_,untold⟩
    · rw [told]
      exact fun _ _ => rfl
    · rw [untold]
      rfl
  · rfl

theorem task_settles (harmless : ∀ answers s r, allowed answers s r → Harmless returnItems answers s r)
    (settled : Settled returnItems s) (sale : Sale) (orderId : String) :
    Meets allowed (fun _ t => Settled returnItems t) (fulfillOrderReturnedSignalTask sale orderId returnItems) s := by
  unfold fulfillOrderReturnedSignalTask
  apply Prog.wp_bind.mpr
  apply Prog.wp_mono (prepare_prepared sale orderId)
  intro out t prepared
  have kept := settled.prepared prepared
  rcases out with e | _ | k
  · exact kept
  · exact kept
  · obtain ⟨requested,payable⟩ := prepared.2.2.2 k rfl
    rw [← refundable_sale prepared.2.1] at payable
    apply Prog.wp_bind.mpr
    apply Prog.wp_mono (pipeline_settles harmless (.requested requested payable kept))
    intro out u settled
    rcases out with e | result
    · exact settled
    · apply Prog.wp_mono (revoke_unchanged sale returnItems result)
      intro _ _ kept
      cases kept
      exact settled

end Steps

end RefundDelivery
