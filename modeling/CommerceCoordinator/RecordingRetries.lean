import CommerceCoordinator.Redelivery
import CommerceCoordinator.RefundRecording
import Mathlib.Data.List.Find

open Commercetools CallTree EdxUtils OrderReturn PaymentTransactions CommercetoolsClient RefundPipeline OrderReturned
open RefundDelivery RefundOutcome

-- A recording that failed half-way, and the task that is run again.
namespace RefundRecording

structure Returns (returnItems : List ReturnedItem) (s : Ledger) : Prop where
  listed : ∀ item ∈ returnItems, HasReturn s.order item.id item.lineItemId
  distinct : ((returnKeys s.order).map (·.1)).Nodup
  planned : 0 ≤ s.payment.amountPlanned.centAmount

structure ReturnReached (sold : Sale) (orderId : String) (returnItems : List ReturnedItem) (r : Recording) (s : Ledger) : Prop where
  order : orderId = s.order.id
  payable : refundable (expanded s) = true
  system : isLegacyOrder orderId = false
  current : r.orderId = s.order.id ∧ r.orderVersion = s.order.version
  ids : r.returnLineItemReturnIds = (returnLineItems returnItems).values
  refunds : r.refundedLineItemRefunds = (filterReturnItems s.order (returnLineItems returnItems)).2
  found : r.payment = none ∧ r.shouldTransitionState = true
  intent : (getEdxSuccessfulPaymentInfo (expanded s)).1.map (·.interfaceId) = some r.paymentIntentId
  key : s.payment.key = some (normalizedPaymentKey (r.paymentIntentId.getD ""))
  quoted : ∃ ids amount, getLineItemPriceToRefund (expanded s) s.payment ids = some amount
  known : sold.lmsUserId.isSome

section Prices
variable {order order' : Order} {payment payment' : Payment} {ids : List String}

theorem price_same (lineItems : order.lineItems = order'.lineItems) (total : order.totalPrice = order'.totalPrice)
    (planned : payment.amountPlanned = payment'.amountPlanned) (ids : List String) :
    getLineItemPriceToRefund order payment ids = getLineItemPriceToRefund order' payment' ids := by
  cases order
  cases order'
  cases payment
  cases payment'
  cases lineItems
  cases total
  cases planned
  rfl

-- What has a price leaves a price for nothing.
theorem price_of_nothing (planned : 0 ≤ payment.amountPlanned.centAmount)
    (quoted : getLineItemPriceToRefund order payment ids = some amount) : getLineItemPriceToRefund order payment [] = some 0 := by
  have defined : ∃ none, getLineItemPriceToRefund order payment [] = some none := by
    unfold getLineItemPriceToRefund at quoted ⊢
    dsimp only at quoted ⊢
    split_ifs with edge several all equal
    · exact ⟨0,quantized_zero _⟩
    · have items : order.lineItems = [] := (returned_all all).symm.trans (by simp [returnedItems])
      simp [items] at several
    · have summed : sumLineItemTotals (getEdxItems order) [] = 0 := by
        simp [sum_line_item_totals,returnedTotal,returnedItems]
      rw [summed]
      exact ⟨0,quantized_zero _⟩
    · rw [if_neg edge,if_pos several] at quoted
      have charge : ∃ units, getQuantizedAmount payment.amountPlanned.centAmount
          (payment.amountPlanned.fractionDigits.getD 2) = some units := by
        split at quoted
        · exact ⟨_,quoted⟩
        · obtain ⟨_,_,rest⟩ := Option.bind_eq_some_iff.mp quoted
          obtain ⟨units,cap,_⟩ := Option.bind_eq_some_iff.mp rest
          exact ⟨units,cap⟩
      obtain ⟨units,cap⟩ := charge
      have share : allocateByShare (getEdxItems order) [] payment.amountPlanned.centAmount order.totalPrice.centAmount = 0 := by
        rw [edx_items,allocate_rounded_sum]
        simp [returnedItems,SignificantDigits.roundedSum]
      rw [share]
      exact ⟨min 0 units,by simp [quantized_zero,cap]⟩
    · split
      · exact ⟨0,quantized_zero _⟩
      · exact ⟨0,quantized_zero _⟩
  obtain ⟨none,nothing⟩ := defined
  rw [nothing,refund_of_nothing planned nothing]

end Prices

section Reached
variable {sold : Sale} {orderId : String} {returnItems : List ReturnedItem} {r : Recording} {k : Kwargs} {f : Fetched} {s t : Ledger}
  {allowed : Bool → Ledger → Request → Prop}

structure Called (sold : Sale) (orderId : String) (returnItems : List ReturnedItem) (k : Kwargs) (s : Ledger) : Prop where
  order : orderId = s.order.id ∧ k.orderId = orderId
  payable : refundable (expanded s) = true
  requested : Requested returnItems k
  known : sold.lmsUserId.isSome

theorem prepare_called : Meets allowed (fun out t => ∀ k, out = .ok (some k) → Called sold orderId returnItems k t)
    (prepareReturn sold orderId returnItems) s := by
  have failed : ∀ (code : ErrorCode) t k, (.error (.commercetoolsError code) : Except Exn (Option Kwargs)) = .ok (some k) →
      Called sold orderId returnItems k t := fun _ _ _ never => by cases never
  have nothing : ∀ t k, (.ok none : Except Exn (Option Kwargs)) = .ok (some k) → Called sold orderId returnItems k t :=
    fun _ _ never => by cases never
  unfold prepareReturn
  apply Prog.wp_bind.mpr
  refine get_order_meets ?_ fun code => failed code s
  intro same
  apply Prog.wp_bind.mpr
  refine get_customer_meets ?_ fun code => failed code s
  dsimp only
  by_cases lms : isEdxLmsOrder (expanded s) = true
  swap
  · rw [if_pos (by simp [lms])]
    exact nothing s
  rw [if_neg (by simp [lms])]
  cases customer : sold.lmsUserId with
  | none =>
    simp only [getEdxLmsUserId,customer,orRaise,Prog.or_raise_error,Prog.monad_bind,Prog.raise_bind]
    exact fun _ never => by cases never
  | some lmsUserId =>
    simp only [getEdxLmsUserId,customer,orRaise,Prog.or_raise_ok,Prog.monad_bind,Prog.pure_bind]
    split_ifs with payable enrollment mobile
    · rintro k ⟨⟩
      exact ⟨⟨same,rfl⟩,by simp_all [refundable],⟨rfl,rfl,rfl,rfl⟩,by simp [customer]⟩
    · apply Prog.wp_bind.mpr
      exact update_order_meets (fun order _ => nothing _) fun code => failed code s
    · apply Prog.wp_bind.mpr
      unfold updateReturnPaymentStateForMobileOrder
      split
      · exact fun _ never => by cases never
      · exact update_order_meets (fun order _ => nothing _) fun code => failed code s
    · exact nothing s

structure Read (sold : Sale) (orderId : String) (returnItems : List ReturnedItem) (k : Kwargs) (f : Fetched) (s : Ledger) : Prop where
  order : orderId = s.order.id
  payable : refundable (expanded s) = true
  system : isLegacyOrder orderId = false
  lines : k.returnLineItems = returnLineItems returnItems
  fetched : k.fetched = some f
  copy : f.orderData.id = s.order.id ∧ f.orderData.version = s.order.version
  refunds : f.refundedLineItemRefunds = (filterReturnItems s.order (returnLineItems returnItems)).2
  intent : (getEdxSuccessfulPaymentInfo (expanded s)).1.map (·.interfaceId) = some f.paymentIntentId
  key : s.payment.key = some (normalizedPaymentKey (f.paymentIntentId.getD ""))
  quoted : ∃ ids amount, getLineItemPriceToRefund (expanded s) s.payment ids = some amount
  known : sold.lmsUserId.isSome

theorem Read.later {k' : Kwargs} (read : Read sold orderId returnItems k f s) (lines : k'.returnLineItems = k.returnLineItems)
    (fetched : k'.fetched = k.fetched) (order : t.order = s.order) (sale : saleOf t = saleOf s) :
    Read sold orderId returnItems k' f t := by
  have intent : (getEdxSuccessfulPaymentInfo (expanded t)).1.map (·.interfaceId) =
      (getEdxSuccessfulPaymentInfo (expanded s)).1.map (·.interfaceId) := congrArg Prod.fst (payment_info_sale sale)
  have key : t.payment.key = s.payment.key := congrArg (·.2.2.key) sale
  have planned : t.payment.amountPlanned = s.payment.amountPlanned := congrArg (·.2.2.amountPlanned) sale
  obtain ⟨ids,amount,quoted⟩ := read.quoted
  refine ⟨order ▸ read.order,refundable_sale sale ▸ read.payable,read.system,lines.trans read.lines,
    fetched.trans read.fetched,order ▸ read.copy,order ▸ read.refunds,intent.trans read.intent,key.trans read.key,⟨ids,amount,?_⟩,read.known⟩
  rw [← quoted]
  exact price_same (congrArg Order.lineItems order) (congrArg Order.totalPrice order) planned ids

def determined (k : Kwargs) : Kwargs :=
  {k with activeOrderManagementSystem :=
    if isLegacyOrder k.orderId then ecommerceOrderManagementSystem else commercetoolsOrderManagementSystem}

theorem fetch_reads (called : Called sold orderId returnItems k s) : Meets allowed (fun out t => t = s ∧
    ∀ k', out = .ok k' → k'.fetched = none ∨ ∃ f, Read sold orderId returnItems k' f s) (fetchOrderDetailsByOrderId (determined k)) s := by
  have requested := called.requested
  have unread : ∀ k', (.ok (determined k) : Except Exn Kwargs) = .ok k' → k'.fetched = none ∨
      ∃ f, Read sold orderId returnItems k' f s := by
    rintro k' ⟨⟩
    exact .inl requested.fetched
  unfold fetchOrderDetailsByOrderId
  split
  · exact ⟨rfl,unread⟩
  · rename_i active
    have system : isLegacyOrder orderId = false := by
      rw [← called.order.2]
      cases legacy : isLegacyOrder k.orderId with
      | false => rfl
      | true =>
        simp only [determined,legacy,if_true] at active
        exact absurd (by decide) active
    apply except_meets
    unfold fetchOrderDetails
    apply Prog.wp_bind.mpr
    refine get_order_meets ?_ fun _ => ⟨rfl,unread⟩
    intro _
    dsimp only
    rcases info : getEdxSuccessfulPaymentInfo (expanded s) with ⟨_ | payment,psp⟩
    · have payable := called.payable
      simp [refundable,getEdxPspPaymentId,info] at payable
    · apply Prog.wp_bind.mpr
      refine get_payment_meets ?_ fun _ => ⟨rfl,unread⟩
      intro key
      dsimp only
      rcases amount : getEdxRefundInfo s.payment (expanded s) (filterReturnItems (expanded s) (determined k).returnLineItems).1 with
        _ | ⟨refundAmount,ctTransactionInteractionId⟩
      · exact ⟨rfl,fun _ never => by cases never⟩
      · obtain ⟨units,quoted,_⟩ := Option.bind_eq_some_iff.mp amount
        refine ⟨rfl,?_⟩
        rintro k' ⟨⟩
        refine .inr ⟨_,⟨called.order.1,called.payable,system,requested.lines,rfl,⟨rfl,rfl⟩,?_,?_,key,⟨_,units,quoted⟩,called.known⟩⟩
        · rw [← requested.lines]
          rfl
        · rw [info]
          rfl

def Keeps (k : Kwargs) (s : Ledger) (out : Except Exn Kwargs) (t : Ledger) : Prop :=
  t.order = s.order ∧ saleOf t = saleOf s ∧ ∀ k', out = .ok k' → k'.returnLineItems = k.returnLineItems ∧ k'.fetched = k.fetched

theorem provider_keeps {p : Call α} (asks : p.Asks fun r => service r = .provider) :
    Meets allowed (fun _ t => t.order = s.order ∧ saleOf t = saleOf s) p s := by
  refine Prog.wp_mono (Prog.wp_within (fun (s t : Ledger) => t.order = s.order ∧ saleOf t = saleOf s) (fun _ => ⟨rfl,rfl⟩)
    (fun _ _ _ ab bc => ⟨Eq.trans bc.1 ab.1,Eq.trans bc.2 ab.2⟩) ?_ asks.within s) fun _ _ holds => holds.1
  intro answers r s provider
  refine ⟨?_,serve_sale answers r s⟩
  cases r <;> first | rfl | cases provider

theorem refund_keeps {client : Call RefundResponse} {handler : Exn → Call Kwargs}
    (asks : client.Asks fun r => service r = .provider)
    (handled : ∀ e t, t.order = s.order → saleOf t = saleOf s → Meets allowed (Keeps k s) (handler e) t) :
    Meets allowed (Keeps k s) ((client.bind fun refundResponse =>
      .pure {k with refundResponse := some refundResponse}).handle handler) s := by
  refine Prog.wp_handle.mpr (Prog.wp_bind.mpr (Prog.wp_mono (provider_keeps asks) ?_))
  intro out t same
  cases out with
  | error e => exact handled e t same.1 same.2
  | ok refundResponse =>
    refine ⟨same.1,same.2,?_⟩
    rintro k' ⟨⟩
    exact ⟨rfl,rfl⟩

theorem unchanged_keeps (lines : k'.returnLineItems = k.returnLineItems) (fetched : k'.fetched = k.fetched) :
    Keeps k s (.ok k') s := by
  refine ⟨rfl,rfl,?_⟩
  rintro k'' ⟨⟩
  exact ⟨lines,fetched⟩

theorem stripe_keeps : Meets allowed (Keeps k s) (refundPaymentIntent k) s := by
  unfold refundPaymentIntent
  split
  · exact ⟨rfl,rfl,fun _ never => by cases never⟩
  · split
    · exact unchanged_keeps rfl rfl
    split
    · exact unchanged_keeps rfl rfl
    · refine refund_keeps (stripe_asks _ _ _) ?_
      intro e t order sale
      split
      · exact ⟨order,sale,by rintro k' ⟨⟩; exact ⟨rfl,rfl⟩⟩
      · exact ⟨order,sale,fun _ never => by cases never⟩

theorem paypal_keeps : Meets allowed (Keeps k s) (refundPayPalPayment k) s := by
  unfold refundPayPalPayment
  split
  · exact ⟨rfl,rfl,fun _ never => by cases never⟩
  · split
    · exact unchanged_keeps rfl rfl
    split
    · exact unchanged_keeps rfl rfl
    · refine refund_keeps (paypal_asks _ _ _) ?_
      intro e t order sale
      split
      · exact ⟨order,sale,by rintro k' ⟨⟩; exact ⟨rfl,rfl⟩⟩
      · exact ⟨order,sale,fun _ never => by cases never⟩

theorem create_keeps : Meets allowed (Keeps k s) (createReturnPaymentTransactionStep k) s := by
  refine Prog.wp_mono create_payment_only ?_
  intro out t only
  obtain ⟨same,sale,order,_⟩ := only
  refine ⟨order,sale,?_⟩
  intro k' ended
  rw [same k' ended]
  exact ⟨rfl,rfl⟩

theorem read_step {step : Kwargs → Call Kwargs} (keeps : ∀ k s, Meets allowed (Keeps k s) (step k) s)
    {rest : Kwargs → Call Kwargs} {post : Except Exn Kwargs → Ledger → Prop} (failed : ∀ e t, post (.error e) t)
    (next : ∀ k t, k.fetched = none ∨ (∃ f, Read sold orderId returnItems k f t) → Meets allowed post (rest k) t)
    (read : k.fetched = none ∨ ∃ f, Read sold orderId returnItems k f s) : Meets allowed post ((step k).bind rest) s := by
  refine Prog.wp_bind.mpr (Prog.wp_mono (keeps k s) ?_)
  intro out t kept
  obtain ⟨order,sale,same⟩ := kept
  cases out with
  | error e => exact failed e t
  | ok k' =>
    obtain ⟨lines,fetched⟩ := same k' rfl
    refine next k' t (read.imp fetched.trans ?_)
    intro present
    obtain ⟨f,held⟩ := present
    exact ⟨f,held.later lines fetched order sale⟩

theorem pipeline_reads (called : Called sold orderId returnItems k s) : Meets allowed (fun out t => ∀ k', out = .ok k' →
    k'.fetched = none ∨ ∃ f, Read sold orderId returnItems k' f t) (runPipeline orderRefundRequested.dropLast k) s := by
  change Meets allowed _ ((fetchOrderDetailsByOrderId (determined k)).bind fun k => (refundPaymentIntent k).bind fun k =>
    (refundPayPalPayment k).bind fun k => (createReturnPaymentTransactionStep k).bind .pure) s
  refine Prog.wp_bind.mpr (Prog.wp_mono (fetch_reads called) ?_)
  intro out t both
  obtain ⟨rfl,read⟩ := both
  cases out with
  | error e => exact fun _ never => by cases never
  | ok k =>
    have failed : ∀ (e : Exn) t k', (.error e : Except Exn Kwargs) = .ok k' → k'.fetched = none ∨
        ∃ f, Read sold orderId returnItems k' f t := fun _ _ _ never => by cases never
    refine read_step (fun _ _ => stripe_keeps) failed ?_ (read k rfl)
    intro k t read
    refine read_step (fun _ _ => paypal_keeps) failed ?_ read
    intro k t read
    refine read_step (fun _ _ => create_keeps) failed ?_ read
    rintro k t read k' ⟨⟩
    exact read

theorem payment_named (payable : refundable (expanded s) = true)
    (intent : (getEdxSuccessfulPaymentInfo (expanded s)).1.map (·.interfaceId) = some paymentIntentId) :
    paymentIntentId ≠ none := by
  obtain ⟨_,paid,_⟩ := of_decide_eq_true payable
  obtain ⟨payment,found,same⟩ := Option.map_eq_some_iff.mp intent
  rw [← same]
  simpa [getEdxPspPaymentId,found] using paid

theorem read_recording (read : Read sold orderId returnItems k f s) : recordingOf k = some (returnRecording k f) := by
  have named := payment_named read.payable read.intent
  simp [recordingOf,read.fetched,named]

theorem read_reached (read : Read sold orderId returnItems k f s) :
    ReturnReached sold orderId returnItems (returnRecording k f) s := by
  refine ⟨read.order,read.payable,read.system,read.copy,?_,read.refunds,⟨rfl,rfl⟩,read.intent,read.key,read.quoted,
    read.known⟩
  change k.returnLineItems.values = _
  rw [read.lines]

theorem return_reach_meets : Meets allowed (fun out t => ∀ r rest, out = .ok (some r,rest) →
    ReturnReached sold orderId returnItems r t) (Task.reach (.orderReturned sold orderId returnItems)) s := by
  refine Prog.wp_bind.mpr (Prog.wp_mono prepare_called ?_)
  intro out t called
  cases out with
  | error e => exact fun _ _ never => by cases never
  | ok prepared =>
    cases prepared with
    | none => exact fun _ _ never => by cases never
    | some k =>
      refine Prog.wp_bind.mpr (Prog.wp_mono (pipeline_reads (called k rfl)) ?_)
      intro out u reads
      cases out with
      | error e => exact fun _ _ never => by cases never
      | ok k' =>
        intro r rest same
        obtain ⟨recording,_⟩ := Prod.mk.inj (Except.ok.inj same)
        rcases reads k' rfl with unread | ⟨f,read⟩
        · rw [recordingOf,unread] at recording
          cases recording
        · rw [read_recording read] at recording
          cases recording
          exact read_reached read

end Reached

section Again
variable {sold : Sale} {orderId : String} {returnItems : List ReturnedItem} {r : Recording} {s : Ledger}

def calledWith (orderId : String) (returnItems : List ReturnedItem) (order : Order) : Kwargs :=
  ⟨orderId,returnLineItems returnItems,returnLineEntitlementIds order (returnLineItems returnItems),none,none,none,false⟩

theorem prepare_again (reached : ReturnReached sold orderId returnItems r s) :
    Prog.exec (serve true) (prepareReturn sold orderId returnItems) s = (.ok (some (calledWith orderId returnItems (expanded s))),s) := by
  have own := reached.order
  obtain ⟨lms,paid,web⟩ := of_decide_eq_true reached.payable
  simp only [prepareReturn,getOrderById,getCustomerById,Prog.expect,Prog.perform,Prog.monad_bind,Prog.call_bind,Prog.exec_call,
    serve,if_true,own,Prog.pure_bind]
  obtain ⟨lmsUserId,customer⟩ := Option.isSome_iff_exists.mp reached.known
  rw [if_neg (not_not.mpr lms)]
  simp only [getEdxLmsUserId,customer,orRaise,Prog.or_raise_ok,Prog.pure_bind]
  rw [if_pos ⟨paid,web⟩]
  rfl

def readAgain (orderId : String) (returnItems : List ReturnedItem) (s : Ledger) (payment : Payment) : Kwargs :=
  {determined (calledWith orderId returnItems (expanded s)) with
    fetched := some (detailsOf (expanded s) (returnLineItems returnItems) payment s.payment 0
      (s.payment.transactions.foldl (fun interactionId transaction =>
        if transaction.type = .charge then transaction.interactionId else interactionId) none))}

theorem fetch_again (reached : ReturnReached sold orderId returnItems r s) (planned : 0 ≤ s.payment.amountPlanned.centAmount)
    (done : (filterReturnItems s.order (returnLineItems returnItems)).1 = [])
    (found : (getEdxSuccessfulPaymentInfo (expanded s)).1 = some payment) :
    Prog.exec (serve true) (fetchOrderDetailsByOrderId (determined (calledWith orderId returnItems (expanded s)))) s =
      (.ok (readAgain orderId returnItems s payment),s) := by
  have own : s.order.id = orderId := reached.order.symm
  have same : (determined (calledWith orderId returnItems (expanded s))).orderId = orderId := rfl
  have system : (determined (calledWith orderId returnItems (expanded s))).activeOrderManagementSystem =
      some commercetoolsOrderManagementSystem := by simp [determined,calledWith,reached.system]
  have key : s.payment.key = some (normalizedPaymentKey (payment.interfaceId.getD "")) := by
    have intent : some payment.interfaceId = some r.paymentIntentId := by
      rw [← reached.intent,found]
      rfl
    rw [Option.some.inj intent]
    exact reached.key
  have interface : getEdxSuccessfulPaymentInfo (expanded s) = (some payment,(getEdxSuccessfulPaymentInfo (expanded s)).2) :=
    Prod.ext found rfl
  have amount : getEdxRefundInfo s.payment (expanded s) (filterReturnItems (expanded s) (returnLineItems returnItems)).1 =
      some (0,s.payment.transactions.foldl (fun interactionId transaction =>
        if transaction.type = .charge then transaction.interactionId else interactionId) none) := by
    obtain ⟨ids,units,quoted⟩ := reached.quoted
    have nothing : (filterReturnItems (expanded s) (returnLineItems returnItems)).1 = [] := done
    rw [getEdxRefundInfo,nothing,price_of_nothing planned quoted]
    rfl
  have lines : (determined (calledWith orderId returnItems (expanded s))).returnLineItems = returnLineItems returnItems := rfl
  unfold fetchOrderDetailsByOrderId
  rw [if_neg (not_not.mpr system)]
  simp only [exceptCommercetoolsError,fetchOrderDetails,Prog.exec_handle,getOrderById,getPaymentByKey,Prog.expect,Prog.perform,
    Prog.monad_bind,Prog.call_bind,Prog.exec_call,serve,if_true,own,same,Prog.pure_bind,lines]
  rw [interface]
  simp only [Prog.exec_call,serve,if_true,key,Prog.pure_bind,amount]
  simp [readAgain,detailsOf,determined,calledWith]

theorem steps_skipped (k : Kwargs) (fetched : k.fetched = some f) (amount : f.amountInDollars = 0)
    (refunded : f.hasBeenRefunded = true) : refundPaymentIntent k = .pure k ∧ refundPayPalPayment k = .pure k ∧
      createReturnPaymentTransactionStep k = .pure k := by
  refine ⟨?_,?_,?_⟩
  · simp [refundPaymentIntent,fetched,amount]
  · simp [refundPayPalPayment,fetched,amount]
  · simp [createReturnPaymentTransactionStep,fetched,refunded]

theorem returns_again (reached : ReturnReached sold orderId returnItems r s) (planned : 0 ≤ s.payment.amountPlanned.centAmount)
    (done : (filterReturnItems s.order (returnLineItems returnItems)).1 = []) :
    ∃ again, Prog.exec (serve true) (Task.reach (.orderReturned sold orderId returnItems)) s = (.ok (some again,.pure ()),s) ∧
      ReturnReached sold orderId returnItems again s ∧ again.interactionId = none ∧ again.paymentState = .refunded := by
  obtain ⟨payment,found,named⟩ := Option.map_eq_some_iff.mp reached.intent
  have fetched := fetch_again reached planned done found
  obtain ⟨stripe,paypal,create⟩ := steps_skipped (readAgain orderId returnItems s payment) rfl rfl
    (by simp [detailsOf])
  have piped : Prog.exec (serve true) (runPipeline orderRefundRequested.dropLast (calledWith orderId returnItems (expanded s))) s =
      (.ok (readAgain orderId returnItems s payment),s) := by
    change Prog.exec (serve true) ((fetchOrderDetailsByOrderId (determined (calledWith orderId returnItems (expanded s)))).bind
      fun k => (refundPaymentIntent k).bind fun k => (refundPayPalPayment k).bind fun k =>
        (createReturnPaymentTransactionStep k).bind .pure) s = _
    rw [Prog.exec_bind,fetched]
    simp only [stripe,paypal,create,Prog.pure_bind,Prog.exec_pure]
  have read : Read sold orderId returnItems (readAgain orderId returnItems s payment)
      (detailsOf (expanded s) (returnLineItems returnItems) payment s.payment 0
        (s.payment.transactions.foldl (fun interactionId transaction =>
          if transaction.type = .charge then transaction.interactionId else interactionId) none)) s := by
    refine ⟨reached.order,reached.payable,reached.system,rfl,rfl,⟨rfl,rfl⟩,rfl,?_,?_,reached.quoted,
      reached.known⟩
    · rw [found]
      rfl
    · rw [detailsOf,named]
      exact reached.key
  refine ⟨returnRecording (readAgain orderId returnItems s payment) _,?_,read_reached read,rfl,rfl⟩
  simp only [Task.reach,Prog.monad_bind,Prog.exec_bind,prepare_again reached,piped]
  rw [← read_recording read]
  rfl

end Again

section Relinked
variable {sold : Sale} {orderId : String} {returnItems : List ReturnedItem} {r : Recording} {s : Ledger} {entry : String × String}

theorem line_unique (distinct : ((returnKeys order).map (·.1)).Nodup) (one : HasReturn order returnId lineItemId)
    (two : HasReturn order returnId lineItemId') : lineItemId = lineItemId' :=
  congrArg Prod.snd (List.inj_on_of_nodup_map distinct (has_return_key.mp one) (has_return_key.mp two) rfl)

theorem Returns.has (returns : Returns returnItems s) (member : entry ∈ returnLineItems returnItems) :
    HasReturn s.order entry.2 entry.1 := by
  obtain ⟨item,listed,rfl⟩ := return_line_items_entries returnItems entry member
  exact returns.listed item listed

theorem Returns.values (returns : Returns returnItems s) : (returnLineItems returnItems).values.Nodup := by
  have keys := return_line_items_distinct returnItems
  refine List.Nodup.map_on ?_ (List.Nodup.of_map _ keys)
  intro a listed b listed' same
  have here := returns.has listed
  rw [same] at here
  exact List.inj_on_of_nodup_map keys listed listed' (line_unique returns.distinct here (returns.has listed'))

theorem Returns.sale (returns : Returns returnItems s) (same : saleOf t = saleOf s) : Returns returnItems t := by
  have keys : returnKeys t.order = returnKeys s.order := congrArg (·.2.1) same
  exact ⟨listed_sale same returns.listed,keys ▸ returns.distinct,planned_sale same returns.planned⟩

theorem Returns.own (returns : Returns returnItems s) (member : entry ∈ returnLineItems returnItems)
    (among : item ∈ Rollout.getOrderReturnInfoReturnItems s.order) (line : item.lineItemId = entry.1) :
    item.id ∈ (returnLineItems returnItems).values ↔ item.id = entry.2 := by
  refine ⟨?_,fun same => same ▸ List.mem_map_of_mem member⟩
  intro listed
  obtain ⟨other,present,same⟩ := List.mem_map.mp listed
  have here : HasReturn s.order item.id entry.1 := ⟨item,among,rfl,line⟩
  have there := returns.has present
  rw [same] at there
  have equal : other = entry := List.inj_on_of_nodup_map (return_line_items_distinct returnItems) present member
    (line_unique returns.distinct there here)
  rw [← same,equal]

theorem recorded_refunded (returns : Returns returnItems s) (reached : ReturnReached sold orderId returnItems r s)
    (refunded : r.paymentState = .refunded) : (filterReturnItems (r.order s) (returnLineItems returnItems)).1 = [] := by
  rw [filtered_line_items,List.filter_eq_nil_iff]
  intro lineItemId key
  obtain ⟨entry,member,rfl⟩ := List.mem_map.mp key
  obtain ⟨item,among,id,line⟩ := returns.has member
  have listed : item.id ∈ r.returnLineItemReturnIds := by
    rw [reached.ids,id]
    exact List.mem_map_of_mem member
  have marked : Refunded (r.order s) entry.1 := by
    refine ⟨r.written (r.transactionId s) item,?_,line,?_⟩
    · rw [order_items]
      exact List.mem_map.mpr ⟨item,among,if_pos listed⟩
    · simp [Recording.written,reached.found.2,refunded]
  simpa using marked

def claims (entry : String × String) (item : ReturnItem) : Bool :=
  item.lineItemId = entry.1 ∧ (item.id = entry.2 ∨ item.paymentState = .refunded)

def Traced (order : Order) (entry : String × String) : Prop :=
  ∀ item ∈ (Rollout.getOrderReturnInfoReturnItems order).find? (claims entry),
    item.id = entry.2 ∨ item.transactionId.getD "" ≠ ""

instance : Decidable (Traced order entry) := inferInstanceAs (Decidable (∀ _ ∈ _, _))

def isRefunded (lineItemId : String) (item : ReturnItem) : Bool :=
  item.lineItemId = lineItemId ∧ item.paymentState = .refunded

theorem refunded_with (order : Order) (lineItemId : String) : refundedWith order lineItemId =
    (((Rollout.getOrderReturnInfoReturnItems order).find? (isRefunded lineItemId)).bind (·.transactionId)).filter (· ≠ "") := by
  unfold refundedWith Rollout.isCommercetoolsLineItemAlreadyRefunded
  simp only [ite_self]
  rfl

theorem refunded_with_named (found : refundedWith order lineItemId = some transactionId) : transactionId ≠ "" := by
  have kept := (Option.filter_eq_some_iff.mp found).2
  simpa using kept

section First
variable {item : ReturnItem}

theorem first_claims (returns : Returns returnItems s) (member : entry ∈ returnLineItems returnItems) :
    ∃ item, (Rollout.getOrderReturnInfoReturnItems s.order).find? (claims entry) = some item := by
  obtain ⟨item,among,id,line⟩ := returns.has member
  have claimed : claims entry item = true := by simp [claims,id,line]
  exact Option.isSome_iff_exists.mp (List.find?_isSome.mpr ⟨item,among,claimed⟩)

theorem first_recorded (returns : Returns returnItems s) (reached : ReturnReached sold orderId returnItems r s)
    (refunded : r.paymentState = .refunded) (member : entry ∈ returnLineItems returnItems)
    (first : (Rollout.getOrderReturnInfoReturnItems s.order).find? (claims entry) = some item) :
    (Rollout.getOrderReturnInfoReturnItems (r.order s)).find? (isRefunded entry.1) =
      some (if item.id = entry.2 then r.written (r.transactionId s) item else item) := by
  have transition : r.shouldTransitionState = true := reached.found.2
  have same : ∀ item ∈ Rollout.getOrderReturnInfoReturnItems s.order, (isRefunded entry.1 ∘ fun item =>
      if item.id ∈ r.returnLineItemReturnIds then r.written (r.transactionId s) item else item) item = claims entry item := by
    intro item among
    rw [Function.comp_apply]
    by_cases line : item.lineItemId = entry.1
    · have own := returns.own member among line
      rw [← reached.ids] at own
      by_cases listed : item.id = entry.2
      · rw [if_pos (own.mpr listed)]
        simp [isRefunded,claims,Recording.written,line,listed,transition,refunded]
      · rw [if_neg (mt own.mp listed)]
        simp [isRefunded,claims,line,listed]
    · split <;> simp [isRefunded,claims,Recording.written,line]
  have claimed := List.find?_some first
  have among := List.mem_of_find?_eq_some first
  simp only [claims,decide_eq_true_eq] at claimed
  have own := returns.own member among claimed.1
  rw [← reached.ids] at own
  rw [order_items,List.find?_map,List.find?_congr same,first,Option.map_some]
  simp only [own]

theorem first_before (first : (Rollout.getOrderReturnInfoReturnItems s.order).find? (claims entry) = some item)
    (other : item.id ≠ entry.2) : (Rollout.getOrderReturnInfoReturnItems s.order).find? (isRefunded entry.1) = some item := by
  obtain ⟨claimed,before,after,split,unclaimed⟩ := List.find?_eq_some_iff_append.mp first
  refine List.find?_eq_some_iff_append.mpr ⟨?_,before,after,split,?_⟩
  · simpa [isRefunded,claims,other] using claimed
  · intro earlier among
    have missed := unclaimed earlier among
    simp only [isRefunded,claims,Bool.not_eq_true',decide_eq_false_iff_not] at missed ⊢
    exact fun both => missed ⟨both.1,.inr both.2⟩

theorem found_again (returns : Returns returnItems s) (reached : ReturnReached sold orderId returnItems r s)
    (refunded : r.paymentState = .refunded) (named : r.transactionId s ≠ "") (member : entry ∈ returnLineItems returnItems) :
    refundedWith (r.order s) entry.1 = if Traced s.order entry then
      some ((refundedWith s.order entry.1).getD (r.transactionId s)) else none := by
  obtain ⟨item,first⟩ := first_claims returns member
  have recorded := first_recorded returns reached refunded member first
  have traced : Traced s.order entry ↔ item.id = entry.2 ∨ item.transactionId.getD "" ≠ "" := by simp [Traced,first]
  rw [refunded_with (r.order s),recorded]
  by_cases own : item.id = entry.2
  · have refunds : r.refundedLineItemRefunds.get item.id = refundedWith s.order entry.1 := by
      rw [reached.refunds,own]
      exact filtered_refunds_get returns.values member
    rw [if_pos (traced.mpr (.inl own)),if_pos own,Option.bind_some]
    simp only [Recording.written,refunds]
    refine Option.filter_eq_some_iff.mpr ⟨rfl,?_⟩
    cases earlier : refundedWith s.order entry.1 with
    | none => simpa using named
    | some transactionId => simpa using refunded_with_named earlier
  · have before := first_before first own
    have earlier := refunded_with s.order entry.1
    rw [before,Option.bind_some] at earlier
    rw [if_neg own,Option.bind_some,← earlier]
    by_cases unnamed : item.transactionId.getD "" = ""
    · rw [if_neg (by rw [traced]; simp [own,unnamed]),earlier]
      cases transaction : item.transactionId with
      | none => rfl
      | some transactionId => simpa [transaction,Option.filter] using unnamed
    · rw [if_pos (traced.mpr (.inr unnamed)),earlier]
      cases transaction : item.transactionId with
      | none => simp [transaction] at unnamed
      | some transactionId =>
        rw [transaction] at unnamed
        simp [Option.filter,show transactionId ≠ "" from unnamed]

theorem untraced (returns : Returns returnItems s) (member : entry ∈ returnLineItems returnItems)
    (missing : ¬ Traced s.order entry) : refundedWith s.order entry.1 = none := by
  obtain ⟨item,first⟩ := first_claims returns member
  simp only [Traced,first,Option.mem_def,Option.some.injEq,forall_eq',not_or,not_not] at missing
  rw [refunded_with,first_before first missing.1,Option.bind_some]
  cases transaction : item.transactionId with
  | none => rfl
  | some transactionId => simpa [transaction,Option.filter] using missing.2

end First

variable {again : Recording}

theorem states_again_iff (returns : Returns returnItems s) (reached : ReturnReached sold orderId returnItems r s)
    (refunded : r.paymentState = .refunded) (named : r.transactionId s ≠ "")
    (next : ReturnReached sold orderId returnItems again {s with order := r.order s}) (state : again.paymentState = .refunded) :
    states (again.order {s with order := r.order s}) = states (r.order s) ↔
      again.transactionId s = r.transactionId s ∨ ∀ entry ∈ returnLineItems returnItems, Traced s.order entry := by
  have transition : again.shouldTransitionState = true := next.found.2
  have before : r.shouldTransitionState = true := reached.found.2
  have refunds : ∀ entry ∈ returnLineItems returnItems, r.refundedLineItemRefunds.get entry.2 =
      refundedWith s.order entry.1 := by
    intro entry member
    rw [reached.refunds]
    exact filtered_refunds_get returns.values member
  have later : ∀ entry ∈ returnLineItems returnItems, again.refundedLineItemRefunds.get entry.2 =
      if Traced s.order entry then some ((refundedWith s.order entry.1).getD (r.transactionId s)) else none := by
    intro entry member
    rw [next.refunds,filtered_refunds_get returns.values member]
    exact found_again returns reached refunded named member
  have transaction : again.transactionId {s with order := r.order s} = again.transactionId s := rfl
  have one : ∀ entry ∈ returnLineItems returnItems, ((again.refundedLineItemRefunds.get entry.2).getD (again.transactionId s) =
      (r.refundedLineItemRefunds.get entry.2).getD (r.transactionId s) ↔
        again.transactionId s = r.transactionId s ∨ Traced s.order entry) := by
    intro entry member
    rw [later entry member,refunds entry member]
    by_cases traced : Traced s.order entry
    · simp [traced]
    · simp [traced,untraced returns member traced]
  have items : states (again.order {s with order := r.order s}) = states (r.order s) ↔
      ∀ entry ∈ returnLineItems returnItems, (again.refundedLineItemRefunds.get entry.2).getD (again.transactionId s) =
        (r.refundedLineItemRefunds.get entry.2).getD (r.transactionId s) := by
    rw [states_order again,order_items r,List.map_map,states_order r,List.map_inj_left,transaction]
    have both : again.returnLineItemReturnIds = r.returnLineItemReturnIds := next.ids.trans reached.ids.symm
    constructor
    · intro same entry member
      obtain ⟨item,among,id,_⟩ := returns.has member
      have listed : entry.2 ∈ r.returnLineItemReturnIds := by
        rw [reached.ids]
        exact List.mem_map_of_mem member
      have equal := congrArg (·.2.2) (same item among)
      simpa [id,listed,both,Recording.written] using equal
    · intro same item among
      by_cases listed : item.id ∈ r.returnLineItemReturnIds
      · obtain ⟨entry,member,id⟩ := List.mem_map.mp (reached.ids ▸ listed)
        have equal := same entry member
        rw [id] at equal
        simp [listed,both,Recording.written,transition,before,refunded,state,equal]
      · simp [listed,both]
  rw [items]
  refine ⟨?_,fun converges entry member => (one entry member).mpr (converges.imp_right fun all => all entry member)⟩
  intro same
  by_cases found : again.transactionId s = r.transactionId s
  · exact .inl found
  · exact .inr fun entry member => ((one entry member).mp (same entry member)).resolve_left found

end Relinked

section Retried
variable {sold : Sale} {orderId : String} {returnItems : List ReturnedItem} {r : Recording} {s : Ledger}

theorem return_ready (returns : Returns returnItems s) (reached : ReturnReached sold orderId returnItems r s) : Ready r s := by
  refine ⟨reached.current,.inr ⟨reached.found.1,reached.key⟩,?_⟩
  intro returnId listed
  rw [reached.ids] at listed
  obtain ⟨lineItemId,has⟩ := return_id_listed returns.listed listed
  exact List.mem_map_of_mem (has_return_key.mp has)

theorem recorded_sale (ready : Ready r s) : saleOf {s with order := r.order s} = saleOf s := update_order_sale ready.applied

theorem ReturnReached.recorded (reached : ReturnReached sold orderId returnItems r s) (ready : Ready r s) :
    ReturnReached sold orderId returnItems {r with
      orderVersion := (r.order s).version
      refundedLineItemRefunds := (filterReturnItems (r.order s) (returnLineItems returnItems)).2} {s with order := r.order s} := by
  have sale := recorded_sale ready
  have intent : (getEdxSuccessfulPaymentInfo (expanded {s with order := r.order s})).1.map (·.interfaceId) =
      (getEdxSuccessfulPaymentInfo (expanded s)).1.map (·.interfaceId) := congrArg Prod.fst (payment_info_sale sale)
  obtain ⟨ids,amount,quoted⟩ := reached.quoted
  exact ⟨reached.order,refundable_sale sale ▸ reached.payable,reached.system,⟨reached.current.1,rfl⟩,reached.ids,rfl,
    reached.found,intent.trans reached.intent,reached.key,⟨ids,amount,quoted⟩,reached.known⟩

-- When the message delivered again leaves what it would have left without the failure.
def ReturnConverges (returnItems : List ReturnedItem) (r : Recording) (s : Ledger) : Prop :=
  refundTransactionId s.payment none = r.transactionId s ∨
    Linked (refundTransactionId s.payment none) r.text s.payment ∧ Linked (r.transactionId s) r.text s.payment ∧
      ∀ entry ∈ returnLineItems returnItems, Traced s.order entry

theorem return_converges_iff (returns : Returns returnItems s) (reached : ReturnReached sold orderId returnItems r s)
    (refunded : r.paymentState = .refunded) (named : r.transactionId s ≠ "") :
    recordOf (Prog.exec (serve true) (Task.program (.orderReturned sold orderId returnItems)) {s with order := r.order s}).2 =
      (states (r.order s),links (linkPayment (r.transactionId s) r.text s.payment)) ↔ ReturnConverges returnItems r s := by
  have ready := return_ready returns reached
  have done := recorded_refunded returns reached refunded
  obtain ⟨again,ran,next,unnamed,state⟩ := returns_again (reached.recorded ready) returns.planned done
  have later := return_ready (returns.sale (recorded_sale ready)) next
  have same : again.text = r.text := by rw [Recording.text,Recording.text,next.ids,reached.ids]
  have transaction : again.transactionId s = refundTransactionId s.payment none := by rw [Recording.transactionId,unnamed]
  have ended : recordOf (Prog.exec (serve true) (Task.program (.orderReturned sold orderId returnItems)) {s with order := r.order s}).2 =
      (states (again.order {s with order := r.order s}),links (linkPayment (again.transactionId s) r.text s.payment)) := by
    rw [task_reaches,Prog.exec_bind,ran,← same]
    simp only [finish,Prog.exec_bind,record_answered later]
    rfl
  rw [ended,Prod.mk.injEq,states_again_iff returns reached refunded named next state,links_agree_iff,transaction,ReturnConverges]
  tauto

end Retried

def Task.Announced : Task → Ledger → Prop
  | .refundFromMobile _ _,_ => True
  | .orderReturned _ _ returnItems,s => Returns returnItems s

-- Nothing was written, or the task run again makes up for it.
def AllOrRepeatable (task : Task) (failure : Failure) (r : Recording) (s : Ledger) : Prop :=
  let after := (Prog.exec (failing (some failure)) (record r) s).2
  (after.order = s.order ∧ after.payment = s.payment) ∨
    recordOf (Prog.exec (serve true) task.program after).2 = recordOf (Prog.exec (serve true) (record r) s).2

def Converges : Task → Recording → Ledger → Prop
  | .refundFromMobile _ _ => MobileConverges
  | .orderReturned _ _ returnItems => ReturnConverges returnItems

theorem reached_converges_iff {task : Task} (announced : task.Announced s₀)
    (reached : Prog.replay serve (fun _ _ _ => true) task.reach choices s₀ = some (.ok (some r,rest),s))
    (refunded : r.paymentState = .refunded) : Ready r s ∧ (r.transactionId s ≠ "" →
      (recordOf (Prog.exec (serve true) task.program {s with order := r.order s}).2 =
        (states (r.order s),links (linkPayment (r.transactionId s) r.text s.payment)) ↔ Converges task r s)) := by
  cases task with
  | refundFromMobile paymentInterface refund =>
    have mobile := Prog.wp_replay mobile_reach_meets reached r rest rfl
    exact ⟨mobile_ready mobile,mobile_converges_iff mobile⟩
  | orderReturned sold orderId returnItems =>
    have returned := Prog.wp_replay return_reach_meets reached r rest rfl
    have sale : saleOf s = saleOf s₀ := Prog.wp_replay (Prog.wp_along (fun a b => saleOf b = saleOf a) (fun _ => rfl)
      (fun _ _ _ ab bc => bc.trans ab) (fun answers r s => serve_sale answers r s) _ s₀) reached
    have returns : Returns returnItems s := Returns.sale announced sale
    exact ⟨return_ready returns returned,return_converges_iff returns returned refunded⟩

theorem recording_repeatable_iff {task : Task} {failure : Failure} (announced : task.Announced s₀)
    (reached : Prog.replay serve (fun _ _ _ => true) task.reach choices s₀ = some (.ok (some r,rest),s))
    (refunded : r.paymentState = .refunded)
    (failed : isError (Prog.exec (failing (some failure)) (record r) s).1 = true) :
    AllOrRepeatable task failure r s ↔ failure = .orderUpdate ∨ Converges task r s := by
  obtain ⟨ready,converges⟩ := reached_converges_iff announced reached refunded
  have runs := record_runs ready (some failure)
  cases failure with
  | orderUpdate =>
    rw [if_pos rfl] at runs
    refine iff_of_true (.inl ?_) (.inl rfl)
    rw [runs]
    exact ⟨rfl,rfl⟩
  | paymentUpdate =>
    rw [if_neg (by decide)] at runs
    by_cases named : r.transactionId s = ""
    · rw [if_neg (by simp [named])] at runs
      rw [runs] at failed
      cases failed
    · rw [if_pos ⟨rfl,named⟩] at runs
      have written : (r.order s).version ≠ s.order.version := Nat.succ_ne_self _
      rw [AllOrRepeatable,runs,record_answered ready]
      refine (or_iff_right fun same => written (congrArg Order.version same.1)).trans ?_
      exact (converges named).trans (or_iff_right (by decide)).symm

instance (task : Task) (failure : Failure) : Decidable (AllOrRepeatable task failure r s) := by
  unfold AllOrRepeatable
  infer_instance

def refundedCourse : Ledger :=
  let payment : Payment := ⟨"payment",1,some "token",some "token",⟨4900,"USD",some 2⟩,
    some edxAndroidIapPaymentInterfaceName,some paymentStatusInterfaceCodeSucceeded,
    [⟨"charge",0,.charge,⟨4900,"USD",some 2⟩,some "token",.success,none⟩]⟩
  ⟨⟨"order",1,"customer",true,[⟨"course",1,⟨4900,"USD",some 2⟩,[],none⟩],⟨4900,"USD",some 2⟩,
    [[⟨"return","course",.refunded,none,none⟩]],[payment]⟩,payment,⟨"token",4900,"usd",[]⟩⟩

def storeRefund : Task := .refundFromMobile edxAndroidIapPaymentInterfaceName ⟨"token",0,"USD",1,"succeeded",none,none⟩

def reachedBy (test : Recording → Ledger → Bool) : Except Exn (Option Recording × Call Unit) × Ledger → Bool
  | (.ok (some r,_),s) => test r s
  | _ => false

theorem reached_by (ran : result.any (reachedBy test) = true) : ∃ r rest s, result = some (.ok (some r,rest),s) ∧ test r s = true := by
  obtain ⟨⟨out,s⟩,same,tested⟩ := (Option.any_eq_true _ _).mp ran
  unfold reachedBy at tested
  split at tested
  · rename_i r rest t equal
    exact ⟨r,rest,t,same.trans (congrArg some equal),tested⟩
  · cases tested

-- The order names the transaction, so that the task does not find the return
-- again; the transaction never names the return.
theorem link_never_made : ∃ r rest s,
    Prog.replay serve (fun _ _ _ => true) storeRefund.reach (List.replicate 4 true) refundedCourse = some (.ok (some r,rest),s) ∧
      isError (Prog.exec (failing (some .paymentUpdate)) (record r) s).1 = true ∧
      ¬ AllOrRepeatable storeRefund .paymentUpdate r s := by
  have ran : (Prog.replay serve (fun _ _ _ => true) storeRefund.reach (List.replicate 4 true) refundedCourse).any
      (reachedBy fun r s => isError (Prog.exec (failing (some .paymentUpdate)) (record r) s).1 &&
        !decide (AllOrRepeatable storeRefund .paymentUpdate r s)) = true := by decide +kernel
  obtain ⟨r,rest,s,reached,tested⟩ := reached_by ran
  obtain ⟨failed,lost⟩ := Bool.and_eq_true_iff.mp tested
  exact ⟨r,rest,s,reached,failed,by simpa using lost⟩

theorem returns_second : (Task.orderReturned Redelivery.bothSold "order" Redelivery.returnedSecond).Announced Redelivery.soldLedger :=
  ⟨Redelivery.announced_second.listed,by decide,by decide⟩

theorem link_made_later : ∃ r s,
    isError (Prog.exec (failing (some .paymentUpdate)) (record r) s).1 = true ∧
      AllOrRepeatable (.orderReturned Redelivery.bothSold "order" Redelivery.returnedSecond) .paymentUpdate r s := by
  have ran : (Prog.replay serve (fun _ _ _ => true) (Task.reach (.orderReturned Redelivery.bothSold "order" Redelivery.returnedSecond))
      (List.replicate 6 true) Redelivery.soldLedger).any (reachedBy fun r s => decide (r.paymentState = .refunded) &&
        (isError (Prog.exec (failing (some .paymentUpdate)) (record r) s).1 &&
          decide (refundTransactionId s.payment none = r.transactionId s))) = true := by decide +kernel
  obtain ⟨r,rest,s,reached,tested⟩ := reached_by ran
  obtain ⟨refunded,tested⟩ := Bool.and_eq_true_iff.mp tested
  obtain ⟨failed,same⟩ := Bool.and_eq_true_iff.mp tested
  exact ⟨r,s,failed,(recording_repeatable_iff returns_second reached (of_decide_eq_true refunded) failed).mpr
    (.inr (.inl (of_decide_eq_true same)))⟩

end RefundRecording
