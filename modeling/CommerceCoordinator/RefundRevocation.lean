import CommerceCoordinator.OrderReturned
import CommerceCoordinator.RefundOutcome

open Commercetools CallTree PaymentTransactions OrderReturn CommercetoolsClient RefundPipeline RefundOutcome OrderReturned

-- The two effects of a return: the money, by the last step of the pipeline, and
-- the access, by the task after it.
namespace RefundRevocation

def Revokes (t : List (Exchange Request Response)) (returnItemId : String) : Prop :=
  ∃ returnItemIds, (⟨.sendRevokeLineItems returnItemIds,()⟩ : Exchange Request Response) ∈ t ∧ returnItemId ∈ returnItemIds

def pspFailed : Exchange Request Response → Bool
  | ⟨.stripeRefundCreate _ _ _,.error error⟩ => error ≠ .chargeAlreadyRefunded
  | ⟨.refundCapturedPayment _ _ _ _,.error _⟩ => true
  | _ => false

def RefundIsDue (order : Order) (returnItems : List ReturnedItem) (answers : List (Exchange Request Response)) : Prop :=
  ∃ paymentKey ctPayment refundAmount interactionId,
    answers.head? = some ⟨.getPaymentByKey .fetchOrderDetails paymentKey,.ok ctPayment⟩ ∧
    getEdxRefundInfo ctPayment order (filterReturnItems order (returnLineItems returnItems)).1 =
      some (refundAmount,interactionId) ∧
    refundAmount ≠ 0 ∧
    ((getEdxSuccessfulPaymentInfo order).2 = some edxPaypalPaymentInterfaceName → interactionId.getD "" ≠ "")

section Psp
variable {fetched : Fetched} {t : List (Exchange Request Response)} {outcome : Except Exn RefundResponse}

theorem stripe_failed {paymentIntentId : String} {amount : ℚ} {covers : List String}
    (ran : (refundPaymentIntentAtStripe paymentIntentId amount covers).Answered t outcome) :
    (∃ x ∈ t, pspFailed x = true) ↔ reportsError outcome = true := by
  obtain ⟨x,rest,rfl,ran⟩ := ran
  cases x with
  | ok refund =>
    obtain ⟨rfl,rfl⟩ := ran
    split <;> simp [pspFailed,reportsError]
  | error failure =>
    cases failure with
    | chargeAlreadyRefunded =>
      obtain ⟨refunds,rest,rfl,ran⟩ := ran
      cases refunds with
      | nil =>
        obtain ⟨rfl,rfl⟩ := ran
        simp [pspFailed,reportsError]
      | cons latest others =>
        obtain ⟨rfl,rfl⟩ := ran
        split <;> simp [pspFailed,reportsError]
    | invalidRequest =>
      obtain ⟨rfl,rfl⟩ := ran
      simp [pspFailed,reportsError]
    | other message =>
      obtain ⟨rfl,rfl⟩ := ran
      simp [pspFailed,reportsError]

theorem paypal_failed {captureId : String} {amount : ℚ} {covers : List String}
    (ran : (refundOrder captureId amount covers).Answered t outcome) (recorded : Recorded outcome) :
    (∃ x ∈ t, pspFailed x = true) ↔ reportsError outcome = true := by
  obtain ⟨x,rest,rfl,ran⟩ := ran
  cases x with
  | ok body =>
    cases body with
    | none =>
      obtain ⟨rfl,rfl⟩ := ran
      simp [pspFailed,reportsError]
    | some refund =>
      obtain ⟨rfl,rfl⟩ := ran
      simp [pspFailed,reportsError]
  | error failure =>
    obtain ⟨rfl,rfl⟩ := ran
    obtain ⟨_,never⟩ | never | handled := recorded
    · cases never
    · cases never
    · simp [pspFailed,handled]

theorem consult_failed_iff (consulted : (consult fetched).Answered t outcome) (recorded : Recorded outcome) :
    (∃ x ∈ t, pspFailed x = true) ↔ reportsError outcome = true := by
  unfold consult at consulted
  split at consulted
  · obtain ⟨rfl,rfl⟩ := consulted
    simp [reportsError]
  · split at consulted
    · exact stripe_failed consulted
    · exact paypal_failed consulted recorded

end Psp

section Task
variable {sold : Sale} {orderId : String} {returnItems : List ReturnedItem} {order : Order} {k result : Kwargs} {fetched : Fetched}
  {t rest : List (Exchange Request Response)}

theorem pipeline_called (path : getEdxPspPaymentId order ≠ none ∧ order.mobileOrder = false) (continued : rest ≠ [])
    (ran : (fulfillOrderReturnedSignalTask sold orderId returnItems).Answered
      (⟨.getOrderById orderId,.ok order⟩::⟨.getCustomerById order.customerId,.ok ()⟩::rest) (.ok ())) :
    ∃ result first later, rest = first++later ∧
      (runPipeline orderRefundRequested ⟨orderId,returnLineItems returnItems,
        returnLineEntitlementIds order (returnLineItems returnItems),none,none,none,false⟩).Answered first (.ok result) ∧
      (revokeLineItems sold returnItems result).Answered later (.ok ()) := by
  obtain ⟨x,_,same,ran⟩ := ran
  cases same
  obtain ⟨x,_,same,ran⟩ := ran
  cases same
  by_cases edx : isEdxLmsOrder order = true
  · rcases or_raise_cases (getEdxLmsUserId sold) with ⟨_,_,known⟩ | ⟨e,_,unknown⟩
    swap
    · simp only [Prog.pure_bind,edx,not_true_eq_false,if_false,unknown,Prog.monad_bind,Prog.raise_bind] at ran
      cases ran.2
    simp only [Prog.pure_bind,edx,not_true_eq_false,if_false,known,Prog.monad_bind] at ran
    simp only [path,ne_eq,not_false_eq_true,and_self,if_true] at ran
    change ((runPipeline orderRefundRequested _).bind (revokeLineItems sold returnItems)).Answered rest (.ok ()) at ran
    rcases Prog.answered_bind.mp ran with ⟨_,_,never⟩ | ⟨result,first,later,same,done,revoked⟩
    · cases never
    · exact ⟨result,first,later,same,done,revoked⟩
  · simp only [Prog.pure_bind,edx] at ran
    exact absurd ran.1 continued

theorem pipeline_read (ran : (runPipeline orderRefundRequested k).Answered t (.ok result)) :
    ∃ k' fetched first later, t = first++later ∧ k'.fetched = some fetched ∧
      (runPipeline readingSteps k).Answered first (.ok k') ∧
      (runPipeline (orderRefundRequested.drop 2) k').Answered later (.ok result) := by
  change (runPipeline (readingSteps++orderRefundRequested.drop 2) k).Answered t (.ok result) at ran
  rw [run_pipeline_append] at ran
  rcases Prog.answered_bind.mp ran with ⟨_,_,never⟩ | ⟨k',first,later,same,read,ran⟩
  · cases never
  · cases fetch : k'.fetched with
    | some fetched => exact ⟨k',fetched,first,later,same,fetch,read,ran⟩
    | none =>
      change ((refundPaymentIntent k').bind _).Answered later (.ok result) at ran
      rw [refund_unfetched fetch] at ran
      cases ran.2

def Refunding (result : Kwargs) : Prop :=
  result.refundResponse = some .chargeAlreadyRefunded ∨ ∃ refund, result.refundResponse = some (.refund refund)

-- The event may fail before the signal is sent.
theorem revoke_answered {out : Except Exn Unit} (ran : (revokeLineItems sold returnItems result).Answered t out) :
    (t = [] ∧ (out = .ok () → ¬ Refunding result)) ∨
      (t = [⟨.sendRevokeLineItems (returnItems.map (·.id)),()⟩] ∧ Refunding result) := by
  unfold revokeLineItems at ran
  split at ran
  · rename_i already
    obtain ⟨x,_,rfl,rfl,_⟩ := ran
    exact .inr ⟨rfl,.inl already⟩
  · rename_i refund response
    rcases or_raise_cases (orderRefundedEvent sold returnItems result refund) with ⟨_,_,told⟩ | ⟨e,_,untold⟩
    · rw [told] at ran
      obtain ⟨x,_,rfl,rfl,_⟩ := ran
      exact .inr ⟨rfl,.inr ⟨refund,response⟩⟩
    · rw [untold] at ran
      obtain ⟨rfl,rfl⟩ := ran
      exact .inl ⟨rfl,fun never => by cases never⟩
  · rename_i other unrefunded
    refine .inl ⟨ran.1,fun _ refunding => ?_⟩
    rcases refunding with already | ⟨refund,response⟩
    · exact other already
    · exact unrefunded refund response

end Task

def Agree (t : List (Exchange Request Response)) (returnItems : List ReturnedItem) : Prop :=
  ∀ item ∈ returnItems, (Sets t item.id .refunded ↔ Revokes t item.id)

section Effects
variable {sold : Sale} {returnItems : List ReturnedItem} {k result : Kwargs} {fetched : Fetched} {payment : Payment}
  {t middle later : List (Exchange Request Response)}

theorem service_revokes (only : ∀ x ∈ t, service x.1 ≠ .learner) : ¬ Revokes t returnItemId := by
  intro revokes
  obtain ⟨ids,member,_⟩ := revokes
  exact only _ member rfl

theorem revokes_append (only : ∀ x ∈ t, service x.1 ≠ .learner) :
    Revokes (t++later) returnItemId ↔ Revokes later returnItemId := by
  constructor
  · intro revokes
    obtain ⟨ids,member,listed⟩ := revokes
    rcases List.mem_append.mp member with earlier | following
    · exact absurd rfl (only _ earlier)
    · exact ⟨ids,following,listed⟩
  · intro revokes
    obtain ⟨ids,member,listed⟩ := revokes
    exact ⟨ids,List.mem_append_right _ member,listed⟩

theorem agree_append (quiet : ∀ x ∈ t, service x.1 ≠ .learner ∧ updatesOrder x.1 = false) :
    Agree (t++later) returnItems ↔ Agree later returnItems := by
  apply forall₂_congr
  intro item _
  rw [sets_append,revokes_append fun x member => (quiet x member).1]
  exact iff_congr (or_iff_right (not_set fun x member => (quiet x member).2)) .rfl

theorem revokes_iff (quiet : ∀ x ∈ t, service x.1 ≠ .learner)
    (revoked : (revokeLineItems sold returnItems result).Answered later (.ok ())) :
    Revokes (t++later) returnItemId ↔ returnItemId ∈ returnItems.map (·.id) ∧ Refunding result := by
  rw [revokes_append quiet]
  rcases revoke_answered revoked with ⟨rfl,unrefunded⟩ | ⟨rfl,refunding⟩
  · simp [Revokes,unrefunded rfl]
  · simp [Revokes,refunding]

theorem later_unset {out : Except Exn Unit} (revoked : (revokeLineItems sold returnItems result).Answered later out) :
    Sets (t++later) returnItemId paymentState ↔ Sets t returnItemId paymentState := by
  rw [sets_append]
  rcases revoke_answered revoked with ⟨rfl,_⟩ | ⟨rfl,_⟩
  · exact or_iff_left (not_set (by simp))
  · exact or_iff_left (not_set (by simp [updatesOrder]))

theorem agree_iff {money access : Prop} (values : List String)
    (sets : ∀ returnItemId, Sets t returnItemId .refunded ↔ returnItemId ∈ values ∧ money)
    (revokes : ∀ returnItemId, Revokes t returnItemId ↔ returnItemId ∈ returnItems.map (·.id) ∧ access) :
    Agree t returnItems ↔ ∀ item ∈ returnItems, (item.id ∈ values ∧ money ↔ access) := by
  apply forall₂_congr
  intro item member
  rw [sets,revokes,and_iff_right (List.mem_map_of_mem member)]

theorem refunding_iff {outcome : Except Exn RefundResponse} (fresh : k.refundResponse = none) (recorded : Recorded outcome)
    (same : carried k outcome = .ok result) : Refunding result ↔ reportsError outcome = false := by
  obtain ⟨refund,rfl⟩ | rfl | handled := recorded
  · cases same
    exact ⟨fun _ => rfl,fun _ => .inr ⟨refund,rfl⟩⟩
  · cases same
    exact ⟨fun _ => rfl,fun _ => .inl rfl⟩
  · have kept : result.refundResponse = none := by
      cases outcome with
      | ok refundResponse => cases handled
      | error error => cases error <;> cases same <;> exact fresh
    simp [Refunding,kept,handled]

theorem psp_failed_service {x : Exchange Request Response} (failed : pspFailed x = true) : service x.1 = .provider := by
  obtain ⟨r,answer⟩ := x
  cases r <;> first | rfl | cases failed

theorem psp_failed_append (other : ∀ x ∈ later, service x.1 ≠ .provider) :
    (∃ x ∈ t++later, pspFailed x = true) ↔ ∃ x ∈ t, pspFailed x = true := by
  constructor
  · intro both
    obtain ⟨x,member,failed⟩ := both
    rcases List.mem_append.mp member with earlier | following
    · exact ⟨x,earlier,failed⟩
    · exact absurd (psp_failed_service failed) (other x following)
  · intro both
    obtain ⟨x,member,failed⟩ := both
    exact ⟨x,List.mem_append_left _ member,failed⟩

theorem revoke_service {out : Except Exn Unit} (revoked : (revokeLineItems sold returnItems result).Answered later out) :
    ∀ x ∈ later, service x.1 ≠ .provider := by
  rcases revoke_answered revoked with ⟨rfl,_⟩ | ⟨rfl,_⟩
  · simp
  · simp [service]

-- The provider is asked: both effects follow from its answer, and only a return
-- that another one has replaced can be left out.
theorem reached_agree (fetch : k.fetched = some fetched) (fresh : k.refundResponse = none) (noError : k.pspRefundError = false)
    (active : k.activeOrderManagementSystem = some commercetoolsOrderManagementSystem)
    (found : fetched.paymentData = some payment) (reached : Reached fetched)
    (items : k.returnLineItems = returnLineItems returnItems)
    (ran : (runPipeline (orderRefundRequested.drop 2) k).Answered middle (.ok result))
    (revoked : (revokeLineItems sold returnItems result).Answered later (.ok ())) :
    Agree (middle++later) returnItems ↔ (∃ x ∈ middle++later, pspFailed x = true) ∨
      ∀ item ∈ returnItems, item.id ∈ (returnLineItems returnItems).values := by
  obtain ⟨outcome,asked,recording,rfl,consulted,quiet,⟨_,never,_⟩ | ⟨recorded,same,sets⟩⟩ :=
    refund_answered fetch reached fresh noError active found ran
  · cases never
  · have provider := (consult_asks fetched).answered consulted
    have unrevoked : ∀ x ∈ asked++recording, service x.1 ≠ .learner := by
      intro x member
      rcases List.mem_append.mp member with earlier | following
      · rw [provider x earlier]; decide
      · rw [quiet x following]; decide
    have failed : (∃ x ∈ asked++recording++later, pspFailed x = true) ↔ reportsError outcome = true := by
      rw [psp_failed_append (revoke_service revoked),
        psp_failed_append fun x member => by rw [quiet x member]; decide]
      exact consult_failed_iff consulted recorded
    rw [failed,agree_iff k.returnLineItems.values (fun returnItemId => (later_unset revoked).trans (sets returnItemId .refunded))
      (fun _ => revokes_iff unrevoked revoked),refunding_iff fresh recorded same.symm,← items]
    cases reportsError outcome <;> simp

theorem unreached_agree (fetch : k.fetched = some fetched) (fresh : k.refundResponse = none) (noError : k.pspRefundError = false)
    (active : k.activeOrderManagementSystem = some commercetoolsOrderManagementSystem)
    (found : fetched.paymentData = some payment) (paid : fetched.psp ≠ none) (unreached : ¬ Reached fetched)
    (items : k.returnLineItems = returnLineItems returnItems)
    (ran : (runPipeline (orderRefundRequested.drop 2) k).Answered middle (.ok result))
    (revoked : (revokeLineItems sold returnItems result).Answered later (.ok ())) :
    (Agree (middle++later) returnItems ↔ returnItems = []) ∧ ¬ ∃ x ∈ middle++later, pspFailed x = true := by
  change (runPipeline (refundSteps++recordingSteps) k).Answered middle (.ok result) at ran
  rw [run_pipeline_append,refund_steps_skipped fetch unreached,Prog.pure_bind] at ran
  have quiet := (recording_asks k).answered ran
  obtain ⟨_,never,_⟩ | ⟨_,same,sets⟩ := recording_steps_answered fetch active found paid ran
  · cases never
  · cases same
    have unrefunded : ¬ Refunding k := by simp [Refunding,fresh]
    have unasked : ¬ ∃ x ∈ middle++later, pspFailed x = true := by
      rw [psp_failed_append (revoke_service revoked)]
      intro both
      obtain ⟨x,member,failed⟩ := both
      cases (psp_failed_service failed).symm.trans (quiet x member)
    refine ⟨?_,unasked⟩
    rw [agree_iff k.returnLineItems.values (fun returnItemId => (later_unset revoked).trans (sets returnItemId .refunded))
      (fun _ => revokes_iff (fun x member => by rw [quiet x member]; decide) revoked),returnedState,noError,items]
    constructor
    · intro agree
      by_contra nonempty
      obtain ⟨item,member,listed⟩ := some_return_listed nonempty
      exact unrefunded ((agree item member).mp ⟨listed,rfl⟩)
    · intro empty
      simp [empty]

end Effects

section Agreement
variable {sold : Sale} {orderId : String} {returnItems : List ReturnedItem} {order paidOrder : Order}
  {rest : List (Exchange Request Response)}

theorem payment_interface_id {payment : Payment} (found : (getEdxSuccessfulPaymentInfo order).1 = some payment) :
    payment.interfaceId.getD "" ≠ "" := by
  unfold getEdxSuccessfulPaymentInfo at found
  split at found
  · rename_i payment' accepted
    cases found
    have holds := List.find?_some accepted
    exact (of_decide_eq_true holds).2
  · cases found

theorem refund_due_iff {payment ctPayment : Payment} {refundAmount : ℚ} {interactionId : Option String} {paymentKey : String}
    {later : List (Exchange Request Response)}
    (paid : (getEdxSuccessfulPaymentInfo order).2 = some edxStripePaymentInterfaceName ∨
      (getEdxSuccessfulPaymentInfo order).2 = some edxPaypalPaymentInterfaceName)
    (found : (getEdxSuccessfulPaymentInfo order).1 = some payment)
    (info : getEdxRefundInfo ctPayment order (filterReturnItems order (returnLineItems returnItems)).1 =
      some (refundAmount,interactionId)) :
    RefundIsDue order returnItems (⟨.getPaymentByKey .fetchOrderDetails paymentKey,.ok ctPayment⟩::later) ↔
      Reached (detailsOf order (returnLineItems returnItems) payment ctPayment refundAmount interactionId) := by
  have intent := payment_interface_id found
  constructor
  · intro due
    obtain ⟨_,_,_,_,first,info',amount,capture⟩ := due
    cases first
    cases info.symm.trans info'
    refine ⟨amount,?_⟩
    rcases paid with stripe | paypal
    · exact .inl ⟨stripe,intent⟩
    · exact .inr ⟨paypal,capture paypal⟩
  · intro reached
    obtain ⟨amount,⟨stripe,_⟩ | ⟨paypal,capture⟩⟩ := reached
    · refine ⟨_,_,_,_,rfl,info,amount,fun paypal => ?_⟩
      exact absurd (stripe.symm.trans paypal) (by decide)
    · exact ⟨_,_,_,_,rfl,info,amount,fun _ => capture⟩

-- A completed run of the task on an order it sends through the pipeline: what it
-- reads first is the order, the customer and the order again.
theorem money_and_access_iff (path : getEdxPspPaymentId order ≠ none ∧ order.mobileOrder = false)
    (paid : (getEdxSuccessfulPaymentInfo paidOrder).2 = some edxStripePaymentInterfaceName ∨
      (getEdxSuccessfulPaymentInfo paidOrder).2 = some edxPaypalPaymentInterfaceName)
    (ran : (fulfillOrderReturnedSignalTask sold orderId returnItems).Answered
      (⟨.getOrderById orderId,.ok order⟩::⟨.getCustomerById order.customerId,.ok ()⟩::
        ⟨.getOrderById orderId,.ok paidOrder⟩::rest) (.ok ())) :
    Agree (⟨.getOrderById orderId,.ok order⟩::⟨.getCustomerById order.customerId,.ok ()⟩::
        ⟨.getOrderById orderId,.ok paidOrder⟩::rest) returnItems ↔
      returnItems = [] ∨ (∃ x ∈ rest, pspFailed x = true) ∨
        RefundIsDue paidOrder returnItems rest ∧ ∀ item ∈ returnItems, item.id ∈ (returnLineItems returnItems).values := by
  obtain ⟨result,piped,revoked,split,called,revoke⟩ := pipeline_called path (by simp) ran
  obtain ⟨k,fetched,reads,middle,rfl,fetch,read,refunded⟩ := pipeline_read called
  obtain ⟨order',others,rfl,psp,rfl,complete⟩ := reading_steps_answered rfl read fetch
  simp only [List.cons_append,List.cons.injEq] at split
  obtain ⟨first,rfl⟩ := split
  cases first
  have some_psp : fetched.psp ≠ none := by
    rw [psp]
    rcases paid with stripe | paypal
    · simp [stripe]
    · simp [paypal]
  obtain ⟨payment,ctPayment,refundAmount,interactionId,rfl,found,info,rfl⟩ := complete fun unpaid => some_psp unpaid.1
  have frame := @agree_append returnItems [⟨.getOrderById orderId,.ok order⟩,⟨.getCustomerById order.customerId,.ok ()⟩,
    ⟨.getOrderById orderId,.ok paidOrder⟩,⟨.getPaymentByKey .fetchOrderDetails (payment.interfaceId.getD ""),.ok ctPayment⟩]
    (middle++revoked) (by simp [service,updatesOrder])
  have failed : (∃ x ∈ (⟨.getPaymentByKey .fetchOrderDetails (payment.interfaceId.getD ""),.ok ctPayment⟩ :
      Exchange Request Response)::(middle++revoked), pspFailed x = true) ↔ ∃ x ∈ middle++revoked, pspFailed x = true := by
    simp [pspFailed]
  refine frame.trans ?_
  change _ ↔ _ ∨ (∃ x ∈ (⟨.getPaymentByKey .fetchOrderDetails (payment.interfaceId.getD ""),.ok ctPayment⟩ :
    Exchange Request Response)::(middle++revoked), pspFailed x = true) ∨ RefundIsDue paidOrder returnItems
      (⟨.getPaymentByKey .fetchOrderDetails (payment.interfaceId.getD ""),.ok ctPayment⟩::(middle++revoked)) ∧ _
  rw [failed,refund_due_iff paid found info]
  by_cases reached : Reached (detailsOf paidOrder (returnLineItems returnItems) payment ctPayment refundAmount interactionId)
  · rw [reached_agree fetch rfl rfl rfl rfl reached rfl refunded revoke,and_iff_right reached]
    refine (or_iff_right_of_imp fun empty => .inr ?_).symm
    simp [empty]
  · obtain ⟨agree,unasked⟩ := unreached_agree fetch rfl rfl rfl rfl some_psp reached rfl refunded revoke
    rw [agree]
    simp only [unasked,reached,false_and,or_false]

end Agreement

section Returns

def soldAndReturned : Order := returnedOrder edxStripePaymentInterfaceName

def refundedRun : List (Exchange Request Response) :=
  [⟨.getPaymentByKey .fetchOrderDetails "pi_1",.ok (paidWith edxStripePaymentInterfaceName)⟩]++askedStripe "succeeded"++
    recording edxStripePaymentInterfaceName (issued "succeeded")++[⟨.sendRevokeLineItems ["return"],()⟩]

theorem refunded_and_revoked :
    Agree (⟨.getOrderById "order",.ok soldAndReturned⟩::⟨.getCustomerById "customer",.ok ()⟩::
      ⟨.getOrderById "order",.ok soldAndReturned⟩::refundedRun) [⟨"return","line-item"⟩] := by
  have ran : (fulfillOrderReturnedSignalTask (courseSale ["line-item"]) "order" [⟨"return","line-item"⟩]).Answered
      (⟨.getOrderById "order",.ok soldAndReturned⟩::⟨.getCustomerById "customer",.ok ()⟩::
        ⟨.getOrderById "order",.ok soldAndReturned⟩::refundedRun) (.ok ()) := Prog.follow_answered (by decide +kernel)
  apply (money_and_access_iff (by decide +kernel) (by decide +kernel) ran).mpr
  refine .inr (.inr ⟨⟨_,_,49,some "ch_1",rfl,by decide +kernel,by decide,by decide +kernel⟩,by decide⟩)

def bundleWithFree : Order :=
  {soldAndReturned with
    lineItems := [⟨"course",1,⟨4900,"USD",some 2⟩,[],none⟩,⟨"free",1,⟨0,"USD",some 2⟩,[],none⟩]
    returnInfo := [[⟨"return","free",.initial,none,none⟩]]}

def freeReturnRun : List (Exchange Request Response) :=
  [⟨.getOrderById "order",.ok bundleWithFree⟩,⟨.getCustomerById "customer",.ok ()⟩,⟨.getOrderById "order",.ok bundleWithFree⟩,
    ⟨.getPaymentByKey .fetchOrderDetails "pi_1",.ok (paidWith edxStripePaymentInterfaceName)⟩,
    ⟨.getPaymentByKey .updateReturnPaymentState "pi_1",.ok (paidWith edxStripePaymentInterfaceName)⟩,
    ⟨.updateOrderById "order" 3 [.setReturnPaymentState "return" .refunded,.setReturnItemCustomType "return" "" none],
      .ok bundleWithFree⟩]

theorem free_return_keeps_access :
    (fulfillOrderReturnedSignalTask (courseSale ["course","free"]) "order" [⟨"return","free"⟩]).Answered freeReturnRun (.ok ()) ∧
    Sets freeReturnRun "return" .refunded ∧ ¬ Revokes freeReturnRun "return" ∧
    ¬ Agree freeReturnRun [⟨"return","free"⟩] := by
  have refunded : Sets freeReturnRun "return" .refunded :=
    ⟨_,_,_,_,List.getLast_mem (List.cons_ne_nil _ _),List.mem_cons_self⟩
  have kept : ¬ Revokes freeReturnRun "return" := service_revokes (by decide +kernel)
  exact ⟨Prog.follow_answered (by decide +kernel),refunded,kept,
    fun agree => kept ((agree _ (List.mem_singleton.mpr rfl)).mp refunded)⟩

end Returns
end RefundRevocation
