import CommerceCoordinator.RefundPipeline

open Commercetools CallTree PaymentTransactions OrderReturn CommercetoolsClient RefundPipeline

-- What the provider's client hands to the refund step, and what the steps after
-- it make of that.
namespace RefundOutcome

def Reached (fetched : Fetched) : Prop :=
  fetched.amountInDollars ≠ 0 ∧
    ((fetched.psp = some edxStripePaymentInterfaceName ∧ fetched.paymentIntentId.getD "" ≠ "") ∨
      (fetched.psp = some edxPaypalPaymentInterfaceName ∧ fetched.ctTransactionInteractionId.getD "" ≠ ""))

instance : DecidablePred Reached := fun _ => inferInstanceAs (Decidable (_ ∧ _))

def consult (fetched : Fetched) : Call RefundResponse :=
  if fetched.hasBeenRefunded then .pure .chargeAlreadyRefunded
  else if fetched.psp = some edxStripePaymentInterfaceName then
    refundPaymentIntentAtStripe (fetched.paymentIntentId.getD "") fetched.amountInDollars fetched.filteredLineItemIds
  else refundOrder (fetched.ctTransactionInteractionId.getD "") fetched.amountInDollars fetched.filteredLineItemIds

def carried (k : Kwargs) : Except Exn RefundResponse → Except Exn Kwargs
  | .ok refundResponse => .ok {k with refundResponse := some refundResponse}
  | .error .stripeError => .ok {k with pspRefundError := true}
  | .error (.paypalError message) => .ok {k with pspRefundError := message ≠ ""}
  | .error error => .error error

theorem run_pipeline_append (first rest : List PipelineStep) (k : Kwargs) :
    runPipeline (first++rest) k = (runPipeline first k).bind (runPipeline rest) := by
  induction first generalizing k with
  | nil => rfl
  | cons step first ih =>
    calc runPipeline (step::first++rest) k
        = (runFilter step k).bind fun k' => (runPipeline first k').bind (runPipeline rest) :=
          congrArg (runFilter step k).bind (funext ih)
      _ = (runPipeline (step::first) k).bind (runPipeline rest) := (Prog.bind_assoc _ _ _).symm

section Providers
variable {t : List (Exchange Request Response)} {amount : ℚ} {covers : List String}

theorem stripe_raises {paymentIntentId : String} {error : Exn}
    (ran : (refundPaymentIntentAtStripe paymentIntentId amount covers).Answered t (.error error)) :
    error = .stripeError ∨ error = .indexError := by
  obtain ⟨x,rest,rfl,ran⟩ := ran
  cases x with
  | ok refund => cases ran.2
  | error failure =>
    cases failure with
    | chargeAlreadyRefunded =>
      obtain ⟨refunds,rest,rfl,ran⟩ := ran
      cases refunds with
      | nil => exact .inr (Except.error.inj ran.2)
      | cons latest others => cases ran.2
    | invalidRequest => exact .inl (Except.error.inj ran.2)
    | other message => exact .inl (Except.error.inj ran.2)

theorem paypal_raises {captureId : String} {error : Exn} (ran : (refundOrder captureId amount covers).Answered t (.error error)) :
    ∃ message, error = .paypalError message := by
  obtain ⟨x,rest,rfl,ran⟩ := ran
  cases x with
  | ok body => cases body <;> cases ran.2
  | error failure => exact ⟨failure.message,Except.error.inj ran.2⟩

end Providers

section Steps
variable {k : Kwargs} {fetched : Fetched} {t : List (Exchange Request Response)} {out : Except Exn Kwargs}

-- One step that puts what it is handed into the output, and the exceptions it
-- handles into the error.
theorem step_answered {client : Call RefundResponse} {handler : Exn → Call Kwargs}
    (ran : ((client.bind fun refundResponse => .pure {k with refundResponse := some refundResponse}).handle handler).Answered
      t out)
    (handled : ∀ error first, client.Answered first (.error error) → ∀ later, (handler error).Answered later out →
      later = [] ∧ out = carried k (.error error)) :
    ∃ outcome, client.Answered t outcome ∧ out = carried k outcome := by
  rcases Prog.answered_handle.mp ran with ⟨k',done,rfl⟩ | ⟨error,first,later,rfl,failed,ran⟩
  · obtain ⟨_,_,never⟩ | ⟨refundResponse,first,later,rfl,answered,rfl,same⟩ := Prog.answered_bind.mp done
    · cases never
    · exact ⟨.ok refundResponse,by rwa [List.append_nil],same⟩
  · obtain ⟨_,raised,same⟩ | ⟨_,_,_,_,_,_,never⟩ := Prog.answered_bind.mp failed
    · cases same
      obtain ⟨rfl,same⟩ := handled error first raised later ran
      exact ⟨.error error,by rwa [List.append_nil],same⟩
    · cases never

theorem stripe_step_answered (fetch : k.fetched = some fetched) (amount : fetched.amountInDollars ≠ 0)
    (psp : fetched.psp = some edxStripePaymentInterfaceName) (intent : fetched.paymentIntentId.getD "" ≠ "")
    (ran : (refundPaymentIntent k).Answered t out) :
    ∃ outcome, (consult fetched).Answered t outcome ∧ out = carried k outcome := by
  cases k
  cases fetch
  simp only [refundPaymentIntent,psp,intent,amount,ne_eq,not_false_eq_true,and_self,not_true_eq_false,if_false] at ran
  simp only [consult,psp,if_true]
  split at ran
  · rename_i refunded
    rw [if_pos refunded]
    exact ⟨_,⟨ran.1,rfl⟩,ran.2⟩
  · rename_i pending
    rw [if_neg pending]
    apply step_answered ran
    intro error first raised later handled
    rcases stripe_raises raised with rfl | rfl
    · exact handled
    · exact handled

theorem paypal_step_answered (fetch : k.fetched = some fetched) (amount : fetched.amountInDollars ≠ 0)
    (psp : fetched.psp = some edxPaypalPaymentInterfaceName) (capture : fetched.ctTransactionInteractionId.getD "" ≠ "")
    (ran : (refundPayPalPayment k).Answered t out) :
    ∃ outcome, (consult fetched).Answered t outcome ∧ out = carried k outcome := by
  have other : fetched.psp ≠ some edxStripePaymentInterfaceName := by rw [psp]; decide
  cases k
  cases fetch
  simp only [refundPayPalPayment,psp,capture,amount,ne_eq,not_false_eq_true,and_self,not_true_eq_false,if_false] at ran
  simp only [consult,if_neg other]
  split at ran
  · rename_i refunded
    rw [if_pos refunded]
    exact ⟨_,⟨ran.1,rfl⟩,ran.2⟩
  · rename_i pending
    rw [if_neg pending]
    apply step_answered ran
    intro error first raised later handled
    obtain ⟨message,rfl⟩ := paypal_raises raised
    exact handled

theorem stripe_step_skipped (fetch : k.fetched = some fetched) (psp : fetched.psp ≠ some edxStripePaymentInterfaceName) :
    refundPaymentIntent k = .pure k := by
  simp only [refundPaymentIntent,fetch,psp,false_and,not_false_eq_true,if_true]

theorem paypal_step_skipped (fetch : k.fetched = some fetched) (psp : fetched.psp ≠ some edxPaypalPaymentInterfaceName) :
    refundPayPalPayment k = .pure k := by
  simp only [refundPayPalPayment,fetch,psp,false_and,not_false_eq_true,if_true]

theorem carried_fetched {k' : Kwargs} {outcome : Except Exn RefundResponse} (same : carried k outcome = .ok k') :
    k'.fetched = k.fetched := by
  cases outcome with
  | ok refundResponse => cases same; rfl
  | error error =>
    cases error <;> first | (cases same; rfl) | cases same

def refundSteps : List PipelineStep := [.refundPaymentIntent,.refundPayPalPayment]

theorem refund_steps_answered (fetch : k.fetched = some fetched) (reached : Reached fetched)
    (ran : (runPipeline refundSteps k).Answered t out) :
    ∃ outcome, (consult fetched).Answered t outcome ∧ out = carried k outcome := by
  obtain ⟨amount,⟨psp,intent⟩ | ⟨psp,capture⟩⟩ := reached
  · have other : fetched.psp ≠ some edxPaypalPaymentInterfaceName := by rw [psp]; decide
    rcases Prog.answered_bind.mp ran with ⟨error,failed,rfl⟩ | ⟨k',first,later,rfl,done,ran⟩
    · exact stripe_step_answered fetch amount psp intent failed
    · obtain ⟨outcome,consulted,same⟩ := stripe_step_answered fetch amount psp intent done
      change ((refundPayPalPayment k').bind .pure).Answered later out at ran
      rw [Prog.bind_pure,paypal_step_skipped ((carried_fetched same.symm).trans fetch) other] at ran
      obtain ⟨rfl,rfl⟩ := ran
      exact ⟨outcome,by rwa [List.append_nil],same⟩
  · have other : fetched.psp ≠ some edxStripePaymentInterfaceName := by rw [psp]; decide
    change ((refundPaymentIntent k).bind fun k => (refundPayPalPayment k).bind .pure).Answered t out at ran
    rw [stripe_step_skipped fetch other,Prog.pure_bind,Prog.bind_pure] at ran
    exact paypal_step_answered fetch amount psp capture ran

theorem refund_unfetched (unread : k.fetched = none) : refundPaymentIntent k = .raise .typeError := by
  rw [refundPaymentIntent,unread]

theorem refund_steps_skipped (fetch : k.fetched = some fetched) (unreached : ¬ Reached fetched) :
    runPipeline refundSteps k = .pure k := by
  have stripe : refundPaymentIntent k = .pure k := by
    rw [refundPaymentIntent,fetch]
    exact if_pos fun guard => unreached ⟨guard.2.2,.inl ⟨guard.1,guard.2.1⟩⟩
  have paypal : refundPayPalPayment k = .pure k := by
    rw [refundPayPalPayment,fetch]
    exact if_pos fun guard => unreached ⟨guard.2.1,.inr ⟨guard.1,guard.2.2⟩⟩
  change (refundPaymentIntent k).bind (fun k => (refundPayPalPayment k).bind .pure) = .pure k
  rw [stripe,Prog.pure_bind,paypal]
  rfl

end Steps

inductive Service where
  | commercetools | provider | learner
  deriving DecidableEq

def service : Request → Service
  | .stripeRefundCreate _ _ _ => .provider
  | .stripeRefundList _ => .provider
  | .refundCapturedPayment _ _ _ _ => .provider
  | .sendRevokeLineItems _ => .learner
  | .sendRevokeLineMobileOrder _ => .learner
  | _ => .commercetools

section Recording
variable {k : Kwargs} {fetched : Fetched} {t : List (Exchange Request Response)} {out : Except Exn Kwargs}

def Sets (t : List (Exchange Request Response)) (returnItemId : String) (paymentState : ReturnPaymentState) : Prop :=
  ∃ id version actions order, (⟨.updateOrderById id version actions,.ok order⟩ : Exchange Request Response) ∈ t ∧
    .setReturnPaymentState returnItemId paymentState ∈ actions

def updatesOrder : Request → Bool
  | .updateOrderById _ _ _ => true
  | _ => false

theorem sets_append {first later : List (Exchange Request Response)} {returnItemId : String} {paymentState : ReturnPaymentState} :
    Sets (first++later) returnItemId paymentState ↔
      Sets first returnItemId paymentState ∨ Sets later returnItemId paymentState := by
  constructor
  · intro sets
    obtain ⟨id,version,actions,order,member,listed⟩ := sets
    rcases List.mem_append.mp member with earlier | following
    · exact .inl ⟨id,version,actions,order,earlier,listed⟩
    · exact .inr ⟨id,version,actions,order,following,listed⟩
  · intro sets
    obtain ⟨id,version,actions,order,member,listed⟩ | ⟨id,version,actions,order,member,listed⟩ := sets
    · exact ⟨id,version,actions,order,List.mem_append_left _ member,listed⟩
    · exact ⟨id,version,actions,order,List.mem_append_right _ member,listed⟩

theorem not_set {returnItemId : String} {paymentState : ReturnPaymentState}
    (only : ∀ x ∈ t, updatesOrder x.1 = false) : ¬ Sets t returnItemId paymentState := by
  intro sets
  obtain ⟨id,version,actions,order,member,_⟩ := sets
  cases only _ member

theorem return_actions {returnItemIds : List String} {state paymentState : ReturnPaymentState}
    {refunds entitlements : Dict String} {transactionId returnItemId : String} :
    .setReturnPaymentState returnItemId paymentState ∈ refundedStateActions returnItemIds state ++
        transactionIdActions returnItemIds refunds entitlements transactionId ↔
      returnItemId ∈ returnItemIds ∧ paymentState = state := by
  simp only [refundedStateActions,transactionIdActions,List.mem_append,List.mem_map]
  constructor
  · intro listed
    obtain ⟨id,member,same⟩ | ⟨id,member,never⟩ := listed
    · cases same
      exact ⟨member,rfl⟩
    · cases never
  · intro both
    obtain ⟨member,rfl⟩ := both
    exact .inl ⟨returnItemId,member,rfl⟩

def returnedState (k : Kwargs) : ReturnPaymentState := if k.pspRefundError then .notRefunded else .refunded

theorem set_return_item_id_answered {payment : Payment} {transactionId : String} {returnItemIds : List String}
    {out : Except Exn Unit} (ran : (setTransactionReturnItemId payment transactionId returnItemIds).Answered t out) :
    (∀ x ∈ t, updatesOrder x.1 = false) ∧ (out = .ok () ∨
      (∃ code, out = .error (.commercetoolsError code)) ∧ ∃ x ∈ t, commercetoolsFailed x = true) := by
  unfold setTransactionReturnItemId at ran
  split at ran
  · obtain ⟨rfl,rfl⟩ := ran
    exact ⟨by simp,.inl rfl⟩
  · obtain ⟨x,rest,rfl,ran⟩ := ran
    cases x with
    | ok updated =>
      obtain ⟨rfl,rfl⟩ := ran
      exact ⟨by simp [updatesOrder],.inl rfl⟩
    | error code =>
      obtain ⟨rfl,rfl⟩ := ran
      exact ⟨by simp [updatesOrder],.inr ⟨⟨code,rfl⟩,_,List.mem_singleton.mpr rfl,rfl⟩⟩

theorem sets_updated {orderId : String} {orderVersion : Nat} {returnItemIds : List String}
    {refunds entitlements : Dict String} {transactionId returnItemId : String} {state paymentState : ReturnPaymentState}
    {order : Order} {x : Exchange Request Response} (lookup : updatesOrder x.1 = false) (only : ∀ x ∈ t, updatesOrder x.1 = false) :
    Sets (x::⟨.updateOrderById orderId orderVersion (refundedStateActions returnItemIds state ++
        transactionIdActions returnItemIds refunds entitlements transactionId),.ok order⟩::t) returnItemId paymentState ↔
      returnItemId ∈ returnItemIds ∧ paymentState = state := by
  constructor
  · intro sets
    obtain ⟨id,version,actions,order,member,listed⟩ := sets
    rcases List.mem_cons.mp member with rfl | member
    · cases lookup
    · rcases List.mem_cons.mp member with same | member
      · cases same
        exact return_actions.mp listed
      · cases only _ member
  · intro listed
    exact ⟨_,_,_,_,List.mem_cons_of_mem _ List.mem_cons_self,return_actions.mpr listed⟩

-- The update of the returns ends with an exception over a failed call, or has
-- set every one of them.
theorem return_update_answered {orderId : String} {orderVersion : Nat} {returnItemIds : List String}
    {entitlements refunds : Dict String} {paymentIntentId interactionId : Option String} {state : ReturnPaymentState}
    {out : Except Exn Order}
    (ran : (updateReturnPaymentStateAfterSuccessfulRefund orderId orderVersion returnItemIds entitlements refunds
      paymentIntentId interactionId state none true).Answered t out) :
    (out = .error .openEdxFilterException ∧ ∃ x ∈ t, commercetoolsFailed x = true) ∨
      (∃ order, out = .ok order) ∧ ∀ returnItemId paymentState, Sets t returnItemId paymentState ↔
        returnItemId ∈ returnItemIds ∧ paymentState = state := by
  obtain ⟨x,rest,rfl,ran⟩ := ran
  cases x with
  | error code =>
    obtain ⟨rfl,rfl⟩ := ran
    exact .inl ⟨rfl,_,List.mem_cons_self,rfl⟩
  | ok payment =>
    obtain ⟨x,rest,rfl,ran⟩ := ran
    cases x with
    | error code =>
      obtain ⟨rfl,rfl⟩ := ran
      exact .inl ⟨rfl,_,List.mem_cons_of_mem _ List.mem_cons_self,rfl⟩
    | ok order =>
      change (((setTransactionReturnItemId payment (refundTransactionId payment interactionId) returnItemIds).bind
        fun _ => Prog.pure order).handle _).Answered rest out at ran
      rcases Prog.answered_handle.mp ran with ⟨order,done,rfl⟩ | ⟨error,first,later,rfl,failed,ran⟩
      · obtain ⟨_,_,never⟩ | ⟨_,first,later,rfl,linked,rfl,same⟩ := Prog.answered_bind.mp done
        · cases never
        · rw [List.append_nil]
          exact .inr ⟨⟨order,rfl⟩,fun returnItemId paymentState => sets_updated rfl (set_return_item_id_answered linked).1⟩
      · obtain ⟨_,linked,same⟩ | ⟨_,_,_,_,_,_,never⟩ := Prog.answered_bind.mp failed
        · cases same
          obtain ⟨_,never | ⟨⟨code,same⟩,x,member,failure⟩⟩ := set_return_item_id_answered linked
          · cases never
          · cases same
            obtain ⟨rfl,rfl⟩ := ran
            exact .inl ⟨rfl,x,by simp [member],failure⟩
        · cases never

theorem update_step_answered (fetch : k.fetched = some fetched) (paid : fetched.psp ≠ none)
    (ran : (updateCommercetoolsOrderReturnPaymentStatus k).Answered t out) :
    (out = .error .openEdxFilterException ∧ ∃ x ∈ t, commercetoolsFailed x = true) ∨
      out = .ok k ∧ ∀ returnItemId paymentState, Sets t returnItemId paymentState ↔
        returnItemId ∈ k.returnLineItems.values ∧ paymentState = returnedState k := by
  simp only [updateCommercetoolsOrderReturnPaymentStatus,fetch,paid,and_false,if_false] at ran
  rcases Prog.answered_bind.mp ran with ⟨error,failed,rfl⟩ | ⟨order,first,later,rfl,done,rfl,rfl⟩
  · rcases return_update_answered failed with ⟨same,failure⟩ | ⟨⟨_,never⟩,_⟩
    · exact .inl ⟨by cases same; rfl,failure⟩
    · cases never
  · rcases return_update_answered done with ⟨never,_⟩ | ⟨_,sets⟩
    · cases never
    · rw [List.append_nil]
      exact .inr ⟨rfl,sets⟩

-- CreateReturnPaymentTransaction has something to do it with, or a reason to
-- leave it.
def Recordable (k : Kwargs) (fetched : Fetched) : Prop :=
  k.refundResponse = some .chargeAlreadyRefunded ∨ fetched.hasBeenRefunded = true ∨ k.pspRefundError = true ∨
    ∃ refund, k.refundResponse = some (.refund refund)

-- What follows a failed recording: the message may raise another error.
def unrecorded (k : Kwargs) : Option Exn → Call Kwargs
  | some error => .raise error
  | none => .pure k

theorem create_step_answered {payment : Payment} (fetch : k.fetched = some fetched)
    (active : k.activeOrderManagementSystem = some commercetoolsOrderManagementSystem)
    (found : fetched.paymentData = some payment) (ran : (createReturnPaymentTransactionStep k).Answered t out) :
    (∀ x ∈ t, updatesOrder x.1 = false) ∧ ((out = .ok k ∧ Recordable k fetched) ∨
      ∃ e, out = .error e ∧ (¬ Recordable k fetched ∨ ∃ x ∈ t, commercetoolsFailed x = true)) := by
  simp only [createReturnPaymentTransactionStep,fetch,active,found,ne_eq,not_true_eq_false,if_false,reduceCtorEq,
    false_and] at ran
  split at ran
  · rename_i already
    obtain ⟨rfl,rfl⟩ := ran
    exact ⟨by simp,.inl ⟨rfl,already.elim .inl fun refunded => .inr (.inl refunded)⟩⟩
  · rename_i fresh
    split at ran
    · rename_i failed
      obtain ⟨rfl,rfl⟩ := ran
      exact ⟨by simp,.inl ⟨rfl,.inr (.inr (.inl failed))⟩⟩
    · rename_i accepted
      split at ran
      · rename_i refund response
        obtain ⟨x,rest,rfl,ran⟩ := ran
        cases x with
        | ok updated =>
          obtain ⟨rfl,rfl⟩ := ran
          exact ⟨by simp [updatesOrder],.inl ⟨rfl,.inr (.inr (.inr ⟨refund,response⟩))⟩⟩
        | error code =>
          have failure : ∃ x ∈ ((⟨.updatePaymentById payment.id payment.version [.addTransaction (refundTransactionDraft
              refund (fetched.psp.getD ""))],.error code⟩ : Exchange Request Response)::rest),
              commercetoolsFailed x = true := ⟨_,List.mem_cons_self,rfl⟩
          change (unrecorded k (messageError fetched.psp refund)).Answered rest out at ran
          unfold unrecorded at ran
          split at ran
          · obtain ⟨rfl,rfl⟩ := ran
            exact ⟨by simp [updatesOrder],.inr ⟨_,rfl,.inr failure⟩⟩
          · obtain ⟨rfl,rfl⟩ := ran
            exact ⟨by simp [updatesOrder],.inl ⟨rfl,.inr (.inr (.inr ⟨refund,response⟩))⟩⟩
      · rename_i other
        obtain ⟨rfl,rfl⟩ := ran
        refine ⟨by simp,.inr ⟨_,rfl,.inl ?_⟩⟩
        intro recordable
        obtain already | refunded | failed | ⟨refund,response⟩ := recordable
        · exact fresh (.inl already)
        · exact fresh (.inr refunded)
        · exact accepted failed
        · exact other refund response

def recordingSteps : List PipelineStep := [.createReturnPaymentTransaction,.updateCommercetoolsOrderReturnPaymentStatus]

theorem recording_steps_answered {payment : Payment} (fetch : k.fetched = some fetched)
    (active : k.activeOrderManagementSystem = some commercetoolsOrderManagementSystem)
    (found : fetched.paymentData = some payment) (paid : fetched.psp ≠ none)
    (ran : (runPipeline recordingSteps k).Answered t out) :
    (∃ e, out = .error e ∧ (¬ Recordable k fetched ∨ ∃ x ∈ t, commercetoolsFailed x = true)) ∨
      Recordable k fetched ∧ out = .ok k ∧ ∀ returnItemId paymentState, Sets t returnItemId paymentState ↔
        returnItemId ∈ k.returnLineItems.values ∧ paymentState = returnedState k := by
  change ((createReturnPaymentTransactionStep k).bind fun k =>
    (updateCommercetoolsOrderReturnPaymentStatus k).bind .pure).Answered t out at ran
  rcases Prog.answered_bind.mp ran with ⟨e,failed,rfl⟩ | ⟨k',first,later,rfl,done,ran⟩
  · rcases (create_step_answered fetch active found failed).2 with ⟨never,_⟩ | ⟨e,same,why⟩
    · cases never
    · exact .inl ⟨e,same,why⟩
  · rcases create_step_answered fetch active found done with ⟨only,⟨same,recordable⟩ | ⟨_,never,_⟩⟩
    · cases same
      rw [Prog.bind_pure] at ran
      rcases update_step_answered fetch paid ran with ⟨same,x,member,failure⟩ | ⟨same,sets⟩
      · exact .inl ⟨_,same,.inr ⟨x,List.mem_append_right _ member,failure⟩⟩
      · refine .inr ⟨recordable,same,fun returnItemId paymentState => ?_⟩
        rw [sets_append,sets]
        exact or_iff_right (not_set only)
    · cases never

end Recording

section Quiet
variable {α : Type}

def Quiet (r : Request) : Prop := service r = .commercetools

theorem get_payment_asks (caller : Caller) (paymentKey : String) : (getPaymentByKey caller paymentKey).Asks Quiet :=
  .expect (.perform rfl)

theorem update_order_asks (id : String) (version : Nat) (actions : List OrderUpdateAction) :
    (updateOrderById id version actions).Asks Quiet :=
  .expect (.perform rfl)

theorem update_payment_asks (id : String) (version : Nat) (actions : List PaymentUpdateAction) :
    (updatePaymentById id version actions).Asks Quiet :=
  .expect (.perform rfl)

theorem ite_asks {c : Prop} [Decidable c] {p q : Call α} (first : p.Asks Quiet) (later : q.Asks Quiet) :
    (if c then p else q).Asks Quiet := by
  split
  · exact first
  · exact later

theorem except_asks {p : Call α} {handler : ErrorCode → Call α} (first : p.Asks Quiet)
    (later : ∀ code, (handler code).Asks Quiet) : (exceptCommercetoolsError p handler).Asks Quiet := by
  apply Prog.Asks.handle first
  intro e
  cases e with
  | commercetoolsError code => exact later code
  | _ => trivial

theorem payment_of_refund_asks (fetched : Fetched) (refund : Refund) : (paymentOfRefund fetched refund).Asks Quiet := by
  unfold paymentOfRefund
  split
  · split
    · exact get_payment_asks _ _
    · trivial
  · split
    · exact get_payment_asks _ _
    · trivial

theorem recorded_asks (k : Kwargs) (fetched : Fetched) (refund : Refund) (payment : Payment) :
    (exceptCommercetoolsError (do
      let _ ← createReturnPaymentTransaction payment.id payment.version refund (fetched.psp.getD "")
      return k) fun _ =>
        match messageError fetched.psp refund with
        | some error => .raise error
        | none => .pure k).Asks Quiet := by
  apply except_asks
  · exact Prog.Asks.bind (update_payment_asks _ _ _) fun _ => trivial
  · intro code
    split <;> trivial

theorem create_asks (k : Kwargs) : (createReturnPaymentTransactionStep k).Asks Quiet := by
  unfold createReturnPaymentTransactionStep
  split
  · trivial
  · rename_i fetched _
    repeat' apply ite_asks
    all_goals try trivial
    split
    · rename_i refund _
      dsimp only
      split
      · exact recorded_asks k fetched refund _
      · apply Prog.Asks.bind
        · exact except_asks (payment_of_refund_asks fetched refund) fun _ => trivial
        · exact recorded_asks k fetched refund
    · trivial

theorem set_return_item_id_asks (payment : Payment) (transactionId : String) (returnItemIds : List String) :
    (setTransactionReturnItemId payment transactionId returnItemIds).Asks Quiet := by
  apply ite_asks
  · trivial
  · exact Prog.Asks.bind (update_payment_asks _ _ _) fun _ => trivial

theorem update_asks (k : Kwargs) : (updateCommercetoolsOrderReturnPaymentStatus k).Asks Quiet := by
  unfold updateCommercetoolsOrderReturnPaymentStatus
  split
  · trivial
  · rename_i fetched _
    apply ite_asks
    · trivial
    · apply Prog.Asks.bind
      · apply except_asks
        · apply Prog.Asks.bind (get_payment_asks _ _)
          intro payment
          apply Prog.Asks.bind (update_order_asks _ _ _)
          intro order
          exact Prog.Asks.bind (set_return_item_id_asks _ _ _) fun _ => trivial
        · exact fun _ => trivial
      · exact fun _ => trivial

theorem recording_asks (k : Kwargs) : (runPipeline recordingSteps k).Asks Quiet := by
  apply Prog.Asks.bind (create_asks k)
  intro k
  apply Prog.Asks.bind (update_asks k)
  exact fun _ => trivial

end Quiet

section Reading
variable {k k' : Kwargs} {fetched : Fetched} {t : List (Exchange Request Response)}

def readingSteps : List PipelineStep := [.determineActiveOrderManagementSystemByOrderId,.fetchOrderDetailsByOrderId]

def detailsOf (order : Order) (returnLineItems : Dict String) (payment ctPayment : Payment) (refundAmount : ℚ)
    (interactionId : Option String) : Fetched :=
  ⟨order,(getEdxSuccessfulPaymentInfo order).2,payment.interfaceId,(filterReturnItems order returnLineItems).1,
    (filterReturnItems order returnLineItems).2,refundAmount,interactionId,
    hasFullRefundTransaction ctPayment || refundAmount = 0,some ctPayment⟩

def ReadPayment (k : Kwargs) (order : Order) (fetched : Fetched) (answers : List (Exchange Request Response)) : Prop :=
  ∃ payment ctPayment refundAmount interactionId,
    answers = [⟨.getPaymentByKey .fetchOrderDetails (payment.interfaceId.getD ""),.ok ctPayment⟩] ∧
    (getEdxSuccessfulPaymentInfo order).1 = some payment ∧
    getEdxRefundInfo ctPayment order (filterReturnItems order k.returnLineItems).1 = some (refundAmount,interactionId) ∧
    fetched = detailsOf order k.returnLineItems payment ctPayment refundAmount interactionId

def Unpaid (fetched : Fetched) : Prop :=
  fetched.psp = none ∧ fetched.paymentIntentId = none ∧ fetched.paymentData = none

theorem successful_payment_cases (order : Order) : getEdxSuccessfulPaymentInfo order = (none,none) ∨
    ∃ payment psp, getEdxSuccessfulPaymentInfo order = (some payment,psp) := by
  unfold getEdxSuccessfulPaymentInfo
  split
  · exact .inr ⟨_,_,rfl⟩
  · exact .inl rfl

theorem fetch_step_answered (fresh : k.fetched = none) (ran : (fetchOrderDetailsByOrderId k).Answered t (.ok k'))
    (fetch : k'.fetched = some fetched) :
    ∃ order rest, t = ⟨.getOrderById k.orderId,.ok order⟩::rest ∧ fetched.psp = (getEdxSuccessfulPaymentInfo order).2 ∧
      k.activeOrderManagementSystem = some commercetoolsOrderManagementSystem ∧ k' = {k with fetched := some fetched} ∧
      (¬ Unpaid fetched → ReadPayment k order fetched rest) := by
  unfold fetchOrderDetailsByOrderId at ran
  split at ran
  · cases ran.2
    rw [fresh] at fetch
    cases fetch
  · rename_i active
    rw [ne_eq,not_not] at active
    obtain ⟨x,rest,rfl,ran⟩ := ran
    cases x with
    | error code =>
      cases ran.2
      rw [fresh] at fetch
      cases fetch
    | ok order =>
      refine ⟨order,rest,rfl,?_⟩
      rcases successful_payment_cases order with absent | ⟨payment,psp,found⟩
      · simp only [Prog.pure_bind,absent] at ran
        cases ran.2
        cases fetch
        exact ⟨by rw [absent],active,rfl,fun paid => absurd ⟨rfl,rfl,rfl⟩ paid⟩
      · simp only [Prog.pure_bind,found] at ran
        obtain ⟨x,rest,rfl,ran⟩ := ran
        cases x with
        | error code =>
          cases ran.2
          rw [fresh] at fetch
          cases fetch
        | ok ctPayment =>
          cases info : getEdxRefundInfo ctPayment order (filterReturnItems order k.returnLineItems).1 with
          | none =>
            simp only [Prog.pure_bind,info] at ran
            cases ran.2
          | some amounts =>
            simp only [Prog.pure_bind,info] at ran
            obtain ⟨rfl,same⟩ := ran
            cases same
            cases fetch
            refine ⟨by rw [found],active,rfl,fun _ => ⟨payment,ctPayment,amounts.1,amounts.2,rfl,by rw [found],info,?_⟩⟩
            rw [detailsOf,found]

theorem reading_steps_answered (fresh : k.fetched = none) (ran : (runPipeline readingSteps k).Answered t (.ok k'))
    (fetch : k'.fetched = some fetched) :
    ∃ order rest, t = ⟨.getOrderById k.orderId,.ok order⟩::rest ∧ fetched.psp = (getEdxSuccessfulPaymentInfo order).2 ∧
      k' = {k with
        activeOrderManagementSystem := some commercetoolsOrderManagementSystem
        fetched := some fetched} ∧
      (¬ Unpaid fetched → ReadPayment k order fetched rest) := by
  change ((fetchOrderDetailsByOrderId {k with activeOrderManagementSystem := _}).bind .pure).Answered t (.ok k') at ran
  rw [Prog.bind_pure] at ran
  obtain ⟨order,rest,reads,psp,active,rfl,read⟩ := fetch_step_answered (by exact fresh) ran fetch
  refine ⟨order,rest,reads,psp,?_,read⟩
  exact congrArg (fun active => ({k with activeOrderManagementSystem := active, fetched := some fetched} : Kwargs)) active

end Reading

-- The provider says that the money is back, by this refund or an earlier one.
def reportsDone : Except Exn RefundResponse → Bool
  | .ok .chargeAlreadyRefunded => true
  | .ok (.refund refund) => refund.status.toLower = "succeeded" ∨ refund.status.toLower = "completed"
  | _ => false

def reportsError : Except Exn RefundResponse → Bool
  | .error .stripeError => true
  | .error (.paypalError message) => message ≠ ""
  | _ => false

def CarriedToTheEnd (t : List (Exchange Request Response)) (returnItemId : String) (outcome : Except Exn RefundResponse)
    (out : Except Exn Kwargs) : Prop :=
  (∃ k, out = .ok k) ∧ (Sets t returnItemId .refunded ↔ reportsDone outcome = true) ∧
    (isError outcome = true → Sets t returnItemId .notRefunded)

section Outcomes
variable {k : Kwargs} {fetched : Fetched} {asked later : List (Exchange Request Response)}
  {outcome : Except Exn RefundResponse} {t : List (Exchange Request Response)} {out : Except Exn Kwargs}

theorem provider_updates {r : Request} (provider : service r = .provider) : updatesOrder r = false := by
  cases r <;> first | rfl | cases provider

theorem stripe_asks (paymentIntentId : String) (amount : ℚ) (covers : List String) :
    (refundPaymentIntentAtStripe paymentIntentId amount covers).Asks fun r => service r = .provider := by
  apply Prog.Asks.bind
  · refine ⟨rfl,fun x => ?_⟩
    cases x with
    | ok refund => trivial
    | error failure =>
      cases failure with
      | chargeAlreadyRefunded => exact ⟨rfl,fun refunds => by cases refunds <;> trivial⟩
      | invalidRequest => trivial
      | other message => trivial
  · exact fun _ => trivial

theorem paypal_asks (captureId : String) (amount : ℚ) (covers : List String) :
    (refundOrder captureId amount covers).Asks fun r => service r = .provider := by
  refine ⟨rfl,fun x => ?_⟩
  cases x with
  | ok body => cases body <;> trivial
  | error failure => trivial

theorem consult_asks (fetched : Fetched) : (consult fetched).Asks fun r => service r = .provider := by
  unfold consult
  split
  · trivial
  · split
    · exact stripe_asks _ _ _
    · exact paypal_asks _ _ _

def Recorded (outcome : Except Exn RefundResponse) : Prop :=
  (∃ refund, outcome = .ok (.refund refund)) ∨ outcome = .ok .chargeAlreadyRefunded ∨ reportsError outcome = true

theorem carried_output {k' : Kwargs} (noError : k.pspRefundError = false) (same : carried k outcome = .ok k') :
    k'.pspRefundError = reportsError outcome ∧ k'.returnLineItems = k.returnLineItems ∧
      k'.activeOrderManagementSystem = k.activeOrderManagementSystem := by
  cases outcome with
  | ok refundResponse =>
    cases same
    exact ⟨by cases refundResponse <;> exact noError,rfl,rfl⟩
  | error error => cases error <;> cases same <;> exact ⟨rfl,rfl,rfl⟩

theorem recorded_carried (k : Kwargs) (recorded : Recorded outcome) : ∃ k', carried k outcome = .ok k' := by
  obtain ⟨refund,rfl⟩ | rfl | handled := recorded
  · exact ⟨_,rfl⟩
  · exact ⟨_,rfl⟩
  · cases outcome with
    | ok refundResponse => exact ⟨_,rfl⟩
    | error error => cases error <;> first | exact ⟨_,rfl⟩ | cases handled

theorem reported_recorded (reported : reportsDone outcome = true ∨ reportsError outcome = true) : Recorded outcome := by
  rcases reported with done | handled
  · cases outcome with
    | ok refundResponse =>
      cases refundResponse with
      | chargeAlreadyRefunded => exact .inr (.inl rfl)
      | refund object => exact .inl ⟨object,rfl⟩
      | none => cases done
    | error error => cases done
  · exact .inr (.inr handled)

theorem refunded_consulted (refunded : fetched.hasBeenRefunded = true) (consulted : (consult fetched).Answered asked outcome) :
    outcome = .ok .chargeAlreadyRefunded := by
  rw [consult,if_pos refunded] at consulted
  exact consulted.2

theorem recordable_iff {k' : Kwargs} (consulted : (consult fetched).Answered asked outcome) (fresh : k.refundResponse = none)
    (noError : k.pspRefundError = false) (same : carried k outcome = .ok k') : Recordable k' fetched ↔ Recorded outcome := by
  rw [Recordable,Recorded,(carried_output noError same).1]
  by_cases refunded : fetched.hasBeenRefunded = true
  · have already := refunded_consulted refunded consulted
    exact ⟨fun _ => .inr (.inl already),fun _ => .inr (.inl refunded)⟩
  · cases outcome with
    | ok refundResponse =>
      cases same
      cases refundResponse <;> simp [refunded,reportsError]
    | error error =>
      have kept : k'.refundResponse = none := by cases error <;> cases same <;> exact fresh
      simp [refunded,kept]

-- Everything from the refund step on: one outcome, which the recording steps
-- either cannot do with, or lose over a failed call, or turn into a state of
-- every return.
theorem refund_answered {payment : Payment} (fetch : k.fetched = some fetched) (reached : Reached fetched)
    (fresh : k.refundResponse = none) (noError : k.pspRefundError = false)
    (active : k.activeOrderManagementSystem = some commercetoolsOrderManagementSystem)
    (found : fetched.paymentData = some payment)
    (ran : (runPipeline (orderRefundRequested.drop 2) k).Answered t out) :
    ∃ outcome first later, t = first++later ∧ (consult fetched).Answered first outcome ∧ (∀ x ∈ later, Quiet x.1) ∧
      ((∃ e, out = .error e ∧ (¬ Recorded outcome ∨ ∃ x ∈ later, commercetoolsFailed x = true)) ∨
        Recorded outcome ∧ out = carried k outcome ∧ ∀ returnItemId paymentState, Sets t returnItemId paymentState ↔
          returnItemId ∈ k.returnLineItems.values ∧
            paymentState = if reportsError outcome then .notRefunded else .refunded) := by
  have paid : fetched.psp ≠ none := by
    obtain ⟨_,⟨psp,_⟩ | ⟨psp,_⟩⟩ := reached <;> simp [psp]
  change (runPipeline (refundSteps++recordingSteps) k).Answered t out at ran
  rw [run_pipeline_append] at ran
  rcases Prog.answered_bind.mp ran with ⟨e,failed,rfl⟩ | ⟨k',first,later,rfl,done,ran⟩
  · obtain ⟨outcome,consulted,same⟩ := refund_steps_answered fetch reached failed
    refine ⟨outcome,t,[],(List.append_nil t).symm,consulted,by simp,.inl ⟨e,rfl,.inl ?_⟩⟩
    intro recorded
    obtain ⟨k',accepted⟩ := recorded_carried k recorded
    cases same.trans accepted
  · obtain ⟨outcome,consulted,same⟩ := refund_steps_answered fetch reached done
    have fetch' := (carried_fetched same.symm).trans fetch
    obtain ⟨error,items,active'⟩ := carried_output noError same.symm
    refine ⟨outcome,first,later,rfl,consulted,(recording_asks k').answered ran,?_⟩
    rcases recording_steps_answered fetch' (active'.trans active) found paid ran with ⟨e,rfl,why⟩ | ⟨recordable,rfl,sets⟩
    · exact .inl ⟨e,rfl,why.imp_left (mt (recordable_iff consulted fresh noError same.symm).mpr)⟩
    · refine .inr ⟨(recordable_iff consulted fresh noError same.symm).mp recordable,same,fun returnItemId paymentState => ?_⟩
      rw [sets_append,sets,items,returnedState,error]
      exact or_iff_right (not_set fun x member => provider_updates ((consult_asks fetched).answered consulted x member))

-- Where the returns were set, what is left to go wrong is a refund that is not done.
theorem carried_to_the_end_iff {returnItemId : String} (recorded : Recorded outcome)
    (returned : returnItemId ∈ k.returnLineItems.values)
    (sets : ∀ returnItemId paymentState, Sets t returnItemId paymentState ↔
      returnItemId ∈ k.returnLineItems.values ∧ paymentState = if reportsError outcome then .notRefunded else .refunded) :
    CarriedToTheEnd t returnItemId outcome (carried k outcome) ↔ reportsDone outcome = true ∨ reportsError outcome = true := by
  unfold CarriedToTheEnd
  rw [sets,sets]
  obtain ⟨k',accepted⟩ := recorded_carried k recorded
  obtain ⟨refund,rfl⟩ | rfl | handled := recorded
  · simp [carried,reportsError,isError,returned]
  · simp [carried,reportsError,reportsDone,isError,returned]
  · have failed : reportsDone outcome = false := by
      cases outcome with
      | ok refundResponse => cases handled
      | error error => rfl
    rw [accepted,handled,failed]
    simp [returned]

theorem outcome_carried_iff {reads : List (Exchange Request Response)} {orderId : String}
    {returnLineItems returnLineEntitlementIds : Dict String} {returnItemId : String}
    (read : (runPipeline readingSteps ⟨orderId,returnLineItems,returnLineEntitlementIds,none,none,none,false⟩).Answered
      reads (.ok k))
    (fetch : k.fetched = some fetched) (reached : Reached fetched) (returned : returnItemId ∈ returnLineItems.values)
    (consulted : (consult fetched).Answered asked outcome)
    (ran : (runPipeline (orderRefundRequested.drop 2) k).Answered (asked++later) out)
    (succeed : ∀ x ∈ later, commercetoolsFailed x = false) :
    CarriedToTheEnd (asked++later) returnItemId outcome out ↔ reportsDone outcome = true ∨ reportsError outcome = true := by
  have paid : fetched.psp ≠ none := by
    obtain ⟨_,⟨psp,_⟩ | ⟨psp,_⟩⟩ := reached <;> simp [psp]
  obtain ⟨order,_,_,_,rfl,complete⟩ := reading_steps_answered rfl read fetch
  obtain ⟨_,_,_,_,_,_,_,details⟩ := complete fun unpaid => paid unpaid.1
  obtain ⟨outcome',first,rest,same,consulted',_,result⟩ :=
    refund_answered fetch reached rfl rfl rfl (by rw [details]; rfl) ran
  obtain ⟨rfl,rfl,rfl⟩ := Prog.answered_unique consulted consulted' same
  rcases result with ⟨e,rfl,why⟩ | ⟨recorded,rfl,sets⟩
  · have unrecorded : ¬ Recorded outcome := by
      rcases why with unrecorded | ⟨x,member,failure⟩
      · exact unrecorded
      · rw [succeed x member] at failure
        cases failure
    constructor
    · intro carried
      obtain ⟨⟨_,never⟩,_⟩ := carried
      cases never
    · exact fun reported => absurd (reported_recorded reported) unrecorded
  · exact carried_to_the_end_iff recorded returned sets

end Outcomes

section Refunds

def paidWith (psp : String) : Payment :=
  ⟨"payment",1,some "pi_1",some "pi_1",⟨4900,"USD",some 2⟩,some psp,some paymentStatusInterfaceCodeSucceeded,
    [⟨"payment/0",0,.charge,⟨4900,"USD",some 2⟩,some "ch_1",.success,none⟩]⟩

def returnedOrder (psp : String) : Order :=
  ⟨"order",3,"customer",false,[⟨"line-item",1,⟨4900,"USD",some 2⟩,[],none⟩],⟨4900,"USD",some 2⟩,
    [[⟨"return","line-item",.initial,none,none⟩]],[paidWith psp]⟩

def requested : Kwargs := ⟨"order",[("line-item","return")],[],none,none,none,false⟩

def details (psp : String) : Fetched :=
  detailsOf (returnedOrder psp) requested.returnLineItems (paidWith psp) (paidWith psp) 49 (some "ch_1")

def fetchedWith (psp : String) : Kwargs :=
  {requested with
    activeOrderManagementSystem := some commercetoolsOrderManagementSystem
    fetched := some (details psp)}

def readsOf (psp : String) : List (Exchange Request Response) :=
  [⟨.getOrderById "order",.ok (returnedOrder psp)⟩,⟨.getPaymentByKey .fetchOrderDetails "pi_1",.ok (paidWith psp)⟩]

def issued (status : String) : Refund := ⟨"re_1",4900,"usd",1750000000,status,some "pi_1",none⟩

def askedStripe (status : String) : List (Exchange Request Response) :=
  [⟨.stripeRefundCreate "pi_1" 4900 ["line-item"],.ok (issued status)⟩]

def pendingAtPaypal : Refund := ⟨"ref_1",49,"USD",1750000000000,"PENDING",none,none⟩

def askedPaypal : List (Exchange Request Response) :=
  [⟨.refundCapturedPayment "ch_1" 49 "USD" ["line-item"],.ok (some pendingAtPaypal)⟩]

def recordedWith (psp : String) (refund : Refund) : Payment := addTransaction (paidWith psp) (refundTransactionDraft refund psp)

def recording (psp : String) (refund : Refund) : List (Exchange Request Response) :=
  [⟨.updatePaymentById "payment" 1 [.addTransaction (refundTransactionDraft refund psp)],.ok (recordedWith psp refund)⟩,
    ⟨.getPaymentByKey .updateReturnPaymentState "pi_1",.ok (recordedWith psp refund)⟩,
    ⟨.updateOrderById "order" 3 [.setReturnPaymentState "return" .refunded,
      .setReturnItemCustomType "return" "payment/1" none],.ok (returnedOrder psp)⟩,
    ⟨.updatePaymentById "payment" 2 [.setTransactionCustomType "payment/1" "return"],.ok (recordedWith psp refund)⟩]

theorem reads_run : (runPipeline readingSteps requested).Answered (readsOf edxStripePaymentInterfaceName)
    (.ok (fetchedWith edxStripePaymentInterfaceName)) :=
  Prog.follow_answered (by decide +kernel)

theorem stripe_run : (consult (details edxStripePaymentInterfaceName)).Answered (askedStripe "succeeded")
    (.ok (.refund (issued "succeeded"))) :=
  Prog.follow_answered (by decide +kernel)

theorem succeeded_carried :
    CarriedToTheEnd (askedStripe "succeeded"++recording edxStripePaymentInterfaceName (issued "succeeded")) "return"
      (.ok (.refund (issued "succeeded")))
      (carried (fetchedWith edxStripePaymentInterfaceName) (.ok (.refund (issued "succeeded")))) :=
  (outcome_carried_iff reads_run rfl (by decide +kernel) (by decide) stripe_run
    (Prog.follow_answered (by decide +kernel)) (by decide +kernel)).mpr (.inl (by decide +kernel))

-- A refund that Stripe has not finished ends the pipeline, one that PayPal has
-- not finished is recorded as money returned.
theorem pending_not_carried :
    ((consult (details edxStripePaymentInterfaceName)).Answered (askedStripe "pending") (.ok .none) ∧
      (runPipeline (orderRefundRequested.drop 2) (fetchedWith edxStripePaymentInterfaceName)).Answered
        (askedStripe "pending"++[]) (.error .attributeError) ∧
      ¬ CarriedToTheEnd (askedStripe "pending"++[]) "return" (.ok .none) (.error .attributeError)) ∧
    ((consult (details edxPaypalPaymentInterfaceName)).Answered askedPaypal (.ok (.refund pendingAtPaypal)) ∧
      (runPipeline (orderRefundRequested.drop 2) (fetchedWith edxPaypalPaymentInterfaceName)).Answered
        (askedPaypal++recording edxPaypalPaymentInterfaceName pendingAtPaypal)
        (carried (fetchedWith edxPaypalPaymentInterfaceName) (.ok (.refund pendingAtPaypal))) ∧
      ¬ CarriedToTheEnd (askedPaypal++recording edxPaypalPaymentInterfaceName pendingAtPaypal) "return"
        (.ok (.refund pendingAtPaypal)) (carried (fetchedWith edxPaypalPaymentInterfaceName) (.ok (.refund pendingAtPaypal)))) := by
  refine ⟨⟨Prog.follow_answered (by decide +kernel),Prog.follow_answered (by decide +kernel),?_⟩,
    Prog.follow_answered (by decide +kernel),Prog.follow_answered (by decide +kernel),?_⟩
  · intro carried
    obtain ⟨⟨_,never⟩,_⟩ := carried
    cases never
  · intro carried
    have done := carried.2.1.mp ⟨_,_,_,_,List.mem_append_right _
      (List.mem_cons_of_mem _ (List.mem_cons_of_mem _ List.mem_cons_self)),List.mem_cons_self⟩
    exact absurd done (by decide +kernel)

end Refunds
end RefundOutcome
