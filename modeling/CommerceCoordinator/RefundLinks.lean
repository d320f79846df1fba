import CommerceCoordinator.RefundOutcome

open Commercetools CallTree PaymentTransactions OrderReturn CommercetoolsClient RefundPipeline RefundOutcome

-- Returns of one order, each processed to the end: all that one of them does to
-- the order, its payment and the links between both.
namespace RefundLinks

-- One return; while it is processed, which calls of Commercetools fail and what
-- the provider answers.
structure Return where
  returnLineItems : Dict String
  returnLineEntitlementIds : Dict String
  fails : Request → Bool
  created : Except PspError Refund
  listed : List Refund
  captured : Except PspError (Option Refund)

def Return.ids (r : Return) : List String := r.returnLineItems.values

structure Issue where
  refundId : String
  returnItemIds : List String
  deriving DecidableEq

structure Update where
  returnItemIds : List String
  actions : List OrderUpdateAction
  deriving DecidableEq

-- `issued` and `updates` are history; nothing reads them.
structure State where
  ledger : Ledger
  issued : List Issue
  updates : List Update
  deriving DecidableEq

def State.issue (s : State) (r : Return) (refund : Refund) : State := {s with issued := s.issued++[⟨refund.id,r.ids⟩]}

def serve (r : Return) : (q : Request) → State → Response q × State
  | .stripeRefundCreate _ _ _,s =>
    (r.created,match r.created with
      | .ok refund => s.issue r refund
      | .error _ => s)
  | .stripeRefundList _,s => (r.listed,s)
  | .refundCapturedPayment _ _ _ _,s =>
    (r.captured,match r.captured with
      | .ok (some refund) => s.issue r refund
      | _ => s)
  | .updateOrderById id version actions,s =>
    match CommercetoolsClient.serve (!r.fails (.updateOrderById id version actions)) (.updateOrderById id version actions)
        s.ledger with
    | (.ok order,ledger) => (.ok order,{s with ledger, updates := s.updates++[⟨r.ids,actions⟩]})
    | (.error code,ledger) => (.error code,{s with ledger})
  | q,s =>
    ((CommercetoolsClient.serve (!r.fails q) q s.ledger).1,{s with ledger := (CommercetoolsClient.serve (!r.fails q) q s.ledger).2})

def requested (s : State) (r : Return) : Kwargs :=
  ⟨s.ledger.order.id,r.returnLineItems,r.returnLineEntitlementIds,none,none,none,false⟩

def arrive (s : State) (r : Return) : Option (Kwargs × State) :=
  match Prog.exec (serve r) (runPipeline (orderRefundRequested.take 4) (requested s r)) s with
  | (.ok k,t) => some (k,t)
  | (.error _,_) => none

def process (s : State) (r : Return) : Option State :=
  match Prog.exec (serve r) (runPipeline orderRefundRequested (requested s r)) s with
  | (.ok _,t) => some t
  | (.error _,_) => none

inductive Event where
  | returned (items : List ReturnItem)
  | processed (r : Return)

def step (s : State) : Event → Option State
  | .returned items =>
    some {s with ledger := {s.ledger with order := {addReturnInfo s.ledger.order items with version := s.ledger.order.version+1}}}
  | .processed r => process s r

def Return.refundIds (r : Return) : List String :=
  (match r.created with
    | .ok refund => [refund.id]
    | .error _ => []) ++
  match r.captured with
    | .ok (some refund) => [refund.id]
    | _ => []

def interactionId (k : Kwargs) : Option String :=
  match k.refundResponse with
  | some (.refund refund) => some refund.id
  | _ => none

def recording (k : Kwargs) (payment : Payment) : Option Request :=
  match k.refundResponse,k.fetched with
  | some (.refund refund),some fetched => some (.updatePaymentById payment.id payment.version
      [.addTransaction (refundTransactionDraft refund (fetched.psp.getD ""))])
  | _,_ => none

def recorded (r : Return) (k : Kwargs) (payment : Payment) : Bool := (recording k payment).any (!r.fails ·)

section Arrival
variable {r : Return} {s t u v : State} {k k' : Kwargs} {fetched : Fetched}

structure Provided (r : Return) (s t : State) : Prop where
  ledger : t.ledger = s.ledger
  updates : t.updates = s.updates
  kept : ∀ issue ∈ s.issued, issue ∈ t.issued
  added : ∀ issue ∈ t.issued, issue ∈ s.issued ∨ issue.refundId ∈ r.refundIds ∧ issue.returnItemIds = r.ids

theorem Provided.refl (s : State) : Provided r s s := ⟨rfl,rfl,fun _ member => member,fun _ member => .inl member⟩

theorem Provided.trans (first : Provided r s t) (later : Provided r t u) : Provided r s u := by
  refine ⟨later.ledger.trans first.ledger,later.updates.trans first.updates,fun issue member => later.kept issue (first.kept issue member),?_⟩
  intro issue member
  rcases later.added issue member with before | new
  · exact first.added issue before
  · exact .inr new

theorem issue_provided {refund : Refund} (answered : refund.id ∈ r.refundIds) : Provided r s (s.issue r refund) := by
  refine ⟨rfl,rfl,fun issue member => List.mem_append_left _ member,?_⟩
  intro issue member
  rcases List.mem_append.mp member with before | new
  · exact .inl before
  · cases List.mem_singleton.mp new
    exact .inr ⟨answered,rfl⟩

theorem provider_provided (q : Request) (s : State) (provider : service q = .provider) : Provided r s (serve r q s).2 := by
  cases q with
  | stripeRefundCreate paymentIntent amountInCents covers =>
    cases created : r.created with
    | ok refund =>
      simp only [serve,created]
      exact issue_provided (by simp [Return.refundIds,created])
    | error failure =>
      simp only [serve,created]
      exact .refl s
  | stripeRefundList paymentIntent => exact .refl s
  | refundCapturedPayment captureId value currencyCode covers =>
    cases captured : r.captured with
    | ok body =>
      cases body with
      | some refund =>
        simp only [serve,captured]
        exact issue_provided (by simp [Return.refundIds,captured])
      | none =>
        simp only [serve,captured]
        exact .refl s
    | error failure =>
      simp only [serve,captured]
      exact .refl s
  | _ => cases provider

theorem refund_steps_asks (k : Kwargs) : (runPipeline refundSteps k).Asks fun q => service q = .provider := by
  have stripe : (refundPaymentIntent k).Asks fun q => service q = .provider := by
    unfold refundPaymentIntent
    split
    · trivial
    · split
      · trivial
      · split
        · trivial
        · refine Prog.Asks.handle (Prog.Asks.bind (stripe_asks _ _ _) fun _ => trivial) ?_
          intro e
          cases e <;> trivial
  have paypal : ∀ k, (refundPayPalPayment k).Asks fun q => service q = .provider := by
    intro k
    unfold refundPayPalPayment
    split
    · trivial
    · split
      · trivial
      · split
        · trivial
        · refine Prog.Asks.handle (Prog.Asks.bind (paypal_asks _ _ _) fun _ => trivial) ?_
          intro e
          cases e <;> trivial
  exact Prog.Asks.bind stripe fun k => Prog.Asks.bind (paypal k) fun _ => trivial

def reads : Request → Bool
  | .getOrderById _ => true
  | .getPaymentByKey _ _ => true
  | _ => false

theorem reads_unchanged (q : Request) (s : State) (only : reads q = true) : (serve r q s).2 = s := by
  cases q <;> first | rfl | cases only

theorem reading_asks (k : Kwargs) : (runPipeline readingSteps k).Asks fun q => reads q = true := by
  have fetch : ∀ k, (fetchOrderDetailsByOrderId k).Asks fun q => reads q = true := by
    intro k
    unfold fetchOrderDetailsByOrderId
    split
    · trivial
    · refine Prog.Asks.handle ?_ fun e => by cases e <;> trivial
      apply Prog.Asks.bind (.expect (.perform (by rfl)))
      intro order
      rcases successful_payment_cases order with absent | ⟨payment,psp,found⟩
      · simp only [absent]
        trivial
      · simp only [found]
        apply Prog.Asks.bind (.expect (.perform (by rfl)))
        intro ctPayment
        cases getEdxRefundInfo ctPayment order (filterReturnItems order k.returnLineItems).1 <;> trivial
  change ((fetchOrderDetailsByOrderId {k with activeOrderManagementSystem := _}).bind .pure).Asks fun q => reads q = true
  exact Prog.Asks.bind (fetch _) fun _ => trivial

structure Arrived (s : State) (r : Return) (k : Kwargs) (fetched : Fetched) (t : State) : Prop where
  fetch : k.fetched = some fetched
  lineItems : k.returnLineItems = r.returnLineItems
  entitlements : k.returnLineEntitlementIds = r.returnLineEntitlementIds
  active : k.activeOrderManagementSystem = some commercetoolsOrderManagementSystem
  provided : Provided r s t
  due : ∀ refund, k.refundResponse = some (.refund refund) → fetched.hasBeenRefunded = false ∧ k.pspRefundError = false
  paid : Unpaid fetched ∨ fetched.orderData = expanded s.ledger ∧ fetched.paymentData = some s.ledger.payment ∧
    fetched.refundedLineItemRefunds = (filterReturnItems s.ledger.order r.returnLineItems).2

theorem arrive_steps (came : arrive s r = some (k,t)) :
    ∃ k₁ s₁, Prog.exec (serve r) (runPipeline readingSteps (requested s r)) s = (.ok k₁,s₁) ∧
      Prog.exec (serve r) (runPipeline refundSteps k₁) s₁ = (.ok k,t) := by
  have ran : Prog.exec (serve r) (runPipeline (readingSteps++refundSteps) (requested s r)) s = (.ok k,t) := by
    unfold arrive at came
    split at came
    · rename_i k' t' ran
      cases came
      exact ran
    · cases came
  rw [run_pipeline_append,Prog.exec_bind] at ran
  split at ran
  · rename_i k₁ s₁ read
    exact ⟨k₁,s₁,read,ran⟩
  · cases ran

theorem read_arrived (ran : Prog.exec (serve r) (runPipeline readingSteps (requested s r)) s = (.ok k,t))
    (fetch : k.fetched = some fetched) : Arrived s r k fetched s ∧ k.refundResponse = none ∧ k.pspRefundError = false := by
  have read := Prog.exec_answered (serve r) s (runPipeline readingSteps (requested s r))
  have now := (reading_asks (requested s r)).trace (serve r) s fun q s only => reads_unchanged q s only
  rw [ran] at read
  obtain ⟨order,rest,asked,_,rfl,complete⟩ := reading_steps_answered rfl read fetch
  rw [asked] at now
  obtain ⟨first,later⟩ := List.forall_mem_cons.mp now
  have current : order = expanded s.ledger := by
    have answer := eq_of_heq (Sigma.mk.inj first).2
    simp only [serve,CommercetoolsClient.serve,requested,if_true] at answer
    split at answer
    · exact Except.ok.inj answer
    · cases answer
  refine ⟨⟨rfl,rfl,rfl,rfl,.refl s,fun refund response => ?_,?_⟩,rfl,rfl⟩
  · cases response
  by_cases unpaid : Unpaid fetched
  · exact .inl unpaid
  · obtain ⟨payment,ctPayment,refundAmount,interactionId,rfl,_,_,rfl⟩ := complete unpaid
    have found : ctPayment = s.ledger.payment := by
      have answer := eq_of_heq (Sigma.mk.inj (later _ List.mem_cons_self)).2
      simp only [serve,CommercetoolsClient.serve] at answer
      split at answer
      · split at answer
        · exact Except.ok.inj answer
        · cases answer
      · cases answer
    rw [current,found]
    exact .inr ⟨rfl,rfl,rfl⟩

theorem consulted_arrived {asked : List (Exchange Request Response)} {outcome : Except Exn RefundResponse}
    (arrived : Arrived s r k fetched s) (unanswered : k.refundResponse = none) (noError : k.pspRefundError = false)
    (provided : Provided r s t) (consulted : (consult fetched).Answered asked outcome) (same : carried k outcome = .ok k') :
    Arrived s r k' fetched t := by
  cases outcome with
  | ok refundResponse =>
    cases same
    refine ⟨arrived.fetch,arrived.lineItems,arrived.entitlements,arrived.active,provided,?_,arrived.paid⟩
    intro refund response
    cases response
    refine ⟨?_,noError⟩
    by_contra already
    simp only [consult,if_pos (Bool.not_eq_false _ ▸ already)] at consulted
    cases consulted.2
  | error error =>
    have handled : k' = {k with pspRefundError := k'.pspRefundError} := by
      cases error <;> cases same <;> rfl
    rw [handled]
    refine ⟨arrived.fetch,arrived.lineItems,arrived.entitlements,arrived.active,provided,?_,arrived.paid⟩
    intro refund response
    cases unanswered.symm.trans response

theorem arrive_arrived (came : arrive s r = some (k,t)) : ∃ fetched, Arrived s r k fetched t := by
  obtain ⟨k₁,s₁,read,ran⟩ := arrive_steps came
  have unchanged : s = s₁ := by
    have still := (reading_asks (requested s r)).along (serve r) s Eq (fun _ => rfl) (fun _ _ _ => Eq.trans)
      fun q s only => (reads_unchanged q s only).symm
    rwa [read] at still
  subst unchanged
  cases fetch : k₁.fetched with
  | none =>
    change Prog.exec (serve r) ((refundPaymentIntent k₁).bind _) s = _ at ran
    rw [refund_unfetched fetch] at ran
    cases ran
  | some fetched =>
    obtain ⟨arrived,unanswered,noError⟩ := read_arrived read fetch
    refine ⟨fetched,?_⟩
    by_cases reached : Reached fetched
    · have provided := (refund_steps_asks k₁).along (serve r) s (Provided r) .refl (fun _ _ _ => .trans) provider_provided
      have answered := Prog.exec_answered (serve r) s (runPipeline refundSteps k₁)
      rw [ran] at provided answered
      obtain ⟨outcome,consulted,same⟩ := refund_steps_answered fetch reached answered
      exact consulted_arrived arrived unanswered noError provided consulted same.symm
    · rw [refund_steps_skipped fetch reached] at ran
      cases ran
      exact arrived

end Arrival

section Recording
variable {r : Return} {s t u : State} {k k' : Kwargs} {fetched : Fetched}

def State.pay (s : State) (payment : Payment) : State := {s with ledger := {s.ledger with payment}}

theorem record_served (s : State) (draft : TransactionDraft)
    (through : r.fails (.updatePaymentById s.ledger.payment.id s.ledger.payment.version [.addTransaction draft]) = false) :
    serve r (.updatePaymentById s.ledger.payment.id s.ledger.payment.version [.addTransaction draft]) s =
      (.ok (addTransaction s.ledger.payment draft),s.pay (addTransaction s.ledger.payment draft)) := by
  have accepted : Versioned.compareAndSet s.ledger.payment.version s.ledger.payment
      (applyPaymentActions [.addTransaction draft]) = some (addTransaction s.ledger.payment draft) :=
    Versioned.compareAndSet_some.mpr ⟨rfl,add_transaction_applied _ _⟩
  simp only [serve,CommercetoolsClient.serve,through,Bool.not_false,and_self,if_true,accepted]
  rfl

theorem record_failed (s : State) (draft : TransactionDraft)
    (failed : r.fails (.updatePaymentById s.ledger.payment.id s.ledger.payment.version [.addTransaction draft]) = true) :
    serve r (.updatePaymentById s.ledger.payment.id s.ledger.payment.version [.addTransaction draft]) s =
      (.error .unavailable,s) := by
  simp only [serve,CommercetoolsClient.serve,failed,Bool.not_true,Bool.false_eq_true,false_and,if_false]

def Records (r : Return) (k : Kwargs) (before payment : Payment) : Prop :=
  recorded r k before = false ∧ payment = before ∨ recorded r k before = true ∧ ∃ refund psp,
    k.refundResponse = some (.refund refund) ∧ payment = addTransaction before (refundTransactionDraft refund psp)

theorem unrefunded_recorded (payment : Payment) (unrefunded : ∀ refund, k.refundResponse ≠ some (.refund refund)) :
    recorded r k payment = false := by
  unfold recorded recording
  split
  · rename_i refund fetched response _
    exact absurd response (unrefunded refund)
  · rfl

-- A refund object is recorded, or its failure passed over; without one the step
-- does nothing or fails.
theorem create_exec (fetch : k.fetched = some fetched)
    (active : k.activeOrderManagementSystem = some commercetoolsOrderManagementSystem)
    (found : fetched.paymentData = some t.ledger.payment)
    (due : ∀ refund, k.refundResponse = some (.refund refund) → fetched.hasBeenRefunded = false ∧ k.pspRefundError = false)
    (ran : Prog.exec (serve r) (createReturnPaymentTransactionStep k) t = (.ok k',u)) :
    k' = k ∧ ∃ payment, Records r k t.ledger.payment payment ∧ u = t.pay payment := by
  simp only [createReturnPaymentTransactionStep,fetch,active,found,ne_eq,not_true_eq_false,if_false,reduceCtorEq,
    false_and] at ran
  split at ran
  · rename_i already
    cases ran
    refine ⟨rfl,_,.inl ⟨unrefunded_recorded _ fun refund response => ?_,rfl⟩,rfl⟩
    rcases already with marked | refunded
    · cases marked.symm.trans response
    · rw [(due refund response).1] at refunded
      cases refunded
  · split at ran
    · rename_i failed
      cases ran
      refine ⟨rfl,_,.inl ⟨unrefunded_recorded _ fun refund response => ?_,rfl⟩,rfl⟩
      rw [(due refund response).2] at failed
      cases failed
    · split at ran
      · rename_i refund response
        change Prog.exec (serve r) (Prog.call (Request.updatePaymentById t.ledger.payment.id t.ledger.payment.version
          [.addTransaction (refundTransactionDraft refund (fetched.psp.getD ""))]) _) t = _ at ran
        rw [Prog.exec_call] at ran
        have called : recorded r k t.ledger.payment = !r.fails (.updatePaymentById t.ledger.payment.id
            t.ledger.payment.version [.addTransaction (refundTransactionDraft refund (fetched.psp.getD ""))]) := by
          simp only [recorded,recording,response,fetch,Option.any_some]
        cases failing : r.fails (.updatePaymentById t.ledger.payment.id t.ledger.payment.version
            [.addTransaction (refundTransactionDraft refund (fetched.psp.getD ""))]) with
        | false =>
          rw [record_served t _ failing] at ran
          cases ran
          rw [failing] at called
          exact ⟨rfl,_,.inr ⟨called,refund,_,response,rfl⟩,rfl⟩
        | true =>
          rw [record_failed t _ failing] at ran
          rw [failing] at called
          change Prog.exec (serve r) (unrecorded k (messageError fetched.psp refund)) t = _ at ran
          unfold unrecorded at ran
          split at ran
          · cases ran
          · cases ran
            exact ⟨rfl,_,.inl ⟨called,rfl⟩,rfl⟩
      · cases ran

def relink (payment : Payment) (transactionId : String) (returnItemIds : List String) : Payment :=
  {payment with
    version := payment.version+1
    transactions := payment.transactions.map fun transaction =>
      if transaction.id = transactionId then {transaction with returnItemId := some (", ".intercalate returnItemIds)}
      else transaction}

def linkTransaction (payment : Payment) (transactionId : String) (returnItemIds : List String) : Payment :=
  if transactionId = "" then payment else relink payment transactionId returnItemIds

def returnActions (k : Kwargs) (returnItemIds : List String) (refunds : Dict String) (transactionId : String) :
    List OrderUpdateAction :=
  refundedStateActions returnItemIds (returnedState k) ++
    transactionIdActions returnItemIds refunds k.returnLineEntitlementIds transactionId

theorem set_return_item_id_exec {transactionId : String} {returnItemIds : List String}
    (ran : Prog.exec (serve r) (setTransactionReturnItemId t.ledger.payment transactionId returnItemIds) t = (.ok (),u)) :
    u = t.pay (linkTransaction t.ledger.payment transactionId returnItemIds) := by
  unfold setTransactionReturnItemId at ran
  unfold linkTransaction
  split at ran
  · rename_i empty
    cases ran
    rw [if_pos empty]
    rfl
  · rename_i named
    rw [if_neg named]
    change Prog.exec (serve r) (Prog.call (Request.updatePaymentById t.ledger.payment.id t.ledger.payment.version
      [.setTransactionCustomType transactionId (", ".intercalate returnItemIds)]) _) t = _ at ran
    rw [Prog.exec_call] at ran
    rcases update_payment_cases (!r.fails (.updatePaymentById t.ledger.payment.id t.ledger.payment.version
        [.setTransactionCustomType transactionId (", ".intercalate returnItemIds)])) t.ledger.payment.id t.ledger.payment.version
      [.setTransactionCustomType transactionId (", ".intercalate returnItemIds)] t.ledger with ⟨code,refused⟩ | ⟨payment,set,accepted⟩
    · simp only [serve,refused] at ran
      cases ran
    · simp only [serve,accepted] at ran
      cases ran
      have changed := (Versioned.compareAndSet_some.mp set).2
      simp only [applyPaymentActions,List.foldlM_cons,List.foldlM_nil,applyPaymentAction] at changed
      split at changed
      · cases changed
        rfl
      · cases changed

def Marks (r : Return) (actions : List OrderUpdateAction) (transactionId : String) (t u : State) : Prop :=
  ∃ order, u =
    {t with
      ledger := {t.ledger with
        order
        payment := linkTransaction t.ledger.payment transactionId r.ids}
      updates := t.updates++[⟨r.ids,actions⟩]}

theorem return_update_exec {actions : List OrderUpdateAction} {transactionId : String} {handler : Exn → Call Order}
    (raises : ∀ e, ∃ e', handler e = .raise e') {out : Order}
    (ran : Prog.exec (serve r) (((updateOrderById t.ledger.order.id t.ledger.order.version actions).bind fun order =>
      (setTransactionReturnItemId t.ledger.payment transactionId r.ids).bind fun _ => .pure order).handle handler) t =
        (.ok out,u)) : Marks r actions transactionId t u := by
  rw [Prog.exec_handle] at ran
  split at ran
  · rename_i order t' done
    cases ran
    change Prog.exec (serve r) (Prog.call (Request.updateOrderById t.ledger.order.id t.ledger.order.version actions) _) t = _ at done
    rw [Prog.exec_call] at done
    rcases update_order_cases (!r.fails (.updateOrderById t.ledger.order.id t.ledger.order.version actions)) t.ledger.order.id
        t.ledger.order.version actions t.ledger with
      ⟨code,refused⟩ | ⟨order,_,accepted⟩
    · simp only [serve,refused] at done
      cases done
    · simp only [serve,accepted] at done
      change Prog.exec (serve r) ((setTransactionReturnItemId t.ledger.payment transactionId r.ids).bind fun _ =>
        Prog.pure order) _ = _ at done
      rw [Prog.exec_bind] at done
      split at done
      · rename_i linked
        have same := set_return_item_id_exec (t := {t with
          ledger := {t.ledger with order := order}
          updates := t.updates++[⟨r.ids,actions⟩]}) linked
        cases done
        exact ⟨_,same⟩
      · cases done
  · rename_i e t' failed
    obtain ⟨e',same⟩ := raises e
    rw [same] at ran
    cases ran

theorem get_payment_served (caller : Caller) (paymentKey : String) (t : State) :
    serve r (.getPaymentByKey caller paymentKey) t = (.ok t.ledger.payment,t) ∨
      ∃ code, serve r (.getPaymentByKey caller paymentKey) t = (.error code,t) := by
  simp only [serve,CommercetoolsClient.serve]
  split
  · split
    · exact .inl rfl
    · exact .inr ⟨_,rfl⟩
  · exact .inr ⟨_,rfl⟩

theorem update_exec (fetch : k.fetched = some fetched) (lineItems : k.returnLineItems = r.returnLineItems)
    (current : fetched.orderData.id = t.ledger.order.id ∧ fetched.orderData.version = t.ledger.order.version)
    (ran : Prog.exec (serve r) (updateCommercetoolsOrderReturnPaymentStatus k) t = (.ok k',u)) :
    u = t ∨ Marks r (returnActions k r.ids fetched.refundedLineItemRefunds
      (refundTransactionId t.ledger.payment (interactionId k))) (refundTransactionId t.ledger.payment (interactionId k)) t u := by
  simp only [updateCommercetoolsOrderReturnPaymentStatus,fetch] at ran
  split at ran
  · cases ran
    exact .inl rfl
  · refine .inr ?_
    change Prog.exec (serve r) ((updateReturnPaymentStateAfterSuccessfulRefund _ _ _ _ _ _ (interactionId k) _ none true).bind
      fun _ => Prog.pure k) t = _ at ran
    rw [Prog.exec_bind] at ran
    split at ran
    · rename_i order t' done
      cases ran
      rw [current.1,current.2] at done
      change Prog.exec (serve r) (Prog.call (Request.getPaymentByKey .updateReturnPaymentState _) _) t = _ at done
      rw [Prog.exec_call] at done
      rcases get_payment_served .updateReturnPaymentState (fetched.paymentIntentId.getD "") t with found | ⟨code,absent⟩
      · rw [found] at done
        have ids : k.returnLineItems.values = r.ids := by rw [lineItems]; rfl
        rw [ids] at done
        refine return_update_exec ?_ done
        intro e
        cases e <;> exact ⟨_,rfl⟩
      · rw [absent] at done
        cases done
    · cases ran

theorem process_split (ran : process s r = some u) : ∃ k t k', arrive s r = some (k,t) ∧
    Prog.exec (serve r) (runPipeline recordingSteps k) t = (.ok k',u) := by
  unfold process at ran
  split at ran
  · rename_i k' u' done
    cases ran
    change Prog.exec (serve r) (runPipeline (orderRefundRequested.take 4++recordingSteps) (requested s r)) s = _ at done
    rw [run_pipeline_append,Prog.exec_bind] at done
    unfold arrive
    split at done
    · rename_i k t came
      exact ⟨k,t,k',by rw [came],done⟩
    · cases done
  · cases ran

theorem create_unpaid (fetch : k.fetched = some fetched) (unpaid : Unpaid fetched) :
    createReturnPaymentTransactionStep k = .pure k := by
  simp only [createReturnPaymentTransactionStep,fetch,unpaid.1,unpaid.2.2,and_self,if_true]
  split
  · rfl
  · split
    · rfl
    · split <;> rfl

theorem update_unpaid (fetch : k.fetched = some fetched) (unpaid : Unpaid fetched) :
    updateCommercetoolsOrderReturnPaymentStatus k = .pure k := by
  simp only [updateCommercetoolsOrderReturnPaymentStatus,fetch,unpaid.1,unpaid.2.1,and_self,if_true]

theorem process_cases (ran : process s r = some u) : ∃ k t, arrive s r = some (k,t) ∧ Provided r s t ∧
    (∀ refund, k.refundResponse = some (.refund refund) → k.pspRefundError = false) ∧
    (u = t ∨ ∃ payment, Records r k t.ledger.payment payment ∧ (u = t.pay payment ∨
      Marks r (returnActions k r.ids (filterReturnItems s.ledger.order r.returnLineItems).2
        (refundTransactionId payment (interactionId k))) (refundTransactionId payment (interactionId k)) (t.pay payment) u)) := by
  obtain ⟨k,t,k',came,done⟩ := process_split ran
  obtain ⟨fetched,arrived⟩ := arrive_arrived came
  refine ⟨k,t,came,arrived.provided,fun refund response => (arrived.due refund response).2,?_⟩
  change Prog.exec (serve r) ((createReturnPaymentTransactionStep k).bind fun k =>
    (updateCommercetoolsOrderReturnPaymentStatus k).bind .pure) t = _ at done
  rcases arrived.paid with unpaid | ⟨order,payment,refunds⟩
  · rw [create_unpaid arrived.fetch unpaid,Prog.pure_bind,update_unpaid arrived.fetch unpaid] at done
    cases done
    exact .inl rfl
  · rw [← arrived.provided.ledger] at order payment
    rw [Prog.exec_bind] at done
    split at done
    · rename_i k₁ v created
      obtain ⟨rfl,recorded,records,rfl⟩ := create_exec arrived.fetch arrived.active payment arrived.due created
      have current : fetched.orderData.id = (t.pay recorded).ledger.order.id ∧
          fetched.orderData.version = (t.pay recorded).ledger.order.version := by
        rw [order]
        exact ⟨rfl,rfl⟩
      rw [Prog.bind_pure] at done
      have updated := update_exec arrived.fetch arrived.lineItems current done
      rw [refunds] at updated
      exact .inr ⟨recorded,records,updated⟩
    · cases done

end Recording

end RefundLinks
