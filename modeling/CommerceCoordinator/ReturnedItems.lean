import CommerceCoordinator.RefundRevocation

open Commercetools CallTree PaymentTransactions OrderReturn CommercetoolsClient RefundPipeline RefundOutcome OrderReturned
open RefundRevocation

-- The return items of a message, through the dict keyed by line item, to the
-- actions of the last order update.
namespace ReturnedItems

def kept : List ReturnedItem → List ReturnedItem
  | [] => []
  | item::rest => if rest.any (·.lineItemId = item.lineItemId) then kept rest else item::kept rest

section Kept
variable {returnItems : List ReturnedItem} {item : ReturnedItem}

theorem kept_cons (item : ReturnedItem) (rest : List ReturnedItem) :
    kept (item::rest) = if rest.any (·.lineItemId = item.lineItemId) then kept rest else item::kept rest := rfl

theorem kept_line (lineItemId : String) (returnItems : List ReturnedItem) :
    (∃ item ∈ kept returnItems, item.lineItemId = lineItemId) ↔ ∃ item ∈ returnItems, item.lineItemId = lineItemId := by
  induction returnItems with
  | nil => rfl
  | cons item rest ih =>
    unfold kept
    split
    · rename_i followed
      rw [ih]
      refine ⟨fun some => some.imp fun _ both => ⟨List.mem_cons_of_mem _ both.1,both.2⟩,?_⟩
      intro some
      obtain ⟨other,member,rfl⟩ := some
      rcases List.mem_cons.mp member with rfl | later
      · obtain ⟨next,present,same⟩ := List.any_eq_true.mp followed
        exact ⟨next,present,of_decide_eq_true same⟩
      · exact ⟨other,later,rfl⟩
    · simp only [List.exists_mem_cons_iff,ih]

theorem return_line_items_get (returnItems : List ReturnedItem) (lineItemId : String) :
    (returnLineItems returnItems).get lineItemId = ((kept returnItems).find? (·.lineItemId = lineItemId)).map (·.id) := by
  suffices loop : ∀ d : Dict String, (returnItems.foldl (fun d item => d.set item.lineItemId item.id) d).get lineItemId =
      (((kept returnItems).find? (·.lineItemId = lineItemId)).map (·.id)).or (d.get lineItemId) from
    (loop []).trans Option.or_none
  induction returnItems with
  | nil => exact fun _ => rfl
  | cons item rest ih =>
    intro d
    rw [List.foldl_cons,ih,Dict.set_get,kept_cons]
    by_cases here : lineItemId = item.lineItemId
    · subst here
      rw [if_pos rfl]
      split
      · rename_i followed
        obtain ⟨next,present,same⟩ := List.any_eq_true.mp followed
        obtain ⟨last,listed,line⟩ := (kept_line item.lineItemId rest).mpr ⟨next,present,of_decide_eq_true same⟩
        have found : ((kept rest).find? (·.lineItemId = item.lineItemId)).isSome = true :=
          List.find?_isSome.mpr ⟨last,listed,decide_eq_true line⟩
        obtain ⟨first,known⟩ := Option.isSome_iff_exists.mp found
        rw [known]
        rfl
      · rename_i last
        have none : (kept rest).find? (·.lineItemId = item.lineItemId) = none := by
          refine List.find?_eq_none.mpr fun other listed same => last ?_
          obtain ⟨next,present,line⟩ := (kept_line item.lineItemId rest).mp ⟨other,listed,of_decide_eq_true same⟩
          exact List.any_eq_true.mpr ⟨next,present,decide_eq_true line⟩
        rw [none,List.find?_cons_of_pos (by simp)]
        simp
    · rw [if_neg here]
      split
      · rfl
      · rw [List.find?_cons_of_neg (by simpa [eq_comm] using here)]

theorem kept_distinct (returnItems : List ReturnedItem) : ((kept returnItems).map (·.lineItemId)).Nodup := by
  induction returnItems with
  | nil => exact List.nodup_nil
  | cons item rest ih =>
    rw [kept_cons]
    split
    · exact ih
    · rename_i last
      refine List.nodup_cons.mpr ⟨?_,ih⟩
      intro listed
      obtain ⟨other,member,same⟩ := List.mem_map.mp listed
      obtain ⟨next,present,line⟩ := (kept_line item.lineItemId rest).mp ⟨other,member,same⟩
      exact last (List.any_eq_true.mpr ⟨next,present,decide_eq_true line⟩)

theorem kept_subset (returnItems : List ReturnedItem) : kept returnItems ⊆ returnItems := by
  induction returnItems with
  | nil => exact List.Subset.refl _
  | cons item rest ih =>
    rw [kept_cons]
    split
    · exact List.subset_cons_of_subset _ ih
    · exact List.cons_subset_cons _ ih

theorem values_kept (returnItems : List ReturnedItem) (returnItemId : String) :
    returnItemId ∈ (returnLineItems returnItems).values ↔ returnItemId ∈ (kept returnItems).map (·.id) := by
  constructor
  · intro listed
    obtain ⟨entry,member,rfl⟩ := List.mem_map.mp listed
    have found := Dict.entry_get (return_line_items_distinct returnItems) member
    rw [return_line_items_get] at found
    obtain ⟨item,first,same⟩ := Option.map_eq_some_iff.mp found
    exact List.mem_map.mpr ⟨item,List.mem_of_find?_eq_some first,same⟩
  · intro listed
    obtain ⟨item,member,rfl⟩ := List.mem_map.mp listed
    have found : ((kept returnItems).find? (·.lineItemId = item.lineItemId)).isSome = true :=
      List.find?_isSome.mpr ⟨item,member,decide_eq_true rfl⟩
    obtain ⟨first,known⟩ := Option.isSome_iff_exists.mp found
    have line : first.lineItemId = item.lineItemId := by simpa using List.find?_some known
    have same : first = item := List.inj_on_of_nodup_map (kept_distinct returnItems) (List.mem_of_find?_eq_some known)
      member line
    have get := return_line_items_get returnItems item.lineItemId
    rw [known,Option.map_some,same] at get
    exact List.mem_map_of_mem (Dict.get_entry get)

-- No return is lost, that is, where ids are distinct, no line item is returned twice.
theorem all_kept_iff (distinct : (returnItems.map (·.id)).Nodup) :
    (∀ item ∈ returnItems, item.id ∈ (kept returnItems).map (·.id)) ↔ (returnItems.map (·.lineItemId)).Nodup := by
  induction returnItems with
  | nil => simp
  | cons item rest ih =>
    obtain ⟨fresh,distinct⟩ := List.nodup_cons.mp distinct
    have first : item.id ∉ (kept rest).map (·.id) := by
      intro listed
      obtain ⟨other,member,same⟩ := List.mem_map.mp listed
      exact fresh (List.mem_map.mpr ⟨other,kept_subset rest member,same⟩)
    rw [kept_cons,List.map_cons,List.nodup_cons,List.forall_mem_cons]
    by_cases followed : rest.any (·.lineItemId = item.lineItemId) = true
    · rw [if_pos followed]
      obtain ⟨next,present,same⟩ := List.any_eq_true.mp followed
      refine iff_of_false (fun both => first both.1) fun both => both.1 ?_
      exact List.mem_map.mpr ⟨next,present,of_decide_eq_true same⟩
    · rw [if_neg followed,← ih distinct]
      have unlisted : item.lineItemId ∉ rest.map (·.lineItemId) := by
        intro listed
        obtain ⟨next,present,same⟩ := List.mem_map.mp listed
        exact followed (List.any_eq_true.mpr ⟨next,present,decide_eq_true same⟩)
      rw [List.map_cons,and_iff_right List.mem_cons_self,and_iff_right unlisted]
      refine forall₂_congr fun other member => List.mem_cons.trans (or_iff_right ?_)
      exact fun same => fresh (List.mem_map.mpr ⟨other,member,same⟩)

end Kept

def markedItems (actions : List OrderUpdateAction) : List String :=
  actions.filterMap fun
    | .setReturnPaymentState returnItemId _ => some returnItemId
    | .setReturnItemCustomType _ _ _ => none

def orderUpdate : Request → Option (List OrderUpdateAction)
  | .updateOrderById _ _ actions => some actions
  | _ => none

def orderUpdates (t : List (Exchange Request Response)) : List (List OrderUpdateAction) :=
  t.filterMap fun x => orderUpdate x.1

def Marks (returnItemIds : List String) (r : Request) : Prop :=
  ∀ actions ∈ orderUpdate r, markedItems actions = returnItemIds

section Steps
variable {k : Kwargs}

abbrev Passes (k : Kwargs) (p : Call Kwargs) : Prop :=
  p.Does (fun r => updatesOrder r = false) fun k' => k'.returnLineItems = k.returnLineItems

theorem call_does {δ : Type} {raised : δ → Exn} {p : Call (Except δ α)} (asks : p.Asks fun r => updatesOrder r = false) :
    (p.expect raised).Does (fun r => updatesOrder r = false) fun _ => True := asks.expect.does

theorem get_order_does (orderId : String) : (getOrderById orderId).Does (fun r => updatesOrder r = false) fun _ => True :=
  call_does (.perform rfl)

theorem get_payment_does (caller : Caller) (paymentKey : String) :
    (getPaymentByKey caller paymentKey).Does (fun r => updatesOrder r = false) fun _ => True := call_does (.perform rfl)

theorem update_payment_does (id : String) (version : Nat) (actions : List PaymentUpdateAction) :
    (updatePaymentById id version actions).Does (fun r => updatesOrder r = false) fun _ => True := call_does (.perform rfl)

theorem except_does {asked : Request → Prop} {returned : α → Prop} {p : Call α} {handler : ErrorCode → Call α}
    (first : p.Does asked returned) (later : ∀ code, (handler code).Does asked returned) :
    (exceptCommercetoolsError p handler).Does asked returned := by
  refine first.handle fun e => ?_
  cases e <;> first | exact later _ | trivial

theorem fetch_passes : Passes k (fetchOrderDetailsByOrderId k) := by
  unfold fetchOrderDetailsByOrderId
  split
  · rfl
  · refine except_does ?_ fun _ => rfl
    refine (get_order_does k.orderId).bind fun order _ => ?_
    dsimp only
    split
    · refine (get_payment_does _ _).bind fun payment _ => ?_
      split
      · trivial
      · rfl
    · rfl

theorem provider_does {p : Call α} (asks : p.Asks fun r => service r = .provider) :
    p.Does (fun r => updatesOrder r = false) fun _ => True := asks.does.mono fun _ => provider_updates

theorem stripe_passes : Passes k (refundPaymentIntent k) := by
  unfold refundPaymentIntent
  split
  · trivial
  · split
    · rfl
    split
    · rfl
    refine Prog.Does.handle (Prog.Does.bind (provider_does (stripe_asks _ _ _)) fun _ _ => rfl) fun e => ?_
    split
    · rfl
    · trivial

theorem paypal_passes : Passes k (refundPayPalPayment k) := by
  unfold refundPayPalPayment
  split
  · trivial
  · split
    · rfl
    split
    · rfl
    refine Prog.Does.handle (Prog.Does.bind (provider_does (paypal_asks _ _ _)) fun _ _ => rfl) fun e => ?_
    split
    · rfl
    · trivial

theorem append_passes (payment : Payment) (refund : Refund) (psp : Option String) :
    Passes k (exceptCommercetoolsError (do
      let _ ← createReturnPaymentTransaction payment.id payment.version refund (psp.getD "")
      return k) fun _ =>
        match messageError psp refund with
        | some error => .raise error
        | none => .pure k) := by
  refine except_does (Prog.Does.bind (update_payment_does _ _ _) fun _ _ => rfl) fun code => ?_
  split
  · trivial
  · rfl

theorem payment_of_refund_does (fetched : Fetched) (refund : Refund) :
    (paymentOfRefund fetched refund).Does (fun r => updatesOrder r = false) fun _ => True := by
  unfold paymentOfRefund
  split
  · split
    · exact get_payment_does _ _
    · trivial
  · split
    · exact get_payment_does _ _
    · trivial

theorem create_passes : Passes k (createReturnPaymentTransactionStep k) := by
  unfold createReturnPaymentTransactionStep
  split
  · trivial
  · rename_i fetched _
    split_ifs
    · rfl
    · rfl
    · rfl
    · rfl
    · split
      · rename_i refund _
        cases fetched.paymentData with
        | some payment => exact append_passes payment refund fetched.psp
        | none =>
          refine Prog.Does.bind (except_does (payment_of_refund_does fetched refund) fun _ => trivial) fun payment _ => ?_
          exact append_passes payment refund fetched.psp
      · trivial

theorem set_return_item_does (payment : Payment) (transactionId : String) (returnItemIds : List String) :
    (setTransactionReturnItemId payment transactionId returnItemIds).Does (fun r => updatesOrder r = false) fun _ => True := by
  unfold setTransactionReturnItemId
  split
  · trivial
  · exact (update_payment_does _ _ _).bind fun _ _ => trivial

theorem quiet_marks (returnItemIds : List String) (r : Request) (quiet : updatesOrder r = false) : Marks returnItemIds r := by
  cases r with
  | updateOrderById id version actions => cases quiet
  | _ => exact fun _ never => by cases never

theorem marked_items {refunds entitlements : Dict String} :
    markedItems (refundedStateActions returnItemIds paymentState ++
      transactionIdActions returnItemIds refunds entitlements transactionId) = returnItemIds := by
  simp [markedItems,refundedStateActions,transactionIdActions,List.filterMap_append,List.filterMap_map]

theorem update_marks (k : Kwargs) : (updateCommercetoolsOrderReturnPaymentStatus k).Asks (Marks k.returnLineItems.values) := by
  unfold updateCommercetoolsOrderReturnPaymentStatus
  split
  · trivial
  · split
    · trivial
    refine Prog.Asks.bind (Prog.Asks.handle (Prog.Asks.bind ((get_payment_does _ _).mono (quiet_marks _)).asks fun payment => ?_)
      fun e => by cases e <;> trivial) fun _ => trivial
    refine Prog.Asks.bind (.expect (.perform ?_)) fun order => ?_
    · rintro actions ⟨⟩
      exact marked_items
    · exact Prog.Asks.bind ((set_return_item_does _ _ _).mono (quiet_marks _)).asks fun _ => trivial

theorem pipeline_marks (k : Kwargs) : (runPipeline orderRefundRequested k).Asks (Marks k.returnLineItems.values) := by
  have step : ∀ {p rest : Kwargs → Call Kwargs}, (∀ k, Passes k (p k)) →
      (∀ k', k'.returnLineItems = k.returnLineItems → (rest k').Asks (Marks k.returnLineItems.values)) →
      ∀ k', k'.returnLineItems = k.returnLineItems → ((p k').bind rest).Asks (Marks k.returnLineItems.values) := by
    intro p rest passes later k' same
    exact (((passes k').mono (quiet_marks _)).bind fun a kept => (later a (kept.trans same)).does).asks
  change ((fetchOrderDetailsByOrderId {k with activeOrderManagementSystem := _}).bind fun k => (refundPaymentIntent k).bind
    fun k => (refundPayPalPayment k).bind fun k => (createReturnPaymentTransactionStep k).bind fun k =>
      (updateCommercetoolsOrderReturnPaymentStatus k).bind .pure).Asks _
  refine step (fun _ => fetch_passes) (step (fun _ => stripe_passes) (step (fun _ => paypal_passes)
    (step (fun _ => create_passes) ?_))) _ rfl
  intro k' same
  refine Prog.Asks.bind ?_ fun _ => trivial
  rw [← same]
  exact update_marks k'

end Steps

section Returned
variable {sold : Sale} {orderId : String} {returnItems : List ReturnedItem} {order : Order} {rest : List (Exchange Request Response)}
  {out : Except Exn Unit}

def NoneReplaced (returnItems : List ReturnedItem) : Prop :=
  ∀ item ∈ returnItems, item.id ∈ (kept returnItems).map (·.id)

instance (returnItems : List ReturnedItem) : Decidable (NoneReplaced returnItems) :=
  inferInstanceAs (Decidable (∀ item ∈ returnItems, _))

theorem revoke_does (returnItems : List ReturnedItem) (result : Kwargs) :
    (revokeLineItems sold returnItems result).Does (fun r => updatesOrder r = false) fun _ => True := by
  unfold revokeLineItems
  split
  · exact ⟨rfl,fun _ => trivial⟩
  · rename_i refund _
    rcases or_raise_cases (orderRefundedEvent sold returnItems result refund) with ⟨_,_,told⟩ | ⟨e,_,untold⟩
    · rw [told]
      exact ⟨rfl,fun _ => trivial⟩
    · rw [untold]
      trivial
  · trivial

theorem task_marks (path : getEdxPspPaymentId order ≠ none ∧ order.mobileOrder = false)
    (ran : (fulfillOrderReturnedSignalTask sold orderId returnItems).Answered (⟨.getOrderById orderId,.ok order⟩::rest) out) :
    ∀ actions ∈ orderUpdates rest, markedItems actions = (returnLineItems returnItems).values := by
  obtain ⟨x,_,same,ran⟩ := ran
  cases same
  suffices marks : ∀ x ∈ rest, Marks (returnLineItems returnItems).values x.1 by
    intro actions listed
    obtain ⟨x,member,update⟩ := List.mem_filterMap.mp listed
    exact marks x member actions update
  obtain ⟨x,later,rfl,ran⟩ := ran
  refine List.forall_mem_cons.mpr ⟨fun _ never => (by cases never),?_⟩
  cases x with
  | error code =>
    cases ran.1
    simp
  | ok customer =>
    by_cases edx : isEdxLmsOrder order = true
    · rcases or_raise_cases (getEdxLmsUserId sold) with ⟨_,_,known⟩ | ⟨e,_,unknown⟩
      swap
      · simp only [Prog.pure_bind,edx,not_true_eq_false,if_false,unknown,Prog.monad_bind,Prog.raise_bind] at ran
        cases ran.1
        simp
      simp only [Prog.pure_bind,edx,not_true_eq_false,if_false,known,Prog.monad_bind] at ran
      simp only [path,ne_eq,not_false_eq_true,and_self,if_true] at ran
      change ((runPipeline orderRefundRequested _).bind (revokeLineItems sold returnItems)).Answered later out at ran
      refine (Prog.Asks.bind (pipeline_marks _) fun result => ?_).answered ran
      exact ((revoke_does returnItems result).mono (quiet_marks _)).asks
    · simp only [Prog.pure_bind,edx] at ran
      cases ran.1
      simp

theorem reading_asks (k : Kwargs) : (runPipeline readingSteps k).Asks Quiet := by
  change ((fetchOrderDetailsByOrderId {k with activeOrderManagementSystem := _}).bind .pure).Asks Quiet
  rw [Prog.bind_pure]
  refine ite_asks trivial (except_asks ?_ fun _ => trivial)
  refine Prog.Asks.bind (.expect (.perform rfl)) fun order => ?_
  dsimp only
  split
  · refine Prog.Asks.bind (get_payment_asks _ _) fun payment => ?_
    split <;> trivial
  · trivial

-- A run that completes, and has asked the provider, has updated the order.
theorem update_made (path : getEdxPspPaymentId order ≠ none ∧ order.mobileOrder = false)
    (ran : (fulfillOrderReturnedSignalTask sold orderId returnItems).Answered (⟨.getOrderById orderId,.ok order⟩::rest) (.ok ()))
    (asked : ∃ x ∈ rest, service x.1 = .provider) (some : returnItems ≠ []) : ∃ actions, actions ∈ orderUpdates rest := by
  suffices sets : ∃ returnItemId paymentState, Sets rest returnItemId paymentState by
    obtain ⟨_,_,id,version,actions,order,member,_⟩ := sets
    exact ⟨actions,List.mem_filterMap.mpr ⟨_,member,rfl⟩⟩
  obtain ⟨x,others,rfl⟩ : ∃ x others, rest = (⟨.getCustomerById order.customerId,.ok x⟩ : Exchange Request Response)::others := by
    obtain ⟨x,_,same,read⟩ := ran
    cases same
    obtain ⟨x,others,rfl,read⟩ := read
    cases x with
    | error code => cases read.2
    | ok customer => exact ⟨customer,others,rfl⟩
  obtain ⟨asking,member,provider⟩ := asked
  have continued : asking ∈ others := (List.mem_cons.mp member).resolve_left fun same => by
    rw [same] at provider
    cases provider
  obtain ⟨result,piped,revoked,rfl,called,revoke⟩ := pipeline_called path (List.ne_nil_of_mem continued) ran
  obtain ⟨k,fetched,reads,middle,rfl,fetch,read,refunded⟩ := pipeline_read called
  obtain ⟨order',_,rfl,psp,rfl,complete⟩ := reading_steps_answered rfl read fetch
  obtain ⟨item,listed,value⟩ := some_return_listed some
  by_cases reached : Reached fetched
  · have paid : ¬ Unpaid fetched := by
      intro unpaid
      obtain ⟨_,⟨stripe,_⟩ | ⟨paypal,_⟩⟩ := reached
      · exact absurd (unpaid.1.symm.trans stripe) (by simp)
      · exact absurd (unpaid.1.symm.trans paypal) (by simp)
    obtain ⟨payment,ctPayment,_,_,_,_,_,details⟩ := complete paid
    obtain ⟨outcome,asked,recording,rfl,_,_,⟨_,never,_⟩ | ⟨_,_,sets⟩⟩ :=
      refund_answered fetch reached rfl rfl rfl (by rw [details]; rfl) refunded
    · cases never
    · refine ⟨item.id,if reportsError outcome then .notRefunded else .refunded,?_⟩
      have marked := (sets item.id (if reportsError outcome then .notRefunded else .refunded)).mpr ⟨value,rfl⟩
      obtain ⟨id,version,actions,order,member,action⟩ := marked
      refine ⟨id,version,actions,order,List.mem_cons_of_mem _ ?_,action⟩
      exact List.mem_append_left _ (List.mem_append_right _ member)
  · change (runPipeline (refundSteps++recordingSteps) _).Answered middle (.ok result) at refunded
    rw [run_pipeline_append,refund_steps_skipped fetch reached,Prog.pure_bind] at refunded
    have quiet : service asking.1 ≠ .provider := by
      rcases List.mem_append.mp continued with earlier | after
      · rcases List.mem_append.mp earlier with reading | recording
        · have never := (reading_asks _).answered read _ reading
          change service asking.1 = .commercetools at never
          rw [never]
          decide
        · have never := (recording_asks _).answered refunded _ recording
          rw [never]
          decide
      · exact revoke_service revoke _ after
    exact absurd provider quiet

theorem every_return_marked_iff (path : getEdxPspPaymentId order ≠ none ∧ order.mobileOrder = false)
    (ran : (fulfillOrderReturnedSignalTask sold orderId returnItems).Answered (⟨.getOrderById orderId,.ok order⟩::rest) out) :
    (∀ actions ∈ orderUpdates rest, (∀ item ∈ returnItems, item.id ∈ markedItems actions) ↔ NoneReplaced returnItems) ∧
    (out = .ok () → (∃ x ∈ rest, service x.1 = .provider) → returnItems ≠ [] → ∃ actions, actions ∈ orderUpdates rest) := by
  refine ⟨?_,?_⟩
  · intro actions issued
    rw [task_marks path ran actions issued]
    exact forall₂_congr fun item _ => values_kept returnItems item.id
  · rintro rfl
    exact update_made path ran

end Returned

section TwoReturns

def twoReturns : List ReturnedItem := [⟨"first","line-item"⟩,⟨"second","line-item"⟩]

def returnedTwice : Order :=
  {soldAndReturned with
    returnInfo := [[⟨"first","line-item",.initial,none,none⟩,⟨"second","line-item",.initial,none,none⟩]]}

def recordedRefund : Payment := recordedWith edxStripePaymentInterfaceName (issued "succeeded")

def twoReturnsRun : List (Exchange Request Response) :=
  [⟨.getCustomerById "customer",.ok ()⟩,⟨.getOrderById "order",.ok returnedTwice⟩,
    ⟨.getPaymentByKey .fetchOrderDetails "pi_1",.ok (paidWith edxStripePaymentInterfaceName)⟩]++askedStripe "succeeded"++
  [⟨.updatePaymentById "payment" 1 [.addTransaction (refundTransactionDraft (issued "succeeded") edxStripePaymentInterfaceName)],
      .ok recordedRefund⟩,
    ⟨.getPaymentByKey .updateReturnPaymentState "pi_1",.ok recordedRefund⟩,
    ⟨.updateOrderById "order" 3 [.setReturnPaymentState "second" .refunded,
      .setReturnItemCustomType "second" "payment/1" none],.ok returnedTwice⟩,
    ⟨.updatePaymentById "payment" 2 [.setTransactionCustomType "payment/1" "second"],.ok recordedRefund⟩,
    ⟨.sendRevokeLineItems ["first","second"],()⟩]

theorem two_returns_marked_once :
    (fulfillOrderReturnedSignalTask (courseSale ["line-item"]) "order" twoReturns).Answered (⟨.getOrderById "order",.ok returnedTwice⟩::twoReturnsRun)
      (.ok ()) ∧
    (∀ item ∈ twoReturns, HasReturn returnedTwice item.id item.lineItemId) ∧ ¬ Refunded returnedTwice "line-item" ∧
    twoReturnsRun.any pspFailed = false ∧ (orderUpdates twoReturnsRun).map markedItems = [["second"]] := by
  refine ⟨Prog.follow_answered (by decide +kernel),?_,?_,by decide +kernel,by decide +kernel⟩
  · unfold HasReturn
    decide +kernel
  · unfold Refunded
    decide +kernel

def soldRun : List (Exchange Request Response) :=
  ⟨.getCustomerById "customer",.ok ()⟩::⟨.getOrderById "order",.ok soldAndReturned⟩::refundedRun

theorem single_return_marked :
    ∃ actions, actions ∈ orderUpdates soldRun ∧
      ∀ item ∈ [(⟨"return","line-item"⟩ : ReturnedItem)], item.id ∈ markedItems actions := by
  have ran : (fulfillOrderReturnedSignalTask (courseSale ["line-item"]) "order" [⟨"return","line-item"⟩]).Answered
      (⟨.getOrderById "order",.ok soldAndReturned⟩::soldRun) (.ok ()) := Prog.follow_answered (by decide +kernel)
  have marked := every_return_marked_iff (by decide +kernel) ran
  obtain ⟨actions,issued⟩ := marked.2 rfl
    ⟨⟨.stripeRefundCreate "pi_1" 4900 ["line-item"],.ok (issued "succeeded")⟩,by simp [soldRun,refundedRun,askedStripe],rfl⟩
    (List.cons_ne_nil _ _)
  exact ⟨actions,issued,(marked.1 actions issued).mpr (by decide)⟩

end TwoReturns
end ReturnedItems
