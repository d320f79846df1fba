import CommerceCoordinator.RefundDelivery

open Commercetools CallTree OrderReturn PaymentTransactions CommercetoolsClient RefundPipeline OrderReturned RefundDelivery

-- A refund made by the app store: refund_from_mobile_task records it, the mobile
-- branch of fulfill_order_returned_signal_task marks the return, in either order.
namespace MobileRefund

structure OrderWithReturnInfo where
  orderId : String
  orderVersion : Nat
  returnLineItemReturnIds : List String
  deriving DecidableEq

-- The latest return whose first item is refunded and carries no transaction;
-- `none` is the IndexError of a return without items.
def unprocessedReturnItemIds : List (List ReturnItem) → Option (List String)
  | [] => some []
  | [] :: _ => none
  | (item::items) :: rest =>
    if item.paymentState = .refunded ∧ item.transactionId.getD "" = "" then some ((item::items).map (·.id))
    else unprocessedReturnItemIds rest

def getUnprocessedReturnItemIdsFromOrder (order : Order) : Option (List String) :=
  unprocessedReturnItemIds order.returnInfo.reverse

def findOrderWithUnprocessedReturnForPayment (paymentId : String) : Call (Option OrderWithReturnInfo) := do
  match ← .expect .commercetoolsError (.perform (Request.queryOrders paymentId)) with
  | none => return none
  | some order =>
    match getUnprocessedReturnItemIdsFromOrder order with
    | none => .raise .indexError
    | some returnLineItemReturnIds => return some ⟨order.id,order.version,returnLineItemReturnIds⟩

-- An Android notification has no amount; the planned one stands in for it.
def refundOfPayment (paymentInterface : String) (refund : Refund) (payment : Payment) : Refund :=
  if paymentInterface = edxAndroidIapPaymentInterfaceName then
    {refund with amount := payment.amountPlanned.centAmount, currency := payment.amountPlanned.currencyCode}
  else refund

def recordMobileRefund (paymentInterface : String) (refund : Refund) (payment : Payment) : Call Payment :=
  if hasFullRefundTransaction payment || isTransactionAlreadyRefunded payment (some refund.id) then .pure payment
  else do
    let payment ← createReturnPaymentTransaction payment.id payment.version
      (refundOfPayment paymentInterface refund payment) paymentInterface
    .perform (Request.sendRevokeLineMobileOrder payment.id)
    return payment

-- For a payment that is not found the task ends, after a call of the legacy
-- system at most.
def refundFromMobileTask (paymentInterface : String) (refund : Refund) : Call Unit := do
  match ← getPaymentByTransactionInteractionId refund.id with
  | none => return ()
  | some payment => do
    let payment ← recordMobileRefund paymentInterface refund payment
    match ← findOrderWithUnprocessedReturnForPayment payment.id with
    | none => return ()
    | some result => do
      let _ ← updateReturnPaymentStateAfterSuccessfulRefund result.orderId result.orderVersion
        result.returnLineItemReturnIds [] [] (some refund.id) (some refund.id) .refunded (some payment) false
      return ()

structure Purchase where
  ledger : Ledger
  refund : Refund
  paymentInterface : String
  sold : Sale
  returnItems : List ReturnedItem
  earlier : List (List ReturnItem)
  returned : List ReturnItem
  later : List (List ReturnItem)
  returnInfo : ledger.order.returnInfo = earlier ++ returned :: later
  named : returned.map (·.id) = returnItems.map (·.id)
  someItem : returnItems ≠ []
  distinct : ∀ entry ∈ earlier ++ later, ∀ item ∈ entry, item.id ∉ returnItems.map (·.id)
  pending : ∀ item ∈ returned, item.paymentState ≠ .refunded ∧ item.transactionId = none
  processed : ∀ entry ∈ earlier ++ later, entry ≠ [] ∧
    ∀ item ∈ entry, item.paymentState = .refunded → item.transactionId.getD "" ≠ ""
  edxOrder : isEdxLmsOrder ledger.order = true
  mobile : ledger.order.mobileOrder = true
  paid : ¬ (getEdxPspPaymentId (expanded ledger) = none ∧ ledger.order.totalPrice.centAmount = 0)
  attached : ledger.order.payments.getLast?.map (·.id) = some ledger.payment.id
  charge : ledger.payment.transactions.any (·.interactionId = some refund.id) = true
  charged : hasFullRefundTransaction ledger.payment = false
  unrefunded : ∀ transaction ∈ ledger.payment.transactions, transaction.type ≠ .refund

namespace Purchase
variable (purchase : Purchase)

def ids : List String := purchase.returnItems.map (·.id)

def draft : TransactionDraft :=
  refundTransactionDraft (refundOfPayment purchase.paymentInterface purchase.refund purchase.ledger.payment)
    purchase.paymentInterface

def transactionId : String := purchase.ledger.payment.id++"/"++toString purchase.ledger.payment.transactions.length

end Purchase

def unlinked (transaction : Transaction) : Transaction := {transaction with returnItemId := none}

def Recorded (purchase : Purchase) (payment : Payment) : Prop :=
  plain payment = plain purchase.ledger.payment ∧ payment.transactions.map unlinked =
    (addTransaction purchase.ledger.payment purchase.draft).transactions.map unlinked

def mark (ids : List String) (item : ReturnItem) : ReturnItem :=
  if item.id ∈ ids then {item with paymentState := .refunded} else item

def link (ids : List String) (transactionId : String) (item : ReturnItem) : ReturnItem :=
  if item.id ∈ ids then
    {item with paymentState := .refunded, transactionId := some transactionId, lmsEntitlementId := none}
  else item

def Becomes (purchase : Purchase) (change : ReturnItem → ReturnItem) (order : Order) : Prop :=
  order.id = purchase.ledger.order.id ∧ order.payments = purchase.ledger.order.payments ∧
    order.returnInfo = purchase.ledger.order.returnInfo.map (·.map change)

def Marked (purchase : Purchase) : Order → Prop := Becomes purchase (mark purchase.ids)
def Linked (purchase : Purchase) : Order → Prop := Becomes purchase (link purchase.ids purchase.transactionId)

section Items
variable {purchase : Purchase} {ids : List String} {transactionId : String} {item : ReturnItem}

theorem change_listed (change : ReturnItem → ReturnItem) (id : ∀ item, (change item).id = item.id)
    (twice : ∀ item, change (change item) = change item) (ids : List String) (item : ReturnItem) :
    ids.foldl (fun item returnItemId => if item.id = returnItemId then change item else item) item =
      if item.id ∈ ids then change item else item := by
  induction ids generalizing item with
  | nil => simp
  | cons head rest ih =>
    rw [List.foldl_cons,ih]
    by_cases here : item.id = head
    · by_cases again : head ∈ rest <;> simp [here,id,twice,again]
    · simp [here]

theorem marking_actions : itemAfter (ids.flatMap (mobileOrderActions "")) = mark ids := by
  funext item
  rw [itemAfter,List.foldl_flatMap]
  exact change_listed (fun item => {item with paymentState := .refunded}) (fun _ => rfl) (fun _ => rfl) ids item

theorem linking_actions (named : transactionId ≠ "") :
    itemAfter (ids.flatMap (mobileOrderActions transactionId)) = link ids transactionId := by
  funext item
  rw [itemAfter,List.foldl_flatMap]
  have one : (fun (item : ReturnItem) returnItemId => List.foldl (fun item action => OrderUpdateAction.change action item) item
      (mobileOrderActions transactionId returnItemId)) = fun item returnItemId =>
        if item.id = returnItemId then
          {item with paymentState := .refunded, transactionId := some transactionId, lmsEntitlementId := none}
        else item := by
    funext item returnItemId
    by_cases same : item.id = returnItemId <;> simp [mobileOrderActions,named,OrderUpdateAction.change,same]
  rw [one]
  exact change_listed
    (fun item => {item with paymentState := .refunded, transactionId := some transactionId, lmsEntitlementId := none})
    (fun _ => rfl) (fun _ => rfl) ids item

theorem transactions_written (ids : List String) (refunds entitlements : Dict String) (transactionId : String)
    (item : ReturnItem) : itemAfter (transactionIdActions ids refunds entitlements transactionId) item =
      if item.id ∈ ids then {item with
        transactionId := some ((refunds.get item.id).getD transactionId)
        lmsEntitlementId := (entitlements.get item.id).filter (· ≠ "")} else item := by
  rw [itemAfter,transactionIdActions,List.foldl_map]
  refine Eq.trans ?_ (change_listed (fun item => {item with
    transactionId := some ((refunds.get item.id).getD transactionId)
    lmsEntitlementId := (entitlements.get item.id).filter (· ≠ "")}) (fun _ => rfl) (fun _ => rfl) ids item)
  congr 1
  funext item returnId
  by_cases same : item.id = returnId <;> simp [OrderUpdateAction.change,same]

theorem relinking_actions : itemAfter (transactionIdActions ids [] [] transactionId) ∘ mark ids = link ids transactionId := by
  funext item
  by_cases listed : item.id ∈ ids <;> simp [transactions_written,mark,link,listed,Dict.get]

end Items

section Payments
variable {purchase : Purchase} {payment : Payment}

theorem refund_of_payment_id (paymentInterface : String) (refund : Refund) (payment : Payment) :
    (refundOfPayment paymentInterface refund payment).id = refund.id := by
  unfold refundOfPayment
  split <;> rfl

theorem draft_interaction_id (purchase : Purchase) : purchase.draft.interactionId = purchase.refund.id :=
  refund_of_payment_id ..

theorem add_recorded (purchase : Purchase) : Recorded purchase (addTransaction purchase.ledger.payment purchase.draft) :=
  ⟨rfl,rfl⟩

theorem transaction_id_named (purchase : Purchase) : purchase.transactionId ≠ "" := by
  intro empty
  have lists := congrArg String.toList empty
  simp [Purchase.transactionId] at lists

theorem recorded_find (recorded : Recorded purchase payment) (sought : Transaction → Bool)
    (blind : sought ∘ unlinked = sought) (old : ∀ transaction ∈ purchase.ledger.payment.transactions, sought transaction = false)
    (new : ∀ transaction : Transaction, transaction.type = .refund → transaction.interactionId = some purchase.refund.id →
      sought transaction = true) : (payment.transactions.find? sought).map (·.id) = some purchase.transactionId := by
  have through : ∀ transactions : List Transaction, (transactions.find? sought).map (·.id) =
      ((transactions.map unlinked).find? sought).map (·.id) := by
    intro transactions
    rw [List.find?_map,blind,Option.map_map]
    rfl
  rw [through,recorded.2,← through,addTransaction,List.find?_append,List.find?_eq_none.mpr fun t member => by simp [old t member],
    Option.none_or,List.find?_singleton,if_pos]
  · rfl
  · exact new _ rfl (congrArg some (draft_interaction_id purchase))

theorem recorded_first (recorded : Recorded purchase payment) :
    (payment.transactions.find? (·.type = .refund)).map (·.id) = some purchase.transactionId :=
  recorded_find recorded _ rfl (fun transaction member => decide_eq_false (purchase.unrefunded transaction member))
    fun _ refund _ => decide_eq_true refund

theorem recorded_found (recorded : Recorded purchase payment) :
    refundTransactionId payment (some purchase.refund.id) = purchase.transactionId := by
  have found := recorded_find recorded (isRefund (some purchase.refund.id)) rfl
    (fun transaction member => by simp [isRefund,purchase.unrefunded transaction member])
    fun _ refund interaction => by simp [isRefund,refund,interaction]
  simp only [refundTransactionId,findRefundTransaction,found,Option.getD_some,transaction_id_named,if_false]

theorem recorded_kept (recorded : Recorded purchase payment)
    (applied : applyPaymentActions [.setTransactionCustomType transactionId returnItemId] payment = some updated) :
    Recorded purchase updated := by
  obtain ⟨middle,first,equal⟩ := Option.bind_eq_some_iff.mp applied
  obtain ⟨changed,present,rest⟩ := Option.bind_eq_some_iff.mp (List.foldlM_cons.symm.trans first)
  obtain ⟨_,set⟩ := Option.ite_none_right_eq_some.mp present
  cases equal
  cases rest
  cases set
  refine ⟨recorded.1,?_⟩
  rw [← recorded.2,List.map_map]
  refine List.map_congr_left fun transaction _ => ?_
  simp only [Function.comp_apply]
  split <;> rfl

theorem recorded_transaction (recorded : Recorded purchase payment) : ∃ transaction ∈ payment.transactions,
    transaction.id = purchase.transactionId ∧ transaction.type = .refund ∧
      transaction.interactionId = some purchase.refund.id := by
  have found := recorded_find recorded (isRefund (some purchase.refund.id)) rfl
    (fun transaction member => by simp [isRefund,purchase.unrefunded transaction member])
    fun _ refund interaction => by simp [isRefund,refund,interaction]
  obtain ⟨transaction,first,same⟩ := Option.map_eq_some_iff.mp found
  have refund := List.find?_some first
  simp only [isRefund,decide_eq_true_eq] at refund
  exact ⟨transaction,List.mem_of_find?_eq_some first,same,refund⟩

theorem copy_transaction_id (s : Ledger) (payments : s.order.payments = purchase.ledger.order.payments)
    (same : s.payment.id = purchase.ledger.payment.id) : getRefundTransactionIdFromOrder (expanded s) =
      some (((s.payment.transactions.find? (·.type = .refund)).map (·.id)).getD "") := by
  obtain ⟨last,latest,id⟩ := Option.map_eq_some_iff.mp purchase.attached
  simp only [getRefundTransactionIdFromOrder,expanded,List.getLast?_map,payments,latest,Option.map_some,id,same,if_true]

end Payments

section Returns
variable {purchase : Purchase} {order : Order}

theorem ids_nonempty (purchase : Purchase) : purchase.returned ≠ [] := by
  intro empty
  have named := purchase.named
  rw [empty,List.map_nil] at named
  exact purchase.someItem (List.map_eq_nil_iff.mp named.symm)

theorem returned_listed (member : item ∈ purchase.returned) : item.id ∈ purchase.ids := by
  unfold Purchase.ids
  rw [← purchase.named]
  exact List.mem_map_of_mem member

theorem change_elsewhere {change : ReturnItem → ReturnItem} (same : ∀ item, item.id ∉ purchase.ids → change item = item)
    (member : entry ∈ purchase.earlier ++ purchase.later) : entry.map change = entry := by
  rw [List.map_congr_left fun item listed => same item (purchase.distinct entry member item listed)]
  exact List.map_id _

theorem changed_return_info {change : ReturnItem → ReturnItem}
    (same : ∀ item, item.id ∉ purchase.ids → change item = item) (becomes : Becomes purchase change order) :
    order.returnInfo = purchase.earlier ++ purchase.returned.map change :: purchase.later := by
  have kept : ∀ entries : List (List ReturnItem), (∀ entry ∈ entries, entry ∈ purchase.earlier ++ purchase.later) →
      entries.map (·.map change) = entries := by
    intro entries among
    rw [List.map_congr_left fun entry member => change_elsewhere same (among entry member)]
    exact List.map_id' _
  rw [becomes.2.2,purchase.returnInfo,List.map_append,List.map_cons,kept _ fun _ => List.mem_append_left _,
    kept _ fun _ => List.mem_append_right _]

theorem unprocessed_skip (entries : List (List ReturnItem)) (rest : List (List ReturnItem))
    (processed : ∀ entry ∈ entries, entry ≠ [] ∧
      ∀ item ∈ entry, item.paymentState = .refunded → item.transactionId.getD "" ≠ "") :
    unprocessedReturnItemIds (entries ++ rest) = unprocessedReturnItemIds rest := by
  induction entries with
  | nil => rfl
  | cons entry others ih =>
    have later := ih fun entry member => processed entry (List.mem_cons_of_mem _ member)
    obtain ⟨nonempty,items⟩ := processed entry List.mem_cons_self
    cases entry with
    | nil => exact absurd rfl nonempty
    | cons item items =>
      rw [List.cons_append,unprocessedReturnItemIds,if_neg]
      · exact later
      · intro both
        obtain ⟨refunded,missing⟩ := both
        exact (processed _ List.mem_cons_self).2 item List.mem_cons_self refunded missing

theorem marked_unprocessed (marked : Marked purchase order) :
    getUnprocessedReturnItemIdsFromOrder order = some purchase.ids := by
  have info := changed_return_info (fun item other => by simp [mark,other]) marked
  unfold getUnprocessedReturnItemIdsFromOrder
  rw [info,List.reverse_append,List.reverse_cons,List.append_assoc,unprocessed_skip]
  · cases list : purchase.returned with
    | nil => exact absurd list (ids_nonempty purchase)
    | cons item items =>
      have first : item ∈ purchase.returned := by rw [list]; exact List.mem_cons_self
      have listed := returned_listed first
      have names : ((item::items).map (mark purchase.ids)).map (·.id) = purchase.ids := by
        rw [List.map_map,← list]
        refine (List.map_congr_left fun item _ => ?_).trans purchase.named
        simp only [Function.comp_apply,mark]
        split <;> rfl
      rw [List.map_cons,List.singleton_append,unprocessedReturnItemIds,if_pos]
      · exact congrArg some names
      · simp [mark,listed,(purchase.pending item first).2]
  · intro entry member
    exact purchase.processed entry (List.mem_append_right _ (List.mem_reverse.mp member))

theorem changed_processed {change : ReturnItem → ReturnItem}
    (same : ∀ item, item.id ∉ purchase.ids → change item = item) (becomes : Becomes purchase change order)
    (settled : ∀ item ∈ purchase.returned, ¬ ((change item).paymentState = .refunded ∧ (change item).transactionId = none)) :
    hasUnprocessedReturn order = false := by
  have info := changed_return_info same becomes
  simp only [hasUnprocessedReturn,List.any_eq_false,decide_eq_true_eq]
  intro item member
  obtain ⟨entry,listed,within⟩ := List.mem_flatten.mp member
  rw [info] at listed
  have other : entry ∈ purchase.earlier ++ purchase.later → ¬ (item.paymentState = .refunded ∧ item.transactionId = none) := by
    intro among both
    obtain ⟨refunded,missing⟩ := both
    exact (purchase.processed entry among).2 item within refunded (by simp [missing])
  rcases List.mem_append.mp listed with before | rest
  · exact other (List.mem_append_left _ before)
  · rcases List.mem_cons.mp rest with rfl | after
    · obtain ⟨origin,returned,rfl⟩ := List.mem_map.mp within
      exact settled origin returned
    · exact other (List.mem_append_right _ after)

theorem original_becomes (purchase : Purchase) : Becomes purchase (fun item => item) purchase.ledger.order :=
  ⟨rfl,rfl,by simp⟩

theorem original_processed (purchase : Purchase) : hasUnprocessedReturn purchase.ledger.order = false :=
  changed_processed (fun _ _ => rfl) (original_becomes purchase) fun item member refunded =>
    (purchase.pending item member).1 refunded.1

theorem linked_processed (linked : Linked purchase order) : hasUnprocessedReturn order = false :=
  changed_processed (fun item other => by simp [link,other]) linked
    fun item member => by simp [link,returned_listed member]

theorem some_returned (purchase : Purchase) : ∃ item, item ∈ purchase.returned :=
  List.exists_mem_of_ne_nil _ (ids_nonempty purchase)

theorem changed_member {change : ReturnItem → ReturnItem} (same : ∀ item, item.id ∉ purchase.ids → change item = item)
    (becomes : Becomes purchase change order) (member : item ∈ purchase.returned) :
    change item ∈ Rollout.getOrderReturnInfoReturnItems order := by
  have info := changed_return_info same becomes
  rw [Rollout.getOrderReturnInfoReturnItems,info]
  exact List.mem_flatten.mpr ⟨_,List.mem_append_right _ List.mem_cons_self,List.mem_map_of_mem member⟩

theorem marked_open (marked : Marked purchase order) : hasUnprocessedReturn order = true := by
  obtain ⟨item,member⟩ := some_returned purchase
  have changed := changed_member (fun item other => by simp [mark,other]) marked member
  refine List.any_eq_true.mpr ⟨_,changed,?_⟩
  simp [mark,returned_listed member,(purchase.pending item member).2]

theorem original_unmarked (purchase : Purchase) : ¬ Marked purchase purchase.ledger.order := by
  intro marked
  have open_ := marked_open marked
  rw [original_processed] at open_
  cases open_

theorem linked_items (linked : Linked purchase order) (item : ReturnItem)
    (member : item ∈ Rollout.getOrderReturnInfoReturnItems order) (returned : item.id ∈ purchase.ids) :
    item.paymentState = .refunded ∧ item.transactionId = some purchase.transactionId := by
  rw [Rollout.getOrderReturnInfoReturnItems,linked.2.2] at member
  obtain ⟨entry,listed,within⟩ := List.mem_flatten.mp member
  obtain ⟨origin,_,rfl⟩ := List.mem_map.mp listed
  obtain ⟨old,_,rfl⟩ := List.mem_map.mp within
  by_cases named : old.id ∈ purchase.ids
  · simp [link,named]
  · simp only [link,named,if_false] at returned

end Returns

end MobileRefund
