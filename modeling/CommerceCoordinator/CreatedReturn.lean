import CommerceCoordinator.ReturnCreation
import Mathlib.Data.Fintype.EquivFin

open Commercetools CallTree OrderReturn Rollout

-- The return item that a run of CreateReturnForCommercetoolsOrder reports to the
-- pipeline, against the one that it has added.
namespace ReturnCreation

-- A run whose calls are answered, or fail, as `choice` has it. Another update between
-- the two calls would have the second refused.
def execute (choice : Request → Choice) (r : Run) (order : Order) : Except Raised Output × Order :=
  r.task.exec (fun request => serve (choice request) request) order

def Fresh (choice : Request → Choice) (order : Order) : Prop :=
  ∀ request returnItemIds, choice request = .answered returnItemIds →
    ∀ n, ∀ item ∈ getOrderReturnInfoReturnItems order, item.id ≠ returnItemIds n

-- A run that succeeds has appended one return item, for its line item, and returns its id.
def CreatedReturnReported (order : Order) (orderLineItemId : String) : Prop :=
  ∀ (choice : Request → Choice) (activeOrderManagementSystem orderId : String) (returnedOrder final : Order)
    (returnedLineItemReturnId : String), Fresh choice order →
    execute choice ⟨activeOrderManagementSystem,orderId,orderLineItemId⟩ order =
      (.ok (.returned returnedOrder returnedLineItemReturnId),final) →
    ∃ item, final.returnInfo = order.returnInfo ++ [[item]] ∧ item.lineItemId = orderLineItemId ∧
      returnedLineItemReturnId = item.id

def draftFor (order : Order) (orderLineItemId : String) : ReturnItemDraft :=
  ⟨1,orderLineItemId,
    "Creating return item for order " ++ order.id ++ " with order line item ID " ++ orderLineItemId,.returned⟩

def withReturn (returnItemIds : Nat → String) (order : Order) (orderLineItemId : String) : Order :=
  applyActions returnItemIds [⟨[draftFor order orderLineItemId]⟩] order

theorem withReturn_returnInfo (returnItemIds : Nat → String) (order : Order) (orderLineItemId : String) :
    (withReturn returnItemIds order orderLineItemId).returnInfo =
      order.returnInfo ++ [[⟨returnItemIds 0,orderLineItemId,.initial,none,none⟩]] := by
  simp [withReturn,applyActions,addReturnItems,addReturnInfo,draftFor]

section Calls
variable {choice : Request → Choice} {orderLineItemId : String}

def served (choice : Request → Choice) (request : Request) (order : Order) : Response request × Order :=
  serve (choice request) request order

def proceed (choice : Request → Choice) (next : Order → Call Output) :
    Except Failure Order × Order → Except Raised Output × Order
  | (.ok answer,order) => (exceptFailures (next answer)).exec (served choice) order
  | (.error failure,order) => (exceptFailures (.raise (.failure failure))).exec (served choice) order

theorem exec_answered (choice : Request → Choice) (request : Request) (next : Order → Call Output) (order : Order) :
    (exceptFailures ((Prog.expect .failure (.perform request)).bind next)).exec (served choice) order =
      proceed choice next (served choice request order) := by
  simp only [Prog.expect,Prog.perform,exceptFailures,Prog.call_bind,Prog.pure_bind,Prog.call_handle,Prog.exec_call]
  obtain ⟨answer,order⟩ := served choice request order
  cases answer <;> rfl

theorem execute_read (active : activeOrderManagementSystem = RefundPipeline.commercetoolsOrderManagementSystem)
    (orderId : String) (order : Order) : execute choice ⟨activeOrderManagementSystem,orderId,orderLineItemId⟩ order =
      proceed choice (createReturnOnce · orderLineItemId) (served choice (.getOrderById orderId) order) := by
  rw [execute,Run.task,runFilter,if_neg (not_not.mpr active)]
  exact exec_answered choice (.getOrderById orderId) (createReturnOnce · orderLineItemId) order

def reported (created : Order) : Call Output := (firstReturnItemId created).bind fun id => .pure (.returned created id)

theorem execute_write (copy order : Order) (unreturned : orderLineItemId ∉ returnedLineItems copy) :
    (exceptFailures (createReturnOnce copy orderLineItemId)).exec (served choice) order =
      proceed choice reported
        (served choice (.updateOrderById copy.id copy.version [⟨[draftFor copy orderLineItemId]⟩]) order) := by
  have created := (not_created copy orderLineItemId).mpr unreturned
  rw [createReturnOnce,if_pos (by simp [created])]
  exact exec_answered choice (.updateOrderById copy.id copy.version [⟨[draftFor copy orderLineItemId]⟩]) reported order

theorem failure_not_returned (failure : Failure) (order returnedOrder final : Order) (reportedId : String) :
    (exceptFailures (.raise (.failure failure))).exec (served choice) order ≠
      (.ok (.returned returnedOrder reportedId),final) := by
  cases failure <;> (intro never; cases never)

theorem proceed_returned {next : Order → Call Output} {served : Except Failure Order × Order} {returnedOrder final : Order}
    {reportedId : String} (ran : proceed choice next served = (.ok (.returned returnedOrder reportedId),final)) :
    ∃ answer order, served = (.ok answer,order) ∧
      (exceptFailures (next answer)).exec (ReturnCreation.served choice) order =
        (.ok (.returned returnedOrder reportedId),final) := by
  obtain ⟨answer | answer,order⟩ := served
  · exact absurd ran (failure_not_returned answer order returnedOrder final reportedId)
  · exact ⟨answer,order,rfl,ran⟩

theorem first_returned {created order returnedOrder final : Order} {reportedId : String}
    (returned : (exceptFailures (reported created)).exec (served choice) order =
      (.ok (.returned returnedOrder reportedId),final)) :
    final = order ∧ ∃ item items infos, created.returnInfo = (item :: items) :: infos ∧ reportedId = item.id := by
  unfold reported firstReturnItemId at returned
  split at returned
  · next item items infos first =>
    cases returned
    exact ⟨rfl,item,items,infos,first,rfl⟩
  · cases returned

theorem order_read {orderId : String} {order copy final : Order}
    (read : served choice (.getOrderById orderId) order = (.ok copy,final)) : copy = order ∧ final = order := by
  unfold served at read
  cases chosen : choice (.getOrderById orderId) with
  | answered returnItemIds =>
    rw [chosen,serve] at read
    split at read <;> cases read
    exact ⟨rfl,rfl⟩
  | failed failure => rw [chosen] at read; cases read
  | lost returnItemIds failure => rw [chosen] at read; cases read

theorem order_written {order created final : Order} (written : served choice
      (.updateOrderById order.id order.version [⟨[draftFor order orderLineItemId]⟩]) order = (.ok created,final)) :
    created = final ∧ ∃ returnItemIds, final = withReturn returnItemIds order orderLineItemId := by
  unfold served at written
  cases chosen : choice (.updateOrderById order.id order.version [⟨[draftFor order orderLineItemId]⟩]) with
  | answered returnItemIds =>
    rw [chosen,serve,updateOrder,if_neg (not_not.mpr rfl)] at written
    split at written
    · next updated accepted =>
      cases written
      exact ⟨rfl,returnItemIds,(Option.some.inj (Versioned.compareAndSet_some.mp accepted).2).symm⟩
    · cases written
  | failed failure => rw [chosen] at written; cases written
  | lost returnItemIds failure => rw [chosen] at written; cases written

theorem execute_returned {order returnedOrder final : Order} {reportedId : String}
    (unreturned : orderLineItemId ∉ returnedLineItems order)
    (ran : execute choice ⟨activeOrderManagementSystem,orderId,orderLineItemId⟩ order =
      (.ok (.returned returnedOrder reportedId),final)) :
    (∃ returnItemIds, final = withReturn returnItemIds order orderLineItemId) ∧
      ∃ item items infos, final.returnInfo = (item :: items) :: infos ∧ reportedId = item.id := by
  by_cases active : activeOrderManagementSystem = RefundPipeline.commercetoolsOrderManagementSystem
  · rw [execute_read active] at ran
    obtain ⟨copy,read,answered,checking⟩ := proceed_returned ran
    obtain ⟨rfl,rfl⟩ := order_read answered
    rw [execute_write _ _ unreturned] at checking
    obtain ⟨created,written,answered,reporting⟩ := proceed_returned checking
    obtain ⟨rfl,added⟩ := order_written answered
    obtain ⟨rfl,first⟩ := first_returned reporting
    exact ⟨added,first⟩
  · rw [execute,Run.task,runFilter,if_pos active] at ran
    cases ran

theorem execute_answered (returnItemIds : Nat → String) (order : Order)
    (unreturned : orderLineItemId ∉ returnedLineItems order) {item : ReturnItem} {items : List ReturnItem}
    {infos : List (List ReturnItem)}
    (first : (withReturn returnItemIds order orderLineItemId).returnInfo = (item :: items) :: infos) :
    execute (fun _ => .answered returnItemIds)
        ⟨RefundPipeline.commercetoolsOrderManagementSystem,order.id,orderLineItemId⟩ order =
      (.ok (.returned (withReturn returnItemIds order orderLineItemId) item.id),
        withReturn returnItemIds order orderLineItemId) := by
  have read : served (fun _ => .answered returnItemIds) (.getOrderById order.id) order = (.ok order,order) := by
    simp [served,serve]
  have written : served (fun _ => .answered returnItemIds)
      (.updateOrderById order.id order.version [⟨[draftFor order orderLineItemId]⟩]) order =
        (.ok (withReturn returnItemIds order orderLineItemId),withReturn returnItemIds order orderLineItemId) := by
    simp [served,serve,updateOrder,Versioned.compareAndSet,Versioned.HasVersion.version,withReturn]
  rw [execute_read rfl,read,proceed,execute_write order order unreturned,written,proceed,reported,firstReturnItemId,first]
  rfl

end Calls

theorem created_return_reported_iff (order : Order) (orderLineItemId : String)
    (unreturned : orderLineItemId ∉ returnedLineItems order) :
    CreatedReturnReported order orderLineItemId ↔ ∀ info ∈ order.returnInfo.head?, info = [] := by
  constructor
  · intro reports info begins
    by_contra nonempty
    obtain ⟨infos,listed⟩ : ∃ infos, order.returnInfo = info :: infos := by
      cases infos : order.returnInfo with
      | nil => rw [infos] at begins; cases begins
      | cons first rest => rw [infos] at begins; cases begins; exact ⟨rest,rfl⟩
    obtain ⟨item,items,rfl⟩ := List.exists_cons_of_ne_nil nonempty
    obtain ⟨fresh,unused⟩ :=
      Infinite.exists_notMem_finset ((getOrderReturnInfoReturnItems order).map (·.id)).toFinset
    rw [List.mem_toFinset] at unused
    have first : (withReturn (fun _ => fresh) order orderLineItemId).returnInfo =
        (item :: items) :: (infos ++ [[⟨fresh,orderLineItemId,.initial,none,none⟩]]) := by
      rw [withReturn_returnInfo,listed,List.cons_append]
    have named : Fresh (fun _ => .answered fun _ => fresh) order := by
      intro request returnItemIds answered n earlier member same
      cases answered
      have same : earlier.id = fresh := same
      exact unused (same ▸ List.mem_map_of_mem member)
    obtain ⟨new,appended,_,same⟩ := reports _ _ _ _ _ _ named (execute_answered _ order unreturned first)
    rw [withReturn_returnInfo,List.append_cancel_left_eq] at appended
    cases appended
    refine unused (List.mem_map.mpr ⟨item,?_,same⟩)
    simp [getOrderReturnInfoReturnItems,listed]
  · intro begins choice activeOrderManagementSystem orderId returnedOrder final reportedId _ ran
    obtain ⟨⟨returnItemIds,rfl⟩,item,items,infos,first,rfl⟩ := execute_returned unreturned ran
    rw [withReturn_returnInfo] at first ⊢
    cases earlier : order.returnInfo with
    | nil =>
      rw [earlier] at first
      cases first
      exact ⟨_,rfl,rfl,rfl⟩
    | cons info others =>
      cases begins info (by rw [earlier]; rfl)
      rw [earlier] at first
      cases first

theorem only_return_reported : CreatedReturnReported unreturnedOrder "line" :=
  (created_return_reported_iff unreturnedOrder "line" (by decide)).mpr (by simp [unreturnedOrder])

def returnedBefore : Order := {unreturnedOrder with returnInfo := [[⟨"first","other-line",.refunded,some "refund",none⟩]]}

theorem earlier_return_reported : "line" ∉ returnedLineItems returnedBefore ∧
    ¬ CreatedReturnReported returnedBefore "line" := by
  refine ⟨by decide,fun reports => ?_⟩
  have named : Fresh (fun _ => .answered fun _ => "second") returnedBefore := by
    intro request returnItemIds answered n earlier member
    cases answered
    cases List.mem_singleton.mp member
    show "first" ≠ "second"
    decide
  obtain ⟨new,appended,_,same⟩ := reports _ _ _ _ _ _ named
    (execute_answered (fun _ => "second") returnedBefore (by decide) (withReturn_returnInfo _ _ _))
  rw [withReturn_returnInfo,List.append_cancel_left_eq] at appended
  cases appended
  have same : "first" = "second" := same
  revert same
  decide

end ReturnCreation
