import CommerceCoordinator.RefundPipeline
import Mathlib.Data.List.Perm.Subperm

open Commercetools CallTree OrderReturn Rollout Versioned

-- CreateReturnForCommercetoolsOrder, run by any number of requests at once while
-- other services update the order as well.
namespace ReturnCreation

inductive ReturnShipmentState where
  | advised | returned | backInStock | unusable
  deriving DecidableEq

structure ReturnItemDraft where
  quantity : Nat
  lineItemId : String
  comment : String
  shipmentState : ReturnShipmentState
  deriving DecidableEq

structure OrderAddReturnInfoAction where
  items : List ReturnItemDraft
  deriving DecidableEq

inductive Failure where
  | commercetoolsError (code : ErrorCode)
  | httpError
  deriving DecidableEq

inductive Raised where
  | failure (error : Failure)
  | indexError
  | invalidFilterType (message : String)
  | openEdxFilterException (code : ErrorCode)
  deriving DecidableEq

inductive Request where
  | getOrderById (orderId : String)
  | updateOrderById (id : String) (version : Nat) (actions : List OrderAddReturnInfoAction)
  deriving DecidableEq

abbrev Response (_ : Request) : Type := Except Failure Order

abbrev Call (α : Type) := Prog Request Response Raised α

-- What the step hands to the pipeline: its dict, or PipelineCommand.CONTINUE.
inductive Output where
  | returned (returnedOrder : Order) (returnedLineItemReturnId : String)
  | proceed
  deriving DecidableEq

def getOrderById (orderId : String) : Call Order := .expect .failure (.perform (Request.getOrderById orderId))

def createReturnForOrder (orderId : String) (orderVersion : Nat) (orderLineItemId : String) : Call Order :=
  let returnItemDraft := ⟨1,orderLineItemId,
    "Creating return item for order " ++ orderId ++ " with order line item ID " ++ orderLineItemId,.returned⟩
  .expect .failure (.perform (Request.updateOrderById orderId orderVersion [⟨[returnItemDraft]⟩]))

def isCommercetoolsLineItemAlreadyCreated (order : Order) (orderLineItemId : String) : Bool :=
  ((getOrderReturnInfoReturnItems order).filter (·.lineItemId = orderLineItemId)).length ≥ 1

-- returned_order.return_info[0].items[0].id
def firstReturnItemId (returnedOrder : Order) : Call String :=
  match returnedOrder.returnInfo with
  | (item::_)::_ => .pure item.id
  | _ => .raise .indexError

def exceptFailures (p : Call Output) : Call Output :=
  p.handle fun
    | .failure (.commercetoolsError code) => .raise (.openEdxFilterException code)
    | .failure .httpError => .pure .proceed
    | error => .raise error

def createReturnOnce (order : Order) (orderLineItemId : String) : Call Output :=
  if ¬isCommercetoolsLineItemAlreadyCreated order orderLineItemId then do
    let returnedOrder ← createReturnForOrder order.id order.version orderLineItemId
    let returnedLineItemReturnId ← firstReturnItemId returnedOrder
    return .returned returnedOrder returnedLineItemReturnId
  else .raise (.invalidFilterType
    ("Refund already created for order " ++ order.id ++ " with order line item id " ++ orderLineItemId))

def runFilter (activeOrderManagementSystem orderId orderLineItemId : String) : Call Output :=
  if activeOrderManagementSystem ≠ RefundPipeline.commercetoolsOrderManagementSystem then .pure .proceed
  else exceptFailures do
    let order ← getOrderById orderId
    createReturnOnce order orderLineItemId

-- What Commercetools may do at a call, besides testing the version: give the new
-- return items their ids, or fail before or after the call takes effect.
inductive Choice where
  | answered (returnItemIds : Nat → String)
  | failed (failure : Failure)
  | lost (returnItemIds : Nat → String) (failure : Failure)

def addReturnItems (returnItemIds : Nat → String) (order : Order) (action : OrderAddReturnInfoAction) : Order :=
  addReturnInfo order (action.items.mapIdx fun n draft => ⟨returnItemIds n,draft.lineItemId,
    if draft.shipmentState = .returned then .initial else .nonRefundable,none,none⟩)

def applyActions (returnItemIds : Nat → String) (actions : List OrderAddReturnInfoAction) (order : Order) : Order :=
  {actions.foldl (addReturnItems returnItemIds) order with version := order.version+1}

def updateOrder (returnItemIds : Nat → String) (id : String) (version : Nat)
    (actions : List OrderAddReturnInfoAction) (order : Order) : Except Failure Order × Order :=
  if id ≠ order.id then (.error (.commercetoolsError .resourceNotFound),order)
  else match compareAndSet version order (some ∘ applyActions returnItemIds actions) with
    | some updated => (.ok updated,updated)
    | none => (.error (.commercetoolsError .concurrentModification),order)

def serve : Choice → (r : Request) → Order → Response r × Order
  | .failed failure,_,order => (.error failure,order)
  | .answered _,.getOrderById orderId,order =>
    (if orderId = order.id then .ok order else .error (.commercetoolsError .resourceNotFound),order)
  | .lost _ failure,.getOrderById _,order => (.error failure,order)
  | .answered returnItemIds,.updateOrderById id version actions,order => updateOrder returnItemIds id version actions order
  | .lost returnItemIds failure,.updateOrderById id version actions,order =>
    (.error failure,(updateOrder returnItemIds id version actions order).2)

def returnedLineItems (order : Order) : List String := (getOrderReturnInfoReturnItems order).map (·.lineItemId)

-- The other updates of the order: any that count its version on and leave no more
-- return items for a line item than there were.
def otherUpdate (updated order : Order) : Option Order :=
  if updated.id = order.id ∧ updated.version = order.version+1 ∧
      (returnedLineItems updated).Subperm (returnedLineItems order) then some updated else none

def commercetools : System Request Response Raised Order Choice Order where
  serve := serve
  environment := otherUpdate
  restarts := fun _ => false

structure Run where
  activeOrderManagementSystem : String
  orderId : String
  orderLineItemId : String
  deriving DecidableEq

def Run.task (r : Run) : Call Output := runFilter r.activeOrderManagementSystem r.orderId r.orderLineItemId

def succeeded : Call Output → Bool
  | .pure (.returned _ _) => true
  | _ => false

theorem not_created (order : Order) (orderLineItemId : String) :
    isCommercetoolsLineItemAlreadyCreated order orderLineItemId = false ↔ orderLineItemId ∉ returnedLineItems order := by
  simp [isCommercetoolsLineItemAlreadyCreated,returnedLineItems]

section Updates
variable {order : Order} {orderLineItemId comment : String}

def Creates (orderLineItemId : String) (order created : Order) : Prop :=
  created.version = order.version+1 ∧ returnedLineItems created = returnedLineItems order ++ [orderLineItemId]

theorem apply_creates (returnItemIds : Nat → String) (shipmentState : ReturnShipmentState) :
    Creates orderLineItemId order (applyActions returnItemIds [⟨[⟨1,orderLineItemId,comment,shipmentState⟩]⟩] order) := by
  simp [Creates,applyActions,addReturnItems,returnedLineItems,getOrderReturnInfoReturnItems,addReturnInfo]

theorem update_cases {copy : Order} (evolved : Evolves copy order) (unreturned : orderLineItemId ∉ returnedLineItems copy)
    (choice : Choice) (shipmentState : ReturnShipmentState) :
    let served := serve choice (.updateOrderById copy.id copy.version [⟨[⟨1,orderLineItemId,comment,shipmentState⟩]⟩]) order
    (∃ failure, served = (.error failure,order)) ∨
      orderLineItemId ∉ returnedLineItems order ∧ ∃ created, Creates orderLineItemId order created ∧
        (served = (.ok created,created) ∨ ∃ failure, served = (.error failure,created)) := by
  have updated : ∀ returnItemIds,
      (∃ failure, updateOrder returnItemIds copy.id copy.version [⟨[⟨1,orderLineItemId,comment,shipmentState⟩]⟩] order =
        (.error failure,order)) ∨
      orderLineItemId ∉ returnedLineItems order ∧ ∃ created, Creates orderLineItemId order created ∧
        updateOrder returnItemIds copy.id copy.version [⟨[⟨1,orderLineItemId,comment,shipmentState⟩]⟩] order =
          (.ok created,created) := by
    intro returnItemIds
    unfold updateOrder
    split
    · exact .inl ⟨_,rfl⟩
    · split
      · rename_i created accepted
        obtain ⟨rfl,applied⟩ := compareAndSet_copy evolved accepted
        cases applied
        exact .inr ⟨unreturned,_,apply_creates returnItemIds shipmentState,rfl⟩
      · exact .inl ⟨_,rfl⟩
  cases choice with
  | failed failure => exact .inl ⟨failure,rfl⟩
  | answered returnItemIds =>
    rcases updated returnItemIds with refused | ⟨absent,created,creates,served⟩
    · exact .inl refused
    · exact .inr ⟨absent,created,creates,.inl served⟩
  | lost returnItemIds failure =>
    rcases updated returnItemIds with ⟨code,refused⟩ | ⟨absent,created,creates,served⟩
    · exact .inl ⟨failure,by simp only [serve,refused]⟩
    · exact .inr ⟨absent,created,creates,.inr ⟨failure,by simp only [serve,served]⟩⟩

end Updates

-- Where a run can stand while it is interleaved with the others. Its copy of the
-- order is an earlier value of the stored one.
inductive Stage (r : Run) (order : Order) : Call Output → Prop where
  | reading : Stage r order r.task
  | checked : Evolves copy order → r.orderLineItemId ∉ returnedLineItems copy →
      Stage r order (exceptFailures (createReturnOnce copy r.orderLineItemId))
  | returned : Stage r order (.pure (.returned returnedOrder returnedLineItemReturnId))
  | proceeded : Stage r order (.pure .proceed)
  | raised : Stage r order (.raise error)

theorem Stage.later (stage : Stage r order p) (evolved : Evolves order order') : Stage r order' p := by
  cases stage with
  | reading => exact .reading
  | checked copied unreturned => exact .checked (copied.trans evolved) unreturned
  | returned => exact .returned
  | proceeded => exact .proceeded
  | raised => exact .raised

theorem failure_stage (r : Run) (order : Order) (failure : Failure) :
    Stage r order (exceptFailures (.raise (.failure failure))) ∧
      succeeded (exceptFailures (.raise (.failure failure))) = false := by
  cases failure with
  | commercetoolsError code => exact ⟨.raised,rfl⟩
  | httpError => exact ⟨.proceeded,rfl⟩

structure Stepped (r : Run) (order order' : Order) (p : Call Output) : Prop where
  stage : Stage r order' p
  change : order' = order ∨ r.orderLineItemId ∉ returnedLineItems order ∧ Creates r.orderLineItemId order order'
  success : succeeded p = true → order' ≠ order

theorem read_step (r : Run) (order : Order) (x : Except Failure Order) (read : ∀ copy, x = .ok copy → copy = order) :
    Stepped r order order (exceptFailures ((Prog.expect .failure (.pure x)).bind (createReturnOnce · r.orderLineItemId))) := by
  cases x with
  | error failure =>
    obtain ⟨stage,unsuccessful⟩ := failure_stage r order failure
    exact ⟨stage,.inl rfl,fun success => by cases unsuccessful.symm.trans success⟩
  | ok copy =>
    obtain rfl := read copy rfl
    by_cases created : isCommercetoolsLineItemAlreadyCreated copy r.orderLineItemId = true
    · have rejected : exceptFailures (createReturnOnce copy r.orderLineItemId) = .raise (.invalidFilterType
          ("Refund already created for order " ++ copy.id ++ " with order line item id " ++ r.orderLineItemId)) := by
        simp [createReturnOnce,created,exceptFailures]
      simp only [Prog.expect,Prog.pure_bind,rejected]
      exact ⟨.raised,.inl rfl,fun success => by cases success⟩
    · have unreturned := (not_created copy r.orderLineItemId).mp (by simpa using created)
      refine ⟨.checked (.refl _) unreturned,.inl rfl,fun success => ?_⟩
      simp [createReturnOnce,created,createReturnForOrder,Prog.expect,Prog.perform,exceptFailures,succeeded] at success

theorem write_step (r : Run) (x : Except Failure Order)
    (change : order' = order ∨ r.orderLineItemId ∉ returnedLineItems order ∧ Creates r.orderLineItemId order order')
    (answered : ∀ created, x = .ok created → order' ≠ order) :
    Stepped r order order' (exceptFailures ((Prog.expect .failure (.pure x)).bind fun created =>
      (firstReturnItemId created).bind fun returnItemId => .pure (.returned created returnItemId))) := by
  cases x with
  | error failure =>
    obtain ⟨stage,unsuccessful⟩ := failure_stage r order' failure
    exact ⟨stage,change,fun success => by cases unsuccessful.symm.trans success⟩
  | ok created =>
    simp only [Prog.expect,Prog.pure_bind,firstReturnItemId]
    split
    · exact ⟨.returned,change,fun _ => answered created rfl⟩
    · exact ⟨.raised,change,fun success => by cases success⟩

theorem Creates.evolves (creates : Creates orderLineItemId order created) : Evolves order created :=
  .inr (by change order.version < created.version; rw [creates.1]; omega)

theorem Creates.differs (creates : Creates orderLineItemId order created) : created ≠ order := by
  intro same
  have counted := creates.1
  rw [same] at counted
  omega

theorem Stage.step (stage : Stage r order (.call request next)) (choice : Choice) :
    Stepped r order (serve choice request order).2 (next (serve choice request order).1) := by
  generalize at_call : Prog.call request next = p at stage
  cases stage with
  | reading =>
    by_cases active : r.activeOrderManagementSystem = RefundPipeline.commercetoolsOrderManagementSystem
    · simp only [Run.task,runFilter,active,not_true_eq_false,if_false,ne_eq] at at_call
      cases at_call
      have unchanged : (serve choice (.getOrderById r.orderId) order).2 = order := by cases choice <;> rfl
      rw [unchanged]
      apply read_step
      intro copy ok
      cases choice with
      | answered returnItemIds =>
        simp only [serve] at ok
        split at ok
        · exact (Except.ok.inj ok).symm
        · cases ok
      | _ => cases ok
    · simp [Run.task,runFilter,active] at at_call
  | @checked copy copied unreturned =>
    have created := (not_created copy r.orderLineItemId).mpr unreturned
    simp only [createReturnOnce,created,Bool.false_eq_true,not_false_eq_true,if_true] at at_call
    cases at_call
    rcases update_cases copied unreturned choice .returned with ⟨failure,served⟩ |
      ⟨absent,created,creates,served | ⟨failure,served⟩⟩
    · rw [served]
      exact write_step r (.error failure) (.inl rfl) (fun _ never => by cases never)
    · rw [served]
      exact write_step r (.ok created) (.inr ⟨absent,creates⟩) fun _ _ => creates.differs
    · rw [served]
      exact write_step r (.error failure) (.inr ⟨absent,creates⟩) (fun _ never => by cases never)
  | returned => cases at_call
  | proceeded => cases at_call
  | raised => cases at_call

section Runs
variable {ι : Type} {runs : ι → Run} {order : Order}

def tasks (runs : ι → Run) (i : ι) : Call Output := (runs i).task

def start (runs : ι → Run) (order : Order) : Config Request Response Raised Output Order ι := ⟨order,tasks runs⟩

abbrev Interleaving (ι : Type) := Event ι Choice Order

structure Valid (runs : ι → Run) (c : Config Request Response Raised Output Order ι) : Prop where
  stages : ∀ i, Stage (runs i) c.shared (c.threads i)
  once : (returnedLineItems c.shared).Nodup

structure Distinct (runs : ι → Run) (c : Config Request Response Raised Output Order ι) : Prop where
  listed : ∀ i, succeeded (c.threads i) = true → (runs i).orderLineItemId ∈ returnedLineItems c.shared
  alone : ∀ i j, i ≠ j → succeeded (c.threads i) = true → succeeded (c.threads j) = true →
    (runs i).orderLineItemId ≠ (runs j).orderLineItemId

theorem start_unsuccessful (i : ι) : succeeded ((start runs order).threads i) = false := by
  simp only [start,tasks,Run.task,runFilter]
  split <;> rfl

theorem start_valid (without : returnedLineItems order = []) : Valid runs (start runs order) :=
  ⟨fun _ => .reading,by simp [start,without]⟩

theorem start_distinct : Distinct runs (start runs order) := by
  refine ⟨fun i success => ?_,fun i _ _ success _ => ?_⟩
  · cases (start_unsuccessful i).symm.trans success
  · cases (start_unsuccessful i).symm.trans success

theorem other_update (moved : otherUpdate updated order = some next) : next = updated ∧ Evolves order updated ∧
    (returnedLineItems updated).Subperm (returnedLineItems order) := by
  obtain ⟨⟨_,counted,fewer⟩,same⟩ := Option.ite_none_right_eq_some.mp moved
  exact ⟨(Option.some.inj same).symm,.inr (by change order.version < updated.version; omega),fewer⟩

theorem Stepped.evolves (stepped : Stepped r order order' p) : Evolves order order' := by
  rcases stepped.change with rfl | ⟨_,creates⟩
  · exact .refl _
  · exact creates.evolves

theorem Stepped.once (stepped : Stepped r order order' p) (once : (returnedLineItems order).Nodup) :
    (returnedLineItems order').Nodup := by
  rcases stepped.change with rfl | ⟨absent,_,added⟩
  · exact once
  · rw [added]
    have apart : ∀ lineItemId ∈ returnedLineItems order, lineItemId ≠ r.orderLineItemId := by
      intro lineItemId member same
      exact absent (same ▸ member)
    exact List.nodup_append.mpr ⟨once,List.nodup_singleton _,by simpa using apart⟩

theorem Stepped.created (stepped : Stepped r order order' p) (success : succeeded p = true) :
    r.orderLineItemId ∉ returnedLineItems order ∧ r.orderLineItemId ∈ returnedLineItems order' := by
  rcases stepped.change with same | ⟨absent,_,added⟩
  · exact absurd same (stepped.success success)
  · exact ⟨absent,by simp [added]⟩

theorem Stepped.kept (stepped : Stepped r order order' p) : returnedLineItems order ⊆ returnedLineItems order' := by
  rcases stepped.change with rfl | ⟨_,_,added⟩
  · exact List.Subset.refl _
  · simp [added]

variable [DecidableEq ι]

theorem step_cases {c next : Config Request Response Raised Output Order ι} {event : Interleaving ι}
    (valid : ∀ i, Stage (runs i) c.shared (c.threads i)) (ran : commercetools.step (tasks runs) c event = some next) :
    (∃ i p order', Stepped (runs i) c.shared order' p ∧ next = ⟨order',Function.update c.threads i p⟩) ∨
    (∃ updated, event = .world updated ∧ Evolves c.shared updated ∧
      (returnedLineItems updated).Subperm (returnedLineItems c.shared) ∧ next = ⟨updated,c.threads⟩) := by
  rcases System.step_cases ran with ⟨i,choice,request,cont,rfl,at_call,rfl⟩ | ⟨_,_,_,_,never,_⟩ |
    ⟨updated,order',rfl,moved,rfl⟩
  · have stage := valid i
    rw [at_call] at stage
    exact .inl ⟨i,_,_,stage.step choice,rfl⟩
  · cases never
  · obtain ⟨rfl,evolved,fewer⟩ := other_update moved
    exact .inr ⟨order',rfl,evolved,fewer,rfl⟩

theorem stages_kept {c : Config Request Response Raised Output Order ι} {i : ι} {p : Call Output} {order' : Order}
    (valid : ∀ j, Stage (runs j) c.shared (c.threads j)) (stepped : Stepped (runs i) c.shared order' p) (j : ι) :
    Stage (runs j) order' (Function.update c.threads i p j) := by
  by_cases same : j = i
  · subst j
    simpa using stepped.stage
  · rw [Function.update_of_ne same]
    exact (valid j).later stepped.evolves

theorem Valid.step {c next : Config Request Response Raised Output Order ι} {event : Interleaving ι} (valid : Valid runs c)
    (ran : commercetools.step (tasks runs) c event = some next) : Valid runs next := by
  rcases step_cases valid.stages ran with ⟨i,p,order',stepped,rfl⟩ | ⟨updated,_,evolved,fewer,rfl⟩
  · exact ⟨stages_kept valid.stages stepped,stepped.once valid.once⟩
  · refine ⟨fun i => (valid.stages i).later evolved,?_⟩
    exact List.nodup_iff_count_le_one.mpr fun lineItemId =>
      Nat.le_trans (fewer.count_le lineItemId) (List.nodup_iff_count_le_one.mp valid.once lineItemId)

def KeepsReturns (c : Config Request Response Raised Output Order ι) : Interleaving ι → Prop
  | .world updated => returnedLineItems c.shared ⊆ returnedLineItems updated
  | _ => True

theorem Distinct.step {c next : Config Request Response Raised Output Order ι} {event : Interleaving ι}
    (distinct : Distinct runs c) (valid : ∀ i, Stage (runs i) c.shared (c.threads i)) (keeps : KeepsReturns c event)
    (ran : commercetools.step (tasks runs) c event = some next) : Distinct runs next := by
  rcases step_cases valid ran with ⟨i,p,order',stepped,rfl⟩ | ⟨updated,rfl,_,_,rfl⟩
  · refine ⟨?_,?_⟩
    · intro j success
      by_cases same : j = i
      · subst j
        exact (stepped.created (by simpa using success)).2
      · simp only [Function.update_of_ne same] at success
        exact stepped.kept (distinct.listed j success)
    · intro j k different
      apply update_apart (succeeded · = true) (fun j k => (runs j).orderLineItemId ≠ (runs k).orderLineItemId)
        (fun _ _ apart => Ne.symm apart) distinct.alone _ different
      intro success j _ earlier same
      exact (stepped.created success).1 (same ▸ distinct.listed j earlier)
  · exact ⟨fun i success => keeps (distinct.listed i success),distinct.alone⟩

-- However the runs and the other updates are interleaved, the order gets at most
-- one return for each line item; and as long as none is taken away, at most one
-- run for a line item succeeds.
theorem one_return_per_line_item (runs : ι → Run) (order : Order) (without : returnedLineItems order = []) :
    (∀ events c, RunsWhen (commercetools.step (tasks runs)) (fun _ _ => True) (start runs order) events c →
      (returnedLineItems c.shared).Nodup) ∧
    (∀ events c, RunsWhen (commercetools.step (tasks runs)) KeepsReturns (start runs order) events c →
      ∀ i j, succeeded (c.threads i) = true → succeeded (c.threads j) = true →
        (runs i).orderLineItemId = (runs j).orderLineItemId → i = j) := by
  refine ⟨?_,?_⟩
  · intro events c path
    have valid := path.preserves (Valid runs) (start_valid without) fun _ _ _ valid _ ran => valid.step ran
    exact valid.once
  · intro events c path i j first second same
    have both := path.preserves (fun c => Valid runs c ∧ Distinct runs c) ⟨start_valid without,start_distinct⟩
      fun _ _ _ both keeps ran => ⟨both.1.step ran,both.2.step both.1.stages keeps ran⟩
    by_contra different
    exact both.2.alone i j different first second same

end Runs

section Examples

def unreturnedOrder : Order := ⟨"order",1,"customer",false,[],⟨9900,"USD",some 2⟩,[],[]⟩

def twoRequests (_ : Bool) : Run := ⟨RefundPipeline.commercetoolsOrderManagementSystem,"order","line"⟩

def answeredFor (thread : Bool) : Event Bool Choice Order := .act thread (.answered fun _ => "return")

def acts : Interleaving Bool → Bool
  | .act _ _ => true
  | _ => false

theorem second_creation_refused : ∃ c : Config Request Response Raised Output Order Bool,
    RunsWhen (commercetools.step (tasks twoRequests)) KeepsReturns (start twoRequests unreturnedOrder)
      [answeredFor false,answeredFor true,answeredFor true,answeredFor false] c ∧
    succeeded (c.threads true) = true ∧ succeeded (c.threads false) = false ∧ (returnedLineItems c.shared).Nodup := by
  have ran : (guardedRun (commercetools.step (tasks twoRequests)) (fun _ => acts)
      (start twoRequests unreturnedOrder) [answeredFor false,answeredFor true,answeredFor true,answeredFor false]).any
        fun c => succeeded (c.threads true) = true := by decide +kernel
  obtain ⟨c,ran,success⟩ := (Option.any_eq_true _ _).mp ran
  have keeps : ∀ (c : Config Request Response Raised Output Order Bool) (event : Interleaving Bool),
      acts event = true → KeepsReturns c event := by
    intro c event acting
    cases event with
    | act thread choice => trivial
    | _ => cases acting
  have path := RunsWhen.nil.guarded keeps ran
  obtain ⟨once,alone⟩ := one_return_per_line_item twoRequests unreturnedOrder rfl
  have success := of_decide_eq_true success
  refine ⟨c,path,success,?_,once _ c (path.weaken fun _ _ _ => trivial)⟩
  by_contra other
  cases alone _ c path true false success (by simpa using other) rfl

-- Another service takes the first return away: both requests succeed.
theorem removed_return_created_again : ¬ ∀ (runs : Bool → Run) (order : Order), returnedLineItems order = [] →
    ∀ events c, RunsWhen (commercetools.step (tasks runs)) (fun _ _ => True) (start runs order) events c →
      (returnedLineItems c.shared).Nodup ∧ ∀ i j, succeeded (c.threads i) = true → succeeded (c.threads j) = true →
        (runs i).orderLineItemId = (runs j).orderLineItemId → i = j := by
  intro claimed
  have ran : (guardedRun (commercetools.step (tasks twoRequests)) (fun _ _ => true) (start twoRequests unreturnedOrder)
      [answeredFor false,answeredFor false,.world {unreturnedOrder with version := 3},answeredFor true,answeredFor true]).any
        fun c => succeeded (c.threads false) = true ∧ succeeded (c.threads true) = true := by decide +kernel
  obtain ⟨c,ran,both⟩ := (Option.any_eq_true _ _).mp ran
  have path := RunsWhen.nil.guarded (fun _ _ _ => trivial) ran
  obtain ⟨first,second⟩ := of_decide_eq_true both
  cases (claimed twoRequests unreturnedOrder rfl _ c path).2 false true first second rfl

end Examples

end ReturnCreation
