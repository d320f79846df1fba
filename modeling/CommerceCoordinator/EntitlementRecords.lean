import CommerceCoordinator.CourseEnrollment
import CommerceCoordinator.LineRefundRequest

open Commercetools CallTree Fulfillment
open LegacyOrders (FieldValue)
open SerializerFields (required nullableCharField)

-- The answers of the order fulfilment service, from its webhook to the entitlements
-- that the refund requests of the LMS look for.
namespace EntitlementRecords

section Records
variable {ι : Type} {table : StateTable} {messages : ι → Message}

def Reported (messages : ι → Message) (lineItemId : String) (entitlement : Option String) : Prop :=
  ∃ i, (messages i).lineItemId = lineItemId ∧ (messages i).entitlementUuid ≠ "" ∧
    entitlement = some (messages i).entitlementUuid

structure Relabelled (messages : ι → Message) (lineItems lineItems' : List LineItem) : Prop where
  ids : lineItems'.map (·.id) = lineItems.map (·.id)
  entitlements : ∀ lineItem ∈ lineItems', (∃ earlier ∈ lineItems, earlier.id = lineItem.id ∧
    lineItem.lmsEntitlementId = earlier.lmsEntitlementId) ∨ Reported messages lineItem.id lineItem.lmsEntitlementId

theorem Relabelled.refl (lineItems : List LineItem) : Relabelled messages lineItems lineItems :=
  ⟨rfl,fun lineItem member => .inl ⟨lineItem,member,rfl,rfl⟩⟩

theorem Relabelled.trans {a b c : List LineItem} (ab : Relabelled messages a b) (bc : Relabelled messages b c) :
    Relabelled messages a c := by
  refine ⟨bc.ids.trans ab.ids,fun lineItem member => ?_⟩
  rcases bc.entitlements lineItem member with ⟨middle,listed,same,kept⟩ | reported
  · rcases ab.entitlements middle listed with ⟨first,at_first,same',kept'⟩ | reported
    · exact .inl ⟨first,at_first,same'.trans same,kept.trans kept'⟩
    · rw [same] at reported
      exact .inr (kept ▸ reported)
  · exact .inr reported

theorem updated_list {lineItems lineItems' : List LineItem} {lineItemId : String} {change : LineItem → Option LineItem}
    (renames : ∀ lineItem changed, change lineItem = some changed → changed.id = lineItem.id)
    (updated : updateLineItemOf lineItems lineItemId change = some lineItems') :
    ∃ lineItem ∈ lineItems, ∃ changed, lineItem.id = lineItemId ∧ change lineItem = some changed ∧
      lineItems'.map (·.id) = lineItems.map (·.id) ∧
      ∀ other ∈ lineItems', other = changed ∨ other ∈ lineItems ∧ other.id ≠ lineItemId := by
  unfold updateLineItemOf at updated
  cases found : lineItems.find? (·.id = lineItemId) with
  | none =>
    rw [found] at updated
    cases updated
  | some lineItem =>
    rw [found] at updated
    obtain ⟨changed,result,rfl⟩ := Option.map_eq_some_iff.mp updated
    have named : lineItem.id = lineItemId := by simpa using List.find?_some found
    have renamed : changed.id = lineItemId := (renames lineItem changed result).trans named
    refine ⟨lineItem,List.mem_of_find?_eq_some found,changed,named,result,?_,?_⟩
    · rw [List.map_map]
      apply List.map_congr_left
      intro other _
      by_cases own : other.id = lineItemId
      · simp [own,renamed]
      · simp [own]
    · intro other member
      obtain ⟨before,listed,rfl⟩ := List.mem_map.mp member
      by_cases own : before.id = lineItemId
      · exact .inl (by simp [own])
      · exact .inr (by simpa [own] using listed)

def Recorded (messages : ι → Message) (i : ι) (lineItems : List LineItem) : Prop :=
  (messages i).entitlementUuid ≠ "" → (messages i).lineItemId ∈ lineItems.map (·.id) ∧
    ∀ lineItem ∈ lineItems, lineItem.id = (messages i).lineItemId → Reported messages lineItem.id lineItem.lmsEntitlementId

theorem Recorded.stable {i : ι} {lineItems lineItems' : List LineItem} (recorded : Recorded messages i lineItems)
    (moved : Relabelled messages lineItems lineItems') : Recorded messages i lineItems' := by
  intro given
  obtain ⟨listed,all⟩ := recorded given
  refine ⟨moved.ids ▸ listed,fun lineItem member own => ?_⟩
  rcases moved.entitlements lineItem member with ⟨earlier,before,same,kept⟩ | reported
  · rw [kept,← same]
    exact all earlier before (same.trans own)
  · exact reported

theorem transition_keeps {lineItems lineItems' : List LineItem} {lineItemId fromState toState : String} {quantity : Nat}
    (applied : applyAction table lineItems (.transitionLineItemState lineItemId quantity fromState toState) = some lineItems') :
    Relabelled messages lineItems lineItems' := by
  obtain ⟨a,_,applied⟩ := Option.bind_eq_some_iff.mp applied
  obtain ⟨b,_,applied⟩ := Option.bind_eq_some_iff.mp applied
  have kept : ∀ lineItem changed : LineItem, ((transition lineItem.state quantity (table.id a) (table.id b)).bind fun state =>
      some {lineItem with state}) = some changed →
      changed.id = lineItem.id ∧ changed.lmsEntitlementId = lineItem.lmsEntitlementId := by
    intro lineItem changed result
    obtain ⟨state,_,final⟩ := Option.bind_eq_some_iff.mp result
    cases final
    exact ⟨rfl,rfl⟩
  obtain ⟨lineItem,listed,changed,_,result,ids,members⟩ := updated_list (fun _ _ result => (kept _ _ result).1) applied
  refine ⟨ids,fun other member => .inl ?_⟩
  rcases members other member with rfl | ⟨before,_⟩
  · obtain ⟨same,entitlement⟩ := kept _ _ result
    exact ⟨lineItem,listed,same.symm,entitlement⟩
  · exact ⟨other,before,rfl,rfl⟩

end Records

section Tasks
variable {ι : Type} {table : StateTable} {messages : ι → Message}

def Along (messages : ι → Message) (s s' : Store) : Prop := Relabelled messages s.order.lineItems s'.order.lineItems

abbrev KeepsRecords (table : StateTable) (messages : ι → Message) (post : Except Interruption α → Store → Prop) (p : Fulfillment.Task α)
    (s : Store) : Prop := Ensures (commercetools table) (fun _ _ => True) (Along messages) (Along messages) post p s

def Leaves (messages : ι → Message) (i : ι) : Except Interruption α → Store → Prop
  | .ok _,s => Recorded messages i s.order.lineItems
  | .error _,_ => True

theorem order_read {s : Store} : KeepsRecords table messages (fun _ _ => True) getOrderById s := by
  intro t _ _ answers
  refine ⟨Relabelled.refl _,?_⟩
  cases answers <;> exact fun _ _ => trivial

variable [DecidableEq ι]

end Tasks

-- OrderFulfillmentCompletionStatusWebhookView
section Webhook

-- What a field of the message's `detail` holds, if it is there.
structure Detail where
  fulfillmentType : Option FieldValue
  isFulfilled : Option FieldValue
  entitlementUuid : Option FieldValue
  orderId : Option FieldValue
  lineItemId : Option FieldValue

-- `entitlementUuid` is left out, null or a text.
structure ValidatedData where
  fulfillmentType : String
  isFulfilled : Bool
  entitlementUuid : Option (Option String)
  orderId : String
  lineItemId : String
  deriving DecidableEq

inductive Rejection where
  | typeError
  | invalid
  | entitlementUuidRequired
  deriving DecidableEq

-- How a number is printed, and what BooleanField makes of a value.
variable (printed : Rat → String) (booleanField : FieldValue → Option Bool)

def fulfilledOrderWebhookSerializer (data : Detail) : Option ValidatedData := do
  let fulfillmentType ← required printed data.fulfillmentType
  let isFulfilled ← data.isFulfilled.bind booleanField
  let entitlementUuid ← nullableCharField printed data.entitlementUuid
  let orderId ← required printed data.orderId
  let lineItemId ← required printed data.lineItemId
  return ⟨fulfillmentType,isFulfilled,entitlementUuid,orderId,lineItemId⟩

-- None and the empty text are alike to the view and to the task.
def ValidatedData.entitlement (data : ValidatedData) : String := (data.entitlementUuid.getD none).getD ""

def entitlementType : String := "entitlement"

def post : Option Detail → Except Rejection ValidatedData
  | none => .error .typeError
  | some inputData => match fulfilledOrderWebhookSerializer printed booleanField inputData with
    | none => .error .invalid
    | some validatedData =>
      if validatedData.isFulfilled = true ∧ validatedData.fulfillmentType = entitlementType ∧ validatedData.entitlement = "" then
        .error .entitlementUuidRequired
      else .ok validatedData

-- fulfillment_completed_update_ct_line_item
def messageOf (data : ValidatedData) : Message := ⟨data.entitlement,data.lineItemId,data.isFulfilled⟩

structure Report (order : Order) where
  detail : Option Detail
  data : ValidatedData
  accepted : post printed booleanField detail = .ok data
  ofOrder : data.orderId = order.id
  ofItem : data.lineItemId ∈ order.lineItems.map (·.id)

def Report.message {order : Order} (report : Report printed booleanField order) : Message := messageOf report.data

variable {printed : Rat → String} {booleanField : FieldValue → Option Bool}

end Webhook

-- The order as the refund requests find it: its line items have the custom fields that
-- hold the entitlement.
section Refunds

def numberedLineItem (lineItem : LineItem) : LineRefundRequest.NumberedLineItem :=
  ⟨lineItem.id,some (lineItem.lmsEntitlementId.map .text)⟩

def numbered (order : Order) : LineRefundRequest.NumberedOrder := ⟨order.id,order.lineItems.map numberedLineItem⟩

end Refunds

section EndToEnd
variable {ι : Type} {printed : Rat → String} {booleanField : FieldValue → Option Bool} {order : Order} {table : StateTable}

def messages (reports : ι → Report printed booleanField order) (i : ι) : Message := (reports i).message

variable [DecidableEq ι]

theorem first_listed : "first" ∈ twoItems.lineItems.map (·.id) := by
  simp [twoItems]

def handled : List (Event Bool Bool Empty) := List.replicate 5 (.act false true)++List.replicate 5 (.act true true)

end EndToEnd
end EntitlementRecords
