import CommerceCoordinator.Answers
import CommerceCoordinator.CallSequences
import CommerceCoordinator.CatalogInfo
import CommerceCoordinator.SerializerFields

open Commercetools CallTree CallSequences
open LegacyOrders (FieldValue Attribute lineItemAttribute)
open SerializerFields (charField)

-- revoke_line_items_task, without its logging: access to the returned items ends.
namespace LineRevocation

def lmsUserIdField : String := "edx-lms_user_id"
def lmsUserNameField : String := "edx-lms_user_name"

-- `lmsEntitlementId` is the entry of the custom fields, where it has any.
structure LineItem where
  id : String
  sku : Option String
  attributes : Option (List Attribute)
  lmsEntitlementId : Option FieldValue
  deriving DecidableEq

structure Order where
  id : String
  customerId : String
  lineItems : List LineItem

structure CustomerFields where
  lmsUserId : Option FieldValue
  lmsUserName : Option FieldValue

structure Customer where
  id : String
  custom : Option CustomerFields

structure ReturnItem where
  lineItemId : Option String

structure LoggingData where
  orderId : String
  lineItemId : String
  customerId : String
  courseRunKey : FieldValue
  entitlementUuid : FieldValue
  lmsUserId : FieldValue
  lmsUserName : FieldValue
  courseMode : FieldValue
  deriving DecidableEq

structure SerializerData where
  edxLmsUsername : FieldValue
  courseRunKey : FieldValue
  courseMode : FieldValue
  entitlementUuid : Option FieldValue
  lob : FieldValue

structure Payload where
  edxLmsUsername : String
  courseRunKey : String
  courseMode : String
  entitlementUuid : Option String
  lob : String
  deriving DecidableEq

inductive Interruption where
  | failed (error : Exn)
  | validationError
  | orderFulfillmentRevokeLineError (message : String)
  deriving DecidableEq

-- autoretry_for
def retryable : Interruption → Bool
  | .failed (.commercetoolsError _) => true
  | .orderFulfillmentRevokeLineError _ => true
  | _ => false

inductive Request where
  | getOrderById (orderId : String)
  | getCustomerById (customerId : String)
  | revokeLine (payload : Payload) (loggingData : LoggingData)
  deriving DecidableEq

-- The fulfilment service answers with a text in JSON, or the client gives up on it.
abbrev Response : Request → Type
  | .getOrderById _ => Except ErrorCode Order
  | .getCustomerById _ => Except ErrorCode Customer
  | .revokeLine _ _ => Option String

abbrev Call := Prog Request Response Interruption

abbrev orRaise (x : Except Exn α) : Call α := Prog.orRaise .failed x

section Data

def getEdxLmsUserId (customer : Customer) : Except Exn FieldValue :=
  match customer.custom with
  | none => .error .attributeError
  | some fields => match fields.lmsUserId with
    | none => .error (.keyError lmsUserIdField)
    | some value => .ok value

def getEdxLmsUserName (customer : Customer) : Except Exn FieldValue :=
  match customer.custom with
  | none => .error .attributeError
  | some fields => match fields.lmsUserName with
    | none => .error (.keyError lmsUserNameField)
    | some value => .ok value

def getLineItemAttribute (lineItem : LineItem) (name : String) : Except Exn FieldValue :=
  lineItemAttribute lineItem.attributes name

def getEdxProductCourseRunKey (lineItem : LineItem) (courseMode : FieldValue) : Except Exn FieldValue :=
  CatalogInfo.getEdxProductCourseRunKey lineItem.sku lineItem.attributes courseMode

def getLineItemLmsEntitlementId (lineItem : LineItem) : FieldValue := lineItem.lmsEntitlementId.getD .null

def getLobFromVariantAttr (lineItem : LineItem) : Except Exn FieldValue :=
  CatalogInfo.getLobFromVariantAttr lineItem.attributes

end Data

section Serializer
-- How a number is printed, and what UUIDField makes of a value.
variable (printed : Rat → String) (uuid : FieldValue → Option String)

def uuidField : Option FieldValue → Option (Option String)
  | none => some none
  | some value => (uuid value).map some

def orderRevokeLineRequestSerializer (data : SerializerData) : Option Payload := do
  let edxLmsUsername ← charField printed data.edxLmsUsername
  let courseRunKey ← charField printed data.courseRunKey
  let courseMode ← charField printed data.courseMode
  let entitlementUuid ← uuidField uuid data.entitlementUuid
  let lob ← charField printed data.lob
  return ⟨edxLmsUsername,courseRunKey,courseMode,entitlementUuid,lob⟩

end Serializer

section Task
variable (printed : Rat → String) (uuid : FieldValue → Option String)

-- Of two line items with one id the dict keeps the later.
def lineItemsById (order : Order) (lineItemId : String) : Option LineItem :=
  order.lineItems.reverse.find? (·.id = lineItemId)

def returnLineItems (order : Order) : List ReturnItem → List LineItem
  | [] => []
  | item::rest =>
    match item.lineItemId with
    | none => returnLineItems order rest
    | some lineItemId => match lineItemsById order lineItemId with
      | some itemToRevoke => itemToRevoke::returnLineItems order rest
      | none => returnLineItems order rest

def revokeRequest (order : Order) (customer : Customer) (lmsUserId lmsUserName : FieldValue) (lineItem : LineItem) :
    Call (Payload × LoggingData) := do
  let courseMode ← orRaise (getLineItemAttribute lineItem "mode")
  let courseRunKey ← orRaise (getEdxProductCourseRunKey lineItem courseMode)
  let entitlementUuid := getLineItemLmsEntitlementId lineItem
  let loggingData : LoggingData :=
    ⟨order.id,lineItem.id,customer.id,courseRunKey,entitlementUuid,lmsUserId,lmsUserName,courseMode⟩
  let lob ← orRaise (getLobFromVariantAttr lineItem)
  let serializerData : SerializerData :=
    ⟨lmsUserName,courseRunKey,courseMode,if entitlementUuid = .null then none else some entitlementUuid,
      if lob.truthy then lob else .text "edx"⟩
  match orderRevokeLineRequestSerializer printed uuid serializerData with
  | none => .raise .validationError
  | some payload => return (payload,loggingData)

def revokeLineFailed (order : Order) (lineItemId : String) : Interruption :=
  .orderFulfillmentRevokeLineError ("revoke_line failed for order "++order.id++" line_item_id="++lineItemId)

def revokeLines (order : Order) (customer : Customer) (lmsUserId lmsUserName : FieldValue) : List LineItem → Call Unit
  | [] => .pure ()
  | lineItem::rest => do
    let (payload,loggingData) ← revokeRequest printed uuid order customer lmsUserId lmsUserName lineItem
    match ← .perform (Request.revokeLine payload loggingData) with
    | none => .raise (revokeLineFailed order lineItem.id)
    | some _ => revokeLines order customer lmsUserId lmsUserName rest

def raised (code : ErrorCode) : Interruption := .failed (.commercetoolsError code)

def revokeLineItemsTask (orderId : String) (returnItems : List ReturnItem) : Call Bool := do
  let order ← .expect raised (.perform (Request.getOrderById orderId))
  let customer ← .expect raised (.perform (Request.getCustomerById order.customerId))
  let lmsUserId ← orRaise (getEdxLmsUserId customer)
  let lmsUserName ← orRaise (getEdxLmsUserName customer)
  match returnLineItems order returnItems with
  | [] => return true
  | lineItems => do
    revokeLines printed uuid order customer lmsUserId lmsUserName lineItems
    return true

end Task

section Calls
variable {printed : Rat → String} {uuid : FieldValue → Option String} {order : Order} {customer : Customer}
  {lmsUserId lmsUserName : FieldValue}

def revoked : Exchange Request Response → Option (String × Option String)
  | ⟨.revokeLine _ loggingData,answer⟩ => some (loggingData.lineItemId,answer)
  | _ => none

def calls (t : List (Exchange Request Response)) : List (String × Option String) := t.filterMap revoked

def Passes (printed : Rat → String) (uuid : FieldValue → Option String) (order : Order) (customer : Customer)
    (lmsUserId lmsUserName : FieldValue) (lineItem : LineItem) : Prop :=
  ∃ request, revokeRequest printed uuid order customer lmsUserId lmsUserName lineItem = .pure request

theorem revoke_request_line_item {lineItem : LineItem} {payload : Payload} {loggingData : LoggingData}
    (prepared : revokeRequest printed uuid order customer lmsUserId lmsUserName lineItem = .pure (payload,loggingData)) :
    loggingData.lineItemId = lineItem.id := by
  unfold revokeRequest at prepared
  cases mode : getLineItemAttribute lineItem "mode" with
  | error e => simp [mode,orRaise] at prepared
  | ok courseMode =>
    cases key : getEdxProductCourseRunKey lineItem courseMode with
    | error e => simp [mode,key,orRaise] at prepared
    | ok courseRunKey =>
      cases business : getLobFromVariantAttr lineItem with
      | error e => simp [mode,key,business,orRaise] at prepared
      | ok lob =>
        simp only [mode,key,business,orRaise,Prog.or_raise_ok,Prog.monad_bind,Prog.pure_bind] at prepared
        split at prepared
        · cases prepared
        · cases prepared
          rfl

theorem revoke_lines_until {lineItems : List LineItem} {t : List (Exchange Request Response)}
    {out : Except Interruption Unit}
    (passes : ∀ lineItem ∈ lineItems, Passes printed uuid order customer lmsUserId lmsUserName lineItem)
    (ran : (revokeLines printed uuid order customer lmsUserId lmsUserName lineItems).Answered t out) :
    ∃ last, UntilUnanswered (lineItems.map (·.id)) (calls t) last ∧
      out = last.elim (.ok ()) fun lineItemId => .error (revokeLineFailed order lineItemId) := by
  induction lineItems generalizing t with
  | nil =>
    obtain ⟨rfl,rfl⟩ := ran
    exact ⟨none,.done,rfl⟩
  | cons lineItem rest ih =>
    obtain ⟨⟨payload,loggingData⟩,prepared⟩ := passes lineItem List.mem_cons_self
    have named := revoke_request_line_item prepared
    rw [revokeLines,prepared] at ran
    obtain ⟨answer,later,rfl,ran⟩ := ran
    cases answer with
    | none =>
      obtain ⟨rfl,rfl⟩ := ran
      refine ⟨some lineItem.id,?_,rfl⟩
      simpa [calls,revoked,named] using UntilUnanswered.unanswered
    | some body =>
      obtain ⟨last,calledUntil,rfl⟩ := ih (fun other member => passes other (.tail _ member)) ran
      refine ⟨last,?_,rfl⟩
      simpa [calls,revoked,named] using calledUntil.answered

end Calls

section Returned

def returnedLineItemIds (order : Order) (returnItems : List ReturnItem) : List String :=
  returnItems.filterMap fun item => item.lineItemId.filter (· ∈ order.lineItems.map (·.id))

theorem line_items_by_id (order : Order) (lineItemId : String) :
    (lineItemsById order lineItemId).map (·.id) = (some lineItemId).filter (· ∈ order.lineItems.map (·.id)) := by
  unfold lineItemsById
  cases found : order.lineItems.reverse.find? (·.id = lineItemId) with
  | none =>
    have missing : lineItemId ∉ order.lineItems.map (·.id) := by
      simpa using found
    rw [Option.filter_some,if_neg (by simpa using missing)]
    rfl
  | some lineItem =>
    have same : lineItem.id = lineItemId := by simpa using List.find?_some found
    have member := List.mem_reverse.mp (List.mem_of_find?_eq_some found)
    have listed : lineItemId ∈ order.lineItems.map (·.id) := same ▸ List.mem_map_of_mem member
    rw [Option.filter_some,if_pos (by simpa using listed),Option.map_some,same]

theorem returned_ids (order : Order) (returnItems : List ReturnItem) :
    (returnLineItems order returnItems).map (·.id) = returnedLineItemIds order returnItems := by
  induction returnItems with
  | nil => rfl
  | cons item rest ih =>
    obtain ⟨named⟩ := item
    cases named with
    | none => exact ih
    | some lineItemId =>
      have looked := line_items_by_id order lineItemId
      unfold returnedLineItemIds at ih ⊢
      cases found : lineItemsById order lineItemId with
      | none =>
        rw [found,Option.map_none] at looked
        rw [returnLineItems,List.filterMap_cons,← looked]
        simpa only [found] using ih
      | some itemToRevoke =>
        rw [found,Option.map_some] at looked
        rw [returnLineItems,List.filterMap_cons,← looked]
        simpa only [found,List.map_cons,List.cons.injEq,true_and] using ih

end Returned

section Revocation
variable {printed : Rat → String} {uuid : FieldValue → Option String} {order : Order} {customer : Customer}
  {lmsUserId lmsUserName : FieldValue}

-- Commercetools has the order and its customer; the fulfilment service gives its
-- answers one after the other.
def serve (order : Order) (customer : Customer) (answers : Nat → Option String) : (r : Request) → Nat → Response r × Nat
  | .getOrderById _,k => (.ok order,k)
  | .getCustomerById _,k => (.ok customer,k)
  | .revokeLine _ _,k => (answers k,k+1)

theorem task_until {orderId : String} {returnItems : List ReturnItem} {rest : List (Exchange Request Response)}
    {out : Except Interruption Bool} (known : getEdxLmsUserId customer = .ok lmsUserId)
    (named : getEdxLmsUserName customer = .ok lmsUserName)
    (passes : ∀ lineItem ∈ returnLineItems order returnItems,
      Passes printed uuid order customer lmsUserId lmsUserName lineItem)
    (ran : (revokeLineItemsTask printed uuid orderId returnItems).Answered
      (⟨.getOrderById orderId,.ok order⟩::⟨.getCustomerById order.customerId,.ok customer⟩::rest) out) :
    ∃ last, UntilUnanswered (returnedLineItemIds order returnItems) (calls rest) last ∧
      out = last.elim (.ok true) fun lineItemId => .error (revokeLineFailed order lineItemId) := by
  obtain ⟨_,_,first,ran⟩ := ran
  cases first
  obtain ⟨_,_,second,ran⟩ := ran
  cases second
  simp only [Prog.pure_bind,Prog.monad_bind,known,named,orRaise,Prog.or_raise_ok] at ran
  rw [← returned_ids]
  cases matched : returnLineItems order returnItems with
  | nil =>
    rw [matched] at ran
    obtain ⟨rfl,rfl⟩ := ran
    exact ⟨none,.done,rfl⟩
  | cons lineItem others =>
    rw [matched] at ran passes
    rcases Prog.answered_bind.mp ran with ⟨e,failed,rfl⟩ | ⟨_,called,later,rfl,done,rfl,rfl⟩
    · obtain ⟨last,calledUntil,same⟩ := revoke_lines_until passes failed
      cases last with
      | none => cases same
      | some lineItemId =>
        cases same
        exact ⟨some lineItemId,calledUntil,rfl⟩
    · obtain ⟨last,calledUntil,same⟩ := revoke_lines_until passes done
      cases last with
      | none => exact ⟨none,by simpa using calledUntil,rfl⟩
      | some lineItemId => cases same

def callsOf (printed : Rat → String) (uuid : FieldValue → Option String) (order : Order) (customer : Customer)
    (answers : Nat → Option String) (returnItems : List ReturnItem) : List (String × Option String) :=
  calls (Prog.trace (serve order customer answers) (revokeLineItemsTask printed uuid order.id returnItems) 0)

def resultOf (printed : Rat → String) (uuid : FieldValue → Option String) (order : Order) (customer : Customer)
    (answers : Nat → Option String) (returnItems : List ReturnItem) : Except Interruption Bool :=
  (Prog.exec (serve order customer answers) (revokeLineItemsTask printed uuid order.id returnItems) 0).1

theorem returned_items_revoked {returnItems : List ReturnItem} (answers : Nat → Option String)
    (known : getEdxLmsUserId customer = .ok lmsUserId) (named : getEdxLmsUserName customer = .ok lmsUserName)
    (passes : ∀ lineItem ∈ returnLineItems order returnItems,
      Passes printed uuid order customer lmsUserId lmsUserName lineItem) :
    let calls := callsOf printed uuid order customer answers returnItems
    let result := resultOf printed uuid order customer answers returnItems
    (result = .ok true ↔ ∀ call ∈ calls, call.2.isSome) ∧
    ((∀ call ∈ calls, call.2.isSome) → calls.map (·.1) = returnedLineItemIds order returnItems) ∧
    ∀ k lineItemId, calls[k]? = some (lineItemId,none) →
      (∃ error, result = .error error ∧ retryable error = true) ∧
        calls.map (·.1) = (returnedLineItemIds order returnItems).take (k+1) := by
  have ran := Prog.exec_answered (serve order customer answers) 0 (revokeLineItemsTask printed uuid order.id returnItems)
  obtain ⟨last,calledUntil,same⟩ := task_until known named passes ran
  change UntilUnanswered _ (callsOf printed uuid order customer answers returnItems) last at calledUntil
  change resultOf printed uuid order customer answers returnItems = _ at same
  intro calls result
  have ended : result = .ok true ↔ last = none := by
    change resultOf _ _ _ _ _ _ = _ ↔ _
    rw [same]
    cases last <;> simp
  refine ⟨ended.trans calledUntil.ended_iff,fun all => calledUntil.complete (calledUntil.ended_iff.mpr all),?_⟩
  intro k lineItemId unanswered
  obtain ⟨rfl,taken⟩ := calledUntil.aborted unanswered
  exact ⟨⟨_,same,rfl⟩,taken⟩

def course : LineItem := ⟨"course",some "course-v1:MichiganX+Demo+1T2026",some [⟨"mode",.dict 2 (.text "verified")⟩],none⟩

def programCourse : LineItem :=
  ⟨"program",some "course-v1:MichiganX+Other+1T2026",some [⟨"mode",.text "credit"⟩,⟨"external-ids-variant",.text "credit-run"⟩,
    ⟨"lob",.text "edX"⟩],some (.text "3f2504e0-4f89-11d3-9a0c-0305e82c3301")⟩

def soldOrder : Order := ⟨"order","customer",[course,programCourse]⟩
def learner : Customer := ⟨"customer",some ⟨some (.text "4"),some (.text "learner")⟩⟩

def canonicalUuid : FieldValue → Option String
  | .text value => some value
  | _ => none

def onlyFirstAnswered (k : Nat) : Option String := if k = 0 then some "{}" else none

def mixedReturn : List ReturnItem := [⟨none⟩,⟨some "course"⟩,⟨some "unknown"⟩,⟨some "program"⟩,⟨some "course"⟩]

theorem second_call_unanswered :
    callsOf toString canonicalUuid soldOrder learner onlyFirstAnswered mixedReturn = [("course",some "{}"),("program",none)] ∧
    ∃ error, resultOf toString canonicalUuid soldOrder learner onlyFirstAnswered mixedReturn = .error error ∧
      retryable error = true := by
  have ran : callsOf toString canonicalUuid soldOrder learner onlyFirstAnswered mixedReturn =
      [("course",some "{}"),("program",none)] := by decide +kernel
  have matched : returnLineItems soldOrder mixedReturn = [course,programCourse,course] := by decide +kernel
  have passes : ∀ lineItem ∈ returnLineItems soldOrder mixedReturn,
      Passes toString canonicalUuid soldOrder learner (.text "4") (.text "learner") lineItem := by
    rw [matched]
    simp only [List.forall_mem_cons]
    exact ⟨⟨_,rfl⟩,⟨_,rfl⟩,⟨_,rfl⟩,by simp⟩
  exact ⟨ran,((returned_items_revoked onlyFirstAnswered rfl rfl passes).2.2 1 "program" (by rw [ran]; rfl)).1⟩

end Revocation

end LineRevocation
