import CommerceCoordinator.CreatedReturn
import CommerceCoordinator.LineRevocation

open Commercetools CallTree Rollout Versioned ReturnCreation
open LegacyOrders (FieldValue)
open SerializerFields (required)

-- The refund requests of the LMS, for a course or an entitlement, over the step that
-- creates the return.
namespace LineRefundRequest

-- What a field of the request's JSON holds, if it is there.
structure EnrollmentAttribute where
  namespace_ : Option FieldValue
  name : Option FieldValue
  value : Option FieldValue

structure RequestData where
  entitlementUuid : Option FieldValue
  username : Option FieldValue
  orderNumber : Option FieldValue
  courseId : Option FieldValue
  -- no list, or in it what is no dict, is `none`
  enrollmentAttributes : Option (List (Option EnrollmentAttribute))

structure Attribute where
  namespace_ : String
  name : String
  value : String
  deriving DecidableEq

structure CourseRefundInput where
  courseId : String
  username : String
  enrollmentAttributes : List Attribute
  deriving DecidableEq

structure EntitlementRefundInput where
  entitlementUuid : String
  username : String
  orderNumber : String
  deriving DecidableEq

structure NumberedLineItem where
  id : String
  -- its custom fields' entitlement id, if it has custom fields and that one among them
  custom : Option (Option FieldValue)

structure NumberedOrder where
  id : String
  lineItems : List NumberedLineItem

structure HttpResponse where
  status : Nat
  data : Option String
  deriving DecidableEq

section Serializers
-- How a number is printed.
variable (printed : Rat → String)

def enrollmentAttributeSerializer (data : EnrollmentAttribute) : Option Attribute := do
  let namespace_ ← required printed data.namespace_
  let name ← required printed data.name
  let value ← required printed data.value
  return ⟨namespace_,name,value⟩

def courseRefundInputSerializer (data : RequestData) : Option CourseRefundInput := do
  let courseId ← required printed data.courseId
  let username ← required printed data.username
  let listed ← data.enrollmentAttributes
  let enrollmentAttributes ← listed.mapM fun item => item.bind (enrollmentAttributeSerializer printed)
  return ⟨courseId,username,enrollmentAttributes⟩

def entitlementRefundInputSerializer (data : RequestData) : Option EntitlementRefundInput := do
  let entitlementUuid ← required printed data.entitlementUuid
  let username ← required printed data.username
  let orderNumber ← required printed data.orderNumber
  return ⟨entitlementUuid,username,orderNumber⟩

end Serializers

def enrollmentAttributeKey (namespace_ name : String) : String := namespace_ ++ "." ++ name

-- dict([...]): a later attribute of the same key replaces an earlier one.
def enrollmentAttributesDict (attributes : List Attribute) : Dict String :=
  attributes.foldl (fun d data => d.set (enrollmentAttributeKey data.namespace_ data.name) data.value) []

-- line_item.custom.fields.get(TwoUKeys.LINE_ITEM_LMS_ENTITLEMENT_ID, '')
def lmsEntitlementId (lineItem : NumberedLineItem) : Except Exn FieldValue :=
  match lineItem.custom with
  | none => .error .attributeError
  | some entitlementId => .ok (entitlementId.getD (.text ""))

def findLineItem (entitlementUuid : String) : List NumberedLineItem → Except Exn String
  | [] => .ok ""
  | lineItem :: rest => do
    let entitlementId ← lmsEntitlementId lineItem
    if entitlementId = .text entitlementUuid then return lineItem.id else findLineItem entitlementUuid rest

section View
variable (printed : Rat → String) (getOrderByNumber : String → Except Exn NumberedOrder)

def getOrderLineItemInfoFromEntitlementUuid (orderNumber entitlementUuid : String) : Except Exn (String × String) := do
  let ctOrder ← getOrderByNumber orderNumber
  let orderLineItemId ← findLineItem entitlementUuid ctOrder.lineItems
  return (ctOrder.id,orderLineItemId)

def determineActiveOrderManagementSystemByOrderId (orderId : String) : String :=
  if RefundPipeline.isLegacyOrder orderId then RefundPipeline.ecommerceOrderManagementSystem
  else RefundPipeline.commercetoolsOrderManagementSystem

-- OrderRefundRequested.run_filter
def orderRefundRequested (orderId orderLineItemId : String) : ReturnCreation.Call Output :=
  runFilter (determineActiveOrderManagementSystemByOrderId orderId) orderId orderLineItemId

def respond : Except Raised Output → HttpResponse
  | .ok (.returned _ _) => ⟨200,none⟩
  | .ok .proceed => ⟨400,some "Exception occurred while returning order"⟩
  | .error (.invalidFilterType message) => ⟨200,some message⟩
  | .error _ => ⟨500,some "Exception occurred while returning order"⟩

abbrev View := Prog Request Response Exn HttpResponse

def missing (value : Option String) : Bool := value.getD "" = ""

def refundLine (entitlementRefund : Bool) (orderId orderLineItemId : Option String) : View :=
  if missing orderId then
    -- the message logged here names course_id
    if entitlementRefund then .raise .unboundLocalError
    else .pure ⟨400,some "the enrollment_attributes array requires an orders: order_id attribute."⟩
  else if missing orderLineItemId then
    .pure ⟨400,some (if entitlementRefund then "Line item does not exist."
      else "the enrollment_attributes array requires an orders: line_item_id attribute.")⟩
  else
    (orderRefundRequested (orderId.getD "") (orderLineItemId.getD "")).attempt.bind fun result => .pure (respond result)

-- bool(input_data.get('entitlement_uuid'))
def entitlementRefund (data : RequestData) : Bool := (data.entitlementUuid.getD .null).truthy

def post (data : RequestData) : View :=
  if entitlementRefund data then
    match entitlementRefundInputSerializer printed data with
    | none => .pure ⟨400,some "Invalid input provided"⟩
    | some input =>
      match getOrderLineItemInfoFromEntitlementUuid getOrderByNumber input.orderNumber input.entitlementUuid with
      | .error (.commercetoolsError _) => .pure ⟨500,some "Error while fetching order"⟩
      | .error e => .raise e
      | .ok (orderId,orderLineItemId) => refundLine true (some orderId) (some orderLineItemId)
  else
    match courseRefundInputSerializer printed data with
    | none => .pure ⟨400,some "Invalid input provided"⟩
    | some input =>
      let enrollmentAttributes := enrollmentAttributesDict input.enrollmentAttributes
      refundLine false (enrollmentAttributes.get (enrollmentAttributeKey "order" "order_id"))
        (enrollmentAttributes.get (enrollmentAttributeKey "order" "line_item_id"))

end View

section Named

abbrev LastValue (attributes : List Attribute) (namespace_ name value : String) : Prop :=
  (attributes.reverse.find? fun data => data.namespace_ = namespace_ ∧ data.name = name).map (·.value) = some value

inductive FirstEntitled (entitlementUuid : String) : List NumberedLineItem → String → Prop where
  | here : lmsEntitlementId lineItem = .ok (.text entitlementUuid) →
      FirstEntitled entitlementUuid (lineItem :: rest) lineItem.id
  | later : lmsEntitlementId lineItem = .ok other → other ≠ .text entitlementUuid →
      FirstEntitled entitlementUuid rest lineItemId → FirstEntitled entitlementUuid (lineItem :: rest) lineItemId

inductive Names (printed : Rat → String) (getOrderByNumber : String → Except Exn NumberedOrder) (data : RequestData)
    (orderId lineItemId : String) : Prop where
  | course (chosen : entitlementRefund data = false) (valid : courseRefundInputSerializer printed data = some input)
      (order : LastValue input.enrollmentAttributes "order" "order_id" orderId) (given : orderId ≠ "")
      (line : LastValue input.enrollmentAttributes "order" "line_item_id" lineItemId) (item : lineItemId ≠ "")
  | entitlement (chosen : entitlementRefund data = true) (valid : entitlementRefundInputSerializer printed data = some input)
      (found : getOrderByNumber input.orderNumber = .ok order) (same : order.id = orderId) (given : orderId ≠ "")
      (line : FirstEntitled input.entitlementUuid order.lineItems lineItemId) (item : lineItemId ≠ "")

theorem key_apart {namespace_ name namespace_' name' : String} (plain : '.' ∉ namespace_.toList)
    (plain' : '.' ∉ name.toList) (same : enrollmentAttributeKey namespace_' name' = enrollmentAttributeKey namespace_ name) :
    namespace_' = namespace_ ∧ name' = name := by
  have split : namespace_'.toList ++ '.' :: name'.toList = namespace_.toList ++ '.' :: name.toList := by
    have texts := congrArg String.toList same
    simpa [enrollmentAttributeKey] using texts
  obtain ⟨first,_,second⟩ := (List.append_cons_inj_of_notMem plain plain').mp split.symm
  exact ⟨(String.toList_inj.mp first).symm,(String.toList_inj.mp second).symm⟩

theorem dict_last {namespace_ name : String} (plain : '.' ∉ namespace_.toList) (plain' : '.' ∉ name.toList)
    (attributes : List Attribute) (value : String) :
    (enrollmentAttributesDict attributes).get (enrollmentAttributeKey namespace_ name) = some value ↔
      LastValue attributes namespace_ name value := by
  induction attributes using List.reverseRecOn with
  | nil => simp [enrollmentAttributesDict,LastValue,Dict.get]
  | append_singleton attributes data ih =>
    have added : (enrollmentAttributesDict (attributes ++ [data])).get (enrollmentAttributeKey namespace_ name) =
        if enrollmentAttributeKey namespace_ name = enrollmentAttributeKey data.namespace_ data.name then some data.value
        else (enrollmentAttributesDict attributes).get (enrollmentAttributeKey namespace_ name) := by
      simp only [enrollmentAttributesDict,List.foldl_append,List.foldl_cons,List.foldl_nil,Dict.set_get]
    rw [added]
    unfold LastValue at ih ⊢
    rw [List.reverse_append,List.reverse_singleton,List.singleton_append,List.find?_cons]
    split
    · rename_i same
      obtain ⟨space,named⟩ := key_apart plain plain' same.symm
      simp [space,named]
    · rename_i apart
      have other : ¬(data.namespace_ = namespace_ ∧ data.name = name) := by
        rintro ⟨rfl,rfl⟩
        exact apart rfl
      simpa only [other,decide_false] using ih

theorem found_line_item {entitlementUuid : String} {lineItems : List NumberedLineItem} {id : String} (given : id ≠ "") :
    findLineItem entitlementUuid lineItems = .ok id ↔ FirstEntitled entitlementUuid lineItems id := by
  induction lineItems with
  | nil =>
    constructor
    · intro found
      cases found
      exact absurd rfl given
    · intro never
      cases never
  | cons lineItem rest ih =>
    unfold findLineItem
    constructor
    · intro found
      cases held : lmsEntitlementId lineItem with
      | error e =>
        rw [held] at found
        cases found
      | ok entitlementId =>
        simp only [held,bind,Except.bind] at found
        split at found
        · rename_i same
          cases found
          exact .here (same ▸ held)
        · rename_i other
          exact .later held other (ih.mp found)
    · intro entitled
      cases entitled with
      | here held => simp [held,bind,Except.bind,pure,Except.pure]
      | later held other further =>
        simp only [held,bind,Except.bind,other,if_false]
        exact ih.mpr further

def Refuses (p : View) : Prop := (∃ response, p = .pure response ∧ response.status ≠ 200) ∨ ∃ e, p = .raise e

def returning (orderId orderLineItemId : String) : View :=
  (orderRefundRequested orderId orderLineItemId).attempt.bind fun result => .pure (respond result)

theorem missing_false {value : Option String} : missing value = false ↔ ∃ text, value = some text ∧ text ≠ "" := by
  cases value <;> simp [missing]

theorem refund_line {names : String → String → Prop} (entitlementRefund : Bool) (orderId orderLineItemId : Option String)
    (values : ∀ order line, names order line ↔
      (orderId = some order ∧ order ≠ "") ∧ orderLineItemId = some line ∧ line ≠ "") :
    (∃ named item, refundLine entitlementRefund orderId orderLineItemId = returning named item ∧
      ∀ order line, names order line ↔ order = named ∧ line = item) ∨
    (∀ order line, ¬names order line) ∧ Refuses (refundLine entitlementRefund orderId orderLineItemId) := by
  unfold refundLine
  by_cases noOrder : missing orderId = true
  · rw [if_pos noOrder]
    refine .inr ⟨fun order line named => ?_,?_⟩
    · obtain ⟨⟨rfl,given⟩,_⟩ := (values order line).mp named
      simp [missing,given] at noOrder
    · cases entitlementRefund with
      | true => exact .inr ⟨_,rfl⟩
      | false => exact .inl ⟨_,rfl,by simp⟩
  · rw [if_neg noOrder]
    by_cases noLine : missing orderLineItemId = true
    · rw [if_pos noLine]
      refine .inr ⟨fun order line named => ?_,.inl ⟨_,rfl,by simp⟩⟩
      obtain ⟨_,rfl,item⟩ := (values order line).mp named
      simp [missing,item] at noLine
    · rw [if_neg noLine]
      obtain ⟨named,rfl,given⟩ := missing_false.mp (Bool.eq_false_iff.mpr noOrder)
      obtain ⟨line,rfl,item⟩ := missing_false.mp (Bool.eq_false_iff.mpr noLine)
      refine .inl ⟨named,line,rfl,fun order' line' => (values order' line').trans ?_⟩
      constructor
      · intro ⟨⟨one,_⟩,two,_⟩
        exact ⟨(Option.some.inj one).symm,(Option.some.inj two).symm⟩
      · intro ⟨one,two⟩
        subst one two
        exact ⟨⟨rfl,given⟩,rfl,item⟩

section Request
variable {printed : Rat → String} {getOrderByNumber : String → Except Exn NumberedOrder} {data : RequestData}

theorem course_names {input : CourseRefundInput} (chosen : entitlementRefund data = false)
    (valid : courseRefundInputSerializer printed data = some input) (order line : String) :
    Names printed getOrderByNumber data order line ↔
      (LastValue input.enrollmentAttributes "order" "order_id" order ∧ order ≠ "") ∧
      LastValue input.enrollmentAttributes "order" "line_item_id" line ∧ line ≠ "" := by
  constructor
  · intro names
    cases names with
    | course _ valid' order given line item =>
      cases valid.symm.trans valid'
      exact ⟨⟨order,given⟩,line,item⟩
    | entitlement chosen' => cases chosen.symm.trans chosen'
  · intro ⟨⟨order,given⟩,line,item⟩
    exact .course chosen valid order given line item

theorem entitlement_names {input : EntitlementRefundInput} (chosen : entitlementRefund data = true)
    (valid : entitlementRefundInputSerializer printed data = some input) (order line : String) :
    Names printed getOrderByNumber data order line ↔ (order ≠ "" ∧ line ≠ "") ∧
      getOrderLineItemInfoFromEntitlementUuid getOrderByNumber input.orderNumber input.entitlementUuid = .ok (order,line) := by
  unfold getOrderLineItemInfoFromEntitlementUuid
  constructor
  · intro names
    cases names with
    | course chosen' => cases chosen.symm.trans chosen'
    | entitlement _ valid' found same given line item =>
      cases valid.symm.trans valid'
      have listed := (found_line_item item).mpr line
      exact ⟨⟨given,item⟩,by simp only [found,listed,same,bind,Except.bind,pure,Except.pure]⟩
  · intro ⟨⟨given,item⟩,looked⟩
    cases found : getOrderByNumber input.orderNumber with
    | error e =>
      rw [found] at looked
      cases looked
    | ok ctOrder =>
      simp only [found,bind,Except.bind] at looked
      cases listed : findLineItem input.entitlementUuid ctOrder.lineItems with
      | error e =>
        rw [listed] at looked
        cases looked
      | ok found_line =>
        rw [listed] at looked
        cases looked
        exact .entitlement chosen valid found rfl given ((found_line_item item).mp listed) item

theorem named_only (printed : Rat → String) (getOrderByNumber : String → Except Exn NumberedOrder) (data : RequestData) :
    (∃ named item, post printed getOrderByNumber data = returning named item ∧
      ∀ order line, Names printed getOrderByNumber data order line ↔ order = named ∧ line = item) ∨
    (∀ order line, ¬Names printed getOrderByNumber data order line) ∧ Refuses (post printed getOrderByNumber data) := by
  unfold post
  split
  · rename_i chosen
    split
    · rename_i invalid
      refine .inr ⟨fun order line names => ?_,.inl ⟨_,rfl,by simp⟩⟩
      cases names with
      | course chosen' => cases chosen.symm.trans chosen'
      | entitlement _ valid => cases invalid.symm.trans valid
    · rename_i input valid
      have names := @entitlement_names printed getOrderByNumber data input chosen valid
      split
      · rename_i failed
        refine .inr ⟨fun order line named => ?_,.inl ⟨_,rfl,by simp⟩⟩
        cases failed.symm.trans ((names order line).mp named).2
      · rename_i failed
        refine .inr ⟨fun order line named => ?_,.inr ⟨_,rfl⟩⟩
        cases failed.symm.trans ((names order line).mp named).2
      · rename_i orderId orderLineItemId looked
        apply refund_line
        intro order line
        rw [names,looked]
        constructor
        · intro ⟨⟨given,item⟩,same⟩
          cases same
          exact ⟨⟨rfl,given⟩,rfl,item⟩
        · intro ⟨⟨one,given⟩,two,item⟩
          cases one
          cases two
          exact ⟨⟨given,item⟩,rfl⟩
  · rename_i chosen
    have chosen := Bool.eq_false_iff.mpr chosen
    split
    · rename_i invalid
      refine .inr ⟨fun order line names => ?_,.inl ⟨_,rfl,by simp⟩⟩
      cases names with
      | course _ valid => cases invalid.symm.trans valid
      | entitlement chosen' => cases chosen.symm.trans chosen'
    · rename_i input valid
      apply refund_line
      intro order line
      rw [dict_last (by decide) (by decide),dict_last (by decide) (by decide)]
      exact course_names chosen valid order line

end Request

end Named

-- Any number of requests for one order at once, among other updates of it that
-- take no return away.
section Runs

def keptUpdate (updated order : Order) : Option Order :=
  if (returnedLineItems order).all (· ∈ returnedLineItems updated) then otherUpdate updated order else none

def commercetools {ε : Type} : System Request Response ε Order Choice Order where
  serve := serve
  environment := keptUpdate
  restarts := fun _ => false

-- What becomes of the order: no return is lost or made twice, and none that `asked`
-- does not cover is added.
structure Along (asked : String → String → Prop) (s t : Order) : Prop where
  same : t.id = s.id
  evolves : Evolves s t
  keeps : returnedLineItems s ⊆ returnedLineItems t
  once : (returnedLineItems s).Nodup → (returnedLineItems t).Nodup
  only : ∀ lineItemId ∈ returnedLineItems t, lineItemId ∈ returnedLineItems s ∨ asked s.id lineItemId

variable {asked : String → String → Prop}

theorem Along.refl (s : Order) : Along asked s s := ⟨rfl,.refl s,fun _ => id,id,fun _ => .inl⟩

theorem Along.trans (first : Along asked s t) (later : Along asked t u) : Along asked s u := by
  refine ⟨later.same.trans first.same,first.evolves.trans later.evolves,fun _ => @later.keeps _ ∘ @first.keeps _,
    later.once ∘ first.once,fun lineItemId listed => ?_⟩
  rcases later.only lineItemId listed with old | new
  · exact first.only lineItemId old
  · exact .inr (first.same ▸ new)

theorem applied_id (returnItemIds : Nat → String) (actions : List OrderAddReturnInfoAction) (order : Order) :
    (applyActions returnItemIds actions order).id = order.id := by
  have each : (actions.foldl (addReturnItems returnItemIds) order).id = order.id := by
    induction actions generalizing order with
    | nil => rfl
    | cons action rest ih => exact ih (addReturnItems returnItemIds order action)
  exact each

theorem read_cases (choice : Choice) (orderId : String) (order : Order) :
    (∃ failure, serve choice (.getOrderById orderId) order = (.error failure,order)) ∨
      orderId = order.id ∧ serve choice (.getOrderById orderId) order = (.ok order,order) := by
  cases choice with
  | answered returnItemIds =>
    by_cases same : orderId = order.id
    · exact .inr ⟨same,by simp [serve,same]⟩
    · exact .inl ⟨.commercetoolsError .resourceNotFound,by simp only [serve,same,if_false]⟩
  | failed failure => exact .inl ⟨failure,rfl⟩
  | lost returnItemIds failure => exact .inl ⟨failure,rfl⟩

def Reported (orderId lineItemId : String) : Except Raised Output → Order → Prop
  | .ok (.returned _ _),order => order.id = orderId ∧ lineItemId ∈ returnedLineItems order
  | .error (.invalidFilterType _),order => order.id = orderId ∧ lineItemId ∈ returnedLineItems order
  | _,_ => True

theorem Reported.later (out : Except Raised Output) (reported : Reported orderId lineItemId out s) (moved : Along asked s t) :
    Reported orderId lineItemId out t := by
  have still : s.id = orderId ∧ lineItemId ∈ returnedLineItems s → t.id = orderId ∧ lineItemId ∈ returnedLineItems t :=
    fun held => ⟨moved.same.trans held.1,moved.keeps held.2⟩
  rcases out with (_ | _ | _ | _) | (_ | _)
  · trivial
  · trivial
  · exact still reported
  · trivial
  · exact still reported
  · trivial

abbrev Keeps (asked : String → String → Prop) (orderId lineItemId : String) (p : ReturnCreation.Call Output) (s : Order) :
    Prop :=
  Ensures commercetools (fun _ _ => True) (Along asked) (Along asked) (Reported orderId lineItemId) p s

def creation (copy : Order) (lineItemId : String) : Request :=
  .updateOrderById copy.id copy.version [⟨[draftFor copy lineItemId]⟩]

theorem already_created {copy : Order} (returned : lineItemId ∈ returnedLineItems copy) :
    ∃ message, exceptFailures (createReturnOnce copy lineItemId) = .raise (.invalidFilterType message) := by
  have created : isCommercetoolsLineItemAlreadyCreated copy lineItemId = true := by
    by_contra uncreated
    exact (not_created copy lineItemId).mp (Bool.eq_false_iff.mpr uncreated) returned
  refine ⟨"Refund already created for order " ++ copy.id ++ " with order line item id " ++ lineItemId,?_⟩
  simp [createReturnOnce,created,exceptFailures]

variable {ι : Type} [DecidableEq ι]

abbrev Requests (ι : Type) := Config Request Response Exn HttpResponse Order ι

end Runs

section Examples

def text (value : String) : Option FieldValue := some (.text value)

def unprinted (_ : Rat) : String := "0"

def courseRequest : RequestData :=
  ⟨none,text "learner",none,text "course-v1:MichiganX+Demo+1T2026",
    some [some ⟨text "order",text "order_id",text "order"⟩,some ⟨text "order",text "line_item_id",text " line "⟩]⟩

def numbered (_ : String) : Except Exn NumberedOrder := .ok ⟨"order",[⟨"other",some none⟩,⟨"line",some (text "uuid")⟩]⟩

def status : View → Option Nat
  | .pure response => some response.status
  | _ => none

def bothRead : List (Event Bool Choice Order) := [answeredFor false,answeredFor true,answeredFor true,answeredFor false]

end Examples

section Repeats

structure Attempt where
  getOrderByNumber : String → Except Exn NumberedOrder
  choice : Request → Choice

def Attempt.run (printed : Rat → String) (data : RequestData) (attempt : Attempt) (order : Order) :
    Except Exn HttpResponse × Order :=
  (post printed attempt.getOrderByNumber data).exec (served attempt.choice) order

def attempted (printed : Rat → String) (data : RequestData) (attempts : List Attempt) (order : Order) : Order :=
  attempts.foldl (fun order attempt => (attempt.run printed data order).2) order

variable {printed : Rat → String} {data : RequestData} {attempt : Attempt} {orderId lineItemId : String}

def givenIds : Choice → Option (Nat → String)
  | .answered returnItemIds => some returnItemIds
  | .failed _ => none
  | .lost returnItemIds _ => some returnItemIds

theorem creation_effect (choice : Choice) (order : Order) (lineItemId : String) :
    (serve choice (creation order lineItemId) order).2 = order ∨ ∃ returnItemIds, givenIds choice = some returnItemIds ∧
      (serve choice (creation order lineItemId) order).2 = withReturn returnItemIds order lineItemId := by
  have updated : ∀ returnItemIds, (updateOrder returnItemIds order.id order.version [⟨[draftFor order lineItemId]⟩] order).2 =
      withReturn returnItemIds order lineItemId := by
    intro returnItemIds
    simp [updateOrder,compareAndSet,HasVersion.version,withReturn]
  cases choice with
  | answered returnItemIds => exact .inr ⟨returnItemIds,rfl,updated returnItemIds⟩
  | failed failure => exact .inl rfl
  | lost returnItemIds failure => exact .inr ⟨returnItemIds,rfl,updated returnItemIds⟩

theorem with_return_id (returnItemIds : Nat → String) (order : Order) (lineItemId : String) :
    (withReturn returnItemIds order lineItemId).id = order.id := applied_id _ _ order

theorem with_return_items (returnItemIds : Nat → String) (order : Order) (lineItemId : String) :
    returnedLineItems (withReturn returnItemIds order lineItemId) = returnedLineItems order ++ [lineItemId] :=
  (apply_creates returnItemIds .returned).2

theorem reported_state {choice : Request → Choice} (answer : Except Failure Order × Order) :
    (proceed choice reported answer).2 = answer.2 := by
  rcases answer with ⟨failure | created,order⟩
  · cases failure <;> rfl
  · change ((exceptFailures (reported created)).exec (served choice) order).2 = order
    unfold reported firstReturnItemId
    split <;> rfl

theorem step_effect (choice : Request → Choice) (orderId lineItemId : String) (order : Order) :
    let final := ((orderRefundRequested orderId lineItemId).exec (served choice) order).2
    final = order ∨ orderId = order.id ∧ lineItemId ∉ returnedLineItems order ∧
      ∃ request returnItemIds, givenIds (choice request) = some returnItemIds ∧
        final = withReturn returnItemIds order lineItemId := by
  intro final
  by_cases active : determineActiveOrderManagementSystemByOrderId orderId = RefundPipeline.commercetoolsOrderManagementSystem
  · have ran : final = (proceed choice (createReturnOnce · lineItemId) (served choice (.getOrderById orderId) order)).2 :=
      congrArg Prod.snd (execute_read active orderId order)
    rcases read_cases (choice (.getOrderById orderId)) orderId order with ⟨failure,read⟩ | ⟨same,read⟩
    · rw [served,read] at ran
      left
      rw [ran]
      cases failure <;> rfl
    · rw [served,read] at ran
      by_cases returned : lineItemId ∈ returnedLineItems order
      · obtain ⟨message,refused⟩ := already_created returned
        rw [proceed,refused] at ran
        exact .inl ran
      · rw [proceed,execute_write order order returned,reported_state] at ran
        rw [ran]
        rcases creation_effect (choice (creation order lineItemId)) order lineItemId with unchanged | added
        · exact .inl unchanged
        · exact .inr ⟨same,returned,creation order lineItemId,added⟩
  · left
    simp only [final,orderRefundRequested,runFilter,active,ne_eq,not_false_eq_true,if_true,Prog.exec_pure]

theorem returning_run (choice : Request → Choice) (orderId lineItemId : String) (order : Order) :
    (returning orderId lineItemId).exec (served choice) order =
      (.ok (respond ((orderRefundRequested orderId lineItemId).exec (served choice) order).1),
        ((orderRefundRequested orderId lineItemId).exec (served choice) order).2) := by
  rw [returning,Prog.exec_bind,Prog.exec_attempt]
  rfl

theorem attempt_effect (data : RequestData) (attempt : Attempt) (order : Order) :
    (attempt.run printed data order).2 = order ∨ ∃ lineItemId, Names printed attempt.getOrderByNumber data order.id lineItemId ∧
      lineItemId ∉ returnedLineItems order ∧ ∃ request returnItemIds, givenIds (attempt.choice request) = some returnItemIds ∧
        (attempt.run printed data order).2 = withReturn returnItemIds order lineItemId := by
  unfold Attempt.run
  rcases named_only printed attempt.getOrderByNumber data with ⟨orderId,lineItemId,goes,only⟩ | ⟨_,refuses⟩
  · rw [goes,returning_run]
    rcases step_effect attempt.choice orderId lineItemId order with unchanged | ⟨same,absent,added⟩
    · exact .inl unchanged
    · exact .inr ⟨lineItemId,(only _ _).mpr ⟨same.symm,rfl⟩,absent,added⟩
  · left
    rcases refuses with ⟨refusal,answers,_⟩ | ⟨e,raises⟩
    · rw [answers,Prog.exec_pure]
    · rw [raises,Prog.exec_raise]

theorem attempted_effect {attempts : List Attempt} (order : Order)
    (same : ∀ attempt ∈ attempts, ∀ other, Names printed attempt.getOrderByNumber data order.id other → other = lineItemId) :
    attempted printed data attempts order = order ∨ lineItemId ∉ returnedLineItems order ∧
      ∃ returnItemIds, attempted printed data attempts order = withReturn returnItemIds order lineItemId := by
  induction attempts using List.reverseRecOn with
  | nil => exact .inl rfl
  | append_singleton attempts attempt ih =>
    have before := ih fun earlier listed => same earlier (List.mem_append_left _ listed)
    have own := same attempt (by simp)
    have last : attempted printed data (attempts ++ [attempt]) order =
        (attempt.run printed data (attempted printed data attempts order)).2 := by
      simp only [attempted,List.foldl_append,List.foldl_cons,List.foldl_nil]
    rw [last]
    rcases attempt_effect data attempt (attempted printed data attempts order) with unchanged | ⟨item,names,absent,_,returnItemIds,_,added⟩
    · rw [unchanged]
      exact before
    · rcases before with untouched | ⟨unreturned,returnItemIds,earlier⟩
      · rw [untouched] at names absent added ⊢
        cases own item names
        exact .inr ⟨absent,returnItemIds,added⟩
      · rw [earlier] at names absent
        rw [with_return_id] at names
        cases own item names
        simp [with_return_items] at absent

theorem first_listed (returnItemIds : Nat → String) {order : Order} (listed : order.returnInfo.head? ≠ some []) (lineItemId : String) :
    ∃ item items infos, (withReturn returnItemIds order lineItemId).returnInfo = (item :: items) :: infos := by
  rw [withReturn_returnInfo]
  rcases infos : order.returnInfo with _ | ⟨_ | ⟨item,items⟩,rest⟩
  · exact ⟨_,_,_,rfl⟩
  · simp [infos] at listed
  · exact ⟨item,items,_,rfl⟩

theorem answered_once {order : Order} {getOrderByNumber : String → Except Exn NumberedOrder} (returnItemIds : Nat → String)
    (names : Names printed getOrderByNumber data order.id lineItemId) (current : RefundPipeline.isLegacyOrder order.id = false)
    (listed : order.returnInfo.head? ≠ some []) :
    ∃ response, response.status = 200 ∧ Attempt.run printed data ⟨getOrderByNumber,fun _ => .answered returnItemIds⟩ order =
      (.ok response,if lineItemId ∈ returnedLineItems order then order else withReturn returnItemIds order lineItemId) := by
  rcases named_only printed getOrderByNumber data with ⟨orderId,item,goes,only⟩ | ⟨none_named,_⟩
  · obtain ⟨rfl,rfl⟩ := (only _ _).mp names
    unfold Attempt.run
    rw [goes,returning_run]
    have active : determineActiveOrderManagementSystemByOrderId order.id = RefundPipeline.commercetoolsOrderManagementSystem := by
      simp [determineActiveOrderManagementSystemByOrderId,current]
    let choice : Request → Choice := fun _ => .answered returnItemIds
    have ran : (orderRefundRequested order.id lineItemId).exec (served choice) order =
        execute choice ⟨RefundPipeline.commercetoolsOrderManagementSystem,order.id,lineItemId⟩ order := by
      rw [orderRefundRequested,active]
      rfl
    rw [ran]
    by_cases returned : lineItemId ∈ returnedLineItems order
    · obtain ⟨message,refused⟩ := already_created returned
      have read : served choice (.getOrderById order.id) order = (.ok order,order) := by simp [choice,served,serve]
      rw [execute_read rfl,read,proceed,refused,if_pos returned]
      exact ⟨⟨200,some message⟩,rfl,rfl⟩
    · obtain ⟨item,items,infos,first⟩ := first_listed returnItemIds listed lineItemId
      rw [execute_answered returnItemIds order returned first,if_neg returned]
      exact ⟨⟨200,none⟩,rfl,rfl⟩
  · exact absurd names (none_named _ _)

-- A request repeated, whatever became of the earlier attempts, until one is answered:
-- that one is accepted and the line item has one return more than none.
theorem repeated_until_answered {attempts : List Attempt} {order : Order} {getOrderByNumber : String → Except Exn NumberedOrder}
    (returnItemIds : Nat → String)
    (same : ∀ attempt ∈ attempts, ∀ other, Names printed attempt.getOrderByNumber data order.id other → other = lineItemId)
    (names : Names printed getOrderByNumber data order.id lineItemId) (current : RefundPipeline.isLegacyOrder order.id = false)
    (listed : order.returnInfo.head? ≠ some []) :
    let before := attempted printed data attempts order
    let answered := Attempt.run printed data ⟨getOrderByNumber,fun _ => .answered returnItemIds⟩ before
    (∃ response, answered.1 = .ok response ∧ response.status = 200) ∧
      returnedLineItems answered.2 = returnedLineItems order ++ if lineItemId ∈ returnedLineItems order then [] else [lineItemId] := by
  intro before answered
  rcases attempted_effect order same with untouched | ⟨absent,earlier,created⟩
  · have once : before = order := untouched
    obtain ⟨response,accepted,ran⟩ := answered_once returnItemIds names current listed
    simp only [answered,once,ran]
    refine ⟨⟨response,rfl,accepted⟩,?_⟩
    split
    · rw [List.append_nil]
    · exact with_return_items returnItemIds order lineItemId
  · have once : before = withReturn earlier order lineItemId := created
    have returned : lineItemId ∈ returnedLineItems before := by simp [once,with_return_items]
    have still : before.id = order.id := by rw [once,with_return_id]
    have first : before.returnInfo.head? ≠ some [] := by
      obtain ⟨item,items,infos,begins⟩ := first_listed earlier listed lineItemId
      simp [once,begins]
    obtain ⟨response,accepted,ran⟩ := answered_once returnItemIds (still ▸ names) (still ▸ current) first
    rw [if_pos returned] at ran
    simp only [answered,ran]
    refine ⟨⟨response,rfl,accepted⟩,?_⟩
    rw [once,with_return_items,if_neg absent]

end Repeats

section Examples

theorem course_line {getOrderByNumber : String → Except Exn NumberedOrder} (other : String) :
    Names unprinted getOrderByNumber courseRequest "order" other ↔ other = "line" := by
  have input : courseRefundInputSerializer unprinted courseRequest = some ⟨"course-v1:MichiganX+Demo+1T2026","learner",
      [⟨"order","order_id","order"⟩,⟨"order","line_item_id","line"⟩]⟩ := by decide +kernel
  have orderId : LastValue [⟨"order","order_id","order"⟩,⟨"order","line_item_id","line"⟩] "order" "order_id" "order" := by
    decide +kernel
  rw [course_names rfl input]
  constructor
  · intro ⟨_,line,_⟩
    exact (Option.some.inj line).symm
  · intro same
    subst same
    exact ⟨⟨orderId,by decide⟩,by decide +kernel,by decide⟩

def updateLost : Request → Choice
  | .getOrderById _ => .answered fun _ => "return"
  | .updateOrderById _ _ _ => .lost (fun _ => "return") .httpError

def lostAnswer : List Attempt := [⟨numbered,updateLost⟩]

theorem accepted_after_lost_answer :
    let before := attempted unprinted courseRequest lostAnswer unreturnedOrder
    let answered := Attempt.run unprinted courseRequest ⟨numbered,fun _ => .answered fun _ => "second"⟩ before
    (∃ response, answered.1 = .ok response ∧ response.status = 200) ∧ returnedLineItems answered.2 = ["line"] :=
  repeated_until_answered (fun _ => "second") (fun _ _ other => (course_line other).mp) ((course_line _).mpr rfl) (by decide) (by decide)

end Examples

end LineRefundRequest
