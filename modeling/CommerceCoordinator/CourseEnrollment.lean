import CommerceCoordinator.Attempts
import CommerceCoordinator.Fulfillment
import Mathlib.Data.Sigma.Basic

open Commercetools CallTree

-- fulfill_order_placed_send_enroll_in_course_task and
-- fulfill_order_placed_send_entitlement_task: LMS is asked, and Commercetools told by
-- a signal how it went.
namespace CourseEnrollment

structure Kwargs where
  courseId : String
  courseMode : String
  datePlaced : String
  edxLmsUserId : Nat
  emailOptIn : Bool
  orderNumber : String
  orderId : String
  orderVersion : Nat
  providerId : Option String
  sourceSystem : String
  lineItemId : String
  itemQuantity : Nat
  lineItemStateId : String
  deriving DecidableEq

structure EnrollmentAttribute where
  namespace_ : String
  name : String
  value : Option String
  deriving DecidableEq

inductive FulfillmentType where
  | enrollment | entitlement
  deriving DecidableEq

inductive LmsData where
  | enrollment (user mode : String) (isActive : Bool) (courseId : String) (emailOptIn : Bool)
      (enrollmentAttributes : List EnrollmentAttribute)
  | entitlement (user mode courseUuid orderNumber : String) (emailOptIn : Bool)
  deriving DecidableEq

-- The JSON LMS answers: an object with or without a `uuid`, or no object.
inductive Json where
  | object (uuid : Option String)
  | other
  deriving DecidableEq

-- `response` is the text of the response there was, if any.
structure RequestException where
  response : Option String
  message : String
  deriving DecidableEq

-- An answer that is no JSON is a RequestException too.
inductive LmsResponse where
  | accepted (json : Except RequestException Json)
  | failed (error : RequestException)

structure LineItemStatePayload where
  orderId : String
  orderVersion : Nat
  lineItemId : String
  itemQuantity : Nat
  lineItemStateId : String
  deriving DecidableEq

-- fulfillment_completed_update_ct_line_item_signal
structure Signal where
  lineItemState : LineItemStatePayload
  isFulfilled : Bool
  entitlementUuid : Option String
  deriving DecidableEq

inductive Request where
  | getUser (lmsUserId : Nat)
  | getStateByKey (stateKey : String)
  | getOrderById (orderId : String)
  | post (data : LmsData)
  | sendRobust (signal : Signal)
  deriving DecidableEq

abbrev Response : Request → Type
  | .getUser _ => Option String
  | .getStateByKey _ => Except ErrorCode String
  | .getOrderById _ => Except ErrorCode Nat
  | .post _ => LmsResponse
  | .sendRobust _ => Unit

inductive TaskError where
  | requestException (error : RequestException)
  | commercetoolsError (code : ErrorCode)
  | doesNotExist
  | attributeError
  deriving DecidableEq

abbrev Task := Prog Request Response TaskError

def orderAttribute (name value : String) : EnrollmentAttribute := ⟨"order",name,some value⟩

def creditMode : String := "credit"

def enrollmentAttributes (kwargs : Kwargs) : List EnrollmentAttribute :=
  [orderAttribute "order_number" kwargs.orderNumber,orderAttribute "order_id" kwargs.orderId,
    orderAttribute "line_item_id" kwargs.lineItemId,orderAttribute "date_placed" kwargs.datePlaced,
    orderAttribute "source_system" kwargs.sourceSystem] ++
  if kwargs.courseMode = creditMode then [⟨"credit","provider_id",kwargs.providerId⟩] else []

def lmsData (type : FulfillmentType) (kwargs : Kwargs) (username : String) : LmsData :=
  match type with
  | .enrollment => .enrollment username kwargs.courseMode true kwargs.courseId kwargs.emailOptIn (enrollmentAttributes kwargs)
  | .entitlement => .entitlement username kwargs.courseMode kwargs.courseId kwargs.orderNumber kwargs.emailOptIn

-- response_json.get('uuid'), of an entitlement only.
def entitlementUuid : FulfillmentType → Json → Option (Option String)
  | .enrollment,_ => some none
  | .entitlement,.object uuid => some uuid
  | .entitlement,.other => none

def unfulfilled (payload : LineItemStatePayload) (error : RequestException) : Task Json :=
  .call (.sendRobust ⟨payload,false,none⟩) fun _ => .raise (.requestException error)

def post (type : FulfillmentType) (data : LmsData) (payload : LineItemStatePayload) : Task Json :=
  .call (.post data) fun
    | .failed error => unfulfilled payload error
    | .accepted (.error error) => unfulfilled payload error
    | .accepted (.ok responseJson) => match entitlementUuid type responseJson with
      | none => .raise .attributeError
      | some uuid => .call (.sendRobust ⟨payload,true,uuid⟩) fun _ => .pure responseJson

def getStateByKey (stateKey : String) : Task String :=
  .expect .commercetoolsError (.perform (Request.getStateByKey stateKey))
def getOrderById (orderId : String) : Task Nat := .expect .commercetoolsError (.perform (Request.getOrderById orderId))

-- A retry means that the item is in the failure state by now.
def lineItemStatePayload (kwargs : Kwargs) (retries : Nat) : Task LineItemStatePayload :=
  if retries = 0 then
    .pure ⟨kwargs.orderId,kwargs.orderVersion,kwargs.lineItemId,kwargs.itemQuantity,kwargs.lineItemStateId⟩
  else do
    let lineItemStateId ← getStateByKey Fulfillment.FulfillmentState.failure.key
    let orderVersion ← getOrderById kwargs.orderId
    return ⟨kwargs.orderId,orderVersion,kwargs.lineItemId,kwargs.itemQuantity,lineItemStateId⟩

def fulfill (type : FulfillmentType) (kwargs : Kwargs) (retries : Nat) : Task Json :=
  .call (.getUser kwargs.edxLmsUserId) fun
    | none => .raise .doesNotExist
    | some username => (lineItemStatePayload kwargs retries).bind fun payload => post type (lmsData type kwargs username) payload

-- autoretry_for=(RequestException, CommercetoolsError)
def autoretryFor : TaskError → Bool
  | .requestException _ => true
  | .commercetoolsError _ => true
  | _ => false

def maxRetries : Nat := 5

def fulfillOrderPlacedSendEnrollInCourseTask (kwargs : Kwargs) : Task Json :=
  .attempts autoretryFor (fulfill .enrollment kwargs) maxRetries 0

def fulfillOrderPlacedSendEntitlementTask (kwargs : Kwargs) : Task Json :=
  .attempts autoretryFor (fulfill .entitlement kwargs) maxRetries 0

def taskOf : FulfillmentType → Kwargs → Task Json
  | .enrollment => fulfillOrderPlacedSendEnrollInCourseTask
  | .entitlement => fulfillOrderPlacedSendEntitlementTask

def signals (exchanges : List (Exchange Request Response)) : List Signal :=
  exchanges.filterMap fun exchange => match exchange.1 with
    | .sendRobust signal => some signal
    | _ => none

@[simp] theorem signals_nil : signals [] = [] := rfl
@[simp] theorem signals_user (x : Response (.getUser lmsUserId)) : signals (⟨.getUser lmsUserId,x⟩::rest) = signals rest := rfl
@[simp] theorem signals_state (x : Response (.getStateByKey key)) : signals (⟨.getStateByKey key,x⟩::rest) = signals rest := rfl
@[simp] theorem signals_order (x : Response (.getOrderById orderId)) :
    signals (⟨.getOrderById orderId,x⟩::rest) = signals rest := rfl
@[simp] theorem signals_post (x : Response (.post data)) : signals (⟨.post data,x⟩::rest) = signals rest := rfl
@[simp] theorem signals_sent (x : Response (.sendRobust signal)) :
    signals (⟨.sendRobust signal,x⟩::rest) = signal::signals rest := rfl
@[simp] theorem signals_append (first later : List (Exchange Request Response)) :
    signals (first++later) = signals first++signals later := List.filterMap_append

def Enrolled (type : FulfillmentType) (kwargs : Kwargs) (exchanges : List (Exchange Request Response)) : Prop :=
  ∃ username json, (⟨.post (lmsData type kwargs username),.accepted (.ok json)⟩ : Exchange Request Response) ∈ exchanges

structure Concerns (kwargs : Kwargs) (signal : Signal) : Prop where
  orderId : signal.lineItemState.orderId = kwargs.orderId
  lineItemId : signal.lineItemState.lineItemId = kwargs.lineItemId
  itemQuantity : signal.lineItemState.itemQuantity = kwargs.itemQuantity

inductive Ended (type : FulfillmentType) (kwargs : Kwargs) (retries : Nat) (t : List (Exchange Request Response)) :
    Except TaskError Json → Prop where
  | fulfilled (sent : signals t = [signal]) (concerns : Concerns kwargs signal) (ok : signal.isFulfilled = true)
      (enrolled : Enrolled type kwargs t) : Ended type kwargs retries t (.ok json)
  | unfulfilled (sent : signals t = [signal]) (concerns : Concerns kwargs signal) (failed : signal.isFulfilled = false) :
      Ended type kwargs retries t (.error (.requestException error))
  | unread (silent : signals t = []) (again : retries ≠ 0) : Ended type kwargs retries t (.error (.commercetoolsError code))
  | stopped (silent : signals t = []) (final : autoretryFor e = false) : Ended type kwargs retries t (.error e)

def PayloadOf (kwargs : Kwargs) (payload : LineItemStatePayload) : Prop :=
  payload.orderId = kwargs.orderId ∧ payload.lineItemId = kwargs.lineItemId ∧ payload.itemQuantity = kwargs.itemQuantity

theorem payload_answered {out : Except TaskError LineItemStatePayload}
    (ran : (lineItemStatePayload kwargs retries).Answered t out) : signals t = [] ∧
      ((∃ payload, out = .ok payload ∧ PayloadOf kwargs payload) ∨ retries ≠ 0 ∧ ∃ code, out = .error (.commercetoolsError code)) := by
  unfold lineItemStatePayload at ran
  split at ran
  · obtain ⟨rfl,rfl⟩ := ran
    exact ⟨rfl,.inl ⟨_,rfl,rfl,rfl,rfl⟩⟩
  · rename_i again
    obtain ⟨state,rest,rfl,ran⟩ := ran
    cases state with
    | error code =>
      obtain ⟨rfl,rfl⟩ := ran
      exact ⟨rfl,.inr ⟨again,code,rfl⟩⟩
    | ok lineItemStateId =>
      obtain ⟨version,rest,rfl,ran⟩ := ran
      cases version with
      | error code =>
        obtain ⟨rfl,rfl⟩ := ran
        exact ⟨rfl,.inr ⟨again,code,rfl⟩⟩
      | ok orderVersion =>
        obtain ⟨rfl,rfl⟩ := ran
        exact ⟨rfl,.inl ⟨_,rfl,rfl,rfl,rfl⟩⟩

theorem Ended.prepend (silent : signals earlier = []) (ended : Ended type kwargs retries t out) :
    Ended type kwargs retries (earlier++t) out := by
  have same : signals (earlier++t) = signals t := by rw [signals_append,silent,List.nil_append]
  cases ended with
  | fulfilled sent concerns ok enrolled =>
    obtain ⟨username,json,member⟩ := enrolled
    exact .fulfilled (same.trans sent) concerns ok ⟨username,json,List.mem_append_right _ member⟩
  | unfulfilled sent concerns failed => exact .unfulfilled (same.trans sent) concerns failed
  | unread none_sent again => exact .unread (same.trans none_sent) again
  | stopped none_sent final => exact .stopped (same.trans none_sent) final

theorem post_answered {payload : LineItemStatePayload} (made : PayloadOf kwargs payload)
    (ran : (post type (lmsData type kwargs username) payload).Answered t out) : Ended type kwargs retries t out := by
  have refused : ∀ error rest, (unfulfilled payload error).Answered rest out → ∀ x : LmsResponse,
      Ended type kwargs retries (⟨.post (lmsData type kwargs username),x⟩::rest) out := by
    intro error rest ran x
    obtain ⟨_,rest,rfl,rfl,rfl⟩ := ran
    exact .unfulfilled rfl ⟨made.1,made.2.1,made.2.2⟩ rfl
  obtain ⟨answer,rest,rfl,ran⟩ := ran
  rcases answer with (error | json) | error
  · exact refused error rest ran _
  · dsimp only at ran
    split at ran
    · obtain ⟨rfl,rfl⟩ := ran
      exact .stopped rfl rfl
    · obtain ⟨_,rest,rfl,rfl,rfl⟩ := ran
      exact .fulfilled rfl ⟨made.1,made.2.1,made.2.2⟩ rfl ⟨username,json,List.mem_cons_self⟩
  · exact refused error rest ran _

theorem fulfill_answered (ran : (fulfill type kwargs retries).Answered t out) : Ended type kwargs retries t out := by
  obtain ⟨user,rest,rfl,ran⟩ := ran
  cases user with
  | none =>
    obtain ⟨rfl,rfl⟩ := ran
    exact .stopped rfl rfl
  | some username =>
    refine @Ended.prepend [⟨.getUser kwargs.edxLmsUserId,some username⟩] _ _ _ _ _ rfl ?_
    rcases Prog.answered_bind.mp ran with ⟨e,failed,rfl⟩ | ⟨payload,first,later,rfl,made,ran⟩
    · have ⟨silent,how⟩ := payload_answered failed
      rcases how with ⟨payload,never,_⟩ | ⟨again,code,same⟩
      · cases never
      · cases same
        exact .unread silent again
    · have ⟨silent,how⟩ := payload_answered made
      rcases how with ⟨_,same,concerns⟩ | ⟨_,code,never⟩
      · cases same
        exact (post_answered concerns ran).prepend silent
      · cases never

-- A run of the task reports failures, at most as many as it has executions, and then
-- success if it returns; it returns only if LMS took the post.
structure RunEnded (type : FulfillmentType) (kwargs : Kwargs) (executions : Nat) (t : List (Exchange Request Response))
    (out : Except TaskError Json) : Prop where
  length : (signals t).length ≤ executions
  concerns : ∀ signal ∈ signals t, Concerns kwargs signal
  reported : ∃ failures, (∀ signal ∈ failures, signal.isFulfilled = false) ∧
    ((∃ e, out = .error e ∧ signals t = failures) ∨
      ∃ json signal, out = .ok json ∧ signals t = failures++[signal] ∧ signal.isFulfilled = true ∧ Enrolled type kwargs t)

theorem Ended.run (ended : Ended type kwargs retries t out) (left : Nat) : RunEnded type kwargs (left+1) t out := by
  cases ended with
  | @fulfilled signal json sent concerns ok enrolled =>
    exact ⟨by simp [sent],by simpa [sent] using concerns,[],by simp,.inr ⟨json,signal,rfl,sent,ok,enrolled⟩⟩
  | @unfulfilled signal error sent concerns failed =>
    exact ⟨by simp [sent],by simpa [sent] using concerns,[signal],by simpa using failed,.inl ⟨_,rfl,sent⟩⟩
  | unread silent again => exact ⟨by simp [silent],by simp [silent],[],by simp,.inl ⟨_,rfl,silent⟩⟩
  | stopped silent final => exact ⟨by simp [silent],by simp [silent],[],by simp,.inl ⟨_,rfl,silent⟩⟩

theorem Ended.retried (ended : Ended type kwargs retries first (.error e)) (listed : autoretryFor e = true)
    (rest : RunEnded type kwargs executions later out) : RunEnded type kwargs (executions+1) (first++later) out := by
  have sent : ∃ failed, signals first = failed ∧ failed.length ≤ 1 ∧ (∀ signal ∈ failed, Concerns kwargs signal) ∧
      ∀ signal ∈ failed, signal.isFulfilled = false := by
    cases ended with
    | @unfulfilled signal error sent concerns failed => exact ⟨_,sent,by simp,by simpa using concerns,by simpa using failed⟩
    | unread silent again => exact ⟨_,silent,by simp,by simp,by simp⟩
    | stopped silent final => exact absurd listed (Bool.eq_false_iff.mp final)
  obtain ⟨failed,sent,short,concerns,unfulfilled⟩ := sent
  obtain ⟨failures,all_failed,how⟩ := rest.reported
  have both : ∀ signal ∈ failed++failures, signal.isFulfilled = false := by
    intro signal member
    rcases List.mem_append.mp member with here | there
    · exact unfulfilled signal here
    · exact all_failed signal there
  refine ⟨?_,?_,failed++failures,both,?_⟩
  · rw [signals_append,List.length_append,sent]
    have := rest.length
    omega
  · intro signal member
    rw [signals_append,sent] at member
    rcases List.mem_append.mp member with here | there
    · exact concerns signal here
    · exact rest.concerns signal there
  · rw [signals_append,sent]
    rcases how with ⟨e',rfl,same⟩ | ⟨json,signal,rfl,same,ok,enrolled⟩
    · exact .inl ⟨e',rfl,by rw [same]⟩
    · obtain ⟨username,json',member⟩ := enrolled
      refine .inr ⟨json,signal,rfl,by rw [same,List.append_assoc],ok,username,json',List.mem_append_right _ member⟩

theorem run_ended (ran : Prog.Attempted autoretryFor (fulfill type kwargs) left n t out) :
    RunEnded type kwargs (left+1) t out ∧ (n = 0 → signals t = [] → ∃ e, out = .error e ∧ autoretryFor e = false) := by
  induction ran with
  | @done n t a left ran =>
    have ended := fulfill_answered ran
    refine ⟨ended.run _,fun _ silent => ?_⟩
    cases ended with
    | fulfilled sent _ _ _ =>
      rw [sent] at silent
      cases silent
  | @failed n t e left ran final =>
    have ended := fulfill_answered ran
    refine ⟨ended.run _,fun first silent => ?_⟩
    cases ended with
    | unfulfilled sent _ _ =>
      rw [sent] at silent
      cases silent
    | unread _ again => exact absurd first again
    | stopped _ final => exact ⟨_,rfl,final⟩
  | @retry n first e left later out ran listed rest ih =>
    have ended := fulfill_answered ran
    refine ⟨ended.retried listed ih.1,fun start silent => ?_⟩
    cases ended with
    | unfulfilled sent _ _ =>
      rw [signals_append,sent] at silent
      cases silent
    | unread _ again => exact absurd start again
    | stopped _ final => exact absurd listed (Bool.eq_false_iff.mp final)

theorem task_answered (ran : (taskOf type kwargs).Answered t out) :
    RunEnded type kwargs 6 t out ∧ (signals t = [] → ∃ e, out = .error e ∧ autoretryFor e = false) := by
  cases type with
  | enrollment => exact (run_ended (Prog.attempts_answered ran)).imp_right fun silent => silent rfl
  | entitlement => exact (run_ended (Prog.attempts_answered ran)).imp_right fun silent => silent rfl

theorem RunEnded.fulfilled (ended : RunEnded type kwargs executions t out) :
    (∃ signal ∈ signals t, signal.isFulfilled = true) ↔ ∃ json, out = .ok json := by
  obtain ⟨failures,all_failed,⟨e,rfl,same⟩ | ⟨json,signal,rfl,same,ok,_⟩⟩ := ended.reported
  · constructor
    · rintro ⟨signal,member,ok⟩
      rw [same] at member
      rw [all_failed signal member] at ok
      cases ok
    · rintro ⟨json,never⟩
      cases never
  · exact ⟨fun _ => ⟨json,rfl⟩,fun _ => ⟨signal,by simp [same],ok⟩⟩

theorem RunEnded.took (ended : RunEnded type kwargs executions t (.ok json)) : Enrolled type kwargs t := by
  obtain ⟨_,_,⟨_,never,_⟩ | ⟨_,_,_,_,_,enrolled⟩⟩ := ended.reported
  · cases never
  · exact enrolled

-- fulfillment_completed_update_ct_line_item
def messageOf (signal : Signal) : Fulfillment.Message :=
  ⟨signal.entitlementUuid.getD "",signal.lineItemState.lineItemId,signal.isFulfilled⟩

structure Job (order : Order) where
  type : FulfillmentType
  kwargs : Kwargs
  ofOrder : kwargs.orderId = order.id
  ofItem : kwargs.lineItemId ∈ order.lineItems.map (·.id)

abbrev Exchanges := List (Exchange Request Response)

section Messages
variable {ι : Type}

abbrev Sent (t : ι → Exchanges) := (i : ι) × Fin (signals (t i)).length

def messages (t : ι → Exchanges) (sent : Sent t) : Fulfillment.Message := messageOf ((signals (t sent.1)).get sent.2)

theorem sent_message (t : ι → Exchanges) {i : ι} (member : signal ∈ signals (t i)) :
    ∃ sent : Sent t, sent.1 = i ∧ messages t sent = messageOf signal := by
  obtain ⟨k,same⟩ := List.get_of_mem member
  exact ⟨⟨i,k⟩,rfl,congrArg messageOf same⟩

theorem message_sent (t : ι → Exchanges) (sent : Sent t) : ∃ signal ∈ signals (t sent.1), messages t sent = messageOf signal :=
  ⟨_,List.get_mem _ _,rfl⟩

end Messages

section EndToEnd
variable {ι : Type} [DecidableEq ι] {order : Order} {table : Fulfillment.StateTable}

theorem items_settled {messages : ι → Fulfillment.Message} {c : Fulfillment.Cluster ι}
    (processing : ∀ lineItem ∈ order.lineItems, Fulfillment.InState table lineItem .processing)
    (known : ∀ i, (messages i).lineItemId ∈ order.lineItems.map (·.id))
    (path : Fulfillment.Runs table messages ⟨⟨order,[]⟩,Fulfillment.tasks messages⟩ events c)
    (complete : Fulfillment.Complete c) (listed : lineItem ∈ order.lineItems) :
    ∃ k, Fulfillment.StateOf table c.shared.order lineItem.id k ∧ Fulfillment.Outcome messages lineItem.id k := by
  have start : Fulfillment.Valid table messages ⟨⟨order,[]⟩,Fulfillment.tasks messages⟩ := fun i =>
    Fulfillment.task_completes ⟨.processing,Fulfillment.processing_state processing (known i),.inl rfl⟩
  obtain ⟨valid,advanced⟩ := Fulfillment.runs_valid start path
  have from_processing := Fulfillment.processing_state processing (List.mem_map_of_mem listed)
  obtain ⟨k,at_k,moves⟩ := advanced.states _ _ from_processing
  refine ⟨k,at_k,Fulfillment.outcome_reached moves fun i same => ?_⟩
  obtain ⟨other,at_other,done⟩ := Fulfillment.settled_complete valid complete i
  rw [same] at at_other
  rwa [Fulfillment.state_unique at_k at_other]

-- From the posts to LMS to the states of the line items, whatever the services answer
-- and in whatever order the signals are handled.
theorem fulfilled_end_to_end (jobs : ι → Job order) {t : ι → Exchanges} {out : ι → Except TaskError Json}
    {c : Fulfillment.Cluster (Sent t)} {events : List (Event (Sent t) Bool Empty)}
    (ran : ∀ i, (taskOf (jobs i).type (jobs i).kwargs).Answered (t i) (out i))
    (processing : ∀ lineItem ∈ order.lineItems, Fulfillment.InState table lineItem .processing)
    (path : Fulfillment.Runs table (messages t) ⟨⟨order,[]⟩,Fulfillment.tasks (messages t)⟩ events c)
    (complete : Fulfillment.Complete c) :
    ∀ lineItem ∈ order.lineItems, ∃ k, Fulfillment.StateOf table c.shared.order lineItem.id k ∧
      (k = .success ∨ k = .failure ∨ k = .processing) ∧
      (k = .success ↔ ∃ i json, (jobs i).kwargs.lineItemId = lineItem.id ∧ out i = .ok json) ∧
      (k = .success → ∃ i, (jobs i).kwargs.lineItemId = lineItem.id ∧ Enrolled (jobs i).type (jobs i).kwargs (t i)) ∧
      (k = .processing → ∀ i, (jobs i).kwargs.lineItemId = lineItem.id → ∃ e, out i = .error e ∧ autoretryFor e = false) := by
  have ended := fun i => (task_answered (ran i)).1
  have silent := fun i => (task_answered (ran i)).2
  have concerns : ∀ sent : Sent t, (messages t sent).lineItemId = (jobs sent.1).kwargs.lineItemId := by
    intro sent
    obtain ⟨signal,member,same⟩ := message_sent t sent
    rw [same]
    exact ((ended sent.1).concerns signal member).lineItemId
  have known : ∀ sent : Sent t, (messages t sent).lineItemId ∈ order.lineItems.map (·.id) := fun sent =>
    concerns sent ▸ (jobs sent.1).ofItem
  -- A message of success is one of a task that returned.
  have succeeded : ∀ lineItemId, (∃ sent : Sent t, (messages t sent).lineItemId = lineItemId ∧
      (messages t sent).isFulfilled = true) ↔ ∃ i json, (jobs i).kwargs.lineItemId = lineItemId ∧ out i = .ok json := by
    intro lineItemId
    constructor
    · rintro ⟨sent,item,ok⟩
      obtain ⟨signal,member,same⟩ := message_sent t sent
      rw [same] at ok
      obtain ⟨json,done⟩ := (ended sent.1).fulfilled.mp ⟨signal,member,ok⟩
      exact ⟨sent.1,json,concerns sent ▸ item,done⟩
    · rintro ⟨i,json,item,done⟩
      obtain ⟨signal,member,ok⟩ := (ended i).fulfilled.mpr ⟨json,done⟩
      obtain ⟨sent,rfl,same⟩ := sent_message t member
      exact ⟨sent,(concerns sent).trans item,by rw [same]; exact ok⟩
  intro lineItem listed
  obtain ⟨k,at_k,outcome⟩ := items_settled processing known path complete listed
  refine ⟨k,at_k,?_⟩
  cases k with
  | success =>
    obtain ⟨i,json,item,done⟩ := (succeeded _).mp outcome
    refine ⟨.inl rfl,⟨fun _ => ⟨i,json,item,done⟩,fun _ => rfl⟩,fun _ => ⟨i,item,?_⟩,?_⟩
    · exact RunEnded.took (done ▸ ended i)
    · exact fun never => by cases never
  | failure =>
    refine ⟨.inr (.inl rfl),⟨?_,fun returned => ?_⟩,?_,?_⟩
    · exact fun never => by cases never
    · exact absurd ((succeeded _).mpr returned) outcome.2
    · exact fun never => by cases never
    · exact fun never => by cases never
  | processing =>
    refine ⟨.inr (.inr rfl),⟨?_,fun returned => ?_⟩,?_,fun _ i item => ?_⟩
    · exact fun never => by cases never
    · obtain ⟨sent,item,_⟩ := (succeeded _).mpr returned
      exact absurd ⟨sent,item⟩ outcome
    · exact fun never => by cases never
    · refine silent i (List.eq_nil_iff_forall_not_mem.mpr fun signal member => ?_)
      obtain ⟨sent,rfl,_⟩ := sent_message t member
      exact outcome ⟨sent,(concerns sent).trans item⟩
  | initial => exact outcome.elim
  | pending => exact outcome.elim

end EndToEnd

def bought (lineItemId : String) : Kwargs :=
  ⟨"course","verified","2024-01-01",7,true,"2U-1","order",3,none,"commercetools",lineItemId,1,"processing"⟩

def twoJobs (entitles : Bool) : Job Fulfillment.twoItems :=
  if entitles then ⟨.entitlement,bought "second",rfl,by simp [bought,Fulfillment.twoItems]⟩
  else ⟨.enrollment,bought "first",rfl,by simp [bought,Fulfillment.twoItems]⟩

def timedOut : RequestException := ⟨none,"Read timed out."⟩

def answered (entitles : Bool) : Exchanges :=
  if entitles then [⟨.getUser 7,some "ada"⟩,⟨.post (lmsData .entitlement (bought "second") "ada"),.accepted (.ok .other)⟩]
  else [⟨.getUser 7,some "ada"⟩,⟨.post (lmsData .enrollment (bought "first") "ada"),.failed timedOut⟩,
    ⟨.sendRobust ⟨⟨"order",3,"first",1,"processing"⟩,false,none⟩,()⟩,⟨.getUser 7,some "ada"⟩,
    ⟨.getStateByKey "2u-fulfillment-failure-state",.ok "failure"⟩,⟨.getOrderById "order",.ok 4⟩,
    ⟨.post (lmsData .enrollment (bought "first") "ada"),.accepted (.ok (.object none))⟩,
    ⟨.sendRobust ⟨⟨"order",4,"first",1,"failure"⟩,true,none⟩,()⟩]

def results (entitles : Bool) : Except TaskError Json :=
  if entitles then .error .attributeError else .ok (.object none)

theorem jobs_answered (entitles : Bool) :
    (taskOf (twoJobs entitles).type (twoJobs entitles).kwargs).Answered (answered entitles) (results entitles) := by
  apply Prog.follow_answered
  cases entitles <;> rfl

def failed : Sent answered := ⟨false,⟨0,Nat.zero_lt_succ 1⟩⟩
def succeeded : Sent answered := ⟨false,⟨1,Nat.lt_succ_self 1⟩⟩

def handled : List (Event (Sent answered) Bool Empty) :=
  List.replicate 5 (.act failed true) ++ List.replicate 5 (.act succeeded true)

theorem two_jobs_settled : ∃ c : Fulfillment.Cluster (Sent answered),
    ∀ lineItem ∈ Fulfillment.twoItems.lineItems, ∃ k, Fulfillment.StateOf Fulfillment.keyTable c.shared.order lineItem.id k ∧
      (k = .success ∨ k = .failure ∨ k = .processing) ∧
      (k = .success ↔ ∃ i json, (twoJobs i).kwargs.lineItemId = lineItem.id ∧ results i = .ok json) ∧
      (k = .success → ∃ i, (twoJobs i).kwargs.lineItemId = lineItem.id ∧
        Enrolled (twoJobs i).type (twoJobs i).kwargs (answered i)) ∧
      (k = .processing → ∀ i, (twoJobs i).kwargs.lineItemId = lineItem.id →
        ∃ e, results i = .error e ∧ autoretryFor e = false) := by
  have ran : (guardedRun ((Fulfillment.commercetools Fulfillment.keyTable).step (Fulfillment.tasks (messages answered)))
    (fun _ _ => true) ⟨⟨Fulfillment.twoItems,[]⟩,Fulfillment.tasks (messages answered)⟩ handled).isSome = true := rfl
  have path : Fulfillment.Runs Fulfillment.keyTable (messages answered) _ _ _ :=
    RunsWhen.nil.guarded (fun _ _ _ => trivial) (Option.some_get ran).symm
  refine ⟨_,fulfilled_end_to_end twoJobs jobs_answered (by decide +kernel) path ?_⟩
  rintro ⟨entitles,k⟩
  cases entitles with
  | false =>
    obtain ⟨n,small⟩ := k
    rcases n with _ | _ | n
    · exact ⟨_,rfl⟩
    · exact ⟨_,rfl⟩
    · have two : (signals (answered false)).length = 2 := rfl
      omega
  | true => exact k.elim0

end CourseEnrollment
