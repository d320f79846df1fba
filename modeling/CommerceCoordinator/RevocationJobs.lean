import CommerceCoordinator.Attempts
import CommerceCoordinator.Layers
import CommerceCoordinator.LineRevocation

open CallTree
open Commercetools (ErrorCode Exn)
open LegacyOrders (FieldValue iterate)
open LineRevocation (LineItem Order Customer ReturnItem Payload LoggingData Interruption getEdxLmsUserId getEdxLmsUserName
  getLineItemAttribute getEdxProductCourseRunKey getLobFromVariantAttr orderRevokeLineRequestSerializer
  returnLineItems revokeRequest revokeLines revokeLineItemsTask retryable)

-- The jobs that end the access to what was sold: revoke_line_items_task and
-- revoke_line_mobile_order_task with their retries, over the posts of the client of
-- the fulfilment service.
namespace RevocationJobs

-- `json none` is the JSON null; an answer that is no JSON is a RequestException too.
inductive Answer where
  | requestException
  | json (body : Option String)
  deriving DecidableEq

def Answer.body : Answer → Option String
  | .requestException => none
  | .json body => body

inductive HttpRequest where
  | getOrderById (orderId : String)
  | getOrderByPaymentId (paymentId : String)
  | getCustomerById (customerId : String)
  | post (payload : Payload)
  deriving DecidableEq

abbrev HttpResponse : HttpRequest → Type
  | .getOrderById _ => Except ErrorCode Order
  | .getOrderByPaymentId _ => Except ErrorCode (List Order)
  | .getCustomerById _ => Except ErrorCode Customer
  | .post _ => Answer

abbrev Http := Exchange HttpRequest HttpResponse

section Client
variable {ε : Type}

-- OrderFulfillmentAPIClient.post with this many attempts left after the next one.
def attempt (payload : Payload) : Nat → Prog HttpRequest HttpResponse ε (Option String)
  | 0 => .call (.post payload) fun answer => .pure answer.body
  | left+1 => .call (.post payload) fun
    | .json body => .pure body
    | .requestException => attempt payload left

def totalRetries : Nat := 3

def revokeLine (payload : Payload) : Prog HttpRequest HttpResponse ε (Option String) := attempt payload totalRetries

def client : (r : LineRevocation.Request) → Prog HttpRequest HttpResponse ε (LineRevocation.Response r)
  | .getOrderById orderId => .call (.getOrderById orderId) .pure
  | .getCustomerById customerId => .call (.getCustomerById customerId) .pure
  | .revokeLine payload _ => revokeLine payload

-- The posts of one call of the client: unanswered ones, and the one that decides.
def postsOf (payload : Payload) (unanswered : Nat) (answer : Answer) : List Http :=
  List.replicate unanswered ⟨.post payload,.requestException⟩++[⟨.post payload,answer⟩]

theorem attempt_answered {payload : Payload} {left : Nat} {t : List Http} {out : Except ε (Option String)}
    (ran : (attempt payload left).Answered t out) :
    ∃ unanswered answer, unanswered ≤ left ∧ (answer = .requestException → unanswered = left) ∧
      t = postsOf payload unanswered answer ∧ out = .ok answer.body := by
  induction left generalizing t with
  | zero =>
    obtain ⟨answer,_,rfl,rfl,rfl⟩ := ran
    exact ⟨0,answer,Nat.le_refl _,fun _ => rfl,rfl,rfl⟩
  | succ left ih =>
    obtain ⟨answer,rest,rfl,ran⟩ := ran
    cases answer with
    | json body =>
      obtain ⟨rfl,rfl⟩ := ran
      exact ⟨0,.json body,Nat.zero_le _,(fun never => by cases never),rfl,rfl⟩
    | requestException =>
      obtain ⟨unanswered,answer,few,last,rfl,rfl⟩ := ih ran
      exact ⟨unanswered+1,answer,Nat.succ_le_succ few,fun failed => congrArg Nat.succ (last failed),rfl,rfl⟩

theorem client_silent (r : LineRevocation.Request) (t : List Http) (e : ε) :
    ¬(client r : Prog HttpRequest HttpResponse ε _).Answered t (.error e) := by
  intro ran
  cases r with
  | getOrderById orderId =>
    obtain ⟨_,_,_,_,never⟩ := ran
    cases never
  | getCustomerById customerId =>
    obtain ⟨_,_,_,_,never⟩ := ran
    cases never
  | revokeLine payload loggingData =>
    obtain ⟨_,_,_,_,_,never⟩ := attempt_answered ran
    cases never

end Client

def failed : Http → Bool
  | ⟨.getOrderById _,x⟩ => !x.isOk
  | ⟨.getOrderByPaymentId _,x⟩ => !x.isOk
  | ⟨.getCustomerById _,x⟩ => !x.isOk
  | ⟨.post _,answer⟩ => answer.body.isNone

def posted : Http → Bool
  | ⟨.post _,_⟩ => true
  | _ => false

section Preparation

def payloadOf (printed : Rat → String) (uuid : FieldValue → Option String) (order : Order) (customer : Customer)
    (lineItem : LineItem) : Option Payload :=
  match getEdxLmsUserId customer,getEdxLmsUserName customer with
  | .ok lmsUserId,.ok lmsUserName =>
    match revokeRequest printed uuid order customer lmsUserId lmsUserName lineItem with
    | .pure (payload,_) => some payload
    | _ => none
  | _,_ => none

structure Fit (printed : Rat → String) (uuid : FieldValue → Option String) (returnItems : List ReturnItem) (order : Order)
    (customer : Customer) : Prop where
  lmsUserId : (getEdxLmsUserId customer).isOk = true
  lmsUserName : (getEdxLmsUserName customer).isOk = true
  lineItems : ∀ lineItem ∈ returnLineItems order returnItems, (payloadOf printed uuid order customer lineItem).isSome = true

variable {printed : Rat → String} {uuid : FieldValue → Option String} {order : Order} {customer : Customer}
  {lmsUserId lmsUserName : FieldValue}

theorem iterate_failed {attributes : Option (List LegacyOrders.Attribute)} {f : List LegacyOrders.Attribute → α} {e : Exn}
    (failed : (do let listed ← iterate attributes; return f listed) = .error e) : e = .typeError := by
  cases attributes with
  | none =>
    cases failed
    rfl
  | some listed => cases failed

theorem course_run_key_failed {lineItem : LineItem} {courseMode : FieldValue} {e : Exn}
    (failed : getEdxProductCourseRunKey lineItem courseMode = .error e) : e = .typeError := by
  unfold getEdxProductCourseRunKey CatalogInfo.getEdxProductCourseRunKey at failed
  split at failed
  · exact iterate_failed failed
  · cases failed

theorem revoke_request_cases (lineItem : LineItem) :
    (∃ request, revokeRequest printed uuid order customer lmsUserId lmsUserName lineItem = .pure request) ∨
      ∃ e, revokeRequest printed uuid order customer lmsUserId lmsUserName lineItem = .raise e ∧ retryable e = false := by
  unfold revokeRequest
  cases mode : getLineItemAttribute lineItem "mode" with
  | error e =>
    cases iterate_failed mode
    exact .inr ⟨_,rfl,rfl⟩
  | ok courseMode =>
    cases key : getEdxProductCourseRunKey lineItem courseMode with
    | error e =>
      cases course_run_key_failed key
      exact .inr ⟨.failed .typeError,by simp [LineRevocation.orRaise,key],rfl⟩
    | ok courseRunKey =>
      cases business : getLobFromVariantAttr lineItem with
      | error e =>
        cases iterate_failed business
        exact .inr ⟨.failed .typeError,by simp [LineRevocation.orRaise,key],rfl⟩
      | ok lob =>
        simp only [LineRevocation.orRaise,Prog.or_raise_ok,Prog.monad_bind,Prog.pure_bind,key]
        split
        · exact .inr ⟨_,rfl,rfl⟩
        · exact .inl ⟨_,rfl⟩

theorem user_id_failed {e : Exn} (failed : getEdxLmsUserId customer = .error e) : retryable (.failed e) = false := by
  unfold getEdxLmsUserId at failed
  split at failed
  · cases failed
    rfl
  · split at failed
    · cases failed
      rfl
    · cases failed

theorem user_name_failed {e : Exn} (failed : getEdxLmsUserName customer = .error e) : retryable (.failed e) = false := by
  unfold getEdxLmsUserName at failed
  split at failed
  · cases failed
    rfl
  · split at failed
    · cases failed
      rfl
    · cases failed

theorem payload_prepared {lineItem : LineItem} {payload : Payload} {loggingData : LoggingData}
    (known : getEdxLmsUserId customer = .ok lmsUserId) (named : getEdxLmsUserName customer = .ok lmsUserName)
    (prepared : revokeRequest printed uuid order customer lmsUserId lmsUserName lineItem = .pure (payload,loggingData)) :
    payloadOf printed uuid order customer lineItem = some payload := by
  simp only [payloadOf,known,named,prepared]

theorem payload_unfit {lineItem : LineItem} {e : Interruption} (known : getEdxLmsUserId customer = .ok lmsUserId)
    (named : getEdxLmsUserName customer = .ok lmsUserName)
    (raised : revokeRequest printed uuid order customer lmsUserId lmsUserName lineItem = .raise e) :
    payloadOf printed uuid order customer lineItem = none := by
  simp only [payloadOf,known,named,raised]

end Preparation

section Lines
variable {printed : Rat → String} {uuid : FieldValue → Option String} {order : Order} {customer : Customer}
  {lmsUserId lmsUserName : FieldValue}

abbrev Asked := Exchange LineRevocation.Request LineRevocation.Response

structure LinesEnded (revokes : LineItem → Option Payload) (lineItems : List LineItem) (t : List Asked)
    (out : Except Interruption α) : Prop where
  named : ∀ x ∈ t, ∃ payload loggingData answer, x = ⟨.revokeLine payload loggingData,answer⟩ ∧
    ∃ lineItem ∈ lineItems, revokes lineItem = some payload
  short : t.length ≤ lineItems.length
  done : ∀ a, out = .ok a → ∀ lineItem ∈ lineItems, ∃ payload loggingData json, revokes lineItem = some payload ∧
    ⟨.revokeLine payload loggingData,some json⟩ ∈ t
  stopped : ∀ e, out = .error e →
    (retryable e = true ∧ ∃ payload loggingData, ⟨.revokeLine payload loggingData,none⟩ ∈ t) ∨
      retryable e = false ∧ ∃ lineItem ∈ lineItems, revokes lineItem = none

theorem lines_ended {lineItems : List LineItem} {t : List Asked} {out : Except Interruption Unit}
    (known : getEdxLmsUserId customer = .ok lmsUserId) (named : getEdxLmsUserName customer = .ok lmsUserName)
    (ran : (revokeLines printed uuid order customer lmsUserId lmsUserName lineItems).Answered t out) :
    LinesEnded (payloadOf printed uuid order customer) lineItems t out := by
  induction lineItems generalizing t with
  | nil =>
    obtain ⟨rfl,rfl⟩ := ran
    exact ⟨by simp,Nat.zero_le _,by simp,(fun e never => by cases never)⟩
  | cons lineItem rest ih =>
    rw [revokeLines] at ran
    have prepares := @revoke_request_cases printed uuid order customer lmsUserId lmsUserName lineItem
    rcases prepares with ⟨⟨payload,loggingData⟩,prepared⟩ | ⟨e,raised,final⟩
    · rw [prepared] at ran
      have own := payload_prepared known named prepared
      obtain ⟨answer,later,rfl,ran⟩ := ran
      cases answer with
      | none =>
        obtain ⟨rfl,rfl⟩ := ran
        refine ⟨?_,by simp,(fun a never => by cases never),?_⟩
        · intro x listed
          cases List.mem_singleton.mp listed
          exact ⟨payload,loggingData,none,rfl,lineItem,List.mem_cons_self,own⟩
        · intro e same
          cases same
          exact .inl ⟨rfl,payload,loggingData,List.mem_singleton.mpr rfl⟩
      | some json =>
        have others := ih ran
        refine ⟨?_,Nat.succ_le_succ others.short,?_,?_⟩
        · intro x listed
          rcases List.mem_cons.mp listed with rfl | member
          · exact ⟨payload,loggingData,some json,rfl,lineItem,List.mem_cons_self,own⟩
          · obtain ⟨payload',loggingData',answer,same,other,among,asked⟩ := others.named x member
            exact ⟨payload',loggingData',answer,same,other,List.mem_cons_of_mem _ among,asked⟩
        · intro a ended other listed
          rcases List.mem_cons.mp listed with rfl | member
          · exact ⟨payload,loggingData,json,own,List.mem_cons_self⟩
          · obtain ⟨payload',loggingData',json',asked,answered⟩ := others.done a ended other member
            exact ⟨payload',loggingData',json',asked,List.mem_cons_of_mem _ answered⟩
        · intro e ended
          rcases others.stopped e ended with ⟨again,payload',loggingData',unanswered⟩ | ⟨final,other,among,unfit⟩
          · exact .inl ⟨again,payload',loggingData',List.mem_cons_of_mem _ unanswered⟩
          · exact .inr ⟨final,other,List.mem_cons_of_mem _ among,unfit⟩
    · rw [raised] at ran
      obtain ⟨rfl,rfl⟩ := ran
      refine ⟨by simp,Nat.zero_le _,(fun a never => by cases never),?_⟩
      intro e' same
      cases same
      exact .inr ⟨final,lineItem,List.mem_cons_self,payload_unfit known named raised⟩

end Lines

section Task
variable {printed : Rat → String} {uuid : FieldValue → Option String}

inductive TaskEnded (printed : Rat → String) (uuid : FieldValue → Option String) (orderId : String)
    (returnItems : List ReturnItem) : List Asked → Except Interruption Bool → Prop where
  | orderUnread (code : ErrorCode) : TaskEnded printed uuid orderId returnItems [⟨.getOrderById orderId,.error code⟩]
      (.error (LineRevocation.raised code))
  | customerUnread (code : ErrorCode) : TaskEnded printed uuid orderId returnItems
      [⟨.getOrderById orderId,.ok order⟩,⟨.getCustomerById order.customerId,.error code⟩]
      (.error (LineRevocation.raised code))
  | unknown (final : retryable e = false) (unfit : ¬Fit printed uuid returnItems order customer) :
      TaskEnded printed uuid orderId returnItems
        [⟨.getOrderById orderId,.ok order⟩,⟨.getCustomerById order.customerId,.ok customer⟩] (.error e)
  | lines (ended : LinesEnded (payloadOf printed uuid order customer) (returnLineItems order returnItems) later out)
      (result : ∀ a, out = .ok a → a = true) : TaskEnded printed uuid orderId returnItems
        (⟨.getOrderById orderId,.ok order⟩::⟨.getCustomerById order.customerId,.ok customer⟩::later) out

theorem LinesEnded.returned {revokes : LineItem → Option Payload} {lineItems : List LineItem} {t : List Asked}
    {out : Except Interruption Unit} (ended : LinesEnded revokes lineItems t out) :
    LinesEnded revokes lineItems t (out.map fun _ => true) := by
  refine ⟨ended.named,ended.short,?_,?_⟩
  · intro a same
    cases out with
    | error e => cases same
    | ok _ => exact ended.done () rfl
  · intro e same
    cases out with
    | error e' =>
      cases same
      exact ended.stopped e rfl
    | ok _ => cases same

theorem task_ended {orderId : String} {returnItems : List ReturnItem} {t : List Asked} {out : Except Interruption Bool}
    (ran : (revokeLineItemsTask printed uuid orderId returnItems).Answered t out) :
    TaskEnded printed uuid orderId returnItems t out := by
  obtain ⟨read,later,rfl,ran⟩ := ran
  cases read with
  | error code =>
    obtain ⟨rfl,rfl⟩ := ran
    exact .orderUnread code
  | ok order =>
    obtain ⟨found,later,rfl,ran⟩ := ran
    cases found with
    | error code =>
      obtain ⟨rfl,rfl⟩ := ran
      exact .customerUnread code
    | ok customer =>
      simp only [Prog.pure_bind,Prog.monad_bind] at ran
      cases known : getEdxLmsUserId customer with
      | error e =>
        rw [known] at ran
        obtain ⟨rfl,rfl⟩ := ran
        exact .unknown (user_id_failed known) fun fit => by simpa [known,Except.isOk,Except.toBool] using fit.lmsUserId
      | ok lmsUserId =>
        rw [known] at ran
        simp only [LineRevocation.orRaise,Prog.or_raise_ok,Prog.pure_bind] at ran
        cases named : getEdxLmsUserName customer with
        | error e =>
          rw [named] at ran
          obtain ⟨rfl,rfl⟩ := ran
          exact .unknown (user_name_failed named) fun fit => by simpa [named,Except.isOk,Except.toBool] using fit.lmsUserName
        | ok lmsUserName =>
          rw [named] at ran
          simp only [Prog.or_raise_ok,Prog.pure_bind] at ran
          cases matched : returnLineItems order returnItems with
          | nil =>
            rw [matched] at ran
            obtain ⟨rfl,rfl⟩ := ran
            refine .lines ⟨by simp,Nat.zero_le _,by simp [matched],fun e never => by cases never⟩ ?_
            intro a same
            cases same
            rfl
          | cons lineItem rest =>
            rw [matched] at ran
            rcases Prog.answered_bind.mp ran with ⟨e,stopped,rfl⟩ | ⟨_,first,_,rfl,done,rfl,rfl⟩
            · refine .lines ?_ fun a never => by cases never
              rw [matched]
              exact (lines_ended known named stopped).returned
            · refine .lines ?_ fun a same => by cases same; rfl
              rw [matched,List.append_nil]
              exact (lines_ended known named done).returned

end Task

section Job
variable {printed : Rat → String} {uuid : FieldValue → Option String} {orderId : String} {returnItems : List ReturnItem}

structure Read (orderId : String) (t : List Http) (order : Order) (customer : Customer) : Prop where
  orderRead : ⟨.getOrderById orderId,.ok order⟩ ∈ t
  customerRead : ⟨.getCustomerById order.customerId,.ok customer⟩ ∈ t

theorem Read.mono {t t' : List Http} {order : Order} {customer : Customer} (read : Read orderId t order customer)
    (within : t ⊆ t') : Read orderId t' order customer := ⟨within read.orderRead,within read.customerRead⟩

structure JobEnded (printed : Rat → String) (uuid : FieldValue → Option String) (orderId : String)
    (returnItems : List ReturnItem) (executions : Nat) (t : List Http) (out : Except Interruption Bool) : Prop where
  named : ∀ payload answer, ⟨.post payload,answer⟩ ∈ t → ∃ order customer, Read orderId t order customer ∧
    ∃ lineItem ∈ returnLineItems order returnItems, payloadOf printed uuid order customer lineItem = some payload
  short : t.countP posted ≤ executions*(4*returnItems.length)
  done : ∀ done, out = .ok done → done = true ∧ ∃ order customer, Read orderId t order customer ∧
    ∀ lineItem ∈ returnLineItems order returnItems, ∃ payload json,
      payloadOf printed uuid order customer lineItem = some payload ∧ ⟨.post payload,.json (some json)⟩ ∈ t
  stopped : ∀ e, out = .error e → (retryable e = true ∧ executions ≤ t.countP failed) ∨
    retryable e = false ∧ ∃ order customer, Read orderId t order customer ∧ ¬Fit printed uuid returnItems order customer

theorem return_line_items_length (order : Order) (returnItems : List ReturnItem) :
    (returnLineItems order returnItems).length ≤ returnItems.length := by
  rw [← List.length_map (·.id),LineRevocation.returned_ids]
  exact List.length_filterMap_le _ _

abbrev Sent (above : List Asked) (t : List Http) : Prop := Prog.Made (@client Interruption) above t

section Sent
variable {t : List Http} {above : List Asked}

theorem order_sent {x : Except ErrorCode Order} (sent : Sent (⟨.getOrderById orderId,x⟩::above) t) :
    ∃ later, t = ⟨.getOrderById orderId,x⟩::later ∧ Sent above later := by
  cases sent with
  | cons answered made =>
    obtain ⟨_,_,rfl,rfl,same⟩ := answered
    cases same
    exact ⟨_,rfl,made⟩

theorem customer_sent {customerId : String} {x : Except ErrorCode Customer}
    (sent : Sent (⟨.getCustomerById customerId,x⟩::above) t) :
    ∃ later, t = ⟨.getCustomerById customerId,x⟩::later ∧ Sent above later := by
  cases sent with
  | cons answered made =>
    obtain ⟨_,_,rfl,rfl,same⟩ := answered
    cases same
    exact ⟨_,rfl,made⟩

theorem nothing_sent (sent : Sent [] t) : t = [] := by
  cases sent
  rfl

theorem posts_of_call {payload : Payload} {unanswered : Nat} {answer : Answer} {y : Http}
    (listed : y ∈ postsOf payload unanswered answer) : ∃ given, y = ⟨.post payload,given⟩ := by
  rcases List.mem_append.mp listed with earlier | last
  · exact ⟨_,List.eq_of_mem_replicate earlier⟩
  · exact ⟨_,List.mem_singleton.mp last⟩

theorem postsOf_length (payload : Payload) (unanswered : Nat) (answer : Answer) :
    (postsOf payload unanswered answer).length = unanswered+1 := by
  simp [postsOf]

theorem call_short (r : LineRevocation.Request) (x : LineRevocation.Response r) (part : List Http)
    (ran : (@client Interruption r).Answered part (.ok x)) : part.countP posted ≤ 4 := by
  refine Nat.le_trans List.countP_le_length ?_
  cases r with
  | getOrderById orderId =>
    obtain ⟨_,_,rfl,rfl,_⟩ := ran
    exact Nat.le_add_left 1 3
  | getCustomerById customerId =>
    obtain ⟨_,_,rfl,rfl,_⟩ := ran
    exact Nat.le_add_left 1 3
  | revokeLine payload loggingData =>
    obtain ⟨unanswered,answer,few,_,rfl,_⟩ := attempt_answered ran
    rw [postsOf_length]
    exact Nat.succ_le_succ few

theorem call_answer {payload : Payload} {loggingData : LoggingData} {body : Option String} (sent : Sent above t)
    (asked : ⟨.revokeLine payload loggingData,body⟩ ∈ above) : ∃ answer, answer.body = body ∧ ⟨.post payload,answer⟩ ∈ t := by
  obtain ⟨part,ran,within⟩ := sent.parts asked
  obtain ⟨unanswered,answer,_,_,rfl,same⟩ := attempt_answered ran
  cases same
  exact ⟨answer,rfl,within.subset (List.mem_append_right _ List.mem_cons_self)⟩

theorem post_asked {payload : Payload} {answer : Answer} {revokes : LineItem → Option Payload} {lineItems : List LineItem}
    {out : Except Interruption Bool} (sent : Sent above t) (ended : LinesEnded revokes lineItems above out)
    (listed : ⟨.post payload,answer⟩ ∈ t) : ∃ lineItem ∈ lineItems, revokes lineItem = some payload := by
  obtain ⟨x,asked,part,ran,own⟩ := sent.part listed
  obtain ⟨payload',loggingData,body,rfl,among⟩ := ended.named x asked
  obtain ⟨_,_,_,_,rfl,_⟩ := attempt_answered ran
  obtain ⟨_,same⟩ := posts_of_call own
  cases same
  exact among

end Sent

theorem TaskEnded.job {t : List Asked} {sent : List Http} {out : Except Interruption Bool}
    (ended : TaskEnded printed uuid orderId returnItems t out) (made : Sent t sent) :
    JobEnded printed uuid orderId returnItems 1 sent out := by
  cases ended with
  | orderUnread code =>
    obtain ⟨_,rfl,rest⟩ := order_sent made
    cases nothing_sent rest
    refine ⟨by simp,by simp [posted],(fun _ never => by cases never),?_⟩
    intro e same
    cases same
    exact .inl ⟨rfl,by simp [failed,Except.isOk,Except.toBool]⟩
  | @customerUnread order code =>
    obtain ⟨_,rfl,rest⟩ := order_sent made
    obtain ⟨_,rfl,none_left⟩ := customer_sent rest
    cases nothing_sent none_left
    refine ⟨by simp,by simp [posted],(fun _ never => by cases never),?_⟩
    intro e same
    cases same
    exact .inl ⟨rfl,by simp [failed,Except.isOk,Except.toBool]⟩
  | @unknown e order customer final unfit =>
    obtain ⟨_,rfl,rest⟩ := order_sent made
    obtain ⟨_,rfl,none_left⟩ := customer_sent rest
    cases nothing_sent none_left
    refine ⟨by simp,by simp [posted],(fun _ never => by cases never),?_⟩
    intro e same
    cases same
    exact .inr ⟨final,order,customer,⟨by simp,by simp⟩,unfit⟩
  | @lines order customer later out ended result =>
    obtain ⟨_,rfl,rest⟩ := order_sent made
    obtain ⟨posts,rfl,calls⟩ := customer_sent rest
    have read : Read orderId (⟨.getOrderById orderId,.ok order⟩::⟨.getCustomerById order.customerId,.ok customer⟩::posts)
        order customer := ⟨by simp,by simp⟩
    constructor
    · intro payload answer listed
      have own : (⟨.post payload,answer⟩ : Http) ∈ posts := by simpa using listed
      exact ⟨order,customer,read,post_asked calls ended own⟩
    · have counted := calls.count call_short
      have short := Nat.le_trans ended.short (return_line_items_length order returnItems)
      rw [List.countP_cons,List.countP_cons,if_neg (by simp [posted]),if_neg (by simp [posted])]
      omega
    · intro a same
      refine ⟨result a same,order,customer,read,?_⟩
      intro lineItem listed
      obtain ⟨payload,loggingData,json,own,asked⟩ := ended.done a same lineItem listed
      obtain ⟨answer,given,sent⟩ := call_answer calls asked
      cases answer with
      | requestException => cases given
      | json body =>
        cases given
        exact ⟨payload,json,own,List.mem_cons_of_mem _ (List.mem_cons_of_mem _ sent)⟩
    · intro e same
      rcases ended.stopped e same with ⟨again,payload,loggingData,asked⟩ | ⟨final,lineItem,listed,unfit⟩
      · obtain ⟨answer,given,sent⟩ := call_answer calls asked
        refine .inl ⟨again,List.countP_pos_iff.mpr ⟨⟨.post payload,answer⟩,by simp [sent],?_⟩⟩
        simp [failed,given]
      · refine .inr ⟨final,order,customer,read,fun fit => ?_⟩
        have passes := fit.lineItems lineItem listed
        rw [unfit] at passes
        cases passes

theorem JobEnded.settled {t : List Http} {out : Except Interruption Bool}
    (ended : JobEnded printed uuid orderId returnItems 1 t out) (left : Nat)
    (last : ∀ e, out = .error e → left = 0 ∨ retryable e = false) :
    JobEnded printed uuid orderId returnItems (left+1) t out := by
  refine ⟨ended.named,Nat.le_trans ended.short ?_,ended.done,?_⟩
  · exact Nat.mul_le_mul_right _ (Nat.le_add_left 1 left)
  · intro e same
    rcases ended.stopped e same with ⟨again,some_failed⟩ | unfit
    · rcases last e same with rfl | final
      · exact .inl ⟨again,some_failed⟩
      · rw [again] at final
        cases final
    · exact .inr unfit

theorem JobEnded.retried {first later : List Http} {e : Interruption} {executions : Nat} {out : Except Interruption Bool}
    (ended : JobEnded printed uuid orderId returnItems 1 first (.error e)) (again : retryable e = true)
    (rest : JobEnded printed uuid orderId returnItems executions later out) :
    JobEnded printed uuid orderId returnItems (executions+1) (first++later) out := by
  constructor
  · intro payload answer listed
    rcases List.mem_append.mp listed with here | there
    · obtain ⟨order,customer,read,among⟩ := ended.named payload answer here
      exact ⟨order,customer,read.mono (List.subset_append_left _ _),among⟩
    · obtain ⟨order,customer,read,among⟩ := rest.named payload answer there
      exact ⟨order,customer,read.mono (List.subset_append_right _ _),among⟩
  · have here := ended.short
    have there := rest.short
    rw [List.countP_append,Nat.add_mul]
    omega
  · intro a same
    obtain ⟨result,order,customer,read,all⟩ := rest.done a same
    refine ⟨result,order,customer,read.mono (List.subset_append_right _ _),?_⟩
    intro lineItem listed
    obtain ⟨payload,json,own,answered⟩ := all lineItem listed
    exact ⟨payload,json,own,List.mem_append_right _ answered⟩
  · intro e' same
    rcases ended.stopped e rfl with ⟨_,some_failed⟩ | ⟨final,_⟩
    · rcases rest.stopped e' same with ⟨again',others_failed⟩ | ⟨final,order,customer,read,unfit⟩
      · refine .inl ⟨again',?_⟩
        rw [List.countP_append]
        omega
      · exact .inr ⟨final,order,customer,read.mono (List.subset_append_right _ _),unfit⟩
    · rw [again] at final
      cases final

variable (printed uuid orderId returnItems) in
-- max_retries of both jobs is 5.
def revokeLineItemsJob : Prog HttpRequest HttpResponse Interruption Bool :=
  .attempts retryable (fun _ => (revokeLineItemsTask printed uuid orderId returnItems).lowered client) 5 0

theorem execution_ended {t : List Http} {out : Except Interruption Bool}
    (ran : ((revokeLineItemsTask printed uuid orderId returnItems).lowered client).Answered t out) :
    JobEnded printed uuid orderId returnItems 1 t out := by
  obtain ⟨above,made,ran⟩ := (Prog.lowered_answered client_silent).mp ran
  exact (task_ended ran).job made

theorem job_ended {left n : Nat} {t : List Http} {out : Except Interruption Bool}
    (ran : Prog.Attempted retryable (fun _ => (revokeLineItemsTask printed uuid orderId returnItems).lowered client) left n t out) :
    JobEnded printed uuid orderId returnItems (left+1) t out := by
  induction ran with
  | done ran => exact (execution_ended ran).settled _ fun e never => by cases never
  | failed ran final => exact (execution_ended ran).settled _ fun e same => by cases same; exact final
  | retry ran again _ ih => exact (execution_ended ran).retried again ih

theorem revocations_asked {t : List Http} {out : Except Interruption Bool}
    (ran : (revokeLineItemsJob printed uuid orderId returnItems).Answered t out) :
    (∀ payload answer, ⟨.post payload,answer⟩ ∈ t → ∃ order customer, Read orderId t order customer ∧
      ∃ lineItem ∈ returnLineItems order returnItems, payloadOf printed uuid order customer lineItem = some payload) ∧
    t.countP posted ≤ 24*returnItems.length ∧
    (∀ done, out = .ok done → done = true ∧ ∃ order customer, Read orderId t order customer ∧
      ∀ lineItem ∈ returnLineItems order returnItems, ∃ payload json,
        payloadOf printed uuid order customer lineItem = some payload ∧ ⟨.post payload,.json (some json)⟩ ∈ t) ∧
    ∀ e, out = .error e → (retryable e = true ∧ 6 ≤ t.countP failed) ∨
      retryable e = false ∧ ∃ order customer, Read orderId t order customer ∧ ¬Fit printed uuid returnItems order customer := by
  have ended := job_ended (Prog.attempts_answered ran)
  have short := ended.short
  exact ⟨ended.named,by omega,ended.done,ended.stopped⟩

def answeredAtLast : List Http :=
  [⟨.getOrderById "order",.error .unavailable⟩,⟨.getOrderById "order",.ok LineRevocation.soldOrder⟩,
    ⟨.getCustomerById "customer",.ok LineRevocation.learner⟩,
    ⟨.post ⟨"learner","course-v1:MichiganX+Demo+1T2026","verified",none,"edx"⟩,.requestException⟩,
    ⟨.post ⟨"learner","course-v1:MichiganX+Demo+1T2026","verified",none,"edx"⟩,.json (some "{}")⟩]

theorem course_revoked_at_last : ∃ order customer, Read "order" answeredAtLast order customer ∧
    ∀ lineItem ∈ returnLineItems order [⟨some "course"⟩], ∃ payload json,
      payloadOf toString LineRevocation.canonicalUuid order customer lineItem = some payload ∧
        ⟨.post payload,.json (some json)⟩ ∈ answeredAtLast := by
  have ran : (revokeLineItemsJob toString LineRevocation.canonicalUuid "order" [⟨some "course"⟩]).Answered answeredAtLast (.ok true) :=
    Prog.follow_answered (by decide +kernel)
  exact ((revocations_asked ran).2.2.1 true rfl).2

end Job

section Mobile

inductive MobileInterruption where
  | failed (error : Exn)
  | validationError
  | noOrderFound (paymentId : String)
  deriving DecidableEq

def mobileRetryable : MobileInterruption → Bool
  | .failed (.commercetoolsError _) => true
  | _ => false

abbrev MobileCall := Prog HttpRequest HttpResponse MobileInterruption

def mobileRaised (code : ErrorCode) : MobileInterruption := .failed (.commercetoolsError code)

abbrev orRaise (x : Except Exn α) : MobileCall α := Prog.orRaise .failed x

def getEdxItems (order : Order) : List LineItem := order.lineItems.filter fun _ => true

-- response.results[0] of CommercetoolsAPIClient.get_order_by_payment_id
def getOrderByPaymentId (paymentId : String) : MobileCall Order := do
  let results ← .expect mobileRaised (.perform (HttpRequest.getOrderByPaymentId paymentId))
  match results with
  | [] => .raise (.noOrderFound paymentId)
  | order::_ => return order

def mobileData (lmsUserName courseMode lob : FieldValue) (itemToUnenroll : LineItem) : LineRevocation.SerializerData :=
  ⟨lmsUserName,CatalogInfo.skuValue itemToUnenroll.sku,courseMode,none,if lob.truthy then lob else .text "edx"⟩

variable (printed : Rat → String) (uuid : FieldValue → Option String)

def mobileRequest (order : Order) (customer : Customer) : MobileCall Payload :=
  match getEdxItems order with
  | [] => .raise (.failed .indexError)
  | itemToUnenroll::_ => do
    let courseMode ← orRaise (getLineItemAttribute itemToUnenroll "mode")
    let _ ← orRaise (getEdxLmsUserId customer)
    let lmsUserName ← orRaise (getEdxLmsUserName customer)
    let lob ← orRaise (getLobFromVariantAttr itemToUnenroll)
    match orderRevokeLineRequestSerializer printed uuid (mobileData lmsUserName courseMode lob itemToUnenroll) with
    | none => .raise .validationError
    | some payload => return payload

-- Whether the client got an answer is not looked at.
def revokeLineMobileOrderTask (paymentId : String) : MobileCall Bool := do
  let order ← getOrderByPaymentId paymentId
  let customer ← .expect mobileRaised (.perform (HttpRequest.getCustomerById order.customerId))
  let payload ← mobileRequest printed uuid order customer
  let _ ← revokeLine payload
  return true

def revokeLineMobileOrderJob (paymentId : String) : MobileCall Bool :=
  .attempts mobileRetryable (fun _ => revokeLineMobileOrderTask printed uuid paymentId) 5 0

def mobilePayloadOf (order : Order) (customer : Customer) : Option Payload :=
  match mobileRequest printed uuid order customer with
  | .pure payload => some payload
  | _ => none

variable {printed : Rat → String} {uuid : FieldValue → Option String}

theorem mobile_retryable (e : Exn) : mobileRetryable (.failed e) = retryable (.failed e) := by
  cases e <;> rfl

theorem mobile_request_cases (order : Order) (customer : Customer) :
    (∃ payload, mobileRequest printed uuid order customer = .pure payload) ∨
      ∃ e, mobileRequest printed uuid order customer = .raise e ∧ mobileRetryable e = false := by
  unfold mobileRequest
  cases getEdxItems order with
  | nil => exact .inr ⟨_,rfl,rfl⟩
  | cons itemToUnenroll others =>
    cases mode : getLineItemAttribute itemToUnenroll "mode" with
    | error e =>
      cases iterate_failed mode
      exact .inr ⟨.failed .typeError,by simp [orRaise,mode],rfl⟩
    | ok courseMode =>
      cases known : getEdxLmsUserId customer with
      | error e => exact .inr ⟨.failed e,by simp [orRaise,mode],(mobile_retryable e).trans (user_id_failed known)⟩
      | ok lmsUserId =>
        cases named : getEdxLmsUserName customer with
        | error e => exact .inr ⟨.failed e,by simp [orRaise,mode],(mobile_retryable e).trans (user_name_failed named)⟩
        | ok lmsUserName =>
          cases business : getLobFromVariantAttr itemToUnenroll with
          | error e =>
            cases iterate_failed business
            exact .inr ⟨.failed .typeError,by simp [orRaise,mode,business],rfl⟩
          | ok lob =>
            simp only [orRaise,mode,business,Prog.or_raise_ok,Prog.monad_bind,Prog.pure_bind]
            split
            · exact .inr ⟨_,rfl,rfl⟩
            · exact .inl ⟨_,rfl⟩

structure MobileRead (printed : Rat → String) (uuid : FieldValue → Option String) (paymentId : String) (t : List Http)
    (payload : Payload) (order : Order) (customer : Customer) : Prop where
  orderRead : ∃ others, ⟨.getOrderByPaymentId paymentId,.ok (order::others)⟩ ∈ t
  customerRead : ⟨.getCustomerById order.customerId,.ok customer⟩ ∈ t
  prepared : mobilePayloadOf printed uuid order customer = some payload

theorem MobileRead.mono {paymentId : String} {t t' : List Http} {payload : Payload} {order : Order} {customer : Customer}
    (read : MobileRead printed uuid paymentId t payload order customer) (within : t ⊆ t') :
    MobileRead printed uuid paymentId t' payload order customer :=
  ⟨read.orderRead.imp fun _ listed => within listed,within read.customerRead,read.prepared⟩

inductive MobileEnded (printed : Rat → String) (uuid : FieldValue → Option String) (paymentId : String) (executions : Nat)
    (t : List Http) : Except MobileInterruption Bool → Prop where
  | called (posts : t.filter posted = postsOf payload unanswered answer) (few : unanswered ≤ 3)
      (last : answer = .requestException → unanswered = 3) (read : MobileRead printed uuid paymentId t payload order customer) :
      MobileEnded printed uuid paymentId executions t (.ok true)
  | stopped (silent : t.filter posted = []) (enough : mobileRetryable e = true → executions ≤ t.countP failed) :
      MobileEnded printed uuid paymentId executions t (.error e)

theorem posts_posted (payload : Payload) (unanswered : Nat) (answer : Answer) :
    (postsOf payload unanswered answer).filter posted = postsOf payload unanswered answer := by
  apply List.filter_eq_self.mpr
  intro y listed
  obtain ⟨given,rfl⟩ := posts_of_call listed
  rfl

theorem mobile_execution {paymentId : String} {t : List Http} {out : Except MobileInterruption Bool}
    (ran : (revokeLineMobileOrderTask printed uuid paymentId).Answered t out) : MobileEnded printed uuid paymentId 1 t out := by
  obtain ⟨found,later,rfl,ran⟩ := ran
  cases found with
  | error code =>
    obtain ⟨rfl,rfl⟩ := ran
    exact .stopped rfl fun _ => Nat.le_refl 1
  | ok results =>
    cases results with
    | nil =>
      obtain ⟨rfl,rfl⟩ := ran
      exact .stopped rfl fun never => by cases never
    | cons order others =>
      obtain ⟨read,later,rfl,ran⟩ := ran
      cases read with
      | error code =>
        obtain ⟨rfl,rfl⟩ := ran
        exact .stopped rfl fun _ => Nat.le_refl 1
      | ok customer =>
        simp only [Prog.pure_bind,Prog.monad_bind] at ran
        have prepares := @mobile_request_cases printed uuid order customer
        rcases prepares with ⟨payload,prepared⟩ | ⟨e,raised,final⟩
        · rw [prepared,Prog.pure_bind] at ran
          rcases Prog.answered_bind.mp ran with ⟨e,never,_⟩ | ⟨_,first,_,rfl,called,rfl,rfl⟩
          · obtain ⟨_,_,_,_,_,never⟩ := attempt_answered never
            cases never
          · obtain ⟨unanswered,answer,few,last,rfl,_⟩ := attempt_answered called
            rw [List.append_nil]
            have read : MobileRead printed uuid paymentId (⟨.getOrderByPaymentId paymentId,.ok (order::others)⟩::
                ⟨.getCustomerById order.customerId,.ok customer⟩::postsOf payload unanswered answer) payload order customer :=
              ⟨⟨others,by simp⟩,by simp,by simp only [mobilePayloadOf,prepared]⟩
            exact .called (posts_posted payload unanswered answer) few last read
        · rw [raised] at ran
          obtain ⟨rfl,rfl⟩ := ran
          refine .stopped rfl fun again => ?_
          rw [again] at final
          cases final

theorem MobileEnded.settled {paymentId : String} {t : List Http} {out : Except MobileInterruption Bool}
    (ended : MobileEnded printed uuid paymentId 1 t out) (left : Nat)
    (last : ∀ e, out = .error e → left = 0 ∨ mobileRetryable e = false) : MobileEnded printed uuid paymentId (left+1) t out := by
  cases ended with
  | called posts few decides read => exact .called posts few decides read
  | @stopped e silent enough =>
    refine .stopped silent fun again => ?_
    rcases last e rfl with rfl | final
    · exact enough again
    · rw [again] at final
      cases final

theorem MobileEnded.retried {paymentId : String} {first later : List Http} {e : MobileInterruption} {executions : Nat}
    {out : Except MobileInterruption Bool} (ended : MobileEnded printed uuid paymentId 1 first (.error e))
    (again : mobileRetryable e = true) (rest : MobileEnded printed uuid paymentId executions later out) :
    MobileEnded printed uuid paymentId (executions+1) (first++later) out := by
  cases ended with
  | stopped silent enough =>
    cases rest with
    | called posts few last read =>
      refine .called ?_ few last (read.mono (List.subset_append_right _ _))
      rw [List.filter_append,silent,posts,List.nil_append]
    | stopped silent' enough' =>
      refine .stopped (by rw [List.filter_append,silent,silent']; rfl) fun again' => ?_
      have here := enough again
      have there := enough' again'
      rw [List.countP_append]
      omega

theorem mobile_ended {paymentId : String} {left n : Nat} {t : List Http} {out : Except MobileInterruption Bool}
    (ran : Prog.Attempted mobileRetryable (fun _ => revokeLineMobileOrderTask printed uuid paymentId) left n t out) :
    MobileEnded printed uuid paymentId (left+1) t out := by
  induction ran with
  | done ran => exact (mobile_execution ran).settled _ fun e never => by cases never
  | failed ran final => exact (mobile_execution ran).settled _ fun e same => by cases same; exact final
  | retry ran again _ ih => exact (mobile_execution ran).retried again ih

-- The job calls the client at most once, and succeeds whatever becomes of the call.
theorem mobile_revocation_asked_once {paymentId : String} {t : List Http} {out : Except MobileInterruption Bool}
    (ran : (revokeLineMobileOrderJob printed uuid paymentId).Answered t out) :
    (out = .ok true ∧ ∃ payload unanswered answer order customer, t.filter posted = postsOf payload unanswered answer ∧
      unanswered ≤ 3 ∧ (answer = .requestException → unanswered = 3) ∧
      MobileRead printed uuid paymentId t payload order customer) ∨
    ∃ e, out = .error e ∧ t.filter posted = [] ∧ (mobileRetryable e = true → 6 ≤ t.countP failed) := by
  cases mobile_ended (Prog.attempts_answered ran) with
  | called posts few last read => exact .inl ⟨rfl,_,_,_,_,_,posts,few,last,read⟩
  | stopped silent enough => exact .inr ⟨_,rfl,silent,enough⟩

def unansweredPost : Http := ⟨.post ⟨"learner","course-v1:MichiganX+Demo+1T2026","verified",none,"edx"⟩,.requestException⟩

def neverAnswered : List Http :=
  [⟨.getOrderByPaymentId "payment",.ok [LineRevocation.soldOrder]⟩,⟨.getCustomerById "customer",.ok LineRevocation.learner⟩,
    unansweredPost,unansweredPost,unansweredPost,unansweredPost]

theorem mobile_course_still_open : ∃ payload unanswered answer order customer,
    neverAnswered.filter posted = postsOf payload unanswered answer ∧ unanswered ≤ 3 ∧
      (answer = .requestException → unanswered = 3) ∧
      MobileRead toString LineRevocation.canonicalUuid "payment" neverAnswered payload order customer := by
  have ran : (revokeLineMobileOrderJob toString LineRevocation.canonicalUuid "payment").Answered neverAnswered (.ok true) :=
    Prog.follow_answered (by decide +kernel)
  rcases mobile_revocation_asked_once ran with ⟨_,called⟩ | ⟨_,never,_⟩
  · exact called
  · cases never

end Mobile

end RevocationJobs
