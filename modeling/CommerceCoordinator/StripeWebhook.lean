import CommerceCoordinator.RefundPipeline
import CommerceCoordinator.SingleInvocation

open CallTree TimedCache SingleInvocation

-- The webhook of Stripe, which is sent one event after the other.
namespace StripeWebhook

-- The metadata of a payment intent or a charge; a missing entry is an
-- AttributeError where it is read as an attribute.
structure Metadata where
  orderNumber : Option String
  sourceSystem : Option String
  edxLmsUserId : Option String
  paymentNumber : Option String

structure PaymentIntent where
  id : String
  amount : Int
  currency : String
  metadata : Metadata

structure Charge where
  id : String
  paymentIntent : Option String
  metadata : Metadata
  refunds : List PaymentTransactions.Refund

-- A verified event. The `request` of an event may be null, and so may its
-- idempotency key, as for a refund made in the dashboard.
inductive Event where
  | paymentSuccess (paymentIntent : PaymentIntent)
  | paymentFailed (paymentIntent : PaymentIntent)
  | paymentRefunded (request : Option (Option String)) (charge : Charge)
  | unhandled

inductive Signal where
  | paymentProcessed (edxLmsUserId orderUuid paymentNumber paymentState referenceNumber : String)
    (amountInCents : Int) (currency : String)
  | paymentRefunded (paymentIntentId : Option String) (stripeRefund : PaymentTransactions.Refund)
    (orderNumber : String)

inductive Error where
  | attributeError
  | valueError
  | unhandledStripeEventAPIError

-- An exception with the view and the identifier that are to be unmarked.
structure Raised where
  error : Error
  metaView : String
  metaId : String

structure Reply where
  status : Nat
  metaShouldMarkNotRunning : Bool

abbrev Post := View Signal Raised Reply

def sourceSystemIdentifier : String := "edx/commerce_coordinator?v=1"

def isCommercetoolsStripeRefund (sourceSystem : Option String) : Bool := sourceSystem = some "commercetools"

-- max by `created`, the first of equals
def latestRefund : List PaymentTransactions.Refund → Option PaymentTransactions.Refund
  | [] => none
  | first::rest => some (rest.foldl (fun latest r => if latest.created < r.created then r else latest) first)

def getAttr (metaView metaId : String) : Option String → View Signal Raised String
  | some value => return value
  | none => .raise ⟨.attributeError,metaView,metaId⟩

def paymentProcessed (paymentState : String) (paymentIntent : PaymentIntent) : Post := do
  if paymentIntent.metadata.sourceSystem ≠ some sourceSystemIdentifier then return ⟨200,true⟩
  else
    let edxLmsUserId ← getAttr "None" "None" paymentIntent.metadata.edxLmsUserId
    let orderUuid ← getAttr "None" "None" paymentIntent.metadata.orderNumber
    let paymentNumber ← getAttr "None" "None" paymentIntent.metadata.paymentNumber
    sendRobust (.paymentProcessed edxLmsUserId orderUuid paymentNumber paymentState paymentIntent.id
      paymentIntent.amount paymentIntent.currency)
    return ⟨200,true⟩

-- f"{view}_{identifier}" with an identifier that may be None
def identifierOf (idempotencyKey : Option String) : String := idempotencyKey.getD "None"

def sendRefund (idempotencyKey : Option String) (charge : Charge) : View Signal Raised Unit := do
  let orderNumber ← getAttr "WebhookView" (identifierOf idempotencyKey) charge.metadata.orderNumber
  if !RefundPipeline.isLegacyOrder orderNumber && isCommercetoolsStripeRefund charge.metadata.sourceSystem then
    match latestRefund charge.refunds with
    | none => .raise ⟨.valueError,"WebhookView",identifierOf idempotencyKey⟩
    | some latestRefund => sendRobust (.paymentRefunded charge.paymentIntent latestRefund orderNumber)

def webhookPost (fasthash : String → String) : Event → Post
  | .paymentSuccess paymentIntent => paymentProcessed "completed" paymentIntent
  | .paymentFailed paymentIntent => paymentProcessed "failed" paymentIntent
  | .paymentRefunded none _ => .raise ⟨.attributeError,"None","None"⟩
  | .paymentRefunded (some idempotencyKey) charge => do
    if ← isRunning fasthash "WebhookView" (identifierOf idempotencyKey) then return ⟨200,false⟩
    else
      markRunning fasthash "WebhookView" (identifierOf idempotencyKey) true
      sendRefund idempotencyKey charge
      return ⟨200,true⟩
  | .unhandled => .raise ⟨.unhandledStripeEventAPIError,"None","None"⟩

-- What is no APIException is raised again after the mark is gone.
def handleException (fasthash : String → String) (exc : Raised) : Post := do
  markRunning fasthash exc.metaView exc.metaId false
  match exc.error with
  | .unhandledStripeEventAPIError => return ⟨422,true⟩
  | _ => .raise exc

def webhookView (fasthash : String → String) (event : Event) : Post :=
  (webhookPost fasthash event).handle (handleException fasthash)

-- `wait` is the time since the event before, in milliseconds.
structure Delivery where
  wait : Nat
  event : Event

abbrev Marks := Cache String Bool Nat

section Deliveries
variable (fasthash : String → String)

def arrive (c : Marks) (d : Delivery) : Marks := ⟨c.now+d.wait,c.entries⟩

def handleDelivery (c : Marks) (d : Delivery) : Except Raised Reply × Marks :=
  (webhookView fasthash d.event).exec serveCache (arrive c d)

def handleAll (c : Marks) (deliveries : List Delivery) : Marks :=
  deliveries.foldl (fun c d => (handleDelivery fasthash c d).2) c

def checked : Event → Option (String × String)
  | .paymentRefunded (some idempotencyKey) charge =>
    some (charge.id,viewCacheKey fasthash "WebhookView" (identifierOf idempotencyKey))
  | _ => none

def skipped : Except Raised Reply → Bool
  | .ok reply => !reply.metaShouldMarkNotRunning
  | .error _ => false

end Deliveries

section Checks
variable {fasthash : String → String} {c : Marks} {d : Delivery} {charge key : String}

theorem checked_some (is_checked : checked fasthash event = some (charge,key)) :
    ∃ idempotencyKey object, event = .paymentRefunded (some idempotencyKey) object ∧ object.id = charge ∧
      viewCacheKey fasthash "WebhookView" (identifierOf idempotencyKey) = key := by
  unfold checked at is_checked
  split at is_checked
  · rename_i idempotencyKey object
    cases is_checked
    exact ⟨idempotencyKey,object,rfl,rfl,rfl⟩
  · cases is_checked

theorem handled_unskipped (exc : Raised) (c : Marks) :
    skipped ((handleException fasthash exc).exec serveCache c).1 = false := by
  unfold handleException
  rw [Prog.monad_bind,Prog.exec_bind]
  cases (markRunning fasthash exc.metaView exc.metaId false : View Signal Raised Unit).exec serveCache c with
  | mk out c' =>
    cases out with
    | error e => rfl
    | ok marked => cases exc.error <;> rfl

theorem passed_unskipped (fasthash : String → String) (mark send : View Signal Raised Unit) (c : Marks) :
    skipped (((mark.bind fun _ => send.bind fun _ => .pure ⟨200,true⟩).handle
      (handleException fasthash)).exec serveCache c).1 = false := by
  rw [Prog.exec_handle,Prog.exec_bind]
  cases mark.exec serveCache c with
  | mk marked c' =>
    cases marked with
    | error e => exact handled_unskipped e c'
    | ok _ =>
      dsimp only
      rw [Prog.exec_bind]
      cases send.exec serveCache c' with
      | mk sent c'' =>
        cases sent with
        | error e => exact handled_unskipped e c''
        | ok _ => rfl

theorem is_running_exec (view identifier : String) (c : Marks) :
    (isRunning fasthash view identifier : View Signal Raised Bool).exec serveCache c =
      (.ok (c.lookup (viewCacheKey fasthash view identifier)).isSome,c) := by
  simp only [isRunning,getCachedResponse,Prog.perform,Prog.monad_bind,Prog.call_bind,Prog.pure_bind,Prog.exec_call,
    Prog.monad_pure,Prog.exec_pure,serveCache,Cache.get]
  cases c.lookup (viewCacheKey fasthash view identifier) <;> rfl

theorem checked_exec {idempotencyKey : Option String} {object : Charge}
    (same : d.event = .paymentRefunded (some idempotencyKey) object) :
    handleDelivery fasthash c d =
      if ((arrive c d).lookup (viewCacheKey fasthash "WebhookView" (identifierOf idempotencyKey))).isSome then
        (.ok ⟨200,false⟩,arrive c d)
      else (((markRunning fasthash "WebhookView" (identifierOf idempotencyKey) true).bind fun _ =>
        (sendRefund idempotencyKey object).bind fun _ => .pure ⟨200,true⟩).handle
          (handleException fasthash)).exec serveCache (arrive c d) := by
  unfold handleDelivery webhookView
  simp only [same,webhookPost,Prog.monad_bind]
  rw [Prog.exec_handle,Prog.exec_bind,is_running_exec]
  cases ((arrive c d).lookup (viewCacheKey fasthash "WebhookView" (identifierOf idempotencyKey))).isSome with
  | true => rfl
  | false =>
    simp only [Bool.false_eq_true,if_false]
    rw [Prog.exec_handle]
    rfl

theorem skipped_iff (is_checked : checked fasthash d.event = some (charge,key)) :
    skipped (handleDelivery fasthash c d).1 = true ↔ (arrive c d).lookup key ≠ none := by
  obtain ⟨idempotencyKey,object,same,rfl,rfl⟩ := checked_some is_checked
  rw [checked_exec same]
  cases marked : (arrive c d).lookup (viewCacheKey fasthash "WebhookView" (identifierOf idempotencyKey)) with
  | some e => simp [skipped]
  | none => simp [passed_unskipped]

end Checks

section Marking
variable {fasthash : String → String} {c c' : Marks} {d : Delivery} {key : String}

theorem unmark_exec (view identifier : String) (c : Marks) :
    (markRunning fasthash view identifier false : View Signal Raised Unit).exec serveCache c =
      (.ok (),c.delete (viewCacheKey fasthash view identifier)) := by
  simp [markRunning,getCachedResponse,deleteAllTiers,Prog.perform,serveCache]

theorem mark_exec (view identifier : String) (c : Marks)
    (unmarked : c.lookup (viewCacheKey fasthash view identifier) = none) :
    (markRunning fasthash view identifier true : View Signal Raised Unit).exec serveCache c =
      (.ok (),c.set (viewCacheKey fasthash view identifier) true (c.now+1000*NOTIFICATION_CACHE_TTL_SECS)) := by
  simp [markRunning,getCachedResponse,setAllTiers,Prog.perform,serveCache,Cache.get,unmarked]

-- What is done besides a mark only takes marks away.
def Left (key : String) (c c' : Marks) : Prop := c'.entries key = c.entries key ∨ c'.entries key = none

theorem handle_left (exc : Raised) (c : Marks) : Left key c ((handleException fasthash exc).exec serveCache c).2 := by
  have deleted : Left key c (c.delete (viewCacheKey fasthash exc.metaView exc.metaId)) := by
    by_cases same : key = viewCacheKey fasthash exc.metaView exc.metaId
    · exact .inr (by simp [Cache.delete,same])
    · exact .inl (by simp [Cache.delete,same])
  unfold handleException
  rw [Prog.monad_bind,Prog.exec_bind,unmark_exec]
  cases exc.error <;> exact deleted

theorem handler_left (fasthash : String → String) (key : String) (p : Post) (quiet : (p.exec serveCache c).2 = c) :
    Left key c ((p.handle (handleException fasthash)).exec serveCache c).2 := by
  rw [Prog.exec_handle]
  cases ran : p.exec serveCache c with
  | mk out c' =>
    rw [ran] at quiet
    cases quiet
    cases out with
    | error e => exact handle_left e _
    | ok reply => exact .inl rfl

theorem send_refund_exec (idempotencyKey : Option String) (object : Charge) (c : Marks) :
    ((sendRefund idempotencyKey object).exec serveCache c).2 = c := by
  unfold sendRefund
  cases object.metadata.orderNumber with
  | none => rfl
  | some orderNumber =>
    simp only [getAttr,Prog.monad_bind,Prog.monad_pure,Prog.pure_bind]
    split
    · cases latestRefund object.refunds <;> rfl
    · rfl

theorem payment_processed_exec (paymentState : String) (paymentIntent : PaymentIntent) (c : Marks) :
    ((paymentProcessed paymentState paymentIntent).exec serveCache c).2 = c := by
  unfold paymentProcessed
  split
  · rfl
  · cases paymentIntent.metadata.edxLmsUserId with
    | none => rfl
    | some edxLmsUserId =>
      cases paymentIntent.metadata.orderNumber with
      | none => rfl
      | some orderUuid => cases paymentIntent.metadata.paymentNumber <;> rfl

theorem sent_exec (idempotencyKey : Option String) (object : Charge) (c : Marks) :
    ((((sendRefund idempotencyKey object).bind fun _ => .pure ⟨200,true⟩) : Post).exec serveCache c).2 = c := by
  have quiet := send_refund_exec idempotencyKey object c
  rw [Prog.exec_bind]
  cases ran : (sendRefund idempotencyKey object).exec serveCache c with
  | mk out c' =>
    rw [ran] at quiet
    cases out <;> exact quiet

-- An event that is let through marks its key, and may lose the mark at once.
theorem passed_entries (key : String) {idempotencyKey : Option String} {object : Charge}
    (same : d.event = .paymentRefunded (some idempotencyKey) object)
    (unmarked : (arrive c d).lookup (viewCacheKey fasthash "WebhookView" (identifierOf idempotencyKey)) = none) :
    Left key ((arrive c d).set (viewCacheKey fasthash "WebhookView" (identifierOf idempotencyKey)) true
      ((arrive c d).now+1000*NOTIFICATION_CACHE_TTL_SECS)) (handleDelivery fasthash c d).2 := by
  have rest := handler_left fasthash key _ (sent_exec idempotencyKey object
    ((arrive c d).set (viewCacheKey fasthash "WebhookView" (identifierOf idempotencyKey)) true
      ((arrive c d).now+1000*NOTIFICATION_CACHE_TTL_SECS)))
  rw [checked_exec same,if_neg (by simp [unmarked]),Prog.exec_handle,Prog.exec_bind,mark_exec _ _ _ unmarked]
  rw [Prog.exec_handle] at rest
  exact rest

theorem unchecked_left (unchecked : checked fasthash d.event = none) : Left key c (handleDelivery fasthash c d).2 := by
  unfold handleDelivery webhookView
  cases event : d.event with
  | paymentSuccess paymentIntent => exact handler_left (c := arrive c d) fasthash key _ (payment_processed_exec _ _ _)
  | paymentFailed paymentIntent => exact handler_left (c := arrive c d) fasthash key _ (payment_processed_exec _ _ _)
  | unhandled => exact handle_left (c := arrive c d) _
  | paymentRefunded request object =>
    rw [event] at unchecked
    cases request with
    | none => exact handle_left (c := arrive c d) _
    | some idempotencyKey => cases unchecked

theorem delivery_entries (fasthash : String → String) (key : String) (c : Marks) (d : Delivery) :
    Left key c (handleDelivery fasthash c d).2 ∨
    ∃ charge, checked fasthash d.event = some (charge,key) ∧ skipped (handleDelivery fasthash c d).1 = false ∧
      (handleDelivery fasthash c d).2.entries key =
        some ⟨true,(arrive c d).now+1000*NOTIFICATION_CACHE_TTL_SECS⟩ := by
  cases is_checked : checked fasthash d.event with
  | none => exact .inl (unchecked_left is_checked)
  | some found =>
    obtain ⟨charge,own⟩ := found
    obtain ⟨idempotencyKey,object,event,rfl,rfl⟩ := checked_some is_checked
    by_cases marked : (arrive c d).lookup (viewCacheKey fasthash "WebhookView" (identifierOf idempotencyKey)) = none
    · have passed : skipped (handleDelivery fasthash c d).1 = false := by
        rw [← Bool.not_eq_true,skipped_iff is_checked]
        exact not_not_intro marked
      have entries := passed_entries key event marked
      by_cases same : key = viewCacheKey fasthash "WebhookView" (identifierOf idempotencyKey)
      · rcases entries with kept | gone
        · refine .inr ⟨_,by rw [same],passed,?_⟩
          rw [kept,same]
          simp [Cache.set]
        · exact .inl (.inr gone)
      · refine .inl ?_
        simpa [Left,Cache.set,arrive,same] using entries
    · rw [checked_exec event,if_pos (Option.isSome_iff_ne_none.mpr marked)]
      exact .inl (.inl rfl)

-- An unexpired mark that was not there from the start is that of an event that was
-- let through, and lasts until ten minutes after it.
def MarksTraced (fasthash : String → String) (start : Marks) (before : List Delivery) : Prop :=
  ∀ key e, (handleAll fasthash start before).entries key = some e →
    start.entries key = some e ∨
    ∃ earlier m rest charge, before = earlier++m::rest ∧ checked fasthash m.event = some (charge,key) ∧
      skipped (handleDelivery fasthash (handleAll fasthash start earlier) m).1 = false ∧
      e.deadline = (arrive (handleAll fasthash start earlier) m).now+1000*NOTIFICATION_CACHE_TTL_SECS

theorem marks_traced (fasthash : String → String) (start : Marks) (before : List Delivery) :
    MarksTraced fasthash start before := by
  induction before using List.reverseRecOn with
  | nil => exact fun key e marked => .inl marked
  | append_singleton before d ih =>
    intro key e marked
    have last : handleAll fasthash start (before++[d]) =
        (handleDelivery fasthash (handleAll fasthash start before) d).2 := by simp [handleAll]
    rw [last] at marked
    rcases delivery_entries fasthash key (handleAll fasthash start before) d with (kept | gone) |
      ⟨charge,is_checked,passed,set⟩
    · rcases ih key e (kept ▸ marked) with started | ⟨earlier,m,rest,charge,rfl,found⟩
      · exact .inl started
      · exact .inr ⟨earlier,m,rest++[d],charge,by simp,found⟩
    · rw [gone] at marked
      cases marked
    · rw [set] at marked
      cases marked
      exact .inr ⟨before,d,[],charge,rfl,is_checked,passed,rfl⟩

end Marking

section Sequences
variable {fasthash : String → String} {start : Marks} {deliveries : List Delivery}

def NoneDropped (fasthash : String → String) (start : Marks) (deliveries : List Delivery) : Prop :=
  ∀ before d later charge key, deliveries = before++d::later → checked fasthash d.event = some (charge,key) →
    skipped (handleDelivery fasthash (handleAll fasthash start before) d).1 = true →
    ∃ earlier m rest key', before = earlier++m::rest ∧ checked fasthash m.event = some (charge,key') ∧
      skipped (handleDelivery fasthash (handleAll fasthash start earlier) m).1 = false

def about (fasthash : String → String) (charge : String) (m : Delivery) : Bool :=
  (checked fasthash m.event).any (·.1 = charge)

def FirstUnmarked (fasthash : String → String) (start : Marks) (deliveries : List Delivery) : Prop :=
  ∀ before d later charge key, deliveries = before++d::later → checked fasthash d.event = some (charge,key) →
    (∀ m ∈ before, about fasthash charge m = false) → (arrive (handleAll fasthash start before) d).lookup key = none

theorem about_some (is_about : about fasthash charge m = true) : ∃ key, checked fasthash m.event = some (charge,key) := by
  obtain ⟨found,is_checked,same⟩ := (Option.any_eq_true _ _).mp is_about
  obtain ⟨other,key⟩ := found
  cases of_decide_eq_true same
  exact ⟨key,is_checked⟩

theorem none_dropped_iff (fasthash : String → String) (start : Marks) (deliveries : List Delivery) :
    (NoneDropped fasthash start deliveries ↔ FirstUnmarked fasthash start deliveries) ∧
      ∀ before, before <+: deliveries → MarksTraced fasthash start before := by
  refine ⟨?_,fun before _ => marks_traced fasthash start before⟩
  constructor
  · intro kept before d later charge key split is_checked first
    by_contra marked
    obtain ⟨earlier,m,rest,key',rfl,about_same,_⟩ :=
      kept before d later charge key split is_checked ((skipped_iff is_checked).mpr marked)
    have apart := first m (by simp)
    rw [about,about_same] at apart
    simp at apart
  · intro unmarked before d later charge key split is_checked dropped
    cases found : before.find? (about fasthash charge) with
    | none =>
      have first := List.find?_eq_none.mp found
      have free := unmarked before d later charge key split is_checked fun m member => by simpa using first m member
      exact absurd free ((skipped_iff is_checked).mp dropped)
    | some m =>
      obtain ⟨is_about,earlier,rest,rfl,none_before⟩ := List.find?_eq_some_iff_append.mp found
      obtain ⟨key',about_same⟩ := about_some is_about
      refine ⟨earlier,m,rest,key',rfl,about_same,?_⟩
      have free := unmarked earlier m (rest++d::later) charge key' (by rw [split]; simp) about_same
        fun x member => by simpa using none_before x member
      rw [← Bool.not_eq_true,skipped_iff about_same]
      exact not_not_intro free

-- Two refunds made in the dashboard, of different charges, a minute apart.
def dashboardRefund (chargeId : String) : Delivery :=
  ⟨60000,.paymentRefunded (some none) ⟨chargeId,some "pi_1",⟨some "2U-2025000001",some "commercetools",none,none⟩,
    [⟨"re_1",4900,"usd",1750000000,"succeeded",some "pi_1",none⟩]⟩⟩

theorem dashboard_refund_dropped : ¬NoneDropped digest nothingMarked [dashboardRefund "ch_1",dashboardRefund "ch_2"] := by
  intro kept
  have ignored : skipped (handleDelivery digest (handleAll digest nothingMarked [dashboardRefund "ch_1"])
      (dashboardRefund "ch_2")).1 = true := by
    decide +kernel
  obtain ⟨earlier,m,rest,key,split,is_checked,_⟩ := kept [dashboardRefund "ch_1"] (dashboardRefund "ch_2") [] "ch_2"
    (viewCacheKey digest "WebhookView" "None") rfl rfl ignored
  have only : m ∈ [dashboardRefund "ch_1"] := by simp [split]
  rw [List.mem_singleton.mp only] at is_checked
  have same : "ch_1" = "ch_2" := congrArg Prod.fst (Option.some.inj is_checked)
  exact absurd same (by decide)

end Sequences
end StripeWebhook
