import CommerceCoordinator.Memcache
import CommerceCoordinator.RefundPipeline
import CommerceCoordinator.TaskLock

open CallTree TimedCache TaskLock

-- OrderFulfillView: a delivery of an OrderPlaced message takes the lock of its
-- order and hands the message to the delayed receiver of a signal.
namespace PlacedMessage

def SOURCE_SYSTEM : String := RefundPipeline.commercetoolsOrderManagementSystem

-- The data of OrderLineItemMessageInputSerializer: without a resource id there is
-- no `order_id` in it.
structure MessageDetails where
  messageId : String
  orderId : Option String
  toState : Dict String
  deriving DecidableEq

structure Kwargs where
  orderId : String
  lineItemStateId : String
  sourceSystem : String
  messageId : String
  isOrderFulfillmentForwardingEnabled : Bool
  deriving DecidableEq

inductive Error where
  | keyError (key : String)
  | operationalError (message : String)
  deriving DecidableEq

-- The broker, which answers with the id of the task it has queued.
inductive Broker where
  | delay (kwargs : Kwargs)

abbrev Queued : Broker → Type
  | .delay _ => Except String String

abbrev Call (α : Type) := Task Queued Error α

-- The receiver, in commercetools/sub_messages/signals_delayed.py.
def fulfillOrderPlacedMessageSignal (kwargs : Kwargs) : Call String :=
  .expect .operationalError (.perform (Request.work (.delay kwargs)))

-- Every receiver is called, and its exception is part of what is returned.
def sendRobust (receivers : List (Kwargs → Call String)) (kwargs : Kwargs) : Call (List (Except Error String)) :=
  receivers.mapM fun receiver => (receiver kwargs).attempt

def fulfillOrderPlacedReceivers : List (Kwargs → Call String) := [fulfillOrderPlacedMessageSignal]

def item (key : String) : Option String → Call String
  | some value => .pure value
  | none => .raise (.keyError key)

section View
variable (fasthash : String → String)

def taskKeyOf (orderId : String) : String := Memcache.safeKey fasthash orderId "OrderFulfillView" "1"

def post (forwarding : Bool) (m : MessageDetails) : Call Nat := do
  let orderId ← item "order_id" m.orderId
  let lineItemStateId ← item "id" (m.toState.get "id")
  if !(← acquireTaskLock (taskKeyOf fasthash orderId) 1800) then return 200
  else
    let _ ← sendRobust fulfillOrderPlacedReceivers ⟨orderId,lineItemStateId,SOURCE_SYSTEM,m.messageId,forwarding⟩
    return 200

end View

-- `wait` is the time since the delivery before, in milliseconds.
structure Delivery where
  wait : Nat
  forwarding : Bool
  dispatchFails : Bool
  deriving DecidableEq

structure State where
  cache : Cache String String Nat
  enqueued : List Kwargs

def serve (dispatchFails : Bool) : (r : Request Broker) → State → Response Queued r × State
  | .cacheAdd key value timeout,s =>
    let (stored,cache) := s.cache.add key value (s.cache.now+1000*timeout)
    (stored,{s with cache})
  | .cacheDelete key,s => ((),{s with cache := s.cache.delete key})
  | .work (.delay kwargs),s =>
    if dispatchFails then (.error "broker",s) else (.ok "task",{s with enqueued := s.enqueued++[kwargs]})

section Deliveries
variable (fasthash : String → String) (m : MessageDetails)

def arrive (s : State) (d : Delivery) : State := {s with cache := ⟨s.cache.now+d.wait,s.cache.entries⟩}

def handleDelivery (s : State) (d : Delivery) : Except Error Nat × State :=
  (post fasthash d.forwarding m).exec (serve d.dispatchFails) (arrive s d)

def handleAll (s : State) (deliveries : List Delivery) : State :=
  deliveries.foldl (fun s d => (handleDelivery fasthash m s d).2) s

-- While no earlier delivery has enqueued the task, one whose dispatch does not fail
-- does, with the message as its arguments.
def Unswallowed (start : State) (deliveries : List Delivery) : Prop :=
  ∀ before d later, deliveries = before++d::later → (handleAll fasthash m start before).enqueued = start.enqueued →
    d.dispatchFails = false → ∃ kwargs, kwargs.messageId = m.messageId ∧ some kwargs.orderId = m.orderId ∧
      (handleAll fasthash m start (before++[d])).enqueued = start.enqueued++[kwargs]

def arrivals (deliveries : List Delivery) : Nat := (deliveries.map (·.wait)).sum

def lockKey : Option String := m.orderId.map (taskKeyOf fasthash)

def complete : Bool := m.orderId.isSome && (m.toState.get "id").isSome

def WithinLock (start : State) : List Delivery → Prop
  | [] => True
  | d::later => arrivals later < 1000*1800 ∧ ∀ key e, lockKey fasthash m = some key →
      (arrive start d).cache.lookup key = some e → start.cache.now+arrivals (d::later) < e.deadline

def FirstDispatches (start : State) : List Delivery → Prop
  | [] => True
  | d::_ => complete m = true ∧ d.dispatchFails = false ∧
      ∀ key, lockKey fasthash m = some key → (arrive start d).cache.lookup key = none

end Deliveries

section Exec
variable {fasthash : String → String} {m : MessageDetails} {s start : State} {d : Delivery} {deliveries : List Delivery}

theorem complete_some (whole : complete m = true) :
    ∃ orderId lineItemStateId, m.orderId = some orderId ∧ m.toState.get "id" = some lineItemStateId := by
  obtain ⟨order,state⟩ := (Bool.and_eq_true _ _).mp whole
  obtain ⟨orderId,order⟩ := Option.isSome_iff_exists.mp order
  obtain ⟨lineItemStateId,state⟩ := Option.isSome_iff_exists.mp state
  exact ⟨orderId,lineItemStateId,order,state⟩

theorem incomplete_exec (partly : complete m = false) : (handleDelivery fasthash m s d).2 = arrive s d := by
  unfold handleDelivery post
  cases order : m.orderId with
  | none => rfl
  | some orderId =>
    cases state : m.toState.get "id" with
    | none => rfl
    | some stateId => simp [complete,order,state] at partly

theorem delivery_cases (order : m.orderId = some orderId) (state : m.toState.get "id" = some lineItemStateId) :
    (∃ e, (arrive s d).cache.lookup (taskKeyOf fasthash orderId) = some e ∧ (handleDelivery fasthash m s d).2 = arrive s d) ∨
    (arrive s d).cache.lookup (taskKeyOf fasthash orderId) = none ∧ (handleDelivery fasthash m s d).2 =
      ⟨(arrive s d).cache.set (taskKeyOf fasthash orderId) "true" ((arrive s d).cache.now+1000*1800),
        if d.dispatchFails then s.enqueued
        else s.enqueued++[⟨orderId,lineItemStateId,SOURCE_SYSTEM,m.messageId,d.forwarding⟩]⟩ := by
  rcases (arrive s d).cache.add_cases (taskKeyOf fasthash orderId) "true" ((arrive s d).cache.now+1000*1800) with
    ⟨e,found,refused⟩ | ⟨free,taken⟩
  · refine .inl ⟨e,found,?_⟩
    have served : serve d.dispatchFails (.cacheAdd (taskKeyOf fasthash orderId) "true" 1800) (arrive s d) =
        (false,arrive s d) := by simp [serve,refused]
    simp only [handleDelivery,post,order,state,item,acquireTaskLock,Prog.perform,Prog.monad_bind,Prog.pure_bind,
      Prog.call_bind,Prog.exec_call,served]
    rfl
  · refine .inr ⟨free,?_⟩
    have served : serve d.dispatchFails (.cacheAdd (taskKeyOf fasthash orderId) "true" 1800) (arrive s d) =
        (true,{arrive s d with
          cache := (arrive s d).cache.set (taskKeyOf fasthash orderId) "true" ((arrive s d).cache.now+1000*1800)}) := by
      simp [serve,taken]
    simp only [handleDelivery,post,order,state,item,acquireTaskLock,Prog.perform,Prog.monad_bind,Prog.pure_bind,
      Prog.call_bind,Prog.exec_call,served]
    cases d.dispatchFails <;> rfl

def Blocked (fasthash : String → String) (m : MessageDetails) (s : State) (last : Nat) : Prop :=
  complete m = false ∨ ∃ key e, lockKey fasthash m = some key ∧ s.cache.entries key = some e ∧ last < e.deadline

theorem blocked_delivery (blocked : Blocked fasthash m s (s.cache.now+d.wait)) : (handleDelivery fasthash m s d).2 = arrive s d := by
  rcases blocked with partly | ⟨key,e,named,found,live⟩
  · exact incomplete_exec partly
  · cases whole : complete m with
    | false => exact incomplete_exec whole
    | true =>
      obtain ⟨orderId,stateId,order,state⟩ := complete_some whole
      have same : taskKeyOf fasthash orderId = key := by simpa [lockKey,order] using named
      have held : (arrive s d).cache.lookup key = some e := Cache.lookup_some.mpr ⟨found,live⟩
      rcases delivery_cases (s := s) (d := d) order state with ⟨_,_,ignored⟩ | ⟨free,_⟩
      · exact ignored
      · rw [same,held] at free
        cases free

theorem blocked_all (blocked : Blocked fasthash m s (s.cache.now+arrivals deliveries)) :
    (handleAll fasthash m s deliveries).enqueued = s.enqueued := by
  induction deliveries generalizing s with
  | nil => rfl
  | cons d later ih =>
    have total : s.cache.now+arrivals (d::later) = s.cache.now+d.wait+arrivals later := by
      simp only [arrivals,List.map_cons,List.sum_cons]
      omega
    rw [total] at blocked
    have first : (handleDelivery fasthash m s d).2 = arrive s d := by
      apply blocked_delivery
      rcases blocked with partly | ⟨key,e,named,found,live⟩
      · exact .inl partly
      · exact .inr ⟨key,e,named,found,by omega⟩
    have rest : handleAll fasthash m s (d::later) = handleAll fasthash m (arrive s d) later := by
      rw [← first]
      rfl
    rw [rest]
    exact ih blocked

theorem first_blocks (order : m.orderId = some orderId) (state : m.toState.get "id" = some lineItemStateId)
    (within : arrivals later < 1000*1800) (free : (arrive s d).cache.lookup (taskKeyOf fasthash orderId) = none) :
    (handleAll fasthash m s (d::later)).enqueued = (handleDelivery fasthash m s d).2.enqueued := by
  change (handleAll fasthash m (handleDelivery fasthash m s d).2 later).enqueued = _
  apply blocked_all
  rcases delivery_cases (s := s) (d := d) order state with ⟨e,found,_⟩ | ⟨_,taken⟩
  · rw [free] at found
    cases found
  · refine .inr ⟨taskKeyOf fasthash orderId,⟨"true",(arrive s d).cache.now+1000*1800⟩,by simp [lockKey,order],?_,?_⟩
    · rw [taken]
      simp [Cache.set]
    · rw [taken]
      change (arrive s d).cache.now+arrivals later < (arrive s d).cache.now+1000*1800
      omega

end Exec

section Sequences
variable {fasthash : String → String} {m : MessageDetails} {start : State} {deliveries : List Delivery}

inductive Idle (fasthash : String → String) (m : MessageDetails) (start : State) (d : Delivery) : Prop where
  | incomplete : complete m = false → Idle fasthash m start d
  | held : lockKey fasthash m = some key → (arrive start d).cache.lookup key = some e → Idle fasthash m start d
  | failed : d.dispatchFails = true → Idle fasthash m start d

theorem none_enqueued (within : WithinLock fasthash m start (d::later)) (idle : Idle fasthash m start d) :
    (handleAll fasthash m start (d::later)).enqueued = start.enqueued := by
  cases idle with
  | incomplete partly => exact blocked_all (.inl partly)
  | held named found => exact blocked_all (.inr ⟨_,_,named,(Cache.lookup_some.mp found).1,within.2 _ _ named found⟩)
  | failed fails =>
    cases whole : complete m with
    | false => exact blocked_all (.inl whole)
    | true =>
      obtain ⟨orderId,stateId,order,state⟩ := complete_some whole
      have named : lockKey fasthash m = some (taskKeyOf fasthash orderId) := by simp [lockKey,order]
      rcases delivery_cases (s := start) (d := d) order state with ⟨e,found,_⟩ | ⟨free,taken⟩
      · exact blocked_all (.inr ⟨_,_,named,(Cache.lookup_some.mp found).1,within.2 _ _ named found⟩)
      · rw [first_blocks order state within.1 free,taken]
        simp [fails]

theorem idle_or_dispatches (fasthash : String → String) (m : MessageDetails) (start : State) (d : Delivery)
    (later : List Delivery) : Idle fasthash m start d ∨ FirstDispatches fasthash m start (d::later) := by
  by_cases whole : complete m = true
  · by_cases fails : d.dispatchFails = true
    · exact .inl (.failed fails)
    · by_cases held : ∃ key e, lockKey fasthash m = some key ∧ (arrive start d).cache.lookup key = some e
      · obtain ⟨key,e,named,found⟩ := held
        exact .inl (.held named found)
      · refine .inr ⟨whole,by simpa using fails,fun key named => ?_⟩
        by_contra found
        obtain ⟨e,found⟩ := Option.ne_none_iff_exists'.mp found
        exact held ⟨key,e,named,found⟩
  · exact .inl (.incomplete (by simpa using whole))

theorem first_enqueues (first : FirstDispatches fasthash m start (d::later)) (within : arrivals before < 1000*1800) :
    ∃ kwargs, kwargs.messageId = m.messageId ∧ some kwargs.orderId = m.orderId ∧
      (handleAll fasthash m start (d::before)).enqueued = start.enqueued++[kwargs] := by
  obtain ⟨whole,succeeds,free⟩ := first
  obtain ⟨orderId,stateId,order,state⟩ := complete_some whole
  have free := free (taskKeyOf fasthash orderId) (by simp [lockKey,order])
  rcases delivery_cases (s := start) (d := d) order state with ⟨e,found,_⟩ | ⟨_,taken⟩
  · rw [free] at found
    cases found
  · refine ⟨⟨orderId,stateId,SOURCE_SYSTEM,m.messageId,d.forwarding⟩,rfl,order.symm,?_⟩
    rw [first_blocks order state within free,taken]
    simp [succeeds]

theorem WithinLock.first (within : WithinLock fasthash m start (d::later)) (split : later = before++rest) :
    WithinLock fasthash m start (d::before) := by
  have fewer : arrivals before ≤ arrivals later := by simp [split,arrivals]
  refine ⟨Nat.lt_of_le_of_lt fewer within.1,fun key e named found => ?_⟩
  have live := within.2 key e named found
  simp only [arrivals,List.map_cons,List.sum_cons] at live fewer ⊢
  omega

-- The message is swallowed unless the dispatch of its first delivery gets through,
-- or none could have enqueued it.
theorem unswallowed_iff (fasthash : String → String) (m : MessageDetails) (start : State) (deliveries : List Delivery)
    (within : WithinLock fasthash m start deliveries) : Unswallowed fasthash m start deliveries ↔
      (∀ d ∈ deliveries, d.dispatchFails = true) ∨ FirstDispatches fasthash m start deliveries := by
  cases deliveries with
  | nil => simp [Unswallowed]
  | cons d later =>
    constructor
    · intro unswallowed
      rcases idle_or_dispatches fasthash m start d later with idle | dispatches
      · refine .inl fun x member => ?_
        by_contra succeeds
        obtain ⟨before,rest,split⟩ := List.append_of_mem member
        have none_ : ∀ first after, before++[x] = first++after → (handleAll fasthash m start first).enqueued = start.enqueued := by
          intro first after parts
          cases first with
          | nil => rfl
          | cons d' first =>
            obtain ⟨rfl,tail⟩ : d' = d ∧ later = first++(after++rest) := by
              have whole : d::later = (d'::first)++(after++rest) := by
                rw [split,← List.append_assoc,← parts]
                simp
              exact ⟨(List.cons_eq_cons.mp whole).1.symm,(List.cons_eq_cons.mp whole).2⟩
            exact none_enqueued (within.first tail) idle
        obtain ⟨kwargs,_,_,enqueued⟩ := unswallowed before x rest split (none_ before [x] rfl) (by simpa using succeeds)
        rw [none_ (before++[x]) [] (by simp)] at enqueued
        simp at enqueued
      · exact .inr dispatches
    · intro either before x rest split none_ succeeds
      rcases either with fails | dispatches
      · have failing := fails x (by rw [split]; simp)
        rw [succeeds] at failing
        cases failing
      · cases before with
        | nil =>
          cases split
          exact first_enqueues dispatches (by simp [arrivals])
        | cons d' before =>
          obtain ⟨same,tail⟩ := List.cons_eq_cons.mp split
          subst same
          obtain ⟨kwargs,_,_,enqueued⟩ := first_enqueues dispatches (within.first tail).1
          rw [none_] at enqueued
          simp at enqueued

section Examples

def placed : MessageDetails := ⟨"message",some "order",[("typeId","state"),("id","initial")]⟩
def unlocked : State := ⟨⟨0,fun _ => none⟩,[]⟩

theorem second_delivery_swallowed : ∃ m start deliveries, WithinLock id m start deliveries ∧ ¬Unswallowed id m start deliveries := by
  refine ⟨placed,unlocked,[⟨0,false,true⟩,⟨60000,false,false⟩],⟨by decide,fun key e _ found => ?_⟩,?_⟩
  · simp [arrive,unlocked,Cache.lookup] at found
  · intro unswallowed
    obtain ⟨kwargs,_,_,enqueued⟩ := unswallowed [⟨0,false,true⟩] ⟨60000,false,false⟩ [] rfl (by decide +kernel) rfl
    have swallowed : (handleAll id placed unlocked ([⟨0,false,true⟩]++[⟨60000,false,false⟩])).enqueued = [] := by
      decide +kernel
    rw [swallowed] at enqueued
    simp [unlocked] at enqueued

theorem redelivery_unswallowed : Unswallowed id placed unlocked [⟨0,false,false⟩,⟨60000,false,true⟩] := by
  have within : WithinLock id placed unlocked [⟨0,false,false⟩,⟨60000,false,true⟩] := by
    refine ⟨by decide,fun key e _ found => ?_⟩
    simp [arrive,unlocked,Cache.lookup] at found
  refine (unswallowed_iff id placed unlocked _ within).mpr (.inr ⟨by decide,rfl,fun key _ => ?_⟩)
  simp [arrive,unlocked,Cache.lookup]

end Examples

end Sequences
end PlacedMessage
