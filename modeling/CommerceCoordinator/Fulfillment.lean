import CommerceCoordinator.CallTree
import CommerceCoordinator.Platform
import Mathlib.Tactic.Common

open Commercetools CallTree

-- fulfillment_completed_update_ct_line_item and the task runs it starts.
namespace Fulfillment

inductive FulfillmentState where
  | initial | pending | processing | success | failure
  deriving DecidableEq

namespace FulfillmentState

def all : List FulfillmentState := [.initial,.pending,.processing,.success,.failure]

def key : FulfillmentState → String
  | .initial => "Initial"
  | .pending => "2u-fulfillment-pending-state"
  | .processing => "2u-fulfillment-processing-state"
  | .success => "2u-fulfillment-success-state"
  | .failure => "2u-fulfillment-failure-state"

-- TwoUCustomStates
def transitions : FulfillmentState → List FulfillmentState
  | .initial => [.pending]
  | .pending => [.processing]
  | .processing => [.success,.failure]
  | .success => []
  | .failure => [.pending,.success]

theorem mem_all (k : FulfillmentState) : k ∈ all := by cases k <;> decide
theorem key_injective : Function.Injective key := by
  intro a b same
  cases a <;> cases b <;> first | rfl | exact absurd same (by decide)

end FulfillmentState

structure StateTable where
  id : FulfillmentState → String
  injective : Function.Injective id

def StateTable.byId (table : StateTable) (id : String) : Option FulfillmentState :=
  FulfillmentState.all.find? (table.id · = id)
def StateTable.byKey (key : String) : Option FulfillmentState := FulfillmentState.all.find? (·.key = key)

theorem StateTable.by_id (table : StateTable) (k : FulfillmentState) : table.byId (table.id k) = some k := by
  cases found : table.byId (table.id k) with
  | none => simpa using List.find?_eq_none.mp found k k.mem_all
  | some other =>
    have same := List.find?_some found
    exact congrArg some (table.injective (of_decide_eq_true same))
theorem StateTable.by_key (k : FulfillmentState) : StateTable.byKey k.key = some k := by
  cases k <;> decide

structure Message where
  entitlementUuid : String
  lineItemId : String
  isFulfilled : Bool

-- fulfillment_completed_update_ct_line_item
def Message.toState (m : Message) : FulfillmentState := if m.isFulfilled then .success else .failure

inductive OrderAction where
  | setLineItemCustomField (lineItemId value : String)
  | transitionLineItemState (lineItemId : String) (quantity : Nat) (fromState toState : String)
  deriving DecidableEq

inductive Request where
  | acquireTaskLock
  | releaseTaskLock
  | getOrderById
  | getStateById (stateId : String)
  | updateById (version : Nat) (actions : List OrderAction)

abbrev Response : Request → Type
  | .acquireTaskLock => Bool
  | .releaseTaskLock => Unit
  | .getOrderById => Except ErrorCode Order
  | .getStateById _ => Except ErrorCode String
  | .updateById _ _ => Except ErrorCode Order

-- A locked task submits itself again and ends; every exception is retried.
inductive Interruption where
  | requeued
  | failed (error : Exn)

abbrev Task := Prog Request Response Interruption
def raised (code : ErrorCode) : Interruption := .failed (.commercetoolsError code)
def acquireTaskLock : Task Bool := .perform Request.acquireTaskLock
def releaseTaskLock : Task Unit := .perform Request.releaseTaskLock
def getOrderById : Task Order := .expect raised (.perform Request.getOrderById)
def getStateById (stateId : String) : Task String := .expect raised (.perform (Request.getStateById stateId))
def updateById (version : Nat) (actions : List OrderAction) : Task Order :=
  .expect raised (.perform (Request.updateById version actions))

def getEdxLineItem (lineItems : List LineItem) (lineItemId : String) : Option LineItem :=
  lineItems.find? (·.id = lineItemId)

def getEdxLineItemState (lineItem : LineItem) : Option String := lineItem.state.head?.map (·.stateId)

def fulfillmentActions (entitlementUuid lineItemId : String) (itemQuantity : Nat)
    (fromStateKey newStateKey : String) : List OrderAction :=
  (if entitlementUuid ≠ "" then [.setLineItemCustomField lineItemId entitlementUuid] else []) ++
  (if fromStateKey ≠ newStateKey ∧ fromStateKey ≠ FulfillmentState.success.key then
    [.transitionLineItemState lineItemId itemQuantity fromStateKey newStateKey] else [])

def updateLineItemOnFulfillment (entitlementUuid : String) (orderVersion : Nat) (lineItemId : String)
    (itemQuantity : Nat) (fromStateId newStateKey : String) : Task Order := do
  let fromStateKey ← getStateById fromStateId
  let actions := fulfillmentActions entitlementUuid lineItemId itemQuantity fromStateKey newStateKey
  if actions ≠ [] then updateById orderVersion actions
  else getOrderById

def updateLineItem (m : Message) : Task Order := do
  let order ← getOrderById
  match getEdxLineItem order.lineItems m.lineItemId with
  | none => .raise (.failed .attributeError)
  | some lineItem =>
    match getEdxLineItemState lineItem with
    | none => .raise (.failed .indexError)
    | some fromStateId =>
      updateLineItemOnFulfillment m.entitlementUuid order.version m.lineItemId lineItem.quantity fromStateId
        m.toState.key

def fulfillmentCompletedUpdateCtLineItemTask (m : Message) : Task Order := do
  if ← acquireTaskLock then
    let updatedOrder ← (updateLineItem m).handle fun error => do
      releaseTaskLock
      .raise error
    releaseTaskLock
    return updatedOrder
  else .raise .requeued

def transition (states : List ItemState) (quantity : Nat) (fromId toId : String) : Option (List ItemState) :=
  match states.find? (·.stateId = fromId) with
  | none => none
  | some entry =>
    if entry.quantity < quantity then none
    else
      let left := states.filterMap fun e =>
        if e.stateId = fromId then
          if e.quantity = quantity then none else some ⟨e.quantity-quantity,e.stateId⟩
        else some e
      some (if left.any (·.stateId = toId) then
          left.map fun e => if e.stateId = toId then ⟨e.quantity+quantity,e.stateId⟩ else e
        else left++[⟨quantity,toId⟩])

def updateLineItemOf (lineItems : List LineItem) (lineItemId : String) (change : LineItem → Option LineItem) :
    Option (List LineItem) :=
  match lineItems.find? (·.id = lineItemId) with
  | none => none
  | some lineItem => (change lineItem).map fun changed =>
      lineItems.map fun other => if other.id = lineItemId then changed else other

def applyAction (table : StateTable) (lineItems : List LineItem) : OrderAction → Option (List LineItem)
  | .setLineItemCustomField lineItemId value =>
    updateLineItemOf lineItems lineItemId fun lineItem => some {lineItem with lmsEntitlementId := some value}
  | .transitionLineItemState lineItemId quantity fromState toState => do
    let fromState ← StateTable.byKey fromState
    let toState ← StateTable.byKey toState
    updateLineItemOf lineItems lineItemId fun lineItem => do
      let state ← transition lineItem.state quantity (table.id fromState) (table.id toState)
      some {lineItem with state}

def applyActions (table : StateTable) (actions : List OrderAction) (order : Order) : Option Order := do
  let lineItems ← actions.foldlM (applyAction table) order.lineItems
  some {order with lineItems, version := order.version+1}

structure Store where
  order : Order
  applied : List (String × String × String)

def transitionsOf : List OrderAction → List (String × String × String)
  | [] => []
  | .setLineItemCustomField _ _ :: rest => transitionsOf rest
  | .transitionLineItemState lineItemId _ fromState toState :: rest =>
    (lineItemId,fromState,toState) :: transitionsOf rest

-- `answers` decides whether the lock is free and whether a call gets through.
-- The lock expires with its cache entry, so it is no mutual exclusion.
def serve (table : StateTable) (answers : Bool) : (r : Request) → Store → Response r × Store
  | .acquireTaskLock,s => (answers,s)
  | .releaseTaskLock,s => ((),s)
  | .getOrderById,s => (if answers then .ok s.order else .error .unavailable,s)
  | .getStateById stateId,s =>
    (if answers then ((table.byId stateId).map fun k => Except.ok k.key).getD (.error .resourceNotFound)
      else .error .unavailable,s)
  | .updateById version actions,s =>
    if answers then
      match Versioned.compareAndSet version s.order (applyActions table actions) with
      | some order => (.ok order,⟨order,s.applied++transitionsOf actions⟩)
      | none => (.error (if s.order.version = version then .invalidOperation else .concurrentModification),s)
    else (.error .unavailable,s)

def commercetools (table : StateTable) : System Request Response Interruption Store Bool Empty where
  serve := serve table
  environment := fun change _ => change.elim
  restarts := fun _ => true

def Edge (applied : String × String × String) : Prop :=
  ∃ a b : FulfillmentState, applied.2.1 = a.key ∧ applied.2.2 = b.key ∧ b ∈ a.transitions

def InState (table : StateTable) (lineItem : LineItem) (k : FulfillmentState) : Prop :=
  lineItem.state = [⟨lineItem.quantity,table.id k⟩]

def StateOf (table : StateTable) (order : Order) (lineItemId : String) (k : FulfillmentState) : Prop :=
  ∃ lineItem, getEdxLineItem order.lineItems lineItemId = some lineItem ∧ InState table lineItem k

instance : Decidable (InState table lineItem k) := inferInstanceAs (Decidable (_ = _))

section Contract
variable {ι : Type} (table : StateTable) (messages : ι → Message)

def Moves (lineItemId : String) (k k' : FulfillmentState) : Prop :=
  k' = k ∨ ((k = .processing ∧ k' = .success) ∨ (k = .processing ∧ k' = .failure) ∨ (k = .failure ∧ k' = .success)) ∧
    ∃ i, (messages i).lineItemId = lineItemId ∧ (messages i).toState = k'

structure Advances (s s' : Store) : Prop where
  order : Versioned.Evolves s.order s'.order
  states : ∀ id k, StateOf table s.order id k → ∃ k', StateOf table s'.order id k' ∧ Moves messages id k k'
  applied : ∀ t ∈ s'.applied, t ∈ s.applied ∨ Edge t

def Active (k : FulfillmentState) : Prop := k = .processing ∨ k = .success ∨ k = .failure

def Known (m : Message) (order : Order) : Prop := ∃ k, StateOf table order m.lineItemId k ∧ Active k

def Settled (m : Message) (order : Order) : Prop :=
  ∃ k, StateOf table order m.lineItemId k ∧ (k = .success ∨ k = m.toState)

def Completes (m : Message) : Except Interruption Order → Store → Prop
  | .ok _,s => Settled table m s.order
  | .error _,s => Known table m s.order

end Contract

section Stability
variable {ι : Type} {table : StateTable} {messages : ι → Message}

theorem Message.to_state (m : Message) : m.toState = .success ∨ m.toState = .failure := by
  unfold Message.toState
  split <;> simp

theorem Message.to_state_success (m : Message) : m.toState = .success ↔ m.isFulfilled = true := by
  unfold Message.toState
  split <;> simp_all

theorem Moves.trans (ab : Moves messages lineItemId a b) (bc : Moves messages lineItemId b c) :
    Moves messages lineItemId a c := by
  rcases bc with rfl | ⟨edge,cause⟩
  · exact ab
  · rcases ab with rfl | ⟨earlier,_⟩
    · exact .inr ⟨edge,cause⟩
    · rcases earlier with ⟨rfl,rfl⟩ | ⟨rfl,rfl⟩ | ⟨rfl,rfl⟩ <;> rcases edge with ⟨h,rfl⟩ | ⟨h,rfl⟩ | ⟨h,rfl⟩ <;>
        first | exact absurd h (by decide) | exact .inr ⟨by simp,cause⟩

theorem Advances.refl (s : Store) : Advances table messages s s :=
  ⟨.refl _,fun _ k at_k => ⟨k,at_k,.inl rfl⟩,fun _ member => .inl member⟩

theorem Advances.trans (ab : Advances table messages a b) (bc : Advances table messages b c) :
    Advances table messages a c := by
  refine ⟨ab.order.trans bc.order,?_,?_⟩
  · intro id k at_a
    obtain ⟨k',at_b,first⟩ := ab.states id k at_a
    obtain ⟨k'',at_c,second⟩ := bc.states id k' at_b
    exact ⟨k'',at_c,first.trans second⟩
  · intro t member
    rcases bc.applied t member with earlier | edge
    · exact ab.applied t earlier
    · exact .inr edge

theorem Known.stable (known : Known table m s.order) (moved : Advances table messages s s') :
    Known table m s'.order := by
  obtain ⟨k,at_k,active⟩ := known
  obtain ⟨k',at_k',moves⟩ := moved.states _ _ at_k
  refine ⟨k',at_k',?_⟩
  rcases moves with rfl | ⟨⟨_,rfl⟩ | ⟨_,rfl⟩ | ⟨_,rfl⟩,_⟩
  · exact active
  · exact .inr (.inl rfl)
  · exact .inr (.inr rfl)
  · exact .inr (.inl rfl)

theorem Settled.stable (settled : Settled table m s.order) (moved : Advances table messages s s') :
    Settled table m s'.order := by
  obtain ⟨k,at_k,done⟩ := settled
  obtain ⟨k',at_k',moves⟩ := moved.states _ _ at_k
  refine ⟨k',at_k',?_⟩
  have target := m.to_state
  rcases moves with rfl | ⟨⟨rfl,rfl⟩ | ⟨rfl,rfl⟩ | ⟨rfl,rfl⟩,_⟩
  · exact done
  · exact .inl rfl
  · rcases done with h | h <;> rcases target with t | t <;> simp_all
  · exact .inl rfl

end Stability

section Update
variable {table : StateTable}

theorem state_unique (first : StateOf table order lineItemId a) (second : StateOf table order lineItemId b) : a = b := by
  obtain ⟨li,found,at_a⟩ := first
  obtain ⟨li',found',at_b⟩ := second
  cases Option.some.inj (found.symm.trans found')
  exact table.injective (by simpa using at_a.symm.trans at_b)

theorem updated_line_item (same : ∀ li li', change li = some li' → li'.id = li.id)
    (updated : updateLineItemOf lineItems lineItemId change = some lineItems') :
    ∃ li li', getEdxLineItem lineItems lineItemId = some li ∧ change li = some li' ∧
      getEdxLineItem lineItems' lineItemId = some li' ∧
      ∀ other ≠ lineItemId, getEdxLineItem lineItems' other = getEdxLineItem lineItems other := by
  unfold updateLineItemOf at updated
  cases found : lineItems.find? (·.id = lineItemId) with
  | none => rw [found] at updated; cases updated
  | some li =>
    rw [found] at updated
    obtain ⟨li',changed,rfl⟩ := Option.map_eq_some_iff.mp updated
    have named : li.id = lineItemId := by simpa using List.find?_some found
    have renamed : li'.id = lineItemId := (same li li' changed).trans named
    refine ⟨li,li',found,changed,?_,?_⟩
    · clear updated
      unfold getEdxLineItem
      induction lineItems with
      | nil => cases found
      | cons head rest ih =>
        by_cases here : head.id = lineItemId
        · simp [here,renamed]
        · simp only [List.find?_cons,here,decide_false] at found
          simpa [here] using ih found
    · intro other different
      unfold getEdxLineItem
      clear updated found
      induction lineItems with
      | nil => rfl
      | cons head rest ih =>
        by_cases here : head.id = lineItemId
        · simp [here,renamed,Ne.symm different,ih]
        · by_cases at_other : head.id = other
          · simp [at_other,different]
          · simp [here,at_other,ih]

theorem transition_all (quantity : Nat) (fromId toId : String) :
    transition [⟨quantity,fromId⟩] quantity fromId toId = some [⟨quantity,toId⟩] := by
  simp [transition]

theorem custom_field_applied
    (applied : applyAction table lineItems (.setLineItemCustomField lineItemId value) = some lineItems') :
    ∃ li li', getEdxLineItem lineItems lineItemId = some li ∧ getEdxLineItem lineItems' lineItemId = some li' ∧
      li'.quantity = li.quantity ∧ li'.state = li.state ∧
      ∀ other ≠ lineItemId, getEdxLineItem lineItems' other = getEdxLineItem lineItems other := by
  obtain ⟨li,li',found,changed,found',others⟩ := updated_line_item (by rintro li _ ⟨⟩; rfl) applied
  cases Option.some.inj changed
  exact ⟨li,_,found,found',rfl,rfl,others⟩

theorem transition_applied {a b : FulfillmentState} (present : getEdxLineItem lineItems lineItemId = some li)
    (at_a : InState table li a) (applied : applyAction table lineItems
      (.transitionLineItemState lineItemId li.quantity a.key b.key) = some lineItems') :
    ∃ li', getEdxLineItem lineItems' lineItemId = some li' ∧ InState table li' b ∧
      ∀ other ≠ lineItemId, getEdxLineItem lineItems' other = getEdxLineItem lineItems other := by
  simp only [applyAction,StateTable.by_key,Option.bind_some,Option.bind_eq_bind] at applied
  have same : ∀ x x' : LineItem, ((transition x.state li.quantity (table.id a) (table.id b)).bind fun state =>
      some {x with state}) = some x' → x'.id = x.id := by
    intro x x' changed
    obtain ⟨state,_,final⟩ := Option.bind_eq_some_iff.mp changed
    cases Option.some.inj final
    rfl
  obtain ⟨x,x',found,changed,found',others⟩ := updated_line_item same applied
  cases Option.some.inj (found.symm.trans present)
  rw [at_a,transition_all] at changed
  cases Option.some.inj changed
  exact ⟨_,found',rfl,others⟩

theorem update_effect {k target : FulfillmentState} (present : getEdxLineItem copy.lineItems lineItemId = some li)
    (at_k : InState table li k)
    (applied : applyActions table (fulfillmentActions entitlementUuid lineItemId li.quantity k.key target.key) copy =
      some next) :
    next.version = copy.version+1 ∧
    (∃ li', getEdxLineItem next.lineItems lineItemId = some li' ∧
      InState table li' (if k = target ∨ k = .success then k else target)) ∧
    ∀ other ≠ lineItemId, getEdxLineItem next.lineItems other = getEdxLineItem copy.lineItems other := by
  obtain ⟨lineItems,ran,final⟩ := Option.bind_eq_some_iff.mp applied
  cases Option.some.inj final
  refine ⟨rfl,?_⟩
  rw [fulfillmentActions,List.foldlM_append] at ran
  obtain ⟨middle,first,second⟩ := Option.bind_eq_some_iff.mp ran
  have custom : ∃ li', getEdxLineItem middle lineItemId = some li' ∧ li'.quantity = li.quantity ∧
      InState table li' k ∧ ∀ other ≠ lineItemId, getEdxLineItem middle other = getEdxLineItem copy.lineItems other := by
    split at first
    · simp only [List.foldlM_cons,List.foldlM_nil,Option.bind_eq_bind,Option.pure_def] at first
      obtain ⟨x,x',found,found',quantity,states,others⟩ := custom_field_applied (by simpa using first)
      cases Option.some.inj (found.symm.trans present)
      exact ⟨x',found',quantity,by rw [InState,states,quantity]; exact at_k,others⟩
    · cases Option.some.inj first
      exact ⟨li,present,rfl,at_k,fun _ _ => rfl⟩
  obtain ⟨li',present',quantity,at_k',others⟩ := custom
  split at second
  · rename_i moving
    have apart : ¬(k = target ∨ k = .success) := by
      intro cause
      rcases cause with rfl | rfl
      · exact moving.1 rfl
      · exact moving.2 rfl
    rw [if_neg apart]
    rw [← quantity] at second
    obtain ⟨li'',found,at_target,others'⟩ := transition_applied present' at_k' (by simpa using second)
    exact ⟨⟨li'',found,at_target⟩,fun other different => (others' other different).trans (others other different)⟩
  · rename_i staying
    have kept : k = target ∨ k = .success := by
      by_contra apart
      obtain ⟨h,h'⟩ := not_or.mp apart
      exact staying ⟨fun same => h (FulfillmentState.key_injective same),
        fun same => h' (FulfillmentState.key_injective same)⟩
    cases Option.some.inj second
    rw [if_pos kept]
    exact ⟨⟨li',present',at_k'⟩,others⟩

theorem applied_edges {k target : FulfillmentState} (edge : k ≠ target → k ≠ .success → target ∈ k.transitions) :
    ∀ t ∈ transitionsOf (fulfillmentActions entitlementUuid lineItemId quantity k.key target.key), Edge t := by
  intro t member
  have named : t = (lineItemId,k.key,target.key) ∧ k.key ≠ target.key ∧ k.key ≠ FulfillmentState.success.key := by
    unfold fulfillmentActions at member
    split at member <;> split at member <;> simp_all [transitionsOf]
  obtain ⟨rfl,h,h'⟩ := named
  exact ⟨k,target,rfl,rfl,edge (fun same => h (congrArg _ same)) (fun same => h' (congrArg _ same))⟩

end Update

section Runs
variable {ι : Type} {table : StateTable} {messages : ι → Message}

abbrev Keeps (table : StateTable) (messages : ι → Message) (post : Except Interruption α → Store → Prop)
    (p : Task α) (s : Store) : Prop :=
  Ensures (commercetools table) (fun _ _ => True) (Advances table messages) (Advances table messages) post p s

def Since (table : StateTable) (messages : ι → Message) (copy : Order) (s : Store) : Prop :=
  ∃ s₀, s₀.order = copy ∧ Advances table messages s₀ s

theorem Since.later (since : Since table messages copy s) (moved : Advances table messages s s') :
    Since table messages copy s' := by
  obtain ⟨s₀,same,before⟩ := since
  exact ⟨s₀,same,before.trans moved⟩

theorem Since.known (since : Since table messages copy s) (known : Known table m copy) : Known table m s.order := by
  obtain ⟨s₀,rfl,before⟩ := since
  exact known.stable before

theorem get_order_by_id {m : Message} (known : Known table m s.order) :
    Keeps table messages (fun
      | .ok copy,t => Since table messages copy t ∧ Known table m copy
      | .error _,t => Known table m t.order) getOrderById s := by
  intro t moved _ answers
  refine ⟨.refl _,?_⟩
  have here := known.stable moved
  cases answers with
  | false => exact fun u later => here.stable later
  | true => exact fun u later => ⟨⟨t,rfl,later⟩,here⟩

theorem get_state_by_id {m : Message} (k : FulfillmentState) (since : Since table messages copy s)
    (known : Known table m copy) :
    Keeps table messages (fun
      | .ok key,t => key = k.key ∧ Since table messages copy t
      | .error _,t => Known table m t.order) (getStateById (table.id k)) s := by
  intro t moved _ answers
  refine ⟨.refl _,?_⟩
  have here := since.later moved
  cases answers with
  | false => exact fun u later => (here.later later).known known
  | true =>
    have found : table.byId (table.id k) = some k := table.by_id k
    simp only [commercetools,serve,found,if_true,Option.map_some,Option.getD_some]
    exact fun u later => ⟨rfl,here.later later⟩

theorem Active.move {m : Message} {k : FulfillmentState} (active : Active k) :
    (k ≠ m.toState → k ≠ .success → m.toState ∈ k.transitions) := by
  intro apart unfinished
  rcases active with rfl | rfl | rfl <;> rcases m.to_state with h | h <;> rw [h] at apart ⊢ <;>
    first | decide | exact absurd rfl apart | exact absurd rfl unfinished

theorem Active.moves {i : ι} {k : FulfillmentState} (active : Active k) : Moves messages (messages i).lineItemId k
    (if k = (messages i).toState ∨ k = .success then k else (messages i).toState) := by
  split
  · exact .inl rfl
  · rename_i moving
    obtain ⟨apart,unfinished⟩ := not_or.mp moving
    refine .inr ⟨?_,i,rfl,rfl⟩
    rcases active with rfl | rfl | rfl
    · rcases (messages i).to_state with h | h <;> simp [h]
    · exact absurd rfl unfinished
    · rcases (messages i).to_state with h | h
      · simp [h]
      · exact absurd h.symm apart

theorem update_advances {i : ι} {k : FulfillmentState} (present : getEdxLineItem s.order.lineItems (messages i).lineItemId = some li)
    (at_k : InState table li k) (active : Active k)
    (applied : applyActions table (fulfillmentActions (messages i).entitlementUuid (messages i).lineItemId li.quantity
      k.key (messages i).toState.key) s.order = some next) :
    Advances table messages s ⟨next,s.applied++transitionsOf (fulfillmentActions (messages i).entitlementUuid
      (messages i).lineItemId li.quantity k.key (messages i).toState.key)⟩ ∧ Settled table (messages i) next := by
  obtain ⟨newer,⟨li',present',at_k'⟩,others⟩ := update_effect present at_k applied
  constructor
  · refine ⟨.inr (by rw [show Versioned.HasVersion.version next = next.version from rfl,newer]; exact Nat.lt_succ_self _),?_,?_⟩
    · intro id state at_state
      by_cases own : id = (messages i).lineItemId
      · subst id
        cases state_unique at_state ⟨li,present,at_k⟩
        exact ⟨_,⟨li',present',at_k'⟩,active.moves⟩
      · obtain ⟨x,found,at_x⟩ := at_state
        exact ⟨state,⟨x,(others id own).trans found,at_x⟩,.inl rfl⟩
    · intro t member
      rcases List.mem_append.mp member with earlier | added
      · exact .inl earlier
      · exact .inr (applied_edges active.move t added)
  · refine ⟨_,⟨li',present',at_k'⟩,?_⟩
    split
    · rename_i kept
      exact kept.symm
    · exact .inr rfl

theorem update_line_item_on_fulfillment {i : ι} {k : FulfillmentState} (since : Since table messages copy s)
    (present : getEdxLineItem copy.lineItems (messages i).lineItemId = some li) (at_k : InState table li k)
    (active : Active k) :
    Keeps table messages (Completes table (messages i)) (updateLineItemOnFulfillment (messages i).entitlementUuid
      copy.version (messages i).lineItemId li.quantity (table.id k) (messages i).toState.key) s := by
  have known : Known table (messages i) copy := ⟨k,⟨li,present,at_k⟩,active⟩
  apply Ensures.bind _ (get_state_by_id k since known) (fun _ _ failed => failed)
  intro key t answered
  obtain ⟨rfl,since⟩ := answered t (.refl _)
  clear answered
  dsimp only
  split
  · intro u moved _ answers
    have here := since.later moved
    cases answers with
    | false => exact ⟨.refl _,fun v later => (here.later later).known known⟩
    | true =>
      obtain ⟨s₀,rfl,before⟩ := here
      cases accepted : Versioned.compareAndSet s₀.order.version u.order (applyActions table
          (fulfillmentActions (messages i).entitlementUuid (messages i).lineItemId li.quantity k.key
            (messages i).toState.key)) with
      | none =>
        simp only [commercetools,serve,if_true,accepted]
        exact ⟨.refl _,fun v later => (known.stable before).stable later⟩
      | some next =>
        obtain ⟨same,changed⟩ := Versioned.compareAndSet_copy before.order accepted
        rw [← same] at present changed
        obtain ⟨advanced,settled⟩ := update_advances present at_k active changed
        simp only [commercetools,serve,if_true,accepted]
        exact ⟨advanced,fun v later => Settled.stable settled later⟩
  · rename_i idle
    have kept : k = (messages i).toState ∨ k = .success := by
      by_contra moving
      obtain ⟨apart,unfinished⟩ := not_or.mp moving
      apply idle
      simp [fulfillmentActions,FulfillmentState.key_injective.ne apart,FulfillmentState.key_injective.ne unfinished]
    have done : Settled table (messages i) copy := ⟨k,⟨li,present,at_k⟩,kept.symm⟩
    obtain ⟨s₀,rfl,before⟩ := since
    intro u moved _ answers
    refine ⟨.refl _,?_⟩
    have settled := done.stable (before.trans moved)
    cases answers with
    | false => exact fun v later => (known.stable (before.trans moved)).stable later
    | true => exact fun v later => settled.stable later

theorem update_line_item {i : ι} (known : Known table (messages i) s.order) :
    Keeps table messages (Completes table (messages i)) (updateLineItem (messages i)) s := by
  apply Ensures.bind _ (get_order_by_id known) (fun _ _ failed => failed)
  intro copy t fetched
  obtain ⟨since,k,⟨li,present,at_k⟩,active⟩ := fetched t (.refl _)
  have head : getEdxLineItemState li = some (table.id k) := by rw [getEdxLineItemState,at_k]; rfl
  simp only [present,head]
  exact update_line_item_on_fulfillment since present at_k active

theorem task_completes {i : ι} (known : Known table (messages i) s.order) :
    Keeps table messages (Completes table (messages i))
      (fulfillmentCompletedUpdateCtLineItemTask (messages i)) s := by
  intro t moved _ answers
  refine ⟨.refl _,?_⟩
  have here := known.stable moved
  cases answers with
  | false => exact fun u later => here.stable later
  | true =>
    refine Ensures.bind (Completes table (messages i)) ?_ (fun _ _ failed => failed) ?_
    · apply Ensures.handle _ (update_line_item here) (fun _ _ done => done)
      intro e u failed v moved _ answers
      exact ⟨.refl _,fun w later => failed w (moved.trans later)⟩
    · intro order u done v moved _ answers
      exact ⟨.refl _,fun w later => done w (moved.trans later)⟩

abbrev Cluster (ι : Type) := Config Request Response Interruption Order Store ι

def tasks (messages : ι → Message) (i : ι) : Task Order := fulfillmentCompletedUpdateCtLineItemTask (messages i)

def Complete (c : Cluster ι) : Prop := ∀ i, ∃ updatedOrder, c.threads i = .pure updatedOrder

def Valid (table : StateTable) (messages : ι → Message) (c : Cluster ι) : Prop :=
  ∀ i, Keeps table messages (Completes table (messages i)) (c.threads i) c.shared

theorem settled_complete {c : Cluster ι} (valid : Valid table messages c) (complete : Complete c) (i : ι) :
    Settled table (messages i) c.shared.order := by
  obtain ⟨order,done⟩ := complete i
  have post := valid i
  rw [done] at post
  exact post c.shared (.refl _)

-- The state an order that started in Processing is left in, item by item.
def Outcome (messages : ι → Message) (lineItemId : String) (k : FulfillmentState) : Prop :=
  match k with
  | .success => ∃ i, (messages i).lineItemId = lineItemId ∧ (messages i).isFulfilled = true
  | .failure => (∃ i, (messages i).lineItemId = lineItemId) ∧
      ¬ ∃ i, (messages i).lineItemId = lineItemId ∧ (messages i).isFulfilled = true
  | .processing => ¬ ∃ i, (messages i).lineItemId = lineItemId
  | _ => False

theorem processing_state {order : Order} (processing : ∀ lineItem ∈ order.lineItems, InState table lineItem .processing)
    (listed : lineItemId ∈ order.lineItems.map (·.id)) : StateOf table order lineItemId .processing := by
  obtain ⟨lineItem,member,rfl⟩ := List.mem_map.mp listed
  cases found : getEdxLineItem order.lineItems lineItem.id with
  | none => simpa using List.find?_eq_none.mp found lineItem member
  | some first => exact ⟨first,found,processing first (List.mem_of_find?_eq_some found)⟩

theorem outcome_reached {k : FulfillmentState} (moves : Moves messages lineItemId .processing k)
    (settled : ∀ i, (messages i).lineItemId = lineItemId → k = .success ∨ k = (messages i).toState) :
    Outcome messages lineItemId k := by
  rcases moves with rfl | ⟨edge,i,same,target⟩
  · intro message
    obtain ⟨i,same⟩ := message
    rcases settled i same with h | h
    · cases h
    · rcases (messages i).to_state with t | t <;> rw [t] at h <;> cases h
  · rcases edge with ⟨_,rfl⟩ | ⟨_,rfl⟩ | ⟨h,_⟩
    · exact ⟨i,same,(messages i).to_state_success.mp target⟩
    · refine ⟨⟨i,same⟩,?_⟩
      intro success
      obtain ⟨j,sameJ,fulfilled⟩ := success
      rcases settled j sameJ with h | h
      · cases h
      · rw [(messages j).to_state_success.mpr fulfilled] at h
        cases h
    · cases h

variable [DecidableEq ι]

abbrev Runs (table : StateTable) (messages : ι → Message) : Cluster ι → List (Event ι Bool Empty) → Cluster ι → Prop :=
  RunsWhen ((commercetools table).step (tasks messages)) fun _ _ => True

theorem runs_permitted {c c' : Cluster ι} (path : Runs table messages c events c') :
    RunsWhen ((commercetools table).step (tasks messages)) (Permitted fun _ _ _ => True) c events c' := by
  apply path.weaken
  intro s event _
  cases event with
  | act i choice => exact fun _ _ _ => trivial
  | restart i => trivial
  | world change => trivial

theorem runs_valid {c c' : Cluster ι} (valid : Valid table messages c) (path : Runs table messages c events c') :
    Valid table messages c' ∧ Advances table messages c.shared c'.shared := by
  have again : ∀ i (e : Interruption) (s : Store), (commercetools table).restarts e = true →
      Completes table (messages i) (.error e) s → Keeps table messages (Completes table (messages i)) (tasks messages i) s :=
    fun i _ _ _ known => task_completes known
  exact uniform_interference Advances.refl (fun _ _ _ => Advances.trans) (fun change => change.elim) again valid
    (runs_permitted path)

theorem success_stays {c c' : Cluster ι} (valid : Valid table messages c) (path : Runs table messages c events c')
    (success : StateOf table c.shared.order lineItemId .success) :
    StateOf table c'.shared.order lineItemId .success := by
  obtain ⟨k,at_k,moves⟩ := (runs_valid valid path).2.states _ _ success
  rcases moves with rfl | ⟨⟨h,_⟩ | ⟨h,_⟩ | ⟨h,_⟩,_⟩
  · exact at_k
  all_goals cases h

theorem fulfillment_confluent (table : StateTable) (messages : ι → Message) (order : Order)
    (processing : ∀ lineItem ∈ order.lineItems, InState table lineItem .processing)
    (known : ∀ i, (messages i).lineItemId ∈ order.lineItems.map (·.id))
    (path : Runs table messages ⟨⟨order,[]⟩,tasks messages⟩ events c) :
    (∀ t ∈ c.shared.applied, Edge t) ∧
    (∀ later final lineItemId, Runs table messages c later final →
      StateOf table c.shared.order lineItemId .success → StateOf table final.shared.order lineItemId .success) ∧
    (Complete c → ∀ lineItem ∈ order.lineItems,
      ∃ k, StateOf table c.shared.order lineItem.id k ∧ Outcome messages lineItem.id k) := by
  have start : Valid table messages ⟨⟨order,[]⟩,tasks messages⟩ :=
    fun i => task_completes ⟨.processing,processing_state processing (known i),.inl rfl⟩
  obtain ⟨valid,advanced⟩ := runs_valid start path
  refine ⟨?_,?_,?_⟩
  · intro t member
    exact (advanced.applied t member).resolve_left (List.not_mem_nil)
  · intro later final lineItemId continued success
    exact success_stays valid continued success
  · intro complete lineItem member
    obtain ⟨k,at_k,moves⟩ := advanced.states _ _ (processing_state processing (List.mem_map_of_mem member))
    refine ⟨k,at_k,outcome_reached moves ?_⟩
    intro i same
    obtain ⟨other,at_other,done⟩ := settled_complete valid complete i
    rw [same] at at_other
    rwa [state_unique at_k at_other]

end Runs

def keyTable : StateTable := ⟨FulfillmentState.key,FulfillmentState.key_injective⟩
def twoItems : Order :=
  ⟨"order",1,"customer",false,[⟨"first",1,⟨100,"USD",some 2⟩,[⟨1,keyTable.id .processing⟩],none⟩,
    ⟨"second",1,⟨100,"USD",some 2⟩,[⟨1,keyTable.id .processing⟩],none⟩],⟨200,"USD",some 2⟩,[],[]⟩
def failureThenSuccess (fulfilled : Bool) : Message := ⟨"","first",fulfilled⟩
def raced : List (Event Bool Bool Empty) :=
  [.act false true,.act true true,.act false true,.act true true,.act false true,.act true true,
    .act false true,.act true true,.act true true,.restart true,.act true true,.act true true,
    .act true true,.act true true,.act true true,.act false true]

theorem raced_success : ∃ c, Runs keyTable failureThenSuccess ⟨⟨twoItems,[]⟩,tasks failureThenSuccess⟩ raced c ∧
    Complete c ∧ (∀ t ∈ c.shared.applied, Edge t) ∧ ∃ k, StateOf keyTable c.shared.order "first" k ∧ Outcome failureThenSuccess "first" k := by
  have ran : (guardedRun ((commercetools keyTable).step (tasks failureThenSuccess)) (fun _ _ => true)
    ⟨⟨twoItems,[]⟩,tasks failureThenSuccess⟩ raced).isSome = true := rfl
  have path := RunsWhen.nil.guarded (fun _ _ _ => trivial) (Option.some_get ran).symm
  have done := fulfillment_confluent keyTable failureThenSuccess twoItems (by decide +kernel) (by decide) path
  refine ⟨_,path,?_,done.1,done.2.2 ?_ _ (List.mem_cons_self ..)⟩
  · intro i
    cases i <;> exact ⟨_,rfl⟩
  · intro i
    cases i <;> exact ⟨_,rfl⟩

end Fulfillment
