import CommerceCoordinator.Platform
import Mathlib.Data.List.Nodup

open Commercetools

-- A Python dict with string keys: insertion order, one entry for each key.
abbrev Dict (α : Type) := List (String × α)

namespace Dict

def get (d : Dict α) (key : String) : Option α := d.lookup key
def set (d : Dict α) (key : String) (value : α) : Dict α :=
  if d.any (·.1 == key) then d.map fun entry => if entry.1 = key then (key,value) else entry
  else d ++ [(key,value)]
def keys (d : Dict α) : List String := d.map (·.1)
def values (d : Dict α) : List α := d.map (·.2)

theorem set_entry {d : Dict String} (member : entry ∈ d.set key value) : entry ∈ d ∨ entry = (key,value) := by
  unfold set at member
  split at member
  · obtain ⟨old,present,equal⟩ := List.mem_map.mp member
    split at equal
    · exact .inr equal.symm
    · exact .inl (equal ▸ present)
  · simpa using member

theorem replaced_keys (d : Dict α) (key : String) (value : α) :
    keys (d.map fun entry => if entry.1 = key then (key,value) else entry) = d.keys := by
  simp only [keys,List.map_map]
  refine List.map_congr_left fun entry _ => ?_
  by_cases equal : entry.1 = key <;> simp [equal]

theorem set_keys {d : Dict String} {key value : String} : key' ∈ (d.set key value).keys ↔ key' ∈ d.keys ∨ key' = key := by
  unfold set
  split
  · rename_i present
    obtain ⟨old,member,same⟩ := List.any_eq_true.mp present
    have listed : key ∈ d.keys := by
      rw [← beq_iff_eq.mp same]
      exact List.mem_map_of_mem member
    rw [replaced_keys]
    exact ⟨.inl,fun either => either.elim (fun kept => kept) fun equal => equal ▸ listed⟩
  · simp [keys]

theorem get_entry {d : Dict α} {key : String} {value : α} (found : d.get key = some value) : (key,value) ∈ d := by
  obtain ⟨earlier,later,rfl,_⟩ := List.lookup_eq_some_iff.mp found
  simp

theorem get_cons (entry : String × α) (d : Dict α) (key : String) :
    get (entry::d) key = if key = entry.1 then some entry.2 else d.get key := by
  unfold get
  rw [List.lookup_cons]
  by_cases here : key = entry.1
  · simp [here]
  · simp [here,beq_false_of_ne here]

theorem replaced_get (d : Dict α) (key key' : String) (value : α) :
    get (d.map fun entry => if entry.1 = key then (key,value) else entry) key' =
      if key' = key then (d.get key').map fun _ => value else d.get key' := by
  induction d with
  | nil => simp [get]
  | cons entry rest ih =>
    rw [List.map_cons,get_cons,get_cons,ih]
    by_cases replaced : entry.1 = key
    · by_cases sought : key' = key <;> simp [replaced,sought]
    · by_cases sought : key' = entry.1 <;> simp [sought,replaced]

theorem get_none {d : Dict α} : d.get key = none ↔ key ∉ d.keys := by
  induction d with
  | nil => simp [get,keys]
  | cons entry rest ih =>
    rw [get_cons]
    by_cases here : key = entry.1
    · simp [keys,here]
    · simpa [keys,here] using ih

theorem set_get (d : Dict α) (key key' : String) (value : α) :
    (d.set key value).get key' = if key' = key then some value else d.get key' := by
  unfold set
  split
  · rename_i present
    obtain ⟨entry,member,same⟩ := List.any_eq_true.mp present
    rw [replaced_get]
    by_cases sought : key' = key
    · have listed : key ∈ d.keys := List.mem_map.mpr ⟨entry,member,beq_iff_eq.mp same⟩
      cases found : d.get key with
      | none => exact absurd listed (get_none.mp found)
      | some old => simp [sought,found]
    · simp [sought]
  · rename_i absent
    have unknown : d.get key = none := by
      refine get_none.mpr fun listed => absent ?_
      obtain ⟨entry,member,same⟩ := List.mem_map.mp listed
      exact List.any_eq_true.mpr ⟨entry,member,beq_iff_eq.mpr same⟩
    have appended : get (d++[(key,value)]) key' = (d.get key').or (get [(key,value)] key') := List.lookup_append
    rw [appended,get_cons]
    by_cases sought : key' = key
    · simp [sought,unknown]
    · simp [sought,get]

theorem set_distinct {d : Dict α} (distinct : d.keys.Nodup) (key : String) (value : α) : (d.set key value).keys.Nodup := by
  unfold set
  split
  · rw [replaced_keys]
    exact distinct
  · rename_i absent
    have fresh : key ∉ d.keys := by
      intro listed
      obtain ⟨entry,member,same⟩ := List.mem_map.mp listed
      exact absent (List.any_eq_true.mpr ⟨entry,member,beq_iff_eq.mpr same⟩)
    simpa [keys,List.nodup_append] using ⟨distinct,fun a b member same => fresh (same ▸ List.mem_map_of_mem member)⟩

theorem entry_get {d : Dict α} {key : String} {value : α} (distinct : d.keys.Nodup) (member : (key,value) ∈ d) :
    d.get key = some value := by
  cases found : d.get key with
  | none => exact absurd (List.mem_map_of_mem member) (get_none.mp found)
  | some other => exact congrArg (some ·.2) (List.inj_on_of_nodup_map distinct (get_entry found) member rfl)

end Dict

namespace Rollout

def getOrderReturnInfoReturnItems (order : Order) : List ReturnItem := order.returnInfo.flatten

-- An empty list given by the caller is falsy, and the order's own is read again.
def isCommercetoolsLineItemAlreadyRefunded (order : Order) (orderLineItemId : String)
    (returnInfoReturnItems : List ReturnItem) : Option ReturnItem :=
  let items := if returnInfoReturnItems.isEmpty then getOrderReturnInfoReturnItems order else returnInfoReturnItems
  items.find? fun item => item.lineItemId = orderLineItemId ∧ item.paymentState = .refunded

end Rollout

namespace OrderReturn
open Rollout

-- One round of the loop of FetchOrderDetailsByOrderID: an id still to refund is
-- collected, an already refunded one leaves the transaction its return carries.
def filterReturnItem (order : Order) (returnInfoReturnItems : List ReturnItem)
    (collected : List String × Dict String) (entry : String × String) : List String × Dict String :=
  let (filteredLineItemIds,refundedItems) := collected
  let (lineItemId,returnId) := entry
  match isCommercetoolsLineItemAlreadyRefunded order lineItemId returnInfoReturnItems with
  | none => (filteredLineItemIds++[lineItemId],refundedItems)
  | some lineItemRefund =>
    match lineItemRefund.transactionId with
    | some transactionId =>
      if transactionId = "" then (filteredLineItemIds,refundedItems)
      else (filteredLineItemIds,refundedItems.set returnId transactionId)
    | none => (filteredLineItemIds,refundedItems)

def filterReturnItems (order : Order) (returnLineItems : Dict String) : List String × Dict String :=
  returnLineItems.foldl (filterReturnItem order (getOrderReturnInfoReturnItems order)) ([],[])

def Refunded (order : Order) (lineItemId : String) : Prop :=
  ∃ item ∈ getOrderReturnInfoReturnItems order, item.lineItemId = lineItemId ∧ item.paymentState = .refunded

instance : Decidable (Refunded order lineItemId) := inferInstanceAs (Decidable (∃ _ ∈ _, _))

theorem already_refunded_none (order : Order) (lineItemId : String) :
    isCommercetoolsLineItemAlreadyRefunded order lineItemId (getOrderReturnInfoReturnItems order) = none ↔
      ¬ Refunded order lineItemId := by
  simp [isCommercetoolsLineItemAlreadyRefunded,Refunded]

theorem filter_item_refunded (refunded : Refunded order entry.1) :
    (filterReturnItem order (getOrderReturnInfoReturnItems order) collected entry).1 = collected.1 := by
  obtain ⟨item,found⟩ := Option.ne_none_iff_exists'.mp
    (mt (already_refunded_none order entry.1).mp (not_not.mpr refunded))
  simp only [filterReturnItem,found]
  split
  · split <;> rfl
  · rfl

theorem filter_item_open (pending : ¬ Refunded order entry.1) :
    filterReturnItem order (getOrderReturnInfoReturnItems order) collected entry =
      (collected.1++[entry.1],collected.2) := by
  simp only [filterReturnItem,(already_refunded_none order entry.1).mpr pending]

theorem filtered_line_items (order : Order) (returnLineItems : Dict String) :
    (filterReturnItems order returnLineItems).1 = returnLineItems.keys.filter (¬ Refunded order ·) := by
  suffices loop : ∀ collected, (returnLineItems.foldl (filterReturnItem order
      (getOrderReturnInfoReturnItems order)) collected).1 =
        collected.1 ++ returnLineItems.keys.filter (¬ Refunded order ·) from loop ([],[])
  induction returnLineItems with
  | nil => simp [Dict.keys]
  | cons entry rest ih =>
    intro collected
    rw [List.foldl_cons,ih]
    by_cases refunded : Refunded order entry.1
    · rw [filter_item_refunded refunded]
      simp [Dict.keys,refunded]
    · rw [filter_item_open refunded]
      simp [Dict.keys,refunded]

def refundedWith (order : Order) (lineItemId : String) : Option String :=
  ((isCommercetoolsLineItemAlreadyRefunded order lineItemId (getOrderReturnInfoReturnItems order)).bind
    (·.transactionId)).filter (· ≠ "")

theorem filter_item_refunds (order : Order) (collected : List String × Dict String) (entry : String × String) :
    (filterReturnItem order (getOrderReturnInfoReturnItems order) collected entry).2 = collected.2 ∨
      ∃ transactionId, refundedWith order entry.1 = some transactionId ∧
        (filterReturnItem order (getOrderReturnInfoReturnItems order) collected entry).2 = collected.2.set entry.2 transactionId := by
  unfold filterReturnItem refundedWith
  cases found : isCommercetoolsLineItemAlreadyRefunded order entry.1 (getOrderReturnInfoReturnItems order) with
  | none => exact .inl (by simp only [found])
  | some item =>
    cases named : item.transactionId with
    | none => exact .inl (by simp only [found,named])
    | some transactionId =>
      by_cases empty : transactionId = ""
      · exact .inl (by simp only [found,named,empty,if_true])
      · refine .inr ⟨transactionId,?_,by simp only [found,named,empty,if_false]⟩
        simp [named,empty]

theorem filtered_refunds {returnLineItems : Dict String} {returnItemId transactionId : String}
    (listed : (returnItemId,transactionId) ∈ (filterReturnItems order returnLineItems).2) :
    ∃ entry ∈ returnLineItems, entry.2 = returnItemId ∧ refundedWith order entry.1 = some transactionId := by
  suffices loop : ∀ collected, (returnItemId,transactionId) ∈ (returnLineItems.foldl (filterReturnItem order
      (getOrderReturnInfoReturnItems order)) collected).2 → (returnItemId,transactionId) ∈ collected.2 ∨
        ∃ entry ∈ returnLineItems, entry.2 = returnItemId ∧ refundedWith order entry.1 = some transactionId from
    (loop ([],[]) listed).resolve_left (by simp)
  clear listed
  induction returnLineItems with
  | nil => exact fun _ listed => .inl listed
  | cons entry rest ih =>
    intro collected listed
    rcases ih _ listed with earlier | ⟨other,member,found⟩
    · rcases filter_item_refunds order collected entry with same | ⟨earlierId,refunded,set⟩
      · exact .inl (same ▸ earlier)
      · rw [set] at earlier
        rcases Dict.set_entry earlier with before | equal
        · exact .inl before
        · cases equal
          exact .inr ⟨entry,List.mem_cons_self,rfl,refunded⟩
    · exact .inr ⟨other,List.mem_cons_of_mem _ member,found⟩

theorem filter_item_get (order : Order) (collected : List String × Dict String) (entry : String × String) (returnId : String) :
    (filterReturnItem order (getOrderReturnInfoReturnItems order) collected entry).2.get returnId =
      if returnId = entry.2 then (refundedWith order entry.1).or (collected.2.get returnId) else collected.2.get returnId := by
  unfold filterReturnItem refundedWith
  cases found : isCommercetoolsLineItemAlreadyRefunded order entry.1 (getOrderReturnInfoReturnItems order) with
  | none => simp [found]
  | some item =>
    cases named : item.transactionId with
    | none => simp [found,named]
    | some transactionId =>
      by_cases empty : transactionId = ""
      · simp [found,named,empty,Option.filter]
      · by_cases same : returnId = entry.2 <;> simp [found,named,empty,same,Dict.set_get,Option.filter]

theorem filtered_refunds_get {returnLineItems : Dict String} (distinct : returnLineItems.values.Nodup)
    (member : entry ∈ returnLineItems) :
    (filterReturnItems order returnLineItems).2.get entry.2 = refundedWith order entry.1 := by
  have others : ∀ (d : Dict String) (returnId : String) collected, returnId ∉ d.values →
      (d.foldl (filterReturnItem order (getOrderReturnInfoReturnItems order)) collected).2.get returnId =
        collected.2.get returnId := by
    intro d returnId
    induction d with
    | nil => exact fun _ _ => rfl
    | cons first rest ih =>
      intro collected absent
      obtain ⟨here,later⟩ := not_or.mp (mt List.mem_cons.mpr absent)
      rw [List.foldl_cons,ih _ later,filter_item_get,if_neg here]
  suffices loop : ∀ collected, collected.2.get entry.2 = none → (returnLineItems.foldl (filterReturnItem order
      (getOrderReturnInfoReturnItems order)) collected).2.get entry.2 = refundedWith order entry.1 from loop ([],[]) rfl
  induction returnLineItems with
  | nil => cases member
  | cons first rest ih =>
    obtain ⟨fresh,distinct⟩ := List.nodup_cons.mp distinct
    intro collected unset
    rw [List.foldl_cons]
    rcases List.mem_cons.mp member with rfl | later
    · rw [others rest _ _ fresh,filter_item_get,if_pos rfl,unset,Option.or_none]
    · have other : entry.2 ≠ first.2 := by
        intro same
        exact fresh (same.symm ▸ List.mem_map_of_mem later : first.2 ∈ rest.map (·.2))
      exact ih distinct later _ (by rw [filter_item_get,if_neg other,unset])

def addReturnInfo (order : Order) (items : List ReturnItem) : Order :=
  {order with returnInfo := order.returnInfo++[items]}

def updateReturnItems (order : Order) (change : ReturnItem → ReturnItem) : Order :=
  {order with returnInfo := order.returnInfo.map (·.map change)}

def setReturnPaymentState (order : Order) (returnItemId : String) (paymentState : ReturnPaymentState) : Order :=
  updateReturnItems order fun item => if item.id = returnItemId then {item with paymentState} else item

def setReturnPaymentStates (order : Order) (returnItemIds : List String) (paymentState : ReturnPaymentState) : Order :=
  returnItemIds.foldl (setReturnPaymentState · · paymentState) order

theorem return_items_added (order : Order) (items : List ReturnItem) :
    getOrderReturnInfoReturnItems (addReturnInfo order items) = getOrderReturnInfoReturnItems order ++ items := by
  simp [getOrderReturnInfoReturnItems,addReturnInfo]

theorem return_items_updated (order : Order) (change : ReturnItem → ReturnItem) :
    getOrderReturnInfoReturnItems (updateReturnItems order change) =
      (getOrderReturnInfoReturnItems order).map change := by
  simp [getOrderReturnInfoReturnItems,updateReturnItems,List.map_flatten]

section Returns
variable {order : Order}

theorem refunded_added (initial : ∀ item ∈ items, item.paymentState ≠ .refunded) :
    Refunded (addReturnInfo order items) lineItemId ↔ Refunded order lineItemId := by
  constructor
  · intro both
    obtain ⟨item,member,same,state⟩ := both
    rw [return_items_added] at member
    rcases List.mem_append.mp member with earlier | added
    · exact ⟨item,earlier,same,state⟩
    · exact absurd state (initial item added)
  · intro both
    obtain ⟨item,member,refunded⟩ := both
    exact ⟨item,by rw [return_items_added]; exact List.mem_append_left _ member,refunded⟩

theorem refunded_kept (refunded : Refunded order lineItemId) :
    Refunded (setReturnPaymentState order returnItemId .refunded) lineItemId := by
  obtain ⟨item,member,same,state⟩ := refunded
  refine ⟨_,by rw [setReturnPaymentState,return_items_updated]; exact List.mem_map_of_mem member,?_⟩
  split <;> exact ⟨same,by first | rfl | exact state⟩

def HasReturn (order : Order) (returnItemId lineItemId : String) : Prop :=
  ∃ item ∈ getOrderReturnInfoReturnItems order, item.id = returnItemId ∧ item.lineItemId = lineItemId

theorem has_return_kept (present : HasReturn order returnItemId lineItemId) :
    HasReturn (setReturnPaymentState order other paymentState) returnItemId lineItemId := by
  obtain ⟨item,member,same⟩ := present
  refine ⟨_,by rw [setReturnPaymentState,return_items_updated]; exact List.mem_map_of_mem member,?_⟩
  split <;> exact same

theorem refunded_set (present : HasReturn order returnItemId lineItemId) :
    Refunded (setReturnPaymentState order returnItemId .refunded) lineItemId := by
  obtain ⟨item,member,same,line⟩ := present
  refine ⟨_,by rw [setReturnPaymentState,return_items_updated]; exact List.mem_map_of_mem member,?_⟩
  simp [same,line]

theorem all_refunded_kept (refunded : Refunded order lineItemId) (returnItemIds : List String) :
    Refunded (setReturnPaymentStates order returnItemIds .refunded) lineItemId := by
  induction returnItemIds generalizing order with
  | nil => exact refunded
  | cons head rest ih => exact ih (refunded_kept refunded)

theorem all_refunded_set (present : HasReturn order returnItemId lineItemId)
    (listed : returnItemId ∈ returnItemIds) :
    Refunded (setReturnPaymentStates order returnItemIds .refunded) lineItemId := by
  induction returnItemIds generalizing order with
  | nil => cases listed
  | cons head rest ih =>
    rcases List.mem_cons.mp listed with rfl | later
    · exact all_refunded_kept (refunded_set present) rest
    · exact ih (has_return_kept present) later

theorem all_set_frame (order : Order) (returnItemIds : List String) (paymentState : ReturnPaymentState) :
    (setReturnPaymentStates order returnItemIds paymentState).lineItems = order.lineItems ∧
    (setReturnPaymentStates order returnItemIds paymentState).totalPrice = order.totalPrice := by
  induction returnItemIds generalizing order with
  | nil => exact ⟨rfl,rfl⟩
  | cons head rest ih => exact ih _

end Returns

end OrderReturn
