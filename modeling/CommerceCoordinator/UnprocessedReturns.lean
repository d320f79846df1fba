import CommerceCoordinator.MobileRefund

open Commercetools Rollout

-- The return that refund_from_mobile_task links to a refund: what the loop over the
-- return infos finds, against the items that the order was queried for.
namespace MobileRefund

def Unprocessed (item : ReturnItem) : Prop := item.paymentState = .refunded ∧ item.transactionId.getD "" = ""

instance : Decidable (Unprocessed item) := inferInstanceAs (Decidable (_ ∧ _))

def endsLoop : List ReturnItem → Bool
  | [] => true
  | item :: _ => Unprocessed item

theorem loop_finds (infos : List (List ReturnItem)) :
    unprocessedReturnItemIds infos = match infos.find? endsLoop with
      | none => some []
      | some [] => none
      | some info => some (info.map (·.id)) := by
  induction infos with
  | nil => rfl
  | cons info rest ih =>
    cases info with
    | nil => rfl
    | cons item items =>
      by_cases unprocessed : Unprocessed item
      · have found : endsLoop (item :: items) = true := by simp [endsLoop,unprocessed]
        have both : item.paymentState = .refunded ∧ item.transactionId.getD "" = "" := unprocessed
        rw [unprocessedReturnItemIds,if_pos both,List.find?_cons_of_pos found]
      · have passed : ¬ endsLoop (item :: items) = true := by simp [endsLoop,unprocessed]
        have not : ¬ (item.paymentState = .refunded ∧ item.transactionId.getD "" = "") := unprocessed
        rw [unprocessedReturnItemIds,if_neg not,List.find?_cons_of_neg passed]
        exact ih

def UnprocessedFound (order : Order) : Prop :=
  ∃ ids, getUnprocessedReturnItemIdsFromOrder order = some ids ∧
    (∀ id ∈ ids, ∃ item ∈ getOrderReturnInfoReturnItems order, item.id = id ∧ Unprocessed item) ∧
    ((∃ item ∈ getOrderReturnInfoReturnItems order, Unprocessed item) → ids ≠ [])

-- The first item of a return speaks for its siblings, and for the earlier returns.
def FirstItemsSpeak (order : Order) : Prop :=
  match order.returnInfo.reverse.find? endsLoop with
  | none => ∀ item ∈ getOrderReturnInfoReturnItems order, ¬ Unprocessed item
  | some info => info ≠ [] ∧
    ∀ sibling ∈ info, ∃ item ∈ getOrderReturnInfoReturnItems order, item.id = sibling.id ∧ Unprocessed item

theorem unprocessed_found_iff (order : Order) : UnprocessedFound order ↔ FirstItemsSpeak order := by
  unfold UnprocessedFound FirstItemsSpeak getUnprocessedReturnItemIdsFromOrder
  rw [loop_finds]
  cases order.returnInfo.reverse.find? endsLoop with
  | none =>
    constructor
    · rintro ⟨ids,found,_,nonempty⟩ item member unprocessed
      cases found
      exact nonempty ⟨item,member,unprocessed⟩ rfl
    · intro processed
      refine ⟨[],rfl,(fun id member => by cases member),?_⟩
      rintro ⟨item,member,unprocessed⟩
      exact absurd unprocessed (processed item member)
  | some info =>
    cases info with
    | nil => simp
    | cons item items =>
      constructor
      · rintro ⟨ids,found,belongs,_⟩
        cases found
        exact ⟨by simp,fun sibling member => belongs sibling.id (List.mem_map_of_mem member)⟩
      · rintro ⟨_,siblings⟩
        refine ⟨_,rfl,?_,by simp⟩
        intro id member
        obtain ⟨sibling,listed,rfl⟩ := List.mem_map.mp member
        exact siblings sibling listed

def orderWithReturns (returnInfo : List (List ReturnItem)) : Order :=
  ⟨"order",1,"customer",true,[],⟨4900,"USD",some 2⟩,returnInfo,[]⟩

def waitingItem (id : String) : ReturnItem := ⟨id,"line-" ++ id,.refunded,none,none⟩
def linkedItem (id : String) : ReturnItem := ⟨id,"line-" ++ id,.refunded,some "transaction",none⟩

-- An item that waits behind a linked one is not found; a linked one behind an item that
-- waits is returned with it.
theorem waiting_behind_linked : ¬ UnprocessedFound (orderWithReturns [[linkedItem "a",waitingItem "b"]]) ∧
    ¬ UnprocessedFound (orderWithReturns [[waitingItem "a",linkedItem "b"]]) ∧
    ¬ UnprocessedFound (orderWithReturns [[waitingItem "a"],[]]) := by
  refine ⟨?_,?_,?_⟩
  · rintro ⟨ids,found,_,nonempty⟩
    have none : ids = [] := by
      have same : some [] = some ids := Eq.trans (by decide +kernel) found
      exact (Option.some.inj same).symm
    exact nonempty ⟨waitingItem "b",by decide +kernel,by decide⟩ none
  · rintro ⟨ids,found,belongs,_⟩
    have both : some ["a","b"] = some ids := Eq.trans (by decide +kernel) found
    cases both
    have absent : ∀ item ∈ getOrderReturnInfoReturnItems (orderWithReturns [[waitingItem "a",linkedItem "b"]]),
        ¬ (item.id = "b" ∧ Unprocessed item) := by decide +kernel
    obtain ⟨item,member,named⟩ := belongs "b" (by simp)
    exact absent item member named
  · rintro ⟨ids,found,_⟩
    cases found

end MobileRefund
