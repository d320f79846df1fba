import CommerceCoordinator.CallTree
import CommerceCoordinator.Grouping
import CommerceCoordinator.Paging
import CommerceCoordinator.Platform

open Commercetools CallTree Paging Grouping

-- find_ct_duplicate_purchases and find_ct_pending_fulfillment_non_refunded_orders.
namespace OrderReports

-- The SKUs are those of the line items; a payment that is not expanded has no object.
structure Order where
  id : String
  customerEmail : Option String
  skus : List (Option String)
  payments : Option (List (Option Payment))
  deriving DecidableEq

structure Query where
  where' : List String
  sort : List String
  limit : Nat
  offset : Nat
  expand : List String
  deriving DecidableEq

structure Page where
  results : List Order
  offset : Nat
  limit : Nat
  total : Nat

inductive Request where
  | orders (query : Query)

abbrev Response : Request → Type
  | .orders _ => Except ErrorCode Page

-- The loop over the pages has no bound of its own.
inductive Interruption where
  | unfinished
  | raised (error : Exn)
  deriving DecidableEq

abbrev Call := Prog Request Response Interruption

def query (q : Query) : Call Page := .expect (.raised ∘ .commercetoolsError) (.perform (Request.orders q))

def recentFirst : List String := ["completedAt desc","lastModifiedAt desc"]

def purchasesQuery (limit offset : Nat) : Query :=
  ⟨["orderState=\"Complete\"","lastModifiedAt>\"2024-10-23T00:00:00\""],recentFirst,limit,offset,[]⟩

def readOn : Nat → Page → List Order → Call (List Order)
  | 0,_,_ => .raise .unfinished
  | fuel+1,ordersResult,orders =>
    if ordersResult.offset+ordersResult.limit < ordersResult.total then do
      let next ← query (purchasesQuery ordersResult.limit (ordersResult.offset+ordersResult.limit))
      readOn fuel next (orders++next.results)
    else return orders

abbrev UserOrders := List (Option String × List (Option String × List String))

def recordItem (order : Order) (userOrders : UserOrders) (sku : Option String) : UserOrders :=
  change [] (fun skuOrders => change [] (·++[order.id]) skuOrders sku) userOrders order.customerEmail

def recordOrder (userOrders : UserOrders) (order : Order) : UserOrders := order.skus.foldl (recordItem order) userOrders

def duplicatePurchases (userOrders : UserOrders) : UserOrders :=
  (userOrders.map fun entry => (entry.1,entry.2.filter fun orderIds => 1 < orderIds.2.length)).filter (·.2 ≠ [])

def findDuplicatePurchases (fuel : Nat) : Call UserOrders := do
  let ordersResult ← query (purchasesQuery 500 0)
  let orders ← readOn fuel ordersResult ordersResult.results
  return duplicatePurchases (orders.foldl recordOrder [])

def pendingQuery : Query :=
  ⟨["orderState=\"Complete\"","lastModifiedAt>\"2024-10-23T00:00:00\"",
    "lineItems(state(state(id=\"bb686576-3bd5-4457-890a-d63c3d31b2ab\")))"],recentFirst,500,0,["paymentInfo.payments[*]"]⟩

def hasRefundTransaction (payment : Payment) : Bool := payment.transactions.any (·.type = .refund)

def refundFound : List (Option Payment) → Except Exn Bool
  | [] => .ok false
  | none::_ => .error .attributeError
  | some payment::rest => if hasRefundTransaction payment then .ok true else refundFound rest

def isNonRefunded (order : Order) : Except Exn Bool :=
  match order.payments with
  | none => .ok true
  | some payments => (refundFound payments).map (!·)

def findPendingNonRefunded : Call (List String) := do
  let ordersResult ← query pendingQuery
  match ordersResult.results.filterM isNonRefunded with
  | .ok orders => return orders.map (·.id)
  | .error e => .raise (.raised e)

-- The orders that meet given clauses in a given order, as they are at each call
-- from now on.
abbrev Shop := Nat → List String → List String → List Order

def serve : (r : Request) → Shop → Response r × Shop
  | .orders q,shop =>
    let matching := shop 0 q.where' q.sort
    (.ok ⟨pageFrom q.offset q.limit matching,q.offset,q.limit,matching.length⟩,fun n => shop (n+1))

def purchases (orders : List Order) (email sku : Option String) : List String :=
  orders.flatMap fun order =>
    if order.customerEmail = email then (order.skus.filter (· = sku)).map fun _ => order.id else []

def recorded (userOrders : UserOrders) (email sku : Option String) : List String :=
  (((at? userOrders email).bind (at? · sku))).getD []

structure Distinct (userOrders : UserOrders) : Prop where
  users : (userOrders.map (·.1)).Nodup
  skus : ∀ entry ∈ userOrders, (entry.2.map (·.1)).Nodup

section Recording

theorem record_item (order : Order) (userOrders : UserOrders) (item email sku : Option String) :
    recorded (recordItem order userOrders item) email sku = recorded userOrders email sku ++
      if order.customerEmail = email ∧ item = sku then [order.id] else [] := by
  unfold recorded recordItem
  rw [at_change]
  by_cases user : order.customerEmail = email
  · subst user
    simp only [if_true,Option.bind_some,at_change,true_and]
    by_cases same : item = sku
    · subst same
      cases at? userOrders order.customerEmail <;> simp
    · cases at? userOrders order.customerEmail <;> simp [same]
  · simp [user]

theorem distinct_item {userOrders : UserOrders} (distinct : Distinct userOrders) (order : Order) (item : Option String) :
    Distinct (recordItem order userOrders item) := by
  refine ⟨distinct_change distinct.users _,?_⟩
  intro entry member
  rcases mem_change member with old | rfl
  · exact distinct.skus entry old
  · apply distinct_change
    cases found : at? userOrders order.customerEmail with
    | none => simp
    | some skuOrders => exact distinct.skus _ ((mem_iff_at distinct.users).mpr found)

theorem record_items (order : Order) (items : List (Option String)) (userOrders : UserOrders)
    (email sku : Option String) :
    recorded (items.foldl (recordItem order) userOrders) email sku = recorded userOrders email sku ++
      if order.customerEmail = email then (items.filter (· = sku)).map fun _ => order.id else [] := by
  induction items generalizing userOrders with
  | nil => simp
  | cons item rest ih =>
    rw [List.foldl_cons,ih,record_item,List.append_assoc]
    by_cases user : order.customerEmail = email
    · by_cases same : item = sku <;> simp [user,same]
    · simp [user]

theorem distinct_items (order : Order) (items : List (Option String)) {userOrders : UserOrders}
    (distinct : Distinct userOrders) : Distinct (items.foldl (recordItem order) userOrders) := by
  induction items generalizing userOrders with
  | nil => exact distinct
  | cons item rest ih => exact ih (distinct_item distinct order item)

theorem record_orders (orders : List Order) (userOrders : UserOrders) (email sku : Option String) :
    recorded (orders.foldl recordOrder userOrders) email sku =
      recorded userOrders email sku ++ purchases orders email sku := by
  induction orders generalizing userOrders with
  | nil => simp [purchases]
  | cons order rest ih =>
    rw [List.foldl_cons,ih,recordOrder,record_items,List.append_assoc]
    rfl

theorem distinct_orders (orders : List Order) {userOrders : UserOrders} (distinct : Distinct userOrders) :
    Distinct (orders.foldl recordOrder userOrders) := by
  induction orders generalizing userOrders with
  | nil => exact distinct
  | cons order rest ih => exact ih (distinct_items order order.skus distinct)

theorem duplicates_recorded {userOrders : UserOrders} (distinct : Distinct userOrders) (email sku : Option String)
    (ids : List String) : (∃ skuOrders, (email,skuOrders) ∈ duplicatePurchases userOrders ∧ (sku,ids) ∈ skuOrders) ↔
      recorded userOrders email sku = ids ∧ 1 < ids.length := by
  unfold duplicatePurchases recorded
  constructor
  · rintro ⟨skuOrders,listed,member⟩
    obtain ⟨entry,known,same⟩ := List.mem_map.mp (List.mem_of_mem_filter listed)
    cases same
    obtain ⟨inside,several⟩ := List.mem_filter.mp member
    rw [(mem_iff_at distinct.users).mp known]
    refine ⟨?_,of_decide_eq_true several⟩
    simp [(mem_iff_at (distinct.skus _ known)).mp inside]
  · rintro ⟨same,several⟩
    cases user : at? userOrders email with
    | none =>
      rw [user] at same
      subst same
      exact absurd several (by simp)
    | some skuOrders =>
      rw [user,Option.bind_some] at same
      have known := (mem_iff_at distinct.users).mpr user
      cases inside : at? skuOrders sku with
      | none =>
        rw [inside] at same
        subst same
        exact absurd several (by simp)
      | some found =>
        rw [inside] at same
        subst same
        have kept : (sku,found) ∈ skuOrders.filter fun orderIds => 1 < orderIds.2.length :=
          List.mem_filter.mpr ⟨(mem_iff_at (distinct.skus _ known)).mpr inside,decide_eq_true several⟩
        refine ⟨_,List.mem_filter.mpr ⟨List.mem_map_of_mem known,?_⟩,kept⟩
        exact decide_eq_true (List.ne_nil_of_mem kept)

end Recording

section Pages
variable {rows : List Order} {selected : List String → List String → List Order}

def Selects (selected : List String → List String → List Order) (rows : List Order) : Prop :=
  ∀ limit offset, selected (purchasesQuery limit offset).where' (purchasesQuery limit offset).sort = rows

theorem exec_query (k : Page → Call α) (limit offset : Nat) (shop : Shop) (selects : Selects (shop 0) rows) :
    Prog.exec serve ((query (purchasesQuery limit offset)).bind k) shop =
      Prog.exec serve (k ⟨pageFrom offset limit rows,offset,limit,rows.length⟩) fun n => shop (n+1) := by
  simp only [query,Prog.expect,Prog.perform,Prog.call_bind,Prog.pure_bind,Prog.exec_call,serve,selects limit offset]
  rfl

theorem read_on (fuel : Nat) (page : Page) (read : List Order) (some_fuel : 0 < fuel) (positive : 0 < page.limit)
    (selects : Selects selected rows) (counted : page.total = rows.length)
    (enough : rows.length ≤ page.offset+fuel*page.limit) :
    Prog.exec serve (readOn fuel page read) (fun _ => selected) =
      (.ok (read++rows.drop (page.offset+page.limit)),fun _ => selected) := by
  induction fuel generalizing page read with
  | zero => omega
  | succ fuel ih =>
    rw [Nat.add_mul] at enough
    unfold readOn
    split
    · rename_i more
      have left : 0 < fuel := by
        rcases Nat.eq_zero_or_pos fuel with none_left | some_left
        · subst none_left
          omega
        · exact some_left
      have rest := ih ⟨pageFrom (page.offset+page.limit) page.limit rows,page.offset+page.limit,page.limit,rows.length⟩
        (read++pageFrom (page.offset+page.limit) page.limit rows) left positive rfl (by simp only; omega)
      rw [Prog.monad_bind,exec_query _ _ _ (fun _ => selected) selects,rest,List.append_assoc,page_drop]
    · rename_i done
      rw [List.drop_eq_nil_iff.mpr (by omega),List.append_nil]
      rfl

theorem distinct_empty : Distinct [] := ⟨.nil,by simp⟩

theorem reported_of_read (orders : List Order) (email sku : Option String) (ids : List String) :
    (∃ skuOrders, (email,skuOrders) ∈ duplicatePurchases (orders.foldl recordOrder []) ∧ (sku,ids) ∈ skuOrders) ↔
      purchases orders email sku = ids ∧ 1 < ids.length := by
  rw [duplicates_recorded (distinct_orders orders distinct_empty),record_orders]
  rfl

def matching (selected : List String → List String → List Order) : List Order :=
  selected (purchasesQuery 500 0).where' (purchasesQuery 500 0).sort

theorem selects_matching (selected : List String → List String → List Order) : Selects selected (matching selected) :=
  fun _ _ => rfl

-- Of orders that do not change meanwhile: a customer and a product are reported
-- exactly if bought more than once, with the order of every purchase.
theorem duplicates_exact (selected : List String → List String → List Order) (fuel : Nat) (some_fuel : 0 < fuel)
    (enough : (matching selected).length ≤ fuel*500) :
    ∃ report, (Prog.exec serve (findDuplicatePurchases fuel) fun _ => selected).1 = .ok report ∧
      ∀ email sku ids, (∃ skuOrders, (email,skuOrders) ∈ report ∧ (sku,ids) ∈ skuOrders) ↔
        purchases (matching selected) email sku = ids ∧ 1 < ids.length := by
  have selects := selects_matching selected
  generalize matching selected = rows at enough selects ⊢
  refine ⟨duplicatePurchases (rows.foldl recordOrder []),?_,reported_of_read rows⟩
  have whole : pageFrom 0 500 rows++rows.drop 500 = rows := page_drop rows 0 500
  have read := read_on fuel ⟨pageFrom 0 500 rows,0,500,rows.length⟩ (pageFrom 0 500 rows) some_fuel (by simp) selects
    rfl (by simpa using enough)
  simp only [Nat.zero_add] at read
  rw [findDuplicatePurchases,Prog.monad_bind,exec_query _ _ _ (fun _ => selected) selects,Prog.monad_bind,
    Prog.exec_bind,read,whole]
  rfl

theorem exec_shifted (fuel : Nat) {shop : Shop} {first rest : List Order} (some_fuel : 0 < fuel)
    (selects : Selects (shop 0) first) (later : ∀ n, shop (n+1) = selected) (selects_later : Selects selected rest)
    (more : 500 < first.length) (enough : rest.length ≤ fuel*500) :
    (Prog.exec serve (findDuplicatePurchases (fuel+1)) shop).1 =
      .ok (duplicatePurchases ((first.take 500++rest.drop 500).foldl recordOrder [])) := by
  have settled : (fun n => shop (n+1)) = fun _ => selected := funext later
  have read := read_on fuel ⟨pageFrom 500 500 rest,500,500,rest.length⟩ (pageFrom 0 500 first++pageFrom 500 500 rest)
    some_fuel (by simp) selects_later rfl (by simp only; omega)
  rw [List.append_assoc,page_drop] at read
  rw [findDuplicatePurchases,Prog.monad_bind,exec_query _ _ _ shop selects,settled,Prog.monad_bind,Prog.exec_bind,
    readOn,if_pos (by simpa using more),Prog.monad_bind]
  simp only [Nat.zero_add]
  rw [exec_query _ _ _ (fun _ => selected) selects_later,read]
  rfl

-- One order that completes between the first two pages moves the last order of the
-- first page onto the second: everything in it is reported as bought twice.
theorem duplicates_shifted (fuel : Nat) {shop : Shop} {first : List Order} {arrived boundary : Order}
    (some_fuel : 0 < fuel) (before : matching (shop 0) = first) (later : ∀ n, shop (n+1) = selected)
    (after : matching selected = arrived::first) (more : 500 < first.length) (enough : first.length < fuel*500)
    (last : first[499]? = some boundary) (bought : sku ∈ boundary.skus) :
    ∃ report skuOrders ids, (Prog.exec serve (findDuplicatePurchases (fuel+1)) shop).1 = .ok report ∧
      (boundary.customerEmail,skuOrders) ∈ report ∧ (sku,ids) ∈ skuOrders ∧ 1 < ids.count boundary.id := by
  have read := exec_shifted fuel some_fuel (before ▸ selects_matching _) later (after ▸ selects_matching _) more (by simp only [List.length_cons]; omega)
  have split : first.take 500++(arrived::first).drop 500 = first.take 499++[boundary]++boundary::first.drop 500 := by
    have ended : first.take 500 = first.take 499++[boundary] := by rw [List.take_add_one,last]; rfl
    have begun : first.drop 499 = boundary::first.drop 500 := by
      obtain ⟨inside,rfl⟩ := List.getElem?_eq_some_iff.mp last
      exact List.drop_eq_getElem_cons inside
    rw [ended,List.drop_succ_cons,begun]
  have own : ∀ orders, boundary ∈ orders → 0 < (purchases orders boundary.customerEmail sku).count boundary.id := by
    intro orders member
    rw [List.count_pos_iff]
    exact List.mem_flatMap.mpr ⟨boundary,member,by simpa using bought⟩
  have twice : 1 < (purchases (first.take 499++[boundary]++boundary::first.drop 500) boundary.customerEmail sku).count
      boundary.id := by
    have before := own (first.take 499++[boundary]) (by simp)
    have after := own (boundary::first.drop 500) (by simp)
    have both : purchases (first.take 499++[boundary]++boundary::first.drop 500) boundary.customerEmail sku =
        purchases (first.take 499++[boundary]) boundary.customerEmail sku ++
          purchases (boundary::first.drop 500) boundary.customerEmail sku := List.flatMap_append
    rw [both,List.count_append]
    omega
  rw [split] at read
  obtain ⟨skuOrders,listed,inside⟩ := (reported_of_read _ boundary.customerEmail sku _).mpr
    ⟨rfl,lt_of_lt_of_le twice List.count_le_length⟩
  exact ⟨_,skuOrders,_,read,listed,inside,twice⟩

def bought (id : String) : Order := ⟨id,some "ada@example.com",[some "course"],none⟩

theorem bought_twice : ∃ report, (Prog.exec serve (findDuplicatePurchases 1) fun _ _ _ => [bought "1",bought "2"]).1 =
      .ok report ∧ ∀ email sku ids, (∃ skuOrders, (email,skuOrders) ∈ report ∧ (sku,ids) ∈ skuOrders) ↔
        purchases [bought "1",bought "2"] email sku = ids ∧ 1 < ids.length :=
  duplicates_exact (fun _ _ => [bought "1",bought "2"]) 1 (by decide) (by decide)

def busy : Shop
  | 0,_,_ => List.replicate 501 (bought "1")
  | _+1,_,_ => bought "2"::List.replicate 501 (bought "1")

theorem busy_shifted : ∃ report skuOrders ids, (Prog.exec serve (findDuplicatePurchases 3) busy).1 = .ok report ∧
      (some "ada@example.com",skuOrders) ∈ report ∧ (some "course",ids) ∈ skuOrders ∧ 1 < ids.count "1" :=
  @duplicates_shifted (busy 1) (some "course") 2 busy (List.replicate 501 (bought "1")) (bought "2") (bought "1")
    (by decide) rfl (fun _ => rfl) rfl (by rw [List.length_replicate]; decide)
    (by rw [List.length_replicate]; decide) (List.getElem?_replicate_of_lt (by decide)) (by decide)

end Pages

theorem pending_of_first_page (shop : Shop) :
    (Prog.exec serve findPendingNonRefunded shop).1 = Except.mapError Interruption.raised
      ((((shop 0 pendingQuery.where' pendingQuery.sort).take 500).filterM isNonRefunded).map fun orders =>
        orders.map (·.id)) := by
  simp only [findPendingNonRefunded,query,Prog.expect,Prog.perform,Prog.monad_bind,Prog.call_bind,Prog.pure_bind,
    Prog.exec_call,serve,pageFrom,pendingQuery,List.drop_zero]
  cases List.filterM isNonRefunded _ <;> rfl

end OrderReports
