import CommerceCoordinator.OrderNumber
import Mathlib.Data.List.Sort

open Commercetools

-- UserOrdersView.get: the orders of the requester, from the legacy system and from
-- Commercetools.
namespace OrderHistory

def perSystemReqCutoffInDays : Nat := 180
def perSystemReqLimit : Nat := 200

structure User where
  username : String
  email : String
  lmsUserId : Option Nat
  isStaff : Bool
  deriving DecidableEq

structure Request where
  user : User
  queryParams : List (String × String)
  deriving DecidableEq

-- request.query_params.get: the last value under a name.
def Request.get (request : Request) (name : String) : Option String :=
  ((request.queryParams.filter (·.1 = name)).getLast?).map (·.2)

structure Params where
  customerId : Option String
  username : Option String
  email : Option String
  edxLmsUserId : Option Nat
  page : Nat
  pageSize : Nat
  cutoffInDays : Nat
  deriving DecidableEq

-- The last two are custom fields.
structure Customer where
  id : String
  email : String
  lmsUserId : Option String
  lmsUserName : Option String
  deriving DecidableEq

-- Times are in seconds; `rest` is what only the conversion reads.
structure Order where
  id : String
  customerId : String
  orderState : String
  createdAt : Int
  completedAt : Int
  lastModifiedAt : Int
  rest : String
  deriving DecidableEq

structure LegacyOrder where
  datePlaced : Int
  rest : String
  deriving DecidableEq

def plain (id : String) : Bool := id.toList.all fun c => c ≠ '"' ∧ c ≠ '\\'

-- Commercetools gives its customers ids without quotes.
structure Store where
  customers : List Customer
  orders : List Order
  ids : ∀ customer ∈ customers, plain customer.id = true

-- What surrounds one request: the flags, the users of the coordinator, the legacy
-- system, the meaning Commercetools gives a clause (none where it is no clause), the
-- conversion of an order's other fields, and the time.
structure Surroundings where
  flagIsActive : Request → Bool
  learners : String → Option User
  ecommerceOrders : Params → Except Exn (List LegacyOrder)
  meaning : String → Option (Order → Bool)
  convert : Order → Customer → Except Exn String
  now : Int

-- A day, counted from the epoch, as YYYY-MM-DD.
def isoDate (day : Int) : String :=
  let z := day+719468
  let era := z/146097
  let doe := z-era*146097
  let yoe := (doe-doe/1460+doe/36524-doe/146096)/365
  let doy := doe-(365*yoe+yoe/4-yoe/100)
  let mp := (5*doy+2)/153
  let d := doy-(153*mp+2)/5+1
  let m := if mp < 10 then mp+3 else mp-9
  let y := yoe+era*400+(if m ≤ 2 then 1 else 0)
  OrderNumber.zfill 4 (toString y)++"-"++OrderNumber.zfill 2 (toString m)++"-"++OrderNumber.zfill 2 (toString d)

example : isoDate 19782 = "2024-02-29" := by decide

section Client
variable (env : Surroundings) (s : Store)

def cutoff (days : Nat) : Int := env.now-days*86400

def customerIdClause (customerId : String) : String := "customerId=\""++customerId++"\""
def orderStateClause (orderState : String) : String := "orderState=\""++orderState++"\""
def createdAtClause (date : String) : String := "createdAt > \""++date++"\""

def orderClauses (customerId : String) (cutoffInDays : Nat) : List String :=
  [customerIdClause customerId,orderStateClause "Complete"] ++
    if cutoffInDays ≠ 0 then [createdAtClause (isoDate (cutoff env cutoffInDays/86400))] else []

-- sort=["completedAt desc", "lastModifiedAt desc"]
def later (a b : Order) : Prop :=
  b.completedAt < a.completedAt ∨ b.completedAt = a.completedAt ∧ b.lastModifiedAt ≤ a.lastModifiedAt

instance : DecidableRel later := fun _ _ => inferInstanceAs (Decidable (_ ∨ _))

def queryOrders (clauses : List String) (limit offset : Nat) : Except Exn (List Order) :=
  match clauses.mapM env.meaning with
  | none => .error (.commercetoolsError .invalidOperation)
  | some meanings => .ok (((s.orders.filter fun order => meanings.all (· order)).insertionSort later).drop offset |>.take limit)

def getOrders (customerId : String) (offset limit cutoffInDays : Nat) : Except Exn (List Order) :=
  queryOrders env s (orderClauses env customerId cutoffInDays) limit offset

-- customers.query by the custom field of the LMS user, two at most
def getCustomerByLmsUser (lmsUserId : Option Nat) (lmsUsername : Option String) : Except Exn (Option Customer) := do
  let results ←
    if lmsUserId.getD 0 ≠ 0 then .ok (s.customers.filter (·.lmsUserId = lmsUserId.map toString))
    else if lmsUsername.getD "" ≠ "" then .ok (s.customers.filter (·.lmsUserName = lmsUsername))
    else .error .valueError
  match results with
  | [] => .ok none
  | [customer] => .ok (some customer)
  | _ => .error .valueError

def customerOf (params : Params) : Except Exn Customer :=
  if params.customerId.getD "" = "" then do
    match ← getCustomerByLmsUser s params.edxLmsUserId params.username with
    | none => .error .valueError
    | some customer => .ok customer
  else match params.email,params.username with
    | some email,some username => .ok ⟨params.customerId.getD "",email,none,some username⟩
    | _,_ => .error .valueError

def getOrdersForCustomer (params : Params) : Except Exn (List Order × Customer) := do
  let customer ← customerOf s params
  let orders ← getOrders env s customer.id (params.page*params.pageSize) params.pageSize params.cutoffInDays
  .ok (orders,customer)

end Client

section Pipeline
variable (env : Surroundings) (s : Store)

def orderFromCommercetools (customer : Customer) (order : Order) : Except Exn LegacyOrder := do
  let rest ← env.convert order customer
  .ok ⟨order.lastModifiedAt,rest⟩

def continues : Exn → Bool
  | .commercetoolsError _ => true
  | .valueError => true
  | _ => false

-- Any failure of the legacy system leaves its page out.
def getEcommerceOrders (params : Params) (orderData : List (List LegacyOrder)) : List (List LegacyOrder) :=
  match env.ecommerceOrders {params with page := params.page+1} with
  | .ok page => orderData++[page]
  | .error _ => orderData

def commercetoolsPage (params : Params) : Except Exn (List LegacyOrder) := do
  let (orders,customer) ← getOrdersForCustomer env s params
  orders.mapM (orderFromCommercetools env customer)

def getCommercetoolsOrders (request : Request) (params : Params) (orderData : List (List LegacyOrder)) :
    Except Exn (List (List LegacyOrder)) :=
  if env.flagIsActive request then
    match commercetoolsPage env s params with
    | .ok page => .ok (orderData++[page])
    | .error e => if continues e then .ok orderData else .error e
  else .ok orderData

def orderHistoryRequested (request : Request) (params : Params) : Except Exn (List (List LegacyOrder)) :=
  getCommercetoolsOrders env s request params (getEcommerceOrders env params [])

end Pipeline

inductive Response where
  | ok (count : String) (results : List LegacyOrder)
  | permissionDenied (detail : String)
  | badRequest (data : String)
  deriving DecidableEq

section View
variable (env : Surroundings) (s : Store)

def parameters (request : Request) : Params :=
  let learnerUsername := (request.get "username").getD ""
  if request.user.isStaff ∧ learnerUsername ≠ "" then
    match env.learners learnerUsername with
    | some learner =>
      ⟨none,some learnerUsername,some learner.email,learner.lmsUserId,0,perSystemReqLimit,perSystemReqCutoffInDays⟩
    | none => ⟨none,some learnerUsername,none,none,0,perSystemReqLimit,perSystemReqCutoffInDays⟩
  else ⟨request.get "customer_id",some request.user.username,some request.user.email,request.user.lmsUserId,0,
    perSystemReqLimit,perSystemReqCutoffInDays⟩

-- sorted(..., reverse=True) keeps the order of equal dates
def newer (a b : LegacyOrder) : Prop := b.datePlaced ≤ a.datePlaced

instance : DecidableRel newer := fun _ _ => inferInstanceAs (Decidable (_ ≤ _))

def recent (cutoffInDays : Nat) (orders : List LegacyOrder) : List LegacyOrder :=
  if cutoffInDays ≠ 0 then
    (orders.insertionSort newer).takeWhile fun order => cutoff env cutoffInDays ≤ order.datePlaced
  else orders.insertionSort newer

def get (request : Request) : Response :=
  let params := parameters env request
  if request.user.username = "" then .permissionDenied "Could not detect username."
  else if request.user.lmsUserId.getD 0 = 0 then .permissionDenied "Could not detect LMS user id."
  else match orderHistoryRequested env s request params with
    | .ok orderData => .ok ((request.get "page_size").getD (toString params.pageSize))
        (recent env params.cutoffInDays orderData.flatten)
    | .error _ => .badRequest "Something went wrong!"

end View

section Recent
variable {env : Surroundings} {days : Nat}

theorem insert_recent (bound : Int) (order : LegacyOrder) (orders : List LegacyOrder) :
    (orders.orderedInsert newer order).takeWhile (fun o => decide (bound ≤ o.datePlaced)) =
      if bound ≤ order.datePlaced then
        (orders.takeWhile fun o => decide (bound ≤ o.datePlaced)).orderedInsert newer order
      else orders.takeWhile fun o => decide (bound ≤ o.datePlaced) := by
  induction orders with
  | nil => by_cases here : bound ≤ order.datePlaced <;> simp [here]
  | cons head rest ih =>
    by_cases first : newer order head
    · have below : head.datePlaced ≤ order.datePlaced := first
      by_cases here : bound ≤ order.datePlaced
      · by_cases there : bound ≤ head.datePlaced <;> simp [first,here,there]
      · have there : ¬ bound ≤ head.datePlaced := fun bounded => here (bounded.trans below)
        simp [first,here,there]
    · have above : order.datePlaced < head.datePlaced := not_le.mp first
      by_cases there : bound ≤ head.datePlaced
      · by_cases here : bound ≤ order.datePlaced <;> simp [first,here,there,ih]
      · have here : ¬ bound ≤ order.datePlaced := fun bounded => there (bounded.trans above.le)
        simp [first,here,there]

theorem sorted_recent (bound : Int) (orders : List LegacyOrder) :
    (orders.insertionSort newer).takeWhile (fun o => decide (bound ≤ o.datePlaced)) =
      (orders.filter fun o => decide (bound ≤ o.datePlaced)).insertionSort newer := by
  induction orders with
  | nil => rfl
  | cons head rest ih =>
    rw [List.insertionSort_cons,insert_recent,ih]
    by_cases here : bound ≤ head.datePlaced <;> simp [here]

theorem recent_stale {orders page : List LegacyOrder} (stale : ∀ o ∈ page, ¬ cutoff env (days+1) ≤ o.datePlaced) :
    recent env (days+1) (orders++page) = recent env (days+1) orders := by
  have none_ : page.filter (fun o => decide (cutoff env (days+1) ≤ o.datePlaced)) = [] :=
    List.filter_eq_nil_iff.mpr fun o member => by simpa using stale o member
  simp only [recent,if_pos (Nat.succ_ne_zero days),sorted_recent,List.filter_append,none_,List.append_nil]

theorem recent_length (orders : List LegacyOrder) : (recent env (days+1) orders).length =
    (orders.filter fun o => decide (cutoff env (days+1) ≤ o.datePlaced)).length := by
  simp only [recent,if_pos (Nat.succ_ne_zero days),sorted_recent,List.length_insertionSort]

end Recent

section Pages
variable {env : Surroundings} {s s' : Store} {request : Request}

theorem query_member (queried : queryOrders env s clauses limit offset = .ok orders) (member : order ∈ orders) :
    ∃ meanings, clauses.mapM env.meaning = some meanings ∧ meanings.all (· order) = true := by
  unfold queryOrders at queried
  split at queried
  · cases queried
  · rename_i meanings read
    cases queried
    have sorted := List.mem_of_mem_drop (List.mem_of_mem_take member)
    exact ⟨meanings,read,(List.mem_filter.mp ((List.mem_insertionSort later).mp sorted)).2⟩

theorem query_failed (queried : queryOrders env s clauses limit offset = .error e) : continues e = true := by
  unfold queryOrders at queried
  split at queried
  · cases queried; rfl
  · cases queried

theorem converted_cases {customer : Customer} (orders : List Order) :
    (∃ e, ∃ order ∈ orders, env.convert order customer = .error e ∧
      orders.mapM (orderFromCommercetools env customer) = .error e) ∨
    ∃ page, orders.mapM (orderFromCommercetools env customer) = .ok page ∧
      ∀ placed ∈ page, ∃ order ∈ orders, ∃ rest, env.convert order customer = .ok rest ∧
        placed = ⟨order.lastModifiedAt,rest⟩ := by
  induction orders with
  | nil => exact .inr ⟨[],rfl,fun _ never => by cases never⟩
  | cons order others ih =>
    rw [List.mapM_cons]
    cases converted : env.convert order customer with
    | error e =>
      refine .inl ⟨e,order,List.mem_cons_self,converted,?_⟩
      simp [orderFromCommercetools,converted,bind,Except.bind]
    | ok rest =>
      have first : orderFromCommercetools env customer order = .ok ⟨order.lastModifiedAt,rest⟩ := by
        simp [orderFromCommercetools,converted,bind,Except.bind]
      rcases ih with ⟨e,other,member,failed,mapped⟩ | ⟨page,mapped,members⟩
      · refine .inl ⟨e,other,List.mem_cons_of_mem _ member,failed,?_⟩
        simp [first,mapped,bind,Except.bind]
      · refine .inr ⟨⟨order.lastModifiedAt,rest⟩::page,by simp [first,mapped,bind,Except.bind,pure,Except.pure],?_⟩
        intro placed member
        rcases List.mem_cons.mp member with rfl | member
        · exact ⟨order,List.mem_cons_self,rest,converted,rfl⟩
        · obtain ⟨other,among,found⟩ := members placed member
          exact ⟨other,List.mem_cons_of_mem _ among,found⟩

end Pages

section NonInterference
variable {env : Surroundings} {s s' : Store} {request : Request}

def own (user : User) (s : Store) : List Customer := s.customers.filter (·.lmsUserId = user.lmsUserId.map toString)

def Agree (user : User) (s s' : Store) : Prop :=
  own user s = own user s' ∧ ∀ customer ∈ own user s,
    s.orders.filter (·.customerId = customer.id) = s'.orders.filter (·.customerId = customer.id)

def NonInterfering (env : Surroundings) (request : Request) : Prop :=
  ∀ s s', Agree request.user s s' → get env s request = get env s' request

def Overrides (env : Surroundings) (request : Request) (customerId : String) : Prop :=
  request.user.username ≠ "" ∧ request.user.lmsUserId.getD 0 ≠ 0 ∧ env.flagIsActive request = true ∧
    request.get "customer_id" = some customerId ∧ customerId ≠ ""

def Selects (env : Surroundings) (customerId : String) (order : Order) : Prop :=
  ∃ meanings, (orderClauses env customerId perSystemReqCutoffInDays).mapM env.meaning = some meanings ∧
    meanings.all (· order) = true

def Visible (env : Surroundings) (user : User) (customerId : String) (order : Order) : Prop :=
  match env.convert order ⟨customerId,user.email,none,some user.username⟩ with
  | .ok _ => cutoff env perSystemReqCutoffInDays ≤ order.lastModifiedAt
  | .error e => continues e = false

def Exposes (env : Surroundings) (request : Request) (order : Order) : Prop :=
  ∃ customerId, Overrides env request customerId ∧ Selects env customerId order ∧
    Visible env request.user customerId order

def learnerParams (request : Request) : Params :=
  ⟨request.get "customer_id",some request.user.username,some request.user.email,request.user.lmsUserId,0,
    perSystemReqLimit,perSystemReqCutoffInDays⟩

theorem learner_parameters (learner : request.user.isStaff = false) : parameters env request = learnerParams request := by
  simp [parameters,learner,learnerParams]

def legacyPages (env : Surroundings) (request : Request) : List (List LegacyOrder) :=
  getEcommerceOrders env (learnerParams request) []

theorem get_page (learner : request.user.isStaff = false) (page : Except Exn (List LegacyOrder))
    (asked : env.flagIsActive request = true → commercetoolsPage env s (learnerParams request) = page)
    (asked' : env.flagIsActive request = true → commercetoolsPage env s' (learnerParams request) = page) :
    get env s request = get env s' request := by
  simp only [get,learner_parameters learner,orderHistoryRequested,getCommercetoolsOrders]
  by_cases flag : env.flagIsActive request = true
  · rw [asked flag,asked' flag]
  · simp only [flag,Bool.false_eq_true,if_false]

-- What Commercetools is relied on for: a clause with an id in quotes selects the
-- orders of the customer with that id.
def ReadsCustomerId (env : Surroundings) : Prop :=
  ∀ id, plain id = true → env.meaning (customerIdClause id) = some fun order => decide (order.customerId = id)

theorem query_same {first : Order → Bool} {clause : String} {clauses : List String} (read : env.meaning clause = some first)
    (orders : s.orders.filter first = s'.orders.filter first) (limit offset : Nat) :
    queryOrders env s (clause::clauses) limit offset = queryOrders env s' (clause::clauses) limit offset := by
  unfold queryOrders
  rw [List.mapM_cons,read]
  cases clauses.mapM env.meaning with
  | none => rfl
  | some meanings =>
    have selected : ∀ s : Store, s.orders.filter (fun order => (first::meanings).all (· order)) =
        (s.orders.filter first).filter fun order => meanings.all (· order) := by
      intro s
      rw [List.filter_filter]
      exact List.filter_congr fun order _ => by rw [List.all_cons,Bool.and_comm]
    change Except.ok _ = Except.ok _
    rw [selected,selected,orders]

theorem own_page (reads : ReadsCustomerId env) (agree : Agree request.user s s')
    (lms : request.user.lmsUserId.getD 0 ≠ 0) (unasked : (request.get "customer_id").getD "" = "") :
    commercetoolsPage env s (learnerParams request) = commercetoolsPage env s' (learnerParams request) := by
  have looked : ∀ s, getCustomerByLmsUser s request.user.lmsUserId (some request.user.username) =
      match own request.user s with
      | [] => .ok none
      | [customer] => .ok (some customer)
      | _ => .error .valueError := by
    intro s
    simp only [getCustomerByLmsUser,if_pos lms]
    rfl
  simp only [commercetoolsPage,getOrdersForCustomer,customerOf,learnerParams,unasked,if_true,looked,← agree.1]
  cases found : own request.user s with
  | nil => rfl
  | cons customer rest =>
    cases rest with
    | cons other others => rfl
    | nil =>
      have mine : customer ∈ own request.user s := by rw [found]; exact List.mem_singleton.mpr rfl
      have plainId := s.ids customer (List.mem_filter.mp mine).1
      have same : getOrders env s customer.id (0*perSystemReqLimit) perSystemReqLimit perSystemReqCutoffInDays =
          getOrders env s' customer.id (0*perSystemReqLimit) perSystemReqLimit perSystemReqCutoffInDays :=
        query_same (reads customer.id plainId) (agree.2 customer mine) ..
      simp only [bind,Except.bind]
      rw [same]

theorem override_page {customerId : String} (given : request.get "customer_id" = some customerId) (nonempty : customerId ≠ "") :
    commercetoolsPage env s (learnerParams request) =
      (getOrders env s customerId (0*perSystemReqLimit) perSystemReqLimit perSystemReqCutoffInDays).bind fun orders =>
        orders.mapM (orderFromCommercetools env ⟨customerId,request.user.email,none,some request.user.username⟩) := by
  simp only [commercetoolsPage,getOrdersForCustomer,customerOf,learnerParams,given,Option.getD_some,if_neg nonempty,bind,
    Except.bind]
  cases getOrders env s customerId (0*perSystemReqLimit) perSystemReqLimit perSystemReqCutoffInDays <;> rfl

theorem hidden_page {customerId : String} (overrides : Overrides env request customerId)
    (hidden : ∀ order, ¬ Exposes env request order) :
    (∃ e, continues e = true ∧ commercetoolsPage env s (learnerParams request) = .error e) ∨
    ∃ page, commercetoolsPage env s (learnerParams request) = .ok page ∧
      ∀ placed ∈ page, ¬ cutoff env perSystemReqCutoffInDays ≤ placed.datePlaced := by
  rw [override_page overrides.2.2.2.1 overrides.2.2.2.2]
  cases queried : getOrders env s customerId (0*perSystemReqLimit) perSystemReqLimit perSystemReqCutoffInDays with
  | error e => exact .inl ⟨e,query_failed queried,rfl⟩
  | ok orders =>
    have invisible : ∀ order ∈ orders, ¬ Visible env request.user customerId order := fun order member visible =>
      hidden order ⟨customerId,overrides,query_member queried member,visible⟩
    rcases converted_cases orders with ⟨e,order,member,failed,mapped⟩ | ⟨page,mapped,members⟩
    · refine .inl ⟨e,?_,mapped⟩
      have unseen := invisible order member
      simpa only [Visible,failed,Bool.not_eq_false] using unseen
    · refine .inr ⟨page,mapped,?_⟩
      intro placed member
      obtain ⟨order,among,rest,converted,rfl⟩ := members placed member
      have unseen := invisible order among
      simpa only [Visible,converted] using unseen

theorem hidden_get {customerId : String} (learner : request.user.isStaff = false) (overrides : Overrides env request customerId)
    (hidden : ∀ order, ¬ Exposes env request order) : get env s request =
      .ok ((request.get "page_size").getD (toString perSystemReqLimit))
        (recent env perSystemReqCutoffInDays (legacyPages env request).flatten) := by
  have named := overrides.1
  have lms := overrides.2.1
  have flag := overrides.2.2.1
  simp only [get,learner_parameters learner,if_neg named,if_neg lms,orderHistoryRequested,getCommercetoolsOrders,if_pos flag]
  rcases hidden_page (s := s) overrides hidden with ⟨e,caught,failed⟩ | ⟨page,answered,stale⟩
  · rw [failed]
    simp only [caught,if_true]
    rfl
  · rw [answered]
    have joined : (getEcommerceOrders env (learnerParams request) [] ++ [page]).flatten =
        (legacyPages env request).flatten ++ page := by simp [legacyPages]
    simp only [joined]
    exact congrArg _ (recent_stale stale)

theorem unexposed_non_interfering (reads : ReadsCustomerId env) (learner : request.user.isStaff = false)
    (hidden : ∀ order, ¬ Exposes env request order) : NonInterfering env request := by
  intro s s' agree
  by_cases named : request.user.username = ""
  · simp only [get,if_pos named]
  by_cases lms : request.user.lmsUserId.getD 0 = 0
  · simp only [get,if_neg named,if_pos lms]
  by_cases flag : env.flagIsActive request = true
  · by_cases unasked : (request.get "customer_id").getD "" = ""
    · refine get_page learner _ (fun _ => rfl) fun _ => ?_
      exact (own_page reads agree lms unasked).symm
    · obtain ⟨customerId,given⟩ : ∃ customerId, request.get "customer_id" = some customerId := by
        cases given : request.get "customer_id" with
        | none => simp [given] at unasked
        | some customerId => exact ⟨customerId,rfl⟩
      have overrides : Overrides env request customerId := ⟨named,lms,flag,given,by simpa [given] using unasked⟩
      rw [hidden_get learner overrides hidden,hidden_get learner overrides hidden]
  · exact get_page learner (.ok []) (fun active => absurd active flag) fun active => absurd active flag

def otherId (order : Order) : String := if order.customerId = "a" then "b" else "a"

theorem other_plain (order : Order) : plain (otherId order) = true := by
  unfold otherId
  split <;> decide

theorem other_apart (order : Order) : order.customerId ≠ otherId order := by
  unfold otherId
  split
  · rename_i same
    rw [same]
    decide
  · assumption

def storeWith (user : User) (order : Order) (orders : List Order) : Store where
  customers := [⟨otherId order,user.email,user.lmsUserId.map toString,some user.username⟩]
  orders := orders
  ids := by
    intro customer member
    cases List.mem_singleton.mp member
    exact other_plain order

theorem stores_agree (user : User) (order : Order) : Agree user (storeWith user order []) (storeWith user order [order]) := by
  refine ⟨rfl,?_⟩
  intro customer member
  cases List.mem_singleton.mp (List.mem_filter.mp member).1
  simp [storeWith,other_apart order]

theorem selected_page {customerId : String} {order : Order} {orders : List Order} (overrides : Overrides env request customerId)
    (selects : Selects env customerId order) (listed : orders = [] ∨ orders = [order]) :
    commercetoolsPage env (storeWith request.user order orders) (learnerParams request) =
      orders.mapM (orderFromCommercetools env ⟨customerId,request.user.email,none,some request.user.username⟩) := by
  obtain ⟨meanings,read,selected⟩ := selects
  rw [override_page overrides.2.2.2.1 overrides.2.2.2.2]
  have queried : getOrders env (storeWith request.user order orders) customerId (0*perSystemReqLimit) perSystemReqLimit
      perSystemReqCutoffInDays = .ok orders := by
    simp only [getOrders,queryOrders,read]
    rcases listed with rfl | rfl <;> simp [storeWith,selected,perSystemReqLimit]
  rw [queried]
  rfl

theorem exposed_interfering (learner : request.user.isStaff = false) (exposed : Exposes env request order) :
    ¬ NonInterfering env request := by
  obtain ⟨customerId,overrides,selects,visible⟩ := exposed
  intro same
  have equal := same _ _ (stores_agree request.user order)
  simp only [get,learner_parameters learner,if_neg overrides.1,if_neg overrides.2.1,orderHistoryRequested,
    getCommercetoolsOrders,if_pos overrides.2.2.1,selected_page overrides selects (.inl rfl),
    selected_page overrides selects (.inr rfl)] at equal
  have empty : [].mapM (orderFromCommercetools env ⟨customerId,request.user.email,none,some request.user.username⟩) =
      (.ok [] : Except Exn (List LegacyOrder)) := rfl
  unfold Visible at visible
  cases converted : env.convert order ⟨customerId,request.user.email,none,some request.user.username⟩ with
  | error e =>
    have failed : [order].mapM (orderFromCommercetools env ⟨customerId,request.user.email,none,some request.user.username⟩) =
        .error e := by
      simp [orderFromCommercetools,converted,bind,Except.bind]
    have uncaught : continues e = false := by simpa only [converted] using visible
    simp only [empty,failed,uncaught,Bool.false_eq_true,if_false] at equal
    cases equal
  | ok rest =>
    have shown : [order].mapM (orderFromCommercetools env ⟨customerId,request.user.email,none,some request.user.username⟩) =
        .ok [⟨order.lastModifiedAt,rest⟩] := by
      simp [orderFromCommercetools,converted,bind,Except.bind,pure,Except.pure]
    have recently : cutoff env perSystemReqCutoffInDays ≤ order.lastModifiedAt := by simpa only [converted] using visible
    simp only [empty,shown,Response.ok.injEq,true_and] at equal
    have lengths := congrArg List.length equal
    change (recent env (179+1) _).length = (recent env (179+1) _).length at lengths
    rw [recent_length,recent_length] at lengths
    have bound : cutoff env (179+1) ≤ order.lastModifiedAt := recently
    simp [bound] at lengths

theorem non_interfering_iff (env : Surroundings) (reads : ReadsCustomerId env) (request : Request)
    (learner : request.user.isStaff = false) : NonInterfering env request ↔ ∀ order, ¬ Exposes env request order :=
  ⟨fun holds _ exposed => exposed_interfering learner exposed holds,unexposed_non_interfering reads learner⟩

end NonInterference

def quoted (field clause : String) : Option String :=
  let value := clause.toList.drop field.length
  if field.toList <+: clause.toList ∧ value.getLast? = some '"' ∧ plain (String.ofList value.dropLast) = true then
    some (String.ofList value.dropLast)
  else none

def readClause (clause : String) : Option (Order → Bool) :=
  match quoted "customerId=\"" clause with
  | some customerId => some fun order => order.customerId = customerId
  | none =>
    match quoted "orderState=\"" clause with
    | some orderState => some fun order => order.orderState = orderState
    | none => (quoted "createdAt > \"" clause).map fun date order => date ≤ isoDate (order.createdAt/86400)

theorem quoted_value (field value : String) (unquoted : plain value = true) :
    quoted field (field++value++"\"") = some value := by
  have begins : field.toList <+: (field++value++"\"").toList := by
    simp [String.toList_append]
  have rest : (field++value++"\"").toList.drop field.length = value.toList++['"'] := by
    simp [String.toList_append,← String.length_toList]
  simp only [quoted,rest,begins,List.getLast?_concat,List.dropLast_concat,String.ofList_toList,unquoted,true_and,if_true]

def eve : User := ⟨"eve","eve@example.org",some 7,false⟩

def shop : Surroundings where
  flagIsActive := fun _ => true
  learners := fun _ => none
  ecommerceOrders := fun _ => .ok []
  meaning := readClause
  convert := fun order _ => .ok order.rest
  now := 1735689600

def shopWith (orders : List Order) : Store where
  customers := [⟨"eve-customer","eve@example.org",some "7",some "eve"⟩,⟨"bob-customer","bob@example.org",some "8",some "bob"⟩]
  orders := orders
  ids := by decide

theorem shop_reads : ReadsCustomerId shop := by
  intro id unquoted
  change readClause (customerIdClause id) = _
  rw [readClause,customerIdClause,quoted_value _ _ unquoted]

theorem learner_not_interfered : NonInterfering shop ⟨eve,[("username","bob"),("page_size","5")]⟩ := by
  refine (non_interfering_iff shop shop_reads _ rfl).mpr ?_
  intro order both
  obtain ⟨customerId,⟨_,_,_,never,_⟩,_⟩ := both
  cases never

def bobsOrder : Order := ⟨"order","bob-customer","Complete",1735600000,1735600000,1735600000,"course of bob"⟩

theorem customer_id_interferes : ¬ NonInterfering shop ⟨eve,[("customer_id","bob-customer")]⟩ := by
  intro holds
  have agree : Agree eve (shopWith []) (shopWith [bobsOrder]) := by
    refine ⟨rfl,?_⟩
    decide
  have equal := holds _ _ agree
  revert equal
  decide +kernel

end OrderHistory
