import CommerceCoordinator.Execution
import CommerceCoordinator.Keyed
import CommerceCoordinator.MobileCreateOrder
import CommerceCoordinator.OrderReturn

open Commercetools CallTree MobileCreateOrder

-- The Commercetools customers of LMS users: looked up, created, brought up to date
-- and, when the user is retired, anonymized.
namespace CustomerAccounts

def lmsUserIdField : String := "edx-lms_user_id"
def lmsUserNameField : String := "edx-lms_user_name"

-- `custom` are the custom fields of a customer that has the custom type.
structure Customer where
  id : String
  version : Nat
  email : String
  firstName : Option String
  lastName : Option String
  custom : Option (Dict String)
  deriving DecidableEq

instance : Versioned.HasVersion Customer := ⟨Customer.version⟩

def Customer.field (customer : Customer) (name : String) : Option String := customer.custom.bind (·.get name)

structure CustomerDraft where
  email : String
  firstName : String
  lastName : String
  isEmailVerified : Bool
  fields : Dict String
  deriving DecidableEq

inductive CustomerUpdateAction where
  | setFirstName (firstName : String)
  | setLastName (lastName : String)
  | changeEmail (email : String)
  | setCustomField (name value : String)
  deriving DecidableEq

inductive Request where
  | queryCustomers (field value : String) (limit : Nat)
  | updateCustomerById (id : String) (version : Nat) (actions : List CustomerUpdateAction)
  | createCustomer (draft : CustomerDraft)

abbrev Result : Request → Type
  | .queryCustomers _ _ _ => List Customer
  | .updateCustomerById _ _ _ => Customer
  | .createCustomer _ => Customer

abbrev Response (r : Request) := Except ErrorCode (Result r)

abbrev Call := Prog Request Response Exn

def ask (r : Request) : Call (Result r) := .expect .commercetoolsError (.perform r)

def conditionalRetry (enableRetries : Bool) (p : Call α) : Call α :=
  if enableRetries then p.retry OrderNumber.isCommercetoolsError 2 else p

def onlyOne : List Customer → Call (Option Customer)
  | [] => .pure none
  | [customer] => .pure (some customer)
  | _ => .raise .valueError

def queryOne (field value : String) : Call (Option Customer) := (ask (.queryCustomers field value 2)).bind onlyOne

def getCustomerByLmsUser (enableRetries : Bool) (lmsUserId : Option Int) (lmsUsername : Option String) :
    Call (Option Customer) := conditionalRetry enableRetries
  (if lmsUserId.getD 0 ≠ 0 then queryOne lmsUserIdField (toString (lmsUserId.getD 0))
  else if lmsUsername.getD "" ≠ "" then queryOne lmsUserNameField (lmsUsername.getD "")
  else .raise .valueError)

def getCustomerByLmsUserId (enableRetries : Bool) (lmsUserId : Option Int) : Call (Option Customer) :=
  getCustomerByLmsUser enableRetries lmsUserId none

def createCustomer (enableRetries : Bool) (email firstName lastName lmsUserId lmsUsername : String) : Call Customer :=
  conditionalRetry enableRetries (ask (.createCustomer
    ⟨email,firstName,lastName,true,[(lmsUserIdField,lmsUserId),(lmsUserNameField,lmsUsername)]⟩))

def updateCustomer (enableRetries : Bool) (customer : Customer) (updates : List CustomerUpdateAction) : Call Customer :=
  conditionalRetry enableRetries (ask (.updateCustomerById customer.id customer.version updates))

def getAttributesToUpdate (user : User) (customer : Customer) (firstName lastName : String) : List CustomerUpdateAction :=
  (if customer.field lmsUserNameField ≠ some user.username then [.setCustomField lmsUserNameField user.username] else []) ++
  (if customer.email ≠ user.email then [.changeEmail user.email] else []) ++
  (if customer.firstName ≠ some firstName then [.setFirstName firstName] else []) ++
  if customer.lastName ≠ some lastName then [.setLastName lastName] else []

-- With the client of the mobile views, which has enable_retries.
def getCtCustomer (user : User) : Call Customer := do
  let customer ← getCustomerByLmsUserId true (user.lmsUserId.map Int.ofNat)
  let (firstName,lastName) := splitName user
  match customer with
  | some customer =>
    let updates := getAttributesToUpdate user customer firstName lastName
    if updates ≠ [] then updateCustomer true customer updates else return customer
  | none => createCustomer true user.email firstName lastName ((user.lmsUserId.map toString).getD "None") user.username

-- The texts of retired fields: sha256 in hexadecimal, and Python's lower().
structure Hashing where
  hexdigest : String → String
  lower : String → String
  salts : List String

def createRetiredHashWithsalt (hashing : Hashing) (valueToRetire salt : String) : String :=
  hashing.hexdigest (salt++valueToRetire)

-- `none` has no lower().
def createRetiredFields (hashing : Hashing) (fieldValue : Option String) : Except Exn String :=
  match fieldValue with
  | none => .error .attributeError
  | some value => match hashing.salts.getLast? with
    | none => .error .indexError
    | some salt => .ok ("retired_user_"++createRetiredHashWithsalt hashing (hashing.lower value) salt)

structure AnonymizedFields where
  firstName : String
  lastName : String
  email : String
  lmsUsername : String
  deriving DecidableEq

def AnonymizedFields.actions (fields : AnonymizedFields) : List CustomerUpdateAction :=
  [.setFirstName fields.firstName,.setLastName fields.lastName,.changeEmail fields.email,
    .setCustomField lmsUserNameField fields.lmsUsername]

def retireCustomerAnonymizeFields (customerId : String) (customerVersion : Nat) (retired : AnonymizedFields) : Call Customer :=
  ask (.updateCustomerById customerId customerVersion retired.actions)

def anonymizedFields (hashing : Hashing) (customer : Customer) : Except Exn AnonymizedFields :=
  match customer.custom with
  | none => .error .attributeError
  | some fields => do
    let firstName ← createRetiredFields hashing customer.firstName
    let lastName ← createRetiredFields hashing customer.lastName
    let email ← createRetiredFields hashing (some customer.email)
    let lmsUsername ← createRetiredFields hashing (fields.get lmsUserNameField)
    return ⟨firstName,lastName,email,lmsUsername⟩

inductive ReturnedCustomer where
  | customerNotFound
  | customer (retired : Customer)
  deriving DecidableEq

def anonymize (hashing : Hashing) (customer : Customer) : Call Customer :=
  match anonymizedFields hashing customer with
  | .error e => .raise e
  | .ok fields => retireCustomerAnonymizeFields customer.id customer.version fields

def anonymizeFound (hashing : Hashing) : Option Customer → Call (Option ReturnedCustomer)
  | none => .pure (some .customerNotFound)
  | some customer => (anonymize hashing customer).bind fun retired => .pure (some (.customer retired))

-- AnonymizeRetiredUser.run_filter, with a client that does not retry; `none` is
-- PipelineCommand.CONTINUE.
def anonymizeRetiredUser (hashing : Hashing) (lmsUserId : Int) : Call (Option ReturnedCustomer) :=
  ((getCustomerByLmsUserId false (some lmsUserId)).bind (anonymizeFound hashing)).handle fun error =>
    if OrderNumber.isCommercetoolsError error then .pure none else .raise error

inductive HttpResponse where
  | noContent
  | badRequest (message : String)
  | serverError (message : String)
  deriving DecidableEq

def responseOf : Option ReturnedCustomer → HttpResponse
  | some _ => .noContent
  | none => .badRequest "Exception occurred while returning order"

-- RetirementView.post, of the `edx_lms_user_id` of a valid input.
def retire (hashing : Hashing) : Option Int → Call HttpResponse
  | none => .pure (.badRequest "Invalid input provided")
  | some lmsUserId => ((anonymizeRetiredUser hashing lmsUserId).bind fun returned => .pure (responseOf returned)).handle
    fun _ => .pure (.serverError "Exception occurred while retiring Commercetools customer")

structure Store where
  customers : List Customer
  ids : (customers.map (·.id)).Nodup
  emails : (customers.map (·.email)).Nodup

def Store.byId (s : Store) (id : String) : Option Customer := s.customers.find? (·.id = id)

def Store.add (s : Store) (customer : Customer)
    (fresh : customer.id ∉ s.customers.map (·.id) ∧ customer.email ∉ s.customers.map (·.email)) : Store where
  customers := s.customers++[customer]
  ids := by
    rw [List.map_append,List.nodup_append]
    exact ⟨s.ids,List.nodup_singleton _,fun a listed b here same => fresh.1 (by
      rw [List.map_singleton,List.mem_singleton] at here
      exact here ▸ same ▸ listed)⟩
  emails := by
    rw [List.map_append,List.nodup_append]
    exact ⟨s.emails,List.nodup_singleton _,fun a listed b here same => fresh.2 (by
      rw [List.map_singleton,List.mem_singleton] at here
      exact here ▸ same ▸ listed)⟩

def Free (s : Store) (customer : Customer) : Prop :=
  ∀ other ∈ s.customers, other.id ≠ customer.id → other.email ≠ customer.email

instance (s : Store) (customer : Customer) : Decidable (Free s customer) :=
  inferInstanceAs (Decidable (∀ other ∈ s.customers, _))

def Store.replace (s : Store) (customer : Customer) (free : Free s customer) : Store where
  customers := Keyed.replaced (·.id) customer s.customers
  ids := by
    rw [Keyed.replaced_keys]
    exact s.ids
  emails := by
    rw [Keyed.replaced,List.map_map,List.nodup_map_iff_inj_on s.ids.of_map]
    intro a first b second same
    by_cases here : a.id = customer.id
    · by_cases there : b.id = customer.id
      · exact List.inj_on_of_nodup_map s.ids first second (here.trans there.symm)
      · simp only [Function.comp_apply,if_pos here,if_neg there] at same
        exact absurd same.symm (free b second there)
    · by_cases there : b.id = customer.id
      · simp only [Function.comp_apply,if_neg here,if_pos there] at same
        exact absurd same (free a first here)
      · simp only [Function.comp_apply,if_neg here,if_neg there] at same
        exact List.inj_on_of_nodup_map s.emails first second same

def applyAction (customer : Customer) : CustomerUpdateAction → Customer
  | .setFirstName firstName => {customer with firstName := some firstName}
  | .setLastName lastName => {customer with lastName := some lastName}
  | .changeEmail email => {customer with email}
  | .setCustomField name value => {customer with custom := customer.custom.map (·.set name value)}

def applied (actions : List CustomerUpdateAction) (customer : Customer) : Customer :=
  {actions.foldl applyAction customer with id := customer.id, version := customer.version+1}

-- A call may be refused, or carried out and its answer lost; a new customer gets an
-- id that no other has.
inductive Delivery where
  | done | lost | refused
  deriving DecidableEq

structure Choice where
  delivery : Delivery
  id : String

def created (id : String) (draft : CustomerDraft) : Customer :=
  ⟨id,1,draft.email,some draft.firstName,some draft.lastName,some draft.fields⟩

def perform (id : String) : (r : Request) → Store → Response r × Store
  | .queryCustomers field value limit,s => (.ok ((s.customers.filter (·.field field = some value)).take limit),s)
  | .updateCustomerById id version actions,s =>
    match s.byId id with
    | none => (.error .resourceNotFound,s)
    | some customer =>
      if customer.version = version then
        if free : Free s (applied actions customer) then
          (.ok (applied actions customer),s.replace (applied actions customer) free)
        else (.error .duplicateField,s)
      else (.error .concurrentModification,s)
  | .createCustomer draft,s =>
    if fresh : (created id draft).id ∉ s.customers.map (·.id) ∧ (created id draft).email ∉ s.customers.map (·.email) then
      (.ok (created id draft),s.add (created id draft) fresh)
    else (.error .duplicateField,s)

def serve (choice : Choice) (r : Request) (s : Store) : Response r × Store :=
  match choice.delivery with
  | .done => perform choice.id r s
  | .lost => (.error .unavailable,(perform choice.id r s).2)
  | .refused => (.error .unavailable,s)

theorem Store.by_id (s : Store) {id : String} : s.byId id = some c ↔ c ∈ s.customers ∧ c.id = id := Keyed.found s.ids

theorem Store.updated_by_id (s : Store) {id : String} {actions : List CustomerUpdateAction} (found : s.byId id = some c)
    (free : Free s (applied actions c)) (id' : String) :
    (s.replace (applied actions c) free).byId id' = if id' = id then some (applied actions c) else s.byId id' := by
  obtain ⟨listed,rfl⟩ := s.by_id.mp found
  have known : (applied actions c).id ∈ s.customers.map (·.id) := List.mem_map.mpr ⟨c,listed,rfl⟩
  exact Keyed.replaced_found s.ids known id'

theorem Store.add_by_id (s : Store) (fresh : c.id ∉ s.customers.map (·.id) ∧ c.email ∉ s.customers.map (·.email))
    (id : String) : (s.add c fresh).byId id = if id = c.id then some c else s.byId id := Keyed.appended fresh.1 id

theorem serve_query (choice : Choice) (field value : String) (limit : Nat) (s : Store) :
    (∃ e, serve choice (.queryCustomers field value limit) s = (.error e,s)) ∨
      serve choice (.queryCustomers field value limit) s =
        (.ok ((s.customers.filter (·.field field = some value)).take limit),s) := by
  unfold serve
  cases choice.delivery with
  | done => exact .inr rfl
  | lost => exact .inl ⟨_,rfl⟩
  | refused => exact .inl ⟨_,rfl⟩

theorem serve_update (choice : Choice) (id : String) (version : Nat) (actions : List CustomerUpdateAction) (s : Store) :
    (∃ e, serve choice (.updateCustomerById id version actions) s = (.error e,s)) ∨
      ∃ c, ∃ free : Free s (applied actions c), s.byId id = some c ∧ c.version = version ∧
        ∃ out : Except ErrorCode Customer, serve choice (.updateCustomerById id version actions) s =
          (out,s.replace (applied actions c) free) ∧ (out = .ok (applied actions c) ∨ ∃ e, out = .error e) := by
  have performed : (∃ e, perform choice.id (.updateCustomerById id version actions) s = (.error e,s)) ∨
      ∃ c, ∃ free : Free s (applied actions c), s.byId id = some c ∧ c.version = version ∧
        perform choice.id (.updateCustomerById id version actions) s =
          (.ok (applied actions c),s.replace (applied actions c) free) := by
    simp only [perform]
    split
    · exact .inl ⟨_,rfl⟩
    · rename_i c found
      split
      · rename_i same
        split
        · rename_i free
          exact .inr ⟨c,free,found,same,rfl⟩
        · exact .inl ⟨_,rfl⟩
      · exact .inl ⟨_,rfl⟩
  unfold serve
  rcases performed with ⟨e,ran⟩ | ⟨c,free,found,same,ran⟩
  · rw [ran]
    cases choice.delivery with
    | done => exact .inl ⟨e,rfl⟩
    | lost => exact .inl ⟨_,rfl⟩
    | refused => exact .inl ⟨_,rfl⟩
  · rw [ran]
    cases choice.delivery with
    | done => exact .inr ⟨c,free,found,same,_,rfl,.inl rfl⟩
    | lost => exact .inr ⟨c,free,found,same,_,rfl,.inr ⟨_,rfl⟩⟩
    | refused => exact .inl ⟨_,rfl⟩

theorem serve_create (choice : Choice) (draft : CustomerDraft) (s : Store) :
    (∃ e, serve choice (.createCustomer draft) s = (.error e,s)) ∨
      ∃ fresh, ∃ out : Except ErrorCode Customer, serve choice (.createCustomer draft) s =
        (out,s.add (created choice.id draft) fresh) ∧ (out = .ok (created choice.id draft) ∨ ∃ e, out = .error e) := by
  by_cases fresh : (created choice.id draft).id ∉ s.customers.map (·.id) ∧
      (created choice.id draft).email ∉ s.customers.map (·.email)
  · have ran : perform choice.id (.createCustomer draft) s = (.ok (created choice.id draft),s.add (created choice.id draft) fresh) :=
      dif_pos fresh
    unfold serve
    rw [ran]
    cases choice.delivery with
    | done => exact .inr ⟨fresh,_,rfl,.inl rfl⟩
    | lost => exact .inr ⟨fresh,_,rfl,.inr ⟨_,rfl⟩⟩
    | refused => exact .inl ⟨_,rfl⟩
  · have ran : perform choice.id (.createCustomer draft) s = (.error .duplicateField,s) := dif_neg fresh
    unfold serve
    rw [ran]
    cases choice.delivery with
    | done => exact .inl ⟨_,rfl⟩
    | lost => exact .inl ⟨_,rfl⟩
    | refused => exact .inl ⟨_,rfl⟩

def Keeps (name : String) : CustomerUpdateAction → Prop
  | .setCustomField changed _ => changed ≠ name
  | _ => True

theorem applied_field {actions : List CustomerUpdateAction} (keeps : ∀ action ∈ actions, Keeps name action) (c : Customer) :
    (applied actions c).field name = c.field name := by
  have each : ∀ c : Customer, (actions.foldl applyAction c).field name = c.field name := by
    induction actions with
    | nil => exact fun _ => rfl
    | cons action rest ih =>
      intro c
      have ⟨here,later⟩ := List.forall_mem_cons.mp keeps
      rw [List.foldl_cons,ih later]
      cases action with
      | setFirstName firstName => rfl
      | setLastName lastName => rfl
      | changeEmail email => rfl
      | setCustomField changed value =>
        have other : name ≠ changed := Ne.symm here
        cases custom : c.custom <;> simp [Customer.field,applyAction,custom,Dict.set_get,other]
  exact each c

theorem applied_newer (actions : List CustomerUpdateAction) (c : Customer) : Versioned.Evolves c (applied actions c) :=
  .inr (Nat.lt_succ_self c.version)

theorem updates_keep (user : User) (k : Customer) (firstName lastName : String) :
    ∀ action ∈ getAttributesToUpdate user k firstName lastName, Keeps lmsUserIdField action := by
  intro action listed
  simp only [getAttributesToUpdate,List.mem_append] at listed
  rcases listed with ((listed | listed) | listed) | listed <;> split at listed <;> simp_all [Keeps]
  decide

-- The mobile purchases ask for the same customers, of whom they read these fields.
section MobilePurchases
variable {ι : Type}

def accountOf (customer : MobileStore.Customer) : Customer :=
  ⟨customer.id,customer.version,customer.email,some customer.firstName,some customer.lastName,
    some ((lmsUserIdField,customer.lmsUserId)::customer.lmsUserName.toList.map fun name => (lmsUserNameField,name))⟩

def mobileAction : CustomerUpdateAction → MobileStore.CustomerUpdateAction
  | .setFirstName firstName => .setFirstName firstName
  | .setLastName lastName => .setLastName lastName
  | .changeEmail email => .changeEmail email
  | .setCustomField _ value => .setLmsUserName value

def mobileDraft (draft : CustomerDraft) : MobileStore.CustomerDraft :=
  ⟨draft.email,draft.firstName,draft.lastName,draft.isEmailVerified,(draft.fields.get lmsUserIdField).getD "",
    (draft.fields.get lmsUserNameField).getD ""⟩

def mobileRequest : Request → MobileStore.Request ι
  | .queryCustomers _ value _ => .queryCustomers value
  | .updateCustomerById id version actions => .updateCustomerById id version (actions.map mobileAction)
  | .createCustomer draft => .createCustomer (mobileDraft draft)

def mobileAnswer : (r : Request) → MobileStore.Response (mobileRequest r : MobileStore.Request ι) → Response r
  | .queryCustomers _ _ _,found => found.map fun customers => customers.map accountOf
  | .updateCustomerById _ _ _,updated => updated.map accountOf
  | .createCustomer _,created => created.map accountOf

theorem account_lms_user_name (customer : MobileStore.Customer) :
    (accountOf customer).field lmsUserNameField = customer.lmsUserName := by
  have other : (lmsUserNameField == lmsUserIdField) = false := by decide
  cases name : customer.lmsUserName <;> simp [accountOf,Customer.field,Dict.get,List.lookup_cons,name,other]

theorem attributes_agree (user : User) (customer : MobileStore.Customer) (firstName lastName : String) :
    (getAttributesToUpdate user (accountOf customer) firstName lastName).map mobileAction =
      MobileCreateOrder.getAttributesToUpdate user customer firstName lastName := by
  have each (different : Prop) [Decidable different] (action : CustomerUpdateAction) :
      (if different then [action] else []).map mobileAction = if different then [mobileAction action] else [] := by
    split <;> rfl
  unfold getAttributesToUpdate MobileCreateOrder.getAttributesToUpdate
  rw [account_lms_user_name]
  rw [List.map_append,List.map_append,List.map_append,each,each,each,each]
  by_cases email : customer.email = user.email <;> simp [accountOf,mobileAction,email]

theorem query_agrees (value : String) :
    (queryOne lmsUserIdField value).embed mobileRequest mobileAnswer =
      ((.expect .commercetoolsError (.perform (MobileStore.Request.queryCustomers value)) :
        MobileCreateOrder.Call ι (List MobileStore.Customer)).bind fun
          | [] => .pure none
          | [customer] => .pure (some (accountOf customer))
          | _ => .raise .valueError) := by
  refine congrArg (Prog.call _) (funext fun found => ?_)
  rcases found with code | (_ | ⟨_,_ | ⟨_,_⟩⟩) <;> rfl

theorem customer_found_agrees (lmsUserId : Option Nat) :
    (getCustomerByLmsUserId true (lmsUserId.map Int.ofNat)).embed mobileRequest mobileAnswer =
      (MobileCreateOrder.getCustomerByLmsUserId lmsUserId : MobileCreateOrder.Call ι _).bind fun found =>
        .pure (found.map accountOf) := by
  rcases lmsUserId with _ | _ | n
  · rfl
  · rfl
  · have known : (Option.map Int.ofNat (some (n+1))).getD 0 ≠ 0 := by simp; omega
    have text : toString ((Option.map Int.ofNat (some (n+1))).getD 0) = toString (n+1) := rfl
    unfold getCustomerByLmsUserId getCustomerByLmsUser conditionalRetry MobileCreateOrder.getCustomerByLmsUserId
      MobileCreateOrder.conditionalRetry
    rw [if_pos rfl,if_pos known,text,Prog.embed_retry,query_agrees]
    refine Eq.trans ?_ (Prog.retry_map 2 _ _).symm
    congr 1
    refine congrArg (Prog.call _) (funext fun found => ?_)
    rcases found with code | (_ | ⟨_,_ | ⟨_,_⟩⟩) <;> rfl

theorem updated_agrees (customer : MobileStore.Customer) (updates : List CustomerUpdateAction) :
    (updateCustomer true (accountOf customer) updates).embed mobileRequest mobileAnswer =
      (MobileCreateOrder.updateCustomer customer (updates.map mobileAction) : MobileCreateOrder.Call ι _).bind fun updated =>
        .pure (accountOf updated) := by
  unfold updateCustomer MobileCreateOrder.updateCustomer conditionalRetry MobileCreateOrder.conditionalRetry
  rw [if_pos rfl,Prog.embed_retry,Prog.retry_map]
  congr 1
  refine congrArg (Prog.call _) (funext fun answer => ?_)
  cases answer <;> rfl

theorem created_agrees (email firstName lastName lmsUserId lmsUserName : String) :
    (createCustomer true email firstName lastName lmsUserId lmsUserName).embed mobileRequest mobileAnswer =
      (MobileCreateOrder.createCustomer email firstName lastName lmsUserId lmsUserName :
        MobileCreateOrder.Call ι _).bind fun created => .pure (accountOf created) := by
  unfold createCustomer MobileCreateOrder.createCustomer conditionalRetry MobileCreateOrder.conditionalRetry
  rw [if_pos rfl,Prog.embed_retry,Prog.retry_map]
  congr 1
  refine congrArg (Prog.call _) (funext fun answer => ?_)
  cases answer <;> rfl

theorem purchases_agree (user : User) :
    (getCtCustomer user).embed mobileRequest mobileAnswer =
      (MobileCreateOrder.getCtCustomer user : MobileCreateOrder.Call ι _).bind fun customer =>
        .pure (accountOf customer) := by
  unfold getCtCustomer MobileCreateOrder.getCtCustomer
  simp only [Prog.monad_bind,Prog.monad_pure]
  rw [Prog.embed_bind]
  rcases known : user.lmsUserId with _ | n
  · rfl
  · rw [← known,customer_found_agrees,Prog.bind_assoc,Prog.bind_assoc]
    congr 1
    funext found
    rcases found with _ | customer
    · rw [known]
      exact created_agrees _ _ _ _ _
    · simp only [Option.map_some,Prog.pure_bind,← attributes_agree]
      have unchanged (updates : List CustomerUpdateAction) : updates.map mobileAction ≠ [] ↔ updates ≠ [] := by simp
      simp only [unchanged]
      split
      · exact updated_agrees customer _
      · rfl

end MobilePurchases

end CustomerAccounts
