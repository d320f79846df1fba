import CommerceCoordinator.CustomerAccounts
import CommerceCoordinator.Versioned

open Commercetools CallTree MobileCreateOrder Versioned

-- Retirements among purchases: what is anonymized stays so.
namespace CustomerAccounts

inductive Job where
  | purchase (user : User)
  | retirement (edxLmsUserId : Option Int)

inductive Outcome where
  | customer (customer : Customer)
  | response (response : HttpResponse)
  deriving DecidableEq

def Job.run (hashing : Hashing) : Job → Call Outcome
  | .purchase user => (getCtCustomer user).bind fun customer => .pure (.customer customer)
  | .retirement edxLmsUserId => (retire hashing edxLmsUserId).bind fun response => .pure (.response response)

def commercetools : System Request Response Exn Store Choice Empty where
  serve := serve
  environment := fun never => never.elim
  restarts := fun _ => false

structure Anonymized (hashing : Hashing) (c : Customer) : Prop where
  email : ∃ text, c.email = "retired_user_"++hashing.hexdigest text
  firstName : ∃ text, c.firstName = some ("retired_user_"++hashing.hexdigest text)
  lastName : ∃ text, c.lastName = some ("retired_user_"++hashing.hexdigest text)
  lmsUserName : ∃ text, c.field lmsUserNameField = some ("retired_user_"++hashing.hexdigest text)

section Retirement
variable {hashing : Hashing} {x : String}

structure Follows (hashing : Hashing) (c later : Customer) : Prop where
  evolves : Evolves c later
  lmsUserId : later.field lmsUserIdField = c.field lmsUserIdField
  anonymized : Anonymized hashing c → Anonymized hashing later

theorem Follows.refl (c : Customer) : Follows hashing c c := ⟨.refl c,rfl,id⟩
theorem Follows.trans (ab : Follows hashing a b) (bc : Follows hashing b c) : Follows hashing a c :=
  ⟨ab.evolves.trans bc.evolves,bc.lmsUserId.trans ab.lmsUserId,bc.anonymized ∘ ab.anonymized⟩

def Along (hashing : Hashing) (x : String) (s t : Store) : Prop :=
  ∀ c, s.byId x = some c → ∃ later, t.byId x = some later ∧ Follows hashing c later

theorem Along.refl (s : Store) : Along hashing x s s := fun c found => ⟨c,found,.refl c⟩
theorem Along.trans (first : Along hashing x s t) (next : Along hashing x t u) : Along hashing x s u := by
  intro c found
  obtain ⟨d,found,follows⟩ := first c found
  obtain ⟨e,found,follows'⟩ := next d found
  exact ⟨e,found,follows.trans follows'⟩

def Reads (pending : Customer → Prop) (x : String) (s : Store) : Request → Prop
  | .queryCustomers field value _ => ∀ c, s.byId x = some c → c.field field = some value → pending c
  | _ => True

def Found (pending : Customer → Prop) (x value : String) : Except Exn (Option Customer) → Store → Prop
  | .ok (some k),s => ∃ c, s.byId x = some c ∧ (c.field lmsUserIdField = some value → k.id = x) ∧
      (k.id = x → Evolves k c ∧ pending k)
  | .ok none,s => ∃ c, s.byId x = some c ∧ c.field lmsUserIdField ≠ some value
  | .error _,s => ∃ c, s.byId x = some c

theorem Found.later (out : Except Exn (Option Customer)) (found : Found pending x value out s) (along : Along hashing x s t) : Found pending x value out t := by
  rcases out with e | _ | k
  · obtain ⟨c,known⟩ := found
    obtain ⟨d,known,_⟩ := along c known
    exact ⟨d,known⟩
  · obtain ⟨c,known,other⟩ := found
    obtain ⟨d,known,follows⟩ := along c known
    exact ⟨d,known,follows.lmsUserId ▸ other⟩
  · obtain ⟨c,known,whose,copy⟩ := found
    obtain ⟨d,known,follows⟩ := along c known
    exact ⟨d,known,follows.lmsUserId ▸ whose,fun same => ⟨(copy same).1.trans follows.evolves,(copy same).2⟩⟩

section Run
variable {ι : Type} [DecidableEq ι]

abbrev Accounts (ι : Type) := Config Request Response Exn Outcome Store ι

end Run

end Retirement

section Alone
variable {hashing : Hashing}

def refusal (e : Exn) : HttpResponse :=
  if OrderNumber.isCommercetoolsError e then .badRequest "Exception occurred while returning order"
  else .serverError "Exception occurred while retiring Commercetools customer"

def respond (returned : Except Exn ReturnedCustomer) : Call HttpResponse :=
  .pure (match returned with
    | .ok _ => .noContent
    | .error e => refusal e)

theorem respond_raise (e : Exn) :
    ((((.raise e : Call (Option ReturnedCustomer)).handle fun error =>
      if OrderNumber.isCommercetoolsError error then .pure none else .raise error).bind fun returned =>
        .pure (responseOf returned)).handle fun _ =>
          .pure (.serverError "Exception occurred while retiring Commercetools customer")) = respond (.error e) := by
  unfold respond refusal
  by_cases listed : OrderNumber.isCommercetoolsError e <;> simp [listed,responseOf]

def retireFound (hashing : Hashing) : List Customer → Call HttpResponse
  | [] => respond (.ok .customerNotFound)
  | [k] => match anonymizedFields hashing k with
    | .error e => respond (.error e)
    | .ok fields => .call (.updateCustomerById k.id k.version fields.actions) fun
      | .ok retired => respond (.ok (.customer retired))
      | .error code => respond (.error (.commercetoolsError code))
  | _ => respond (.error .valueError)

theorem retire_calls {lmsUserId : Int} (nonzero : lmsUserId ≠ 0) :
    retire hashing (some lmsUserId) = .call (.queryCustomers lmsUserIdField (toString lmsUserId) 2) fun
      | .ok customers => retireFound hashing customers
      | .error code => respond (.error (.commercetoolsError code)) := by
  have asked : getCustomerByLmsUserId false (some lmsUserId) = queryOne lmsUserIdField (toString lmsUserId) := by
    unfold getCustomerByLmsUserId getCustomerByLmsUser conditionalRetry
    rw [if_neg Bool.false_ne_true,Option.getD_some,if_pos nonzero]
  simp only [retire,anonymizeRetiredUser,asked]
  refine congrArg (Prog.call _) (funext fun answer => ?_)
  rcases answer with code | _ | ⟨k,_ | ⟨k',rest⟩⟩
  · exact respond_raise _
  · rfl
  · show ((((anonymize hashing k).bind fun retired => .pure (some (ReturnedCustomer.customer retired))).handle _).bind _).handle _ = _
    unfold anonymize
    dsimp only [retireFound]
    cases anonymizedFields hashing k with
    | error e => exact respond_raise e
    | ok fields =>
      refine congrArg (Prog.call _) (funext fun answer => ?_)
      rcases answer with code | retired
      · exact respond_raise _
      · rfl
  · exact respond_raise _

def Replaced (hashing : Hashing) (lmsUserId : Int) (s t : Store) : Prop :=
  ∃ k fields, ∃ free : Free s (applied fields.actions k), anonymizedFields hashing k = .ok fields ∧
    s.customers.filter (·.field lmsUserIdField = some (toString lmsUserId)) = [k] ∧ t = s.replace (applied fields.actions k) free

theorem respond_ends {s t : Store} {lmsUserId : Int} (returned : Except Exn ReturnedCustomer)
    (whole : t = s ∨ Replaced hashing lmsUserId s t)
    (done : ∀ a, returned = .ok a → Replaced hashing lmsUserId s t ∨
      t = s ∧ s.customers.filter (·.field lmsUserIdField = some (toString lmsUserId)) = []) :
    (respond returned).wp serve (fun _ _ _ => True) (fun out t => (t = s ∨ Replaced hashing lmsUserId s t) ∧
      (out = .ok .noContent → Replaced hashing lmsUserId s t ∨
        t = s ∧ s.customers.filter (·.field lmsUserIdField = some (toString lmsUserId)) = [])) t := by
  refine ⟨whole,fun same => ?_⟩
  cases returned with
  | ok a => exact done a rfl
  | error e =>
    have refused : refusal e = .noContent := Except.ok.inj same
    unfold refusal at refused
    split at refused <;> cases refused

theorem found_ends {s : Store} {lmsUserId : Int} (listed : List Customer)
    (same : s.customers.filter (·.field lmsUserIdField = some (toString lmsUserId)) = listed) :
    (retireFound hashing (listed.take 2)).wp serve (fun _ _ _ => True) (fun out t => (t = s ∨ Replaced hashing lmsUserId s t) ∧
      (out = .ok .noContent → Replaced hashing lmsUserId s t ∨
        t = s ∧ s.customers.filter (·.field lmsUserIdField = some (toString lmsUserId)) = [])) s := by
  rcases listed with _ | ⟨k,_ | ⟨k',rest⟩⟩
  · exact respond_ends (.ok .customerNotFound) (.inl rfl) fun _ _ => .inr ⟨rfl,same⟩
  · dsimp only [List.take,retireFound]
    split
    · exact respond_ends _ (.inl rfl) fun _ never => by cases never
    · rename_i fields ok
      intro choice _
      rcases serve_update choice k.id k.version fields.actions s with ⟨e,ran⟩ | ⟨c,free,current,_,out,ran,answer⟩
      · rw [ran]
        exact respond_ends _ (.inl rfl) fun _ never => by cases never
      · rw [ran]
        have member : k ∈ s.customers.filter (·.field lmsUserIdField = some (toString lmsUserId)) :=
          same ▸ List.mem_singleton_self k
        have known : s.byId k.id = some k := s.by_id.mpr ⟨(List.mem_filter.mp member).1,rfl⟩
        rw [current] at known
        cases known
        have replaced : Replaced hashing lmsUserId s (s.replace (applied fields.actions k) free) := ⟨k,fields,free,ok,same,rfl⟩
        rcases out with e | retired
        · exact respond_ends _ (.inr replaced) fun _ never => by cases never
        · exact respond_ends _ (.inr replaced) fun _ _ => .inl replaced
  · exact respond_ends (.error .valueError) (.inl rfl) fun _ never => by cases never

-- Whatever becomes of its calls, a retirement replaces all four fields of the user's
-- only customer or touches nothing; it answers 204 if it did, or there is none.
theorem retire_whole (hashing : Hashing) (edxLmsUserId : Option Int) (s : Store) :
    (retire hashing edxLmsUserId).wp serve (fun _ _ _ => True) (fun out t =>
      (t = s ∨ ∃ lmsUserId, edxLmsUserId = some lmsUserId ∧ Replaced hashing lmsUserId s t) ∧
      (out = .ok .noContent → ∃ lmsUserId, edxLmsUserId = some lmsUserId ∧ (Replaced hashing lmsUserId s t ∨
        t = s ∧ s.customers.filter (·.field lmsUserIdField = some (toString lmsUserId)) = []))) s := by
  cases edxLmsUserId with
  | none => exact ⟨.inl rfl,fun never => by cases never⟩
  | some lmsUserId =>
    by_cases zero : lmsUserId = 0
    · subst zero
      exact ⟨.inl rfl,fun never => by cases never⟩
    · have body : (retire hashing (some lmsUserId)).wp serve (fun _ _ _ => True) (fun out t =>
          (t = s ∨ Replaced hashing lmsUserId s t) ∧ (out = .ok .noContent → Replaced hashing lmsUserId s t ∨
            t = s ∧ s.customers.filter (·.field lmsUserIdField = some (toString lmsUserId)) = [])) s := by
        rw [retire_calls zero]
        intro choice _
        rcases serve_query choice lmsUserIdField (toString lmsUserId) 2 s with ⟨e,ran⟩ | ran
        · rw [ran]
          exact respond_ends _ (.inl rfl) fun _ never => by cases never
        · rw [ran]
          exact found_ends _ rfl
      refine Prog.wp_mono body fun out t ends => ⟨ends.1.imp_right fun replaced => ⟨_,rfl,replaced⟩,fun done => ?_⟩
      exact ⟨_,rfl,ends.2 done⟩

end Alone

def plain : Hashing := ⟨fun text => text,fun text => text,["abc","123"]⟩

def ada : Customer := ⟨"c1",3,"ada@example.org",some "Ada",some "Byron",some [(lmsUserIdField,"7"),(lmsUserNameField,"ada")]⟩

def answer (retires : Bool) : Event Bool Choice Empty := .act retires ⟨.done,""⟩

end CustomerAccounts
