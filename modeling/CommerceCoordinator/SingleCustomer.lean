import CommerceCoordinator.CustomerRetirement

open Commercetools CallTree MobileCreateOrder Versioned

-- Purchases of the same user at the same time: one customer comes of them.
namespace CustomerAccounts

def AtMostOne (value : String) (s : Store) : Prop :=
  ∀ a ∈ s.customers, ∀ b ∈ s.customers,
    a.field lmsUserIdField = some value → b.field lmsUserIdField = some value → a = b

def AllAt (value email : String) (s : Store) : Prop :=
  ∀ c ∈ s.customers, c.field lmsUserIdField = some value → c.email = email

section Users
variable {value email : String}

structure Keeping (value email : String) (s t : Store) : Prop where
  stays : ∀ id c, s.byId id = some c → ∃ d, t.byId id = some d ∧ Evolves c d ∧ d.field lmsUserIdField = c.field lmsUserIdField
  single : AtMostOne value s → AtMostOne value t
  at_email : AllAt value email s → AllAt value email t

theorem Keeping.refl (s : Store) : Keeping value email s s := ⟨fun _ c found => ⟨c,found,.refl c,rfl⟩,id,id⟩

theorem Keeping.trans (first : Keeping value email s t) (later : Keeping value email t u) : Keeping value email s u := by
  refine ⟨fun id c found => ?_,later.single ∘ first.single,later.at_email ∘ first.at_email⟩
  obtain ⟨d,there,evolves,field⟩ := first.stays id c found
  obtain ⟨d',there',evolves',field'⟩ := later.stays id d there
  exact ⟨d',there',evolves.trans evolves',field'.trans field⟩

theorem updated_mem {s : Store} {id : String} {actions : List CustomerUpdateAction} {free : Free s (applied actions c)}
    (found : s.byId id = some c) (listed : d ∈ (s.replace (applied actions c) free).customers) :
    d = applied actions c ∨ d ∈ s.customers ∧ d.id ≠ c.id := by
  have known : (applied actions c).id ∈ s.customers.map (·.id) := List.mem_map.mpr ⟨c,(s.by_id.mp found).1,rfl⟩
  exact (Keyed.replaced_mem known).mp listed

theorem update_keeping {s : Store} {id : String} {actions : List CustomerUpdateAction} {free : Free s (applied actions c)}
    (found : s.byId id = some c) (keeps : ∀ action ∈ actions, Keeps lmsUserIdField action)
    (own : c.field lmsUserIdField = some value → (applied actions c).email = email ∨ (applied actions c).email = c.email) :
    Keeping value email s (s.replace (applied actions c) free) := by
  have ⟨there,same⟩ := s.by_id.mp found
  have field := applied_field keeps c
  refine ⟨fun id' d known => ?_,fun single => ?_,fun at_email => ?_⟩
  · rw [s.updated_by_id found]
    split
    · rename_i here
      rw [here,found] at known
      cases known
      exact ⟨_,rfl,applied_newer actions c,field⟩
    · exact ⟨d,known,.refl d,rfl⟩
  · intro a first b second whose whose'
    rcases updated_mem found first with rfl | ⟨first,apart⟩
    · rcases updated_mem found second with rfl | ⟨second,apart⟩
      · rfl
      · exact absurd (congrArg Customer.id (single b second c there whose' (field ▸ whose))) apart
    · rcases updated_mem found second with rfl | ⟨second,_⟩
      · exact absurd (congrArg Customer.id (single a first c there whose (field ▸ whose'))) apart
      · exact single a first b second whose whose'
  · intro d listed whose
    rcases updated_mem found listed with rfl | ⟨listed,_⟩
    · rw [field] at whose
      rcases own whose with set | kept
      · exact set
      · exact kept.trans (at_email c there whose)
    · exact at_email d listed whose

theorem add_keeping {s : Store} (fresh : c.id ∉ s.customers.map (·.id) ∧ c.email ∉ s.customers.map (·.email))
    (first : c.field lmsUserIdField = some value → c.email = email ∧ AllAt value email s) :
    Keeping value email s (s.add c fresh) := by
  have none_yet : c.field lmsUserIdField = some value → ∀ d ∈ s.customers, d.field lmsUserIdField ≠ some value := by
    intro whose d listed whose'
    have ⟨mine,all⟩ := first whose
    exact fresh.2 (List.mem_map.mpr ⟨d,listed,(all d listed whose').trans mine.symm⟩)
  have members : ∀ d, d ∈ (s.add c fresh).customers ↔ d ∈ s.customers ∨ d = c := by simp [Store.add]
  refine ⟨fun id d known => ?_,fun single => ?_,fun at_email => ?_⟩
  · rw [s.add_by_id fresh]
    split
    · rename_i here
      have ⟨listed,same⟩ := s.by_id.mp known
      exact absurd (List.mem_map.mpr ⟨d,listed,same.trans here⟩) fresh.1
    · exact ⟨d,known,.refl d,rfl⟩
  · intro a first' b second whose whose'
    rcases (members a).mp first' with old | rfl
    · rcases (members b).mp second with old' | rfl
      · exact single a old b old' whose whose'
      · exact absurd whose (none_yet whose' a old)
    · rcases (members b).mp second with old' | rfl
      · exact absurd whose' (none_yet whose b old')
      · rfl
  · intro d listed whose
    rcases (members d).mp listed with old | rfl
    · exact at_email d old whose
    · exact (first whose).1

def Looked (looked value email : String) : Except Exn (Option Customer) → Store → Prop
  | .ok (some k),s => AtMostOne value s ∧ k.field lmsUserIdField = some looked ∧ ∃ c, s.byId k.id = some c ∧ Evolves k c
  | .ok none,s => AtMostOne value s ∧ (looked = value → AllAt value email s)
  | .error e,s => AtMostOne value s ∧ (looked = value → e ≠ .valueError)

theorem Looked.later (out : Except Exn (Option Customer)) (found : Looked looked value email out s)
    (moved : Keeping value email s t) : Looked looked value email out t := by
  rcases out with e | _ | k
  · exact ⟨moved.single found.1,found.2⟩
  · exact ⟨moved.single found.1,fun same => moved.at_email (found.2 same)⟩
  · obtain ⟨single,field,c,known,copy⟩ := found
    obtain ⟨d,there,evolves,_⟩ := moved.stays k.id c known
    exact ⟨moved.single single,field,d,there,copy.trans evolves⟩

theorem query_keeping (looked : String) {s : Store} (single : AtMostOne value s) :
    Ensures commercetools (fun _ _ => True) (Keeping value email) (Keeping value email) (Looked looked value email)
      (queryOne lmsUserIdField looked) s := by
  intro t moved _ choice
  have single := moved.single single
  rcases serve_query choice lmsUserIdField looked 2 t with ⟨e,ran⟩ | ran
  · simp only [commercetools,ran]
    exact ⟨.refl t,fun u later => ⟨later.single single,fun _ never => by cases never⟩⟩
  · simp only [commercetools,ran]
    refine ⟨.refl t,?_⟩
    have each : ∀ listed, t.customers.filter (·.field lmsUserIdField = some looked) = listed → Ensures commercetools
        (fun _ _ => True) (Keeping value email) (Keeping value email) (Looked looked value email) (onlyOne (listed.take 2)) t := by
      intro listed same
      have among : ∀ k, k ∈ listed ↔ k ∈ t.customers ∧ k.field lmsUserIdField = some looked := by simp [← same]
      have distinct : listed.Nodup := same ▸ t.ids.of_map.filter _
      rcases listed with _ | ⟨a,_ | ⟨b,rest⟩⟩
      · have unknown : looked = value → AllAt value email t := by
          rintro rfl c listed whose
          cases (among c).mpr ⟨listed,whose⟩
        exact fun u later => ⟨later.single single,fun same => later.at_email (unknown same)⟩
      · obtain ⟨known,field⟩ := (among a).mp (List.mem_singleton_self a)
        have here : Looked looked value email (.ok (some a)) t := ⟨single,field,a,t.by_id.mpr ⟨known,rfl⟩,.refl a⟩
        exact fun u later => Looked.later _ here later
      · obtain ⟨first,whose⟩ := (among a).mp (by simp)
        obtain ⟨second,whose'⟩ := (among b).mp (by simp)
        have twice : looked = value → False := by
          rintro rfl
          have twin := single a first b second whose whose'
          exact (List.nodup_cons.mp distinct).1 (twin ▸ List.mem_cons_self)
        exact fun u later => ⟨later.single single,fun same => (twice same).elim⟩
    exact each _ rfl

def Single (looked value : String) (out : Except Exn Customer) (s : Store) : Prop :=
  AtMostOne value s ∧ (looked = value → out ≠ .error .valueError)

theorem answer_single {s : Store} (still : Store → Prop) (kept : ∀ t, Keeping value email s t → still t) (out : Except ErrorCode Customer)
    (single : AtMostOne value s) : Ensures commercetools (fun _ _ => True) (Keeping value email) (Keeping value email)
      (fun out t => still t ∧ Single looked value out t) (.expect .commercetoolsError (.pure out)) s := by
  cases out with
  | ok c => exact fun u later => ⟨kept u later,later.single single,fun _ never => by cases never⟩
  | error e => exact fun u later => ⟨kept u later,later.single single,fun _ never => by cases never⟩

theorem updates_email (user : User) (k c : Customer) (firstName lastName : String) :
    (applied (getAttributesToUpdate user k firstName lastName) c).email = user.email ∨
      (applied (getAttributesToUpdate user k firstName lastName) c).email = c.email := by
  have each : ∀ (actions : List CustomerUpdateAction) (c : Customer),
      (∀ action ∈ actions, ∀ email, action = .changeEmail email → email = user.email) →
        (actions.foldl applyAction c).email = user.email ∨ (actions.foldl applyAction c).email = c.email := by
    intro actions
    induction actions with
    | nil => exact fun c _ => .inr rfl
    | cons action rest ih =>
      intro c only
      have ⟨here,later⟩ := List.forall_mem_cons.mp only
      rcases ih (applyAction c action) later with set | kept
      · exact .inl set
      · rw [List.foldl_cons,kept]
        cases action with
        | changeEmail email => exact .inl (here email rfl)
        | setFirstName firstName => exact .inr rfl
        | setLastName lastName => exact .inr rfl
        | setCustomField name value => exact .inr rfl
  apply each
  intro action listed email same
  subst same
  simp only [getAttributesToUpdate,List.mem_append] at listed
  rcases listed with ((listed | listed) | listed) | listed <;> split at listed <;> simp_all

theorem update_single (user : User) {k : Customer} {s : Store} (firstName lastName : String)
    (found : ∀ t, Keeping value email s t → Looked looked value email (.ok (some k)) t) (own : looked = value → user.email = email) :
    Ensures commercetools (fun _ _ => True) (Keeping value email) (Keeping value email) (Single looked value)
      (updateCustomer true k (getAttributesToUpdate user k firstName lastName)) s := by
  have each : ∀ s, (∀ t, Keeping value email s t → Looked looked value email (.ok (some k)) t) →
      Ensures commercetools (fun _ _ => True) (Keeping value email) (Keeping value email)
        (fun out t => Looked looked value email (.ok (some k)) t ∧ Single looked value out t)
        (ask (.updateCustomerById k.id k.version (getAttributesToUpdate user k firstName lastName))) s := by
    intro s ready t moved _ choice
    have now := ready t moved
    have ⟨single,field,c,known,copy⟩ := now
    rcases serve_update choice k.id k.version (getAttributesToUpdate user k firstName lastName) t with
      ⟨e,ran⟩ | ⟨d,free,current,version,out,ran,_⟩
    · simp only [commercetools,ran]
      exact ⟨.refl t,answer_single _ (fun u => Looked.later _ now) _ single⟩
    · simp only [commercetools,ran]
      have same : d = k := by
        rw [current] at known
        cases known
        exact copy.current version
      have step : Keeping value email t (t.replace (applied (getAttributesToUpdate user k firstName lastName) d) free) := by
        refine update_keeping current (updates_keep user k firstName lastName) fun whose => ?_
        rw [same,field] at whose
        exact own (Option.some.inj whose) ▸ updates_email user k d firstName lastName
      exact ⟨step,answer_single _ (fun u later => Looked.later _ now (step.trans later)) _ (step.single single)⟩
  exact (Ensures.retry _ OrderNumber.isCommercetoolsError 2 each (fun e s post => post.1) found).mono fun out t post => post.2

theorem create_single (draft : CustomerDraft) {s : Store} (whose : draft.fields.get lmsUserIdField = some looked)
    (found : ∀ t, Keeping value email s t → Looked looked value email (.ok none) t) (own : looked = value → draft.email = email) :
    Ensures commercetools (fun _ _ => True) (Keeping value email) (Keeping value email) (Single looked value)
      (conditionalRetry true (ask (.createCustomer draft))) s := by
  have each : ∀ s, (∀ t, Keeping value email s t → Looked looked value email (.ok none) t) →
      Ensures commercetools (fun _ _ => True) (Keeping value email) (Keeping value email)
        (fun out t => Looked looked value email (.ok none) t ∧ Single looked value out t) (ask (.createCustomer draft)) s := by
    intro s ready t moved _ choice
    have now := ready t moved
    rcases serve_create choice draft t with ⟨e,ran⟩ | ⟨fresh,out,ran,_⟩
    · simp only [commercetools,ran]
      exact ⟨.refl t,answer_single _ (fun u => Looked.later _ now) _ now.1⟩
    · simp only [commercetools,ran]
      have step : Keeping value email t (t.add (created choice.id draft) fresh) := by
        refine add_keeping fresh fun theirs => ?_
        have same : looked = value := Option.some.inj (whose.symm.trans theirs)
        exact ⟨own same,now.2 same⟩
      exact ⟨step,answer_single _ (fun u later => Looked.later _ now (step.trans later)) _ (step.single now.1)⟩
  exact (Ensures.retry _ OrderNumber.isCommercetoolsError 2 each (fun e s post => post.1) found).mono fun out t post => post.2

theorem lookup_single (looked : String) {s : Store} (single : AtMostOne value s) :
    Ensures commercetools (fun _ _ => True) (Keeping value email) (Keeping value email) (Looked looked value email)
      (conditionalRetry true (queryOne lmsUserIdField looked)) s := by
  apply Ensures.retry (fun s => AtMostOne value s)
  · exact fun s ready => query_keeping looked (ready s (.refl s))
  · exact fun e s post => post.1
  · exact fun t moved => moved.single single

theorem unnumbered (user : User) (none_known : user.lmsUserId.getD 0 = 0) : getCtCustomer user = .raise .valueError := by
  have refused : getCustomerByLmsUserId true (user.lmsUserId.map Int.ofNat) = .raise .valueError := by
    have zero : (user.lmsUserId.map Int.ofNat).getD 0 = 0 := by
      cases known : user.lmsUserId with
      | none => rfl
      | some n =>
        rw [known] at none_known
        exact congrArg Int.ofNat none_known
    unfold getCustomerByLmsUserId getCustomerByLmsUser
    rw [zero]
    rfl
  unfold getCtCustomer
  rw [refused]
  rfl

theorem numbered (lmsUserId : Nat) : getCustomerByLmsUserId true ((some (lmsUserId+1)).map Int.ofNat) =
    conditionalRetry true (queryOne lmsUserIdField (toString (lmsUserId+1))) := by
  have positive : ((some (lmsUserId+1)).map Int.ofNat).getD 0 ≠ 0 := by
    exact Int.natCast_ne_zero.mpr (Nat.succ_ne_zero lmsUserId)
  unfold getCustomerByLmsUserId getCustomerByLmsUser
  rw [if_pos positive]
  rfl

def Purchased (user : User) (value : String) (out : Except Exn Customer) (t : Store) : Prop :=
  AtMostOne value t ∧ ∀ lmsUserId, user.lmsUserId = some (lmsUserId+1) → toString (lmsUserId+1) = value → out ≠ .error .valueError

theorem purchase_single (user : User) {s : Store}
    (own : ∀ lmsUserId, user.lmsUserId = some lmsUserId → toString lmsUserId = value → user.email = email)
    (single : AtMostOne value s) : Ensures commercetools (fun _ _ => True) (Keeping value email) (Keeping value email)
      (Purchased user value) (getCtCustomer user) s := by
  have refused : user.lmsUserId.getD 0 = 0 → Ensures commercetools (fun _ _ => True) (Keeping value email)
      (Keeping value email) (Purchased user value) (getCtCustomer user) s := by
    intro none_known
    rw [unnumbered user none_known]
    intro t moved
    refine ⟨moved.single single,fun lmsUserId known => ?_⟩
    rw [known] at none_known
    cases none_known
  rcases known : user.lmsUserId with _ | _ | n
  · apply refused
    rw [known]
    rfl
  · apply refused
    rw [known]
    rfl
  · have contract : Ensures commercetools (fun _ _ => True) (Keeping value email) (Keeping value email)
        (Single (toString (n+1)) value) (getCtCustomer user) s := by
      unfold getCtCustomer
      rw [known,numbered]
      apply Ensures.bind _ (lookup_single (toString (n+1)) single)
      · intro e t post
        exact ⟨post.1,fun same failed => post.2 same (Except.error.inj failed)⟩
      · intro looked t found
        rcases looked with _ | k
        · exact create_single _ rfl found (own (n+1) known)
        · dsimp only
          split
          · exact update_single user _ _ found (own (n+1) known)
          · exact fun u later => ⟨(found u later).1,fun _ never => by cases never⟩
    refine contract.mono fun out t post => ⟨post.1,fun m same whose => post.2 ?_⟩
    rw [known] at same
    cases same
    exact whose

end Users

section Run
variable {ι : Type} [DecidableEq ι]

abbrev Purchases (ι : Type) := Config Request Response Exn Customer Store ι

-- Whatever purchases run at once, if those of one LMS user come with one email: no
-- user gets a second customer, and no lookup is refused for having found two.
theorem one_customer (users : ι → User) (emailOf : String → String) {s : Store} {c : Purchases ι}
    (agreed : ∀ i lmsUserId, (users i).lmsUserId = some lmsUserId → (users i).email = emailOf (toString lmsUserId))
    (single : ∀ value, AtMostOne value s)
    (path : RunsWhen (commercetools.step fun i => getCtCustomer (users i)) (fun _ _ => True)
      ⟨s,fun i => getCtCustomer (users i)⟩ events c) :
    (∀ value, AtMostOne value c.shared) ∧
    ∀ i lmsUserId, (users i).lmsUserId = some (lmsUserId+1) → c.threads i ≠ .raise .valueError := by
  have each : ∀ value, (∀ i, Ensures commercetools (fun _ _ => True) (Keeping value (emailOf value))
      (Keeping value (emailOf value)) (Purchased (users i) value) (c.threads i) c.shared) ∧ Keeping value (emailOf value) s c.shared := by
    intro value
    have world : ∀ (change : Empty) (a b : Store), commercetools.environment change a = some b →
        Keeping value (emailOf value) a b := fun never => never.elim
    refine uniform_interference Keeping.refl (fun _ _ _ => Keeping.trans) world (fun _ _ _ never => by cases never)
      (fun i => purchase_single (users i) ?_ (single value)) (path.weaken fun _ event _ => by cases event <;> simp [Permitted])
    intro lmsUserId known same
    rw [agreed i lmsUserId known,same]
  refine ⟨fun value => (each value).2.single (single value),fun i lmsUserId known refused => ?_⟩
  have ends := (each (toString (lmsUserId+1))).1 i
  rw [refused] at ends
  exact (ends c.shared (.refl _)).2 lmsUserId known rfl rfl

end Run

def twoTaps (_ : Bool) : User := ⟨some 7,"ada","ada@example.org","Ada","Byron",""⟩

def nobody : Store := ⟨[],by simp,by simp⟩

def bothCreate : List (Event Bool Choice Empty) :=
  [.act true ⟨.done,""⟩,.act false ⟨.done,""⟩,.act true ⟨.lost,"c1"⟩,.act false ⟨.done,"c2"⟩]

theorem one_customer_of_two_taps : ∃ c : Purchases Bool, c.shared.customers.length = 1 ∧
    (∀ value, AtMostOne value c.shared) ∧
    ∀ i lmsUserId, (twoTaps i).lmsUserId = some (lmsUserId+1) → c.threads i ≠ .raise .valueError := by
  have reached : ((guardedRun (commercetools.step fun i => getCtCustomer (twoTaps i)) (fun _ _ => true)
      ⟨nobody,fun i => getCtCustomer (twoTaps i)⟩ bothCreate).map fun c => c.shared.customers.length) = some 1 := by
    decide +kernel
  obtain ⟨c,ran,length⟩ := Option.map_eq_some_iff.mp reached
  exact ⟨c,length,one_customer twoTaps (fun _ => "ada@example.org") (fun _ _ _ => rfl) (fun value a listed => by cases listed)
    (RunsWhen.nil.guarded (fun _ _ _ => trivial) ran)⟩

end CustomerAccounts
