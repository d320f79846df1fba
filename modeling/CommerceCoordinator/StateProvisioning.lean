import CommerceCoordinator.Execution
import CommerceCoordinator.Fulfillment
import CommerceCoordinator.Keyed
import CommerceCoordinator.OrderReturn

open Commercetools CallTree

-- provision_states: the states of orders and line items, created and brought to
-- their drafts.
namespace StateProvisioning

inductive StateType where
  | orderState | lineItemState
  deriving DecidableEq

-- A draft gives the states that may follow by their keys, a state by their ids.
structure StateDraft where
  key : String
  type : StateType
  name : Dict String
  description : Dict String
  initial : Option Bool
  transitions : Option (List String)
  deriving DecidableEq

structure State where
  id : String
  version : Nat
  key : String
  type : StateType
  name : Option (Dict String)
  description : Option (Dict String)
  initial : Bool
  transitions : Option (List String)
  deriving DecidableEq

def withEnglish (texts : Dict String) : Dict String :=
  match texts with
  | [(language,text)] => if language = "en" then texts else texts.set "en" text
  | _ => texts

def ls (texts : Dict String) : Dict String :=
  match (withEnglish texts).get "en",(withEnglish texts).get "en-US" with
  | some text,none => (withEnglish texts).set "en-US" text
  | _,_ => withEnglish texts

-- Two dicts are equal if they have the same entries, in any order.
def lsEq : Option (Dict String) → Option (Dict String) → Bool
  | some a,some b => a.length = b.length && a.all fun entry => b.get entry.1 = some entry.2
  | _,_ => false

def sanctionedOrderState : StateDraft :=
  ⟨"2u-sdn-order-state",.orderState,ls [("en","Sanctioned")],
    ls [("en","This order has been sanctioned for an SDN hit")],none,none⟩

def fulfillmentState (state : Fulfillment.FulfillmentState) (name description : String) (initial : Bool)
    (transitions : List Fulfillment.FulfillmentState) : StateDraft :=
  ⟨state.key,.lineItemState,ls [("en",name)],ls [("en",description)],some initial,some (transitions.map (·.key))⟩

def initialFulfillmentState : StateDraft :=
  fulfillmentState .initial "Fulfillment Initial" "This order line item has not yet been fulfilled" true [.pending]
def pendingFulfillmentState : StateDraft :=
  fulfillmentState .pending "Fulfillment Pending" "This order line item is pending fulfilment" false [.processing]
def processingFulfillmentState : StateDraft :=
  fulfillmentState .processing "Fulfillment Processing" "This order line item is processing fulfilment" false
    [.success,.failure]
def successFulfillmentState : StateDraft :=
  fulfillmentState .success "Fulfillment Success" "This order line item has successfully been fulfilled" false []
def failedFulfillmentState : StateDraft :=
  fulfillmentState .failure "Fulfillment Failure" "This order line item was unsuccessfully fulfilled" false
    [.pending,.success]

def orderStates : List StateDraft := [sanctionedOrderState,initialFulfillmentState,pendingFulfillmentState,
  processingFulfillmentState,successFulfillmentState,failedFulfillmentState]

inductive StateAction where
  | setTransitions (transitions : Option (List String))
  | changeInitial (initial : Bool)
  | setDescription (description : Dict String)
  | setName (name : Dict String)
  deriving DecidableEq

inductive Request where
  | getByKey (key : String)
  | create (draft : StateDraft)
  | updateById (id : String) (version : Nat) (actions : List StateAction)

abbrev Response : Request → Type
  | .getByKey _ => Except ErrorCode State
  | .create _ => Except ErrorCode State
  | .updateById _ _ _ => Except ErrorCode State

abbrev Call := Prog Request Response Exn

-- A state that cannot be read, for whatever reason, is created.
def ensure (draft : StateDraft) : Call Unit :=
  .call (.getByKey draft.key) fun
    | .ok _ => .pure ()
    | .error _ => .call (.create draft) fun
      | .ok _ => .pure ()
      | .error code => .raise (.commercetoolsError code)

def ensureAll : List StateDraft → Call Unit
  | [] => .pure ()
  | draft::rest => (ensure draft).bind fun _ => ensureAll rest

def fetchAll : List StateDraft → Dict String → Call (Dict String × List (StateDraft × State))
  | [],stateTranslations => .pure (stateTranslations,[])
  | draft::rest,stateTranslations => .call (.getByKey draft.key) fun
    | .error code => .raise (.commercetoolsError code)
    | .ok state => (fetchAll rest ((stateTranslations.set state.key state.id).set state.id state.key)).bind fun found =>
      .pure (found.1,(draft,state)::found.2)

def exactlyEqual : Option (List String) → Option (List String) → Bool
  | none,none => true
  | some x,some y => if x = [] ∧ y = [] then true else x = y
  | _,_ => false

def transitionId (idOf : String → Option String) (key : String) : Except String String :=
  (idOf key).elim (.error key) .ok

def translate (idOf : String → Option String) : Option (List String) → Except String (Option (List String))
  | none => .ok none
  | some keys => (keys.mapM (transitionId idOf)).map some

def updateActions (draft : StateDraft) (state : State) (transitions : Option (List String)) : List StateAction :=
  (if exactlyEqual transitions state.transitions then [] else [.setTransitions transitions]) ++
  (match draft.initial with
    | some initial => if state.initial ≠ initial then [.changeInitial initial] else []
    | none => []) ++
  (if lsEq state.description (some draft.description) then [] else [.setDescription draft.description]) ++
  if lsEq state.name (some draft.name) then [] else [.setName draft.name]

def update (stateTranslations : Dict String) (draft : StateDraft) (state : State) : Call Unit :=
  match translate stateTranslations.get draft.transitions with
  | .error key => .raise (.keyError key)
  | .ok transitions =>
    if updateActions draft state transitions = [] then .pure ()
    else .call (.updateById state.id state.version (updateActions draft state transitions)) fun
      | .ok _ => .pure ()
      | .error code => .raise (.commercetoolsError code)

def updateAll (stateTranslations : Dict String) : List (StateDraft × State) → Call Unit
  | [] => .pure ()
  | pair::rest => (update stateTranslations pair.1 pair.2).bind fun _ => updateAll stateTranslations rest

def provision (drafts : List StateDraft) : Call Unit :=
  (ensureAll drafts).bind fun _ => (fetchAll drafts []).bind fun found => updateAll found.1 found.2

def handle : Call Unit := provision orderStates

-- The states of the project. Ids are the service's own and no id is a key.
structure Project where
  states : List State
  ids : (states.map (·.id)).Nodup
  keys : (states.map (·.key)).Nodup
  apart : ∀ s ∈ states, ∀ t ∈ states, s.id ≠ t.key

def Project.byKey (p : Project) (key : String) : Option State := p.states.find? (·.key = key)
def Project.byId (p : Project) (id : String) : Option State := p.states.find? (·.id = id)
def Project.idOf (p : Project) (key : String) : Option String := (p.byKey key).map (·.id)

def applyAction (state : State) : StateAction → State
  | .setTransitions transitions => {state with transitions}
  | .changeInitial initial => {state with initial}
  | .setDescription description => {state with description := some description}
  | .setName name => {state with name := some name}

def applyActions (actions : List StateAction) (state : State) : State :=
  {actions.foldl applyAction state with id := state.id, key := state.key, version := state.version+1}

-- Whether a call gets through, whether a draft may name states that are not there
-- yet, and the id of a new state.
structure Choice where
  through : Bool
  dangling : Bool
  id : String

def Fresh (p : Project) (id key : String) : Prop :=
  id ∉ p.states.map (·.id) ∧ id ∉ p.states.map (·.key) ∧ key ∉ p.states.map (·.id) ∧ key ∉ p.states.map (·.key) ∧ id ≠ key

instance (p : Project) (id key : String) : Decidable (Fresh p id key) := inferInstanceAs (Decidable (_ ∧ _))

def Project.add (p : Project) (state : State) (fresh : Fresh p state.id state.key) : Project where
  states := p.states++[state]
  ids := by
    rw [List.map_append,List.nodup_append]
    exact ⟨p.ids,List.nodup_singleton _,fun a listed b here same => fresh.1 (by
      rw [List.map_singleton,List.mem_singleton] at here
      exact here ▸ same ▸ listed)⟩
  keys := by
    rw [List.map_append,List.nodup_append]
    exact ⟨p.keys,List.nodup_singleton _,fun a listed b here same => fresh.2.2.2.1 (by
      rw [List.map_singleton,List.mem_singleton] at here
      exact here ▸ same ▸ listed)⟩
  apart := by
    intro s first t second
    rcases List.mem_append.mp first with old | new
    · rcases List.mem_append.mp second with old' | new'
      · exact p.apart s old t old'
      · rw [List.mem_singleton.mp new']
        exact fun same => fresh.2.2.1 (same ▸ List.mem_map_of_mem old)
    · rw [List.mem_singleton.mp new]
      rcases List.mem_append.mp second with old' | new'
      · exact fun same => fresh.2.1 (same ▸ List.mem_map_of_mem old')
      · rw [List.mem_singleton.mp new']
        exact fresh.2.2.2.2

def Project.change (p : Project) (id : String) (f : State → State) (same : ∀ s, (f s).id = s.id ∧ (f s).key = s.key) :
    Project where
  states := p.states.map fun s => if s.id = id then f s else s
  ids := by
    rw [List.map_map,List.map_congr_left (g := (·.id))]
    · exact p.ids
    · intro s _
      by_cases here : s.id = id <;> simp [here,(same s).1]
  keys := by
    rw [List.map_map,List.map_congr_left (g := (·.key))]
    · exact p.keys
    · intro s _
      by_cases here : s.id = id <;> simp [here,(same s).2]
  apart := by
    have kept : ∀ s : State, (if s.id = id then f s else s).id = s.id ∧ (if s.id = id then f s else s).key = s.key := by
      intro s
      split
      · exact same s
      · exact ⟨rfl,rfl⟩
    intro s first t second
    obtain ⟨a,known,rfl⟩ := List.mem_map.mp first
    obtain ⟨b,known',rfl⟩ := List.mem_map.mp second
    rw [(kept a).1,(kept b).2]
    exact p.apart a known b known'

theorem apply_same (actions : List StateAction) (s : State) :
    (applyActions actions s).id = s.id ∧ (applyActions actions s).key = s.key := ⟨rfl,rfl⟩

def createdTransitions (p : Project) (choice : Choice) (draft : StateDraft) : Option (Option (List String)) :=
  match translate p.idOf draft.transitions with
  | .ok transitions => some transitions
  | .error _ => if choice.dangling then some none else none

def createdState (choice : Choice) (draft : StateDraft) (transitions : Option (List String)) : State :=
  ⟨choice.id,1,draft.key,draft.type,some draft.name,some draft.description,draft.initial.getD false,transitions⟩

def serve (choice : Choice) : (r : Request) → Project → Response r × Project
  | .getByKey key,p =>
    (if choice.through then (p.byKey key).elim (.error .resourceNotFound) .ok else .error .unavailable,p)
  | .create draft,p =>
    if fresh : choice.through ∧ Fresh p choice.id draft.key then
      match createdTransitions p choice draft with
      | some transitions => (.ok (createdState choice draft transitions),p.add (createdState choice draft transitions) fresh.2)
      | none => (.error .resourceNotFound,p)
    else (.error (if choice.through then .duplicateField else .unavailable),p)
  | .updateById id version actions,p =>
    match p.byId id with
    | none => (.error .resourceNotFound,p)
    | some state =>
      if choice.through ∧ state.version = version then
        (.ok (applyActions actions state),p.change id (applyActions actions) (apply_same actions))
      else (.error (if choice.through then .concurrentModification else .unavailable),p)

theorem Project.by_key (p : Project) : p.byKey key = some s ↔ s ∈ p.states ∧ s.key = key := Keyed.found p.keys

theorem Project.by_id (p : Project) (listed : s ∈ p.states) : p.byId s.id = some s :=
  (Keyed.found p.ids).mpr ⟨listed,rfl⟩

theorem Project.id_of {p : Project} (found : p.byKey key = some s) : p.idOf key = some s.id := by
  rw [idOf,found,Option.map_some]

theorem Project.add_by_key (p : Project) (fresh : Fresh p s.id s.key) (key : String) :
    (p.add s fresh).byKey key = if key = s.key then some s else p.byKey key := Keyed.appended fresh.2.2.2.1 key

theorem Project.change_by_key (p : Project) {f : State → State} {same : ∀ t, (f t).id = t.id ∧ (f t).key = t.key}
    (found : p.byKey key' = some s) (key : String) :
    (p.change s.id f same).byKey key = if key = key' then some (f s) else p.byKey key := by
  have ⟨listed,named⟩ := p.by_key.mp found
  by_cases here : key = key'
  · rw [if_pos here,by_key]
    exact ⟨List.mem_map.mpr ⟨s,listed,if_pos rfl⟩,(same s).2.trans (named.trans here.symm)⟩
  · rw [if_neg here]
    apply Option.ext
    intro t
    rw [by_key,by_key]
    constructor
    · rintro ⟨changed,keyed⟩
      obtain ⟨u,known,rfl⟩ := List.mem_map.mp changed
      by_cases touched : u.id = s.id
      · have twin := List.inj_on_of_nodup_map p.ids known listed touched
        subst twin
        rw [if_pos rfl,(same u).2] at keyed
        exact absurd (keyed.symm.trans named) here
      · rw [if_neg touched] at keyed ⊢
        exact ⟨known,keyed⟩
    · rintro ⟨known,keyed⟩
      refine ⟨List.mem_map.mpr ⟨t,known,if_neg fun touched => ?_⟩,keyed⟩
      have twin := List.inj_on_of_nodup_map p.ids known listed touched
      exact here (keyed.symm.trans (twin ▸ named))

-- Undrafted states are as they were, and no state is gone or has another id.
structure Moves (keys : List String) (p q : Project) : Prop where
  outside : ∀ key, key ∉ keys → q.byKey key = p.byKey key
  kept : ∀ key id, p.idOf key = some id → q.idOf key = some id

theorem Moves.refl (keys : List String) (p : Project) : Moves keys p p := ⟨fun _ _ => rfl,fun _ _ known => known⟩

theorem Moves.trans (first : Moves keys p q) (later : Moves keys q r) : Moves keys p r :=
  ⟨fun key unlisted => (later.outside key unlisted).trans (first.outside key unlisted),
    fun key id known => later.kept key id (first.kept key id known)⟩

theorem Moves.present (moves : Moves keys p q) (there : (p.idOf key).isSome) : (q.idOf key).isSome := by
  obtain ⟨id,known⟩ := Option.isSome_iff_exists.mp there
  rw [moves.kept key id known]
  rfl

theorem add_moves (p : Project) (fresh : Fresh p s.id s.key) (listed : s.key ∈ keys) : Moves keys p (p.add s fresh) := by
  refine ⟨fun key unlisted => ?_,fun key id known => ?_⟩
  · have other : key ≠ s.key := fun same => unlisted (same ▸ listed)
    rw [p.add_by_key,if_neg other]
  · have other : key ≠ s.key := by
      rintro rfl
      obtain ⟨t,found,_⟩ := Option.map_eq_some_iff.mp known
      have ⟨member,named⟩ := p.by_key.mp found
      exact fresh.2.2.2.1 (named ▸ List.mem_map_of_mem member)
    rw [Project.idOf,p.add_by_key,if_neg other]
    exact known

theorem change_ids (p : Project) {f : State → State} (same : ∀ t, (f t).id = t.id ∧ (f t).key = t.key)
    (found : p.byKey key = some s) : (p.change s.id f same).idOf = p.idOf := by
  funext key'
  rw [Project.idOf,p.change_by_key found]
  split
  · rename_i here
    rw [here,Project.id_of found,Option.map_some,(same s).1]
  · rfl

theorem change_moves (p : Project) {f : State → State} (same : ∀ t, (f t).id = t.id ∧ (f t).key = t.key)
    (found : p.byKey key = some s) (listed : key ∈ keys) : Moves keys p (p.change s.id f same) := by
  refine ⟨fun key' unlisted => ?_,fun key' id known => ?_⟩
  · have other : key' ≠ key := fun same => unlisted (same ▸ listed)
    rw [p.change_by_key found,if_neg other]
  · rw [change_ids p same found]
    exact known

def Ends (good : Prop) (frame : Project → Prop) (post : α → Project → Prop) (out : Except Exn α) (q : Project) : Prop :=
  frame q ∧ (∀ a, out = .ok a → post a q) ∧ (good → ∃ a, out = .ok a)

section Ends
variable {allowed : Choice → Project → Request → Prop} {good : Prop} {frame : Project → Prop}

theorem Ends.ok {post : α → Project → Prop} (framed : frame q) (holds : post a q) : Ends good frame post (.ok a) q := by
  refine ⟨framed,fun b same => ?_,fun _ => ⟨a,rfl⟩⟩
  cases same
  exact holds

theorem Ends.error {post : α → Project → Prop} (framed : frame q) (bad : ¬good) : Ends good frame post (.error e) q :=
  ⟨framed,(fun _ never => by cases never),fun well => absurd well bad⟩

theorem Ends.mono {post looser : α → Project → Prop} {wider : Project → Prop} {better : Prop} (ends : Ends good frame post out q)
    (framed : frame q → wider q) (imp : ∀ a, frame q → post a q → looser a q) (fewer : better → good) :
    Ends better wider looser out q :=
  ⟨framed ends.1,fun a done => imp a ends.1 (ends.2.1 a done),fun well => ends.2.2 (fewer well)⟩

theorem ends_seq {mid : α → Project → Prop} {post : β → Project → Prop} {p : Call α} {f : α → Call β}
    (first : p.wp serve allowed (Ends good frame mid) s)
    (later : ∀ a t, frame t → mid a t → (f a).wp serve allowed (Ends good frame post) t) :
    (p.bind f).wp serve allowed (Ends good frame post) s := by
  apply Prog.wp_seq (Ends good frame mid) first
  · intro e t ends
    refine ⟨ends.1,fun _ never => ?_,fun well => ?_⟩
    · cases never
    · obtain ⟨a,never⟩ := ends.2.2 well
      cases never
  · intro a t ends
    exact later a t ends.1 (ends.2.1 a rfl)

end Ends

def Good (choice : Choice) (p : Project) : Request → Prop
  | .create draft => choice.through ∧ choice.dangling ∧ (p.byKey draft.key = none → Fresh p choice.id draft.key)
  | _ => choice.through

theorem Good.through {choice : Choice} {p : Project} {r : Request} (good : Good choice p r) : choice.through := by
  cases r with
  | getByKey key => exact good
  | create draft => exact good.1
  | updateById id version actions => exact good

theorem created_some (p : Project) {choice : Choice} (dangling : choice.dangling) (draft : StateDraft) :
    ∃ transitions, createdTransitions p choice draft = some transitions := by
  unfold createdTransitions
  split
  · exact ⟨_,rfl⟩
  · exact ⟨none,if_pos dangling⟩

theorem serve_get (choice : Choice) (key : String) (p : Project) :
    (∃ s, p.byKey key = some s ∧ serve choice (.getByKey key) p = (.ok s,p)) ∨
      ∃ e, (choice.through → p.byKey key = none) ∧ serve choice (.getByKey key) p = (.error e,p) := by
  by_cases through : choice.through
  · cases found : p.byKey key with
    | some s => exact .inl ⟨s,rfl,by simp [serve,through,found]⟩
    | none => exact .inr ⟨.resourceNotFound,fun _ => rfl,by simp [serve,through,found]⟩
  · exact .inr ⟨.unavailable,fun ok => absurd ok through,by simp [serve,through]⟩

theorem serve_create (choice : Choice) (draft : StateDraft) (p : Project) :
    (∃ s, ∃ fresh : Fresh p s.id s.key, s.key = draft.key ∧ serve choice (.create draft) p = (.ok s,p.add s fresh)) ∨
      ∃ e, ¬(choice.through ∧ choice.dangling ∧ Fresh p choice.id draft.key) ∧
        serve choice (.create draft) p = (.error e,p) := by
  by_cases taken : choice.through ∧ Fresh p choice.id draft.key
  · cases made : createdTransitions p choice draft with
    | some transitions => exact .inl ⟨createdState choice draft transitions,taken.2,rfl,by simp [serve,taken,made]⟩
    | none =>
      refine .inr ⟨.resourceNotFound,fun well => ?_,by simp [serve,taken,made]⟩
      obtain ⟨transitions,some_made⟩ := created_some p well.2.1 draft
      rw [made] at some_made
      cases some_made
  · exact .inr ⟨_,fun well => taken ⟨well.1,well.2.2⟩,by rw [serve,dif_neg taken]⟩

theorem serve_update (choice : Choice) (actions : List StateAction) (found : p.byKey key = some s) :
    (serve choice (.updateById s.id s.version actions) p =
      (.ok (applyActions actions s),p.change s.id (applyActions actions) (apply_same actions))) ∨
      ∃ e, ¬choice.through ∧ serve choice (.updateById s.id s.version actions) p = (.error e,p) := by
  have known := p.by_id (p.by_key.mp found).1
  by_cases through : choice.through
  · exact .inl (by simp [serve,known,through])
  · exact .inr ⟨.unavailable,through,by simp [serve,known,through]⟩

section Specs
variable {allowed : Choice → Project → Request → Prop} {keys : List String} {origin p : Project}

theorem ensure_spec (moved : Moves keys origin p) (listed : draft.key ∈ keys) :
    (ensure draft).wp serve allowed (Ends (∀ choice p r, allowed choice p r → Good choice p r) (Moves keys origin)
      fun _ q => (q.idOf draft.key).isSome) p := by
  intro choice ok
  rcases serve_get choice draft.key p with ⟨s,found,ran⟩ | ⟨e,unknown,ran⟩
  · rw [ran]
    refine Ends.ok moved ?_
    rw [Project.id_of found]
    rfl
  · rw [ran]
    intro choice' ok'
    rcases serve_create choice' draft p with ⟨s,fresh,made,ran'⟩ | ⟨e',refused,ran'⟩
    · rw [ran']
      refine Ends.ok (moved.trans (add_moves p fresh (made ▸ listed))) ?_
      rw [Project.id_of ((p.add_by_key fresh draft.key).trans (if_pos made.symm))]
      rfl
    · rw [ran']
      refine Ends.error moved fun good => ?_
      have through := good _ _ _ ok
      have well := good _ _ _ ok'
      exact refused ⟨well.1,well.2.1,well.2.2 (unknown through)⟩

theorem ensure_all (moved : Moves keys origin p) (listed : ∀ draft ∈ drafts, draft.key ∈ keys) :
    (ensureAll drafts).wp serve allowed (Ends (∀ choice p r, allowed choice p r → Good choice p r) (Moves keys origin)
      fun _ q => Moves keys p q ∧ ∀ draft ∈ drafts, (q.idOf draft.key).isSome) p := by
  induction drafts generalizing origin p with
  | nil => exact Ends.ok moved ⟨Moves.refl keys p,by simp⟩
  | cons draft rest ih =>
    have ⟨here,later⟩ := List.forall_mem_cons.mp listed
    have first : (ensure draft).wp serve allowed _ p := ensure_spec (Moves.refl keys p) here
    apply ends_seq (Prog.wp_mono first fun out q ends =>
      ends.mono moved.trans (fun _ step there => And.intro step there) id)
    intro _ q moved' ⟨step,there⟩
    refine Prog.wp_mono (ih moved' later) fun out r ends => ends.mono id (fun _ _ ⟨steps,present⟩ => ?_) id
    exact ⟨step.trans steps,List.forall_mem_cons.mpr ⟨steps.present there,present⟩⟩

structure Agrees (idOf : String → Option String) (draft : StateDraft) (state : State) : Prop where
  transitions : translate idOf draft.transitions = .ok state.transitions
  initial : ∀ initial, draft.initial = some initial → state.initial = initial
  description : lsEq state.description (some draft.description)
  name : lsEq state.name (some draft.name)

def Agreed (p : Project) (draft : StateDraft) : Prop := ∃ s, p.byKey draft.key = some s ∧ Agrees p.idOf draft s

structure WellFormed (drafts : List StateDraft) : Prop where
  keys : (drafts.map (·.key)).Nodup
  texts : ∀ draft ∈ drafts, draft.description.keys.Nodup ∧ draft.name.keys.Nodup
  closed : ∀ draft ∈ drafts, ∀ key ∈ draft.transitions.getD [], key ∈ drafts.map (·.key)

theorem exactly_equal (x y : Option (List String)) : exactlyEqual x y = true ↔ x = y := by
  cases x with
  | none => cases y <;> simp [exactlyEqual]
  | some x =>
    cases y with
    | none => simp [exactlyEqual]
    | some y =>
      simp only [exactlyEqual,Option.some.injEq]
      split
      · rename_i empty
        simp [empty.1,empty.2]
      · simp

theorem ls_eq_refl {texts : Dict String} (distinct : texts.keys.Nodup) : lsEq (some texts) (some texts) := by
  simp only [lsEq,decide_true,Bool.true_and,List.all_eq_true,decide_eq_true_eq]
  intro entry listed
  exact Dict.entry_get distinct listed

theorem agreed_actions (draft : StateDraft) (state : State) (transitions : Option (List String)) :
    updateActions draft state transitions = [] ↔ transitions = state.transitions ∧
      (∀ initial, draft.initial = some initial → state.initial = initial) ∧
      lsEq state.description (some draft.description) ∧ lsEq state.name (some draft.name) := by
  simp only [updateActions,List.append_eq_nil_iff,and_assoc,← exactly_equal transitions]
  refine and_congr ?_ (and_congr ?_ (and_congr ?_ ?_))
  · split <;> simp_all
  · cases draft.initial <;> simp
  · split <;> simp_all
  · split <;> simp_all

theorem applied_actions (draft : StateDraft) (state : State) (transitions : Option (List String)) :
    applyActions (updateActions draft state transitions) state = {state with
      version := state.version+1
      transitions := if exactlyEqual transitions state.transitions then state.transitions else transitions
      initial := draft.initial.getD state.initial
      description := if lsEq state.description (some draft.description) then state.description else some draft.description
      name := if lsEq state.name (some draft.name) then state.name else some draft.name} := by
  have led : (if exactlyEqual transitions state.transitions then [] else [StateAction.setTransitions transitions]).foldl
      applyAction state = {state with
        transitions := if exactlyEqual transitions state.transitions then state.transitions else transitions} := by
    split <;> rfl
  have begun : ∀ s : State, s.initial = state.initial → (match draft.initial with
      | some initial => if state.initial ≠ initial then [StateAction.changeInitial initial] else []
      | none => []).foldl applyAction s = {s with initial := draft.initial.getD state.initial} := by
    intro s same
    cases draft.initial with
    | none => simp [← same]
    | some initial =>
      by_cases already : state.initial = initial
      · subst already
        simp [← same]
      · simp [already,applyAction]
  have described : ∀ s : State, s.description = state.description →
      (if lsEq state.description (some draft.description) then [] else [.setDescription draft.description]).foldl applyAction s =
        {s with description :=
          (if lsEq state.description (some draft.description) then state.description else some draft.description)} := by
    intro s same
    split
    · rw [← same]
      rfl
    · rfl
  have named : ∀ s : State, s.name = state.name →
      (if lsEq state.name (some draft.name) then [] else [.setName draft.name]).foldl applyAction s =
        {s with name := (if lsEq state.name (some draft.name) then state.name else some draft.name)} := by
    intro s same
    split
    · rw [← same]
      rfl
    · rfl
  unfold applyActions updateActions
  rw [List.foldl_append,List.foldl_append,List.foldl_append,led,begun,described,named] <;> rfl

theorem applied_agrees (draft : StateDraft) (state : State) (transitions : Option (List String))
    (distinct : draft.description.keys.Nodup ∧ draft.name.keys.Nodup) {idOf : String → Option String}
    (translated : translate idOf draft.transitions = .ok transitions) :
    Agrees idOf draft (applyActions (updateActions draft state transitions) state) := by
  rw [applied_actions]
  refine ⟨translated.trans (congrArg Except.ok ?_),fun initial wanted => ?_,?_,?_⟩
  · dsimp only
    split
    · exact (exactly_equal _ _).mp ‹_›
    · rfl
  · simp [wanted]
  · dsimp only
    split
    · assumption
    · exact ls_eq_refl distinct.1
  · dsimp only
    split
    · assumption
    · exact ls_eq_refl distinct.2

theorem translate_congr {f g : String → Option String} {transitions : Option (List String)}
    (same : ∀ key ∈ transitions.getD [], f key = g key) : translate f transitions = translate g transitions := by
  have each : ∀ keys : List String, (∀ key ∈ keys, f key = g key) →
      keys.mapM (transitionId f) = keys.mapM (transitionId g) := by
    intro keys same
    induction keys with
    | nil => rfl
    | cons key rest ih =>
      have ⟨here,later⟩ := List.forall_mem_cons.mp same
      rw [List.mapM_cons,List.mapM_cons,ih later,transitionId,transitionId,here]
  cases transitions with
  | none => rfl
  | some keys => exact congrArg (Except.map some) (each keys same)

theorem translate_ids {f : String → Option String} {g : String → String} (keys : List String)
    (known : ∀ key ∈ keys, f key = some (g key)) : translate f (some keys) = .ok (some (keys.map g)) := by
  have each : keys.mapM (transitionId f) = .ok (keys.map g) := by
    induction keys with
    | nil => rfl
    | cons key rest ih =>
      have ⟨here,later⟩ := List.forall_mem_cons.mp known
      rw [List.mapM_cons,ih later,transitionId,here]
      rfl
  exact congrArg (Except.map some) each

theorem translate_some {f : String → Option String} {transitions : Option (List String)}
    (present : ∀ key ∈ transitions.getD [], (f key).isSome) : ∃ ids, translate f transitions = .ok ids := by
  cases transitions with
  | none => exact ⟨none,rfl⟩
  | some keys =>
    refine ⟨_,translate_ids (g := fun key => (f key).getD key) keys fun key member => ?_⟩
    obtain ⟨id,known⟩ := Option.isSome_iff_exists.mp (present key member)
    simp [known]

def Translates (p : Project) (keys : List String) (stateTranslations : Dict String) : Prop :=
  ∀ key ∈ keys, stateTranslations.get key = p.idOf key

theorem translates_set (translates : Translates p keys t) (found : p.byKey key = some s)
    (present : ∀ other ∈ keys, (p.idOf other).isSome) :
    Translates p (key::keys) ((t.set s.key s.id).set s.id s.key) := by
  have ⟨listed,named⟩ := p.by_key.mp found
  have apart : ∀ other, (p.idOf other).isSome → other ≠ s.id := by
    intro other there same
    obtain ⟨u,known,_⟩ := Option.map_eq_some_iff.mp (Option.some_get there).symm
    have ⟨member,keyed⟩ := p.by_key.mp known
    exact p.apart s listed u member (same.symm.trans keyed.symm)
  have right : ∀ other, (p.idOf other).isSome → (other = s.key ∨ t.get other = p.idOf other) →
      ((t.set s.key s.id).set s.id s.key).get other = p.idOf other := by
    intro other there known
    rw [Dict.set_get,if_neg (apart other there),Dict.set_get]
    split
    · rename_i here
      rw [here,named,Project.id_of found]
    · rename_i elsewhere
      exact known.resolve_left elsewhere
  refine List.forall_mem_cons.mpr ⟨right key ?_ (.inl named.symm),fun other member => ?_⟩
  · rw [Project.id_of found]
    rfl
  · exact right other (present other member) (.inr (translates other member))

theorem fetch_all {frame : Project → Prop} {good : Prop} (framed : frame p) (translates : Translates p fetched t)
    (present : ∀ key ∈ fetched, (p.idOf key).isSome) (answers : good → ∀ choice p r, allowed choice p r → choice.through)
    (there : good → ∀ draft ∈ drafts, (p.idOf draft.key).isSome) : (fetchAll drafts t).wp serve allowed (Ends good frame
      fun found q => q = p ∧ found.2.map (·.1) = drafts ∧ (∀ pair ∈ found.2, p.byKey pair.1.key = some pair.2) ∧
        Translates p (drafts.map (·.key)) found.1 ∧ Translates p fetched found.1) p := by
  induction drafts generalizing fetched t with
  | nil => exact Ends.ok framed ⟨rfl,rfl,by simp,by simp [Translates],translates⟩
  | cons draft rest ih =>
    intro choice ok
    rcases serve_get choice draft.key p with ⟨s,found,ran⟩ | ⟨e,unknown,ran⟩
    · rw [ran]
      have known : (p.idOf draft.key).isSome := by
        rw [Project.id_of found]
        rfl
      have right := translates_set translates found present
      apply ends_seq (ih right (List.forall_mem_cons.mpr ⟨known,present⟩)
        fun well other member => there well other (List.mem_cons_of_mem _ member))
      rintro ⟨t',found'⟩ q framed' ⟨rfl,pairs,current,rest_right,right'⟩
      have ⟨head_right,fetched_right⟩ := List.forall_mem_cons.mp right'
      exact Ends.ok framed' ⟨rfl,congrArg (draft::·) pairs,List.forall_mem_cons.mpr ⟨found,current⟩,
        List.forall_mem_cons.mpr ⟨head_right,rest_right⟩,fetched_right⟩
    · rw [ran]
      refine Ends.error framed fun well => ?_
      have absent := unknown (answers well _ _ _ ok)
      have known := there well draft List.mem_cons_self
      rw [Project.idOf,absent] at known
      cases known

theorem update_spec (moved : Moves keys origin p) (listed : draft.key ∈ keys) (found : p.byKey draft.key = some s)
    (translated : translate t.get draft.transitions = .ok transitions)
    (right : translate p.idOf draft.transitions = .ok transitions)
    (distinct : draft.description.keys.Nodup ∧ draft.name.keys.Nodup) :
    (update t draft s).wp serve allowed (Ends (∀ choice p r, allowed choice p r → Good choice p r) (Moves keys origin)
      fun _ q => q.idOf = p.idOf ∧ (∀ key, key ≠ draft.key → q.byKey key = p.byKey key) ∧ Agreed q draft) p := by
  unfold update
  rw [translated]
  dsimp only
  split
  · rename_i none_needed
    have ⟨led,initial,description,name⟩ := (agreed_actions _ _ _).mp none_needed
    exact Ends.ok moved ⟨rfl,fun _ _ => rfl,s,found,led ▸ right,initial,description,name⟩
  · intro choice ok
    rcases serve_update choice (updateActions draft s transitions) found with ran | ⟨e,lost,ran⟩
    · rw [ran]
      have same := apply_same (updateActions draft s transitions)
      have ids := change_ids p same found
      refine Ends.ok (moved.trans (change_moves p same found listed))
        ⟨ids,fun key other => ?_,applyActions (updateActions draft s transitions) s,?_,?_⟩
      · rw [p.change_by_key found,if_neg other]
      · rw [p.change_by_key found,if_pos rfl]
      · exact applied_agrees draft s transitions distinct (ids ▸ right)
    · rw [ran]
      exact Ends.error moved fun good => lost (good _ _ _ ok)

structure Updatable (p : Project) (t : Dict String) (pair : StateDraft × State) : Prop where
  current : p.byKey pair.1.key = some pair.2
  translated : ∃ transitions, translate t.get pair.1.transitions = .ok transitions ∧
    translate p.idOf pair.1.transitions = .ok transitions
  distinct : pair.1.description.keys.Nodup ∧ pair.1.name.keys.Nodup

theorem update_all {pairs : List (StateDraft × State)} (moved : Moves keys origin p)
    (listed : ∀ pair ∈ pairs, pair.1.key ∈ keys) (different : (pairs.map (·.1.key)).Nodup)
    (ready : ∀ pair ∈ pairs, Updatable p t pair) :
    (updateAll t pairs).wp serve allowed (Ends (∀ choice p r, allowed choice p r → Good choice p r) (Moves keys origin)
      fun _ q => q.idOf = p.idOf ∧ (∀ key, key ∉ pairs.map (·.1.key) → q.byKey key = p.byKey key) ∧
        ∀ pair ∈ pairs, Agreed q pair.1) p := by
  induction pairs generalizing p with
  | nil => exact Ends.ok moved ⟨rfl,fun _ _ => rfl,by simp⟩
  | cons pair rest ih =>
    have ⟨here,later⟩ := List.forall_mem_cons.mp listed
    have ⟨now,soon⟩ := List.forall_mem_cons.mp ready
    have ⟨apart,different'⟩ := List.nodup_cons.mp different
    obtain ⟨transitions,translated,right⟩ := now.translated
    apply ends_seq (update_spec moved here now.current translated right now.distinct)
    intro _ q moved' ⟨ids,untouched,s,found,agrees⟩
    have still : ∀ other ∈ rest, Updatable q t other := by
      intro other member
      have ⟨current,translated,distinct⟩ := soon other member
      have elsewhere : other.1.key ≠ pair.1.key := fun same => apart (List.mem_map.mpr ⟨other,member,same⟩)
      exact ⟨(untouched _ elsewhere).trans current,ids ▸ translated,distinct⟩
    refine Prog.wp_mono (ih moved' later different' still) fun out r ends => ends.mono id (fun _ _ post => ?_) id
    obtain ⟨ids',untouched',agreed⟩ := post
    refine ⟨ids'.trans ids,fun key unlisted => ?_,List.forall_mem_cons.mpr ⟨⟨s,?_,ids' ▸ agrees⟩,agreed⟩⟩
    · have ⟨not_here,not_later⟩ := not_or.mp (mt List.mem_cons.mpr unlisted)
      exact (untouched' key not_later).trans (untouched key not_here)
    · exact (untouched' _ apart).trans found

theorem fetched_updatable {pairs : List (StateDraft × State)} (formed : WellFormed drafts)
    (present : ∀ draft ∈ drafts, (p.idOf draft.key).isSome) (drafted : pairs.map (·.1) = drafts)
    (current : ∀ pair ∈ pairs, p.byKey pair.1.key = some pair.2) (right : Translates p (drafts.map (·.key)) t) :
    ∀ pair ∈ pairs, Updatable p t pair := by
  intro pair member
  have drafts_have : pair.1 ∈ drafts := drafted ▸ List.mem_map_of_mem member
  have closed := formed.closed pair.1 drafts_have
  have there : ∀ key ∈ pair.1.transitions.getD [], (p.idOf key).isSome := by
    intro key leads
    obtain ⟨draft,listed,rfl⟩ := List.mem_map.mp (closed key leads)
    exact present draft listed
  obtain ⟨ids,led⟩ := translate_some there
  have same := translate_congr fun key leads => right key (closed key leads)
  exact ⟨current pair member,⟨ids,same.trans led,led⟩,formed.texts pair.1 drafts_have⟩

-- Drafts brought to the project: what is not drafted stays as it was, the states
-- are as drafted when the program returns, and it returns from a good service.
theorem provision_spec (formed : WellFormed drafts) (p : Project) :
    (provision drafts).wp serve allowed (Ends (∀ choice p r, allowed choice p r → Good choice p r)
      (Moves (drafts.map (·.key)) p) fun _ q => ∀ draft ∈ drafts, Agreed q draft) p := by
  have listed : ∀ draft ∈ drafts, draft.key ∈ drafts.map (·.key) := fun _ member => List.mem_map_of_mem member
  apply ends_seq (Prog.wp_mono (ensure_all (Moves.refl _ p) listed) fun out q ends => ends.mono id (fun _ _ post => post.2) id)
  intro _ q moved present
  have nothing : Translates q [] [] := by simp [Translates]
  apply ends_seq (fetch_all moved nothing (by simp) (fun good choice p r ok => (good choice p r ok).through) fun _ => present)
  rintro ⟨t,pairs⟩ r moved' ⟨rfl,drafted,current,right,_⟩
  dsimp only at drafted current right
  have keys : pairs.map (·.1.key) = drafts.map (·.key) := by
    rw [← drafted,List.map_map]
    rfl
  have ready := fetched_updatable formed present drafted current right
  have members : ∀ pair ∈ pairs, pair.1.key ∈ drafts.map (·.key) := fun pair member =>
    listed _ (drafted ▸ List.mem_map_of_mem member)
  refine Prog.wp_mono (update_all moved' members (keys ▸ formed.keys) ready) fun out s ends =>
    ends.mono id (fun _ _ post draft member => ?_) id
  rw [← drafted] at member
  obtain ⟨pair,listed,rfl⟩ := List.mem_map.mp member
  exact post.2.2 pair listed

theorem ensure_again {good : Prop} (answers : good → ∀ choice p r, allowed choice p r → choice.through)
    (found : p.byKey draft.key = some s) :
    (ensure draft).wp serve allowed (Ends good (· = p) fun _ q => q = p) p := by
  intro choice ok
  rcases serve_get choice draft.key p with ⟨s,found,ran⟩ | ⟨e,unknown,ran⟩
  · rw [ran]
    exact Ends.ok rfl rfl
  · rw [ran]
    have bad : ¬good := fun well => by
      have absent := unknown (answers well _ _ _ ok)
      rw [absent] at found
      cases found
    intro choice' ok'
    rcases serve_create choice' draft p with ⟨s',fresh,made,ran'⟩ | ⟨e',refused,ran'⟩
    · have ⟨listed,named⟩ := p.by_key.mp found
      refine absurd ?_ fresh.2.2.2.1
      rw [made,← named]
      exact List.mem_map_of_mem listed
    · rw [ran']
      exact Ends.error rfl bad

theorem ensure_all_again {good : Prop} (answers : good → ∀ choice p r, allowed choice p r → choice.through)
    (agreed : ∀ draft ∈ drafts, Agreed p draft) :
    (ensureAll drafts).wp serve allowed (Ends good (· = p) fun _ q => q = p) p := by
  induction drafts with
  | nil => exact Ends.ok rfl rfl
  | cons draft rest ih =>
    have ⟨⟨s,found,_⟩,later⟩ := List.forall_mem_cons.mp agreed
    apply ends_seq (ensure_again answers found)
    rintro _ _ rfl _
    exact ih later

theorem update_none (translated : translate t.get draft.transitions = .ok transitions)
    (found : p.byKey draft.key = some s) (right : translate p.idOf draft.transitions = .ok transitions)
    (agreed : Agreed p draft) : update t draft s = .pure () := by
  obtain ⟨_,found',agrees⟩ := agreed
  rw [found] at found'
  cases found'
  have led : transitions = s.transitions := by
    have same := agrees.transitions
    rw [right] at same
    exact Except.ok.inj same
  unfold update
  rw [translated]
  exact if_pos ((agreed_actions _ _ _).mpr ⟨led,agrees.initial,agrees.description,agrees.name⟩)

theorem provision_again {good : Prop} (answers : good → ∀ choice p r, allowed choice p r → choice.through)
    (formed : WellFormed drafts) (agreed : ∀ draft ∈ drafts, Agreed p draft) :
    (provision drafts).wp serve allowed (Ends good (· = p) fun _ _ => True) p := by
  have present : ∀ draft ∈ drafts, (p.idOf draft.key).isSome := by
    intro draft member
    obtain ⟨s,found,_⟩ := agreed draft member
    rw [Project.id_of found]
    rfl
  apply ends_seq (ensure_all_again answers agreed)
  rintro _ p rfl _
  have nothing : Translates p [] [] := by simp [Translates]
  have fetched : (fetchAll drafts []).wp serve allowed (Ends good (· = p) _) p :=
    fetch_all rfl nothing (by simp) answers fun _ => present
  apply ends_seq fetched
  rintro ⟨t,pairs⟩ p rfl ⟨_,drafted,current,right,_⟩
  dsimp only at drafted current right
  have ready := fetched_updatable formed present drafted current right
  have none_updated : updateAll t pairs = .pure () := by
    have each : ∀ pair ∈ pairs, update t pair.1 pair.2 = .pure () := by
      intro pair member
      obtain ⟨transitions,translated,led⟩ := (ready pair member).translated
      exact update_none translated (current pair member) led (agreed _ (drafted ▸ List.mem_map_of_mem member))
    clear * - each
    induction pairs with
    | nil => rfl
    | cons pair rest ih =>
      have ⟨here,later⟩ := List.forall_mem_cons.mp each
      rw [updateAll,here]
      exact ih later
  rw [none_updated]
  exact Ends.ok rfl trivial

end Specs

theorem order_states_formed : WellFormed orderStates := by
  refine ⟨?_,?_,?_⟩ <;> decide +kernel

def Machine (p : Project) (table : Fulfillment.StateTable) : Prop :=
  ∀ k : Fulfillment.FulfillmentState, ∃ s, p.byKey k.key = some s ∧ s.id = table.id k ∧
    s.transitions = some (k.transitions.map table.id) ∧ s.initial = decide (k = .initial)

def draftOf : Fulfillment.FulfillmentState → StateDraft
  | .initial => initialFulfillmentState
  | .pending => pendingFulfillmentState
  | .processing => processingFulfillmentState
  | .success => successFulfillmentState
  | .failure => failedFulfillmentState

theorem draft_of (k : Fulfillment.FulfillmentState) : draftOf k ∈ orderStates ∧ (draftOf k).key = k.key ∧
    (draftOf k).transitions = some (k.transitions.map (·.key)) ∧ (draftOf k).initial = some (decide (k = .initial)) := by
  cases k <;> exact ⟨by simp [orderStates,draftOf],rfl,rfl,rfl⟩

theorem agreed_machine (agreed : ∀ draft ∈ orderStates, Agreed p draft) : ∃ table, Machine p table := by
  have found : ∀ k : Fulfillment.FulfillmentState, ∃ s, p.byKey k.key = some s ∧ Agrees p.idOf (draftOf k) s := by
    intro k
    have ⟨listed,named,_⟩ := draft_of k
    obtain ⟨s,found,agrees⟩ := agreed _ listed
    exact ⟨s,named ▸ found,agrees⟩
  have known : ∀ k : Fulfillment.FulfillmentState, ∃ s, p.byKey k.key = some s ∧ (p.idOf k.key).getD "" = s.id := by
    intro k
    obtain ⟨s,found,_⟩ := found k
    exact ⟨s,found,by rw [Project.id_of found,Option.getD_some]⟩
  have injective : Function.Injective fun k : Fulfillment.FulfillmentState => (p.idOf k.key).getD "" := by
    intro a b same
    obtain ⟨s,found,here⟩ := known a
    obtain ⟨t,found',there⟩ := known b
    have ⟨listed,named⟩ := p.by_key.mp found
    have ⟨listed',named'⟩ := p.by_key.mp found'
    have twin := List.inj_on_of_nodup_map p.ids listed listed' (here.symm.trans (same.trans there))
    exact Fulfillment.FulfillmentState.key_injective (named.symm.trans ((congrArg State.key twin).trans named'))
  refine ⟨⟨_,injective⟩,fun k => ?_⟩
  obtain ⟨s,found,agrees⟩ := found k
  have ⟨_,_,leads,begins⟩ := draft_of k
  refine ⟨s,found,?_,?_,agrees.initial _ begins⟩
  · dsimp only
    rw [Project.id_of found,Option.getD_some]
  · have led := agrees.transitions
    have each : ∀ key ∈ k.transitions.map (·.key), p.idOf key = some ((p.idOf key).getD "") := by
      intro key member
      obtain ⟨other,_,rfl⟩ := List.mem_map.mp member
      obtain ⟨t,found',_⟩ := known other
      rw [Project.id_of found',Option.getD_some]
    rw [leads,translate_ids (g := fun key => (p.idOf key).getD "") _ each,List.map_map] at led
    exact (Except.ok.inj led).symm

def anything (_ : Choice) (_ : Project) (_ : Request) : Bool := true

def answered (choice : Choice) (_ : Project) (_ : Request) : Prop := choice.through

-- Whenever the command returns, the states are those of the fulfilment machine, the
-- others as they were, and running it again moves nothing.
theorem states_provisioned {p q : Project} {choices : List Choice}
    (ran : handle.replay serve anything choices p = some (.ok (),q)) :
    (∃ table, Machine q table) ∧ (∀ draft ∈ orderStates, Agreed q draft) ∧ Moves (orderStates.map (·.key)) p q ∧
      ∀ again out r, handle.replay serve anything again q = some (out,r) → r = q := by
  have ends := Prog.wp_replay (provision_spec order_states_formed p) ran
  have agreed := ends.2.1 () rfl
  refine ⟨agreed_machine agreed,agreed,ends.1,fun again out r reran => ?_⟩
  exact (Prog.wp_replay (provision_again (fun never : False => never.elim) order_states_formed agreed) reran).1

def nothingYet : Project := ⟨[],List.nodup_nil,List.nodup_nil,by simp⟩

def created (id : String) : List Choice := [⟨true,true,id⟩,⟨true,true,id⟩]

def firstRun : List Choice :=
  ["a","b","c","d","e","f"].flatMap created ++ List.replicate 9 ⟨true,true,""⟩

theorem states_provisioned_first : ∃ q, handle.replay serve anything firstRun nothingYet = some (.ok (),q) ∧
    (∃ table, Machine q table) ∧ (∀ draft ∈ orderStates, Agreed q draft) ∧
      Moves (orderStates.map (·.key)) nothingYet q ∧
        ∀ again out r, handle.replay serve anything again q = some (out,r) → r = q := by
  have returned : (handle.replay serve anything firstRun nothingYet).map (fun result => result.1.isOk) = some true := by
    decide +kernel
  obtain ⟨⟨out,q⟩,ran,done⟩ := Option.map_eq_some_iff.mp returned
  cases out with
  | error e => cases done
  | ok value => exact ⟨q,ran,states_provisioned ran⟩

-- From any project a service that answers and takes the new states brings the
-- command to its end, and from there one that answers brings it to its end again.
theorem provisioning_ends (p : Project) :
    handle.wp serve Good (fun out q => out = .ok () ∧ (∃ table, Machine q table) ∧
      handle.wp serve answered (fun out r => out = .ok () ∧ r = q) q) p := by
  refine Prog.wp_mono (provision_spec order_states_formed p) fun out q ends => ?_
  obtain ⟨⟨⟩,rfl⟩ := ends.2.2 fun _ _ _ good => good
  have agreed := ends.2.1 () rfl
  refine ⟨rfl,agreed_machine agreed,?_⟩
  have settled := provision_again (fun (_ : True) (choice : Choice) p r (ok : answered choice p r) => ok) order_states_formed
    agreed
  refine Prog.wp_mono settled fun out r again => ?_
  obtain ⟨⟨⟩,rfl⟩ := again.2.2 trivial
  exact ⟨rfl,again.1⟩

end StateProvisioning
