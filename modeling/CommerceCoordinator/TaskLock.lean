import CommerceCoordinator.Fulfillment
import CommerceCoordinator.TimedCache
import Mathlib.Algebra.Ring.Nat
import Mathlib.Order.Nat

open CallTree TimedCache

-- core/tasks.py: a lock that is a cache entry, for tasks that do anything else
-- between their calls of the cache.
namespace TaskLock

-- Lock expires in 1 minute
def TASK_LOCK_EXPIRE : Nat := 60*1

section Tasks
variable {Work : Type}

inductive Request (Work : Type) where
  | cacheAdd (key value : String) (timeout : Nat)
  | cacheDelete (key : String)
  | work (call : Work)

abbrev Response (Answer : Work → Type) : Request Work → Type
  | .cacheAdd _ _ _ => Bool
  | .cacheDelete _ => Unit
  | .work call => Answer call

abbrev Task (Answer : Work → Type) := Prog (Request Work) (Response Answer)

variable {Answer : Work → Type} {ε : Type}

def acquireTaskLock (taskKey : String) (taskExpiry : Nat) : Task Answer ε Bool :=
  .perform (Request.cacheAdd taskKey "true" taskExpiry)

def releaseTaskLock (taskKey : String) : Task Answer ε Unit := .perform (Request.cacheDelete taskKey)

end Tasks

-- fulfillment_completed_update_ct_line_item_task, its lock in the cache
section Fulfilling

inductive Work where
  | getOrderById
  | getStateById (stateId : String)
  | updateById (version : Nat) (actions : List Fulfillment.OrderAction)

abbrev Answer : Work → Type
  | .getOrderById => Except Commercetools.ErrorCode Commercetools.Order
  | .getStateById _ => Except Commercetools.ErrorCode String
  | .updateById _ _ => Except Commercetools.ErrorCode Commercetools.Order

def request (taskKey : String) : Fulfillment.Request → Request Work
  | .acquireTaskLock => .cacheAdd taskKey "true" TASK_LOCK_EXPIRE
  | .releaseTaskLock => .cacheDelete taskKey
  | .getOrderById => .work .getOrderById
  | .getStateById stateId => .work (.getStateById stateId)
  | .updateById version actions => .work (.updateById version actions)

def answer (taskKey : String) : (r : Fulfillment.Request) → Response Answer (request taskKey r) → Fulfillment.Response r
  | .acquireTaskLock,x => x
  | .releaseTaskLock,x => x
  | .getOrderById,x => x
  | .getStateById _,x => x
  | .updateById _ _,x => x

def fulfillmentCompletedUpdateCtLineItemTask (taskKey : String) (m : Fulfillment.Message) :
    Task Answer Fulfillment.Interruption Commercetools.Order :=
  (Fulfillment.fulfillmentCompletedUpdateCtLineItemTask m).embed (request taskKey) (answer taskKey)

theorem acquired_in_cache (taskKey : String) :
    Fulfillment.acquireTaskLock.embed (request taskKey) (answer taskKey) = acquireTaskLock taskKey TASK_LOCK_EXPIRE := rfl

theorem released_in_cache (taskKey : String) :
    Fulfillment.releaseTaskLock.embed (request taskKey) (answer taskKey) = releaseTaskLock taskKey := rfl

end Fulfilling

-- Every entry keeps the name of its writer, which no task reads. `acquired` is
-- until when a task has acquired a lock it has not released. The clock counts
-- milliseconds.
structure LockState (ι : Type) where
  cache : Cache String (String × ι) Nat
  acquired : String → ι → Option Nat

section Locks
variable {ι Work : Type} {Answer : Work → Type} {s : LockState ι} {taskKey key : String} {i j : ι}

def Holds (s : LockState ι) (taskKey : String) (i : ι) : Prop :=
  ∃ deadline, s.acquired taskKey i = some deadline ∧ s.cache.now < deadline

def Owned (s : LockState ι) : Prop :=
  ∀ taskKey i deadline, s.acquired taskKey i = some deadline → s.cache.now < deadline →
    ∃ value, s.cache.lookup taskKey = some ⟨(value,i),deadline⟩

-- What a release is allowed to find: the task's own lock before its timeout, or
-- no entry at all.
def InTime (s : LockState ι) : ι × Request Work → Prop
  | (i,.cacheDelete taskKey) => Holds s taskKey i ∨ s.cache.lookup taskKey = none
  | _ => True

instance : Decidable (Holds s taskKey i) :=
  decidable_of_iff ((s.acquired taskKey i).any (s.cache.now < ·) = true) (by
    simp [Holds,Option.any_eq_true])

instance : DecidablePred (@InTime ι Work s) := fun r =>
  match r with
  | (i,.cacheDelete taskKey) =>
    inferInstanceAs (Decidable (Holds s taskKey i ∨ s.cache.lookup taskKey = none))
  | (_,.cacheAdd _ _ _) => inferInstanceAs (Decidable True)
  | (_,.work _) => inferInstanceAs (Decidable True)

theorem Owned.exclusive (owned : Owned s) (first : Holds s taskKey i) (second : Holds s taskKey j) : i = j := by
  obtain ⟨d,acquired,live⟩ := first
  obtain ⟨d',acquired',live'⟩ := second
  obtain ⟨value,found⟩ := owned _ _ _ acquired live
  obtain ⟨value',found'⟩ := owned _ _ _ acquired' live'
  rw [found] at found'
  cases found'
  rfl

theorem Owned.writer (owned : Owned s) (holds : Holds s taskKey i) (found : s.cache.lookup taskKey = some e) :
    s.acquired taskKey i = some e.deadline ∧ e.value.2 = i := by
  obtain ⟨d,acquired,live⟩ := holds
  obtain ⟨value,own⟩ := owned _ _ _ acquired live
  rw [found] at own
  cases own
  exact ⟨acquired,rfl⟩

variable [DecidableEq ι]

def LockState.note (s : LockState ι) (taskKey : String) (i : ι) (held : Option Nat) : String → ι → Option Nat :=
  fun key j => if key = taskKey ∧ j = i then held else s.acquired key j

def serve (answers : (call : Work) → Answer call) :
    (r : ι × Request Work) → LockState ι → Response Answer r.2 × LockState ι
  | (i,.cacheAdd key value timeout),s =>
    let deadline := s.cache.now+1000*timeout
    match s.cache.add key (value,i) deadline with
    | (true,cache) => (true,⟨cache,s.note key i (some deadline)⟩)
    | (false,_) => (false,s)
  | (i,.cacheDelete key),s => ((),⟨s.cache.delete key,s.note key i none⟩)
  | (_,.work call),s => (answers call,s)

theorem add_cases (answers : (call : Work) → Answer call) (i : ι) (key value : String) (timeout : Nat) (s : LockState ι) :
    (∃ e, s.cache.lookup key = some e ∧ serve answers (i,.cacheAdd key value timeout) s = (false,s)) ∨
    s.cache.lookup key = none ∧ serve answers (i,.cacheAdd key value timeout) s =
      (true,⟨s.cache.set key (value,i) (s.cache.now+1000*timeout),s.note key i (some (s.cache.now+1000*timeout))⟩) := by
  rcases s.cache.add_cases key (value,i) (s.cache.now+1000*timeout) with ⟨e,found,refused⟩ | ⟨free,added⟩
  · exact .inl ⟨e,found,by simp [serve,refused]⟩
  · exact .inr ⟨free,by simp [serve,added]⟩

theorem add_owned (owned : Owned s) (free : s.cache.lookup key = none) (value : String) (deadline : Nat) :
    Owned ⟨s.cache.set key (value,i) deadline,s.note key i (some deadline)⟩ := by
  intro other j d acquired live
  simp only [LockState.note] at acquired
  split at acquired
  · rename_i own
    obtain ⟨rfl,rfl⟩ := own
    cases acquired
    exact ⟨value,Cache.lookup_set.mpr ⟨rfl,live⟩⟩
  · obtain ⟨value',found⟩ := owned _ _ _ acquired live
    have different : other ≠ key := by
      intro same
      rw [same,free] at found
      cases found
    exact ⟨value',by rw [Cache.lookup_set_other different]; exact found⟩

theorem delete_owned (owned : Owned s) (inTime : Holds s key i ∨ s.cache.lookup key = none) :
    Owned ⟨s.cache.delete key,s.note key i none⟩ := by
  intro other j d acquired live
  simp only [LockState.note] at acquired
  split at acquired
  · cases acquired
  · rename_i apart
    obtain ⟨value,found⟩ := owned _ _ _ acquired live
    have different : other ≠ key := by
      intro same
      subst same
      rcases inTime with holds | free
      · exact apart ⟨rfl,(owned.exclusive holds ⟨d,acquired,live⟩).symm⟩
      · rw [free] at found
        cases found
    exact ⟨value,by rw [Cache.lookup_delete_other different]; exact found⟩

theorem serve_owned (owned : Owned s) (answers : (call : Work) → Answer call) (r : ι × Request Work)
    (inTime : InTime s r) : Owned (serve answers r s).2 := by
  obtain ⟨i,call⟩ := r
  cases call with
  | cacheAdd key value timeout =>
    rcases add_cases answers i key value timeout s with ⟨e,_,refused⟩ | ⟨free,added⟩
    · rw [refused]
      exact owned
    · rw [added]
      exact add_owned owned free value _
  | cacheDelete key => exact delete_owned owned inTime
  | work call => exact owned

omit [DecidableEq ι] in
theorem advance_owned {next : Cache String (String × ι) Nat} (owned : Owned s) (moved : s.cache.advance later = some next) :
    Owned ⟨next,s.acquired⟩ := by
  intro key i d acquired live
  obtain ⟨forward,rfl⟩ := Cache.advance_some.mp moved
  obtain ⟨value,found⟩ := owned _ _ _ acquired (Nat.lt_of_le_of_lt forward live)
  exact ⟨value,(Cache.lookup_advance moved).mpr ⟨found,live⟩⟩

end Locks

section Runs
variable {ι Work ε α : Type} {Answer : Work → Type}

def workers [DecidableEq ι] (restarts : ε → Bool) :
    System (ι × Request Work) (fun r => Response Answer r.2) ε (LockState ι) ((call : Work) → Answer call) Nat where
  serve := serve
  environment := fun later s => (s.cache.advance later).map fun cache => ⟨cache,s.acquired⟩
  restarts := restarts

abbrev Workers (Answer : Work → Type) (ε α ι : Type) :=
  Config (ι × Request Work) (fun r => Response Answer r.2) ε α (LockState ι) ι

def tasksOf (tasks : ι → Task Answer ε α) (i : ι) : Prog (ι × Request Work) (fun r => Response Answer r.2) ε α :=
  (tasks i).signed i

-- Before any of the tasks, the cache may hold anything.
def started (cache : Cache String (String × ι) Nat) (tasks : ι → Task Answer ε α) : Workers Answer ε α ι :=
  ⟨⟨cache,fun _ _ => none⟩,tasksOf tasks⟩

abbrev Runs [DecidableEq ι] (restarts : ε → Bool) (tasks : ι → Task Answer ε α) :
    Workers Answer ε α ι → List (Event ι ((call : Work) → Answer call) Nat) → Workers Answer ε α ι → Prop :=
  RunsWhen ((workers restarts).step (tasksOf tasks)) (Permitted fun _ => InTime)

variable [DecidableEq ι] {restarts : ε → Bool} {tasks : ι → Task Answer ε α}

theorem owned_along (path : Runs restarts tasks (started cache tasks) events c) : Owned c.shared := by
  apply path.preserves (fun c => Owned c.shared)
  · intro taskKey i d acquired
    cases acquired
  · intro c event next owned inTime ran
    rcases System.step_cases ran with ⟨i,choice,r,cont,rfl,at_call,rfl⟩ | ⟨i,e,rfl,failed,listed,rfl⟩ |
      ⟨later,t,rfl,moved,rfl⟩
    · exact serve_owned owned choice r (inTime r cont at_call)
    · exact owned
    · obtain ⟨cache,advanced,rfl⟩ := Option.map_eq_some_iff.mp moved
      exact advance_owned owned advanced

-- Any number of tasks, started at any time, each of which does whatever it likes
-- between its acquisitions and releases.
theorem lock_owned (restarts : ε → Bool) (tasks : ι → Task Answer ε α) (cache : Cache String (String × ι) Nat)
    (path : Runs restarts tasks (started cache tasks) events c) :
    (∀ taskKey i j, Holds c.shared taskKey i → Holds c.shared taskKey j → i = j) ∧
    ∀ thread choice i taskKey cont e, c.threads thread = .call (i,.cacheDelete taskKey) cont →
      Permitted (fun _ => InTime) c (.act thread choice : Event ι ((call : Work) → Answer call) Nat) →
      c.shared.cache.lookup taskKey = some e →
      c.shared.acquired taskKey i = some e.deadline ∧ e.value.2 = i := by
  have owned := owned_along path
  refine ⟨fun _ _ _ => owned.exclusive,?_⟩
  intro thread choice i taskKey cont e releasing inTime found
  rcases inTime _ _ releasing with holds | free
  · exact owned.writer holds found
  · rw [found] at free
    cases free

end Runs

section FulfillmentTasks

def taskKey : String := "fulfillment_completed_update_ct_line_item_task:1:order"

def rivals (_ : Fin 3) : Task Answer Fulfillment.Interruption Commercetools.Order :=
  fulfillmentCompletedUpdateCtLineItemTask taskKey ⟨"","line-item",true⟩

def outage : (call : Work) → Answer call
  | .getOrderById => .error .unavailable
  | .getStateById _ => .error .unavailable
  | .updateById _ _ => .error .unavailable

def emptyCache : Cache String (String × Fin 3) Nat := ⟨0,fun _ => none⟩

-- Every exception is retried, except that a locked task has ended.
def retried : Fulfillment.Interruption → Bool
  | .requeued => false
  | .failed _ => true

def releasing (c : Workers Answer ε α ι) (i : ι) : Option (ι × String) :=
  match c.threads i with
  | .call (j,.cacheDelete key) _ => some (j,key)
  | _ => none

theorem releasing_some {c : Workers Answer ε α ι} (at_release : releasing c i = some (j,key)) :
    ∃ cont, c.threads i = .call (j,.cacheDelete key) cont := by
  unfold releasing at at_release
  split at at_release
  · rename_i j' key' cont at_call
    cases at_release
    exact ⟨cont,at_call⟩
  · cases at_release

abbrev Moment (n : Nat) := Event (Fin n) ((call : Work) → Answer call) Nat

local instance three_tasks : NeZero 3 := ⟨by omega⟩

-- The first task comes to its release just before its timeout; the second one
-- was refused the lock.
def oneMinute : List (Moment 3) := [.act 0 outage,.act 1 outage,.act 0 outage,.world 59999]

theorem rival_releases_own_entry :
    ∃ c e, run ((workers retried).step (tasksOf rivals)) (started emptyCache rivals) oneMinute = some c ∧
      releasing c 0 = some (0,taskKey) ∧ c.shared.cache.lookup taskKey = some e ∧
      c.shared.acquired taskKey 0 = some e.deadline ∧ e.value.2 = 0 := by
  have ran : ((guardedRun ((workers retried).step (tasksOf rivals)) (permitted fun _ s r => decide (InTime s r))
    (started emptyCache rivals) oneMinute).map fun c =>
      (releasing c 0,decide (Holds c.shared taskKey 0),(c.shared.cache.lookup taskKey).isSome)) =
      some (some (0,taskKey),true,true) := by
    decide +kernel
  obtain ⟨c,reached,seen⟩ := Option.map_eq_some_iff.mp ran
  obtain ⟨release,rest⟩ := Prod.mk.inj seen
  obtain ⟨holds,present⟩ := Prod.mk.inj rest
  obtain ⟨e,found⟩ := Option.isSome_iff_exists.mp present
  obtain ⟨cont,at_release⟩ := releasing_some release
  have path : Runs retried rivals (started emptyCache rivals) oneMinute c :=
    RunsWhen.nil.guarded (fun c event => permitted_decide c event) reached
  have owned := (lock_owned retried rivals emptyCache path).2 0 outage 0 taskKey cont e at_release
    (by
      intro r next at_call
      rw [at_release] at at_call
      cases at_call
      exact .inl (of_decide_eq_true holds)) found
  exact ⟨c,e,path.sound,release,found,owned⟩

-- A task outlives its timeout, a second one acquires the lock, the first one
-- releases it, and a third one acquires it beside the second.
def lateRelease : List (Moment 3) :=
  [.act 0 outage,.world 60000,.act 1 outage,.act 0 outage,.act 0 outage,.act 2 outage]

theorem lock_held_twice :
    ∃ c, run ((workers retried).step (tasksOf rivals)) (started emptyCache rivals) lateRelease = some c ∧
      Holds c.shared taskKey 1 ∧ Holds c.shared taskKey 2 := by
  have ran : ((run ((workers retried).step (tasksOf rivals)) (started emptyCache rivals) lateRelease).map fun c =>
      (decide (Holds c.shared taskKey 1),decide (Holds c.shared taskKey 2))) = some (true,true) := by
    decide +kernel
  obtain ⟨c,reached,seen⟩ := Option.map_eq_some_iff.mp ran
  obtain ⟨second,third⟩ := Prod.mk.inj seen
  exact ⟨c,reached,of_decide_eq_true second,of_decide_eq_true third⟩

end FulfillmentTasks
end TaskLock
