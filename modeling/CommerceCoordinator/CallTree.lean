import Mathlib.Logic.Function.Basic

namespace CallTree

-- A program that talks to external services: pure computation up to the next
-- call, then a continuation for each possible answer. The tree is finite, so
-- an unbounded retry is a restart of the tree and not part of it.
inductive Prog (Req : Type) (Resp : Req → Type) (ε α : Type) where
  | pure (value : α)
  | raise (error : ε)
  | call (request : Req) (next : Resp request → Prog Req Resp ε α)

variable {Req : Type} {Resp : Req → Type} {ε α β σ κ η ι : Type}

namespace Prog

def bind : Prog Req Resp ε α → (α → Prog Req Resp ε β) → Prog Req Resp ε β
  | .pure a,f => f a
  | .raise e,_ => .raise e
  | .call r next,f => .call r fun x => (next x).bind f

def handle : Prog Req Resp ε α → (ε → Prog Req Resp ε α) → Prog Req Resp ε α
  | .pure a,_ => .pure a
  | .raise e,h => h e
  | .call r next,h => .call r fun x => (next x).handle h

instance : Monad (Prog Req Resp ε) where
  pure := .pure
  bind := bind

@[simp] theorem pure_bind (a : α) (f : α → Prog Req Resp ε β) : (.pure a : Prog Req Resp ε α).bind f = f a := rfl
@[simp] theorem raise_bind (e : ε) (f : α → Prog Req Resp ε β) :
    (.raise e : Prog Req Resp ε α).bind f = .raise e := rfl
@[simp] theorem call_bind (r : Req) (next : Resp r → Prog Req Resp ε α) (f : α → Prog Req Resp ε β) :
    (Prog.call r next).bind f = .call r fun x => (next x).bind f := rfl
@[simp] theorem monad_pure (a : α) : (Pure.pure a : Prog Req Resp ε α) = .pure a := rfl
@[simp] theorem monad_bind (p : Prog Req Resp ε α) (f : α → Prog Req Resp ε β) : p >>= f = p.bind f := rfl
@[simp] theorem pure_handle (a : α) (h : ε → Prog Req Resp ε α) :
    (.pure a : Prog Req Resp ε α).handle h = .pure a := rfl
@[simp] theorem raise_handle (e : ε) (h : ε → Prog Req Resp ε α) :
    (.raise e : Prog Req Resp ε α).handle h = h e := rfl
@[simp] theorem call_handle (r : Req) (next : Resp r → Prog Req Resp ε α) (h : ε → Prog Req Resp ε α) :
    (Prog.call r next).handle h = .call r fun x => (next x).handle h := rfl

theorem bind_pure (p : Prog Req Resp ε α) : p.bind .pure = p := by
  induction p with
  | pure a => rfl
  | raise e => rfl
  | call r next ih => exact congrArg (Prog.call r) (funext ih)

theorem bind_assoc (p : Prog Req Resp ε α) (f : α → Prog Req Resp ε β) (g : β → Prog Req Resp ε κ) :
    (p.bind f).bind g = p.bind fun a => (f a).bind g := by
  induction p with
  | pure a => rfl
  | raise e => rfl
  | call r next ih => exact congrArg (Prog.call r) (funext ih)

def perform (r : Req) : Prog Req Resp ε (Resp r) := .call r .pure

def firstCall : Prog Req Resp ε α → Option Req
  | .call r _ => some r
  | _ => none

-- An answer that may be an error, raised under the caller's name for it.
def expect {δ : Type} (raised : δ → ε) (p : Prog Req Resp ε (Except δ α)) : Prog Req Resp ε α :=
  p.bind fun
    | .ok a => .pure a
    | .error e => .raise (raised e)

def orRaise {δ : Type} (raised : δ → ε) : Except δ α → Prog Req Resp ε α
  | .ok a => .pure a
  | .error e => .raise (raised e)

@[simp] theorem or_raise_ok {δ : Type} (raised : δ → ε) (a : α) :
    (orRaise raised (.ok a) : Prog Req Resp ε α) = .pure a := rfl
@[simp] theorem or_raise_error {δ : Type} (raised : δ → ε) (e : δ) :
    (orRaise raised (.error e) : Prog Req Resp ε α) = .raise (raised e) := rfl

theorem or_raise_cases {δ : Type} (raised : δ → ε) (x : Except δ α) :
    (∃ a, x = .ok a ∧ (orRaise raised x : Prog Req Resp ε α) = .pure a) ∨
      ∃ e, x = .error e ∧ (orRaise raised x : Prog Req Resp ε α) = .raise (raised e) := by
  cases x with
  | ok a => exact .inl ⟨a,rfl,rfl⟩
  | error e => exact .inr ⟨e,rfl,rfl⟩

-- `attempts` further executions after a retryable failure; the last error is
-- re-raised unchanged.
def retry (retryable : ε → Bool) : Nat → Prog Req Resp ε α → Prog Req Resp ε α
  | 0,p => p
  | attempts+1,p => p.handle fun e => if retryable e then retry retryable attempts p else .raise e

-- A failure becomes a value, for a caller with exceptions of its own.
def attempt {δ : Type} : Prog Req Resp δ α → Prog Req Resp ε (Except δ α)
  | .pure a => .pure (.ok a)
  | .raise e => .pure (.error e)
  | .call r next => .call r fun x => (next x).attempt

def embed {Req' : Type} {Resp' : Req' → Type} (request : Req → Req') (answer : (r : Req) → Resp' (request r) → Resp r) :
    Prog Req Resp ε α → Prog Req' Resp' ε α
  | .pure a => .pure a
  | .raise e => .raise e
  | .call r next => .call (request r) fun x => (next (answer r x)).embed request answer

section Embedding
variable {Req' : Type} {Resp' : Req' → Type} {request : Req → Req'} {answer : (r : Req) → Resp' (request r) → Resp r}

theorem embed_bind (p : Prog Req Resp ε α) (f : α → Prog Req Resp ε β) :
    (p.bind f).embed request answer = (p.embed request answer).bind fun a => (f a).embed request answer := by
  induction p with
  | pure a => rfl
  | raise e => rfl
  | call r next ih => exact congrArg (Prog.call (request r)) (funext fun x => ih (answer r x))

theorem embed_handle (p : Prog Req Resp ε α) (h : ε → Prog Req Resp ε α) :
    (p.handle h).embed request answer = (p.embed request answer).handle fun e => (h e).embed request answer := by
  induction p with
  | pure a => rfl
  | raise e => rfl
  | call r next ih => exact congrArg (Prog.call (request r)) (funext fun x => ih (answer r x))

theorem embed_retry {retryable : ε → Bool} (attempts : Nat) (p : Prog Req Resp ε α) :
    (p.retry retryable attempts).embed request answer = (p.embed request answer).retry retryable attempts := by
  induction attempts with
  | zero => rfl
  | succ attempts ih =>
    rw [retry,retry,embed_handle]
    congr 1
    funext e
    split
    · exact ih
    · rfl

end Embedding

theorem handle_map (p : Prog Req Resp ε α) (h : ε → Prog Req Resp ε α) (f : α → β) :
    ((p.handle h).bind fun a => .pure (f a)) =
      (p.bind fun a => .pure (f a)).handle fun e => (h e).bind fun a => .pure (f a) := by
  induction p with
  | pure a => rfl
  | raise e => rfl
  | call r next ih => exact congrArg (Prog.call r) (funext ih)

theorem retry_map {retryable : ε → Bool} (attempts : Nat) (p : Prog Req Resp ε α) (f : α → β) :
    ((p.retry retryable attempts).bind fun a => .pure (f a)) =
      (p.bind fun a => .pure (f a)).retry retryable attempts := by
  induction attempts with
  | zero => rfl
  | succ attempts ih =>
    rw [retry,retry,handle_map]
    congr 1
    funext e
    split
    · exact ih
    · rfl

-- Every call under its caller's name, for services that keep a record of who
-- called; what is answered does not depend on it.
def signed (i : ι) : Prog Req Resp ε α → Prog (ι × Req) (fun r => Resp r.2) ε α
  | .pure a => .pure a
  | .raise e => .raise e
  | .call r next => .call (i,r) fun x => (next x).signed i

-- The whole program against one service state, without interference.
def exec (serve : (r : Req) → σ → Resp r × σ) : Prog Req Resp ε α → σ → Except ε α × σ
  | .pure a,s => (.ok a,s)
  | .raise e,s => (.error e,s)
  | .call r next,s => exec serve (next (serve r s).1) (serve r s).2

variable {serve : (r : Req) → σ → Resp r × σ}

@[simp] theorem exec_pure (a : α) (s : σ) : exec serve (.pure a : Prog Req Resp ε α) s = (.ok a,s) := rfl
@[simp] theorem exec_raise (e : ε) (s : σ) : exec serve (.raise e : Prog Req Resp ε α) s = (.error e,s) := rfl
@[simp] theorem exec_call (r : Req) (next : Resp r → Prog Req Resp ε α) (s : σ) :
    exec serve (.call r next) s = exec serve (next (serve r s).1) (serve r s).2 := rfl

theorem exec_bind (p : Prog Req Resp ε α) (f : α → Prog Req Resp ε β) (s : σ) :
    exec serve (p.bind f) s = match exec serve p s with
      | (.ok a,s') => exec serve (f a) s'
      | (.error e,s') => (.error e,s') := by
  induction p generalizing s with
  | pure a => rfl
  | raise e => rfl
  | call r next ih => exact ih _ _

theorem exec_handle (p : Prog Req Resp ε α) (h : ε → Prog Req Resp ε α) (s : σ) :
    exec serve (p.handle h) s = match exec serve p s with
      | (.ok a,s') => (.ok a,s')
      | (.error e,s') => exec serve (h e) s' := by
  induction p generalizing s with
  | pure a => rfl
  | raise e => rfl
  | call r next ih => exact ih _ _

theorem exec_attempt {δ : Type} (p : Prog Req Resp δ α) (s : σ) :
    exec serve (p.attempt : Prog Req Resp ε (Except δ α)) s = (.ok (exec serve p s).1,(exec serve p s).2) := by
  induction p generalizing s with
  | pure a => rfl
  | raise e => rfl
  | call r next ih => exact ih _ _

theorem exec_retry {retryable : ε → Bool} (p : Prog Req Resp ε α) (s : σ)
    (settled : ∀ e, (exec serve p s).1 = .error e → retryable e = false) {attempts : Nat} :
    exec serve (p.retry retryable attempts) s = exec serve p s := by
  cases attempts with
  | zero => rfl
  | succ attempts =>
    rw [retry,exec_handle]
    cases ran : exec serve p s with
    | mk out s' =>
      cases out with
      | ok a => rfl
      | error e =>
        have final := settled e (by rw [ran])
        simp [final]

end Prog

inductive RunsWhen {State Event : Type} (step : State → Event → Option State) (allowed : State → Event → Prop) :
    State → List Event → State → Prop where
  | nil : RunsWhen step allowed s [] s
  | snoc : RunsWhen step allowed s events middle → allowed middle event → step middle event = some next →
      RunsWhen step allowed s (events++[event]) next

def run {State Event : Type} (step : State → Event → Option State) : State → List Event → Option State
  | s,[] => some s
  | s,event::rest => (step s event).bind (run step · rest)

section Runs
variable {State Event : Type} {step : State → Event → Option State} {allowed : State → Event → Prop}

theorem run_append (s : State) (events : List Event) (event : Event) :
    run step s (events++[event]) = (run step s events).bind (step · event) := by
  induction events generalizing s with
  | nil => cases h : step s event <;> simp [run,h]
  | cons head rest ih => cases h : step s head <;> simp [run,h,ih]

theorem RunsWhen.sound (path : RunsWhen step allowed s events next) : run step s events = some next := by
  induction path with
  | nil => rfl
  | snoc _ _ ran ih => rw [run_append,ih]; exact ran

-- The executable form: a run that tests each step's side condition itself.
def guardedRun (step : State → Event → Option State) (ok : State → Event → Bool) : State → List Event → Option State
  | s,[] => some s
  | s,event::rest => if ok s event then (step s event).bind (guardedRun step ok · rest) else none

theorem RunsWhen.guarded {ok : State → Event → Bool} (path : RunsWhen step allowed s events middle)
    (sound : ∀ s event, ok s event = true → allowed s event)
    (ran : guardedRun step ok middle later = some next) : RunsWhen step allowed s (events++later) next := by
  induction later generalizing events middle with
  | nil => cases ran; simpa using path
  | cons event rest ih =>
    unfold guardedRun at ran
    split at ran
    · rename_i tested
      obtain ⟨after,first,tail⟩ := Option.bind_eq_some_iff.mp ran
      simpa using ih (path.snoc (sound _ _ tested) first) tail
    · cases ran

theorem RunsWhen.weaken (path : RunsWhen step allowed s events next)
    (weaker : ∀ s event, allowed s event → looser s event) : RunsWhen step looser s events next := by
  induction path with
  | nil => exact .nil
  | snoc _ ok ran ih => exact ih.snoc (weaker _ _ ok) ran

-- The induction over a run, packaged once: what every allowed step preserves
-- holds at the end of every allowed run.
theorem RunsWhen.preserves (path : RunsWhen step allowed s events next) (invariant : State → Prop)
    (start : invariant s)
    (kept : ∀ s event next, invariant s → allowed s event → step s event = some next → invariant next) :
    invariant next := by
  induction path with
  | nil => exact start
  | snoc _ ok ran ih => exact kept _ _ _ ih ok ran

end Runs

-- Services shared by any number of threads. `κ` is what the services may choose
-- at one call (to fail, say), `η` what the world does between calls.
structure System (Req : Type) (Resp : Req → Type) (ε σ κ η : Type) where
  serve : κ → (r : Req) → σ → Resp r × σ
  environment : η → σ → Option σ
  restarts : ε → Bool

structure Config (Req : Type) (Resp : Req → Type) (ε α σ ι : Type) where
  shared : σ
  threads : ι → Prog Req Resp ε α

inductive Event (ι κ η : Type) where
  | act (thread : ι) (choice : κ)
  | restart (thread : ι)
  | world (change : η)
  deriving DecidableEq

-- One call of one thread, one restart of a failed thread, or one step of the
-- world. Everything a thread computes between two calls is local to it.
def System.step [DecidableEq ι] (sys : System Req Resp ε σ κ η) (tasks : ι → Prog Req Resp ε α)
    (c : Config Req Resp ε α σ ι) : Event ι κ η → Option (Config Req Resp ε α σ ι)
  | .act i choice =>
    match c.threads i with
    | .call r next => some ⟨(sys.serve choice r c.shared).2,
        Function.update c.threads i (next (sys.serve choice r c.shared).1)⟩
    | _ => none
  | .restart i =>
    match c.threads i with
    | .raise e => if sys.restarts e then some ⟨c.shared,Function.update c.threads i (tasks i)⟩ else none
    | _ => none
  | .world change => (sys.environment change c.shared).map fun s => ⟨s,c.threads⟩

-- Everything one step can do; later proofs never unfold `System.step`.
theorem System.step_cases [DecidableEq ι] {sys : System Req Resp ε σ κ η} {tasks : ι → Prog Req Resp ε α}
    {c next : Config Req Resp ε α σ ι} {event : Event ι κ η} (ran : sys.step tasks c event = some next) :
    (∃ i choice r cont, event = .act i choice ∧ c.threads i = .call r cont ∧
      next = ⟨(sys.serve choice r c.shared).2,Function.update c.threads i (cont (sys.serve choice r c.shared).1)⟩) ∨
    (∃ i e, event = .restart i ∧ c.threads i = .raise e ∧ sys.restarts e = true ∧
      next = ⟨c.shared,Function.update c.threads i (tasks i)⟩) ∨
    (∃ change s, event = .world change ∧ sys.environment change c.shared = some s ∧ next = ⟨s,c.threads⟩) := by
  cases event with
  | act i choice =>
    simp only [System.step] at ran
    split at ran
    · rename_i r cont at_call
      exact .inl ⟨i,choice,r,cont,rfl,at_call,(Option.some.inj ran).symm⟩
    · cases ran
  | restart i =>
    simp only [System.step] at ran
    split at ran
    · rename_i e failed
      split at ran
      · exact .inr (.inl ⟨i,e,rfl,failed,‹_›,(Option.some.inj ran).symm⟩)
      · cases ran
    · cases ran
  | world change =>
    obtain ⟨s,moved,rfl⟩ := Option.map_eq_some_iff.mp ran
    exact .inr (.inr ⟨change,s,rfl,moved,rfl⟩)

def Permitted (allowed : ι → σ → Req → Prop) (c : Config Req Resp ε α σ ι) : Event ι κ η → Prop
  | .act i _ => ∀ r next, c.threads i = .call r next → allowed i c.shared r
  | _ => True

def permitted (allowed : ι → σ → Req → Bool) (c : Config Req Resp ε α σ ι) : Event ι κ η → Bool
  | .act i _ =>
    match c.threads i with
    | .call r _ => allowed i c.shared r
    | _ => true
  | _ => true

theorem permitted_sound {allowed : ι → σ → Req → Bool} (c : Config Req Resp ε α σ ι) (event : Event ι κ η)
    (tested : permitted allowed c event = true) : Permitted (fun i s r => allowed i s r = true) c event := by
  cases event with
  | act i choice =>
    intro r next at_call
    simpa only [permitted,at_call] using tested
  | restart i => trivial
  | world change => trivial

theorem permitted_decide {allowed : ι → σ → Req → Prop} [∀ i s r, Decidable (allowed i s r)]
    (c : Config Req Resp ε α σ ι) (event : Event ι κ η)
    (tested : permitted (fun i s r => decide (allowed i s r)) c event = true) : Permitted allowed c event := by
  have sound := permitted_sound c event tested
  cases event with
  | act i choice => exact fun r next at_call => of_decide_eq_true (sound r next at_call)
  | restart i => trivial
  | world change => trivial

-- What one thread owes and may assume. Between any two of its own calls the
-- others may move the shared state along `rely`; each of its calls moves it
-- along `guar`; `post` holds of its result from then on.
def Ensures (sys : System Req Resp ε σ κ η) (allowed : σ → Req → Prop) (rely guar : σ → σ → Prop)
    (post : Except ε α → σ → Prop) : Prog Req Resp ε α → σ → Prop
  | .pure a,s => ∀ s', rely s s' → post (.ok a) s'
  | .raise e,s => ∀ s', rely s s' → post (.error e) s'
  | .call r next,s => ∀ s', rely s s' → allowed s' r → ∀ choice,
      guar s' (sys.serve choice r s').2 ∧
        Ensures sys allowed rely guar post (next (sys.serve choice r s').1) (sys.serve choice r s').2

theorem update_apart [DecidableEq ι] {threads : ι → α} {i : ι} {p : α} (claims : α → Prop) (apart : ι → ι → Prop)
    (symm : ∀ j k, apart j k → apart k j)
    (before : ∀ j k, j ≠ k → claims (threads j) → claims (threads k) → apart j k)
    (moved : claims p → ∀ j, j ≠ i → claims (threads j) → apart i j) (different : j ≠ k)
    (first : claims (Function.update threads i p j)) (second : claims (Function.update threads i p k)) : apart j k := by
  by_cases one : j = i
  · subst j
    rw [Function.update_self] at first
    rw [Function.update_of_ne (Ne.symm different)] at second
    exact moved first k (Ne.symm different) second
  · rw [Function.update_of_ne one] at first
    by_cases two : k = i
    · subst k
      rw [Function.update_self] at second
      exact symm _ _ (moved second j one first)
    · rw [Function.update_of_ne two] at second
      exact before j k different first second

section Ensures
variable {sys : System Req Resp ε σ κ η} {allowed : σ → Req → Prop} {rely guar : σ → σ → Prop}
  {post : Except ε α → σ → Prop}

theorem Ensures.later (trans : ∀ a b c, rely a b → rely b c → rely a c) {p : Prog Req Resp ε α}
    (holds : Ensures sys allowed rely guar post p s) (moved : rely s s') :
    Ensures sys allowed rely guar post p s' := by
  cases p with
  | pure a => exact fun t h => holds t (trans _ _ _ moved h)
  | raise e => exact fun t h => holds t (trans _ _ _ moved h)
  | call r next => exact fun t h => holds t (trans _ _ _ moved h)

theorem Ensures.mono {weaker : Except ε α → σ → Prop} {p : Prog Req Resp ε α} (holds : Ensures sys allowed rely guar post p s)
    (imp : ∀ out t, post out t → weaker out t) : Ensures sys allowed rely guar weaker p s := by
  induction p generalizing s with
  | pure a => exact fun t moved => imp _ _ (holds t moved)
  | raise e => exact fun t moved => imp _ _ (holds t moved)
  | call r next ih =>
    intro t moved ok choice
    obtain ⟨step,rest⟩ := holds t moved ok choice
    exact ⟨step,ih _ rest⟩

theorem Ensures.bind (first : Except ε α → σ → Prop) {post : Except ε β → σ → Prop} {p : Prog Req Resp ε α}
    {f : α → Prog Req Resp ε β} (holds : Ensures sys allowed rely guar first p s)
    (failed : ∀ e s, first (.error e) s → post (.error e) s)
    (done : ∀ a s, (∀ s', rely s s' → first (.ok a) s') → Ensures sys allowed rely guar post (f a) s) :
    Ensures sys allowed rely guar post (p.bind f) s := by
  induction p generalizing s with
  | pure a => exact done a s holds
  | raise e => exact fun t moved => failed _ _ (holds t moved)
  | call r next ih =>
    intro t moved ok choice
    obtain ⟨step,rest⟩ := holds t moved ok choice
    exact ⟨step,ih _ rest⟩

theorem Ensures.handle (first : Except ε α → σ → Prop) {p : Prog Req Resp ε α}
    {h : ε → Prog Req Resp ε α} (holds : Ensures sys allowed rely guar first p s)
    (done : ∀ a s, first (.ok a) s → post (.ok a) s)
    (failed : ∀ e s, (∀ s', rely s s' → first (.error e) s') → Ensures sys allowed rely guar post (h e) s) :
    Ensures sys allowed rely guar post (p.handle h) s := by
  induction p generalizing s with
  | pure a => exact fun t moved => done _ _ (holds t moved)
  | raise e => exact failed e s holds
  | call r next ih =>
    intro t moved ok choice
    obtain ⟨step,rest⟩ := holds t moved ok choice
    exact ⟨step,ih _ rest⟩

theorem Ensures.attempt {δ : Type} {sys' : System Req Resp δ σ κ η} (same : sys'.serve = sys.serve)
    {post : Except ε (Except δ α) → σ → Prop} {p : Prog Req Resp δ α}
    (holds : Ensures sys' allowed rely guar (fun out s => post (.ok out) s) p s) :
    Ensures sys allowed rely guar post p.attempt s := by
  induction p generalizing s with
  | pure a => exact holds
  | raise e => exact holds
  | call r next ih =>
    intro t moved ok choice
    obtain ⟨step,rest⟩ := holds t moved ok choice
    rw [same] at step rest
    exact ⟨step,ih _ rest⟩

theorem Ensures.moved {along : σ → σ → Prop} (trans : ∀ a b c, along a b → along b c → along a c) {origin : σ}
    {p : Prog Req Resp ε α} (holds : Ensures sys allowed along along post p s) (start : along origin s) :
    Ensures sys allowed along along (fun out t => post out t ∧ along origin t) p s := by
  induction p generalizing s with
  | pure a => exact fun t later => ⟨holds t later,trans _ _ _ start later⟩
  | raise e => exact fun t later => ⟨holds t later,trans _ _ _ start later⟩
  | call r next ih =>
    intro t later ok choice
    obtain ⟨step,rest⟩ := holds t later ok choice
    exact ⟨step,ih _ rest (trans _ _ _ (trans _ _ _ start later) step)⟩

theorem Ensures.retry (ready : σ → Prop) {p : Prog Req Resp ε α} (retryable : ε → Bool) (attempts : Nat)
    (holds : ∀ s, (∀ s', rely s s' → ready s') → Ensures sys allowed rely guar post p s)
    (again : ∀ e s, post (.error e) s → ready s) (start : ∀ s', rely s s' → ready s') :
    Ensures sys allowed rely guar post (p.retry retryable attempts) s := by
  induction attempts generalizing s with
  | zero => exact holds s start
  | succ attempts ih =>
    apply Ensures.handle _ (holds s start) (fun _ _ h => h)
    intro e t failed
    split
    · exact ih fun t' moved => again e t' (failed t' moved)
    · exact failed

end Ensures

-- The interference rule: threads that each keep their own contract, and whose
-- steps the other threads tolerate, all keep it along every permitted run.
section Interference
variable [DecidableEq ι] {sys : System Req Resp ε σ κ η} {tasks : ι → Prog Req Resp ε α}
  {allowed : ι → σ → Req → Prop} {rely guar : ι → σ → σ → Prop} {post : ι → Except ε α → σ → Prop}
  {origin : Config Req Resp ε α σ ι}

theorem interference
    (refl : ∀ i s, rely i s s) (trans : ∀ i a b c, rely i a b → rely i b c → rely i a c)
    (tolerated : ∀ i j s s', i ≠ j → guar i s s' → rely j s s')
    (world : ∀ i change s s', sys.environment change s = some s' → rely i s s')
    (again : ∀ i e s, sys.restarts e = true → post i (.error e) s →
      Ensures sys (allowed i) (rely i) (guar i) (post i) (tasks i) s)
    (start : ∀ i, Ensures sys (allowed i) (rely i) (guar i) (post i) (origin.threads i) origin.shared)
    (path : RunsWhen (sys.step tasks) (Permitted allowed) origin events c) (i : ι) :
    Ensures sys (allowed i) (rely i) (guar i) (post i) (c.threads i) c.shared := by
  refine path.preserves (fun c => ∀ i, Ensures sys (allowed i) (rely i) (guar i) (post i)
    (c.threads i) c.shared) start ?_ i
  intro c event next valid ok ran j
  rcases System.step_cases ran with ⟨i,choice,r,cont,rfl,at_call,rfl⟩ | ⟨i,e,rfl,failed,listed,rfl⟩ |
    ⟨change,t,rfl,moved,rfl⟩
  · have own := valid i
    rw [at_call] at own
    obtain ⟨stepped,rest⟩ := own c.shared (refl i _) (ok r cont at_call) choice
    by_cases same : j = i
    · subst j; simpa using rest
    · simp only [Function.update_of_ne same]
      exact (valid j).later (trans j) (tolerated i j _ _ (Ne.symm same) stepped)
  · by_cases same : j = i
    · subst j
      have own := valid i
      rw [failed] at own
      simpa using again i e c.shared listed (own c.shared (refl i _))
    · simpa only [Function.update_of_ne same] using valid j
  · exact (valid j).later (trans j) (world j change _ _ moved)

theorem uniform_interference {along : σ → σ → Prop} (refl : ∀ s, along s s)
    (trans : ∀ a b c, along a b → along b c → along a c)
    (world : ∀ change s s', sys.environment change s = some s' → along s s')
    (again : ∀ i e s, sys.restarts e = true → post i (.error e) s →
      Ensures sys (allowed i) along along (post i) (tasks i) s)
    (start : ∀ i, Ensures sys (allowed i) along along (post i) (origin.threads i) origin.shared)
    (path : RunsWhen (sys.step tasks) (Permitted allowed) origin events c) :
    (∀ i, Ensures sys (allowed i) along along (post i) (c.threads i) c.shared) ∧ along origin.shared c.shared := by
  have valid : ∀ {events c}, RunsWhen (sys.step tasks) (Permitted allowed) origin events c →
      ∀ i, Ensures sys (allowed i) along along (post i) (c.threads i) c.shared := fun path =>
    interference (fun _ => refl) (fun _ => trans) (fun _ _ _ _ _ moved => moved) (fun _ => world) again start path
  refine ⟨valid path,?_⟩
  induction path with
  | nil => exact refl _
  | @snoc _ middle event next prior ok ran ih =>
    apply trans _ _ _ ih
    rcases System.step_cases ran with ⟨i,choice,r,cont,rfl,at_call,rfl⟩ | ⟨i,e,rfl,failed,listed,rfl⟩ |
      ⟨change,t,rfl,changed,rfl⟩
    · have own := valid prior i
      rw [at_call] at own
      exact (own middle.shared (refl _) (ok r cont at_call) choice).1
    · exact refl _
    · exact world change _ _ changed

end Interference
end CallTree
