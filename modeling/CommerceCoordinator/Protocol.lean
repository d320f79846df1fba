import CommerceCoordinator.CallTree

-- Programs that keep to a protocol: each call is made in a stage that allows it,
-- and its answer leads to the next stage. What the stages of all threads have to
-- do with the shared state is an invariant of the whole system.
namespace CallTree

variable {Req : Type} {Resp : Req → Type} {ε δ α β σ κ η ι V : Type}

-- `answers` is what the services can answer at all, in any state.
structure Protocol (Req : Type) (Resp : Req → Type) (V : Type) where
  answers : (r : Req) → Resp r → Prop
  calls : V → Req → Prop
  moves : V → (r : Req) → Resp r → V → Prop

namespace Prog

def Follows (protocol : Protocol Req Resp V) (post : Except ε α → V → Prop) : Prog Req Resp ε α → V → Prop
  | .pure a,v => post (.ok a) v
  | .raise e,v => post (.error e) v
  | .call r next,v => protocol.calls v r ∧ ∀ x, protocol.answers r x →
      ∃ v', protocol.moves v r x v' ∧ (next x).Follows protocol post v'

section Rules
variable {protocol : Protocol Req Resp V} {post weaker : Except ε α → V → Prop} {v : V}

theorem Follows.call {post' : Except δ β → V → Prop} {r : Req} {next : Resp r → Prog Req Resp ε α}
    {next' : Resp r → Prog Req Resp δ β} (holds : (Prog.call r next).Follows protocol post v)
    (goesOn : ∀ x {w}, (next x).Follows protocol post w → (next' x).Follows protocol post' w) :
    (Prog.call r next').Follows protocol post' v := by
  refine ⟨holds.1,?_⟩
  intro x possible
  obtain ⟨w,moved,rest⟩ := holds.2 x possible
  exact ⟨w,moved,goesOn x rest⟩

theorem Follows.mono {p : Prog Req Resp ε α} (holds : p.Follows protocol post v)
    (imp : ∀ out w, post out w → weaker out w) : p.Follows protocol weaker v := by
  induction p generalizing v with
  | pure a => exact imp _ _ holds
  | raise e => exact imp _ _ holds
  | call r next ih => exact holds.call ih

theorem Follows.bind (first : Except ε α → V → Prop) {post : Except ε β → V → Prop} {p : Prog Req Resp ε α}
    {f : α → Prog Req Resp ε β} (holds : p.Follows protocol first v)
    (failed : ∀ e w, first (.error e) w → post (.error e) w)
    (done : ∀ a w, first (.ok a) w → (f a).Follows protocol post w) : (p.bind f).Follows protocol post v := by
  induction p generalizing v with
  | pure a => exact done a v holds
  | raise e => exact failed e v holds
  | call r next ih => exact holds.call ih

theorem Follows.handle (first : Except ε α → V → Prop) {p : Prog Req Resp ε α} {h : ε → Prog Req Resp ε α}
    (holds : p.Follows protocol first v) (done : ∀ a w, first (.ok a) w → post (.ok a) w)
    (failed : ∀ e w, first (.error e) w → (h e).Follows protocol post w) : (p.handle h).Follows protocol post v := by
  induction p generalizing v with
  | pure a => exact done a v holds
  | raise e => exact failed e v holds
  | call r next ih => exact holds.call ih

theorem Follows.attempt {post : Except ε (Except δ α) → V → Prop} {p : Prog Req Resp δ α}
    (holds : p.Follows protocol (fun out w => post (.ok out) w) v) :
    (p.attempt : Prog Req Resp ε (Except δ α)).Follows protocol post v := by
  induction p generalizing v with
  | pure a => exact holds
  | raise e => exact holds
  | call r next ih => exact holds.call ih

theorem Follows.expect {raised : δ → ε} {p : Prog Req Resp ε (Except δ α)}
    (holds : p.Follows protocol (fun out w => post (out.bind (Except.mapError raised)) w) v) :
    (p.expect raised).Follows protocol post v := by
  apply Follows.bind _ holds (fun e w failed => failed)
  intro answer w done
  cases answer with
  | ok a => exact done
  | error e => exact done

theorem Follows.retry {p : Prog Req Resp ε α} (retryable : ε → Bool) (attempts : Nat)
    (again : p.Follows protocol (fun
      | .ok a,w => post (.ok a) w
      | .error e,w => retryable e = true ∧ w = v ∨ retryable e = false ∧ post (.error e) w) v)
    (last : p.Follows protocol post v) : (p.retry retryable attempts).Follows protocol post v := by
  induction attempts with
  | zero => exact last
  | succ attempts ih =>
    apply Follows.handle _ again (fun a w done => done)
    intro e w cause
    rcases cause with ⟨listed,rfl⟩ | ⟨other,failed⟩
    · rw [if_pos listed]
      exact ih
    · rw [if_neg (by simp [other])]
      exact failed

theorem Follows.embed {Req₀ : Type} {Resp₀ : Req₀ → Type} {request : Req₀ → Req}
    {answer : (r : Req₀) → Resp (request r) → Resp₀ r} (p : Prog Req₀ Resp₀ ε α)
    (quiet : ∀ r, protocol.calls v (request r) ∧ ∀ x, protocol.moves v (request r) x v)
    (ends : ∀ out, post out v) : (p.embed request answer).Follows protocol post v := by
  induction p with
  | pure a => exact ends _
  | raise e => exact ends _
  | call r next ih => exact ⟨(quiet r).1,fun x _ => ⟨v,(quiet r).2 x,ih _⟩⟩

end Rules
end Prog

-- Along a run every thread is in some stage of the protocol, and an invariant of
-- the shared state and of all stages that each single move keeps holds throughout.
theorem stages_along [DecidableEq ι] (sys : System Req Resp ε σ κ η) {tasks : ι → Prog Req Resp ε α}
    (protocol : Protocol Req Resp V) (post : Except ε α → V → Prop)
    {allowed : Config Req Resp ε α σ ι → Event ι κ η → Prop} {start : Config Req Resp ε α σ ι}
    (invariant : σ → (ι → V) → Prop) (initial : ι → V)
    (follows : ∀ i, (start.threads i).Follows protocol post (initial i)) (holds : invariant start.shared initial)
    (answered : ∀ choice r s, protocol.answers r (sys.serve choice r s).1)
    (unrestarted : ∀ e, sys.restarts e = false)
    (kept : ∀ (c : Config Req Resp ε α σ ι) stages i choice r next v',
      (∀ j, (c.threads j).Follows protocol post (stages j)) → invariant c.shared stages →
      allowed c (.act i choice) → c.threads i = .call r next → protocol.calls (stages i) r →
      protocol.moves (stages i) r (sys.serve choice r c.shared).1 v' →
      invariant (sys.serve choice r c.shared).2 (Function.update stages i v'))
    (world : ∀ change s s' stages, sys.environment change s = some s' → invariant s stages → invariant s' stages)
    (path : RunsWhen (sys.step tasks) allowed start events c) :
    ∃ stages, (∀ i, (c.threads i).Follows protocol post (stages i)) ∧ invariant c.shared stages := by
  refine path.preserves (fun c => ∃ stages, (∀ i, (c.threads i).Follows protocol post (stages i)) ∧
    invariant c.shared stages) ⟨initial,follows,holds⟩ ?_
  intro c event next both ok ran
  obtain ⟨stages,follow,inv⟩ := both
  rcases System.step_cases ran with ⟨i,choice,r,cont,rfl,at_call,rfl⟩ | ⟨i,e,rfl,failed,listed,rfl⟩ |
    ⟨change,t,rfl,moved,rfl⟩
  · have own := follow i
    rw [at_call] at own
    obtain ⟨w,move,rest⟩ := own.2 _ (answered choice r c.shared)
    refine ⟨Function.update stages i w,?_,kept c stages i choice r cont w follow inv ok at_call own.1 move⟩
    intro j
    by_cases same : j = i
    · subst j
      simpa using rest
    · simpa only [Function.update_of_ne same] using follow j
  · rw [unrestarted e] at listed
    cases listed
  · exact ⟨stages,follow,world change _ _ _ moved inv⟩

end CallTree
