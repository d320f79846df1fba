import Mathlib.Data.List.Basic

-- One call for each item of a list, in order, up to the first that gets no answer.
namespace CallSequences

variable {ι β : Type}

inductive UntilUnanswered : List ι → List (ι × Option β) → Option ι → Prop where
  | done : UntilUnanswered [] [] none
  | answered : UntilUnanswered rest calls last → UntilUnanswered (item::rest) ((item,some answer)::calls) last
  | unanswered : UntilUnanswered (item::rest) [(item,none)] (some item)

variable {items : List ι} {calls : List (ι × Option β)} {last : Option ι}

theorem UntilUnanswered.ended_iff (ran : UntilUnanswered items calls last) :
    last = none ↔ ∀ call ∈ calls, call.2.isSome := by
  induction ran with
  | done => simp
  | answered _ ih => simpa using ih
  | unanswered => simp

theorem UntilUnanswered.complete (ran : UntilUnanswered items calls last) (ended : last = none) :
    calls.map (·.1) = items := by
  induction ran with
  | done => rfl
  | answered _ ih => rw [List.map_cons,ih ended]
  | unanswered => cases ended

theorem UntilUnanswered.aborted (ran : UntilUnanswered items calls last) {k : Nat} {item : ι}
    (unanswered : calls[k]? = some (item,none)) : last = some item ∧ calls.map (·.1) = items.take (k+1) := by
  induction ran generalizing k with
  | done => cases unanswered
  | @answered rest calls last head answer _ ih =>
    cases k with
    | zero => cases unanswered
    | succ k =>
      obtain ⟨stopped,taken⟩ := ih unanswered
      exact ⟨stopped,by rw [List.map_cons,taken,List.take_succ_cons]⟩
  | unanswered =>
    cases k with
    | zero =>
      cases unanswered
      exact ⟨rfl,rfl⟩
    | succ k => cases unanswered

end CallSequences
