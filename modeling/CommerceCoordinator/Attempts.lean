import CommerceCoordinator.Answers

-- A program started again after failures that allow it, each time knowing how
-- often it was started before.
namespace CallTree

variable {Req : Type} {Resp : Req → Type} {ε α : Type}

namespace Prog

def attempts (again : ε → Bool) (p : Nat → Prog Req Resp ε α) : Nat → Nat → Prog Req Resp ε α
  | 0,n => p n
  | left+1,n => (p n).handle fun e => if again e then attempts again p left (n+1) else .raise e

inductive Attempted (again : ε → Bool) (p : Nat → Prog Req Resp ε α) :
    Nat → Nat → List (Exchange Req Resp) → Except ε α → Prop where
  | done (ran : (p n).Answered t (.ok a)) : Attempted again p left n t (.ok a)
  | failed (ran : (p n).Answered t (.error e)) (final : left = 0 ∨ again e = false) : Attempted again p left n t (.error e)
  | retry (ran : (p n).Answered first (.error e)) (listed : again e = true) (rest : Attempted again p left (n+1) later out) :
      Attempted again p (left+1) n (first++later) out

theorem attempts_answered {again : ε → Bool} {p : Nat → Prog Req Resp ε α} {left n : Nat} {t : List (Exchange Req Resp)}
    {out : Except ε α} (ran : (attempts again p left n).Answered t out) : Attempted again p left n t out := by
  induction left generalizing n t with
  | zero =>
    cases out with
    | ok a => exact .done ran
    | error e => exact .failed ran (.inl rfl)
  | succ left ih =>
    rcases answered_handle.mp ran with ⟨a,done,rfl⟩ | ⟨e,first,later,rfl,failed,ran⟩
    · exact .done done
    · split at ran
      · exact .retry failed ‹_› (ih ran)
      · rename_i final
        obtain ⟨rfl,rfl⟩ := ran
        rw [List.append_nil]
        exact .failed failed (.inr (Bool.eq_false_iff.mpr final))

end Prog
end CallTree
