import CommerceCoordinator.CallTree

-- Programs run alone, the services choosing at every call.
namespace CallTree
namespace Prog

variable {Req : Type} {Resp : Req → Type} {ε α β σ κ : Type}
  {serve : κ → (r : Req) → σ → Resp r × σ} {allowed : κ → σ → Req → Prop}

-- The weakest precondition of `post`, for every choice allowed at each call.
def wp (serve : κ → (r : Req) → σ → Resp r × σ) (allowed : κ → σ → Req → Prop) (post : Except ε α → σ → Prop) :
    Prog Req Resp ε α → σ → Prop
  | .pure a,s => post (.ok a) s
  | .raise e,s => post (.error e) s
  | .call r next,s => ∀ choice, allowed choice s r →
      wp serve allowed post (next (serve choice r s).1) (serve choice r s).2

section Rules
variable {post weaker : Except ε α → σ → Prop}

@[simp] theorem wp_pure : wp serve allowed post (.pure a) s ↔ post (.ok a) s := .rfl
@[simp] theorem wp_raise : wp serve allowed post (.raise e) s ↔ post (.error e) s := .rfl

theorem wp_mono {p : Prog Req Resp ε α} (holds : wp serve allowed post p s)
    (imp : ∀ out t, post out t → weaker out t) : wp serve allowed weaker p s := by
  induction p generalizing s with
  | pure a => exact imp _ _ holds
  | raise e => exact imp _ _ holds
  | call r next ih => exact fun choice ok => ih _ (holds choice ok)

theorem wp_and {p : Prog Req Resp ε α} (first : wp serve allowed post p s) (second : wp serve allowed weaker p s) :
    wp serve allowed (fun out t => post out t ∧ weaker out t) p s := by
  induction p generalizing s with
  | pure a => exact ⟨first,second⟩
  | raise e => exact ⟨first,second⟩
  | call r next ih => exact fun choice ok => ih _ (first choice ok) (second choice ok)

theorem wp_allowed {fewer : κ → σ → Req → Prop} {p : Prog Req Resp ε α} (holds : wp serve allowed post p s)
    (imp : ∀ choice s r, fewer choice s r → allowed choice s r) : wp serve fewer post p s := by
  induction p generalizing s with
  | pure a => exact holds
  | raise e => exact holds
  | call r next ih => exact fun choice ok => ih _ (holds choice (imp _ _ _ ok))

theorem wp_bind {post : Except ε β → σ → Prop} {p : Prog Req Resp ε α} {f : α → Prog Req Resp ε β} :
    wp serve allowed post (p.bind f) s ↔ wp serve allowed (fun
      | .ok a,t => wp serve allowed post (f a) t
      | .error e,t => post (.error e) t) p s := by
  induction p generalizing s with
  | pure a => exact .rfl
  | raise e => exact .rfl
  | call r next ih => exact forall₂_congr fun _ _ => ih _

theorem wp_seq {post : Except ε β → σ → Prop} (first : Except ε α → σ → Prop) {p : Prog Req Resp ε α}
    {f : α → Prog Req Resp ε β} (holds : wp serve allowed first p s) (failed : ∀ e t, first (.error e) t → post (.error e) t)
    (done : ∀ a t, first (.ok a) t → wp serve allowed post (f a) t) : wp serve allowed post (p.bind f) s := by
  refine wp_bind.mpr (wp_mono holds fun out t ends => ?_)
  cases out with
  | ok a => exact done a t ends
  | error e => exact failed e t ends

theorem wp_handle {p : Prog Req Resp ε α} {h : ε → Prog Req Resp ε α} :
    wp serve allowed post (p.handle h) s ↔ wp serve allowed (fun
      | .ok a,t => post (.ok a) t
      | .error e,t => wp serve allowed post (h e) t) p s := by
  induction p generalizing s with
  | pure a => exact .rfl
  | raise e => exact .rfl
  | call r next ih => exact forall₂_congr fun _ _ => ih _

theorem wp_along (along : σ → σ → Prop) (refl : ∀ s, along s s)
    (trans : ∀ a b c, along a b → along b c → along a c) (kept : ∀ choice r s, along s (serve choice r s).2) (p : Prog Req Resp ε α) (s : σ) :
    wp serve allowed (fun _ t => along s t) p s := by
  induction p generalizing s with
  | pure a => exact refl s
  | raise e => exact refl s
  | call r next ih => exact fun choice _ => wp_mono (ih _ _) fun _ _ => trans _ _ _ (kept choice r s)

end Rules

section Services
variable {δ : Type} {post : Except ε α → σ → Prop}

theorem wp_attempt {post : Except ε (Except δ α) → σ → Prop} {p : Prog Req Resp δ α} :
    wp serve allowed post (p.attempt : Prog Req Resp ε (Except δ α)) s ↔
      wp serve allowed (fun out t => post (.ok out) t) p s := by
  induction p generalizing s with
  | pure a => exact .rfl
  | raise e => exact .rfl
  | call r next ih => exact forall₂_congr fun _ _ => ih _

theorem wp_expect {raised : δ → ε} {p : Prog Req Resp ε (Except δ α)} :
    wp serve allowed post (p.expect raised) s ↔
      wp serve allowed (fun out t => post (out.bind (Except.mapError raised)) t) p s := by
  refine wp_bind.trans ⟨fun holds => wp_mono holds ?_,fun holds => wp_mono holds ?_⟩ <;>
  · intro out t ends
    rcases out with e | e | a <;> exact ends

-- Attempts that fail leave an invariant from which the next one starts.
theorem wp_retry (ready : σ → Prop) (retryable : ε → Bool) (attempts : Nat) {p : Prog Req Resp ε α} (start : ready s)
    (each : ∀ s, ready s → wp serve allowed (fun
      | .ok a,t => post (.ok a) t
      | .error e,t => post (.error e) t ∧ ready t) p s) : wp serve allowed post (p.retry retryable attempts) s := by
  have last : ∀ s, ready s → wp serve allowed post p s := fun s holds => wp_mono (each s holds) fun out t ends => by
    cases out with
    | ok a => exact ends
    | error e => exact ends.1
  induction attempts generalizing s with
  | zero => exact last s start
  | succ attempts ih =>
    refine wp_handle.mpr (wp_mono (each s start) fun out t ends => ?_)
    cases out with
    | ok a => exact ends
    | error e =>
      dsimp only
      split
      · exact ih ends.2
      · exact ends.1

end Services

def Within (asked : Req → Prop) (raised : ε → Prop) : Prog Req Resp ε α → Prop
  | .pure _ => True
  | .raise e => raised e
  | .call r next => asked r ∧ ∀ x, (next x).Within asked raised

section Within
variable {δ : Type} {asked : Req → Prop} {raised : ε → Prop}

theorem Within.bind {p : Prog Req Resp ε α} {f : α → Prog Req Resp ε β} (first : p.Within asked raised)
    (later : ∀ a, (f a).Within asked raised) : (p.bind f).Within asked raised := by
  induction p with
  | pure a => exact later a
  | raise e => exact first
  | call r next ih => exact ⟨first.1,fun x => ih x (first.2 x)⟩

theorem Within.all (ok : ∀ r, asked r) (kept : ∀ e, raised e) (p : Prog Req Resp ε α) : p.Within asked raised := by
  induction p with
  | pure a => trivial
  | raise e => exact kept e
  | call r next ih => exact ⟨ok r,ih⟩

theorem Within.handle {caught : ε → Prop} {p : Prog Req Resp ε α} {h : ε → Prog Req Resp ε α}
    (first : p.Within asked caught) (later : ∀ e, caught e → (h e).Within asked raised) :
    (p.handle h).Within asked raised := by
  induction p with
  | pure a => trivial
  | raise e => exact later e first
  | call r next ih => exact ⟨first.1,fun x => ih x (first.2 x)⟩

theorem Within.retry {p : Prog Req Resp ε α} (holds : p.Within asked raised) (retryable : ε → Bool) (attempts : Nat) :
    (p.retry retryable attempts).Within asked raised := by
  induction attempts with
  | zero => exact holds
  | succ attempts ih =>
    refine holds.handle fun e kept => ?_
    split
    · exact ih
    · exact kept

theorem Within.ask {failure : δ → ε} {r : Req} {answer : Resp r → Except δ α} (ok : asked r) (kept : ∀ e, raised (failure e)) :
    (Prog.expect failure (Prog.call r fun x => .pure (answer x))).Within asked raised := by
  refine ⟨ok,fun x => ?_⟩
  cases h : answer x with
  | ok a => simp [h,Within]
  | error e => simpa [h,Within] using kept e

theorem Within.attempt {caught : δ → Prop} {p : Prog Req Resp δ α} (holds : p.Within asked caught) :
    (p.attempt : Prog Req Resp ε (Except δ α)).Within asked raised := by
  induction p with
  | pure a => trivial
  | raise e => trivial
  | call r next ih => exact ⟨holds.1,fun x => ih x (holds.2 x)⟩

theorem Within.embed {Req₀ : Type} {Resp₀ : Req₀ → Type} {request : Req₀ → Req}
    {answer : (r : Req₀) → Resp (request r) → Resp₀ r} {p : Prog Req₀ Resp₀ ε α}
    (holds : p.Within (fun r => asked (request r)) raised) : (p.embed request answer).Within asked raised := by
  induction p with
  | pure a => trivial
  | raise e => exact holds
  | call r next ih => exact ⟨holds.1,fun x => ih _ (holds.2 _)⟩

theorem wp_within (along : σ → σ → Prop) (refl : ∀ s, along s s) (trans : ∀ a b c, along a b → along b c → along a c)
    (kept : ∀ choice r s, asked r → along s (serve choice r s).2) {p : Prog Req Resp ε α} (holds : p.Within asked raised)
    (s : σ) : wp serve allowed (fun out t => along s t ∧ ∀ e, out = .error e → raised e) p s := by
  induction p generalizing s with
  | pure a => exact ⟨refl s,fun e never => by cases never⟩
  | raise e => exact ⟨refl s,fun e' same => by cases same; exact holds⟩
  | call r next ih =>
    intro choice _
    refine wp_mono (ih _ (holds.2 _) _) fun out t ends => ?_
    exact ⟨trans _ _ _ (kept choice r s holds.1) ends.1,ends.2⟩

end Within

-- The services with a record of what was asked and answered, latest first.
def recorded (serve : κ → (r : Req) → σ → Resp r × σ) (choice : κ) (r : Req)
    (s : σ × List ((r : Req) × Resp r)) : Resp r × (σ × List ((r : Req) × Resp r)) :=
  ((serve choice r s.1).1,(serve choice r s.1).2,⟨r,(serve choice r s.1).1⟩::s.2)

def replay (serve : κ → (r : Req) → σ → Resp r × σ) (ok : κ → σ → Req → Bool) :
    Prog Req Resp ε α → List κ → σ → Option (Except ε α × σ)
  | .pure a,[],s => some (.ok a,s)
  | .raise e,[],s => some (.error e,s)
  | .call r next,choice::rest,s =>
    if ok choice s r then replay serve ok (next (serve choice r s).1) rest (serve choice r s).2 else none
  | _,_,_ => none

section Soundness
variable {post : Except ε α → σ → Prop}

theorem wp_replay {ok : κ → σ → Req → Bool} {p : Prog Req Resp ε α}
    (holds : wp serve (fun choice s r => ok choice s r = true) post p s)
    (ran : replay serve ok p choices s = some (out,t)) : post out t := by
  induction p generalizing s choices with
  | pure a =>
    cases choices with
    | nil => cases ran; exact holds
    | cons choice rest => cases ran
  | raise e =>
    cases choices with
    | nil => cases ran; exact holds
    | cons choice rest => cases ran
  | call r next ih =>
    cases choices with
    | nil => cases ran
    | cons choice rest =>
      simp only [replay] at ran
      split at ran
      · exact ih _ (holds choice ‹_›) ran
      · cases ran

theorem replay_untested {ok : κ → σ → Req → Bool} {p : Prog Req Resp ε α}
    (ran : replay serve ok p choices s = some result) : replay serve (fun _ _ _ => true) p choices s = some result := by
  induction p generalizing s choices with
  | pure a => cases choices <;> exact ran
  | raise e => cases choices <;> exact ran
  | call r next ih =>
    cases choices with
    | nil => cases ran
    | cons choice rest =>
      simp only [replay] at ran
      split at ran
      · exact ih _ ran
      · cases ran

theorem wp_exec {choice : κ} (fixed : ∀ s r, allowed choice s r) {p : Prog Req Resp ε α}
    (holds : wp serve allowed post p s) : post (exec (serve choice) p s).1 (exec (serve choice) p s).2 := by
  induction p generalizing s with
  | pure a => exact holds
  | raise e => exact holds
  | call r next ih => exact ih _ (holds choice (fixed s r))

end Soundness

end Prog
end CallTree
