import CommerceCoordinator.Execution

-- What a program does whatever it is answered: its exchanges with the services,
-- in order, and its result.
namespace CallTree

variable {Req : Type} {Resp : Req → Type} {ε α β : Type}

abbrev Exchange (Req : Type) (Resp : Req → Type) := (r : Req) × Resp r

namespace Prog

def Answered : Prog Req Resp ε α → List (Exchange Req Resp) → Except ε α → Prop
  | .pure a,t,out => t = [] ∧ out = .ok a
  | .raise e,t,out => t = [] ∧ out = .error e
  | .call r next,t,out => ∃ x rest, t = ⟨r,x⟩::rest ∧ (next x).Answered rest out

@[simp] theorem answered_pure {a : α} {t : List (Exchange Req Resp)} {out : Except ε α} :
    (.pure a : Prog Req Resp ε α).Answered t out ↔ t = [] ∧ out = .ok a := .rfl
@[simp] theorem answered_raise {e : ε} {t : List (Exchange Req Resp)} {out : Except ε α} :
    (.raise e : Prog Req Resp ε α).Answered t out ↔ t = [] ∧ out = .error e := .rfl
@[simp] theorem answered_call {r : Req} {next : Resp r → Prog Req Resp ε α} {t : List (Exchange Req Resp)}
    {out : Except ε α} : (Prog.call r next).Answered t out ↔ ∃ x rest, t = ⟨r,x⟩::rest ∧ (next x).Answered rest out := .rfl

def follow [DecidableEq Req] : Prog Req Resp ε α → List (Exchange Req Resp) → Option (Except ε α)
  | .pure a,[] => some (.ok a)
  | .raise e,[] => some (.error e)
  | .call r next,⟨asked,x⟩::rest => if same : asked = r then (next (same ▸ x)).follow rest else none
  | _,_ => none

theorem follow_answered [DecidableEq Req] {p : Prog Req Resp ε α} {t : List (Exchange Req Resp)} {out : Except ε α}
    (ran : p.follow t = some out) : p.Answered t out := by
  induction p generalizing t with
  | pure a =>
    cases t with
    | nil => cases ran; exact ⟨rfl,rfl⟩
    | cons x rest => cases ran
  | raise e =>
    cases t with
    | nil => cases ran; exact ⟨rfl,rfl⟩
    | cons x rest => cases ran
  | call r next ih =>
    cases t with
    | nil => cases ran
    | cons exchange rest =>
      obtain ⟨asked,x⟩ := exchange
      simp only [follow] at ran
      split at ran
      · rename_i same
        subst same
        exact ⟨x,rest,rfl,ih x ran⟩
      · cases ran

theorem answered_bind {p : Prog Req Resp ε α} {f : α → Prog Req Resp ε β} {t : List (Exchange Req Resp)}
    {out : Except ε β} : (p.bind f).Answered t out ↔ (∃ e, p.Answered t (.error e) ∧ out = .error e) ∨
      ∃ a first later, t = first++later ∧ p.Answered first (.ok a) ∧ (f a).Answered later out := by
  induction p generalizing t with
  | pure a =>
    constructor
    · intro ran
      exact .inr ⟨a,[],t,rfl,⟨rfl,rfl⟩,ran⟩
    · intro ran
      obtain ⟨e,⟨_,never⟩,_⟩ | ⟨_,_,_,rfl,⟨rfl,same⟩,ran⟩ := ran
      · cases never
      · cases same
        exact ran
  | raise e =>
    constructor
    · intro ran
      exact .inl ⟨e,⟨ran.1,rfl⟩,ran.2⟩
    · intro ran
      obtain ⟨_,⟨rfl,same⟩,rfl⟩ | ⟨_,_,_,rfl,⟨_,never⟩,_⟩ := ran
      · cases same
        exact ⟨rfl,rfl⟩
      · cases never
  | call r next ih =>
    simp only [call_bind,answered_call,ih]
    constructor
    · intro ran
      obtain ⟨x,rest,rfl,⟨e,failed,same⟩ | ⟨a,first,later,rfl,done,ran⟩⟩ := ran
      · exact .inl ⟨e,⟨x,rest,rfl,failed⟩,same⟩
      · exact .inr ⟨a,⟨r,x⟩::first,later,rfl,⟨x,first,rfl,done⟩,ran⟩
    · intro ran
      obtain ⟨e,⟨x,rest,rfl,failed⟩,same⟩ | ⟨a,_,later,rfl,⟨x,first,rfl,done⟩,ran⟩ := ran
      · exact ⟨x,rest,rfl,.inl ⟨e,failed,same⟩⟩
      · exact ⟨x,first++later,rfl,.inr ⟨a,first,later,rfl,done,ran⟩⟩

theorem answered_handle {p : Prog Req Resp ε α} {h : ε → Prog Req Resp ε α} {t : List (Exchange Req Resp)}
    {out : Except ε α} : (p.handle h).Answered t out ↔ (∃ a, p.Answered t (.ok a) ∧ out = .ok a) ∨
      ∃ e first later, t = first++later ∧ p.Answered first (.error e) ∧ (h e).Answered later out := by
  induction p generalizing t with
  | pure a =>
    constructor
    · intro ran
      exact .inl ⟨a,⟨ran.1,rfl⟩,ran.2⟩
    · intro ran
      obtain ⟨_,⟨rfl,same⟩,rfl⟩ | ⟨_,_,_,rfl,⟨_,never⟩,_⟩ := ran
      · cases same
        exact ⟨rfl,rfl⟩
      · cases never
  | raise e =>
    constructor
    · intro ran
      exact .inr ⟨e,[],t,rfl,⟨rfl,rfl⟩,ran⟩
    · intro ran
      obtain ⟨_,⟨_,never⟩,_⟩ | ⟨_,_,_,rfl,⟨rfl,same⟩,ran⟩ := ran
      · cases never
      · cases same
        exact ran
  | call r next ih =>
    simp only [call_handle,answered_call,ih]
    constructor
    · intro ran
      obtain ⟨x,rest,rfl,⟨a,done,same⟩ | ⟨e,first,later,rfl,failed,ran⟩⟩ := ran
      · exact .inl ⟨a,⟨x,rest,rfl,done⟩,same⟩
      · exact .inr ⟨e,⟨r,x⟩::first,later,rfl,⟨x,first,rfl,failed⟩,ran⟩
    · intro ran
      obtain ⟨a,⟨x,rest,rfl,done⟩,same⟩ | ⟨e,_,later,rfl,⟨x,first,rfl,failed⟩,ran⟩ := ran
      · exact ⟨x,rest,rfl,.inl ⟨a,done,same⟩⟩
      · exact ⟨x,first++later,rfl,.inr ⟨e,first,later,rfl,failed,ran⟩⟩

theorem answered_unique {p : Prog Req Resp ε α} {t t' rest rest' : List (Exchange Req Resp)} {out out' : Except ε α}
    (ran : p.Answered t out) (again : p.Answered t' out') (same : t++rest = t'++rest') :
    t = t' ∧ out = out' ∧ rest = rest' := by
  induction p generalizing t t' with
  | pure a =>
    obtain ⟨rfl,rfl⟩ := ran
    obtain ⟨rfl,rfl⟩ := again
    exact ⟨rfl,rfl,same⟩
  | raise e =>
    obtain ⟨rfl,rfl⟩ := ran
    obtain ⟨rfl,rfl⟩ := again
    exact ⟨rfl,rfl,same⟩
  | call r next ih =>
    obtain ⟨x,t,rfl,ran⟩ := ran
    obtain ⟨x',t',rfl,again⟩ := again
    obtain ⟨first,later⟩ := List.cons_eq_cons.mp same
    cases first
    obtain ⟨rfl,rfl,rfl⟩ := ih x ran again later
    exact ⟨rfl,rfl,rfl⟩

def Asks (asked : Req → Prop) : Prog Req Resp ε α → Prop
  | .pure _ => True
  | .raise _ => True
  | .call r next => asked r ∧ ∀ x, (next x).Asks asked

section Asks
variable {asked : Req → Prop}

theorem Asks.bind {p : Prog Req Resp ε α} {f : α → Prog Req Resp ε β} (first : p.Asks asked)
    (later : ∀ a, (f a).Asks asked) : (p.bind f).Asks asked := by
  induction p with
  | pure a => exact later a
  | raise e => trivial
  | call r next ih => exact ⟨first.1,fun x => ih x (first.2 x)⟩

theorem Asks.handle {p : Prog Req Resp ε α} {h : ε → Prog Req Resp ε α} (first : p.Asks asked)
    (later : ∀ e, (h e).Asks asked) : (p.handle h).Asks asked := by
  induction p with
  | pure a => trivial
  | raise e => exact later e
  | call r next ih => exact ⟨first.1,fun x => ih x (first.2 x)⟩

theorem Asks.within {p : Prog Req Resp ε α} (asks : p.Asks asked) : p.Within asked fun _ => True := by
  induction p with
  | pure a => trivial
  | raise e => trivial
  | call r next ih => exact ⟨asks.1,fun x => ih x (asks.2 x)⟩

theorem Asks.perform {r : Req} (ok : asked r) : (Prog.perform r : Prog Req Resp ε (Resp r)).Asks asked := ⟨ok,fun _ => trivial⟩

theorem Asks.expect {δ : Type} {raised : δ → ε} {p : Prog Req Resp ε (Except δ α)} (asks : p.Asks asked) :
    (p.expect raised).Asks asked := by
  apply asks.bind
  intro x
  cases x <;> trivial

theorem Asks.answered {p : Prog Req Resp ε α} {t : List (Exchange Req Resp)} {out : Except ε α} (asks : p.Asks asked)
    (ran : p.Answered t out) : ∀ x ∈ t, asked x.1 := by
  induction p generalizing t with
  | pure a =>
    cases ran.1
    simp
  | raise e =>
    cases ran.1
    simp
  | call r next ih =>
    obtain ⟨x,rest,rfl,ran⟩ := ran
    exact List.forall_mem_cons.mpr ⟨asks.1,ih x (asks.2 x) ran⟩

variable {σ : Type} (serve : (r : Req) → σ → Resp r × σ) (s : σ)

theorem Asks.along {p : Prog Req Resp ε α} (asks : p.Asks asked) (along : σ → σ → Prop) (refl : ∀ s, along s s)
    (trans : ∀ a b c, along a b → along b c → along a c) (kept : ∀ r s, asked r → along s (serve r s).2) :
    along s (exec serve p s).2 := by
  induction p generalizing s with
  | pure a => exact refl s
  | raise e => exact refl s
  | call r next ih => exact trans _ _ _ (kept r s asks.1) (ih _ _ (asks.2 _))

def trace : Prog Req Resp ε α → σ → List (Exchange Req Resp)
  | .pure _,_ => []
  | .raise _,_ => []
  | .call r next,s => ⟨r,(serve r s).1⟩::trace (next (serve r s).1) (serve r s).2

theorem exec_answered (p : Prog Req Resp ε α) : p.Answered (trace serve p s) (exec serve p s).1 := by
  induction p generalizing s with
  | pure a => exact ⟨rfl,rfl⟩
  | raise e => exact ⟨rfl,rfl⟩
  | call r next ih => exact ⟨_,_,rfl,ih _ _⟩

theorem Asks.trace {p : Prog Req Resp ε α} (asks : p.Asks asked) (kept : ∀ r s, asked r → (serve r s).2 = s) :
    ∀ x ∈ Prog.trace serve p s, x = ⟨x.1,(serve x.1 s).1⟩ := by
  induction p generalizing s with
  | pure a => simp [Prog.trace]
  | raise e => simp [Prog.trace]
  | call r next ih =>
    have later := ih (serve r s).1 s (asks.2 _)
    simp only [Prog.trace,kept r s asks.1]
    exact List.forall_mem_cons.mpr ⟨rfl,later⟩

end Asks

def Does (asked : Req → Prop) (returned : α → Prop) : Prog Req Resp ε α → Prop
  | .pure a => returned a
  | .raise _ => True
  | .call r next => asked r ∧ ∀ x, (next x).Does asked returned

section Does
variable {asked : Req → Prop} {returned : α → Prop}

theorem Does.bind {ended : β → Prop} {p : Prog Req Resp ε α} {f : α → Prog Req Resp ε β} (first : p.Does asked returned)
    (later : ∀ a, returned a → (f a).Does asked ended) : (p.bind f).Does asked ended := by
  induction p with
  | pure a => exact later a first
  | raise e => trivial
  | call r next ih => exact ⟨first.1,fun x => ih x (first.2 x)⟩

theorem Does.handle {p : Prog Req Resp ε α} {h : ε → Prog Req Resp ε α} (first : p.Does asked returned)
    (later : ∀ e, (h e).Does asked returned) : (p.handle h).Does asked returned := by
  induction p with
  | pure a => exact first
  | raise e => exact later e
  | call r next ih => exact ⟨first.1,fun x => ih x (first.2 x)⟩

theorem Does.mono {weaker : Req → Prop} {p : Prog Req Resp ε α} (does : p.Does asked returned)
    (imp : ∀ r, asked r → weaker r) : p.Does weaker returned := by
  induction p with
  | pure a => exact does
  | raise e => trivial
  | call r next ih => exact ⟨imp r does.1,fun x => ih x (does.2 x)⟩

theorem Does.asks {p : Prog Req Resp ε α} (does : p.Does asked returned) : p.Asks asked := by
  induction p with
  | pure a => trivial
  | raise e => trivial
  | call r next ih => exact ⟨does.1,fun x => ih x (does.2 x)⟩

theorem Asks.does {p : Prog Req Resp ε α} (asks : p.Asks asked) : p.Does asked fun _ => True := by
  induction p with
  | pure a => trivial
  | raise e => trivial
  | call r next ih => exact ⟨asks.1,fun x => ih x (asks.2 x)⟩

end Does

-- What becomes of failed exchanges: the program ends with an exception, which is
-- of the kept kind unless a call that loses failures is the one that failed.
def Reported (failed : Exchange Req Resp → Prop) (kept : ε → Prop) (loses : Req → Prop) (t : List (Exchange Req Resp))
    (out : Except ε α) : Prop :=
  (∀ x ∈ t, ¬failed x) ∨ (∃ x ∈ t, failed x) ∧ ∃ e, out = .error e ∧
    ((kept e ∧ ∀ x ∈ t, failed x → ¬loses x.1) ∨ (¬kept e ∧ ∀ x ∈ t, failed x → loses x.1))

def Reports (failed : Exchange Req Resp → Prop) (kept : ε → Prop) (loses : Req → Prop) (p : Prog Req Resp ε α) : Prop :=
  ∀ t out, p.Answered t out → Reported failed kept loses t out

section Reports
variable {failed : Exchange Req Resp → Prop} {kept : ε → Prop} {loses : Req → Prop}

theorem reports_pure (a : α) : Reports failed kept loses (.pure a : Prog Req Resp ε α) := by
  intro t out ran
  obtain ⟨rfl,_⟩ := ran
  exact .inl (by simp)

theorem reports_raise (e : ε) : Reports failed kept loses (.raise e : Prog Req Resp ε α) := by
  intro t out ran
  obtain ⟨rfl,_⟩ := ran
  exact .inl (by simp)

theorem reports_call {r : Req} {next : Resp r → Prog Req Resp ε α}
    (failing : ∀ x, failed ⟨r,x⟩ → ∃ e, next x = .raise e ∧ (kept e ↔ ¬loses r))
    (passing : ∀ x, ¬failed ⟨r,x⟩ → Reports failed kept loses (next x)) : Reports failed kept loses (.call r next) := by
  intro t out ran
  obtain ⟨x,rest,rfl,ran⟩ := ran
  by_cases failure : failed ⟨r,x⟩
  · obtain ⟨e,raised,exactly⟩ := failing x failure
    rw [raised] at ran
    obtain ⟨rfl,rfl⟩ := ran
    refine .inr ⟨⟨_,by simp,failure⟩,e,rfl,?_⟩
    by_cases keeps : kept e
    · exact .inl ⟨keeps,by simpa using fun _ => exactly.mp keeps⟩
    · exact .inr ⟨keeps,by simpa using fun _ => not_not.mp (mt exactly.mpr keeps)⟩
  · rcases passing x failure rest out ran with none_failed | ⟨⟨y,member,bad⟩,e,same,kind⟩
    · exact .inl (by simpa using ⟨failure,none_failed⟩)
    · refine .inr ⟨⟨y,List.mem_cons_of_mem _ member,bad⟩,e,same,?_⟩
      rcases kind with ⟨keeps,all⟩ | ⟨lost,all⟩
      · exact .inl ⟨keeps,by simpa [failure] using all⟩
      · exact .inr ⟨lost,by simpa [failure] using all⟩

theorem Reports.bind {p : Prog Req Resp ε α} {f : α → Prog Req Resp ε β} (first : Reports failed kept loses p)
    (later : ∀ a, Reports failed kept loses (f a)) : Reports failed kept loses (p.bind f) := by
  intro t out ran
  rcases answered_bind.mp ran with ⟨e,failing,rfl⟩ | ⟨a,before,after,rfl,done,ran⟩
  · rcases first t _ failing with none_failed | ⟨some_failed,e',same,kind⟩
    · exact .inl none_failed
    · cases same
      exact .inr ⟨some_failed,e,rfl,kind⟩
  · rcases first before _ done with none_failed | ⟨_,_,never,_⟩
    · rcases later a after out ran with none_later | ⟨⟨y,member,bad⟩,e,same,kind⟩
      · refine .inl fun x member => ?_
        rcases List.mem_append.mp member with earlier | following
        · exact none_failed x earlier
        · exact none_later x following
      · have only : ∀ x ∈ before++after, failed x → x ∈ after := fun x member failure =>
          (List.mem_append.mp member).resolve_left fun earlier => none_failed x earlier failure
        refine .inr ⟨⟨y,List.mem_append_right _ member,bad⟩,e,same,?_⟩
        rcases kind with ⟨keeps,all⟩ | ⟨lost,all⟩
        · exact .inl ⟨keeps,fun x member failure => all x (only x member failure) failure⟩
        · exact .inr ⟨lost,fun x member failure => all x (only x member failure) failure⟩
    · cases never

theorem Reported.iff {t : List (Exchange Req Resp)} {out : Except ε α} (reported : Reported failed kept loses t out) :
    ((∃ x ∈ t, failed x) → ∃ e, out = .error e ∧ kept e) ↔ ∀ x ∈ t, failed x → ¬loses x.1 := by
  rcases reported with none_failed | ⟨⟨y,member,bad⟩,e,rfl,⟨keeps,all⟩ | ⟨lost,all⟩⟩
  · exact ⟨fun _ x member failure => absurd failure (none_failed x member),
      fun _ ⟨x,member,failure⟩ => absurd failure (none_failed x member)⟩
  · exact ⟨fun _ => all,fun _ _ => ⟨e,rfl,keeps⟩⟩
  · constructor
    · intro keeps
      obtain ⟨e',same,kept⟩ := keeps ⟨y,member,bad⟩
      cases same
      exact absurd kept lost
    · intro none_loses
      exact absurd (all y member bad) (none_loses y member bad)

end Reports
end Prog
end CallTree
