import CommerceCoordinator.Answers

-- Programs whose calls are programs of the layer below.
namespace CallTree

variable {Req Low : Type} {Resp : Req → Type} {Below : Low → Type} {ε α : Type}

namespace Prog

def lowered (below : (r : Req) → Prog Low Below ε (Resp r)) : Prog Req Resp ε α → Prog Low Below ε α
  | .pure a => .pure a
  | .raise e => .raise e
  | .call r next => (below r).bind fun x => (next x).lowered below

variable {below : (r : Req) → Prog Low Below ε (Resp r)}

inductive Made (below : (r : Req) → Prog Low Below ε (Resp r)) :
    List (Exchange Req Resp) → List (Exchange Low Below) → Prop where
  | nil : Made below [] []
  | cons : (below r).Answered first (.ok x) → Made below above later → Made below (⟨r,x⟩::above) (first++later)

theorem lowered_answered (silent : ∀ r t e, ¬(below r).Answered t (.error e)) {p : Prog Req Resp ε α}
    {t : List (Exchange Low Below)} {out : Except ε α} :
    (p.lowered below).Answered t out ↔ ∃ above, Made below above t ∧ p.Answered above out := by
  induction p generalizing t with
  | pure a =>
    constructor
    · intro ran
      obtain ⟨rfl,rfl⟩ := ran
      exact ⟨[],.nil,rfl,rfl⟩
    · intro both
      obtain ⟨_,made,rfl,rfl⟩ := both
      cases made
      exact ⟨rfl,rfl⟩
  | raise e =>
    constructor
    · intro ran
      obtain ⟨rfl,rfl⟩ := ran
      exact ⟨[],.nil,rfl,rfl⟩
    · intro both
      obtain ⟨_,made,rfl,rfl⟩ := both
      cases made
      exact ⟨rfl,rfl⟩
  | call r next ih =>
    constructor
    · intro ran
      rcases answered_bind.mp ran with ⟨e,raised,_⟩ | ⟨x,first,later,rfl,answered,ran⟩
      · exact absurd raised (silent r t e)
      · obtain ⟨above,made,ran⟩ := (ih x).mp ran
        exact ⟨⟨r,x⟩::above,.cons answered made,x,above,rfl,ran⟩
    · intro both
      obtain ⟨_,made,x,above,rfl,ran⟩ := both
      cases made with
      | cons answered made => exact answered_bind.mpr (.inr ⟨x,_,_,rfl,answered,(ih x).mpr ⟨above,made,ran⟩⟩)

section Parts
variable {above : List (Exchange Req Resp)} {t : List (Exchange Low Below)}

theorem Made.part (made : Made below above t) {y : Exchange Low Below} (listed : y ∈ t) :
    ∃ x ∈ above, ∃ part, (below x.1).Answered part (.ok x.2) ∧ y ∈ part := by
  induction made with
  | nil => cases listed
  | cons answered _ ih =>
    rcases List.mem_append.mp listed with first | later
    · exact ⟨_,List.mem_cons_self,_,answered,first⟩
    · obtain ⟨x,member,part,made,within⟩ := ih later
      exact ⟨x,List.mem_cons_of_mem _ member,part,made,within⟩

theorem Made.parts (made : Made below above t) {x : Exchange Req Resp} (listed : x ∈ above) :
    ∃ part, (below x.1).Answered part (.ok x.2) ∧ part.Sublist t := by
  induction made with
  | nil => cases listed
  | @cons r x' above later first answered made ih =>
    rcases List.mem_cons.mp listed with rfl | member
    · exact ⟨_,answered,List.sublist_append_left _ _⟩
    · obtain ⟨part,own,within⟩ := ih member
      exact ⟨part,own,within.trans (List.sublist_append_right _ _)⟩

theorem Made.count (made : Made below above t) {counted : Exchange Low Below → Bool} {most : Nat}
    (each : ∀ r x part, (below r).Answered part (.ok x) → part.countP counted ≤ most) :
    t.countP counted ≤ most*above.length := by
  induction made with
  | nil => simp
  | @cons r first x above later answered _ ih =>
    have here := each r x first answered
    rw [List.countP_append,List.length_cons,Nat.mul_add,Nat.mul_one]
    omega

end Parts
end Prog
end CallTree
