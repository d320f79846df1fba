import Mathlib.Data.List.Basic

-- The matches that a search finds from left to right without overlaps.
namespace Findall

section
variable {α β : Type} (matchAt : List α → Option (β × List α))

-- `matchAt` gives what a match at the front of a text captures and the text behind it.
-- The first argument counts the places that the last match still covers.
def findall : Nat → List α → List β
  | _,[] => []
  | covered + 1,_ :: rest => findall covered rest
  | 0,first :: rest =>
    match matchAt (first :: rest) with
    | some (captured,behind) => captured :: findall (rest.length - behind.length) rest
    | none => findall 0 rest

theorem findall_covered (covered rest : List α) :
    findall matchAt covered.length (covered ++ rest) = findall matchAt 0 rest := by
  induction covered with
  | nil => rfl
  | cons first covered ih => exact ih

def Captures (text : List α) (captured : List β) : Prop :=
  ∀ rest, findall matchAt 0 (text ++ rest) = captured ++ findall matchAt 0 rest

variable {matchAt}

theorem findall_captures {text : List α} {captured : List β} (captures : Captures matchAt text captured) :
    findall matchAt 0 text = captured := by
  have whole := captures []
  simpa [findall] using whole

theorem captures_append {text text' : List α} {captured captured' : List β} (first : Captures matchAt text captured)
    (second : Captures matchAt text' captured') : Captures matchAt (text ++ text') (captured ++ captured') := by
  intro rest
  rw [List.append_assoc,first,second,List.append_assoc]

theorem captures_match {first : α} {text : List α} {captured : β}
    (found : ∀ rest, matchAt (first :: text ++ rest) = some (captured,rest)) : Captures matchAt (first :: text) [captured] := by
  intro rest
  have covers : (text ++ rest).length - rest.length = text.length := by simp
  have here := found rest
  simp only [List.cons_append] at here ⊢
  rw [findall,here]
  simp only [covers,findall_covered]
  rfl

theorem captures_past {first : α} {text : List α} {captured : List β}
    (nothing : ∀ rest, matchAt (first :: text ++ rest) = none) (captures : Captures matchAt text captured) :
    Captures matchAt (first :: text) captured := by
  intro rest
  have here := nothing rest
  simp only [List.cons_append] at here ⊢
  rw [findall,here]
  exact captures rest

theorem captures_nothing (starts : α → Bool) (begins : ∀ first rest, starts first = false → matchAt (first :: rest) = none)
    (text : List α) (free : (text.all fun char => !starts char) = true) : Captures matchAt text [] := by
  induction text with
  | nil => exact fun _ => rfl
  | cons first rest ih =>
    obtain ⟨here,others⟩ := Bool.and_eq_true_iff.mp free
    refine captures_past (fun more => begins first _ ?_) (ih others)
    simpa using here

end
end Findall
