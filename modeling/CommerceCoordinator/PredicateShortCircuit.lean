import CommerceCoordinator.PredicateProgress

-- `_evaluate` evaluates both sides of every `and` and `or`: against a reference that
-- stops at the side that decides.
namespace CartPredicateParser
open Commercetools (Exn)

section
variable [Zero N] [One N] [BEq N] [LT N] [LE N] [DecidableLT N] [DecidableLE N]

-- The reference: the right side is evaluated only where the left one does not decide.
mutual
def shortCircuit (context : Object N) : Expression N → Except Exn (Object N)
  | .cmp operator field expected => do
    let evaluated ← shortCircuitField context field
    compare operator evaluated (normalizeExpected expected)
  | .inExpr field items negate => evaluate context (.inExpr field items negate)
  | .isDefined field negate => evaluate context (.isDefined field negate)
  | .and a b => do
    let left ← shortCircuit context a
    if left.truthy then shortCircuit context b else return left
  | .or a b => do
    let left ← shortCircuit context a
    if left.truthy then return left else shortCircuit context b
def shortCircuitField (context : Object N) : Field N → Except Exn (Object N)
  | .path path => getPath context path
  | .func name args => shortCircuitFunc context name args
def shortCircuitFunc (context : Object N) (name : String) : List (Expression N) → Except Exn (Object N)
  | [] => .error .valueError
  | first :: _ =>
    if name = "lineItemCount" ∨ name = "lineItemExists" then do
      let result ← shortCircuit context first
      return .number (if result.truthy then 1 else 0)
    else .error .valueError
end

mutual
def skipped (context : Object N) : Expression N → List (Expression N)
  | .cmp _ field _ => skippedField context field
  | .inExpr .. | .isDefined .. => []
  | .and a b => skipped context a ++ match shortCircuit context a with
    | .ok left => if left.truthy then skipped context b else [b]
    | .error _ => []
  | .or a b => skipped context a ++ match shortCircuit context a with
    | .ok left => if left.truthy then [b] else skipped context b
    | .error _ => []
def skippedField (context : Object N) : Field N → List (Expression N)
  | .path _ => []
  | .func _ args => skippedFunc context args
def skippedFunc (context : Object N) : List (Expression N) → List (Expression N)
  | [] => []
  | first :: _ => skipped context first
end

theorem short_yields (context : Object N) (field : Field N) (evaluated : Object N)
    (looked : shortCircuitField context field = .ok evaluated) : field.Yields context evaluated := by
  cases field with
  | path dotted => exact looked
  | func name args =>
    cases args with
    | nil => cases looked
    | cons first rest =>
      rw [shortCircuitField,shortCircuitFunc] at looked
      exact call_yields looked

-- Where everything evaluates, leaving something out makes no difference.
mutual
theorem evaluate_short (context : Object N) : ∀ (expression : Expression N) (value : Object N),
    evaluate context expression = .ok value → shortCircuit context expression = .ok value
  | .cmp operator field expected,value,evaluated => by
    rw [evaluate] at evaluated
    obtain ⟨left,looked,compared⟩ := bind_ok evaluated
    rw [shortCircuit,field_short context field left looked]
    exact compared
  | .inExpr field items negate,value,evaluated => evaluated
  | .isDefined field negate,value,evaluated => evaluated
  | .and a b,value,evaluated => by
    obtain ⟨left,right,one,two,rfl⟩ := evaluate_and evaluated
    rw [shortCircuit,evaluate_short context a left one]
    show (if left.truthy then shortCircuit context b else .ok left) = _
    split
    · exact evaluate_short context b right two
    · rfl
  | .or a b,value,evaluated => by
    obtain ⟨left,right,one,two,rfl⟩ := evaluate_or evaluated
    rw [shortCircuit,evaluate_short context a left one]
    show (if left.truthy then .ok left else shortCircuit context b) = _
    split
    · rfl
    · exact evaluate_short context b right two
theorem field_short (context : Object N) : ∀ (field : Field N) (value : Object N),
    evaluateField context field = .ok value → shortCircuitField context field = .ok value
  | .path _,_,looked => looked
  | .func name args,value,called => call_short context name args value called
theorem call_short (context : Object N) (name : String) : ∀ (args : List (Expression N)) (value : Object N),
    evaluateFunc context name args = .ok value → shortCircuitFunc context name args = .ok value
  | [],_,never => by cases never
  | first :: _,value,called => by
    rw [evaluateFunc] at called
    split at called
    · next known =>
      obtain ⟨result,inner,returned⟩ := bind_ok called
      rw [shortCircuitFunc,if_pos known,evaluate_short context first result inner]
      exact returned
    · cases called
end

-- What the reference has evaluated is evaluable but for what it has left out.
mutual
theorem evaluable_skipped (context : Object N) : ∀ (expression : Expression N) (value : Object N),
    shortCircuit context expression = .ok value →
    (expression.Evaluable context ↔ ∀ operand ∈ skipped context expression, operand.Evaluable context)
  | .cmp operator field expected,value,evaluated => by
    rw [shortCircuit] at evaluated
    obtain ⟨left,looked,compared⟩ := bind_ok evaluated
    have comparable := (compare_returns_iff _ _ _).mp ⟨value,compared⟩
    rw [same_kind_iff context field _ left (short_yields context field left looked)] at comparable
    rw [Expression.Evaluable,skipped,← field_skipped context field left looked]
    exact and_iff_left comparable
  | .inExpr field items negate,value,evaluated => by
    simpa [skipped] using (evaluable_iff context (.inExpr field items negate)).mp ⟨value,evaluated⟩
  | .isDefined field negate,value,evaluated => by
    simpa [skipped] using (evaluable_iff context (.isDefined field negate)).mp ⟨value,evaluated⟩
  | .and a b,value,evaluated => by
    rw [shortCircuit] at evaluated
    obtain ⟨left,one,rest⟩ := bind_ok evaluated
    rw [Expression.Evaluable,skipped,one,List.forall_mem_append,← evaluable_skipped context a left one]
    refine and_congr_right fun _ => ?_
    by_cases decided : left.truthy = true
    · rw [if_pos decided] at rest
      simpa only [decided,if_true] using evaluable_skipped context b value rest
    · simp [decided]
  | .or a b,value,evaluated => by
    rw [shortCircuit] at evaluated
    obtain ⟨left,one,rest⟩ := bind_ok evaluated
    rw [Expression.Evaluable,skipped,one,List.forall_mem_append,← evaluable_skipped context a left one]
    refine and_congr_right fun _ => ?_
    by_cases decided : left.truthy = true
    · simp [decided]
    · rw [if_neg decided] at rest
      simpa only [decided,if_false,Bool.false_eq_true] using evaluable_skipped context b value rest
theorem field_skipped (context : Object N) : ∀ (field : Field N) (value : Object N),
    shortCircuitField context field = .ok value →
    (field.Evaluable context ↔ ∀ operand ∈ skippedField context field, operand.Evaluable context)
  | .path dotted,value,looked => by
    rw [Field.Evaluable,skippedField]
    simpa using ⟨value,looked⟩
  | .func name args,value,called => by
    rw [Field.Evaluable,skippedField]
    exact call_skipped context name args value called
theorem call_skipped (context : Object N) (name : String) : ∀ (args : List (Expression N)) (value : Object N),
    shortCircuitFunc context name args = .ok value →
    ((name = "lineItemCount" ∨ name = "lineItemExists") ∧ firstEvaluable context args ↔
      ∀ operand ∈ skippedFunc context args, operand.Evaluable context)
  | [],_,never => by cases never
  | first :: _,value,called => by
    rw [shortCircuitFunc] at called
    split at called
    · next known =>
      obtain ⟨result,inner,_⟩ := bind_ok called
      rw [firstEvaluable,skippedFunc,← evaluable_skipped context first result inner]
      exact and_iff_right known
    · cases called
end

structure GuardsProtect (context : Object N) (a b : Expression N) : Prop where
  stopsAnd : evaluate context a = .ok (.bool false) → evaluate context (.and a b) = .ok (.bool false)
  stopsOr : evaluate context a = .ok (.bool true) → evaluate context (.or a b) = .ok (.bool true)
  joins : ∀ left right : Bool, evaluate context a = .ok (.bool left) → evaluate context b = .ok (.bool right) →
    evaluate context (.and a b) = .ok (.bool (left && right)) ∧ evaluate context (.or a b) = .ok (.bool (left || right))

def AgreesWithShortCircuit (context : Object N) (expression : Expression N) : Prop :=
  ∀ value, shortCircuit context expression = .ok value → evaluate context expression = .ok value

theorem agrees_iff (context : Object N) (expression : Expression N) : AgreesWithShortCircuit context expression ↔
    ((∃ value, shortCircuit context expression = .ok value) →
      ∀ operand ∈ skipped context expression, operand.Evaluable context) := by
  constructor
  · rintro agrees ⟨value,returned⟩
    exact (evaluable_skipped context expression value returned).mp
      ((evaluable_iff context expression).mp ⟨value,agrees value returned⟩)
  · intro safe value returned
    obtain ⟨other,evaluated⟩ := (evaluable_iff context expression).mpr
      ((evaluable_skipped context expression value returned).mpr (safe ⟨value,returned⟩))
    cases returned.symm.trans (evaluate_short context expression other evaluated)
    exact evaluated

theorem evaluate_joins (context : Object N) (a b : Expression N) (left right : Bool)
    (first : evaluate context a = .ok (.bool left)) (second : evaluate context b = .ok (.bool right)) :
    evaluate context (.and a b) = .ok (.bool (left && right)) ∧ evaluate context (.or a b) = .ok (.bool (left || right)) := by
  rw [evaluate,evaluate,first,second]
  cases left <;> exact ⟨rfl,rfl⟩

theorem protects_iff (context : Object N) (a b : Expression N) :
    GuardsProtect context a b ↔ (a.Evaluable context → b.Evaluable context) := by
  constructor
  · intro protects evaluable
    obtain ⟨value,first⟩ := (evaluable_iff context a).mpr evaluable
    obtain ⟨left,rfl⟩ := evaluate_bool context a value first
    cases left with
    | false => exact ((evaluable_iff context (.and a b)).mp ⟨_,protects.stopsAnd first⟩).2
    | true => exact ((evaluable_iff context (.or a b)).mp ⟨_,protects.stopsOr first⟩).2
  · intro safe
    have second (left : Bool) (first : evaluate context a = .ok (.bool left)) :
        ∃ right, evaluate context b = .ok (.bool right) := by
      obtain ⟨value,evaluated⟩ := (evaluable_iff context b).mpr (safe ((evaluable_iff context a).mp ⟨_,first⟩))
      obtain ⟨right,rfl⟩ := evaluate_bool context b value evaluated
      exact ⟨right,evaluated⟩
    refine ⟨fun first => ?_,fun first => ?_,fun left right first second => evaluate_joins context a b left right first second⟩
    · obtain ⟨right,evaluated⟩ := second false first
      exact (evaluate_joins context a b false right first evaluated).1
    · obtain ⟨right,evaluated⟩ := second true first
      exact (evaluate_joins context a b true right first evaluated).2

theorem guards_protect_iff (context : Object N) :
    (∀ a b, GuardsProtect context a b ↔ (a.Evaluable context → b.Evaluable context)) ∧
    ∀ expression, AgreesWithShortCircuit context expression ↔
      ((∃ value, shortCircuit context expression = .ok value) →
        ∀ operand ∈ skipped context expression, operand.Evaluable context) :=
  ⟨protects_iff context,agrees_iff context⟩

end

def twoItems : Expression Int := .cmp "=" (.path "quantity") (.number 2)
def verifiedMode : Expression Int := .cmp "=" (.path "mode") (.text "verified")
def oneItem : Object Int := .dict [("quantity",.number 1)]

theorem guarded_mode_raises : evaluate oneItem twoItems = .ok (.bool false) ∧
    evaluate oneItem (.and twoItems verifiedMode) = .error (.keyError "mode") ∧
    shortCircuit oneItem (.and twoItems verifiedMode) = .ok (.bool false) := by
  have quantity : ("quantity".toList.splitOn '.').map String.ofList = ["quantity"] := by decide +kernel
  have mode : ("mode".toList.splitOn '.').map String.ofList = ["mode"] := by decide +kernel
  simp only [twoItems,verifiedMode,evaluate,shortCircuit,evaluateField,shortCircuitField,getPath,quantity,mode]
  exact ⟨rfl,rfl,rfl⟩

theorem guard_does_not_protect :
    ¬ GuardsProtect oneItem twoItems verifiedMode ∧ ¬ AgreesWithShortCircuit oneItem (.and twoItems verifiedMode) := by
  obtain ⟨guard,raises,reference⟩ := guarded_mode_raises
  constructor
  · intro protects
    cases raises.symm.trans (protects.stopsAnd guard)
  · intro agrees
    cases raises.symm.trans (agrees _ reference)

end CartPredicateParser
