import CommerceCoordinator.PredicateEvaluation
import Mathlib.Algebra.Ring.Int.Defs

-- The evaluation with debug output returns what the evaluation returns.
namespace CartPredicateParser
open Commercetools (Exn)

mutual
def Expression.CallsKnown : Expression N → Prop
  | .cmp _ field _ => field.CallsKnown
  | .inExpr .. | .isDefined .. => True
  | .and a b | .or a b => a.CallsKnown ∧ b.CallsKnown
def Field.CallsKnown : Field N → Prop
  | .path _ => True
  | .func name args => callKnown name args
def callKnown (name : String) : List (Expression N) → Prop
  | [] => False
  | first :: _ => (name = "lineItemCount" ∨ name = "lineItemExists") ∧ first.CallsKnown
end

theorem bind_ok {first : Except ε α} {next : α → Except ε β} {result : β} (returned : (first >>= next) = .ok result) :
    ∃ value, first = .ok value ∧ next value = .ok result := by
  cases first with
  | error raised => cases returned
  | ok value => exact ⟨value,rfl,returned⟩

theorem bind_returns {first : Except ε α} {next : α → Except ε β} (goesOn : ∀ value, ∃ result, next value = .ok result) :
    (∃ result, (first >>= next) = .ok result) ↔ ∃ value, first = .ok value := by
  constructor
  · rintro ⟨result,returned⟩
    obtain ⟨value,begun,_⟩ := bind_ok returned
    exact ⟨value,begun⟩
  · rintro ⟨value,rfl⟩
    exact goesOn value

theorem both_return {first second : Except ε α} (select : α → α → α) :
    (∃ value, (do let left ← first; let right ← second; return select left right) = Except.ok value) ↔
      (∃ left, first = .ok left) ∧ ∃ right, second = .ok right := by
  constructor
  · rintro ⟨value,returned⟩
    obtain ⟨left,one,rest⟩ := bind_ok returned
    obtain ⟨right,two,_⟩ := bind_ok rest
    exact ⟨⟨left,one⟩,right,two⟩
  · rintro ⟨⟨left,rfl⟩,right,rfl⟩
    exact ⟨_,rfl⟩

theorem both_debugged (select : Object N → Object N → Object N) (line : Object N → String → String → String)
    (leftOutput rightOutput : Object N → String) (first second : Except Exn (Object N)) :
    ∃ output : Object N → String, (do
      let (left,leftOutput) ← (← first.map fun value => Debugged.pair value (leftOutput value)).unpack
      let (right,rightOutput) ← (← second.map fun value => Debugged.pair value (rightOutput value)).unpack
      return Debugged.pair (select left right) (line (select left right) leftOutput rightOutput)) =
      (do let left ← first; let right ← second; return select left right).map fun value => Debugged.pair value (output value) := by
  cases first with
  | error raised => exact ⟨fun _ => "",rfl⟩
  | ok left =>
    cases second with
    | error raised => exact ⟨fun _ => "",rfl⟩
    | ok right => exact ⟨fun _ => _,rfl⟩

section
variable [Zero N] [One N] [BEq N] [LT N] [LE N] [DecidableLT N] [DecidableLE N]

mutual
theorem evaluated_known (context : Object N) : ∀ (expression : Expression N) (value : Object N),
    evaluate context expression = .ok value → expression.CallsKnown
  | .cmp _ field _,_,evaluated => by
    rw [evaluate] at evaluated
    obtain ⟨left,looked,_⟩ := bind_ok evaluated
    exact field_known context field left looked
  | .inExpr ..,_,_ => trivial
  | .isDefined ..,_,_ => trivial
  | .and a b,value,evaluated => by
    obtain ⟨⟨left,first⟩,right,second⟩ := (both_return _).mp ⟨value,evaluated⟩
    exact ⟨evaluated_known context a left first,evaluated_known context b right second⟩
  | .or a b,value,evaluated => by
    obtain ⟨⟨left,first⟩,right,second⟩ := (both_return _).mp ⟨value,evaluated⟩
    exact ⟨evaluated_known context a left first,evaluated_known context b right second⟩
theorem field_known (context : Object N) : ∀ (field : Field N) (value : Object N),
    evaluateField context field = .ok value → field.CallsKnown
  | .path _,_,_ => trivial
  | .func name args,value,evaluated => call_known context name args value evaluated
theorem call_known (context : Object N) (name : String) : ∀ (args : List (Expression N)) (value : Object N),
    evaluateFunc context name args = .ok value → callKnown name args
  | [],_,evaluated => by cases evaluated
  | first :: _,_,evaluated => by
    rw [evaluateFunc] at evaluated
    split at evaluated
    · next known =>
      obtain ⟨result,inner,_⟩ := bind_ok evaluated
      exact ⟨known,evaluated_known context first result inner⟩
    · cases evaluated
end

variable (str : Object N → String) (strTuple : String → List (Expression N) → String)

mutual
theorem debug_agrees (context : Object N) : ∀ (expression : Expression N) (depth : Int), expression.CallsKnown →
    ∃ output : Object N → String, evaluateWithDebugOutput str strTuple context depth expression =
      (evaluate context expression).map fun value => .pair value (output value)
  | .cmp operator field expected,depth,known => by
    obtain ⟨output,looked⟩ := debugField_agrees context field (depth + 1) known
    simp only [evaluateWithDebugOutput,evaluate,looked]
    cases evaluateField context field with
    | error raised => exact ⟨fun _ => "",rfl⟩
    | ok evaluated =>
      simp only [bind,Except.bind,Except.map]
      cases compare operator evaluated (normalizeExpected expected) with
      | error raised => exact ⟨fun _ => "",rfl⟩
      | ok result =>
        simp only
        split <;> exact ⟨fun _ => _,rfl⟩
  | .inExpr field items negate,depth,_ => by
    simp only [evaluateWithDebugOutput,evaluate]
    cases getValue context field with
    | error raised => exact ⟨fun _ => "",rfl⟩
    | ok evaluated => exact ⟨fun _ => _,rfl⟩
  | .isDefined field negate,depth,_ => by
    simp only [evaluateWithDebugOutput,evaluate]
    cases getValue context field with
    | error raised => exact ⟨fun _ => "",rfl⟩
    | ok evaluated => cases evaluated <;> exact ⟨fun _ => _,rfl⟩
  | .and a b,depth,known => by
    obtain ⟨leftOutput,left⟩ := debug_agrees context a (depth + 1) known.1
    obtain ⟨rightOutput,right⟩ := debug_agrees context b (depth + 1) known.2
    rw [evaluateWithDebugOutput,left,right,evaluate]
    exact both_debugged (fun left right => if left.truthy then right else left) (debugConnective "AND" depth)
      leftOutput rightOutput _ _
  | .or a b,depth,known => by
    obtain ⟨leftOutput,left⟩ := debug_agrees context a (depth + 1) known.1
    obtain ⟨rightOutput,right⟩ := debug_agrees context b (depth + 1) known.2
    rw [evaluateWithDebugOutput,left,right,evaluate]
    exact both_debugged (fun left right => if left.truthy then left else right) (debugConnective "OR" depth)
      leftOutput rightOutput _ _
theorem debugField_agrees (context : Object N) : ∀ (field : Field N) (depth : Int), field.CallsKnown →
    ∃ output : Object N → Option String, debugField str strTuple context depth field =
      (evaluateField context field).map fun value => (value,output value)
  | .path path,depth,_ => by
    simp only [debugField,evaluateField]
    exact ⟨fun _ => none,by cases getPath context path <;> rfl⟩
  | .func name args,depth,known => by
    obtain ⟨output,agrees⟩ := debugFunc_agrees context name args depth known
    simp only [debugField,evaluateField,agrees]
    exact ⟨fun value => some (output value),by cases evaluateFunc context name args <;> rfl⟩
theorem debugFunc_agrees (context : Object N) (name : String) : ∀ (args : List (Expression N)) (depth : Int),
    callKnown name args → ∃ output : Object N → String, debugFunc str strTuple context depth name args =
      (evaluateFunc context name args).map fun value => .pair value (output value)
  | [],_,known => known.elim
  | first :: _,depth,known => by
    obtain ⟨output,inner⟩ := debug_agrees context first (depth + 1) known.2
    simp only [debugFunc,evaluateFunc,known.1,if_true,inner]
    cases evaluate context first with
    | error raised => exact ⟨fun _ => "",rfl⟩
    | ok result => exact ⟨fun _ => _,rfl⟩
end

-- An expression, or the tuple of a function call that is the field of one.
theorem debug_output_agrees (context : Object N) :
    (∀ expression depth value, evaluate context expression = .ok value →
      ∃ output, evaluateWithDebugOutput str strTuple context depth expression = .ok (.pair value output)) ∧
    (∀ name args depth value, evaluateFunc context name args = .ok value →
      ∃ output, debugFunc str strTuple context depth name args = .ok (.pair value output)) := by
  constructor
  · intro expression depth value evaluated
    obtain ⟨output,agrees⟩ := debug_agrees str strTuple context expression depth
      (evaluated_known context expression value evaluated)
    rw [evaluated] at agrees
    exact ⟨output value,agrees⟩
  · intro name args depth value evaluated
    obtain ⟨output,agrees⟩ := debugFunc_agrees str strTuple context name args depth
      (call_known context name args value evaluated)
    rw [evaluated] at agrees
    exact ⟨output value,agrees⟩

theorem nested_calls_agree : ∃ output,
    evaluateWithDebugOutput (N := Int) (fun _ => "") (fun _ _ => "") (.dict [("quantity",.number 1)]) 0
      (.or (.cmp "=" (.func "lineItemCount" [.cmp "!=" (.path "quantity") (.text "true"),.isDefined (.path "sku") true]) (.number 0))
        (.inExpr (.path "quantity") [.text "a",.number 2] true)) = .ok (.pair (.bool true) output) :=
  (debug_output_agrees (fun _ => "") (fun _ _ => "") (.dict [("quantity",.number (1 : Int))])).1 _ 0 _ (by rfl)

end
end CartPredicateParser
