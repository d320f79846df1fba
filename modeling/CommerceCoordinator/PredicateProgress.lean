import CommerceCoordinator.PredicateDebug
import CommerceCoordinator.PredicatePrinting

-- When `check` returns: every derived predicate is evaluated to a bool, unless an
-- `in` or `is defined` that is reached asks about a function call.
namespace CartPredicateParser
open Lark
open Commercetools (Exn)

mutual
def Expression.Throughout (condition : Expression N → Prop) : Expression N → Prop
  | .cmp operator field expected => condition (.cmp operator field expected) ∧ field.Throughout condition
  | .inExpr field items negate => condition (.inExpr field items negate) ∧ field.Throughout condition
  | .isDefined field negate => condition (.isDefined field negate) ∧ field.Throughout condition
  | .and a b => condition (.and a b) ∧ a.Throughout condition ∧ b.Throughout condition
  | .or a b => condition (.or a b) ∧ a.Throughout condition ∧ b.Throughout condition
def Field.Throughout (condition : Expression N → Prop) : Field N → Prop
  | .path _ => True
  | .func _ args => throughoutAll condition args
def throughoutAll (condition : Expression N → Prop) : List (Expression N) → Prop
  | [] => True
  | expression :: rest => expression.Throughout condition ∧ throughoutAll condition rest
end

def OperatorKnown : Expression N → Prop
  | .cmp operator _ _ => operator ∈ operators
  | _ => True

theorem throughoutAll_iff {condition : Expression N → Prop} {args : List (Expression N)} :
    throughoutAll condition args ↔ ∀ expression ∈ args, expression.Throughout condition := by
  induction args with
  | nil => simp [throughoutAll]
  | cons first rest ih => simp [throughoutAll,ih]

theorem mapM_returns {step : α → Except ε β} {property : β → Prop} (items : List α)
    (each : ∀ item ∈ items, ∃ value, step item = .ok value ∧ property value) :
    ∃ values, items.mapM step = .ok values ∧ ∀ value ∈ values, property value := by
  induction items with
  | nil => exact ⟨[],rfl,fun value member => by cases member⟩
  | cons item rest ih =>
    obtain ⟨value,stepped,first⟩ := each item (by simp)
    obtain ⟨values,mapped,others⟩ := ih fun item member => each item (by simp [member])
    refine ⟨value :: values,?_,?_⟩
    · rw [List.mapM_cons,stepped,mapped]
      rfl
    · intro other member
      rcases List.mem_cons.mp member with rfl | later
      · exact first
      · exact others other later

section Transformed

def built : Rule → Built N → Prop
  | .start | .expr | .term | .factor | .comparison => fun value =>
    ∃ expression, value = .expression expression ∧ expression.Throughout OperatorKnown
  | .field | .functionCall => fun value => ∃ field, value = .field field ∧ field.Throughout OperatorKnown
  | .dottedName => fun value => ∃ path, value = .field (.path path)
  | .backtickName => fun value => ∃ leaf, value = .token leaf
  | .args => fun value => ∃ args, value = .args args ∧ throughoutAll OperatorKnown args
  | .list => fun value => ∃ items, value = .values items
  | .value => fun value => ∃ v, value = .value v
  | .orExpr | .andExpr | .inExpr | .isDefinedExpr => fun _ => False

variable (float : String → N)

theorem comparison_built (index : Nat) (alternative : Alternative Terminal Rule) (values : List (Built N))
    (found : (alternatives .comparison)[index]? = some alternative)
    (yielded : Yields grammar (transformer float) built alternative.pattern values) :
    ∃ value, grammar.combine (transformer float) .comparison index values = .ok value ∧ built .comparison value := by
  rcases index with _ | _ | _ | index <;> cases found
  · simp only [yields_seq,yields_rule,yields_terminal] at yielded
    obtain ⟨_,⟨_,⟨field,rfl,within⟩,rfl⟩,_,⟨_,⟨text,accepted,rfl⟩,_,⟨_,⟨v,rfl⟩,rfl⟩,rfl⟩,rfl⟩ := yielded
    refine ⟨_,rfl,_,rfl,?_,within⟩
    obtain ⟨operator,known,same⟩ := List.any_eq_true.mp accepted
    have text : text = operator.toList := by simpa using same
    subst text
    simpa only [OperatorKnown,String.ofList_toList] using known
  · simp only [yields_seq,yields_rule,yields_opt,yields_terminal,yields_literal] at yielded
    obtain ⟨_,⟨_,⟨field,rfl,within⟩,rfl⟩,_,⟨_,negated,_,⟨_,rfl,_,⟨_,⟨items,rfl⟩,rfl⟩,rfl⟩,rfl⟩,rfl⟩ := yielded
    rcases negated with rfl | ⟨text,accepted,rfl⟩
    · exact ⟨_,rfl,_,rfl,trivial,within⟩
    · have text : text = "not".toList := by simpa [grammar,accepts] using accepted
      subst text
      exact ⟨_,rfl,_,rfl,trivial,within⟩
  · simp only [yields_seq,yields_rule,yields_opt,yields_terminal,yields_literal] at yielded
    obtain ⟨_,⟨_,⟨field,rfl,within⟩,rfl⟩,_,⟨_,rfl,_,⟨_,negated,_,rfl,rfl⟩,rfl⟩,rfl⟩ := yielded
    rcases negated with rfl | ⟨text,accepted,rfl⟩
    · exact ⟨_,rfl,_,rfl,trivial,within⟩
    · exact ⟨_,rfl,_,rfl,trivial,within⟩

theorem alternative_built (rule : Rule) (index : Nat) (alternative : Alternative Terminal Rule) (values : List (Built N))
    (found : (alternatives rule)[index]? = some alternative)
    (yielded : Yields grammar (transformer float) built alternative.pattern values) :
    ∃ value, grammar.combine (transformer float) rule index values = .ok value ∧ built rule value := by
  cases rule with
  | start =>
    rcases index with _ | index <;> cases found
    obtain ⟨value,sorted,rfl⟩ := yields_rule.mp yielded
    exact ⟨value,rfl,sorted⟩
  | expr =>
    rcases index with _ | _ | index <;> cases found
    · simp only [yields_seq,yields_rule,yields_literal] at yielded
      obtain ⟨_,⟨_,⟨a,rfl,left⟩,rfl⟩,_,⟨_,rfl,_,⟨_,⟨b,rfl,right⟩,rfl⟩,rfl⟩,rfl⟩ := yielded
      exact ⟨_,rfl,_,rfl,trivial,left,right⟩
    · obtain ⟨value,sorted,rfl⟩ := yields_rule.mp yielded
      exact ⟨value,rfl,sorted⟩
  | term =>
    rcases index with _ | _ | index <;> cases found
    · simp only [yields_seq,yields_rule,yields_literal] at yielded
      obtain ⟨_,⟨_,⟨a,rfl,left⟩,rfl⟩,_,⟨_,rfl,_,⟨_,⟨b,rfl,right⟩,rfl⟩,rfl⟩,rfl⟩ := yielded
      exact ⟨_,rfl,_,rfl,trivial,left,right⟩
    · obtain ⟨value,sorted,rfl⟩ := yields_rule.mp yielded
      exact ⟨value,rfl,sorted⟩
  | factor =>
    rcases index with _ | _ | index <;> cases found
    · simp only [yields_seq,yields_rule,yields_literal] at yielded
      obtain ⟨_,rfl,_,⟨_,⟨value,sorted,rfl⟩,_,rfl,rfl⟩,rfl⟩ := yielded
      exact ⟨value,rfl,sorted⟩
    · obtain ⟨value,sorted,rfl⟩ := yields_rule.mp yielded
      exact ⟨value,rfl,sorted⟩
  | comparison => exact comparison_built float index alternative values found yielded
  | field =>
    rcases index with _ | index <;> cases found
    simp only [yields_alt,yields_rule] at yielded
    rcases yielded with ⟨value,sorted,rfl⟩ | ⟨value,⟨path,rfl⟩,rfl⟩
    · exact ⟨value,rfl,sorted⟩
    · exact ⟨_,rfl,_,rfl,trivial⟩
  | dottedName =>
    rcases index with _ | index <;> cases found
    have named : ∀ value ∈ values, ∃ text, PredicateTransformer.str value = .ok text ∧ True := by
      refine yields_separated yielded (fun once name => ?_) (fun once part => ?_)
      · obtain ⟨text,_,rfl⟩ := yields_terminal.mp name
        exact List.forall_mem_singleton.mpr ⟨_,rfl,trivial⟩
      · simp only [yields_alt,yields_terminal,yields_rule] at part
        rcases part with ⟨text,_,rfl⟩ | ⟨_,⟨leaf,rfl⟩,rfl⟩
        · exact List.forall_mem_singleton.mpr ⟨_,rfl,trivial⟩
        · exact List.forall_mem_singleton.mpr ⟨_,rfl,trivial⟩
    obtain ⟨texts,mapped,_⟩ := mapM_returns values named
    refine ⟨.field (.path (".".intercalate texts)),?_,_,rfl⟩
    show PredicateTransformer.dottedName values = _
    rw [PredicateTransformer.dottedName,mapped]
    rfl
  | backtickName =>
    rcases index with _ | index <;> cases found
    simp only [yields_seq,yields_terminal,yields_literal] at yielded
    obtain ⟨_,rfl,_,⟨_,⟨text,_,rfl⟩,_,rfl,rfl⟩,rfl⟩ := yielded
    exact ⟨_,rfl,_,rfl⟩
  | functionCall =>
    rcases index with _ | index <;> cases found
    simp only [yields_seq,yields_terminal,yields_literal,yields_opt,yields_rule] at yielded
    obtain ⟨_,⟨text,_,rfl⟩,_,⟨_,rfl,_,⟨_,called,_,rfl,rfl⟩,rfl⟩,rfl⟩ := yielded
    rcases called with rfl | ⟨_,⟨args,rfl,within⟩,rfl⟩
    · exact ⟨_,rfl,_,rfl,trivial⟩
    · exact ⟨_,rfl,_,rfl,within⟩
  | args =>
    rcases index with _ | index <;> cases found
    have each (once : List (Built N)) (inner : Yields grammar (transformer float) built (.rule .expr) once) :
        ∀ value ∈ once, ∃ expression, PredicateTransformer.expression value = .ok expression ∧
          expression.Throughout OperatorKnown := by
      obtain ⟨_,⟨expression,rfl,within⟩,rfl⟩ := yields_rule.mp inner
      exact List.forall_mem_singleton.mpr ⟨expression,rfl,within⟩
    obtain ⟨args,mapped,within⟩ := mapM_returns values (yields_separated yielded each each)
    refine ⟨.args args,?_,args,rfl,throughoutAll_iff.mpr within⟩
    show PredicateTransformer.args values = _
    rw [PredicateTransformer.args,mapped]
    rfl
  | list =>
    rcases index with _ | index <;> cases found
    simp only [yields_seq,yields_literal,yields_maybe] at yielded
    obtain ⟨_,rfl,_,⟨inner,items,_,rfl,rfl⟩,rfl⟩ := yielded
    have each (once : List (Built N)) (listed : Yields grammar (transformer float) built (.rule .value) once) :
        ∀ value ∈ once, ∃ item, PredicateTransformer.item value = .ok item ∧ True := by
      obtain ⟨_,⟨item,rfl⟩,rfl⟩ := yields_rule.mp listed
      exact List.forall_mem_singleton.mpr ⟨item,rfl,trivial⟩
    have listed : ∀ value ∈ inner, ∃ item, PredicateTransformer.item value = .ok item ∧ True := by
      rcases items with rfl | items
      · exact List.forall_mem_singleton.mpr ⟨_,rfl,trivial⟩
      · exact yields_separated (yields_seq.mpr items) each each
    obtain ⟨items,mapped,_⟩ := mapM_returns inner listed
    refine ⟨.values items,?_,items,rfl⟩
    show PredicateTransformer.list (inner ++ []) = _
    rw [List.append_nil,PredicateTransformer.list,mapped]
    rfl
  | value =>
    rcases index with _ | index <;> cases found
    simp only [yields_alt,yields_terminal] at yielded
    rcases yielded with ⟨text,_,rfl⟩ | ⟨text,_,rfl⟩ | ⟨text,_,rfl⟩
    · exact ⟨_,rfl,_,rfl⟩
    · exact ⟨_,rfl,_,rfl⟩
    · exact ⟨_,rfl,_,rfl⟩
  | orExpr => cases found
  | andExpr => cases found
  | inExpr => cases found
  | isDefinedExpr => cases found

theorem derived_transforms (tree : Tree Terminal Rule) (derived : Matches grammar (.rule .start) [tree]) :
    ∃ expression, transform float tree = .ok expression ∧ expression.Throughout OperatorKnown := by
  obtain ⟨values,transformed,yielded⟩ :=
    transform_sorted grammar (transformer float) built (alternative_built float) derived
  obtain ⟨_,⟨expression,rfl,within⟩,rfl⟩ := yields_rule.mp yielded
  rw [Grammar.shapes,Grammar.shapes,List.append_nil] at transformed
  refine ⟨expression,?_,within⟩
  rw [transform,transformed]
  rfl

end Transformed

def Field.Resolves (context : Object N) : Field N → Prop
  | .path dotted => ∃ value, getPath context dotted = .ok value
  | .func name args => (name = "lineItemCount" ∨ name = "lineItemExists") ∧ args ≠ []

def Field.isPath : Field N → Bool
  | .path _ => true
  | .func _ _ => false

-- Each `in` and `is defined` that an evaluation reaches asks about a dotted name. Of
-- the arguments of a call only the first is reached.
mutual
def Expression.asksNames : Expression N → Bool
  | .cmp _ field _ => field.asksNames
  | .inExpr field _ _ | .isDefined field _ => field.isPath
  | .and a b | .or a b => a.asksNames && b.asksNames
def Field.asksNames : Field N → Bool
  | .path _ => true
  | .func _ args => firstAsksNames args
def firstAsksNames : List (Expression N) → Bool
  | [] => true
  | first :: _ => first.asksNames
end

theorem looked_up_iff (context : Object N) (field : Field N) :
    (∃ value, getValue context field = .ok value) ↔ field.isPath = true ∧ field.Resolves context := by
  cases field with
  | path dotted => exact ⟨fun found => ⟨rfl,found⟩,fun found => found.2⟩
  | func name args =>
    constructor
    · rintro ⟨value,looked⟩; cases looked
    · rintro ⟨never,_⟩; cases never

section
variable [Zero N] [One N]

-- Two numbers, a bool being one of them, or two strings.
def Object.SameKind (evaluated : Object N) : Value N → Prop
  | .absent => False
  | .number _ => evaluated.number?.isSome
  | .text _ => ∃ value, evaluated = .text value

-- A call returns the number 1 or 0.
def Field.Comparable (context : Object N) (expected : Value N) : Field N → Prop
  | .path dotted => ∀ value, getPath context dotted = .ok value → value.SameKind expected
  | .func _ _ => ∃ value, expected = .number value

def Meets (context : Object N) : Expression N → Prop
  | .cmp operator field expected => field.Resolves context ∧
    (operator ∈ [">","<",">=","<="] → field.Comparable context (normalizeExpected expected))
  | .inExpr field _ _ | .isDefined field _ => field.Resolves context
  | .and .. | .or .. => True

mutual
def Expression.Evaluable (context : Object N) : Expression N → Prop
  | .cmp operator field expected => field.Evaluable context ∧ operator ∈ operators ∧
    (operator ∈ [">","<",">=","<="] → field.Comparable context (normalizeExpected expected))
  | .inExpr field _ _ | .isDefined field _ => field.isPath = true ∧ field.Resolves context
  | .and a b | .or a b => a.Evaluable context ∧ b.Evaluable context
def Field.Evaluable (context : Object N) : Field N → Prop
  | .path dotted => ∃ value, getPath context dotted = .ok value
  | .func name args => (name = "lineItemCount" ∨ name = "lineItemExists") ∧ firstEvaluable context args
def firstEvaluable (context : Object N) : List (Expression N) → Prop
  | [] => False
  | first :: _ => first.Evaluable context
end

mutual
theorem meets_known (context : Object N) : ∀ expression : Expression N, expression.Throughout (Meets context) →
    expression.CallsKnown
  | .cmp _ field _,meets => field_meets_known context field meets.2 meets.1.1
  | .inExpr ..,_ => trivial
  | .isDefined ..,_ => trivial
  | .and a b,meets => ⟨meets_known context a meets.2.1,meets_known context b meets.2.2⟩
  | .or a b,meets => ⟨meets_known context a meets.2.1,meets_known context b meets.2.2⟩
theorem field_meets_known (context : Object N) : ∀ field : Field N, field.Throughout (Meets context) →
    field.Resolves context → field.CallsKnown
  | .path _,_,_ => trivial
  | .func _ [],_,resolves => absurd rfl resolves.2
  | .func _ (first :: _),meets,resolves => ⟨resolves.1,meets_known context first meets.1⟩
end

theorem ordered_returns (numbers : N → N → Bool) (texts : String → String → Bool) (evaluated : Object N)
    (expected : Value N) (same : evaluated.SameKind expected) :
    ∃ result, evaluated.ordered numbers texts expected = .ok (.bool result) := by
  cases expected with
  | absent => exact same.elim
  | number expected =>
    obtain ⟨value,number⟩ := Option.isSome_iff_exists.mp same
    exact ⟨numbers value expected,by simp [Object.ordered,number]⟩
  | text expected =>
    obtain ⟨value,rfl⟩ := same
    exact ⟨texts value expected,rfl⟩

theorem ordered_returns_iff (numbers : N → N → Bool) (texts : String → String → Bool) (evaluated : Object N)
    (expected : Value N) : (∃ value, evaluated.ordered numbers texts expected = .ok value) ↔ evaluated.SameKind expected := by
  constructor
  · rintro ⟨value,returned⟩
    unfold Object.ordered at returned
    split at returned
    · exact ⟨_,rfl⟩
    · split at returned
      · next number => exact Option.isSome_iff_exists.mpr ⟨_,number⟩
      · cases returned
    · cases returned
  · intro same
    obtain ⟨result,returned⟩ := ordered_returns numbers texts evaluated expected same
    exact ⟨_,returned⟩

theorem ordered_bool (numbers : N → N → Bool) (texts : String → String → Bool) (evaluated : Object N)
    (expected : Value N) (value : Object N) (returned : evaluated.ordered numbers texts expected = .ok value) :
    ∃ result, value = .bool result := by
  unfold Object.ordered at returned
  split at returned
  · cases returned; exact ⟨_,rfl⟩
  · split at returned
    · cases returned; exact ⟨_,rfl⟩
    · cases returned
  · cases returned

def Field.Yields (context : Object N) (evaluated : Object N) : Field N → Prop
  | .path dotted => getPath context dotted = .ok evaluated
  | .func _ _ => ∃ number, evaluated = .number number

theorem same_kind_iff (context : Object N) (field : Field N) (expected : Value N) (evaluated : Object N)
    (yields : field.Yields context evaluated) : evaluated.SameKind expected ↔ field.Comparable context expected := by
  cases field with
  | path dotted =>
    refine ⟨fun same value found => ?_,fun comparable => comparable evaluated yields⟩
    cases yields.symm.trans found
    exact same
  | func name args =>
    obtain ⟨number,rfl⟩ := yields
    cases expected with
    | absent => simp [Object.SameKind,Field.Comparable]
    | number value => simp [Object.SameKind,Field.Comparable,Object.number?]
    | text value => simp [Object.SameKind,Field.Comparable]

-- Where those conditions are met, the names that are asked about decide.
mutual
theorem evaluable_asks (context : Object N) : ∀ expression : Expression N, expression.Throughout OperatorKnown →
    expression.Throughout (Meets context) → (expression.Evaluable context ↔ expression.asksNames = true)
  | .cmp operator field expected,known,meets => by
    rw [Expression.Evaluable,Expression.asksNames,← field_evaluable_asks context field known.2 meets.2 meets.1.1]
    exact and_iff_left ⟨known.1,meets.1.2⟩
  | .inExpr field items negate,_,meets => and_iff_left meets.1
  | .isDefined field negate,_,meets => and_iff_left meets.1
  | .and a b,known,meets | .or a b,known,meets => by
    rw [Expression.Evaluable,Expression.asksNames,Bool.and_eq_true,evaluable_asks context a known.2.1 meets.2.1,
      evaluable_asks context b known.2.2 meets.2.2]
theorem field_evaluable_asks (context : Object N) : ∀ field : Field N, field.Throughout OperatorKnown →
    field.Throughout (Meets context) → field.Resolves context → (field.Evaluable context ↔ field.asksNames = true)
  | .path _,_,_,resolves => iff_of_true resolves rfl
  | .func _ [],_,_,resolves => absurd rfl resolves.2
  | .func _ (first :: _),known,meets,resolves => by
    rw [Field.Evaluable,Field.asksNames,firstEvaluable,firstAsksNames,← evaluable_asks context first known.1 meets.1]
    exact and_iff_right resolves.1
end

variable [BEq N]

theorem call_yields {known : Prop} [Decidable known] {inner : Except Exn (Object N)} {evaluated : Object N}
    (called : (if known then do
        let result ← inner
        return .number (if result.truthy then 1 else 0)
      else .error .valueError) = Except.ok evaluated) : ∃ number, evaluated = .number number := by
  split at called
  · obtain ⟨result,_,returned⟩ := bind_ok called
    cases returned
    exact ⟨_,rfl⟩
  · cases called

variable [LT N] [LE N] [DecidableLT N] [DecidableLE N]

theorem compare_returns (operator : String) (evaluated : Object N) (expected : Value N) (known : operator ∈ operators)
    (same : operator ∈ [">","<",">=","<="] → evaluated.SameKind expected) :
    ∃ result, compare operator evaluated expected = .ok (.bool result) := by
  simp only [operators,List.mem_cons,List.not_mem_nil,or_false] at known
  rcases known with rfl | rfl | rfl | rfl | rfl | rfl
  · exact ⟨_,rfl⟩
  · exact ⟨_,rfl⟩
  · exact ordered_returns _ _ _ _ (same (by simp))
  · exact ordered_returns _ _ _ _ (same (by simp))
  · exact ordered_returns _ _ _ _ (same (by simp))
  · exact ordered_returns _ _ _ _ (same (by simp))

theorem compare_returns_iff (operator : String) (evaluated : Object N) (expected : Value N) :
    (∃ value, compare operator evaluated expected = .ok value) ↔
      operator ∈ operators ∧ (operator ∈ [">","<",">=","<="] → evaluated.SameKind expected) := by
  constructor
  · rintro ⟨value,returned⟩
    unfold compare at returned
    repeat' split at returned
    · next equal => simp [equal,operators]
    · next differ => simp [differ,operators]
    · next more => simp [more,operators,(ordered_returns_iff _ _ _ _).mp ⟨value,returned⟩]
    · next less => simp [less,operators,(ordered_returns_iff _ _ _ _).mp ⟨value,returned⟩]
    · next atLeast => simp [atLeast,operators,(ordered_returns_iff _ _ _ _).mp ⟨value,returned⟩]
    · next atMost => simp [atMost,operators,(ordered_returns_iff _ _ _ _).mp ⟨value,returned⟩]
    · cases returned
  · rintro ⟨known,same⟩
    obtain ⟨result,returned⟩ := compare_returns operator evaluated expected known same
    exact ⟨_,returned⟩

theorem evaluate_and {context : Object N} {a b : Expression N} {value : Object N}
    (evaluated : evaluate context (.and a b) = .ok value) : ∃ left right, evaluate context a = .ok left ∧
      evaluate context b = .ok right ∧ value = if left.truthy then right else left := by
  rw [evaluate] at evaluated
  obtain ⟨left,one,rest⟩ := bind_ok evaluated
  obtain ⟨right,two,returned⟩ := bind_ok rest
  cases returned
  exact ⟨left,right,one,two,rfl⟩

theorem evaluate_or {context : Object N} {a b : Expression N} {value : Object N}
    (evaluated : evaluate context (.or a b) = .ok value) : ∃ left right, evaluate context a = .ok left ∧
      evaluate context b = .ok right ∧ value = if left.truthy then left else right := by
  rw [evaluate] at evaluated
  obtain ⟨left,one,rest⟩ := bind_ok evaluated
  obtain ⟨right,two,returned⟩ := bind_ok rest
  cases returned
  exact ⟨left,right,one,two,rfl⟩

theorem evaluated_yields (context : Object N) (field : Field N) (evaluated : Object N)
    (looked : evaluateField context field = .ok evaluated) : field.Yields context evaluated := by
  cases field with
  | path dotted => exact looked
  | func name args =>
    cases args with
    | nil => cases looked
    | cons first rest =>
      rw [evaluateField,evaluateFunc] at looked
      exact call_yields looked

mutual
theorem evaluable_iff (context : Object N) : ∀ expression : Expression N,
    (∃ value, evaluate context expression = .ok value) ↔ expression.Evaluable context
  | .cmp operator field expected => by
    rw [evaluate,Expression.Evaluable,← field_evaluable_iff context field]
    constructor
    · rintro ⟨value,evaluated⟩
      obtain ⟨left,looked,compared⟩ := bind_ok evaluated
      rw [← same_kind_iff context field _ left (evaluated_yields context field left looked)]
      exact ⟨⟨left,looked⟩,(compare_returns_iff _ _ _).mp ⟨value,compared⟩⟩
    · rintro ⟨⟨left,looked⟩,comparable⟩
      rw [← same_kind_iff context field _ left (evaluated_yields context field left looked)] at comparable
      rw [looked]
      exact (compare_returns_iff _ _ _).mpr comparable
  | .inExpr field items negate => by
    rw [evaluate,Expression.Evaluable,← looked_up_iff]
    exact bind_returns fun left => ⟨_,rfl⟩
  | .isDefined field negate => by
    rw [evaluate,Expression.Evaluable,← looked_up_iff]
    exact bind_returns fun left => by cases left <;> exact ⟨_,rfl⟩
  | .and a b => by
    rw [evaluate,Expression.Evaluable,← evaluable_iff context a,← evaluable_iff context b]
    exact both_return fun left right : Object N => if left.truthy then right else left
  | .or a b => by
    rw [evaluate,Expression.Evaluable,← evaluable_iff context a,← evaluable_iff context b]
    exact both_return fun left right : Object N => if left.truthy then left else right
theorem field_evaluable_iff (context : Object N) : ∀ field : Field N,
    (∃ value, evaluateField context field = .ok value) ↔ field.Evaluable context
  | .path dotted => Iff.rfl
  | .func name args => by
    rw [evaluateField,Field.Evaluable]
    exact call_evaluable_iff context name args
theorem call_evaluable_iff (context : Object N) (name : String) : ∀ args : List (Expression N),
    (∃ value, evaluateFunc context name args = .ok value) ↔
      (name = "lineItemCount" ∨ name = "lineItemExists") ∧ firstEvaluable context args
  | [] => by simp [evaluateFunc,firstEvaluable]
  | first :: rest => by
    rw [evaluateFunc,firstEvaluable,← evaluable_iff context first]
    split
    · next known => exact (bind_returns fun result => ⟨_,rfl⟩).trans (and_iff_right known).symm
    · next unknown =>
      constructor
      · rintro ⟨value,never⟩; cases never
      · rintro ⟨known,_⟩; exact absurd known unknown
end

theorem compare_bool (operator : String) (evaluated : Object N) (expected : Value N) (value : Object N)
    (returned : compare operator evaluated expected = .ok value) : ∃ result, value = .bool result := by
  unfold compare at returned
  repeat' split at returned
  · cases returned; exact ⟨_,rfl⟩
  · cases returned; exact ⟨_,rfl⟩
  · exact ordered_bool _ _ _ _ _ returned
  · exact ordered_bool _ _ _ _ _ returned
  · exact ordered_bool _ _ _ _ _ returned
  · exact ordered_bool _ _ _ _ _ returned
  · cases returned

theorem evaluate_bool (context : Object N) (expression : Expression N) (value : Object N)
    (evaluated : evaluate context expression = .ok value) : ∃ result, value = .bool result := by
  cases expression with
  | cmp operator field expected =>
    rw [evaluate] at evaluated
    obtain ⟨left,_,compared⟩ := bind_ok evaluated
    exact compare_bool _ _ _ _ compared
  | inExpr field items negate =>
    rw [evaluate] at evaluated
    obtain ⟨left,_,returned⟩ := bind_ok evaluated
    cases returned
    exact ⟨_,rfl⟩
  | isDefined field negate =>
    rw [evaluate] at evaluated
    obtain ⟨left,_,returned⟩ := bind_ok evaluated
    cases left <;> cases returned <;> exact ⟨_,rfl⟩
  | and a b =>
    obtain ⟨left,right,one,two,rfl⟩ := evaluate_and evaluated
    split
    · exact evaluate_bool context b right two
    · exact evaluate_bool context a left one
  | or a b =>
    obtain ⟨left,right,one,two,rfl⟩ := evaluate_or evaluated
    split
    · exact evaluate_bool context a left one
    · exact evaluate_bool context b right two

variable (str : Object N → String) (strTuple : String → List (Expression N) → String) (float : String → N)

theorem check_debug (tree : Tree Terminal Rule) (expression : Expression N) (context : Object N) (debug : Bool)
    (transformed : transform float tree = .ok expression) (known : expression.CallsKnown) :
    check str strTuple float tree context debug = check str strTuple float tree context false := by
  cases debug with
  | false => rfl
  | true =>
    obtain ⟨output,agrees⟩ := debug_agrees str strTuple context expression 0 known
    simp only [check,transformed,bind,Except.bind,if_true,agrees]
    cases evaluate context expression <;> rfl

theorem check_evaluates (tree : Tree Terminal Rule) (expression : Expression N) (context : Object N)
    (transformed : transform float tree = .ok expression) :
    (∃ result, check str strTuple float tree context false = .ok result) ↔
      ∃ value, evaluate context expression = .ok value := by
  simp only [check,transformed,bind,Except.bind]
  cases evaluated : evaluate context expression with
  | error raised => simp
  | ok value =>
    obtain ⟨result,rfl⟩ := evaluate_bool context expression value evaluated
    exact ⟨fun _ => ⟨_,rfl⟩,fun _ => ⟨result,rfl⟩⟩

theorem check_returns_iff (predicate : String) (parsedTree : Tree Terminal Rule)
    (derived : grammar.Derives .start predicate.toList parsedTree) :
    ∃ expression, transform float parsedTree = .ok expression ∧
      ∀ (context : Object N) (debug : Bool), expression.Throughout (Meets context) →
        ((∃ result, check str strTuple float parsedTree context debug = .ok result) ↔ expression.asksNames = true) := by
  obtain ⟨expression,transformed,known⟩ := derived_transforms float parsedTree derived.1
  refine ⟨expression,transformed,fun context debug meets => ?_⟩
  rw [check_debug str strTuple float parsedTree expression context debug transformed
      (meets_known context expression meets),
    check_evaluates str strTuple float parsedTree expression context transformed]
  rw [evaluable_iff]
  exact evaluable_asks context expression known meets

end

def readOne (text : String) : Int := if text = "1" then 1 else 0

def quantityIsOne : Expression Int := .cmp "=" (.path "quantity") (.number 1)

theorem quantityIsOne_printable : quantityIsOne.Printable readOne toString :=
  ⟨by simp [operators],⟨"quantity",[],rfl,by decide⟩,by constructor <;> decide +kernel⟩

theorem quantityIsOne_meets : quantityIsOne.Throughout (Meets (.dict [("quantity",.number 1)])) :=
  ⟨⟨⟨_,rfl⟩,(fun never => (by simp at never))⟩,trivial⟩

theorem exists_call_checked : ∃ tree, grammar.Derives .start "lineItemExists(quantity = 1) = 1".toList tree ∧
    ∃ result, check (fun _ => "") (fun _ _ => "") readOne tree (.dict [("quantity",.number 1)]) false = .ok result := by
  obtain ⟨tree,derived,transformed⟩ := printed_derives toString
    (.cmp "=" (.func "lineItemExists" [quantityIsOne]) (.number 1))
    ⟨by simp [operators],⟨by decide,quantityIsOne_printable,trivial⟩,by constructor <;> decide +kernel⟩
  obtain ⟨expression,same,returns⟩ := check_returns_iff (fun _ => "") (fun _ _ => "") readOne
    "lineItemExists(quantity = 1) = 1" tree derived
  cases transformed.symm.trans same
  refine ⟨tree,derived,(returns _ false ⟨⟨⟨.inr rfl,by simp⟩,fun never => ?_⟩,quantityIsOne_meets,trivial⟩).mpr rfl⟩
  simp at never

theorem call_in_list_raises : ∃ tree expression, grammar.Derives .start "lineItemCount(quantity = 1) in (1)".toList tree ∧
    transform readOne tree = .ok expression ∧ expression.Throughout (Meets (.dict [("quantity",.number 1)])) ∧
    ∀ debug, check (fun _ => "") (fun _ _ => "") readOne tree (.dict [("quantity",.number 1)]) debug =
      .error .attributeError := by
  have one : (Value.number 1 : Value Int).Printable readOne toString := by constructor <;> decide +kernel
  obtain ⟨tree,derived,transformed⟩ := printed_derives toString
    (.inExpr (.func "lineItemCount" [quantityIsOne]) [.number 1] false)
    ⟨⟨by decide,quantityIsOne_printable,trivial⟩,by simp,by simp [one]⟩
  refine ⟨tree,_,derived,transformed,⟨⟨.inl rfl,by simp⟩,quantityIsOne_meets,trivial⟩,fun debug => ?_⟩
  cases debug <;> (simp only [check,transformed]; rfl)

end CartPredicateParser
