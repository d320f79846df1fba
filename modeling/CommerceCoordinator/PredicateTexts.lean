import CommerceCoordinator.PredicateProgress

-- Predicates as texts: the fields and literals a comparison is written with, and what
-- a text evaluates to.
namespace CartPredicateParser
open Lark
open Commercetools (Exn)

-- A text that is read as a field wherever a field may stand.
structure FieldText (float : String → N) where
  text : String
  field : Field N
  read : Writes grammar (transformer float) (.rule .field) [.field field] text.toList Ends

def dottedField (float : String → N) (first : String) (rest : List Part) (named : CNAME first.toList = true)
    (wellformed : ∀ part ∈ rest, part.Wellformed) : FieldText float where
  text := ".".intercalate (first :: rest.map Part.printed)
  field := .path (".".intercalate (first :: rest.map Part.text))
  read := writes_rule 0 rfl (writes_altRight (writes_mono (writes_dotted float first rest named wellformed) ends_name)) rfl

inductive LiteralKind where
  | string | number | name
  deriving DecidableEq

def LiteralKind.terminal : LiteralKind → Terminal
  | .string => .ESCAPED_STRING
  | .number => .SIGNED_NUMBER
  | .name => .CNAME

structure Literal where
  kind : LiteralKind
  text : String
  accepted : accepts kind.terminal text.toList = true

def Literal.value (float : String → N) (literal : Literal) : Value N :=
  match literal.kind with
  | .string => .text (String.ofList literal.text.toList.tail.dropLast)
  | .number => .number (float literal.text)
  | .name => .text literal.text

def comparisonText (field operator literal : String) : String := field ++ (" " ++ operator) ++ (" " ++ literal)

def membershipText (field : String) (negate : Bool) (literals : List String) : String :=
  field ++ negation negate ++ " in" ++ (" (" ++ ", ".intercalate literals ++ ")")

def existenceText (field : String) (negate : Bool) : String := field ++ " is" ++ negation negate ++ " defined"

section
variable {float : String → N}

theorem literal_writes (literal : Literal) : Writes grammar (transformer float) (.rule .value)
    [.value (literal.value float)] literal.text.toList Ends := by
  obtain ⟨kind,text,accepted⟩ := literal
  cases kind with
  | string => exact writes_string float text.toList accepted
  | number =>
    have number := writes_number float text.toList accepted
    rw [String.ofList_toList] at number
    exact number
  | name =>
    have name : Writes grammar (transformer float) (.rule .value) [.value (.text (String.ofList text.toList))] text.toList Ends :=
      writes_rule 0 rfl (writes_altRight (writes_altRight (writes_mono (writes_cname float text accepted) ends_name))) rfl
    rw [String.ofList_toList] at name
    exact name

def Reads (float : String → N) (predicate : String) (expression : Expression N) : Prop :=
  ∃ tree, grammar.Derives .start predicate.toList tree ∧ transform float tree = .ok expression

theorem reads_of_expression {predicate : String} {expression : Expression N}
    (expr : Writes grammar (transformer float) (.rule .expr) [.expression expression] predicate.toList Ends) :
    Reads float predicate expression := by
  have whole : Writes grammar (transformer float) (.rule .start) [.expression expression] predicate.toList Ends :=
    writes_rule 0 rfl expr rfl
  obtain ⟨tree,derived,transformed⟩ := derives_of_writes whole (by intro _ _ never; cases never)
  exact ⟨tree,derived,by rw [transform,transformed]; rfl⟩

theorem reads_of_comparison {predicate : String} {expression : Expression N}
    (comparison : Writes grammar (transformer float) (.rule .comparison) [.expression expression] predicate.toList Ends) :
    Reads float predicate expression := by
  have read : ReadAs float predicate expression false false := readAs_comparison comparison
  exact reads_of_expression read.1

def opensComparison : Pattern Terminal Rule → Bool
  | .literal text => text == "("
  | .rule name => [Rule.start,.expr,.term,.factor,.comparison].contains name
  | .seq first _ => opensComparison first
  | _ => false

theorem leading_comparison {pattern : Pattern Terminal Rule} {trees : List (Tree Terminal Rule)}
    (found : Matches grammar pattern trees) (leading : opensComparison pattern = true) :
    (∃ tail, Tree.words trees = ⟨.literal "(","(".toList⟩ :: tail) ∨
      ∃ first tail, Matches grammar (.rule .comparison) first ∧ Tree.words trees = Tree.words first ++ tail := by
  induction found with
  | @literal text =>
    cases beq_iff_eq.mp leading
    exact .inl ⟨[],rfl⟩
  | @rule name index alternative children present body ih =>
    have inner (leading : opensComparison alternative.pattern = true) := ih leading
    simp only [Tree.words,Tree.word,List.append_nil]
    cases name with
    | comparison =>
      refine .inr ⟨[.node .comparison index children],[],.rule present body,?_⟩
      simp only [Tree.words,Tree.word,List.append_nil]
    | start => rcases index with _ | index <;> cases present; exact inner rfl
    | expr => rcases index with _ | _ | index <;> cases present <;> exact inner rfl
    | term => rcases index with _ | _ | index <;> cases present <;> exact inner rfl
    | factor => rcases index with _ | _ | index <;> cases present <;> exact inner rfl
    | _ => cases leading
  | @seq first second left right _ _ ih =>
    rw [words_append]
    rcases ih leading with ⟨tail,words⟩ | ⟨comparison,tail,found,words⟩
    · exact .inl ⟨tail ++ Tree.words right,by rw [words,List.cons_append]⟩
    · exact .inr ⟨comparison,tail ++ Tree.words right,found,by rw [words,List.append_assoc]⟩
  | _ => cases leading

theorem reads_comparison (f : FieldText float) (operator : String) (known : operator ∈ operators) (literal : Literal) :
    Reads float (comparisonText f.text operator literal.text) (.cmp operator f.field (literal.value float)) := by
  have comparison := writes_cmp known f.read (literal_writes literal)
  refine reads_of_comparison ?_
  simpa [comparisonText] using comparison

theorem operator_read (operator : String) (known : operator ∈ operators) (literal : List Char) :
    ∃ lexeme, grammar.read (.terminal .OP) ((" " ++ operator).toList ++ ' ' :: literal) = some (lexeme,' ' :: literal) := by
  obtain ⟨trees,found,_,reads⟩ := writes_spaced firsts_closed rfl ' ' rfl (writes_operator readOne operator known)
  obtain ⟨lexeme,_,rfl⟩ := matches_terminal.mp found
  have spelled := reads (' ' :: literal) (before_cons ' ' (by simp) _)
  simp only [Tree.words,Tree.word,List.append_nil,spell_token] at spelled
  exact ⟨lexeme,by rw [String.toList_append]; exact spelled⟩

theorem comparison_value {predicate literal : List Char} (f : FieldText float) (operator : String) (known : operator ∈ operators)
    (split : predicate = f.text.toList ++ ((" " ++ operator).toList ++ ' ' :: literal)) {tree : Tree Terminal Rule}
    (derived : grammar.Derives .start predicate tree) : grammar.Begins (ruleFirsts .value) (' ' :: literal) := by
  obtain ⟨found,rest,spelled,_⟩ := derived
  obtain ⟨trees,foundField,_,readField⟩ := f.read
  obtain ⟨lexeme,readOp⟩ := operator_read operator known literal
  have compared : grammar.Begins [.terminal .OP] ((" " ++ operator).toList ++ ' ' :: literal) :=
    ⟨.terminal .OP,by simp,lexeme,_,readOp⟩
  have spelledField := readField ((" " ++ operator).toList ++ ' ' :: literal) (by
    rw [String.toList_append]
    exact before_cons ' ' (by simp) _)
  rw [← split] at spelledField
  have words : Tree.words [tree] = tree.word := by simp only [Tree.words,List.append_nil]
  rw [← words] at spelled
  rcases leading_comparison found rfl with ⟨tail,opened⟩ | ⟨comparison,tail,foundComparison,joined⟩
  · rw [opened] at spelled
    have named : grammar.Begins (ruleFirsts .field) predicate := matched_begins firsts_closed rfl foundField spelledField
    exact absurd (exclude_of_apart _ (ruleFirsts .field) (by decide) predicate (spell_begins spelled)) (begins_not_stopped named)
  · rw [joined,spell_append] at spelled
    obtain ⟨middle,spelledComparison,_⟩ := Option.bind_eq_some_iff.mp spelled
    obtain ⟨index,alternative,children,present,body,rfl⟩ := matches_rule.mp foundComparison
    have tails : alternative.pattern = .seq (.rule .field) (comparisonTail index) ∧
        (comparisonTail index).nullable = false ∧
        grammar.Exclude ((comparisonTail index).firsts ruleFirsts) [.literal "(",.literal "."] := by
      rcases index with _ | _ | _ | index <;> cases present <;> exact ⟨rfl,rfl,exclude_of_apart _ _ (by decide)⟩
    rw [tails.1] at body
    obtain ⟨field,foundField',after,foundAfter,rfl⟩ := matches_seq.mp body
    simp only [Tree.words,Tree.word,List.append_nil,words_append,spell_append] at spelledComparison
    obtain ⟨rest',spelledField',spelledAfter⟩ := Option.bind_eq_some_iff.mp spelledComparison
    have begun : grammar.Begins ((comparisonTail index).firsts ruleFirsts) rest' :=
      matched_begins firsts_closed tails.2.1 foundAfter spelledAfter
    -- the field is read to the same place
    obtain ⟨rfl,rfl⟩ := agree_field (agree_expr predicate.length) field trees predicate rest'
      ((" " ++ operator).toList ++ ' ' :: literal) (Nat.lt_succ_self _) foundField' foundField spelledField' spelledField
      (tails.2.2 rest' begun) (exclude_of_apart [.terminal .OP] _ (by decide) _ compared)
    have other (apart : grammar.Exclude ((comparisonTail index).firsts ruleFirsts) [.terminal .OP]) :
        grammar.Begins (ruleFirsts .value) (' ' :: literal) :=
      absurd (apart _ begun) (begins_not_stopped compared)
    rcases index with _ | _ | _ | index
    · obtain ⟨op,foundOp,value,foundValue,rfl⟩ := matches_seq.mp foundAfter
      obtain ⟨lexeme',_,rfl⟩ := matches_terminal.mp foundOp
      simp only [words_append,spell_append,Tree.words,Tree.word,List.append_nil] at spelledAfter
      obtain ⟨rest',spelledOp,spelledValue⟩ := Option.bind_eq_some_iff.mp spelledAfter
      rw [spell_token,readOp] at spelledOp
      cases spelledOp
      exact matched_begins firsts_closed rfl foundValue spelledValue
    · exact other (exclude_of_apart _ _ (by decide))
    · exact other (exclude_of_apart _ _ (by decide))
    · cases present

theorem reads_membership (f : FieldText float) (negate : Bool) (literals : List Literal) :
    Reads float (membershipText f.text negate (literals.map Literal.text))
      (.inExpr f.field (listed (literals.map (Literal.value float))) negate) := by
  have list := writes_list (Literal.value float) Literal.text literals fun literal _ => literal_writes literal
  refine reads_of_comparison ?_
  simpa [membershipText] using writes_in negate f.read list

theorem reads_existence (f : FieldText float) (negate : Bool) :
    Reads float (existenceText f.text negate) (.isDefined f.field negate) := by
  refine reads_of_comparison ?_
  simpa [existenceText] using writes_defined negate f.read

variable [Zero N] [One N] [BEq N] [LT N] [LE N] [DecidableLT N] [DecidableLE N]

-- What `_evaluate` returns or raises for the expression of a predicate's text; a text
-- that is not parsed evaluates to nothing.
def Evaluates (float : String → N) (predicate : String) (context : Object N) (result : Except Exn (Object N)) : Prop :=
  ∃ tree, grammar.Derives .start predicate.toList tree ∧ (transform float tree).bind (evaluate context) = result

theorem reads_evaluates {predicate : String} {expression : Expression N} {result : Except Exn (Object N)}
    (reads : Reads float predicate expression) (context : Object N) :
    Evaluates float predicate context result ↔ evaluate context expression = result := by
  obtain ⟨tree,derived,transformed⟩ := reads
  constructor
  · rintro ⟨other,derived',evaluated⟩
    cases predicate_unambiguous _ tree other derived derived'
    rw [transformed] at evaluated
    exact evaluated
  · intro evaluated
    exact ⟨tree,derived,by rw [transformed]; exact evaluated⟩

theorem evaluates_iff_checked (str : Object N → String) (strTuple : String → List (Expression N) → String)
    (predicate : String) (context : Object N) (result : Bool) :
    Evaluates float predicate context (.ok (.bool result)) ↔ ∃ tree, grammar.Derives .start predicate.toList tree ∧
      check str strTuple float tree context false = .ok result := by
  refine exists_congr fun tree => and_congr_right fun _ => ?_
  simp only [check,bind,Except.bind]
  cases transform float tree with
  | error raised => simp
  | ok expression =>
    cases evaluated : evaluate context expression with
    | error raised => simp [evaluated]
    | ok value =>
      obtain ⟨b,rfl⟩ := evaluate_bool context expression value evaluated
      simp [evaluated,pure,Except.pure]

end

def modeField : FieldText readOne :=
  dottedField readOne "attributes" [.name "mode"] (by decide) fun part member => by
    cases List.mem_singleton.mp member
    show CNAME "mode".toList = true
    decide

def modeContext (mode : Object Int) : Object Int := .dict [("attributes",.dict [("mode",mode)])]

theorem mode_resolves (mode : Object Int) : evaluateField (modeContext mode) modeField.field = .ok mode := by
  have path : modeField.field = .path "attributes.mode" := congrArg Field.path (by decide +kernel)
  have steps : ("attributes.mode".toList.splitOn '.').map String.ofList = ["attributes","mode"] := by decide +kernel
  rw [path,evaluateField,getPath,steps]
  rfl

end CartPredicateParser
