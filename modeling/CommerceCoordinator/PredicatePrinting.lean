import CommerceCoordinator.LarkPrinting
import CommerceCoordinator.PredicateUnambiguity

-- Printing an expression, and parsing what is printed.
namespace CartPredicateParser
open Lark

def parenthesized (needed : Bool) (text : String) : String := if needed then "(" ++ text ++ ")" else text

-- `decimal` writes a number in decimal notation.
def printValue (decimal : N → String) : Value N → String
  | .absent => ""
  | .number value => decimal value
  | .text value => "\"" ++ value ++ "\""

def Expression.isOr : Expression N → Bool
  | .or .. => true
  | _ => false

def Expression.isConnective : Expression N → Bool
  | .and .. | .or .. => true
  | _ => false

def negation (negate : Bool) : String := if negate then " not" else ""

-- Parentheses stand around an `or` that an `and` joins and around a right operand
-- that binds no tighter than its connective.
mutual
def print (decimal : N → String) : Expression N → String
  | .cmp operator field expected => printField decimal field ++ (" " ++ operator) ++ (" " ++ printValue decimal expected)
  | .inExpr field items negate =>
    printField decimal field ++ negation negate ++ " in" ++ (" (" ++ ", ".intercalate (items.map (printValue decimal)) ++ ")")
  | .isDefined field negate => printField decimal field ++ " is" ++ negation negate ++ " defined"
  | .and a b => parenthesized a.isOr (print decimal a) ++ " and" ++ (" " ++ parenthesized b.isConnective (print decimal b))
  | .or a b => print decimal a ++ " or" ++ (" " ++ parenthesized b.isOr (print decimal b))
def printField (decimal : N → String) : Field N → String
  | .path path => path
  | .func name args => name ++ "(" ++ ", ".intercalate (printAll decimal args) ++ ")"
def printAll (decimal : N → String) : List (Expression N) → List String
  | [] => []
  | first :: rest => print decimal first :: printAll decimal rest
end

def Value.Printable (float : String → N) (decimal : N → String) : Value N → Prop
  | .absent => False
  | .number value => SIGNED_NUMBER (decimal value).toList = true ∧ float (decimal value) = value
  | .text value => ∀ char ∈ value.toList, char ≠ '"' ∧ char ≠ '\\' ∧ char ≠ '\n'

mutual
def Expression.Printable (float : String → N) (decimal : N → String) : Expression N → Prop
  | .cmp operator field expected => operator ∈ operators ∧ field.Printable float decimal ∧ expected.Printable float decimal
  | .inExpr field items _ =>
    field.Printable float decimal ∧ items ≠ [] ∧ ∀ item ∈ items, item.Printable float decimal
  | .isDefined field _ => field.Printable float decimal
  | .and a b | .or a b => a.Printable float decimal ∧ b.Printable float decimal
def Field.Printable (float : String → N) (decimal : N → String) : Field N → Prop
  | .path path => ∃ first rest, path = ".".intercalate (first :: rest) ∧ ∀ part ∈ first :: rest, CNAME part.toList = true
  | .func name args => CNAME name.toList = true ∧ allPrintable float decimal args
def allPrintable (float : String → N) (decimal : N → String) : List (Expression N) → Prop
  | [] => True
  | first :: rest => first.Printable float decimal ∧ allPrintable float decimal rest
end

theorem intercalate_toList (separator first : String) (rest : List String) :
    (separator.intercalate (first :: rest)).toList =
      first.toList ++ rest.flatMap fun part => separator.toList ++ part.toList := by
  rw [String.toList_intercalate]
  induction rest generalizing first with
  | nil => simp [List.intercalate]
  | cons next rest ih =>
    have others := ih next
    simp only [List.intercalate,List.map_cons,List.flatMap_cons,List.intersperse_cons_cons,List.flatten_cons] at others ⊢
    rw [others,List.append_assoc]

def Before (chars : List Char) (rest : List Char) : Prop := ∀ char more, rest = char :: more → char ∈ chars

-- What follows a field or a value, and what follows a name.
def Ends : List Char → Prop := Before [' ',')',',']
def EndsName : List Char → Prop := Before [' ',')',',','.','(']

theorem longest_of_class (accepted : List Char → Bool) (inClass : Char → Bool)
    (within : ∀ text, accepted text = true → ∀ char ∈ text, inClass char = true) (lexeme rest : List Char)
    (outside : ∀ char more, rest = char :: more → inClass char = false) (further remaining : List Char)
    (split : rest = further ++ remaining) (longer : accepted (lexeme ++ further) = true) : further = [] := by
  cases further with
  | nil => rfl
  | cons char more =>
    have never := outside char (more ++ remaining) split
    rw [within _ longer char (by simp)] at never
    cases never

theorem before_outside {chars rest : List Char} {inClass : Char → Bool} (before : Before chars rest)
    (outside : (chars.all fun char => !inClass char) = true) : ∀ char more, rest = char :: more → inClass char = false := by
  intro char more begins
  have free := List.all_eq_true.mp outside char (before char more begins)
  simpa using free

theorem not_space (inClass : Char → Bool) (outside : ([' ','\t','\x0c','\r','\n'].all fun char => !inClass char) = true)
    (char : Char) (member : inClass char = true) : isSpace char = false := by
  refine Bool.eq_false_iff.mpr fun space => ?_
  have free := List.all_eq_true.mp outside char (by simpa [isSpace] using space)
  rw [member] at free
  cases free

theorem cname_char (text : List Char) (accepted : CNAME text = true) : ∀ char ∈ text, nameChar char = true := by
  cases text with
  | nil => cases accepted
  | cons first rest =>
    obtain ⟨start,others⟩ := Bool.and_eq_true_iff.mp accepted
    intro char member
    rcases List.mem_cons.mp member with rfl | later
    · simp [nameChar,start]
    · exact List.all_eq_true.mp others char later

def numberChar (char : Char) : Bool := char.isDigit || char == '.' || isExponentMark char || isSign char

theorem unsigned_char (text : List Char) (each : ∀ char ∈ unsigned text, numberChar char = true) :
    ∀ char ∈ text, numberChar char = true := by
  cases text with
  | nil => exact each
  | cons first rest =>
    by_cases sign : isSign first = true
    · intro char member
      simp only [unsigned,sign,if_true] at each
      rcases List.mem_cons.mp member with rfl | later
      · simp [numberChar,sign]
      · exact each char later
    · simpa [unsigned,sign] using each

theorem number_char (text : List Char) (accepted : SIGNED_NUMBER text = true) : ∀ char ∈ text, numberChar char = true := by
  refine unsigned_char text ?_
  have number : NUMBER (unsigned text) = true := accepted
  intro char member
  rw [← List.takeWhile_append_dropWhile (p := fun char => !isExponentMark char) (l := unsigned text)] at member
  rcases List.mem_append.mp member with mantissa | exponent
  · rcases mantissa_char _ (number_mantissa _ number) char mantissa with digit | rfl
    · simp [numberChar,digit]
    · rfl
  · simp only [NUMBER] at number
    cases dropped : (unsigned text).dropWhile fun char => !isExponentMark char with
    | nil => rw [dropped] at exponent; cases exponent
    | cons mark digits =>
      rw [dropped] at number exponent
      have marked := List.head_dropWhile_not (fun char => !isExponentMark char) (by rw [dropped]; simp)
      simp only [dropped,List.head_cons] at marked
      rcases List.mem_cons.mp exponent with rfl | later
      · have mark : isExponentMark char = true := by simpa using marked
        simp [numberChar,mark]
      · refine unsigned_char digits (fun char member => ?_) char later
        simp [numberChar,int_char _ (Bool.and_eq_true_iff.mp number).2 char member]

theorem stringTail_plain (text : List Char) (plain : ∀ char ∈ text, char ≠ '"' ∧ char ≠ '\\' ∧ char ≠ '\n') :
    stringTail (text ++ ['"']) = true := by
  induction text with
  | nil => rfl
  | cons char rest ih =>
    obtain ⟨quote,escape,line⟩ := plain char (by simp)
    rw [List.cons_append,stringTail.eq_4 _ _ (by simpa using quote) (by simp [escape])]
    simp [line,ih fun char member => plain char (by simp [member])]

theorem stringTail_ends (text further : List Char) (accepted : stringTail text = true)
    (longer : stringTail (text ++ further) = true) : further = [] := by
  fun_induction stringTail text with
  | case1 => cases accepted
  | case2 rest =>
    cases List.isEmpty_iff.mp accepted
    exact List.isEmpty_iff.mp longer
  | case3 escaped rest ih =>
    exact ih (Bool.and_eq_true_iff.mp accepted).2 (Bool.and_eq_true_iff.mp longer).2
  | case4 char rest quote escape ih =>
    refine ih (Bool.and_eq_true_iff.mp accepted).2 ?_
    cases rest with
    | nil => cases (Bool.and_eq_true_iff.mp accepted).2
    | cons next more =>
      rw [List.cons_append,stringTail.eq_4 _ _ quote (by simpa using escape)] at longer
      exact (Bool.and_eq_true_iff.mp longer).2

section
variable (float : String → N)

theorem writes_cname (name : String) (accepted : CNAME name.toList = true) :
    Writes grammar (transformer float) (.terminal .CNAME) [.token ⟨.terminal .CNAME,name.toList⟩] name.toList EndsName := by
  cases chars : name.toList with
  | nil => rw [chars] at accepted; cases accepted
  | cons char rest =>
    rw [chars] at accepted
    have visible := not_space nameChar (by decide) char (cname_char _ accepted char (by simp))
    refine writes_terminal Terminal.CNAME char rest accepted visible fun remaining ends => ?_
    exact longest_of_class CNAME nameChar cname_char (char :: rest) remaining (before_outside ends (by decide))

theorem writes_string (text : List Char) (accepted : ESCAPED_STRING text = true) :
    Writes grammar (transformer float) (.rule .value) [.value (.text (String.ofList text.tail.dropLast))] text Ends := by
  cases text with
  | nil => cases accepted
  | cons char rest =>
    by_cases quote : char = '"'
    · subst quote
      have string : Writes grammar (transformer float) (.terminal .ESCAPED_STRING)
          [.token ⟨.terminal .ESCAPED_STRING,'"' :: rest⟩] ('"' :: rest) Ends :=
        writes_terminal Terminal.ESCAPED_STRING '"' rest accepted rfl fun _ _ further _ _ longer =>
          stringTail_ends rest further accepted longer
      exact writes_rule 0 rfl (writes_altLeft string) rfl
    · simp [ESCAPED_STRING,quote] at accepted

theorem writes_number (text : List Char) (accepted : SIGNED_NUMBER text = true) :
    Writes grammar (transformer float) (.rule .value) [.value (.number (float (String.ofList text)))] text Ends := by
  have number : Writes grammar (transformer float) (.terminal .SIGNED_NUMBER)
      [.token ⟨.terminal .SIGNED_NUMBER,text⟩] text Ends := by
    obtain ⟨char,rest,chars,lead⟩ := number_lead _ accepted
    rw [chars] at accepted ⊢
    have visible := not_space numberChar (by decide) char (number_char _ accepted char (by simp))
    refine writes_terminal Terminal.SIGNED_NUMBER char rest accepted visible fun remaining ends => ?_
    exact longest_of_class SIGNED_NUMBER numberChar number_char (char :: rest) remaining (before_outside ends (by decide))
  exact writes_rule 0 rfl (writes_altRight (writes_altLeft number)) rfl

theorem writes_value (decimal : N → String) (value : Value N) (printable : value.Printable float decimal) :
    Writes grammar (transformer float) (.rule .value) [.value value] (printValue decimal value).toList Ends := by
  cases value with
  | absent => exact printable.elim
  | number value =>
    obtain ⟨accepted,reads⟩ := printable
    have number := writes_number float (decimal value).toList accepted
    rw [String.ofList_toList,reads] at number
    exact number
  | text value =>
    have string := writes_string float ('"' :: (value.toList ++ ['"'])) (stringTail_plain value.toList printable)
    simpa [printValue] using string

theorem before_cons {chars : List Char} (char : Char) (member : char ∈ chars) (rest : List Char) : Before chars (char :: rest) := by
  intro head more same
  cases same
  exact member

theorem ends_name (rest : List Char) (ends : Ends rest) : EndsName rest := by
  intro char more begins
  have among := ends char more begins
  simp only [List.mem_cons,List.not_mem_nil,or_false] at among ⊢
  rcases among with rfl | rfl | rfl <;> simp

-- What stands after a dot: a name, or any other text between backticks.
inductive Part where
  | name (written : String)
  | backticked (written : String)

def Part.text : Part → String
  | .name written | .backticked written => written

def Part.printed : Part → String
  | .name written => written
  | .backticked written => "`" ++ written ++ "`"

-- White space at its beginning would be skipped.
def Part.Wellformed : Part → Prop
  | .name written => CNAME written.toList = true
  | .backticked written => written ≠ "" ∧ ∀ char ∈ written.toList, char ≠ '\x60' ∧ isSpace char = false

def Part.token : Part → Token Terminal
  | .name written => ⟨.terminal .CNAME,written.toList⟩
  | .backticked written => ⟨.terminal .backtickText,written.toList⟩

theorem str_parts (parts : List Part) :
    (parts.map fun part => (.token part.token : Built N)).mapM PredicateTransformer.str = .ok (parts.map Part.text) := by
  induction parts with
  | nil => rfl
  | cons part rest ih =>
    have first : PredicateTransformer.str (.token part.token : Built N) = .ok part.text := by
      cases part <;> simp [PredicateTransformer.str,Part.token,Part.text]
    rw [List.map_cons,List.mapM_cons,first,ih]
    rfl

theorem writes_part (part : Part) (wellformed : part.Wellformed) : Writes grammar (transformer float)
    (.alt (.terminal .CNAME) (.rule .backtickName)) [.token part.token] part.printed.toList EndsName := by
  cases part with
  | name written => exact writes_altLeft (writes_cname float written wellformed)
  | backticked written =>
    obtain ⟨nonempty,inner⟩ := wellformed
    have tick (follow : List Char → Prop) : Writes grammar (transformer float) (.literal "`") [] ['\x60'] follow :=
      writes_mono (writes_literal "`" '\x60' [] rfl rfl) fun _ _ => trivial
    have text : Writes grammar (transformer float) (.terminal .backtickText)
        [.token ⟨.terminal .backtickText,written.toList⟩] written.toList (Before ['\x60']) := by
      cases chars : written.toList with
      | nil => exact absurd (String.toList_eq_nil_iff.mp chars) nonempty
      | cons char rest =>
        rw [chars] at inner
        have accepted : accepts .backtickText (char :: rest) = true := by
          simp only [accepts,List.isEmpty_cons,Bool.not_false,Bool.true_and,List.all_eq_true]
          exact fun other member => bne_iff_ne.mpr (inner other member).1
        refine writes_terminal Terminal.backtickText char rest accepted (inner char (by simp)).2 fun remaining ends => ?_
        refine longest_of_class (accepts .backtickText) (· != '\x60') ?_ (char :: rest) remaining
          (before_outside ends (by decide))
        intro text accepted char member
        exact List.all_eq_true.mp (Bool.and_eq_true_iff.mp accepted).2 char member
    have enclosed := writes_seq (tick fun _ => True)
      (writes_seq text (tick EndsName) fun rest _ => before_cons '\x60' (by simp) _) fun _ _ => trivial
    have printed : (Part.backticked written).printed.toList = ['\x60'] ++ (written.toList ++ ['\x60']) := by
      simp [Part.printed]
    rw [printed]
    exact writes_altRight (writes_rule 0 rfl enclosed rfl)

theorem writes_dotted (first : String) (rest : List Part) (named : CNAME first.toList = true)
    (wellformed : ∀ part ∈ rest, part.Wellformed) : Writes grammar (transformer float) (.rule .dottedName)
      [.field (.path (".".intercalate (first :: rest.map Part.text)))]
      (".".intercalate (first :: rest.map Part.printed)).toList EndsName := by
  have dotted (part : Part) (member : part ∈ rest) : Writes grammar (transformer float)
      (.seq (.literal ".") (.alt (.terminal .CNAME) (.rule .backtickName))) [.token part.token]
      (".".toList ++ part.printed.toList) EndsName :=
    writes_seq (writes_literal "." '.' [] rfl rfl) (writes_part float part (wellformed part member)) fun _ _ => trivial
  have parts := writes_star rest _ _ dotted fun part _ remaining => before_cons '.' (by simp) _
  rw [intercalate_toList,List.flatMap_map]
  refine writes_rule 0 rfl (writes_seq (writes_cname float first named) parts fun remaining ends => ?_) ?_
  · cases rest with
    | nil => exact ends
    | cons next more => exact before_cons '.' (by simp) _
  · show PredicateTransformer.dottedName (.token ⟨.terminal .CNAME,first.toList⟩ :: rest.map fun part => .token part.token) = _
    rw [PredicateTransformer.dottedName,List.mapM_cons,str_parts]
    show Except.ok (Built.field (.path (".".intercalate (String.ofList first.toList :: rest.map Part.text)))) = _
    rw [String.ofList_toList]

theorem writes_path (first : String) (rest : List String) (names : ∀ part ∈ first :: rest, CNAME part.toList = true) :
    Writes grammar (transformer float) (.rule .dottedName) [.field (.path (".".intercalate (first :: rest)))]
      (".".intercalate (first :: rest)).toList EndsName := by
  have dotted := writes_dotted float first (rest.map Part.name) (names first (by simp)) (by
    intro part member
    obtain ⟨name,listed,rfl⟩ := List.mem_map.mp member
    exact names name (by simp [listed]))
  have texts : (rest.map Part.name).map Part.text = rest ∧ (rest.map Part.name).map Part.printed = rest := by
    simp [Function.comp_def,Part.text,Part.printed]
  rwa [texts.1,texts.2] at dotted

theorem writes_operator (operator : String) (known : operator ∈ operators) :
    Writes grammar (transformer float) (.terminal .OP) [.token ⟨.terminal .OP,operator.toList⟩] operator.toList Ends := by
  have follows (char : Char) (chars : List Char) (accepted : accepts .OP (char :: chars) = true)
      (visible : isSpace char = false) : Writes grammar (transformer float) (.terminal .OP)
        [.token ⟨.terminal .OP,char :: chars⟩] (char :: chars) Ends := by
    refine writes_terminal Terminal.OP char chars accepted visible fun remaining ends => ?_
    refine longest_of_class (accepts .OP) (['=','!','<','>'].contains ·) ?_ (char :: chars) remaining
      (before_outside ends (by decide))
    intro text accepted
    obtain ⟨operator,member,same⟩ := List.any_eq_true.mp accepted
    cases beq_iff_eq.mp same
    have each : (operators.all fun operator => operator.toList.all (['=','!','<','>'].contains ·)) = true := by decide
    exact List.all_eq_true.mp (List.all_eq_true.mp each operator member)
  simp only [operators,List.mem_cons,List.not_mem_nil,or_false] at known
  rcases known with rfl | rfl | rfl | rfl | rfl | rfl <;> exact follows _ _ (by decide) (by decide)

theorem writes_negation (negate : Bool) : Writes grammar (transformer float) (.opt (.terminal .NOT))
    (if negate then [.token ⟨.terminal .NOT,"not".toList⟩] else []) (negation negate).toList fun _ => True := by
  cases negate with
  | false => exact writes_optNone
  | true =>
    refine writes_optSome (writes_spaced firsts_closed rfl ' ' rfl ?_)
    refine writes_terminal Terminal.NOT 'n' ['o','t'] (by decide) rfl fun _ _ further _ _ longer => ?_
    simpa [grammar,accepts] using longer

-- A text is read where an `expr` is expected, and where a `term` or a `factor` is if it
-- binds tightly enough.
def ReadAs (text : String) (expression : Expression N) (isOr isConnective : Bool) : Prop :=
  Writes grammar (transformer float) (.rule .expr) [.expression expression] text.toList Ends ∧
  (isOr = false → Writes grammar (transformer float) (.rule .term) [.expression expression] text.toList Ends) ∧
  (isConnective = false → Writes grammar (transformer float) (.rule .factor) [.expression expression] text.toList Ends)

def Written (decimal : N → String) (expression : Expression N) : Prop :=
  Writes grammar (transformer float) (.rule .expr) [.expression expression] (print decimal expression).toList Ends ∧
  (expression.isOr = false →
    Writes grammar (transformer float) (.rule .term) [.expression expression] (print decimal expression).toList Ends) ∧
  (expression.isConnective = false →
    Writes grammar (transformer float) (.rule .factor) [.expression expression] (print decimal expression).toList Ends)

variable {float}

section Connectives
variable {text left right : String} {expression a b : Expression N} {isOr isConnective orA connectiveA orB connectiveB : Bool}

theorem readAs_factor
    (factor : Writes grammar (transformer float) (.rule .factor) [.expression expression] text.toList Ends) :
    ReadAs float text expression isOr isConnective := by
  have term : Writes grammar (transformer float) (.rule .term) [.expression expression] text.toList Ends :=
    writes_rule 1 rfl factor rfl
  exact ⟨writes_rule 1 rfl term rfl,fun _ => term,fun _ => factor⟩

theorem readAs_comparison
    (comparison : Writes grammar (transformer float) (.rule .comparison) [.expression expression] text.toList Ends) :
    ReadAs float text expression isOr isConnective :=
  readAs_factor (writes_rule 1 rfl comparison rfl)

theorem writes_parenthesized
    (inner : Writes grammar (transformer float) (.rule .expr) [.expression expression] text.toList Ends) :
    Writes grammar (transformer float) (.rule .factor) [.expression expression] (parenthesized true text).toList Ends := by
  have closing : Writes grammar (transformer float) (.literal ")") [] ")".toList fun _ => True :=
    writes_literal ")" ')' [] rfl rfl
  have enclosed := writes_seq (writes_literal "(" '(' [] rfl rfl)
    (writes_seq inner closing fun rest _ => before_cons ')' (by simp) rest) fun _ _ => trivial
  have chars : (parenthesized true text).toList = "(".toList ++ (text.toList ++ ")".toList) := by
    simp [parenthesized]
  rw [chars]
  exact writes_mono (writes_rule 0 rfl enclosed rfl) fun _ _ => trivial

theorem writes_factor (read : ReadAs float text expression isOr isConnective) :
    Writes grammar (transformer float) (.rule .factor) [.expression expression] (parenthesized isConnective text).toList Ends := by
  cases isConnective with
  | true => exact writes_parenthesized read.1
  | false => exact read.2.2 rfl

theorem writes_term (read : ReadAs float text expression isOr isConnective) :
    Writes grammar (transformer float) (.rule .term) [.expression expression] (parenthesized isOr text).toList Ends := by
  cases isOr with
  | true => exact writes_rule 1 rfl (writes_parenthesized read.1) rfl
  | false => exact read.2.1 rfl

theorem readAs_and (first : ReadAs float left a orA connectiveA) (second : ReadAs float right b orB connectiveB) :
    ReadAs float (parenthesized orA left ++ " and" ++ (" " ++ parenthesized connectiveB right)) (.and a b) false true := by
  have word : Writes grammar (transformer float) (.literal "and") [] " and".toList fun _ => True :=
    writes_spaced firsts_closed rfl ' ' rfl (writes_literal "and" 'a' ['n','d'] rfl rfl)
  have tail := writes_seq word (writes_spaced firsts_closed rfl ' ' rfl (writes_factor second)) fun _ _ => trivial
  have joined := writes_seq (writes_term first) tail fun rest _ => before_cons ' ' (by simp) _
  have chars : (parenthesized orA left ++ " and" ++ (" " ++ parenthesized connectiveB right)).toList =
      (parenthesized orA left).toList ++ (" and".toList ++ ' ' :: (parenthesized connectiveB right).toList) := by
    simp
  rw [← chars] at joined
  have term : Writes grammar (transformer float) (.rule .term) [.expression (.and a b)] _ Ends := writes_rule 0 rfl joined rfl
  exact ⟨writes_rule 1 rfl term rfl,fun _ => term,fun never => by cases never⟩

theorem readAs_or (first : ReadAs float left a orA connectiveA) (second : ReadAs float right b orB connectiveB) :
    ReadAs float (left ++ " or" ++ (" " ++ parenthesized orB right)) (.or a b) true true := by
  have word : Writes grammar (transformer float) (.literal "or") [] " or".toList fun _ => True :=
    writes_spaced firsts_closed rfl ' ' rfl (writes_literal "or" 'o' ['r'] rfl rfl)
  have tail := writes_seq word (writes_spaced firsts_closed rfl ' ' rfl (writes_term second)) fun _ _ => trivial
  have joined := writes_seq first.1 tail fun rest _ => before_cons ' ' (by simp) _
  have chars : (left ++ " or" ++ (" " ++ parenthesized orB right)).toList =
      left.toList ++ (" or".toList ++ ' ' :: (parenthesized orB right).toList) := by
    simp
  rw [← chars] at joined
  exact ⟨writes_rule 0 rfl joined rfl,(fun never => (by cases never)),fun never => (by cases never)⟩

end Connectives

theorem writes_listed {α : Type} {item : Rule} (value : α → Built N) (write : α → String) (first : α) (rest : List α)
    (each : ∀ x ∈ first :: rest, Writes grammar (transformer float) (.rule item) [value x] (write x).toList Ends) :
    Writes grammar (transformer float) (.seq (.rule item) (.star (.seq (.literal ",") (.rule item))))
      ((first :: rest).map value) (", ".intercalate ((first :: rest).map write)).toList Ends := by
  have separated (x : α) (member : x ∈ rest) : Writes grammar (transformer float)
      (.seq (.literal ",") (.rule item)) [value x] (", ".toList ++ (write x).toList) Ends := by
    have spaced := writes_spaced firsts_closed rfl ' ' rfl (each x (by simp [member]))
    exact writes_seq (writes_literal "," ',' [] rfl rfl) spaced fun _ _ => trivial
  have others := writes_star rest _ _ separated fun x _ remaining => before_cons ',' (by simp) _
  have text : (", ".intercalate ((first :: rest).map write)).toList =
      (write first).toList ++ rest.flatMap fun x => ", ".toList ++ (write x).toList := by
    rw [List.map_cons,intercalate_toList,List.flatMap_map]
  rw [text]
  refine writes_seq (each first (by simp)) others fun remaining ends => ?_
  cases rest with
  | nil => exact ends
  | cons next more => exact before_cons ',' (by simp) _

-- The list `()` holds one `None`.
def listed : List (Value N) → List (Value N)
  | [] => [.absent]
  | values => values

theorem writes_list {α : Type} (value : α → Value N) (write : α → String) (items : List α)
    (each : ∀ item ∈ items, Writes grammar (transformer float) (.rule .value) [.value (value item)] (write item).toList Ends) :
    Writes grammar (transformer float) (.rule .list) [.values (listed (items.map value))]
      ("(" ++ ", ".intercalate (items.map write) ++ ")").toList Ends := by
  have closing : Writes grammar (transformer float) (.literal ")") [] ")".toList fun _ => True :=
    writes_literal ")" ')' [] rfl rfl
  have opening : Writes grammar (transformer float) (.literal "(") [] "(".toList fun _ => True :=
    writes_literal "(" '(' [] rfl rfl
  cases items with
  | nil =>
    have absent : Writes grammar (transformer float)
        (.maybe (.seq (.rule .value) (.star (.seq (.literal ",") (.rule .value))))) [.absent] [] fun _ => True :=
      writes_maybeNone
    have empty := writes_seq opening (writes_seq absent closing fun _ _ => trivial) fun _ _ => trivial
    rw [String.append_assoc,String.toList_append,String.toList_append]
    refine writes_mono (writes_rule 0 rfl empty ?_) fun _ _ => trivial
    rfl
  | cons first rest =>
    have values := writes_listed (fun item => Built.value (value item)) write first rest each
    have enclosed := writes_seq opening
      (writes_seq (writes_maybeSome values) closing fun rest _ => before_cons ')' (by simp) rest) fun _ _ => trivial
    have items (values : List (Value N)) : (values.map Built.value).mapM PredicateTransformer.item = .ok values := by
      induction values with
      | nil => rfl
      | cons value values ih => rw [List.map_cons,List.mapM_cons,ih]; rfl
    rw [String.append_assoc,String.toList_append,String.toList_append]
    refine writes_mono (writes_rule 0 rfl enclosed ?_) fun _ _ => trivial
    show PredicateTransformer.list ((first :: rest).map (fun item => Built.value (value item)) ++ []) = _
    rw [List.append_nil,PredicateTransformer.list,← Function.comp_def Built.value value,← List.map_map,items]
    rfl

theorem writes_args {decimal : N → String} (first : Expression N) (rest : List (Expression N))
    (each : ∀ e ∈ first :: rest, Writes grammar (transformer float) (.rule .expr) [.expression e] (print decimal e).toList Ends) :
    Writes grammar (transformer float) (.rule .args) [.args (first :: rest)]
      (", ".intercalate ((first :: rest).map (print decimal))).toList Ends := by
  have listed := writes_listed .expression (print decimal) first rest each
  have items (args : List (Expression N)) : (args.map Built.expression).mapM PredicateTransformer.expression = .ok args := by
    induction args with
    | nil => rfl
    | cons arg args ih => rw [List.map_cons,List.mapM_cons,ih]; rfl
  refine writes_rule 0 rfl listed ?_
  show PredicateTransformer.args ((first :: rest).map Built.expression) = _
  rw [PredicateTransformer.args,items]
  rfl

theorem printAll_map (decimal : N → String) (args : List (Expression N)) : printAll decimal args = args.map (print decimal) := by
  induction args with
  | nil => rfl
  | cons first rest ih => rw [printAll,ih,List.map_cons]

theorem writes_call {decimal : N → String} (name : String) (args : List (Expression N)) (named : CNAME name.toList = true)
    (each : ∀ e ∈ args, Writes grammar (transformer float) (.rule .expr) [.expression e] (print decimal e).toList Ends) :
    Writes grammar (transformer float) (.rule .functionCall) [.field (.func name args)]
      (printField decimal (.func name args)).toList fun _ => True := by
  have closing : Writes grammar (transformer float) (.literal ")") [] ")".toList fun _ => True :=
    writes_literal ")" ')' [] rfl rfl
  have called {values : List (Built N)} {text : List Char}
      (inner : Writes grammar (transformer float) (.opt (.rule .args)) values text Ends) :=
    writes_seq (writes_cname float name named) (writes_seq (writes_literal "(" '(' [] rfl rfl)
      (writes_seq inner closing fun rest _ => before_cons ')' (by simp) rest) fun _ _ => trivial)
      fun rest _ => before_cons '(' (by simp) _
  have combined (rest : List (Built N)) (args : List (Expression N))
      (call : PredicateTransformer.functionCall (.token ⟨.terminal .CNAME,name.toList⟩ :: rest) =
        .ok (.field (.func (String.ofList name.toList) args))) :
      grammar.combine (transformer float) .functionCall 0 (.token ⟨.terminal .CNAME,name.toList⟩ :: rest) =
        .ok (.field (.func name args)) := by
    rw [String.ofList_toList] at call
    exact call
  cases args with
  | nil =>
    have text : (printField decimal (.func name [])).toList = name.toList ++ ("(".toList ++ ([] ++ ")".toList)) := by
      simp [printField,printAll]
    rw [text]
    exact writes_rule 0 rfl (called writes_optNone) (combined _ _ rfl)
  | cons first rest =>
    have text : (printField decimal (.func name (first :: rest))).toList = name.toList ++
        ("(".toList ++ ((", ".intercalate ((first :: rest).map (print decimal))).toList ++ ")".toList)) := by
      simp only [printField,printAll_map,String.toList_append,List.append_assoc]
    rw [text]
    exact writes_rule 0 rfl (called (writes_optSome (writes_args first rest each))) (combined _ _ rfl)

section Comparisons
variable {field : Field N} {text : List Char}

theorem writes_cmp {operator : String} {expected : Value N} {literal : List Char} (known : operator ∈ operators)
    (left : Writes grammar (transformer float) (.rule .field) [.field field] text Ends)
    (right : Writes grammar (transformer float) (.rule .value) [.value expected] literal Ends) :
    Writes grammar (transformer float) (.rule .comparison) [.expression (.cmp operator field expected)]
      (text ++ ((" " ++ operator).toList ++ ' ' :: literal)) Ends := by
  have op : Writes grammar (transformer float) (.terminal .OP) [.token ⟨.terminal .OP,operator.toList⟩]
      (" " ++ operator).toList Ends := by
    rw [String.toList_append]
    exact writes_spaced firsts_closed rfl ' ' rfl (writes_operator float operator known)
  have joined := writes_seq left (writes_seq op (writes_spaced firsts_closed rfl ' ' rfl right)
    fun rest _ => before_cons ' ' (by simp) _) fun rest _ => by
      rw [String.toList_append]
      exact before_cons ' ' (by simp) _
  refine writes_rule 0 rfl joined ?_
  show Except.ok (Built.expression (.cmp (String.ofList operator.toList) field expected)) = _
  rw [String.ofList_toList]

theorem writes_in {items : List (Value N)} {listed : List Char} (negate : Bool)
    (left : Writes grammar (transformer float) (.rule .field) [.field field] text Ends)
    (list : Writes grammar (transformer float) (.rule .list) [.values items] listed Ends) :
    Writes grammar (transformer float) (.rule .comparison) [.expression (.inExpr field items negate)]
      (text ++ ((negation negate).toList ++ (" in".toList ++ ' ' :: listed))) Ends := by
  have word : Writes grammar (transformer float) (.literal "in") [] " in".toList fun _ => True :=
    writes_spaced firsts_closed rfl ' ' rfl (writes_literal "in" 'i' ['n'] rfl rfl)
  have tail := writes_seq (writes_negation float negate)
    (writes_seq word (writes_spaced firsts_closed rfl ' ' rfl list) fun _ _ => trivial) fun _ _ => trivial
  have joined := writes_seq left tail fun rest _ => by
    cases negate <;> exact before_cons ' ' (by simp) _
  refine writes_rule 1 rfl joined ?_
  cases negate <;> rfl

theorem writes_defined (negate : Bool)
    (left : Writes grammar (transformer float) (.rule .field) [.field field] text Ends) :
    Writes grammar (transformer float) (.rule .comparison) [.expression (.isDefined field negate)]
      (text ++ (" is".toList ++ ((negation negate).toList ++ " defined".toList))) Ends := by
  have word : Writes grammar (transformer float) (.literal "is") [] " is".toList fun _ => True :=
    writes_spaced firsts_closed rfl ' ' rfl (writes_literal "is" 'i' ['s'] rfl rfl)
  have last : Writes grammar (transformer float) (.literal "defined") [] " defined".toList fun _ => True :=
    writes_spaced firsts_closed rfl ' ' rfl (writes_literal "defined" 'd' ['e','f','i','n','e','d'] rfl rfl)
  have tail := writes_seq word (writes_seq (writes_negation float negate) last fun _ _ => trivial) fun _ _ => trivial
  have joined := writes_seq left tail fun rest _ => before_cons ' ' (by simp) _
  refine writes_rule 2 rfl (writes_mono joined fun _ _ => trivial) ?_
  cases negate <;> rfl

end Comparisons

theorem written_cmp {decimal : N → String} {operator : String} {field : Field N} {expected : Value N}
    (known : operator ∈ operators) (printable : expected.Printable float decimal)
    (left : Writes grammar (transformer float) (.rule .field) [.field field] (printField decimal field).toList Ends) :
    Written float decimal (.cmp operator field expected) := by
  have comparison := writes_cmp known left (writes_value float decimal expected printable)
  have text : (print decimal (.cmp operator field expected)).toList = (printField decimal field).toList ++
      ((" " ++ operator).toList ++ ' ' :: (printValue decimal expected).toList) := by
    simp [print]
  rw [← text] at comparison
  exact readAs_comparison comparison

theorem written_in {decimal : N → String} {field : Field N} {items : List (Value N)} (negate : Bool) (nonempty : items ≠ [])
    (printable : ∀ item ∈ items, item.Printable float decimal)
    (left : Writes grammar (transformer float) (.rule .field) [.field field] (printField decimal field).toList Ends) :
    Written float decimal (.inExpr field items negate) := by
  have list := writes_list id (printValue decimal) items fun item member =>
    writes_value float decimal item (printable item member)
  rw [List.map_id,listed.eq_2 _ nonempty] at list
  have comparison := writes_in negate left list
  have text : (print decimal (.inExpr field items negate)).toList = (printField decimal field).toList ++
      ((negation negate).toList ++ (" in".toList ++
        ' ' :: ("(" ++ ", ".intercalate (items.map (printValue decimal)) ++ ")").toList)) := by
    simp [print]
  rw [← text] at comparison
  exact readAs_comparison comparison

theorem written_defined {decimal : N → String} {field : Field N} (negate : Bool)
    (left : Writes grammar (transformer float) (.rule .field) [.field field] (printField decimal field).toList Ends) :
    Written float decimal (.isDefined field negate) := by
  have comparison := writes_defined negate left
  have text : (print decimal (.isDefined field negate)).toList = (printField decimal field).toList ++
      (" is".toList ++ ((negation negate).toList ++ " defined".toList)) := by
    simp [print]
  rw [← text] at comparison
  exact readAs_comparison comparison

mutual
theorem written (decimal : N → String) : ∀ expression : Expression N, expression.Printable float decimal →
    Written float decimal expression
  | .cmp _ field _,printable => written_cmp printable.1 printable.2.2 (writes_field decimal field printable.2.1)
  | .inExpr field _ negate,printable =>
    written_in negate printable.2.1 printable.2.2 (writes_field decimal field printable.1)
  | .isDefined field negate,printable => written_defined negate (writes_field decimal field printable)
  | .and a b,printable => by
    rw [Written,print]
    exact readAs_and (written decimal a printable.1) (written decimal b printable.2)
  | .or a b,printable => by
    rw [Written,print]
    exact readAs_or (written decimal a printable.1) (written decimal b printable.2)
theorem writes_field (decimal : N → String) : ∀ field : Field N, field.Printable float decimal →
    Writes grammar (transformer float) (.rule .field) [.field field] (printField decimal field).toList Ends
  | .path _,printable => by
    obtain ⟨first,rest,rfl,names⟩ := printable
    exact writes_rule 0 rfl (writes_altRight (writes_mono (writes_path float first rest names) ends_name)) rfl
  | .func name args,printable => by
    have call := writes_call name args printable.1 (writes_each decimal args printable.2)
    exact writes_rule 0 rfl (writes_altLeft (writes_mono call fun _ _ => trivial)) rfl
theorem writes_each (decimal : N → String) : ∀ args : List (Expression N), allPrintable float decimal args → ∀ e ∈ args,
    Writes grammar (transformer float) (.rule .expr) [.expression e] (print decimal e).toList Ends
  | [],_,_,member => by cases member
  | first :: rest,printable,e,member => by
    rcases List.mem_cons.mp member with same | later
    · rw [same]
      exact (written decimal first printable.1).1
    · exact writes_each decimal rest printable.2 e later
end

theorem printed_derives (decimal : N → String) (expression : Expression N) (printable : expression.Printable float decimal) :
    ∃ tree, grammar.Derives .start (print decimal expression).toList tree ∧ transform float tree = .ok expression := by
  have whole : Writes grammar (transformer float) (.rule .start) [.expression expression]
      (print decimal expression).toList Ends := writes_rule 0 rfl (written decimal expression printable).1 rfl
  obtain ⟨tree,derived,transformed⟩ := derives_of_writes whole (by intro _ _ never; cases never)
  exact ⟨tree,derived,by rw [transform,transformed]; rfl⟩

-- Parsing undoes printing: the printed text has one derivation, which gives the tuples back.
theorem parse_printed (decimal : N → String) (expression : Expression N) (printable : expression.Printable float decimal) :
    ∃ tree, grammar.Derives .start (print decimal expression).toList tree ∧ transform float tree = .ok expression ∧
      ∀ other, grammar.Derives .start (print decimal expression).toList other → other = tree := by
  obtain ⟨tree,derived,transformed⟩ := printed_derives decimal expression printable
  exact ⟨tree,derived,transformed,fun other again => predicate_unambiguous _ other tree again derived⟩

def mixed : Expression Int :=
  .and (.or (.isDefined (.path "sku") false) (.inExpr (.path "attributes.mode") [.text "verified",.number 1] true))
    (.cmp ">" (.func "lineItemCount" [.isDefined (.path "a") false,.cmp "=" (.path "b") (.number 1)]) (.number 1))

theorem mixed_parsed : ∃ tree, grammar.Derives .start
      "(sku is defined or attributes.mode not in (\"verified\", 1)) and lineItemCount(a is defined, b = 1) > 1".toList tree ∧
    transform (fun text => if text = "1" then 1 else 0) tree = .ok mixed ∧ ∀ other, grammar.Derives .start
      "(sku is defined or attributes.mode not in (\"verified\", 1)) and lineItemCount(a is defined, b = 1) > 1".toList other →
        other = tree := by
  have name (name : String) (named : CNAME name.toList = true) : (Field.path name : Field Int).Printable
      (fun text => if text = "1" then 1 else 0) toString :=
    ⟨name,[],rfl,fun part member => by cases List.mem_singleton.mp member; exact named⟩
  have path : (Field.path "attributes.mode" : Field Int).Printable (fun text => if text = "1" then 1 else 0) toString :=
    ⟨"attributes",["mode"],by decide +kernel,by decide⟩
  have one : (Value.number 1 : Value Int).Printable (fun text => if text = "1" then 1 else 0) toString := by
    constructor <;> decide +kernel
  have verified : (Value.text "verified" : Value Int).Printable (fun text => if text = "1" then 1 else 0) toString := by
    have plain : ("verified".toList.all fun char => char != '"' && (char != '\\' && char != '\n')) = true := by decide
    intro char member
    simpa using List.all_eq_true.mp plain char member
  have text : print toString mixed =
      "(sku is defined or attributes.mode not in (\"verified\", 1)) and lineItemCount(a is defined, b = 1) > 1" := by
    decide +kernel
  rw [← text]
  exact parse_printed toString mixed ⟨⟨name "sku" (by decide),path,by simp,by simp [one,verified]⟩,
    by simp [operators],⟨by decide,name "a" (by decide),⟨by simp [operators],name "b" (by decide),one⟩,trivial⟩,one⟩

end

end CartPredicateParser
