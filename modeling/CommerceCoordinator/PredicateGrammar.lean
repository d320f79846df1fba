import CommerceCoordinator.Lark
import CommerceCoordinator.Platform

-- The grammar of `CartPredicateParser` and `PredicateTransformer`, which turns the
-- trees of the grammar into the tuples that are evaluated.
namespace CartPredicateParser
open Lark
open Commercetools (Exn)

-- `backtickText` is the regular expression between the backticks.
inductive Terminal where
  | CNAME | ESCAPED_STRING | SIGNED_NUMBER | OP | NOT | backtickText
  deriving DecidableEq

inductive Rule where
  | start | expr | term | factor | comparison | field | dottedName | backtickName | functionCall | args | list | value
  | orExpr | andExpr | inExpr | isDefinedExpr
  deriving DecidableEq

def nameStart (char : Char) : Bool := char == '_' || char.isAlpha
def nameChar (char : Char) : Bool := nameStart char || char.isDigit

def CNAME : List Char → Bool
  | [] => false
  | first :: rest => nameStart first && rest.all nameChar

-- What follows the opening quote, up to the first quote that no backslash escapes.
def stringTail : List Char → Bool
  | [] => false
  | '"' :: rest => rest.isEmpty
  | '\\' :: escaped :: rest => escaped != '\n' && stringTail rest
  | char :: rest => char != '\n' && stringTail rest

def ESCAPED_STRING : List Char → Bool
  | '"' :: rest => stringTail rest
  | _ => false

def INT (text : List Char) : Bool := !text.isEmpty && text.all Char.isDigit

def isSign (char : Char) : Bool := char == '+' || char == '-'
def unsigned : List Char → List Char
  | [] => []
  | char :: rest => if isSign char then rest else char :: rest

def SIGNED_INT (text : List Char) : Bool := INT (unsigned text)

def DECIMAL (text : List Char) : Bool :=
  let whole := text.takeWhile Char.isDigit
  match text.dropWhile Char.isDigit with
  | '.' :: fraction => fraction.all Char.isDigit && !(whole ++ fraction).isEmpty
  | _ => false

def isExponentMark (char : Char) : Bool := char == 'e' || char == 'E'

def NUMBER (text : List Char) : Bool :=
  let mantissa := text.takeWhile fun char => !isExponentMark char
  match text.dropWhile fun char => !isExponentMark char with
  | [] => INT mantissa || DECIMAL mantissa
  | _ :: exponent => (INT mantissa || DECIMAL mantissa) && SIGNED_INT exponent

def SIGNED_NUMBER (text : List Char) : Bool := NUMBER (unsigned text)

def operators : List String := ["=","!=",">","<",">=","<="]

def accepts : Terminal → List Char → Bool
  | .CNAME => CNAME
  | .ESCAPED_STRING => ESCAPED_STRING
  | .SIGNED_NUMBER => SIGNED_NUMBER
  | .OP => fun text => operators.any fun operator => text == operator.toList
  | .NOT => fun text => text == "not".toList
  | .backtickText => fun text => !text.isEmpty && text.all (· != '\x60')

def isSpace (char : Char) : Bool := [' ','\t','\x0c','\r','\n'].contains char

-- Each list holds the alternatives of a rule in their order, with the labels after `->`.
def alternatives : Rule → List (Alternative Terminal Rule)
  | .start => [⟨.rule .expr,none⟩]
  | .expr => [⟨.seq (.rule .expr) (.seq (.literal "or") (.rule .term)),some .orExpr⟩,⟨.rule .term,none⟩]
  | .term => [⟨.seq (.rule .term) (.seq (.literal "and") (.rule .factor)),some .andExpr⟩,⟨.rule .factor,none⟩]
  | .factor => [⟨.seq (.literal "(") (.seq (.rule .expr) (.literal ")")),none⟩,⟨.rule .comparison,none⟩]
  | .comparison =>
    [⟨.seq (.rule .field) (.seq (.terminal .OP) (.rule .value)),none⟩,
     ⟨.seq (.rule .field) (.seq (.opt (.terminal .NOT)) (.seq (.literal "in") (.rule .list))),some .inExpr⟩,
     ⟨.seq (.rule .field) (.seq (.literal "is") (.seq (.opt (.terminal .NOT)) (.literal "defined"))),some .isDefinedExpr⟩]
  | .field => [⟨.alt (.rule .functionCall) (.rule .dottedName),none⟩]
  | .dottedName =>
    [⟨.seq (.terminal .CNAME) (.star (.seq (.literal ".") (.alt (.terminal .CNAME) (.rule .backtickName)))),none⟩]
  | .backtickName => [⟨.seq (.literal "`") (.seq (.terminal .backtickText) (.literal "`")),none⟩]
  | .functionCall => [⟨.seq (.terminal .CNAME) (.seq (.literal "(") (.seq (.opt (.rule .args)) (.literal ")"))),none⟩]
  | .args => [⟨.seq (.rule .expr) (.star (.seq (.literal ",") (.rule .expr))),none⟩]
  | .list =>
    [⟨.seq (.literal "(")
      (.seq (.maybe (.seq (.rule .value) (.star (.seq (.literal ",") (.rule .value))))) (.literal ")")),none⟩]
  | .value => [⟨.alt (.terminal .ESCAPED_STRING) (.alt (.terminal .SIGNED_NUMBER) (.terminal .CNAME)),none⟩]
  | .orExpr | .andExpr | .inExpr | .isDefinedExpr => []

def grammar : Grammar Terminal Rule where
  alternatives := alternatives
  inline
    | .start | .expr | .term | .factor => true
    | _ => false
  accepts := accepts
  ignored := isSpace

-- A value of a predicate; `absent` is the one `None` in the list of `in ()`.
inductive Value (N : Type) where
  | absent
  | number (value : N)
  | text (value : String)
  deriving DecidableEq

-- The tuples that `PredicateTransformer` builds. A field is a dotted path, or the
-- tuple of a function call.
mutual
inductive Expression (N : Type) where
  | cmp (operator : String) (field : Field N) (expected : Value N)
  | inExpr (field : Field N) (items : List (Value N)) (negate : Bool)
  | isDefined (field : Field N) (negate : Bool)
  | and (a b : Expression N)
  | or (a b : Expression N)
inductive Field (N : Type) where
  | path (path : String)
  | func (name : String) (args : List (Expression N))
end

inductive Built (N : Type) where
  | token (token : Token Terminal)
  | absent
  | value (value : Value N)
  | values (items : List (Value N))
  | args (args : List (Expression N))
  | field (field : Field N)
  | expression (expression : Expression N)

namespace PredicateTransformer

def backtickName : List (Built N) → Except Exn (Built N)
  | [token] => .ok token
  | _ => .error .typeError

def str : Built N → Except Exn String
  | .token token => .ok (String.ofList token.text)
  | _ => .error .typeError

def dottedName (parts : List (Built N)) : Except Exn (Built N) := do
  return .field (.path (".".intercalate (← parts.mapM str)))

def functionCall : List (Built N) → Except Exn (Built N)
  | [name] => do return .field (.func (← str name) [])
  | [name,.args args] => do return .field (.func (← str name) args)
  | _ => .error .typeError

def expression : Built N → Except Exn (Expression N)
  | .expression expression => .ok expression
  | _ => .error .typeError

def args (args : List (Built N)) : Except Exn (Built N) := do
  return .args (← args.mapM expression)

def field : List (Built N) → Except Exn (Built N)
  | [f] => .ok f
  | _ => .error .typeError

def comparison : List (Built N) → Except Exn (Built N)
  | [.field field,op,.value value] => do return .expression (.cmp (← str op) field value)
  | _ => .error .typeError

def andExpr : List (Built N) → Except Exn (Built N)
  | [.expression a,.expression b] => .ok (.expression (.and a b))
  | _ => .error .typeError

def orExpr : List (Built N) → Except Exn (Built N)
  | [.expression a,.expression b] => .ok (.expression (.or a b))
  | _ => .error .typeError

def item : Built N → Except Exn (Value N)
  | .value value => .ok value
  | .absent => .ok .absent
  | _ => .error .typeError

def list (items : List (Built N)) : Except Exn (Built N) := do
  return .values (← items.mapM item)

def isDefinedExpr : List (Built N) → Except Exn (Built N)
  | [.field field] => .ok (.expression (.isDefined field false))
  | [.field field,notToken] => do
    let text ← str notToken
    return .expression (.isDefined field (text != "" && text == "not"))
  | _ => .error .typeError

def inTokens (items : List (Value N)) (negate : Bool) : List (Built N) → Except Exn (List (Value N) × Bool)
  | [] => .ok (items,negate)
  | .values listed :: tokens => inTokens listed negate tokens
  | token :: tokens => do
    if (← str token) = "not" then inTokens items true tokens else inTokens items negate tokens

def inExpr : List (Built N) → Except Exn (Built N)
  | .field field :: tokens => do
    let (items,negate) ← inTokens [] false tokens
    return .expression (.inExpr field items negate)
  | _ => .error .typeError

def start : List (Built N) → Except Exn (Built N)
  | [expr] => .ok expr
  | _ => .error .typeError

-- `float` reads a number; the text of a string literal is what its quotes enclose.
def value (float : String → N) : List (Built N) → Except Exn (Built N)
  | [.token v] =>
    match v.symbol with
    | .terminal .ESCAPED_STRING => .ok (.value (.text (String.ofList v.text.tail.dropLast)))
    | .terminal .SIGNED_NUMBER => .ok (.value (.number (float (String.ofList v.text))))
    | _ => .ok (.value (.text (String.ofList v.text)))
  | _ => .error .typeError

def callback (float : String → N) : Rule → List (Built N) → Except Exn (Built N)
  | .backtickName => backtickName
  | .dottedName => dottedName
  | .functionCall => functionCall
  | .args => args
  | .field => field
  | .comparison => comparison
  | .andExpr => andExpr
  | .orExpr => orExpr
  | .list => list
  | .isDefinedExpr => isDefinedExpr
  | .inExpr => inExpr
  | .value => value float
  | .start => start
  -- an inlined rule always has one child, so no tree bears its name
  | .expr | .term | .factor => fun _ => .error .typeError

end PredicateTransformer

def transformer (float : String → N) : Transformer Terminal Rule Exn (Built N) :=
  ⟨.token,.absent,PredicateTransformer.callback float⟩

def transform (float : String → N) (parsedTree : Tree Terminal Rule) : Except Exn (Expression N) := do
  match ← (transformer float).transformAll (grammar.shape parsedTree) with
  | [.expression expression] => return expression
  | _ => .error .typeError

end CartPredicateParser
