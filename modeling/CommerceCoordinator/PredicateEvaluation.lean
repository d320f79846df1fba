import CommerceCoordinator.PredicateGrammar

-- `CartPredicateParser.check` and the evaluation of an expression, over numbers `N`
-- with the comparisons that Python makes of them.
namespace CartPredicateParser
open Lark
open Commercetools (Exn)

inductive Object (N : Type) where
  | null
  | bool (value : Bool)
  | number (value : N)
  | text (value : String)
  | list (items : List (Object N))
  | dict (entries : List (String × Object N))

def Value.object : Value N → Object N
  | .absent => .null
  | .number value => .number value
  | .text value => .text value

def getitem (object : Object N) (key : String) : Except Exn (Object N) :=
  match object with
  | .dict entries =>
    match entries.lookup key with
    | some value => .ok value
    | none => .error (.keyError key)
  | _ => .error .typeError

def getPath (context : Object N) (path : String) : Except Exn (Object N) :=
  ((path.toList.splitOn '.').map String.ofList).foldlM getitem context

-- A tuple has no `split`.
def getValue (context : Object N) : Field N → Except Exn (Object N)
  | .path path => getPath context path
  | .func _ _ => .error .attributeError

section
variable [Zero N] [One N]

def normalizeExpected : Value N → Value N
  | .text text => if text = "true" then .number 1 else if text = "false" then .number 0 else .text text
  | expected => expected

-- A bool is a number.
def Object.number? : Object N → Option N
  | .bool value => some (if value then 1 else 0)
  | .number value => some value
  | _ => none

variable [BEq N] [LT N] [LE N] [DecidableLT N] [DecidableLE N] 

def Object.equals (evaluated : Object N) : Value N → Bool
  | .absent => match evaluated with | .null => true | _ => false
  | .number expected => match evaluated.number? with | some value => value == expected | none => false
  | .text expected => match evaluated with | .text value => value == expected | _ => false

def Object.truthy : Object N → Bool
  | .null => false
  | .bool value => value
  | .number value => !(value == 0)
  | .text value => value != ""
  | .list items => !items.isEmpty
  | .dict entries => !entries.isEmpty

def Object.ordered (numbers : N → N → Bool) (texts : String → String → Bool) (evaluated : Object N)
    (expected : Value N) : Except Exn (Object N) :=
  match evaluated,expected with
  | .text value,.text expected => .ok (.bool (texts value expected))
  | evaluated,.number expected =>
    match evaluated.number? with
    | some value => .ok (.bool (numbers value expected))
    | none => .error .typeError
  | _,_ => .error .typeError

def compare (operator : String) (evaluated : Object N) (expected : Value N) : Except Exn (Object N) :=
  if operator = "=" then .ok (.bool (evaluated.equals expected))
  else if operator = "!=" then .ok (.bool (!evaluated.equals expected))
  else if operator = ">" then evaluated.ordered (fun x y => x > y) (fun x y => x > y) expected
  else if operator = "<" then evaluated.ordered (fun x y => x < y) (fun x y => x < y) expected
  else if operator = ">=" then evaluated.ordered (fun x y => x >= y) (fun x y => x >= y) expected
  else if operator = "<=" then evaluated.ordered (fun x y => x <= y) (fun x y => x <= y) expected
  else .error .valueError

mutual
def evaluate (context : Object N) : Expression N → Except Exn (Object N)
  | .cmp operator field expected => do
    let evaluated ← evaluateField context field
    compare operator evaluated (normalizeExpected expected)
  | .inExpr field items negate => do
    let evaluated ← getValue context field
    return .bool (if negate then !items.any evaluated.equals else items.any evaluated.equals)
  | .isDefined field negate => do
    match ← getValue context field with
    | .null => return .bool negate
    | _ => return .bool !negate
  | .and a b => do
    let left ← evaluate context a
    let right ← evaluate context b
    return if left.truthy then right else left
  | .or a b => do
    let left ← evaluate context a
    let right ← evaluate context b
    return if left.truthy then left else right
def evaluateField (context : Object N) : Field N → Except Exn (Object N)
  | .path path => getPath context path
  | .func name args => evaluateFunc context name args
def evaluateFunc (context : Object N) (name : String) : List (Expression N) → Except Exn (Object N)
  | [] => .error .valueError
  | first :: _ =>
    if name = "lineItemCount" ∨ name = "lineItemExists" then do
      let result ← evaluate context first
      return .number (if result.truthy then 1 else 0)
    else .error .valueError
end

-- What the evaluation with debug output returns: mostly a pair, the bare 0 for a
-- call with no arguments.
inductive Debugged (N : Type) where
  | pair (value : Object N) (output : String)
  | bare (value : Object N)

def Debugged.unpack : Debugged N → Except Exn (Object N × String)
  | .pair value output => .ok (value,output)
  | .bare _ => .error .typeError

def colorize (line : String) (result : Object N) : String :=
  (if result.truthy then "\x1b[92m" else "\x1b[91m") ++ line ++ "\x1b[0m"

def indent (depth : Int) : String := String.join (List.replicate depth.toNat "  ")

-- `str` writes a Python object, `strTuple` the tuple of a function call.
variable (str : Object N → String) (strTuple : String → List (Expression N) → String)

def strField : Field N → String
  | .path path => path
  | .func name args => strTuple name args

def debugConnective (word : String) (depth : Int) (result : Object N) (left right : String) : String :=
  let long := left.length + right.length > 80
  let left := if long then "\n" ++ indent depth ++ left else left
  let right := if long then right ++ "\n" ++ indent (depth - 1) else right
  "(" ++ left ++ " " ++ colorize word result ++ " " ++ right ++ ")"

def unparenthesized (output : String) : String :=
  if output.toList.head? = some '(' ∧ output.toList.getLast? = some ')' then
    String.ofList output.toList.tail.dropLast
  else output

mutual
def evaluateWithDebugOutput (context : Object N) (depth : Int) : Expression N → Except Exn (Debugged N)
  | .cmp operator field expected => do
    let expected := normalizeExpected expected
    let (evaluated,debugOutput) ← debugField context (depth + 1) field
    let result ← compare operator evaluated expected
    match debugOutput with
    | none | some "" =>
      return .pair result (colorize (strField strTuple field ++ " " ++ operator ++ " " ++ str expected.object) result)
    | some output =>
      return .pair result
        (output ++ "\n" ++ colorize (str evaluated ++ " " ++ operator ++ " " ++ str expected.object) result)
  | .inExpr field items negate => do
    let evaluated ← getValue context field
    let result := .bool (if negate then !items.any evaluated.equals else items.any evaluated.equals)
    return .pair result (colorize
      (strField strTuple field ++ (if negate then " not " else " ") ++ "in " ++ str (.list (items.map Value.object))) result)
  | .isDefined field negate => do
    let evaluated ← getValue context field
    let result := .bool (match evaluated with | .null => negate | _ => !negate)
    return .pair result (colorize (strField strTuple field ++ " is" ++ (if negate then " not " else " ") ++ "defined") result)
  | .and a b => do
    let (left,leftOutput) ← (← evaluateWithDebugOutput context (depth + 1) a).unpack
    let (right,rightOutput) ← (← evaluateWithDebugOutput context (depth + 1) b).unpack
    let result := if left.truthy then right else left
    return .pair result (debugConnective "AND" depth result leftOutput rightOutput)
  | .or a b => do
    let (left,leftOutput) ← (← evaluateWithDebugOutput context (depth + 1) a).unpack
    let (right,rightOutput) ← (← evaluateWithDebugOutput context (depth + 1) b).unpack
    let result := if left.truthy then left else right
    return .pair result (debugConnective "OR" depth result leftOutput rightOutput)
def debugField (context : Object N) (depth : Int) : Field N → Except Exn (Object N × Option String)
  | .path path => do return (← getPath context path,none)
  | .func name args => do
    let (evaluated,output) ← (← debugFunc context depth name args).unpack
    return (evaluated,some output)
def debugFunc (context : Object N) (depth : Int) (name : String) : List (Expression N) → Except Exn (Debugged N)
  | [] =>
    if name = "lineItemCount" ∨ name = "lineItemExists" then .ok (.bare (.number 0))
    else .ok (.pair (.number 0) ("Function " ++ name ++ " not implemented, returning 0"))
  | filterExpr :: _ =>
    if name = "lineItemCount" ∨ name = "lineItemExists" then do
      let (result,debugOutput) ← (← evaluateWithDebugOutput context (depth + 1) filterExpr).unpack
      let x := .number (if result.truthy then 1 else 0)
      return .pair x (name ++ "(" ++ unparenthesized debugOutput ++ ") -> " ++ (if result.truthy then "1" else "0"))
    else .ok (.pair (.number 0) ("Function " ++ name ++ " not implemented, returning 0"))
end

def check (float : String → N) (parsedTree : Tree Terminal Rule) (context : Object N) (debug : Bool) :
    Except Exn Bool := do
  let transformedExpression ← transform float parsedTree
  let result ←
    if debug then do
      let (result,_) ← (← evaluateWithDebugOutput str strTuple context 0 transformedExpression).unpack
      pure result
    else evaluate context transformedExpression
  match result with
  | .bool result => return result
  | _ => .error .valueError

end
end CartPredicateParser
