import Mathlib.Data.List.Nodup
import CommerceCoordinator.Findall
import CommerceCoordinator.PredicateLiterals

-- `get_program_offer` finds the offer of a program by the bundle ids in the texts of
-- the predicates: against what the predicates evaluate to.
namespace ProgramOffers
open Lark CartPredicateParser Findall
open Commercetools (Exn)

def DEFAULT_BUNDLE_DISCOUNT_KEY : String := "relative-1000-program-offer"
def CT_ABSOLUTE_DISCOUNT_TYPE : String := "absolute"

-- The cent amounts of `money`, each 0 where there is none.
structure DiscountValue where
  type : Option String
  money : Option (List (Option Int))
  permyriad : Option Int

structure CartDiscount where
  key : Option String
  cartPredicate : Option String
  value : Option DiscountValue

structure ProgramOffer where
  discountValueInCents : Int
  discountType : Option String
  key : Option String
  deriving DecidableEq

def isWhitespace (char : Char) : Bool :=
  [0x85,0xa0,0x1680,0x2028,0x2029,0x202f,0x205f,0x3000].contains char.toNat ||
    [(0x9,0xd),(0x1c,0x20),(0x2000,0x200a)].any fun (first,last) => first ≤ char.toNat && char.toNat ≤ last

-- `custom\.bundleId\s*(?:!=|=)\s*"([^"]+)"` at the front of a text.
def matchBundleId (text : List Char) : Option (String × List Char) := do
  let operator ← text.dropPrefix? "custom.bundleId".toList
  let operator := operator.dropWhile isWhitespace
  let quote ← (operator.dropPrefix? "!=".toList).or (operator.dropPrefix? "=".toList)
  let uuid ← (quote.dropWhile isWhitespace).dropPrefix? ['"']
  match uuid.takeWhile (· != '"'),uuid.dropWhile (· != '"') with
  | [],_ => none
  | _,[] => none
  | first :: others,_ :: behind => some (String.ofList (first :: others),behind)

def extractUuidsFromPredicate (predicate : String) : List String := findall matchBundleId 0 predicate.toList

def findOffer (bundleKey : String) : List CartDiscount → Option CartDiscount → Option CartDiscount × Option CartDiscount
  | [],defaultProgramOffer => (none,defaultProgramOffer)
  | cartDiscount :: rest,defaultProgramOffer =>
    if cartDiscount.key = some DEFAULT_BUNDLE_DISCOUNT_KEY then findOffer bundleKey rest (some cartDiscount)
    else if bundleKey ∈ extractUuidsFromPredicate (cartDiscount.cartPredicate.getD "") then
      (some cartDiscount,defaultProgramOffer)
    else findOffer bundleKey rest defaultProgramOffer

def discountValueInCents (value : DiscountValue) : Except Exn Int :=
  if value.type = some CT_ABSOLUTE_DISCOUNT_TYPE then
    match value.money.getD [none] with
    | [] => .error .indexError
    | centAmount :: _ => .ok (centAmount.getD 0)
  else .ok (value.permyriad.getD 0)

def advertised (cartDiscount : CartDiscount) : Except Exn ProgramOffer := do
  let value := cartDiscount.value.getD ⟨none,none,none⟩
  let cents ← discountValueInCents value
  return ⟨cents,value.type,cartDiscount.key⟩

def getProgramOffer (cartDiscounts : List CartDiscount) (bundleKey : String) : Except Exn (Option ProgramOffer) :=
  match findOffer bundleKey cartDiscounts none with
  | (some programOffer,_) => (advertised programOffer).map some
  | (none,some defaultProgramOffer) =>
    if bundleKey ∈ extractUuidsFromPredicate (defaultProgramOffer.cartPredicate.getD "") then .ok none
    else (advertised defaultProgramOffer).map some
  | (none,none) => .ok none

structure BundleId where
  written : String
  unquoted : '"' ∉ written.toList
  accepted : accepts .ESCAPED_STRING ("\"" ++ written ++ "\"").toList = true

def BundleId.literal (bundle : BundleId) : Literal := ⟨.string,"\"" ++ bundle.written ++ "\"",bundle.accepted⟩

-- `parentheses` is a pair that the binding of the connectives does not ask for.
inductive Combination where
  | isDefined
  | equals (bundle : BundleId)
  | differs (bundle : BundleId)
  | and (a b : Combination)
  | or (a b : Combination)
  | parentheses (inner : Combination)

def Combination.isOr : Combination → Bool
  | .or .. => true
  | _ => false

def Combination.isConnective : Combination → Bool
  | .and .. | .or .. => true
  | _ => false

def Combination.text : Combination → String
  | .isDefined => existenceText "custom.bundleId" false
  | .equals bundle => comparisonText "custom.bundleId" "=" bundle.literal.text
  | .differs bundle => comparisonText "custom.bundleId" "!=" bundle.literal.text
  | .and a b => parenthesized a.isOr a.text ++ " and" ++ (" " ++ parenthesized b.isConnective b.text)
  | .or a b => a.text ++ " or" ++ (" " ++ parenthesized b.isOr b.text)
  | .parentheses inner => parenthesized true inner.text

def Combination.expression : Combination → Expression N
  | .isDefined => .isDefined (.path "custom.bundleId") false
  | .equals bundle => .cmp "=" (.path "custom.bundleId") (.text bundle.written)
  | .differs bundle => .cmp "!=" (.path "custom.bundleId") (.text bundle.written)
  | .and a b => .and a.expression b.expression
  | .or a b => .or a.expression b.expression
  | .parentheses inner => inner.expression

def Combination.bundles : Combination → List String
  | .isDefined => []
  | .equals bundle | .differs bundle => [bundle.written]
  | .and a b | .or a b => a.bundles ++ b.bundles
  | .parentheses inner => inner.bundles

-- What a combination says of a bundle: no bundle id equals a literal `true` or `false`.
def BundleId.matches (bundle : BundleId) (bundleKey : String) : Bool :=
  bundleKey == bundle.written && (bundle.written != "true" && bundle.written != "false")

def Combination.holds (bundleKey : String) : Combination → Bool
  | .isDefined => true
  | .equals bundle => bundle.matches bundleKey
  | .differs bundle => !bundle.matches bundleKey
  | .and a b => a.holds bundleKey && b.holds bundleKey
  | .or a b => a.holds bundleKey || b.holds bundleKey
  | .parentheses inner => inner.holds bundleKey

-- A way for a combination to hold: the bundle is each that is required and none that
-- is excluded.
structure Clause where
  required : List BundleId
  excluded : List BundleId

def Clause.join (clause other : Clause) : Clause := ⟨clause.required ++ other.required,clause.excluded ++ other.excluded⟩

def Combination.clauses : Combination → List Clause
  | .isDefined => [⟨[],[]⟩]
  | .equals bundle => [⟨[bundle],[]⟩]
  | .differs bundle => [⟨[],[bundle]⟩]
  | .and a b => a.clauses.flatMap fun clause => b.clauses.map clause.join
  | .or a b => a.clauses ++ b.clauses
  | .parentheses inner => inner.clauses

def Clause.Admits (clause : Clause) (bundleKey : String) : Prop :=
  (∀ bundle ∈ clause.required, bundle.matches bundleKey = true) ∧
    ∀ bundle ∈ clause.excluded, bundle.matches bundleKey = false

theorem join_admits (clause other : Clause) (bundleKey : String) :
    (clause.join other).Admits bundleKey ↔ clause.Admits bundleKey ∧ other.Admits bundleKey := by
  simp only [Clause.Admits,Clause.join,List.forall_mem_append]
  exact and_and_and_comm

theorem holds_iff_admitted (combination : Combination) (bundleKey : String) :
    combination.holds bundleKey = true ↔ ∃ clause ∈ combination.clauses, clause.Admits bundleKey := by
  induction combination with
  | isDefined => simp [Combination.holds,Combination.clauses,Clause.Admits]
  | equals bundle => simp [Combination.holds,Combination.clauses,Clause.Admits]
  | differs bundle => simp [Combination.holds,Combination.clauses,Clause.Admits]
  | and a b left right =>
    rw [Combination.holds,Bool.and_eq_true,left,right,Combination.clauses]
    constructor
    · rintro ⟨⟨clause,member,admits⟩,other,member',admits'⟩
      exact ⟨clause.join other,List.mem_flatMap.mpr ⟨clause,member,List.mem_map_of_mem member'⟩,
        (join_admits clause other bundleKey).mpr ⟨admits,admits'⟩⟩
    · rintro ⟨joined,member,admits⟩
      obtain ⟨clause,found,inside⟩ := List.mem_flatMap.mp member
      obtain ⟨other,found',rfl⟩ := List.mem_map.mp inside
      obtain ⟨admits,admits'⟩ := (join_admits clause other bundleKey).mp admits
      exact ⟨⟨clause,found,admits⟩,other,found',admits'⟩
  | or a b left right =>
    rw [Combination.holds,Bool.or_eq_true,left,right,Combination.clauses]
    simp only [List.mem_append,or_and_right,exists_or]
  | parentheses inner ih => exact ih

def bundleField (float : String → N) : FieldText float :=
  dottedField float "custom" [.name "bundleId"] (by decide) fun part member => by
    cases List.mem_singleton.mp member
    show CNAME "bundleId".toList = true
    decide

theorem bundleField_reads (float : String → N) : (bundleField float).text = "custom.bundleId" ∧
    (bundleField float).field = .path "custom.bundleId" :=
  ⟨(by show ".".intercalate ["custom","bundleId"] = _; decide +kernel),
    congrArg Field.path (by show ".".intercalate ["custom","bundleId"] = _; decide +kernel)⟩

theorem literal_value (float : String → N) (bundle : BundleId) : bundle.literal.value float = .text bundle.written := by
  simp [Literal.value,BundleId.literal]

theorem combination_read (float : String → N) (combination : Combination) :
    ReadAs float combination.text combination.expression combination.isOr combination.isConnective := by
  have field := (bundleField float).read
  rw [(bundleField_reads float).1,(bundleField_reads float).2] at field
  have comparison (operator : String) (known : operator ∈ operators) (bundle : BundleId) :
      Writes grammar (transformer float) (.rule .comparison)
        [.expression (.cmp operator (.path "custom.bundleId") (.text bundle.written))]
        (comparisonText "custom.bundleId" operator bundle.literal.text).toList Ends := by
    have literal : Writes grammar (transformer float) (.rule .value) [.value (bundle.literal.value float)]
        bundle.literal.text.toList Ends := literal_writes bundle.literal
    rw [literal_value] at literal
    simpa [comparisonText] using writes_cmp known field literal
  induction combination with
  | isDefined =>
    refine readAs_comparison ?_
    simpa [Combination.text,Combination.expression,existenceText] using writes_defined false field
  | equals bundle => exact readAs_comparison (comparison "=" (by simp [operators]) bundle)
  | differs bundle => exact readAs_comparison (comparison "!=" (by simp [operators]) bundle)
  | and a b left right => exact readAs_and left right
  | or a b left right => exact readAs_or left right
  | parentheses inner read => exact readAs_factor (writes_parenthesized read.1)

section
variable [Zero N] [One N] [BEq N]

theorem matches_equals (bundle : BundleId) (bundleKey : String) :
    (Object.text bundleKey).equals (normalizeExpected (.text bundle.written : Value N)) = bundle.matches bundleKey := by
  rw [Bool.eq_iff_iff,text_equals]
  simp [BundleId.matches]

variable [LT N] [LE N] [DecidableLT N] [DecidableLE N] {float : String → N}

theorem evaluates_to_holds (context : Object N) (bundleKey : String)
    (found : getPath context "custom.bundleId" = .ok (.text bundleKey)) (combination : Combination) :
    evaluate context combination.expression = .ok (.bool (combination.holds bundleKey)) := by
  induction combination with
  | isDefined =>
    rw [Combination.expression,evaluate,getValue,found]
    rfl
  | equals bundle =>
    rw [Combination.expression,evaluate,evaluateField,found,Combination.holds,← matches_equals (N := N)]
    rfl
  | differs bundle =>
    rw [Combination.expression,evaluate,evaluateField,found,Combination.holds,← matches_equals (N := N)]
    rfl
  | and a b left right =>
    rw [Combination.expression,evaluate,left,right,Combination.holds]
    cases a.holds bundleKey <;> rfl
  | or a b left right =>
    rw [Combination.expression,evaluate,left,right,Combination.holds]
    cases a.holds bundleKey <;> rfl
  | parentheses inner ih => exact ih

theorem combination_evaluates (context : Object N) (bundleKey : String)
    (found : getPath context "custom.bundleId" = .ok (.text bundleKey)) (combination : Combination) :
    Evaluates float combination.text context (.ok (.bool true)) ↔ combination.holds bundleKey = true := by
  rw [reads_evaluates (reads_of_expression (combination_read float combination).1),
    evaluates_to_holds context bundleKey found]
  simp

end


theorem matches_from_c (first : Char) (rest : List Char) (other : (first == 'c') = false) :
    matchBundleId (first :: rest) = none := by
  have apart : (first :: rest).dropPrefix? "custom.bundleId".toList = none := by
    have chars : "custom.bundleId".toList = 'c' :: "ustom.bundleId".toList := rfl
    rw [chars,List.dropPrefix?,other]
    rfl
  rw [matchBundleId,apart]
  rfl

theorem extracts_nothing (text : List Char) (free : (text.all fun char => !(char == 'c')) = true) :
    Captures matchBundleId text [] :=
  captures_nothing (· == 'c') matches_from_c text free

theorem matches_behind (operator : List Char) : matchBundleId ("custom.bundleId".toList ++ operator) = (do
    let quote ← ((operator.dropWhile isWhitespace).dropPrefix? "!=".toList).or
      ((operator.dropWhile isWhitespace).dropPrefix? "=".toList)
    let uuid ← (quote.dropWhile isWhitespace).dropPrefix? ['"']
    match uuid.takeWhile (· != '"'),uuid.dropWhile (· != '"') with
    | [],_ => none
    | _,[] => none
    | first :: others,_ :: behind => some (String.ofList (first :: others),behind)) := by
  rw [matchBundleId,List.dropPrefix?_append_of_beq operator (by rw [beq_self_eq_true])]
  rfl

theorem closing_quote (written rest : List Char) (unquoted : '"' ∉ written) :
    (written ++ '"' :: rest).takeWhile (· != '"') = written ∧ (written ++ '"' :: rest).dropWhile (· != '"') = '"' :: rest := by
  have plain : ∀ char ∈ written, (char != '"') = true := by
    rintro char member
    simpa using fun same : char = '"' => unquoted (same ▸ member)
  constructor
  · rw [List.takeWhile_append_of_pos plain]
    simp
  · rw [List.dropWhile_append_of_pos plain]
    simp

theorem skip_blank (char : Char) (rest : List Char) (visible : isWhitespace char = false) :
    (' ' :: char :: rest).dropWhile isWhitespace = char :: rest := by
  have blank : isWhitespace ' ' = true := by decide
  rw [List.dropWhile_cons_of_pos blank,List.dropWhile_cons_of_neg (by simp [visible])]

theorem matches_comparison (operator : String) (known : operator = "=" ∨ operator = "!=") (bundle : BundleId) (rest : List Char) :
    matchBundleId ("custom.bundleId".toList ++ (' ' :: (operator.toList ++ ' ' :: '"' :: (bundle.written.toList ++ '"' :: rest)))) =
      if bundle.written = "" then none else some (bundle.written,rest) := by
  have quoted : (do
      let quote ← (((' ' :: (operator.toList ++ ' ' :: '"' :: (bundle.written.toList ++ '"' :: rest))).dropWhile
        isWhitespace).dropPrefix? "!=".toList).or
          (((' ' :: (operator.toList ++ ' ' :: '"' :: (bundle.written.toList ++ '"' :: rest))).dropWhile
            isWhitespace).dropPrefix? "=".toList)
      (quote.dropWhile isWhitespace).dropPrefix? ['"']) = some (bundle.written.toList ++ '"' :: rest) := by
    have chars : "=".toList = ['='] ∧ "!=".toList = ['!','='] := ⟨rfl,rfl⟩
    rcases known with rfl | rfl
    · simp only [chars.1,chars.2,List.cons_append,List.nil_append,skip_blank '=' _ (by decide)]
      simp [List.dropPrefix?,skip_blank '"' _ (by decide)]
    · simp only [chars.1,chars.2,List.cons_append,List.nil_append,skip_blank '!' _ (by decide)]
      simp [List.dropPrefix?,skip_blank '"' _ (by decide)]
  obtain ⟨taken,dropped⟩ := closing_quote bundle.written.toList rest bundle.unquoted
  rw [matches_behind]
  obtain ⟨quote,found,uuid⟩ := Option.bind_eq_some_iff.mp quoted
  simp only [found,uuid,bind,Option.bind,taken,dropped]
  by_cases empty : bundle.written = ""
  · simp [empty]
  · have chars := String.toList_eq_nil_iff.not.mpr empty
    obtain ⟨first,others,split⟩ := List.exists_cons_of_ne_nil chars
    rw [if_neg empty,split]
    simp [← split]

theorem comparison_extracts (operator : String) (known : operator = "=" ∨ operator = "!=") (bundle : BundleId) :
    Captures matchBundleId (comparisonText "custom.bundleId" operator bundle.literal.text).toList
      ([bundle.written].filter (· != "")) := by
  have text : (comparisonText "custom.bundleId" operator bundle.literal.text).toList =
      'c' :: ("ustom.bundleId".toList ++ (' ' :: (operator.toList ++ ' ' :: '"' :: (bundle.written.toList ++ ['"'])))) := by
    simp [comparisonText,BundleId.literal]
  have found (rest : List Char) : matchBundleId
      ('c' :: ("ustom.bundleId".toList ++ (' ' :: (operator.toList ++ ' ' :: '"' :: (bundle.written.toList ++ ['"'])))) ++ rest) =
        if bundle.written = "" then none else some (bundle.written,rest) := by
    rw [← matches_comparison operator known bundle rest]
    congr 1
    simp
  rw [text]
  by_cases empty : bundle.written = ""
  · refine captures_past (fun rest => (found rest).trans (if_pos empty)) ?_
    rw [empty]
    rcases known with rfl | rfl <;> exact extracts_nothing _ (by decide)
  · simp only [if_neg empty] at found
    have kept : [bundle.written].filter (· != "") = [bundle.written] := by simp [empty]
    rw [kept]
    exact captures_match found

theorem existence_extracts : Captures matchBundleId (existenceText "custom.bundleId" false).toList [] := by
  have text : (existenceText "custom.bundleId" false).toList = 'c' :: "ustom.bundleId is defined".toList := by
    decide +kernel
  rw [text]
  refine captures_past (fun rest => ?_) (extracts_nothing _ (by decide))
  have split : 'c' :: "ustom.bundleId is defined".toList ++ rest =
      "custom.bundleId".toList ++ (' ' :: 'i' :: ("s defined".toList ++ rest)) := by simp
  rw [split,matches_behind,skip_blank 'i' _ (by decide)]
  simp [List.dropPrefix?]

theorem parenthesized_extracts (needed : Bool) {text : String} {ids : List String}
    (inner : Captures matchBundleId text.toList ids) : Captures matchBundleId (parenthesized needed text).toList ids := by
  cases needed with
  | false => exact inner
  | true =>
    have opening : Captures matchBundleId "(".toList [] := extracts_nothing _ (by decide)
    have closing : Captures matchBundleId ")".toList [] := extracts_nothing _ (by decide)
    have enclosed := captures_append opening (captures_append inner closing)
    simpa [parenthesized] using enclosed

theorem joined_extracts {left right word : String} {ids ids' : List String} (first : Captures matchBundleId left.toList ids)
    (second : Captures matchBundleId right.toList ids') (free : (word.toList.all fun char => !(char == 'c')) = true) :
    Captures matchBundleId (left ++ word ++ (" " ++ right)).toList (ids ++ ids') := by
  have blank : Captures matchBundleId " ".toList [] := extracts_nothing _ (by decide)
  have joined := captures_append first (captures_append (extracts_nothing word.toList free) (captures_append blank second))
  simpa using joined

theorem combination_extracts (combination : Combination) :
    Captures matchBundleId combination.text.toList (combination.bundles.filter (· != "")) := by
  induction combination with
  | isDefined => exact existence_extracts
  | equals bundle => exact comparison_extracts "=" (.inl rfl) bundle
  | differs bundle => exact comparison_extracts "!=" (.inr rfl) bundle
  | and a b left right =>
    rw [Combination.bundles,List.filter_append]
    exact joined_extracts (parenthesized_extracts a.isOr left) (parenthesized_extracts b.isConnective right) (by decide)
  | or a b left right =>
    rw [Combination.bundles,List.filter_append]
    exact joined_extracts left (parenthesized_extracts b.isOr right) (by decide)
  | parentheses inner ih => exact parenthesized_extracts true ih

theorem extracted_bundles (combination : Combination) :
    extractUuidsFromPredicate combination.text = combination.bundles.filter (· != "") :=
  findall_captures (combination_extracts combination)

structure BundleDiscount where
  key : Option String
  predicate : Combination
  value : Option DiscountValue

def BundleDiscount.cartDiscount (discount : BundleDiscount) : CartDiscount := ⟨discount.key,some discount.predicate.text,discount.value⟩

def BundleDiscount.isDefault (discount : BundleDiscount) : Prop := discount.key = some DEFAULT_BUNDLE_DISCOUNT_KEY

-- The predicate compares with the bundle id; the empty one is never extracted.
def BundleDiscount.Names (discount : BundleDiscount) (bundleKey : String) : Prop :=
  bundleKey ≠ "" ∧ bundleKey ∈ discount.predicate.bundles

instance (discount : BundleDiscount) : Decidable discount.isDefault := inferInstanceAs (Decidable (_ = _))

instance (discount : BundleDiscount) (bundleKey : String) : Decidable (discount.Names bundleKey) :=
  inferInstanceAs (Decidable (_ ∧ _))

def BundleDiscount.Passed (discount : BundleDiscount) (bundleKey : String) : Prop := discount.isDefault ∨ ¬ discount.Names bundleKey

-- An absolute value with an empty list of money is not read.
def BundleDiscount.Readable (discount : BundleDiscount) : Prop :=
  ∀ value, discount.value = some value → value.type = some CT_ABSOLUTE_DISCOUNT_TYPE → value.money ≠ some []

theorem names_iff (discount : BundleDiscount) (bundleKey : String) :
    bundleKey ∈ extractUuidsFromPredicate (discount.cartDiscount.cartPredicate.getD "") ↔ discount.Names bundleKey := by
  show bundleKey ∈ extractUuidsFromPredicate discount.predicate.text ↔ _
  rw [extracted_bundles,List.mem_filter,BundleDiscount.Names,and_comm]
  simp

theorem advertised_returns (discount : BundleDiscount) : (∃ offer, advertised discount.cartDiscount = .ok offer) ↔ discount.Readable := by
  have read (value : DiscountValue) : (∃ cents, discountValueInCents value = .ok cents) ↔
      (value.type = some CT_ABSOLUTE_DISCOUNT_TYPE → value.money ≠ some []) := by
    by_cases absolute : value.type = some CT_ABSOLUTE_DISCOUNT_TYPE
    · rcases given : value.money with _ | _ | ⟨first,rest⟩ <;> simp [discountValueInCents,absolute,given]
    · simp [discountValueInCents,absolute]
  have bound : (∃ offer, advertised discount.cartDiscount = .ok offer) ↔
      ∃ cents, discountValueInCents (discount.value.getD ⟨none,none,none⟩) = .ok cents := by
    show (∃ offer, (discountValueInCents (discount.value.getD ⟨none,none,none⟩) >>= _) = Except.ok offer) ↔ _
    cases discountValueInCents (discount.value.getD ⟨none,none,none⟩) with
    | error raised => exact ⟨(fun ⟨_,never⟩ => by cases never),fun ⟨_,never⟩ => by cases never⟩
    | ok cents => exact ⟨fun _ => ⟨cents,rfl⟩,fun _ => ⟨_,rfl⟩⟩
  rw [bound,read]
  cases given : discount.value with
  | none => simp [BundleDiscount.Readable,given]
  | some value => simp [BundleDiscount.Readable,given]

theorem advertised_key {cartDiscount : CartDiscount} {offer : ProgramOffer} (returned : advertised cartDiscount = .ok offer) :
    offer.key = cartDiscount.key := by
  obtain ⟨cents,_,rfl⟩ : ∃ cents, discountValueInCents (cartDiscount.value.getD ⟨none,none,none⟩) = .ok cents ∧
      offer = ⟨cents,(cartDiscount.value.getD ⟨none,none,none⟩).type,cartDiscount.key⟩ := by
    obtain ⟨cents,read,built⟩ := bind_ok returned
    cases built
    exact ⟨cents,read,rfl⟩
  rfl

section
variable (bundleKey : String)

theorem findOffer_step (discount : BundleDiscount) (rest : List CartDiscount) (defaultProgramOffer : Option CartDiscount) :
    findOffer bundleKey (discount.cartDiscount :: rest) defaultProgramOffer =
      if discount.isDefault then findOffer bundleKey rest (some discount.cartDiscount)
      else if discount.Names bundleKey then (some discount.cartDiscount,defaultProgramOffer)
      else findOffer bundleKey rest defaultProgramOffer := by
  simp only [findOffer,names_iff]
  rfl

theorem findOffer_passed (discounts : List BundleDiscount) (rest : List CartDiscount)
    (passed : ∀ discount ∈ discounts, discount.Passed bundleKey) (defaultProgramOffer : Option CartDiscount) :
    ∃ met, findOffer bundleKey (discounts.map BundleDiscount.cartDiscount ++ rest) defaultProgramOffer =
      findOffer bundleKey rest met := by
  induction discounts generalizing defaultProgramOffer with
  | nil => exact ⟨_,rfl⟩
  | cons discount others ih =>
    have later := fun other member => passed other (List.mem_cons_of_mem discount member)
    rw [List.map_cons,List.cons_append,findOffer_step]
    rcases passed discount (by simp) with isDefault | unnamed
    · rw [if_pos isDefault]
      exact ih later _
    · split
      · exact ih later _
      · exact ih later _

theorem findOffer_kept (discounts : List BundleDiscount) (passed : ∀ discount ∈ discounts, discount.Passed bundleKey)
    (others : ∀ discount ∈ discounts, ¬ discount.isDefault) (defaultProgramOffer : Option CartDiscount) :
    findOffer bundleKey (discounts.map BundleDiscount.cartDiscount) defaultProgramOffer = (none,defaultProgramOffer) := by
  induction discounts with
  | nil => rfl
  | cons discount rest ih =>
    have unnamed := (passed discount (by simp)).resolve_left (others discount (by simp))
    rw [List.map_cons,findOffer_step,if_neg (others discount (by simp)),if_neg unnamed]
    exact ih (fun other member => passed other (by simp [member])) fun other member => others other (by simp [member])

def FirstNamed (discounts : List BundleDiscount) (discount : BundleDiscount) : Prop :=
  ¬ discount.Passed bundleKey ∧ ∃ before after, discounts = before ++ discount :: after ∧
    ∀ other ∈ before, other.Passed bundleKey

theorem firstNamed_cons (first : BundleDiscount) (passed : first.Passed bundleKey) {rest : List BundleDiscount}
    {discount : BundleDiscount} (named : FirstNamed bundleKey rest discount) : FirstNamed bundleKey (first :: rest) discount := by
  obtain ⟨notPassed,before,after,rfl,others⟩ := named
  exact ⟨notPassed,first :: before,after,rfl,List.forall_mem_cons.mpr ⟨passed,others⟩⟩

theorem findOffer_some (discounts : List BundleDiscount) (defaultProgramOffer met : Option CartDiscount) (found : CartDiscount)
    (returned : findOffer bundleKey (discounts.map BundleDiscount.cartDiscount) defaultProgramOffer = (some found,met)) :
    ∃ discount, FirstNamed bundleKey discounts discount ∧ found = discount.cartDiscount := by
  induction discounts generalizing defaultProgramOffer with
  | nil => cases returned
  | cons discount rest ih =>
    have further (passed : discount.Passed bundleKey)
        (later : ∃ chosen, FirstNamed bundleKey rest chosen ∧ found = chosen.cartDiscount) :
        ∃ chosen, FirstNamed bundleKey (discount :: rest) chosen ∧ found = chosen.cartDiscount := by
      obtain ⟨chosen,named,same⟩ := later
      exact ⟨chosen,firstNamed_cons bundleKey discount passed named,same⟩
    rw [List.map_cons,findOffer_step] at returned
    split_ifs at returned with isDefault named
    · exact further (.inl isDefault) (ih _ returned)
    · cases returned
      exact ⟨discount,⟨not_or.mpr ⟨isDefault,not_not.mpr named⟩,[],rest,rfl,by simp⟩,rfl⟩
    · exact further (.inr named) (ih _ returned)

theorem findOffer_none (discounts : List BundleDiscount) (defaultProgramOffer met : Option CartDiscount)
    (returned : findOffer bundleKey (discounts.map BundleDiscount.cartDiscount) defaultProgramOffer = (none,met)) :
    (∀ discount ∈ discounts, discount.Passed bundleKey) ∧
      (met = defaultProgramOffer ∨ ∃ discount ∈ discounts, discount.isDefault ∧ met = some discount.cartDiscount) := by
  induction discounts generalizing defaultProgramOffer with
  | nil =>
    cases returned
    exact ⟨by simp,.inl rfl⟩
  | cons discount rest ih =>
    rw [List.map_cons,findOffer_step] at returned
    split_ifs at returned with isDefault named
    · obtain ⟨passed,met⟩ := ih _ returned
      refine ⟨List.forall_mem_cons.mpr ⟨.inl isDefault,passed⟩,.inr ?_⟩
      rcases met with same | ⟨other,member,otherDefault,same⟩
      · exact ⟨discount,by simp,isDefault,same⟩
      · exact ⟨other,by simp [member],otherDefault,same⟩
    · cases returned
    · obtain ⟨passed,met⟩ := ih _ returned
      refine ⟨List.forall_mem_cons.mpr ⟨.inr named,passed⟩,?_⟩
      rcases met with same | ⟨other,member,otherDefault,same⟩
      · exact .inl same
      · exact .inr ⟨other,by simp [member],otherDefault,same⟩

-- The discount whose offer is advertised: the first one but the default that names the
-- bundle, and where there is none the default, if it does not name the bundle.
def Advertises (discounts : List BundleDiscount) (discount : BundleDiscount) : Prop :=
  FirstNamed bundleKey discounts discount ∨
  (discount.isDefault ∧ ¬ discount.Names bundleKey ∧ discount ∈ discounts ∧ ∀ other ∈ discounts, other.Passed bundleKey)

variable {bundleKey}

theorem advertises_mem {discounts : List BundleDiscount} {discount : BundleDiscount}
    (advertises : Advertises bundleKey discounts discount) : discount ∈ discounts := by
  rcases advertises with ⟨_,before,after,rfl,_⟩ | ⟨_,_,member,_⟩
  · simp
  · exact member

theorem advertised_some (cartDiscount : CartDiscount) (offer : ProgramOffer) :
    (advertised cartDiscount).map some = .ok (some offer) ↔ advertised cartDiscount = .ok offer := by
  cases advertised cartDiscount <;> simp [Except.map]

theorem default_found (discounts : List BundleDiscount) (distinct : (discounts.map BundleDiscount.key).Nodup)
    (discount : BundleDiscount) (isDefault : discount.isDefault) (member : discount ∈ discounts)
    (passed : ∀ other ∈ discounts, other.Passed bundleKey) :
    findOffer bundleKey (discounts.map BundleDiscount.cartDiscount) none = (none,some discount.cartDiscount) := by
  obtain ⟨before,after,rfl⟩ := List.append_of_mem member
  obtain ⟨met,looped⟩ := findOffer_passed bundleKey before ((discount :: after).map BundleDiscount.cartDiscount)
    (fun other member => passed other (by simp [member])) none
  rw [List.map_append,looped,List.map_cons,findOffer_step,if_pos isDefault]
  refine findOffer_kept bundleKey after (fun other member => passed other (by simp [member])) (fun other member otherDefault => ?_) _
  -- the default has its key for itself
  rw [List.map_append,List.map_cons,List.nodup_middle] at distinct
  refine (List.nodup_cons.mp distinct).1 (List.mem_append_right _ (List.mem_map.mpr ⟨other,member,?_⟩))
  exact otherDefault.trans isDefault.symm

theorem offer_iff (discounts : List BundleDiscount) (distinct : (discounts.map BundleDiscount.key).Nodup)
    (offer : ProgramOffer) : getProgramOffer (discounts.map BundleDiscount.cartDiscount) bundleKey = .ok (some offer) ↔
      ∃ discount, Advertises bundleKey discounts discount ∧ advertised discount.cartDiscount = .ok offer := by
  constructor
  · intro returned
    unfold getProgramOffer at returned
    split at returned
    · next found met looped =>
      obtain ⟨discount,named,rfl⟩ := findOffer_some bundleKey discounts none met found looped
      exact ⟨discount,.inl named,(advertised_some _ offer).mp returned⟩
    · next met looped =>
      obtain ⟨passed,never | ⟨discount,member,isDefault,same⟩⟩ := findOffer_none bundleKey discounts none _ looped
      · cases never
      · cases same
        simp only [names_iff] at returned
        split at returned
        · cases returned
        · next unnamed => exact ⟨discount,.inr ⟨isDefault,unnamed,member,passed⟩,(advertised_some _ offer).mp returned⟩
    · cases returned
  · rintro ⟨discount,⟨notPassed,before,after,rfl,others⟩ | ⟨isDefault,unnamed,member,passed⟩,read⟩
    · obtain ⟨notDefault,named⟩ := not_or.mp notPassed
      obtain ⟨met,looped⟩ := findOffer_passed bundleKey before ((discount :: after).map BundleDiscount.cartDiscount) others none
      have found : findOffer bundleKey ((before ++ discount :: after).map BundleDiscount.cartDiscount) none =
          (some discount.cartDiscount,met) := by
        rw [List.map_append,looped,List.map_cons,findOffer_step,if_neg notDefault,if_pos (not_not.mp named)]
      simpa only [getProgramOffer,found] using (advertised_some _ offer).mpr read
    · simp only [getProgramOffer,default_found discounts distinct discount isDefault member passed,names_iff,if_neg unnamed]
      exact (advertised_some _ offer).mpr read

end

def OfferApplies [Zero N] [One N] [BEq N] [LT N] [LE N] [DecidableLT N] [DecidableLE N] (float : String → N)
    (discounts : List BundleDiscount) (bundleKey : String) : Prop :=
  ∀ offer, getProgramOffer (discounts.map BundleDiscount.cartDiscount) bundleKey = .ok (some offer) →
    ∀ discount ∈ discounts, discount.key = offer.key → ∀ context : Object N,
      getPath context "custom.bundleId" = .ok (.text bundleKey) →
        Evaluates float discount.predicate.text context (.ok (.bool true))

def bundleContext (bundleKey : String) : Object N := .dict [("custom",.dict [("bundleId",.text bundleKey)])]

theorem bundle_found (bundleKey : String) : getPath (bundleContext bundleKey : Object N) "custom.bundleId" = .ok (.text bundleKey) := by
  have steps : ("custom.bundleId".toList.splitOn '.').map String.ofList = ["custom","bundleId"] := by decide +kernel
  rw [getPath,steps]
  rfl

theorem offer_applies_iff [Zero N] [One N] [BEq N] [LT N] [LE N] [DecidableLT N] [DecidableLE N] (float : String → N)
    (discounts : List BundleDiscount) (distinct : (discounts.map BundleDiscount.key).Nodup) (bundleKey : String) :
    OfferApplies float discounts bundleKey ↔ ∀ discount, Advertises bundleKey discounts discount → discount.Readable →
      ∃ clause ∈ discount.predicate.clauses, clause.Admits bundleKey := by
  simp only [← holds_iff_admitted]
  constructor
  · intro applies discount advertises readable
    obtain ⟨offer,read⟩ := (advertised_returns discount).mpr readable
    have returned := (offer_iff discounts distinct offer).mpr ⟨discount,advertises,read⟩
    have evaluated := applies offer returned discount (advertises_mem advertises) (advertised_key read).symm
      (bundleContext bundleKey) (bundle_found bundleKey)
    exact (combination_evaluates _ bundleKey (bundle_found bundleKey) _).mp evaluated
  · intro holds offer returned discount member same context found
    obtain ⟨chosen,advertises,read⟩ := (offer_iff discounts distinct offer).mp returned
    cases List.inj_on_of_nodup_map distinct (advertises_mem advertises) member ((advertised_key read).symm.trans same.symm)
    exact (combination_evaluates context bundleKey found _).mpr
      (holds discount advertises ((advertised_returns discount).mp ⟨offer,read⟩))

def bundle123 : BundleId := ⟨"bundle-key-123",by decide,by decide⟩

def offer15 : BundleDiscount :=
  ⟨some "BUNDLE_15_OFF",.and .isDefined (.parentheses (.equals bundle123)),some ⟨some "absolute",some [some 1500],none⟩⟩

def defaultOffer : BundleDiscount := ⟨some DEFAULT_BUNDLE_DISCOUNT_KEY,.and .isDefined (.parentheses (.differs bundle123)),
  some ⟨some "relative",none,some 1000⟩⟩

def allButBundle : BundleDiscount := ⟨some "ALL_BUT_BUNDLE",.differs bundle123,some ⟨some "relative",none,some 2000⟩⟩

theorem offer15_advertised : OfferApplies readOne [offer15,defaultOffer] "bundle-key-123" := by
  refine (offer_applies_iff readOne [offer15,defaultOffer] (by decide) "bundle-key-123").mpr ?_
  intro discount advertises _
  have unpassed : ¬ offer15.Passed "bundle-key-123" := not_or.mpr (by decide)
  rcases List.mem_pair.mp (advertises_mem advertises) with rfl | rfl
  · exact (holds_iff_admitted _ _).mp (by decide)
  · rcases advertises with ⟨notPassed,_⟩ | ⟨_,_,_,passed⟩
    · exact absurd (.inl rfl) notPassed
    · exact absurd (passed offer15 (by simp)) unpassed

theorem excluded_bundle_advertised : ([allButBundle].map BundleDiscount.key).Nodup ∧
    allButBundle.cartDiscount.cartPredicate = some "custom.bundleId != \"bundle-key-123\"" ∧
    getProgramOffer ([allButBundle].map BundleDiscount.cartDiscount) "bundle-key-123" =
      .ok (some ⟨2000,some "relative",some "ALL_BUT_BUNDLE"⟩) ∧ ¬ OfferApplies readOne [allButBundle] "bundle-key-123" := by
  have returned : getProgramOffer ([allButBundle].map BundleDiscount.cartDiscount) "bundle-key-123" =
      .ok (some ⟨2000,some "relative",some "ALL_BUT_BUNDLE"⟩) := by decide +kernel
  refine ⟨by decide,by decide +kernel,returned,fun applies => ?_⟩
  have evaluated := applies _ returned allButBundle (by simp) rfl (bundleContext "bundle-key-123") (bundle_found _)
  rw [combination_evaluates _ _ (bundle_found _)] at evaluated
  revert evaluated
  decide

end ProgramOffers
