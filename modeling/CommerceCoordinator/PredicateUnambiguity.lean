import CommerceCoordinator.LarkUnambiguity
import CommerceCoordinator.PredicateGrammar

-- Every text has at most one derivation in the grammar of predicates.
namespace CartPredicateParser
open Lark

def texts : Symbol Terminal → Option (List String)
  | .literal text => some [text]
  | .terminal .OP => some operators
  | .terminal .NOT => some ["not"]
  | _ => none

def numberLead (char : Char) : Bool := isSign char || char.isDigit || char == '.'

def leads : Symbol Terminal → Char → Bool
  | .terminal .CNAME => nameStart
  | .terminal .ESCAPED_STRING => (· == '"')
  | .terminal .SIGNED_NUMBER => numberLead
  | .terminal .backtickText => (· != '\x60')
  | _ => fun _ => true

theorem recognized_text (symbol : Symbol Terminal) (few : List String) (found : texts symbol = some few) (lexeme : List Char)
    (recognized : grammar.recognizes symbol lexeme = true) : ∃ text ∈ few, lexeme = text.toList := by
  cases symbol with
  | literal text =>
    cases found
    exact ⟨text,by simp,by simpa [Grammar.recognizes] using recognized⟩
  | terminal name =>
    cases name <;> cases found
    · obtain ⟨operator,member,same⟩ := List.any_eq_true.mp recognized
      exact ⟨operator,member,by simpa using same⟩
    · exact ⟨"not",by simp,by simpa [Grammar.recognizes,grammar,accepts] using recognized⟩

theorem decimal_char (text : List Char) (accepted : DECIMAL text = true) :
    ∀ char ∈ text, char.isDigit = true ∨ char = '.' := by
  simp only [DECIMAL] at accepted
  split at accepted
  · next fraction remaining =>
    have digits := (Bool.and_eq_true_iff.mp accepted).1
    intro char member
    rw [← List.takeWhile_append_dropWhile (p := Char.isDigit) (l := text),remaining] at member
    rcases List.mem_append.mp member with whole | rest
    · exact .inl (List.all_eq_true.mp List.all_takeWhile char whole)
    · rcases List.mem_cons.mp rest with rfl | later
      · exact .inr rfl
      · exact .inl (List.all_eq_true.mp digits char later)
  · cases accepted

theorem int_char (text : List Char) (accepted : INT text = true) : ∀ char ∈ text, char.isDigit = true :=
  List.all_eq_true.mp (Bool.and_eq_true_iff.mp accepted).2

theorem mantissa_char (text : List Char) (accepted : (INT text || DECIMAL text) = true) :
    ∀ char ∈ text, char.isDigit = true ∨ char = '.' := by
  intro char member
  rcases Bool.or_eq_true_iff.mp accepted with whole | decimal
  · exact .inl (int_char text whole char member)
  · exact decimal_char text decimal char member

theorem number_mantissa (text : List Char) (accepted : NUMBER text = true) :
    let mantissa := text.takeWhile fun char => !isExponentMark char
    (INT mantissa || DECIMAL mantissa) = true := by
  simp only [NUMBER] at accepted
  split at accepted
  · exact accepted
  · exact (Bool.and_eq_true_iff.mp accepted).1

theorem number_lead (text : List Char) (accepted : SIGNED_NUMBER text = true) :
    ∃ char rest, text = char :: rest ∧ numberLead char = true := by
  cases text with
  | nil => cases accepted
  | cons char rest =>
    refine ⟨char,rest,rfl,?_⟩
    by_cases sign : isSign char = true
    · simp [numberLead,sign]
    · have unsigned : NUMBER (char :: rest) = true := by simpa [SIGNED_NUMBER,unsigned,sign] using accepted
      have mantissa := number_mantissa _ unsigned
      by_cases mark : isExponentMark char = true
      · simp [mark,INT,DECIMAL] at mantissa
      · rw [List.takeWhile_cons_of_pos (by simpa using mark)] at mantissa
        rcases mantissa_char _ mantissa char (by simp) with digit | rfl
        · simp [numberLead,digit]
        · rfl

theorem recognized_lead (symbol : Symbol Terminal) (many : texts symbol = none) (lexeme : List Char)
    (recognized : grammar.recognizes symbol lexeme = true) : ∃ char rest, lexeme = char :: rest ∧ leads symbol char = true := by
  cases symbol with
  | literal text => cases many
  | terminal name =>
    cases name with
    | CNAME =>
      cases lexeme with
      | nil => cases recognized
      | cons char rest => exact ⟨char,rest,rfl,(Bool.and_eq_true_iff.mp recognized).1⟩
    | ESCAPED_STRING =>
      simp only [Grammar.recognizes,grammar,accepts] at recognized
      unfold ESCAPED_STRING at recognized
      split at recognized
      · exact ⟨_,_,rfl,rfl⟩
      · cases recognized
    | SIGNED_NUMBER => exact number_lead lexeme recognized
    | backtickText =>
      cases lexeme with
      | nil => cases recognized
      | cons char rest =>
        simp only [Grammar.recognizes,grammar,accepts,List.all_cons,Bool.and_eq_true] at recognized
        exact ⟨char,rest,rfl,recognized.2.1⟩
    | OP => cases many
    | NOT => cases many

def prefixFree (few others : List String) : Bool :=
  few.all fun text => others.all fun other =>
    !text.toList.isPrefixOf other.toList && !other.toList.isPrefixOf text.toList

def unlike (few : List String) (symbol : Symbol Terminal) : Bool :=
  few.all fun text => match text.toList with | char :: _ => !leads symbol char | [] => false

def disjoint : Symbol Terminal → Symbol Terminal → Bool
  | .terminal .ESCAPED_STRING,.terminal .SIGNED_NUMBER | .terminal .SIGNED_NUMBER,.terminal .ESCAPED_STRING => true
  | .terminal .ESCAPED_STRING,.terminal .CNAME | .terminal .CNAME,.terminal .ESCAPED_STRING => true
  | .terminal .SIGNED_NUMBER,.terminal .CNAME | .terminal .CNAME,.terminal .SIGNED_NUMBER => true
  | _,_ => false

def apart (left right : Symbol Terminal) : Bool :=
  match texts left,texts right with
  | some few,some others => prefixFree few others
  | some few,none => unlike few right
  | none,some few => unlike few left
  | none,none => disjoint left right

theorem numberLead_not_nameStart (char : Char) (number : numberLead char = true) : nameStart char = false := by
  simp only [numberLead,isSign,Bool.or_eq_true,beq_iff_eq] at number
  rcases number with ((rfl | rfl) | digit) | rfl
  · rfl
  · rfl
  · have bounds : 48 ≤ char.val.toNat ∧ char.val.toNat ≤ 57 := by
      simpa [Char.isDigit,UInt32.le_iff_toNat_le] using digit
    have letter : ¬ char.isAlpha = true := by
      delta Char.isAlpha Char.isUpper Char.isLower
      simp only [Bool.or_eq_true,Bool.and_eq_true,decide_eq_true_eq,ge_iff_le,UInt32.le_iff_toNat_le]
      have upper : 'A'.val.toNat = 65 := rfl
      have lower : 'a'.val.toNat = 97 := rfl
      omega
    have underscore : char ≠ '_' := by
      rintro rfl
      cases digit
    simp [nameStart,letter,underscore]
  · rfl

theorem disjoint_leads (left right : Symbol Terminal) (differ : disjoint left right = true) (char : Char)
    (lead : leads left char = true) : leads right char = false := by
  unfold disjoint at differ
  split at differ
  · cases beq_iff_eq.mp lead; rfl
  · refine Bool.eq_false_iff.mpr fun quote => ?_
    cases beq_iff_eq.mp quote
    cases lead
  · cases beq_iff_eq.mp lead; rfl
  · refine Bool.eq_false_iff.mpr fun quote => ?_
    cases beq_iff_eq.mp quote
    cases lead
  · exact numberLead_not_nameStart char lead
  · refine Bool.eq_false_iff.mpr fun number => ?_
    have never := numberLead_not_nameStart char number
    simp only [leads] at lead
    rw [lead] at never
    cases never
  · cases differ

theorem unlike_exclusive (few : List String) (symbol : Symbol Terminal) (many : texts symbol = none)
    (differ : unlike few symbol = true) (text : String) (member : text ∈ few) (lexeme rest rest' : List Char)
    (recognized : grammar.recognizes symbol lexeme = true) : text.toList ++ rest ≠ lexeme ++ rest' := by
  intro same
  obtain ⟨char,tail,rfl,lead⟩ := recognized_lead symbol many lexeme recognized
  have each := List.all_eq_true.mp differ text member
  cases begins : text.toList with
  | nil => rw [begins] at each; cases each
  | cons first more =>
    rw [begins] at each same
    obtain ⟨rfl,_⟩ := List.cons.inj same
    simp [lead] at each

theorem apart_exclusive (left right : Symbol Terminal) (differ : apart left right = true) (lexeme lexeme' rest rest' : List Char)
    (recognized : grammar.recognizes left lexeme = true) (recognized' : grammar.recognizes right lexeme' = true) :
    lexeme ++ rest ≠ lexeme' ++ rest' := by
  unfold apart at differ
  cases found : texts left with
  | some few =>
    obtain ⟨text,member,rfl⟩ := recognized_text left few found lexeme recognized
    cases found' : texts right with
    | some others =>
      obtain ⟨other,member',rfl⟩ := recognized_text right others found' lexeme' recognized'
      intro same
      simp only [found,found'] at differ
      have free := List.all_eq_true.mp (List.all_eq_true.mp differ text member) other member'
      simp only [Bool.and_eq_true,Bool.not_eq_true',← Bool.not_eq_true,List.isPrefixOf_iff_prefix] at free
      rcases List.prefix_or_prefix_of_prefix ⟨rest,same⟩ ⟨rest',rfl⟩ with shorter | longer
      · exact free.1 shorter
      · exact free.2 longer
    | none =>
      simp only [found,found'] at differ
      exact unlike_exclusive few right found' differ text member lexeme' rest rest' recognized'
  | none =>
    cases found' : texts right with
    | some few =>
      obtain ⟨text,member,rfl⟩ := recognized_text right few found' lexeme' recognized'
      simp only [found,found'] at differ
      exact (unlike_exclusive few left found differ text member lexeme rest' rest recognized).symm
    | none =>
      intro same
      obtain ⟨char,tail,rfl,lead⟩ := recognized_lead left found lexeme recognized
      obtain ⟨char',tail',rfl,lead'⟩ := recognized_lead right found' lexeme' recognized'
      obtain ⟨rfl,_⟩ := List.cons.inj same
      simp only [found,found'] at differ
      rw [disjoint_leads left right differ char lead] at lead'
      cases lead'

theorem exclude_of_apart (left right : List (Symbol Terminal)) (differ : (left.all fun s => right.all (apart s)) = true) :
    grammar.Exclude left right := by
  rintro text ⟨symbol,member,lexeme,rest,read⟩ other member'
  cases read' : grammar.read other text with
  | none => rfl
  | some found =>
    obtain ⟨lexeme',rest'⟩ := found
    obtain ⟨split,recognized⟩ := scan_splits _ _ _ _ read
    obtain ⟨split',recognized'⟩ := scan_splits _ _ _ _ read'
    have free := List.all_eq_true.mp (List.all_eq_true.mp differ symbol member) other member'
    exact (apart_exclusive symbol other free lexeme lexeme' rest rest' recognized recognized' (split.symm.trans split')).elim

def ruleFirsts : Rule → List (Symbol Terminal)
  | .start | .expr | .term | .factor | .args => [.literal "(",.terminal .CNAME]
  | .comparison | .field | .dottedName | .functionCall => [.terminal .CNAME]
  | .backtickName => [.literal "`"]
  | .list => [.literal "("]
  | .value => [.terminal .ESCAPED_STRING,.terminal .SIGNED_NUMBER,.terminal .CNAME]
  | .orExpr | .andExpr | .inExpr | .isDefinedExpr => []

theorem firsts_closed : grammar.FirstsClosed ruleFirsts := by
  intro name index alternative found
  cases name <;> rcases index with _ | _ | _ | index <;> cases found <;>
    exact ⟨rfl,by simp [Pattern.firsts,Pattern.nullable,ruleFirsts]⟩

section
variable {bound : Nat} {blocked : List (Symbol Terminal)}

theorem agree_value : Agree grammar (.rule .value) bound blocked := by
  refine agree_only Rule.value _ rfl (agree_alt firsts_closed (agree_terminal _) ?_ rfl rfl ?_)
  · refine agree_alt firsts_closed (agree_terminal _) (agree_terminal _) rfl rfl ?_
    exact exclude_of_apart _ _ (by decide)
  · exact exclude_of_apart _ _ (by decide)

theorem agree_backtickName : Agree grammar (.rule .backtickName) bound blocked := by
  refine agree_only Rule.backtickName _ rfl ?_
  exact agree_then firsts_closed (agree_literal _) (agree_then firsts_closed (agree_terminal _) (agree_literal _))

theorem agree_dottedName (within : Symbol.literal "." ∈ blocked) : Agree grammar (.rule .dottedName) bound blocked := by
  refine agree_only Rule.dottedName _ rfl ?_
  refine agree_separated [] firsts_closed (agree_terminal _) ?_ exclude_nil (List.nil_subset _) within
  refine agree_alt firsts_closed (agree_terminal _) agree_backtickName rfl rfl ?_
  exact exclude_of_apart _ _ (by decide)

theorem agree_list : Agree grammar (.rule .list) bound blocked := by
  refine agree_only Rule.list _ rfl ?_
  refine agree_then firsts_closed (agree_literal _) ?_
  refine agree_seq (.literal "," :: ruleFirsts .value) firsts_closed ?_ (agree_literal _) ?_ (fun never => by cases never)
  · refine agree_maybe firsts_closed ?_ rfl ?_
    · exact agree_separated [] firsts_closed agree_value agree_value exclude_nil (List.nil_subset _) (by simp)
    · simp [Pattern.firsts,Pattern.nullable]
  · exact exclude_of_apart _ _ (by decide)

def connectives : List (Symbol Terminal) := [.literal "or",.literal "and"]

theorem agree_args (agree : Agree grammar (.rule .expr) bound connectives) :
    Agree grammar (.rule .args) bound (.literal "," :: connectives) := by
  refine agree_only Rule.args _ rfl ?_
  exact agree_separated connectives firsts_closed agree agree (exclude_of_apart _ _ (by decide)) (List.subset_cons_self _ _) (by simp)

theorem agree_functionCall (agree : Agree grammar (.rule .expr) bound connectives) :
    Agree grammar (.rule .functionCall) (bound + 1) blocked := by
  refine agree_only Rule.functionCall _ rfl ?_
  refine agree_then firsts_closed (agree_terminal _) ?_
  refine agree_after "(" '(' [] rfl ?_
  refine agree_seq (.literal "," :: connectives ++ ruleFirsts .args) firsts_closed ?_ (agree_literal _) ?_
    (fun never => by cases never)
  · refine agree_opt firsts_closed (agree_mono (agree_args agree) ?_) rfl ?_
    · exact List.subset_append_left _ _
    · exact List.subset_append_right _ _
  · exact exclude_of_apart _ _ (by decide)

-- After its name a call goes on with a parenthesis, which a dotted name cannot.
theorem call_not_dotted {call dotted : List (Tree Terminal Rule)} {text rest rest' : List Char}
    (found : Matches grammar (.rule .functionCall) call) (found' : Matches grammar (.rule .dottedName) dotted)
    (spelled : grammar.spell (Tree.words call) text = some rest)
    (spelled' : grammar.spell (Tree.words dotted) text = some rest')
    (stopped : grammar.Stopped [.literal "(",.literal "."] rest') : False := by
  obtain ⟨index,one,children,present,body,rfl⟩ := matches_rule.mp found
  obtain ⟨index',other,children',present',body',rfl⟩ := matches_rule.mp found'
  rcases index with _ | index <;> cases present
  rcases index' with _ | index' <;> cases present'
  obtain ⟨name,foundName,called,foundCalled,rfl⟩ := matches_seq.mp body
  obtain ⟨name',foundName',dots,foundDots,rfl⟩ := matches_seq.mp body'
  simp only [Tree.words,Tree.word,List.append_nil,words_append,spell_append] at spelled spelled'
  obtain ⟨middle,spelledName,spelledCalled⟩ := Option.bind_eq_some_iff.mp spelled
  obtain ⟨middle',spelledName',spelledDots⟩ := Option.bind_eq_some_iff.mp spelled'
  have cname : Agree grammar (.terminal .CNAME) (text.length + 1) [] := agree_terminal Terminal.CNAME
  obtain ⟨rfl,rfl⟩ := cname name name' text middle middle' (Nat.lt_succ_self _)
    foundName foundName' spelledName spelledName' (by intro _ never; cases never) (by intro _ never; cases never)
  have parenthesis : grammar.Begins [.literal "("] middle := matched_begins firsts_closed rfl foundCalled spelledCalled
  rcases matches_begins firsts_closed foundDots middle rest' spelledDots with begins | ⟨_,empty⟩
  · exact begins_not_stopped parenthesis (exclude_of_apart [.literal "."] _ (by decide) middle begins)
  · rw [empty] at spelledDots
    cases spelledDots
    exact begins_not_stopped parenthesis (stopped_mono stopped (by simp))

theorem agree_field (agree : Agree grammar (.rule .expr) bound connectives) :
    Agree grammar (.rule .field) (bound + 1) [.literal "(",.literal "."] := by
  refine agree_only Rule.field _ rfl ?_
  intro trees trees' text rest rest' short found found' spelled spelled' stopped stopped'
  rcases matches_alt.mp found with body | body <;> rcases matches_alt.mp found' with body' | body'
  · exact agree_functionCall agree trees trees' text rest rest' short body body' spelled spelled' stopped stopped'
  · exact (call_not_dotted body body' spelled spelled' stopped').elim
  · exact (call_not_dotted body' body spelled' spelled stopped).elim
  · exact agree_dottedName (by simp) trees trees' text rest rest' short body body' spelled spelled' stopped stopped'

def comparisonTail : Nat → Pattern Terminal Rule
  | 0 => .seq (.terminal .OP) (.rule .value)
  | 1 => .seq (.opt (.terminal .NOT)) (.seq (.literal "in") (.rule .list))
  | _ => .seq (.literal "is") (.seq (.opt (.terminal .NOT)) (.literal "defined"))

theorem agree_comparisonTail (index : Nat) : Agree grammar (comparisonTail index) bound blocked := by
  match index with
  | 0 => exact agree_then firsts_closed (agree_terminal _) agree_value
  | 1 =>
    refine agree_seq [.terminal .NOT] firsts_closed (agree_opt firsts_closed (agree_terminal _) rfl ?_) ?_ ?_
      (fun never => by cases never)
    · simp [Pattern.firsts]
    · exact agree_then firsts_closed (agree_literal _) agree_list
    · exact exclude_of_apart _ _ (by decide)
  | _ + 2 =>
    refine agree_then firsts_closed (agree_literal _) ?_
    refine agree_seq [.terminal .NOT] firsts_closed (agree_opt firsts_closed (agree_terminal _) rfl ?_)
      (agree_literal _) ?_ (fun never => by cases never)
    · simp [Pattern.firsts]
    · exact exclude_of_apart _ _ (by decide)

theorem agree_comparison (agree : Agree grammar (.rule .expr) bound connectives) :
    Agree grammar (.rule .comparison) (bound + 1) blocked := by
  refine agree_shared firsts_closed Rule.comparison (.rule .field) comparisonTail (agree_field agree) ?_ ?_
  · intro index alternative found
    rcases index with _ | _ | _ | index <;> cases found <;>
      exact ⟨rfl,rfl,agree_comparisonTail _,exclude_of_apart _ _ (by decide)⟩
  · intro index index' before last
    have last : index' < 3 := last
    have pairs : (index = 0 ∧ index' = 1) ∨ (index = 0 ∧ index' = 2) ∨ (index = 1 ∧ index' = 2) := by omega
    rcases pairs with ⟨rfl,rfl⟩ | ⟨rfl,rfl⟩ | ⟨rfl,rfl⟩ <;> exact exclude_of_apart _ _ (by decide)

theorem agree_factor (agree : Agree grammar (.rule .expr) bound connectives) :
    Agree grammar (.rule .factor) (bound + 1) blocked := by
  refine agree_rule firsts_closed Rule.factor ?_ ?_
  · intro index alternative found
    rcases index with _ | _ | index <;> cases found
    · refine agree_after "(" '(' [] rfl ?_
      exact agree_seq connectives firsts_closed agree (agree_literal _) (exclude_of_apart _ _ (by decide)) (fun never => by cases never)
    · exact agree_comparison agree
  · intro index index' one other before found found'
    rcases index with _ | _ | index <;> rcases index' with _ | _ | index' <;> cases found <;> cases found'
    · exact absurd before (by omega)
    · exact exclude_of_apart _ _ (by decide)
    · exact absurd before (by omega)
    · exact absurd before (by omega)

theorem agree_expr (bound : Nat) : Agree grammar (.rule .expr) bound connectives := by
  induction bound with
  | zero =>
    intro trees trees' text rest rest' short
    cases short
  | succ bound ih =>
    have term : Agree grammar (.rule .term) (bound + 1) [.literal "and"] :=
      agree_left_recursive [] firsts_closed ⟨_,_,rfl⟩ (agree_factor ih) exclude_nil (List.nil_subset _) (by simp)
    exact agree_left_recursive [.literal "and"] firsts_closed ⟨_,_,rfl⟩ term (exclude_of_apart _ _ (by decide)) (by simp [connectives])
      (by simp [connectives])

theorem predicate_unambiguous (text : List Char) (tree tree' : Tree Terminal Rule)
    (derived : grammar.Derives .start text tree) (derived' : grammar.Derives .start text tree') : tree = tree' := by
  refine derivation_unique text (fun bound => agree_only Rule.start _ rfl (agree_expr bound)) ?_ derived derived'
  intro rest ended symbol member
  rw [Grammar.read,ended]
  simp only [connectives,List.mem_cons,List.not_mem_nil,or_false] at member
  rcases member with rfl | rfl <;> rfl

end

end CartPredicateParser
