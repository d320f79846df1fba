import CommerceCoordinator.PredicateTexts
import CommerceCoordinator.QuotedText

-- What a literal stands for: `in` against the comparisons it abbreviates, and a string
-- literal against the string that it is written for.
namespace CartPredicateParser
open Lark
open Commercetools (Exn)
open QuotedText (escape isSpecial escape_iff escape_marked)

def escaped (s : String) : String := String.ofList (escape s.toList)

def quoted (s : String) : String := "\"" ++ escaped s ++ "\""

theorem quoted_toList (s : String) : (quoted s).toList = '"' :: (escape s.toList ++ ['"']) := by
  simp [quoted,escaped]

theorem escaped_accepted (chars : List Char) (oneLine : '\n' ∉ chars) : stringTail (escape chars ++ ['"']) = true := by
  induction chars with
  | nil => rfl
  | cons char rest ih =>
    obtain ⟨line,others⟩ : '\n' ≠ char ∧ '\n' ∉ rest := by simpa using oneLine
    by_cases special : char = '"' ∨ char = '\\'
    · have text : escape (char :: rest) ++ ['"'] = '\\' :: char :: (escape rest ++ ['"']) := by
        simp [escape,isSpecial,special]
      rw [text,stringTail,ih others]
      simpa using Ne.symm line
    · obtain ⟨quote,backslash⟩ := not_or.mp special
      have text : escape (char :: rest) ++ ['"'] = char :: (escape rest ++ ['"']) := by
        simp [escape,isSpecial,special]
      rw [text,stringTail.eq_4 _ _ (by simpa using quote) (by simp [backslash]),ih others]
      simpa using Ne.symm line

-- No token starts inside a string that is broken by the end of a line.
theorem accepted_prefix (chars part rest : List Char) (split : escape chars ++ ['"'] = part ++ rest)
    (accepted : stringTail part = true) : '\n' ∉ chars := by
  induction chars generalizing part with
  | nil => simp
  | cons char others ih =>
    by_cases special : char = '"' ∨ char = '\\'
    · have text : escape (char :: others) ++ ['"'] = '\\' :: char :: (escape others ++ ['"']) := by
        simp [escape,isSpecial,special]
      rw [text] at split
      rcases part with _ | ⟨first,_ | ⟨second,part⟩⟩
      · cases accepted
      · cases split
        cases accepted
      · simp only [List.cons_append,List.cons.injEq] at split
        obtain ⟨rfl,rfl,split⟩ := split
        obtain ⟨line,tail⟩ := Bool.and_eq_true_iff.mp accepted
        simp [ih part split tail,Ne.symm (bne_iff_ne.mp line)]
    · obtain ⟨quote,backslash⟩ := not_or.mp special
      have text : escape (char :: others) ++ ['"'] = char :: (escape others ++ ['"']) := by
        simp [escape,isSpecial,special]
      rw [text] at split
      rcases part with _ | ⟨first,part⟩
      · cases accepted
      · simp only [List.cons_append,List.cons.injEq] at split
        obtain ⟨rfl,split⟩ := split
        rw [stringTail.eq_4 _ _ (by simpa using quote) (by simp [backslash])] at accepted
        obtain ⟨line,tail⟩ := Bool.and_eq_true_iff.mp accepted
        simp [ih part split tail,Ne.symm (bne_iff_ne.mp line)]

def stringLiteral (s : String) (oneLine : '\n' ∉ s.toList) : Literal :=
  ⟨.string,quoted s,by
    rw [quoted_toList]
    exact escaped_accepted s.toList oneLine⟩

theorem stringLiteral_value (float : String → N) (s : String) (oneLine : '\n' ∉ s.toList) :
    (stringLiteral s oneLine).value float = .text (escaped s) := by
  simp [Literal.value,stringLiteral,quoted_toList,escaped]

theorem broken_string_unread (s : String) (broken : '\n' ∈ s.toList) :
    ¬ grammar.Begins (ruleFirsts .value) (' ' :: (quoted s).toList) := by
  rintro ⟨symbol,member,lexeme,rest,read⟩
  have skipped : (' ' :: (quoted s).toList).dropWhile isSpace = (quoted s).toList := by
    rw [quoted_toList]
    rfl
  obtain ⟨split,recognized⟩ := scan_splits _ _ _ _ read
  change (' ' :: (quoted s).toList).dropWhile isSpace = lexeme ++ rest at split
  rw [skipped,quoted_toList] at split
  rcases List.append_eq_cons_iff.mp split.symm with ⟨rfl,_⟩ | ⟨part,rfl,inner⟩
  · simp only [ruleFirsts,List.mem_cons,List.not_mem_nil,or_false] at member
    rcases member with rfl | rfl | rfl <;> cases recognized
  · simp only [ruleFirsts,List.mem_cons,List.not_mem_nil,or_false] at member
    rcases member with rfl | rfl | rfl
    · exact accepted_prefix s.toList part rest inner recognized broken
    · obtain ⟨_,_,same,lead⟩ := recognized_lead (.terminal .SIGNED_NUMBER) rfl ('"' :: part) recognized
      cases same
      cases lead
    · obtain ⟨_,_,same,lead⟩ := recognized_lead (.terminal .CNAME) rfl ('"' :: part) recognized
      cases same
      cases lead

def Plain (s : String) : Prop := (∀ char ∈ s.toList, char ≠ '"' ∧ char ≠ '\\') ∧ s ≠ "true" ∧ s ≠ "false"

theorem plain_iff (s : String) : Plain s ↔ escaped s = s ∧ s ≠ "true" ∧ s ≠ "false" := by
  have plain : (∀ char ∈ s.toList, char ≠ '"' ∧ char ≠ '\\') ↔ escape s.toList = s.toList := by
    rw [escape_iff]
    simp [QuotedText.Plain,isSpecial]
  rw [Plain,plain,escaped]
  refine and_congr_left fun _ => ?_
  rw [← String.toList_inj,String.toList_ofList]

theorem escaped_word (s word : String) (plain : '\\' ∉ word.toList) (same : escaped s = word) : s = word := by
  by_cases itself : escape s.toList = s.toList
  · rw [← same,escaped,itself,String.ofList_toList]
  · refine absurd (escape_marked itself) ?_
    rwa [← same,escaped,String.toList_ofList] at plain

theorem read_as_itself (s d : String) : ((d = escaped s ∧ escaped s ≠ "true" ∧ escaped s ≠ "false") ↔ d = s) ↔
    Plain s ∨ d ≠ s ∧ d ≠ escaped s := by
  rw [plain_iff]
  by_cases same : escaped s = s
  · by_cases itself : d = s <;> simp [same,itself]
  · have notTrue : escaped s ≠ "true" := fun word => same (escaped_word s "true" (by decide) word ▸ word)
    have notFalse : escaped s ≠ "false" := by
      intro word
      have itself : s = "false" := escaped_word s "false" (by decide) word
      exact same (word.trans itself.symm)
    simp only [same,notTrue,notFalse,ne_eq,not_false_eq_true,and_true,false_and,false_or]
    constructor
    · intro agrees
      constructor
      · exact fun itself => same ((agrees.mpr itself).symm.trans itself)
      · exact fun text => same (text.symm.trans (agrees.mp text))
    · rintro ⟨notItself,notText⟩
      exact ⟨fun text => absurd text notText,fun itself => absurd itself notItself⟩

section
variable [Zero N] [One N]

-- The texts that a comparison takes for a number, quoted or not.
def Value.isTruthWord : Value N → Bool
  | .text written => written == "true" || written == "false"
  | _ => false

theorem normalize_other (value : Value N) (other : value.isTruthWord = false) : normalizeExpected value = value := by
  cases value with
  | text written =>
    obtain ⟨notTrue,notFalse⟩ : written ≠ "true" ∧ written ≠ "false" := by simpa [Value.isTruthWord] using other
    simp [normalizeExpected,notTrue,notFalse]
  | _ => rfl

theorem normalize_word (value : Value N) (word : value.isTruthWord = true) :
    ∃ number, normalizeExpected value = .number number := by
  cases value with
  | text written =>
    by_cases isTrue : written = "true"
    · exact ⟨1,by simp [normalizeExpected,isTrue]⟩
    · have isFalse : written = "false" := by simpa [Value.isTruthWord,isTrue] using word
      exact ⟨0,by simp [normalizeExpected,isFalse]⟩
  | _ => cases word

variable [BEq N]

theorem equals_apart (datum : Object N) (word word' : Value N) (first : word.isTruthWord = true)
    (second : word'.isTruthWord = true) (equal : datum.equals word = true) :
    datum.equals (normalizeExpected word') = false := by
  obtain ⟨number,normalized⟩ := normalize_word word' second
  cases word with
  | text written =>
    cases datum with
    | text value => rw [normalized]; rfl
    | _ => cases equal
  | _ => cases first

-- A literal `true` or `false` that a datum equals, as a text or as the number, is not
-- what decides. An empty list asks for `None`.
structure WordsDecideNothing (datum : Object N) (values : List (Value N)) : Prop where
  empty : values = [] → datum.equals .absent = false
  words : ∀ word ∈ values, word.isTruthWord = true →
    datum.equals word = true ∨ datum.equals (normalizeExpected word) = true →
      ∃ other ∈ values, other.isTruthWord = false ∧ datum.equals other = true

theorem membership_agrees (datum : Object N) (values : List (Value N)) :
    ((listed values).any datum.equals = true ↔ ∃ value ∈ values, datum.equals (normalizeExpected value) = true) ↔
      WordsDecideNothing datum values := by
  constructor
  · intro agrees
    refine ⟨fun empty => ?_,fun word member isWord equal => ?_⟩
    · subst empty
      simpa [listed] using agrees
    · rw [listed.eq_2 values (by rintro rfl; cases member),List.any_eq_true] at agrees
      rcases equal with asText | asNumber
      · obtain ⟨other,listed,equal⟩ := agrees.mp ⟨word,member,asText⟩
        cases otherWord : other.isTruthWord with
        | false => exact ⟨other,listed,otherWord,by rwa [normalize_other other otherWord] at equal⟩
        | true => cases (equals_apart datum word other isWord otherWord asText).symm.trans equal
      · obtain ⟨other,listed,equal⟩ := agrees.mpr ⟨word,member,asNumber⟩
        cases otherWord : other.isTruthWord with
        | false => exact ⟨other,listed,otherWord,equal⟩
        | true => cases (equals_apart datum other word otherWord isWord equal).symm.trans asNumber
  · intro nothing
    cases values with
    | nil => simpa [listed] using nothing.empty rfl
    | cons first rest =>
      rw [listed,List.any_eq_true]
      · constructor
        · rintro ⟨value,member,equal⟩
          cases word : value.isTruthWord with
          | false => exact ⟨value,member,by rwa [normalize_other value word]⟩
          | true =>
            obtain ⟨other,listed,plain,equal⟩ := nothing.words value member word (.inl equal)
            exact ⟨other,listed,by rwa [normalize_other other plain]⟩
        · rintro ⟨value,member,equal⟩
          cases word : value.isTruthWord with
          | false => exact ⟨value,member,by rwa [normalize_other value word] at equal⟩
          | true =>
            obtain ⟨other,listed,_,equal⟩ := nothing.words value member word (.inr equal)
            exact ⟨other,listed,equal⟩
      · simp

theorem text_equals (d expected : String) : (Object.text d).equals (normalizeExpected (.text expected : Value N)) = true ↔
    d = expected ∧ expected ≠ "true" ∧ expected ≠ "false" := by
  simp only [normalizeExpected]
  split_ifs with isTrue isFalse
  · simp [Object.equals,Object.number?,isTrue]
  · simp [Object.equals,Object.number?,isFalse]
  · simp [Object.equals,isTrue,isFalse]

variable [LT N] [LE N] [DecidableLT N] [DecidableLE N] {float : String → N}

theorem evaluates_comparison (f : FieldText float) (operator : String) (known : operator ∈ operators) (literal : Literal)
    (context datum : Object N) (resolves : evaluateField context f.field = .ok datum) (result : Except Exn (Object N)) :
    Evaluates float (comparisonText f.text operator literal.text) context result ↔
      compare operator datum (normalizeExpected (literal.value float)) = result := by
  rw [reads_evaluates (reads_comparison f operator known literal),evaluate,resolves]
  rfl

theorem evaluates_equal (f : FieldText float) (literal : Literal) (context datum : Object N)
    (resolves : evaluateField context f.field = .ok datum) (result : Bool) :
    Evaluates float (comparisonText f.text "=" literal.text) context (.ok (.bool result)) ↔
      datum.equals (normalizeExpected (literal.value float)) = result := by
  rw [evaluates_comparison f "=" (by simp [operators]) literal context datum resolves]
  simp [compare]

theorem evaluates_membership (f : FieldText float) (negate : Bool) (literals : List Literal) (context : Object N)
    (result : Except Exn (Object N)) :
    Evaluates float (membershipText f.text negate (literals.map Literal.text)) context result ↔
      (getValue context f.field).map (fun datum => .bool
        (if negate then !(listed (literals.map (Literal.value float))).any datum.equals
          else (listed (literals.map (Literal.value float))).any datum.equals)) = result := by
  rw [reads_evaluates (reads_membership f negate literals),evaluate]
  cases getValue context f.field <;> rfl

def MembershipDisjoins (f : FieldText float) (literals : List Literal) (context : Object N) : Prop :=
  ∃ result : Bool,
    Evaluates float (membershipText f.text false (literals.map Literal.text)) context (.ok (.bool result)) ∧
    Evaluates float (membershipText f.text true (literals.map Literal.text)) context (.ok (.bool !result)) ∧
    (result = true ↔ ∃ literal ∈ literals,
      Evaluates float (comparisonText f.text "=" literal.text) context (.ok (.bool true)))

theorem membership_disjoins_iff (f : FieldText float) (literals : List Literal) (context datum : Object N)
    (resolves : evaluateField context f.field = .ok datum) :
    MembershipDisjoins f literals context ↔
      f.field.isPath = true ∧ WordsDecideNothing datum (literals.map (Literal.value float)) := by
  simp only [MembershipDisjoins,evaluates_membership,evaluates_equal f _ context datum resolves]
  rw [← membership_agrees]
  cases named : f.field with
  | path dotted =>
    rw [named] at resolves
    have looked : getValue context (.path dotted) = .ok datum := resolves
    simp [looked,Except.map,Field.isPath]
  | func name args => simp [getValue,Except.map,Field.isPath]

def StringDenotesItself (f : FieldText float) (s : String) (context : Object N) (d : String) : Prop :=
  (Evaluates float (comparisonText f.text "=" (quoted s)) context (.ok (.bool true)) ↔ d = s) ∧
  (Evaluates float (comparisonText f.text "!=" (quoted s)) context (.ok (.bool true)) ↔ d ≠ s)

theorem string_denotes_iff (f : FieldText float) (s : String) (context : Object N) (d : String)
    (resolves : evaluateField context f.field = .ok (.text d)) :
    StringDenotesItself f s context d ↔ '\n' ∉ s.toList ∧ (Plain s ∨ d ≠ s ∧ d ≠ escaped s) := by
  by_cases broken : '\n' ∈ s.toList
  · have nothing (operator : String) (known : operator ∈ operators) (result : Except Exn (Object N)) :
        ¬ Evaluates float (comparisonText f.text operator (quoted s)) context result := by
      rintro ⟨tree,derived,_⟩
      refine broken_string_unread s broken (comparison_value f operator known ?_ derived)
      simp [comparisonText]
    simp only [StringDenotesItself,nothing "=" (by simp [operators]),nothing "!=" (by simp [operators]),false_iff,
      not_not,broken,not_true_eq_false,false_and,iff_false]
    rintro ⟨other,same⟩
    exact other same
  · have equal : Evaluates float (comparisonText f.text "=" (quoted s)) context (.ok (.bool true)) ↔
        (Object.text d).equals (normalizeExpected (.text (escaped s) : Value N)) = true := by
      rw [← stringLiteral_value float s broken]
      exact evaluates_equal f (stringLiteral s broken) context (.text d) resolves true
    have differ : Evaluates float (comparisonText f.text "!=" (quoted s)) context (.ok (.bool true)) ↔
        ¬ (Object.text d).equals (normalizeExpected (.text (escaped s) : Value N)) = true := by
      rw [← stringLiteral_value float s broken]
      refine (evaluates_comparison f "!=" (by simp [operators]) (stringLiteral s broken) context (.text d) resolves _).trans ?_
      simp [compare]
    rw [StringDenotesItself,equal,differ,not_iff_not,and_self,text_equals,read_as_itself]
    simp [broken]

end

def verifiedLiteral : Literal := ⟨.string,"\"verified\"",by decide⟩
def oneLiteral : Literal := ⟨.number,"1",by decide⟩
def trueLiteral : Literal := ⟨.string,"\"true\"",by decide⟩

theorem verified_in_list : MembershipDisjoins modeField [verifiedLiteral,oneLiteral] (modeContext (.text "verified")) := by
  have plain : ([verifiedLiteral,oneLiteral].map (Literal.value readOne)).all (fun value => !value.isTruthWord) = true := by
    decide +kernel
  refine (membership_disjoins_iff modeField [verifiedLiteral,oneLiteral] _ _ (mode_resolves (.text "verified"))).mpr
    ⟨rfl,(fun never => by cases never),fun word member isWord => ?_⟩
  have never := List.all_eq_true.mp plain word member
  rw [isWord] at never
  cases never

theorem true_in_list : evaluateField (modeContext (.text "true")) modeField.field = .ok (.text "true") ∧
    ¬ MembershipDisjoins modeField [trueLiteral] (modeContext (.text "true")) := by
  refine ⟨mode_resolves _,?_⟩
  rintro ⟨result,inside,_,disjoins⟩
  have path : getValue (modeContext (.text "true")) modeField.field = .ok (.text "true") := mode_resolves (.text "true")
  rw [evaluates_membership,path] at inside
  cases inside
  obtain ⟨literal,member,equal⟩ := disjoins.mp (by decide +kernel)
  cases List.mem_singleton.mp member
  rw [evaluates_equal _ _ _ _ (mode_resolves (.text "true"))] at equal
  revert equal
  decide +kernel

theorem verified_denotes_itself : StringDenotesItself modeField "verified" (modeContext (.text "honor")) "honor" :=
  (string_denotes_iff modeField "verified" _ "honor" (mode_resolves (.text "honor"))).mpr
    ⟨by decide,.inl ((plain_iff "verified").mpr (by decide +kernel))⟩

theorem true_denotes_one : evaluateField (modeContext (.text "true")) modeField.field = .ok (.text "true") ∧
    ¬ StringDenotesItself modeField "true" (modeContext (.text "true")) "true" := by
  refine ⟨mode_resolves _,fun denotes => ?_⟩
  have equal := denotes.1.mpr rfl
  have text : quoted "true" = trueLiteral.text := by decide +kernel
  rw [text,evaluates_equal _ _ _ _ (mode_resolves (.text "true"))] at equal
  revert equal
  decide +kernel

end CartPredicateParser
