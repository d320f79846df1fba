import Mathlib.Data.List.Basic
import Mathlib.Data.List.Chain

-- Texts between quotes in a query: how they are escaped and read, and what becomes of
-- texts that are put there as they are.
namespace QuotedText

def isSpecial (char : Char) : Bool := char = '"' || char = '\\'

def Plain (text : List Char) : Prop := ∀ char ∈ text, isSpecial char = false

def escape : List Char → List Char
  | [] => []
  | char::rest => if isSpecial char then '\\'::char::escape rest else char::escape rest

def comparison (field text : List Char) : List Char := field ++ '=' :: '"' :: (text++['"'])

def separator : List Char := [' ','o','r',' ']

-- The field equals one of the texts, which stand there as they are given.
def anyOf (field : List Char) (texts : List (List Char)) : List Char := separator.intercalate (texts.map (comparison field))

def readText : List Char → Option (List Char × List Char)
  | [] => none
  | '\\'::[] => none
  | '\\'::char::rest => if isSpecial char then (readText rest).map (Prod.map (char::·) id) else none
  | char::rest => if char = '"' then some ([],rest) else (readText rest).map (Prod.map (char::·) id)

-- `or` joins no more than that many comparisons.
def readAnyOf (field : List Char) : Nat → List Char → Option (List (List Char))
  | 0,_ => none
  | bound+1,text => do
    let inside ← text.dropPrefix? (field++['=','"'])
    let (value,behind) ← readText inside
    match behind with
    | [] => some [value]
    | _ => do
      let others ← readAnyOf field bound (← behind.dropPrefix? separator)
      return value::others

variable {field text rest value : List Char} {texts values : List (List Char)}

section Escaping

theorem escape_plain (plain : Plain text) : escape text = text := by
  induction text with
  | nil => rfl
  | cons char rest ih =>
    have here := plain char List.mem_cons_self
    have others := ih fun other member => plain other (List.mem_cons_of_mem _ member)
    unfold escape
    rw [here,others]
    rfl

theorem escape_count (text : List Char) :
    (escape text).count '\\' = 2*text.count '\\'+text.count '"' := by
  induction text with
  | nil => rfl
  | cons char rest ih =>
    unfold escape
    by_cases backslash : char = '\\'
    · subst backslash
      simp [isSpecial,ih]
      omega
    · by_cases quote : char = '"'
      · subst quote
        simp [isSpecial,ih]
        omega
      · simp [isSpecial,backslash,quote,ih]

theorem plain_of_count (noBackslash : text.count '\\' = 0) (noQuote : text.count '"' = 0) : Plain text := by
  intro char member
  have backslash : char ≠ '\\' := fun same => List.count_eq_zero.mp noBackslash (same ▸ member)
  have quote : char ≠ '"' := fun same => List.count_eq_zero.mp noQuote (same ▸ member)
  simp [isSpecial,backslash,quote]

theorem escape_iff (text : List Char) : escape text = text ↔ Plain text := by
  constructor
  · intro same
    have counted := escape_count text
    rw [same] at counted
    exact plain_of_count (by omega) (by omega)
  · exact escape_plain

theorem escape_marked (changed : escape text ≠ text) : '\\' ∈ escape text := by
  by_contra unmarked
  have counted := escape_count text
  rw [List.count_eq_zero.mpr unmarked] at counted
  exact changed (escape_plain (plain_of_count (by omega) (by omega)))

theorem readText_escape (text rest : List Char) : readText (escape text ++ '"' :: rest) = some (text,rest) := by
  induction text with
  | nil => rfl
  | cons char text ih =>
    unfold escape
    by_cases special : isSpecial char = true
    · rw [if_pos special,List.cons_append,List.cons_append,readText,if_pos special,ih]
      rfl
    · have ordinary : char ≠ '"' ∧ char ≠ '\\' := by simpa [isSpecial] using special
      rw [if_neg special,List.cons_append,readText,ih,if_neg ordinary.1]
      · rfl
      · exact fun same => absurd same ordinary.2
      · exact fun _ _ same => absurd same ordinary.2

theorem readText_sound {behind : List Char} (read : readText text = some (value,behind)) :
    text = escape value ++ '"' :: behind := by
  induction text using readText.induct generalizing value with
  | case1 => cases read
  | case2 => cases read
  | case3 char rest special ih =>
    rw [readText,if_pos special] at read
    obtain ⟨⟨others,_⟩,found,same⟩ := Option.map_eq_some_iff.mp read
    cases same
    rw [escape,if_pos special,ih found]
    rfl
  | case4 char rest special =>
    rw [readText,if_neg special] at read
    cases read
  | case5 rest bare others =>
    rw [readText,if_pos rfl] at read
    · cases read
      rfl
    · exact fun same => absurd same (by decide)
    · exact fun _ _ same => absurd same (by decide)
  | case6 char rest bare others unquoted ih =>
    have ordinary : char ≠ '\\' := by
      intro same
      cases rest with
      | nil => exact bare same rfl
      | cons next rest => exact others next rest same rfl
    have plain : isSpecial char = false := by simp [isSpecial,unquoted,ordinary]
    rw [readText,if_neg unquoted] at read
    · obtain ⟨⟨inner,_⟩,found,same⟩ := Option.map_eq_some_iff.mp read
      cases same
      rw [escape,plain,ih found]
      rfl
    · exact bare
    · exact others

theorem comparison_split (field text : List Char) : comparison field text = (field++['=','"'])++(text++['"']) := by
  unfold comparison
  rw [List.append_assoc]
  rfl

theorem anyOf_single (field text : List Char) : anyOf field [text] = comparison field text :=
  List.intercalate_singleton

theorem anyOf_more (field text : List Char) (nonempty : texts ≠ []) :
    anyOf field (text::texts) = comparison field text++separator++anyOf field texts :=
  List.intercalate_cons_of_ne_nil (by simpa using nonempty)

theorem anyOf_length (field : List Char) (texts : List (List Char)) : texts.length ≤ (anyOf field texts).length := by
  induction texts with
  | nil => exact Nat.zero_le _
  | cons text rest ih =>
    by_cases last : rest = []
    · subst last
      rw [anyOf_single]
      simp only [comparison,List.length_append,List.length_cons,List.length_nil]
      omega
    · rw [anyOf_more _ _ last]
      simp only [comparison,List.length_append,List.length_cons]
      omega

theorem drop_front (front behind : List Char) : (front++behind).dropPrefix? front = some behind :=
  List.dropPrefix?_append_of_beq behind (by rw [beq_self_eq_true])

theorem readAnyOf_single (field value : List Char) (bound : Nat) :
    readAnyOf field (bound+1) (comparison field (escape value)) = some [value] := by
  rw [comparison_split,readAnyOf,drop_front]
  dsimp only [Option.bind_eq_bind,Option.bind_some]
  rw [readText_escape]
  rfl

theorem readAnyOf_more (field value behind : List Char) (bound : Nat) :
    readAnyOf field (bound+1) (comparison field (escape value)++separator++behind) =
      (readAnyOf field bound behind).map (value::·) := by
  rw [comparison_split,readAnyOf,List.append_assoc,List.append_assoc,drop_front]
  dsimp only [Option.bind_eq_bind,Option.bind_some]
  rw [List.append_assoc,List.singleton_append,readText_escape]
  dsimp only [Option.bind_some]
  rw [drop_front]
  change ((readAnyOf field bound behind).bind fun others => some (value::others)) = _
  cases readAnyOf field bound behind <;> rfl

theorem readAnyOf_escape (nonempty : values ≠ []) {bound : Nat} (enough : values.length ≤ bound) :
    readAnyOf field bound (anyOf field (values.map escape)) = some values := by
  induction values generalizing bound with
  | nil => exact absurd rfl nonempty
  | cons value rest ih =>
    rw [List.length_cons] at enough
    obtain ⟨bound,rfl⟩ := Nat.exists_eq_add_one_of_ne_zero (show bound ≠ 0 by omega)
    cases rest with
    | nil =>
      rw [List.map_singleton,anyOf_single]
      exact readAnyOf_single field value bound
    | cons second others =>
      rw [List.map_cons,anyOf_more _ _ (by simp),readAnyOf_more,ih (by simp) (by omega)]
      rfl

theorem readAnyOf_sound {bound : Nat} (read : readAnyOf field bound text = some values) :
    values ≠ [] ∧ text = anyOf field (values.map escape) := by
  induction bound generalizing text values with
  | zero => cases read
  | succ bound ih =>
    unfold readAnyOf at read
    obtain ⟨inside,opened,content⟩ := Option.bind_eq_some_iff.mp read
    obtain ⟨⟨value,behind⟩,closed,joined⟩ := Option.bind_eq_some_iff.mp content
    obtain ⟨front,rfl,same⟩ := List.dropPrefix?_eq_some_iff.mp opened
    obtain rfl := beq_iff_eq.mp same
    rw [readText_sound closed]
    clear read content opened closed
    dsimp only at joined
    split at joined
    · cases joined
      exact ⟨by simp,by rw [List.map_singleton,anyOf_single,comparison_split]⟩
    · obtain ⟨next,split,more⟩ := Option.bind_eq_some_iff.mp joined
      obtain ⟨others,rest,same⟩ := Option.bind_eq_some_iff.mp more
      cases same
      obtain ⟨front,rfl,same⟩ := List.dropPrefix?_eq_some_iff.mp split
      obtain rfl := beq_iff_eq.mp same
      obtain ⟨nonempty,text⟩ := ih rest
      refine ⟨by simp,?_⟩
      rw [List.map_cons,anyOf_more _ _ (by simpa using nonempty),comparison_split,text]
      simp

end Escaping

section Unescaped

-- No quote follows an equals sign in an escaped text.
def Held (text : List Char) : Prop := text.IsChain fun char next => ¬(char = '=' ∧ next = '"')

theorem escape_begins (text : List Char) : (escape text).head? ≠ some '"' := by
  cases text with
  | nil => simp [escape]
  | cons char rest =>
    unfold escape
    split
    · simp
    · rename_i ordinary
      have unquoted : char ≠ '"' ∧ char ≠ '\\' := by simpa [isSpecial] using ordinary
      simpa using unquoted.1

theorem escape_held (text : List Char) : Held (escape text) := by
  induction text with
  | nil => exact .nil
  | cons char rest ih =>
    have ahead : Held (char::escape rest) := by
      refine List.isChain_cons.mpr ⟨?_,ih⟩
      rintro next first ⟨_,rfl⟩
      exact escape_begins rest first
    unfold escape
    split
    · refine List.isChain_cons.mpr ⟨?_,ahead⟩
      rintro next _ ⟨equals,_⟩
      exact absurd equals (by decide)
    · exact ahead

-- A held piece does not reach over such a place.
theorem held_infix {piece before behind : List Char} (held : Held piece) (inside : piece <:+: before ++ '=' :: '"' :: behind) :
    piece <:+: before++['='] ∨ piece <:+: '"'::behind := by
  rw [List.append_cons,List.infix_append_iff_ne_nil] at inside
  obtain left | right | ⟨left,right,leftSome,rightSome,rfl,ends,begins⟩ := inside
  · exact .inl left
  · exact .inr right
  · exfalso
    have meet := held.rel_getLast_head_of_append leftSome rightSome
    obtain ⟨start,whole⟩ := ends
    obtain ⟨rest,split⟩ := begins
    refine meet ⟨?_,?_⟩
    · have last := congrArg List.getLast? whole
      simpa [List.getLast?_append,List.getLast?_eq_some_getLast leftSome] using last
    · have first := congrArg List.head? split
      simpa [List.head?_append,List.head?_eq_some_head rightSome] using first

theorem held_count {piece front : List Char} {bound : Nat} (held : Held piece) (bare : field.count '\\' = 0)
    (small : front.count '\\' ≤ bound) (bounded : ∀ text ∈ texts, text.count '\\' ≤ bound)
    (inside : piece <:+: front++anyOf field texts) : piece.count '\\' ≤ bound := by
  induction texts generalizing front with
  | nil =>
    have few := inside.sublist.count_le '\\'
    simp [anyOf] at few
    omega
  | cons text rest ih =>
    have here := bounded text List.mem_cons_self
    have others := fun other member => bounded other (List.mem_cons_of_mem _ member)
    by_cases last : rest = []
    · subst last
      rw [anyOf_single,comparison,← List.append_assoc] at inside
      obtain earlier | later := held_infix held inside
      · have few := earlier.sublist.count_le '\\'
        simp [bare] at few
        omega
      · have few := later.sublist.count_le '\\'
        simp at few
        omega
    · rw [anyOf_more _ _ last,comparison] at inside
      have arranged : piece <:+: (front++field) ++ '=' :: '"' :: (text++['"']++separator++anyOf field rest) := by
        simpa using inside
      obtain earlier | later := held_infix held arranged
      · have few := earlier.sublist.count_le '\\'
        simp [bare] at few
        omega
      · have between : ('"'::(text++['"']++separator)).count '\\' ≤ bound := by simpa [separator] using here
        exact ih between others (by simpa using later)

theorem escaped_inside (member : value ∈ values) : escape value <:+: anyOf field (values.map escape) := by
  induction values with
  | nil => cases member
  | cons first rest ih =>
    have alone : escape first <:+: comparison field (escape first) := ⟨field++['=','"'],['"'],by rw [comparison_split]; simp⟩
    rw [List.map_cons]
    by_cases last : rest = []
    · subst last
      obtain rfl := List.mem_singleton.mp member
      rw [List.map_nil,anyOf_single]
      exact alone
    · rw [anyOf_more _ _ (by simpa using last)]
      obtain rfl | later := List.mem_cons.mp member
      · exact List.infix_append_of_infix_left (List.infix_append_of_infix_left alone)
      · exact List.infix_append_of_infix_right (ih later)

-- Escaping at least doubles the backslashes of a text: texts that are read as
-- themselves have none, and no quote.
theorem read_as_given {bound : Nat} (bare : field.count '\\' = 0) (read : readAnyOf field bound (anyOf field texts) = some values)
    (same : ∀ text, text ∈ texts ↔ text ∈ values) : ∀ text ∈ texts, Plain text := by
  have clause := (readAnyOf_sound read).2
  have doubled : ∀ most, (∀ text ∈ texts, text.count '\\' ≤ most) →
      ∀ text ∈ texts, 2*text.count '\\'+text.count '"' ≤ most := by
    intro most bounded text member
    have inside : escape text <:+: []++anyOf field texts := by
      rw [List.nil_append,clause]
      exact escaped_inside ((same text).mp member)
    have few := held_count (escape_held text) bare (by simp) bounded inside
    rwa [escape_count] at few
  have plain : ∀ most, (∀ text ∈ texts, text.count '\\' ≤ most) → ∀ text ∈ texts, Plain text := by
    intro most
    induction most using Nat.strong_induction_on with
    | _ most ih =>
      intro bounded text member
      by_cases nothing : most = 0
      · have few := doubled most bounded text member
        exact plain_of_count (by omega) (by omega)
      · refine ih (most/2) (by omega) (fun other inside => ?_) text member
        have few := doubled most bounded other inside
        omega
  exact plain (texts.flatten.count '\\') fun text member => (List.sublist_flatten_of_mem member).count_le '\\'

end Unescaped

end QuotedText
