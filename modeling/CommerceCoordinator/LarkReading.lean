import CommerceCoordinator.Lark

-- How the trees of a grammar read a text: which symbols a pattern begins with, and
-- when two readings of one text must be the same.
namespace Lark

@[simp] theorem words_append (left right : List (Tree T R)) :
    Tree.words (left ++ right) = Tree.words left ++ Tree.words right := by
  induction left with
  | nil => rfl
  | cons tree rest ih => simp only [List.cons_append,Tree.words,ih,List.append_assoc]

theorem words_absent (count : Nat) : Tree.words (List.replicate count (.absent : Tree T R)) = [] := by
  induction count with
  | zero => rfl
  | succ count ih => simp only [List.replicate_succ,Tree.words,Tree.word,List.nil_append,ih]

section
variable {g : Grammar T R} {trees : List (Tree T R)}

@[simp] theorem matches_literal {text : String} : Matches g (.literal text) trees ↔
    trees = [.token ⟨.literal text,text.toList⟩] := by
  constructor
  · intro found; cases found; rfl
  · rintro rfl; exact .literal

@[simp] theorem matches_terminal {name : T} : Matches g (.terminal name) trees ↔
    ∃ text, g.accepts name text = true ∧ trees = [.token ⟨.terminal name,text⟩] := by
  constructor
  · intro found; cases found with | terminal accepted => exact ⟨_,accepted,rfl⟩
  · rintro ⟨text,accepted,rfl⟩; exact .terminal accepted

theorem matches_rule {name : R} : Matches g (.rule name) trees ↔
    ∃ index alternative children, (g.alternatives name)[index]? = some alternative ∧
      Matches g alternative.pattern children ∧ trees = [.node name index children] := by
  constructor
  · intro found; cases found with | rule present body => exact ⟨_,_,_,present,body,rfl⟩
  · rintro ⟨index,alternative,children,present,body,rfl⟩; exact .rule present body

@[simp] theorem matches_seq {first second : Pattern T R} : Matches g (.seq first second) trees ↔
    ∃ left, Matches g first left ∧ ∃ right, Matches g second right ∧ trees = left ++ right := by
  constructor
  · intro found; cases found with | seq leading following => exact ⟨_,leading,_,following,rfl⟩
  · rintro ⟨left,leading,right,following,rfl⟩; exact .seq leading following

@[simp] theorem matches_alt {first second : Pattern T R} : Matches g (.alt first second) trees ↔
    Matches g first trees ∨ Matches g second trees := by
  constructor
  · intro found
    cases found with
    | altLeft body => exact .inl body
    | altRight body => exact .inr body
  · rintro (body | body)
    · exact .altLeft body
    · exact .altRight body

@[simp] theorem matches_opt {body : Pattern T R} : Matches g (.opt body) trees ↔
    trees = [] ∨ Matches g body trees := by
  constructor
  · intro found
    cases found with
    | optNone => exact .inl rfl
    | optSome present => exact .inr present
  · rintro (rfl | present)
    · exact .optNone
    · exact .optSome present

@[simp] theorem matches_maybe {body : Pattern T R} : Matches g (.maybe body) trees ↔
    trees = List.replicate body.placeholders .absent ∨ Matches g body trees := by
  constructor
  · intro found
    cases found with
    | maybeNone => exact .inl rfl
    | maybeSome present => exact .inr present
  · rintro (rfl | present)
    · exact .maybeNone
    · exact .maybeSome present

theorem matches_star {body : Pattern T R} : Matches g (.star body) trees ↔
    trees = [] ∨ ∃ once more, Matches g body once ∧ Matches g (.star body) more ∧ trees = once ++ more := by
  constructor
  · intro found
    cases found with
    | starNil => exact .inl rfl
    | starCons once more => exact .inr ⟨_,_,once,more,rfl⟩
  · rintro (rfl | ⟨once,more,first,others,rfl⟩)
    · exact .starNil
    · exact .starCons first others

theorem matches_star_snoc {body : Pattern T R} {last : List (Tree T R)} (some_ : Matches g (.star body) trees)
    (once : Matches g body last) : Matches g (.star body) (trees ++ last) := by
  generalize starred : Pattern.star body = pattern at some_
  induction some_ with
  | starNil =>
    cases starred
    simpa using Matches.starCons once .starNil
  | starCons first others ihFirst ihOthers =>
    cases starred
    rw [List.append_assoc]
    exact .starCons first (ihOthers rfl)
  | _ => cases starred

end


theorem scan_splits (accepts : List Char → Bool) (text lexeme rest : List Char)
    (scanned : scan accepts text = some (lexeme,rest)) : text = lexeme ++ rest ∧ accepts lexeme = true := by
  induction text generalizing accepts lexeme rest with
  | nil =>
    simp only [scan] at scanned
    split at scanned
    · next empty => cases scanned; exact ⟨rfl,empty⟩
    · cases scanned
  | cons char tail ih =>
    simp only [scan] at scanned
    split at scanned
    · next longer remaining found =>
      cases scanned
      obtain ⟨rfl,accepted⟩ := ih _ _ _ found
      exact ⟨rfl,accepted⟩
    · split at scanned
      · next empty => cases scanned; exact ⟨rfl,empty⟩
      · cases scanned

theorem scan_longest (accepts : List Char → Bool) (lexeme rest : List Char) (accepted : accepts lexeme = true)
    (longest : ∀ further remaining, rest = further ++ remaining → accepts (lexeme ++ further) = true → further = []) :
    scan accepts (lexeme ++ rest) = some (lexeme,rest) := by
  induction lexeme generalizing accepts with
  | cons char tail ih =>
    simp only [List.cons_append,scan]
    rw [ih (fun tail => accepts (char :: tail)) accepted fun further remaining split found => longest further remaining split found]
  | nil =>
    cases rest with
    | nil => simp [scan,accepted]
    | cons char rest =>
      simp only [List.nil_append,scan]
      split
      · next lexeme remaining found =>
        obtain ⟨split,taken⟩ := scan_splits _ _ _ _ found
        have never := longest (char :: lexeme) remaining (by rw [split]; rfl) taken
        cases never
      · rw [if_pos accepted]

section
variable (g : Grammar T R)

theorem spell_append (left right : List (Token T)) (text : List Char) :
    g.spell (left ++ right) text = (g.spell left text).bind (g.spell right) := by
  induction left generalizing text with
  | nil => rfl
  | cons token rest ih =>
    simp only [List.cons_append,Grammar.spell]
    cases g.read token.symbol text with
    | none => rfl
    | some found =>
      simp only
      split
      · exact ih found.2
      · rfl

theorem spell_token (token : Token T) (text rest : List Char) :
    g.spell [token] text = some rest ↔ g.read token.symbol text = some (token.text,rest) := by
  simp only [Grammar.spell]
  cases g.read token.symbol text with
  | none => simp
  | some found =>
    obtain ⟨lexeme,remaining⟩ := found
    simp only [Option.some.injEq,Prod.mk.injEq]
    split
    · next same => simp [same]
    · next other => simp [other]

theorem read_length (symbol : Symbol T) (text lexeme rest : List Char) (found : g.read symbol text = some (lexeme,rest)) :
    lexeme.length + rest.length ≤ text.length := by
  obtain ⟨split,_⟩ := scan_splits _ _ _ _ found
  have skipped := (List.dropWhile_sublist (p := g.ignored) (l := text)).length_le
  rw [split,List.length_append] at skipped
  exact skipped

theorem spell_length (tokens : List (Token T)) (text rest : List Char) (spelled : g.spell tokens text = some rest) :
    rest.length ≤ text.length := by
  induction tokens generalizing text with
  | nil => cases spelled; exact Nat.le_refl _
  | cons token tokens ih =>
    simp only [Grammar.spell] at spelled
    split at spelled
    · next lexeme remaining found =>
      split at spelled
      · have shorter := read_length g _ _ _ _ found
        have later := ih remaining spelled
        omega
      · cases spelled
    · cases spelled

end

-- The symbols a pattern begins with, from those of each rule; no rule is empty.
def Pattern.nullable : Pattern T R → Bool
  | .literal _ | .terminal _ | .rule _ => false
  | .seq first second => first.nullable && second.nullable
  | .alt first second => first.nullable || second.nullable
  | .opt _ | .star _ | .maybe _ => true

def Pattern.firsts (ruleFirsts : R → List (Symbol T)) : Pattern T R → List (Symbol T)
  | .literal text => [.literal text]
  | .terminal name => [.terminal name]
  | .rule name => ruleFirsts name
  | .seq first second => first.firsts ruleFirsts ++ if first.nullable then second.firsts ruleFirsts else []
  | .alt first second => first.firsts ruleFirsts ++ second.firsts ruleFirsts
  | .opt body | .star body | .maybe body => body.firsts ruleFirsts

def Grammar.FirstsClosed (g : Grammar T R) (ruleFirsts : R → List (Symbol T)) : Prop :=
  ∀ (name : R) (index : Nat) (alternative : Alternative T R), (g.alternatives name)[index]? = some alternative →
    alternative.pattern.nullable = false ∧ alternative.pattern.firsts ruleFirsts ⊆ ruleFirsts name

def Grammar.Begins (g : Grammar T R) (symbols : List (Symbol T)) (text : List Char) : Prop :=
  ∃ symbol ∈ symbols, ∃ lexeme rest, g.read symbol text = some (lexeme,rest)

def Grammar.Stopped (g : Grammar T R) (symbols : List (Symbol T)) (text : List Char) : Prop :=
  ∀ symbol ∈ symbols, g.read symbol text = none

theorem begins_mono {g : Grammar T R} {few many : List (Symbol T)} {text : List Char} (begins : g.Begins few text)
    (within : few ⊆ many) : g.Begins many text := by
  obtain ⟨symbol,member,read⟩ := begins
  exact ⟨symbol,within member,read⟩

theorem stopped_mono {g : Grammar T R} {few many : List (Symbol T)} {text : List Char} (stopped : g.Stopped many text)
    (within : few ⊆ many) : g.Stopped few text :=
  fun symbol member => stopped symbol (within member)

theorem begins_not_stopped {g : Grammar T R} {symbols : List (Symbol T)} {text : List Char} (begins : g.Begins symbols text) :
    ¬ g.Stopped symbols text := by
  rintro stopped
  obtain ⟨symbol,member,lexeme,rest,read⟩ := begins
  have never := read.symm.trans (stopped symbol member)
  cases never

def Grammar.Exclude (g : Grammar T R) (left right : List (Symbol T)) : Prop :=
  ∀ text, g.Begins left text → g.Stopped right text

theorem spell_begins {g : Grammar T R} {token : Token T} {tokens : List (Token T)} {text rest : List Char}
    (spelled : g.spell (token :: tokens) text = some rest) : g.Begins [token.symbol] text := by
  simp only [Grammar.spell] at spelled
  split at spelled
  · next lexeme remaining read => exact ⟨token.symbol,by simp,lexeme,remaining,read⟩
  · cases spelled

theorem matches_begins {g : Grammar T R} {ruleFirsts : R → List (Symbol T)} (closed : g.FirstsClosed ruleFirsts)
    {pattern : Pattern T R} {trees : List (Tree T R)} (found : Matches g pattern trees) (text rest : List Char)
    (spelled : g.spell (Tree.words trees) text = some rest) :
    g.Begins (pattern.firsts ruleFirsts) text ∨ pattern.nullable = true ∧ Tree.words trees = [] := by
  induction found generalizing text rest with
  | literal => exact .inl (spell_begins spelled)
  | terminal accepted => exact .inl (spell_begins spelled)
  | @rule name index alternative children present body ih =>
    obtain ⟨never,within⟩ := closed name index alternative present
    simp only [Tree.words,Tree.word,List.append_nil] at spelled
    rcases ih text rest spelled with begins | ⟨nullable,_⟩
    · exact .inl (begins_mono begins within)
    · rw [never] at nullable; cases nullable
  | @seq first second left right leading following ihLeading ihFollowing =>
    rw [words_append,spell_append] at spelled
    obtain ⟨middle,spelledLeft,spelledRight⟩ := Option.bind_eq_some_iff.mp spelled
    rcases ihLeading text middle spelledLeft with begins | ⟨nullable,empty⟩
    · exact .inl (begins_mono begins (by simp [Pattern.firsts]))
    · rw [empty] at spelledLeft
      cases spelledLeft
      rcases ihFollowing text rest spelledRight with begins | ⟨also,none⟩
      · exact .inl (begins_mono begins (by simp [Pattern.firsts,nullable]))
      · exact .inr ⟨by simp [Pattern.nullable,nullable,also],by simp [empty,none]⟩
  | altLeft body ih =>
    rcases ih text rest spelled with begins | ⟨nullable,empty⟩
    · exact .inl (begins_mono begins (by simp [Pattern.firsts]))
    · exact .inr ⟨by simp [Pattern.nullable,nullable],empty⟩
  | altRight body ih =>
    rcases ih text rest spelled with begins | ⟨nullable,empty⟩
    · exact .inl (begins_mono begins (by simp [Pattern.firsts]))
    · exact .inr ⟨by simp [Pattern.nullable,nullable],empty⟩
  | optNone => exact .inr ⟨rfl,rfl⟩
  | optSome present ih =>
    rcases ih text rest spelled with begins | ⟨_,empty⟩
    · exact .inl begins
    · exact .inr ⟨rfl,empty⟩
  | starNil => exact .inr ⟨rfl,rfl⟩
  | starCons once more ihOnce ihMore =>
    rw [words_append,spell_append] at spelled
    obtain ⟨middle,spelledOnce,spelledMore⟩ := Option.bind_eq_some_iff.mp spelled
    rcases ihOnce text middle spelledOnce with begins | ⟨_,empty⟩
    · exact .inl begins
    · rw [empty] at spelledOnce
      cases spelledOnce
      rcases ihMore text rest spelledMore with begins | ⟨_,none⟩
      · exact .inl begins
      · exact .inr ⟨rfl,by simp [empty,none]⟩
  | @maybeNone body => exact .inr ⟨rfl,words_absent body.placeholders⟩
  | maybeSome present ih =>
    rcases ih text rest spelled with begins | ⟨_,empty⟩
    · exact .inl begins
    · exact .inr ⟨rfl,empty⟩

theorem matched_words {g : Grammar T R} {ruleFirsts : R → List (Symbol T)} (closed : g.FirstsClosed ruleFirsts)
    {pattern : Pattern T R} {trees : List (Tree T R)} (found : Matches g pattern trees) (occupied : pattern.nullable = false) :
    Tree.words trees ≠ [] := by
  induction found with
  | literal => simp [Tree.words,Tree.word]
  | terminal accepted => simp [Tree.words,Tree.word]
  | rule present body ih =>
    simpa only [Tree.words,Tree.word,List.append_nil] using ih (closed _ _ _ present).1
  | seq leading following ihLeading ihFollowing =>
    simp only [Pattern.nullable,Bool.and_eq_false_iff] at occupied
    rw [words_append]
    rcases occupied with first | second
    · simp [ihLeading first]
    · simp [ihFollowing second]
  | altLeft body ih => exact ih (Bool.or_eq_false_iff.mp occupied).1
  | altRight body ih => exact ih (Bool.or_eq_false_iff.mp occupied).2
  | _ => cases occupied

end Lark
