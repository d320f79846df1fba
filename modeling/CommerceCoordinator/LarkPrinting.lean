import CommerceCoordinator.LarkReading

-- Texts that a pattern reads and a transformer turns into known values: one rule for
-- each form of pattern.
namespace Lark

-- `text` is read as a pattern with these values, whatever follows that meets `follow`.
def Writes (g : Grammar T R) (t : Transformer T R E V) (pattern : Pattern T R) (values : List V) (text : List Char)
    (follow : List Char → Prop) : Prop :=
  ∃ trees, Matches g pattern trees ∧ t.transformAll (g.shapes trees) = .ok values ∧
    ∀ rest, follow rest → g.spell (Tree.words trees) (text ++ rest) = some rest

section
variable {g : Grammar T R} {t : Transformer T R E V} {values : List V} {text : List Char} {follow : List Char → Prop}

theorem writes_mono {pattern : Pattern T R} {narrow : List Char → Prop} (written : Writes g t pattern values text follow)
    (implied : ∀ rest, narrow rest → follow rest) : Writes g t pattern values text narrow := by
  obtain ⟨trees,found,transformed,reads⟩ := written
  exact ⟨trees,found,transformed,fun rest narrow => reads rest (implied rest narrow)⟩

theorem read_lexeme (symbol : Symbol T) (char : Char) (lexeme rest : List Char) (visible : g.ignored char = false)
    (recognized : g.recognizes symbol (char :: lexeme) = true)
    (longest : ∀ further remaining, rest = further ++ remaining →
      g.recognizes symbol (char :: lexeme ++ further) = true → further = []) :
    g.read symbol (char :: lexeme ++ rest) = some (char :: lexeme,rest) := by
  have skipped : (char :: lexeme ++ rest).dropWhile g.ignored = char :: lexeme ++ rest :=
    List.dropWhile_cons_of_neg (by simp [visible])
  rw [Grammar.read,skipped]
  exact scan_longest _ _ _ recognized longest

theorem writes_literal (literal : String) (char : Char) (chars : List Char) (begins : literal.toList = char :: chars)
    (visible : g.ignored char = false) : Writes g t (.literal literal) [] literal.toList fun _ => True := by
  refine ⟨_,.literal,rfl,fun rest _ => ?_⟩
  have read := read_lexeme (g := g) (.literal literal) char chars rest visible (by simp [Grammar.recognizes,begins])
    fun further remaining _ recognized => by simpa [Grammar.recognizes,begins] using recognized
  simp only [Tree.words,Tree.word,List.append_nil]
  rw [spell_token,begins]
  exact read

theorem writes_terminal (name : T) (char : Char) (chars : List Char) (accepted : g.accepts name (char :: chars) = true)
    (visible : g.ignored char = false)
    (longest : ∀ rest, follow rest → ∀ further remaining, rest = further ++ remaining →
      g.accepts name (char :: chars ++ further) = true → further = []) :
    Writes g t (.terminal name) [t.token ⟨.terminal name,char :: chars⟩] (char :: chars) follow := by
  refine ⟨_,.terminal accepted,rfl,fun rest followed => ?_⟩
  simp only [Tree.words,Tree.word,List.append_nil]
  rw [spell_token]
  exact read_lexeme (.terminal name) char chars rest visible accepted (longest rest followed)

theorem writes_seq {first second : Pattern T R} {before after : List V} {left right : List Char}
    {middle : List Char → Prop} (leading : Writes g t first before left middle)
    (following : Writes g t second after right follow) (joins : ∀ rest, follow rest → middle (right ++ rest)) :
    Writes g t (.seq first second) (before ++ after) (left ++ right) follow := by
  obtain ⟨trees,found,transformed,reads⟩ := leading
  obtain ⟨trees',found',transformed',reads'⟩ := following
  refine ⟨trees ++ trees',.seq found found',?_,fun rest followed => ?_⟩
  · rw [shapes_append,transformAll_append,transformed,transformed']
    rfl
  · rw [words_append,spell_append,List.append_assoc,reads _ (joins rest followed)]
    exact reads' rest followed

theorem writes_altLeft {first second : Pattern T R} (written : Writes g t first values text follow) :
    Writes g t (.alt first second) values text follow := by
  obtain ⟨trees,found,others⟩ := written
  exact ⟨trees,.altLeft found,others⟩

theorem writes_altRight {first second : Pattern T R} (written : Writes g t second values text follow) :
    Writes g t (.alt first second) values text follow := by
  obtain ⟨trees,found,others⟩ := written
  exact ⟨trees,.altRight found,others⟩

theorem writes_optNone {body : Pattern T R} : Writes g t (.opt body) [] [] follow :=
  ⟨[],.optNone,rfl,fun _ _ => rfl⟩

theorem writes_optSome {body : Pattern T R} (written : Writes g t body values text follow) :
    Writes g t (.opt body) values text follow := by
  obtain ⟨trees,found,others⟩ := written
  exact ⟨trees,.optSome found,others⟩

theorem writes_maybeNone {body : Pattern T R} :
    Writes g t (.maybe body) (List.replicate body.placeholders t.absent) [] follow := by
  refine ⟨_,.maybeNone,transformAll_placeholders g t body.placeholders,fun rest _ => ?_⟩
  rw [words_absent]
  rfl

theorem writes_maybeSome {body : Pattern T R} (written : Writes g t body values text follow) :
    Writes g t (.maybe body) values text follow := by
  obtain ⟨trees,found,others⟩ := written
  exact ⟨trees,.maybeSome found,others⟩

theorem writes_star {body : Pattern T R} {α : Type} (items : List α) (value : α → V) (write : α → List Char)
    (each : ∀ item ∈ items, Writes g t body [value item] (write item) follow)
    (joins : ∀ item ∈ items, ∀ rest, follow (write item ++ rest)) :
    Writes g t (.star body) (items.map value) (items.flatMap write) follow := by
  induction items with
  | nil => exact ⟨[],.starNil,rfl,fun _ _ => rfl⟩
  | cons item rest ih =>
    obtain ⟨trees,found,transformed,reads⟩ := each item (by simp)
    obtain ⟨trees',found',transformed',reads'⟩ :=
      ih (fun item member => each item (by simp [member])) fun item member => joins item (by simp [member])
    refine ⟨trees ++ trees',.starCons found found',?_,fun remaining followed => ?_⟩
    · rw [shapes_append,transformAll_append,transformed,transformed']
      rfl
    · rw [words_append,spell_append,List.flatMap_cons,List.append_assoc,reads]
      · exact reads' remaining followed
      · cases rest with
        | nil => exact followed
        | cons next more =>
          rw [List.flatMap_cons,List.append_assoc]
          exact joins next (by simp) _

theorem writes_rule {name : R} {alternative : Alternative T R} {value : V} (index : Nat)
    (present : (g.alternatives name)[index]? = some alternative) (written : Writes g t alternative.pattern values text follow)
    (combined : g.combine t name index values = .ok value) : Writes g t (.rule name) [value] text follow := by
  obtain ⟨trees,found,transformed,reads⟩ := written
  refine ⟨_,.rule present found,?_,?_⟩
  · have whole := transform_node g t name index trees values transformed
    rw [combined] at whole
    simpa only [Grammar.shapes,List.append_nil,Except.map] using whole
  · simpa only [Tree.words,Tree.word,List.append_nil] using reads

theorem writes_spaced {ruleFirsts : R → List (Symbol T)} (closed : g.FirstsClosed ruleFirsts) {pattern : Pattern T R}
    (occupied : pattern.nullable = false) (char : Char) (space : g.ignored char = true)
    (written : Writes g t pattern values text follow) : Writes g t pattern values (char :: text) follow := by
  obtain ⟨trees,found,transformed,reads⟩ := written
  refine ⟨trees,found,transformed,fun rest followed => ?_⟩
  rw [← reads rest followed]
  cases tokens : Tree.words trees with
  | nil => exact absurd tokens (matched_words closed found occupied)
  | cons token others =>
    have skipped (text : List Char) : g.read token.symbol (char :: text) = g.read token.symbol text := by
      rw [Grammar.read,List.dropWhile_cons_of_pos space,Grammar.read]
    simp only [List.cons_append,Grammar.spell,skipped]

theorem derives_of_writes {start : R} {value : V} (written : Writes g t (.rule start) [value] text follow) (ends : follow []) :
    ∃ tree, g.Derives start text tree ∧ t.transformAll (g.shape tree) = .ok [value] := by
  obtain ⟨trees,found,transformed,reads⟩ := written
  obtain ⟨index,alternative,children,present,body,rfl⟩ := matches_rule.mp found
  refine ⟨_,⟨found,[],?_,rfl⟩,?_⟩
  · simpa only [Tree.words,List.append_nil] using reads [] ends
  · simpa only [Grammar.shapes,List.append_nil] using transformed

end

end Lark
