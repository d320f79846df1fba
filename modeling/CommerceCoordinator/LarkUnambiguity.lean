import CommerceCoordinator.LarkReading

-- When a pattern has one reading of a text: rules for each form of pattern, from the
-- symbols that patterns begin with and the symbols that may not follow.
namespace Lark

-- Two readings of a text shorter than `bound` are the same when a blocked symbol follows neither.
def Agree (g : Grammar T R) (pattern : Pattern T R) (bound : Nat) (blocked : List (Symbol T)) : Prop :=
  ∀ trees trees' text rest rest', text.length < bound → Matches g pattern trees → Matches g pattern trees' →
    g.spell (Tree.words trees) text = some rest → g.spell (Tree.words trees') text = some rest' →
    g.Stopped blocked rest → g.Stopped blocked rest' → trees = trees' ∧ rest = rest'

section
variable {g : Grammar T R} {ruleFirsts : R → List (Symbol T)} {bound : Nat} {blocked inner : List (Symbol T)}

theorem agree_token (pattern : Pattern T R) (symbol : Symbol T)
    (single : ∀ trees, Matches g pattern trees → ∃ text, trees = [.token ⟨symbol,text⟩]) : Agree g pattern bound blocked := by
  intro trees trees' text rest rest' _ found found' spelled spelled' _ _
  obtain ⟨lexeme,rfl⟩ := single trees found
  obtain ⟨lexeme',rfl⟩ := single trees' found'
  have read := (spell_token g _ _ _).mp spelled
  have read' := (spell_token g _ _ _).mp spelled'
  have same := read.symm.trans read'
  simp only [Option.some.injEq,Prod.mk.injEq] at same
  obtain ⟨rfl,rfl⟩ := same
  exact ⟨rfl,rfl⟩

theorem agree_literal (text : String) : Agree g (.literal text) bound blocked :=
  agree_token _ (.literal text) fun _ found => ⟨_,matches_literal.mp found⟩

theorem agree_terminal (name : T) : Agree g (.terminal name) bound blocked :=
  agree_token _ (.terminal name) fun _ found => by
    obtain ⟨text,_,rfl⟩ := matches_terminal.mp found
    exact ⟨text,rfl⟩

theorem agree_mono {pattern : Pattern T R} (agree : Agree g pattern bound inner) (within : inner ⊆ blocked) :
    Agree g pattern bound blocked :=
  fun trees trees' text rest rest' short found found' spelled spelled' stopped stopped' =>
    agree trees trees' text rest rest' short found found' spelled spelled' (stopped_mono stopped within)
      (stopped_mono stopped' within)

theorem following_stopped (closed : g.FirstsClosed ruleFirsts) {second : Pattern T R}
    (apart : g.Exclude (second.firsts ruleFirsts) inner) (last : second.nullable = true → inner ⊆ blocked)
    {trees : List (Tree T R)} {text rest : List Char} (found : Matches g second trees)
    (spelled : g.spell (Tree.words trees) text = some rest) (stopped : g.Stopped blocked rest) : g.Stopped inner text := by
  rcases matches_begins closed found text rest spelled with begins | ⟨nullable,empty⟩
  · exact apart text begins
  · rw [empty] at spelled
    cases spelled
    exact stopped_mono stopped (last nullable)

variable (inner) in
theorem agree_seq (closed : g.FirstsClosed ruleFirsts) {first second : Pattern T R} (leading : Agree g first bound inner)
    (following : Agree g second bound blocked) (apart : g.Exclude (second.firsts ruleFirsts) inner)
    (last : second.nullable = true → inner ⊆ blocked) : Agree g (.seq first second) bound blocked := by
  intro trees trees' text rest rest' short found found' spelled spelled' stopped stopped'
  obtain ⟨left,foundLeft,right,foundRight,rfl⟩ := matches_seq.mp found
  obtain ⟨left',foundLeft',right',foundRight',rfl⟩ := matches_seq.mp found'
  rw [words_append,spell_append] at spelled spelled'
  obtain ⟨middle,spelledLeft,spelledRight⟩ := Option.bind_eq_some_iff.mp spelled
  obtain ⟨middle',spelledLeft',spelledRight'⟩ := Option.bind_eq_some_iff.mp spelled'
  obtain ⟨rfl,rfl⟩ := leading left left' text middle middle' short foundLeft foundLeft' spelledLeft spelledLeft'
    (following_stopped closed apart last foundRight spelledRight stopped)
    (following_stopped closed apart last foundRight' spelledRight' stopped')
  have shorter := spell_length g _ _ _ spelledLeft
  obtain ⟨rfl,rfl⟩ := following right right' middle rest rest' (by omega) foundRight foundRight' spelledRight
    spelledRight' stopped stopped'
  exact ⟨rfl,rfl⟩

theorem exclude_nil {symbols : List (Symbol T)} : g.Exclude symbols [] :=
  fun _ _ _ member => by cases member

theorem agree_then (closed : g.FirstsClosed ruleFirsts) {first second : Pattern T R} (leading : Agree g first bound [])
    (following : Agree g second bound blocked) : Agree g (.seq first second) bound blocked :=
  agree_seq [] closed leading following exclude_nil fun _ => List.nil_subset _

theorem agree_after (literal : String) (char : Char) (chars : List Char) (nonempty : literal.toList = char :: chars)
    {second : Pattern T R} (following : Agree g second bound blocked) :
    Agree g (.seq (.literal literal) second) (bound + 1) blocked := by
  intro trees trees' text rest rest' short found found' spelled spelled' stopped stopped'
  obtain ⟨left,foundLeft,right,foundRight,rfl⟩ := matches_seq.mp found
  obtain ⟨left',foundLeft',right',foundRight',rfl⟩ := matches_seq.mp found'
  cases matches_literal.mp foundLeft
  cases matches_literal.mp foundLeft'
  rw [words_append,spell_append] at spelled spelled'
  obtain ⟨middle,spelledLeft,spelledRight⟩ := Option.bind_eq_some_iff.mp spelled
  obtain ⟨middle',spelledLeft',spelledRight'⟩ := Option.bind_eq_some_iff.mp spelled'
  cases spelledLeft.symm.trans spelledLeft'
  have shorter := read_length g _ _ _ _ ((spell_token g _ _ _).mp spelledLeft)
  simp only [nonempty,List.length_cons] at shorter
  obtain ⟨rfl,rfl⟩ := following right right' middle rest rest' (by omega) foundRight foundRight' spelledRight
    spelledRight' stopped stopped'
  exact ⟨rfl,rfl⟩

theorem matched_begins (closed : g.FirstsClosed ruleFirsts) {pattern : Pattern T R} (occupied : pattern.nullable = false)
    {trees : List (Tree T R)} {text rest : List Char} (found : Matches g pattern trees)
    (spelled : g.spell (Tree.words trees) text = some rest) : g.Begins (pattern.firsts ruleFirsts) text := by
  rcases matches_begins closed found text rest spelled with begins | ⟨nullable,_⟩
  · exact begins
  · rw [occupied] at nullable; cases nullable

theorem agree_alt (closed : g.FirstsClosed ruleFirsts) {first second : Pattern T R} (one : Agree g first bound blocked)
    (other : Agree g second bound blocked) (occupied : first.nullable = false) (occupied' : second.nullable = false)
    (apart : g.Exclude (first.firsts ruleFirsts) (second.firsts ruleFirsts)) :
    Agree g (.alt first second) bound blocked := by
  intro trees trees' text rest rest' short found found' spelled spelled' stopped stopped'
  rcases matches_alt.mp found with body | body <;> rcases matches_alt.mp found' with body' | body'
  · exact one trees trees' text rest rest' short body body' spelled spelled' stopped stopped'
  · have never := apart text (matched_begins closed occupied body spelled)
    exact absurd never (begins_not_stopped (matched_begins closed occupied' body' spelled'))
  · have never := apart text (matched_begins closed occupied body' spelled')
    exact absurd never (begins_not_stopped (matched_begins closed occupied' body spelled))
  · exact other trees trees' text rest rest' short body body' spelled spelled' stopped stopped'

theorem agree_optional (closed : g.FirstsClosed ruleFirsts) {pattern body : Pattern T R} (absent : List (Tree T R))
    (either : ∀ trees, Matches g pattern trees → trees = absent ∨ Matches g body trees)
    (empty : Tree.words absent = []) (agree : Agree g body bound blocked) (occupied : body.nullable = false)
    (within : body.firsts ruleFirsts ⊆ blocked) : Agree g pattern bound blocked := by
  have never {trees : List (Tree T R)} {text rest rest' : List Char} (found : Matches g body trees)
      (spelled : g.spell (Tree.words trees) text = some rest) (nothing : g.spell (Tree.words absent) text = some rest')
      (stopped : g.Stopped blocked rest') : False := by
    rw [empty] at nothing
    cases nothing
    exact begins_not_stopped (begins_mono (matched_begins closed occupied found spelled) within) stopped
  intro trees trees' text rest rest' short found found' spelled spelled' stopped stopped'
  rcases either trees found with rfl | body <;> rcases either trees' found' with rfl | body'
  · cases spelled.symm.trans spelled'
    exact ⟨rfl,rfl⟩
  · exact (never body' spelled' spelled stopped).elim
  · exact (never body spelled spelled' stopped').elim
  · exact agree trees trees' text rest rest' short body body' spelled spelled' stopped stopped'

theorem agree_opt (closed : g.FirstsClosed ruleFirsts) {body : Pattern T R} (agree : Agree g body bound blocked)
    (occupied : body.nullable = false) (within : body.firsts ruleFirsts ⊆ blocked) : Agree g (.opt body) bound blocked :=
  agree_optional closed [] (fun _ => matches_opt.mp) rfl agree occupied within

theorem agree_maybe (closed : g.FirstsClosed ruleFirsts) {body : Pattern T R} (agree : Agree g body bound blocked)
    (occupied : body.nullable = false) (within : body.firsts ruleFirsts ⊆ blocked) : Agree g (.maybe body) bound blocked :=
  agree_optional closed _ (fun _ => matches_maybe.mp) (words_absent _) agree occupied within

theorem agree_star (closed : g.FirstsClosed ruleFirsts) {body : Pattern T R} (agree : Agree g body bound inner)
    (occupied : body.nullable = false) (apart : g.Exclude (body.firsts ruleFirsts) inner) (continued : inner ⊆ blocked)
    (within : body.firsts ruleFirsts ⊆ blocked) : Agree g (.star body) bound blocked := by
  have starred : g.Exclude ((Pattern.star body).firsts ruleFirsts) inner := apart
  intro trees trees' text rest rest' short found
  generalize written : Pattern.star body = pattern at found
  induction found generalizing trees' text with
  | starNil =>
    cases written
    intro found' spelled spelled' stopped stopped'
    cases spelled
    rcases matches_star.mp found' with rfl | ⟨once,more,foundOnce,foundMore,rfl⟩
    · cases spelled'
      exact ⟨rfl,rfl⟩
    · rw [words_append,spell_append] at spelled'
      obtain ⟨middle,spelledOnce,_⟩ := Option.bind_eq_some_iff.mp spelled'
      have begins := matched_begins closed occupied foundOnce spelledOnce
      exact absurd stopped (begins_not_stopped (begins_mono begins within))
  | starCons foundOnce foundMore _ ih =>
    cases written
    intro found' spelled spelled' stopped stopped'
    rw [words_append,spell_append] at spelled
    obtain ⟨middle,spelledOnce,spelledMore⟩ := Option.bind_eq_some_iff.mp spelled
    rcases matches_star.mp found' with rfl | ⟨once',more',foundOnce',foundMore',rfl⟩
    · cases spelled'
      have begins := matched_begins closed occupied foundOnce spelledOnce
      exact absurd stopped' (begins_not_stopped (begins_mono begins within))
    · rw [words_append,spell_append] at spelled'
      obtain ⟨middle',spelledOnce',spelledMore'⟩ := Option.bind_eq_some_iff.mp spelled'
      have stops {more : List (Tree T R)} {middle rest : List Char} (found : Matches g (.star body) more)
          (spelled : g.spell (Tree.words more) middle = some rest) (stopped : g.Stopped blocked rest) :
          g.Stopped inner middle :=
        following_stopped closed starred (fun _ => continued) found spelled stopped
      obtain ⟨rfl,rfl⟩ := agree _ _ text middle middle' short foundOnce foundOnce' spelledOnce spelledOnce'
        (stops foundMore spelledMore stopped) (stops foundMore' spelledMore' stopped')
      have shorter := spell_length g _ _ _ spelledOnce
      obtain ⟨rfl,rfl⟩ := ih more' middle (by omega) rfl foundMore' spelledMore spelledMore' stopped stopped'
      exact ⟨rfl,rfl⟩
  | _ => cases written

variable (inner) in
theorem agree_separated (closed : g.FirstsClosed ruleFirsts) {head item : Pattern T R} {separator : String}
    (first : Agree g head bound inner) (agree : Agree g item bound inner) (apart : g.Exclude [.literal separator] inner)
    (continued : inner ⊆ blocked) (within : Symbol.literal separator ∈ blocked) :
    Agree g (.seq head (.star (.seq (.literal separator) item))) bound blocked := by
  have each : Agree g (.seq (.literal separator) item) bound inner :=
    agree_then closed (agree_literal separator) agree
  have starred : Agree g (.star (.seq (.literal separator) item)) bound blocked := by
    refine agree_star closed each rfl apart continued ?_
    simpa [Pattern.firsts,Pattern.nullable] using within
  exact agree_seq inner closed first starred apart fun _ => continued

theorem agree_rule (closed : g.FirstsClosed ruleFirsts) (name : R)
    (each : ∀ (index : Nat) (alternative : Alternative T R), (g.alternatives name)[index]? = some alternative →
      Agree g alternative.pattern bound blocked)
    (apart : ∀ (index index' : Nat) (one other : Alternative T R), index < index' →
      (g.alternatives name)[index]? = some one → (g.alternatives name)[index']? = some other →
      g.Exclude (one.pattern.firsts ruleFirsts) (other.pattern.firsts ruleFirsts)) :
    Agree g (.rule name) bound blocked := by
  intro trees trees' text rest rest' short found found' spelled spelled' stopped stopped'
  obtain ⟨index,one,children,present,body,rfl⟩ := matches_rule.mp found
  obtain ⟨index',other,children',present',body',rfl⟩ := matches_rule.mp found'
  simp only [Tree.words,Tree.word,List.append_nil] at spelled spelled'
  by_cases same : index = index'
  · subst same
    cases Option.some.inj (present.symm.trans present')
    obtain ⟨rfl,rfl⟩ := each index one present children children' text rest rest' short body body' spelled spelled'
      stopped stopped'
    exact ⟨rfl,rfl⟩
  · have begins := matched_begins closed (closed name index one present).1 body spelled
    have begins' := matched_begins closed (closed name index' other present').1 body' spelled'
    rcases Nat.lt_or_gt_of_ne same with before | after
    · exact absurd (apart index index' one other before present present' text begins) (begins_not_stopped begins')
    · exact absurd (apart index' index other one after present' present text begins') (begins_not_stopped begins)

theorem agree_only (name : R) (alternative : Alternative T R) (only : g.alternatives name = [alternative])
    (agree : Agree g alternative.pattern bound blocked) : Agree g (.rule name) bound blocked := by
  intro trees trees' text rest rest' short found found' spelled spelled' stopped stopped'
  obtain ⟨index,one,children,present,body,rfl⟩ := matches_rule.mp found
  obtain ⟨index',other,children',present',body',rfl⟩ := matches_rule.mp found'
  simp only [Tree.words,Tree.word,List.append_nil] at spelled spelled'
  rw [only] at present present'
  rcases index with _ | index <;> cases present
  rcases index' with _ | index' <;> cases present'
  obtain ⟨rfl,rfl⟩ := agree children children' text rest rest' short body body' spelled spelled' stopped stopped'
  exact ⟨rfl,rfl⟩

theorem agree_shared (closed : g.FirstsClosed ruleFirsts) (name : R) (head : Pattern T R) (tails : Nat → Pattern T R)
    (leading : Agree g head bound inner)
    (each : ∀ (index : Nat) (alternative : Alternative T R), (g.alternatives name)[index]? = some alternative →
      alternative.pattern = .seq head (tails index) ∧ (tails index).nullable = false ∧
        Agree g (tails index) bound blocked ∧ g.Exclude ((tails index).firsts ruleFirsts) inner)
    (apart : ∀ (index index' : Nat), index < index' → index' < (g.alternatives name).length →
      g.Exclude ((tails index).firsts ruleFirsts) ((tails index').firsts ruleFirsts)) :
    Agree g (.rule name) bound blocked := by
  intro trees trees' text rest rest' short found found' spelled spelled' stopped stopped'
  obtain ⟨index,one,children,present,body,rfl⟩ := matches_rule.mp found
  obtain ⟨index',other,children',present',body',rfl⟩ := matches_rule.mp found'
  obtain ⟨shape,occupied,agree,free⟩ := each index one present
  obtain ⟨shape',occupied',_,free'⟩ := each index' other present'
  rw [shape] at body
  rw [shape'] at body'
  simp only [Tree.words,Tree.word,List.append_nil] at spelled spelled'
  obtain ⟨left,foundLeft,right,foundRight,rfl⟩ := matches_seq.mp body
  obtain ⟨left',foundLeft',right',foundRight',rfl⟩ := matches_seq.mp body'
  rw [words_append,spell_append] at spelled spelled'
  obtain ⟨middle,spelledLeft,spelledRight⟩ := Option.bind_eq_some_iff.mp spelled
  obtain ⟨middle',spelledLeft',spelledRight'⟩ := Option.bind_eq_some_iff.mp spelled'
  have begins := matched_begins closed occupied foundRight spelledRight
  have begins' := matched_begins closed occupied' foundRight' spelledRight'
  obtain ⟨rfl,rfl⟩ := leading left left' text middle middle' short foundLeft foundLeft' spelledLeft spelledLeft'
    (free middle begins) (free' middle' begins')
  have shorter := spell_length g _ _ _ spelledLeft
  by_cases same : index = index'
  · subst same
    obtain ⟨rfl,rfl⟩ := agree right right' middle rest rest' (by omega) foundRight foundRight' spelledRight spelledRight'
      stopped stopped'
    exact ⟨rfl,rfl⟩
  · rcases Nat.lt_or_gt_of_ne same with before | after
    · have last := (List.getElem?_eq_some_iff.mp present').1
      exact absurd (apart index index' before last middle begins) (begins_not_stopped begins')
    · have last := (List.getElem?_eq_some_iff.mp present).1
      exact absurd (apart index' index after last middle begins') (begins_not_stopped begins)

end

-- Left recursion

section
variable {g : Grammar T R} {name item : R} {separator : String}

inductive Chain (g : Grammar T R) (name item : R) (separator : String) : Tree T R → List (Tree T R) → Prop where
  | single {x : Tree T R} (found : Matches g (.rule item) [x]) : Chain g name item separator (.node name 1 [x]) [x]
  | more {left x : Tree T R} {xs : List (Tree T R)} (before : Chain g name item separator left xs)
      (found : Matches g (.rule item) [x]) :
      Chain g name item separator (.node name 0 [left,.token ⟨.literal separator,separator.toList⟩,x])
        (xs ++ [.token ⟨.literal separator,separator.toList⟩,x])

theorem rule_single {trees : List (Tree T R)} (found : Matches g (.rule name) trees) : ∃ tree, trees = [tree] := by
  obtain ⟨index,alternative,children,_,_,rfl⟩ := matches_rule.mp found
  exact ⟨_,rfl⟩

def Grammar.LeftRecursive (g : Grammar T R) (name item : R) (separator : String) : Prop :=
  ∃ label label', g.alternatives name =
    [⟨.seq (.rule name) (.seq (.literal separator) (.rule item)),label⟩,⟨.rule item,label'⟩]

theorem left_recursive_cases (recursive : g.LeftRecursive name item separator) {name' : R} {index : Nat}
    {children : List (Tree T R)} (found : Matches g (.rule name) [.node name' index children]) : name' = name ∧
      ((∃ x, Matches g (.rule item) [x] ∧ index = 1 ∧ children = [x]) ∨
        ∃ left x, Matches g (.rule name) [left] ∧ Matches g (.rule item) [x] ∧ index = 0 ∧
          children = [left,.token ⟨.literal separator,separator.toList⟩,x]) := by
  obtain ⟨label,label',written⟩ := recursive
  cases found with
  | rule present body =>
    refine ⟨rfl,?_⟩
    rw [written] at present
    rcases index with _ | _ | index <;> cases present
    · right
      simp only [matches_seq,matches_literal] at body
      obtain ⟨left,foundLeft,right,⟨_,rfl,last,foundLast,rfl⟩,rfl⟩ := body
      obtain ⟨left,rfl⟩ := rule_single foundLeft
      obtain ⟨x,rfl⟩ := rule_single foundLast
      exact ⟨left,x,foundLeft,foundLast,rfl,rfl⟩
    · left
      obtain ⟨x,rfl⟩ := rule_single body
      exact ⟨x,body,rfl,rfl⟩

theorem chained (recursive : g.LeftRecursive name item separator) {pattern : Pattern T R} {trees : List (Tree T R)}
    (found : Matches g pattern trees) : ∀ tree ∈ trees, Matches g (.rule name) [tree] →
      ∃ xs, Chain g name item separator tree xs := by
  induction found with
  | literal => intro tree member derived; cases List.mem_singleton.mp member; cases derived
  | terminal accepted => intro tree member derived; cases List.mem_singleton.mp member; cases derived
  | @rule name' index alternative children present body ih =>
    intro tree member derived
    cases List.mem_singleton.mp member
    obtain ⟨rfl,⟨x,found,rfl,rfl⟩ | ⟨left,x,foundLeft,found,rfl,rfl⟩⟩ := left_recursive_cases recursive derived
    · exact ⟨_,.single found⟩
    · obtain ⟨xs,before⟩ := ih left (by simp) foundLeft
      exact ⟨_,.more before found⟩
  | seq leading following ihLeading ihFollowing =>
    intro tree member
    exact (List.mem_append.mp member).elim (ihLeading tree) (ihFollowing tree)
  | altLeft body ih => exact ih
  | altRight body ih => exact ih
  | optNone => intro tree member; cases member
  | optSome present ih => exact ih
  | starNil => intro tree member; cases member
  | starCons once more ihOnce ihMore =>
    intro tree member
    exact (List.mem_append.mp member).elim (ihOnce tree) (ihMore tree)
  | maybeNone => intro tree member derived; cases (List.mem_replicate.mp member).2; cases derived
  | maybeSome present ih => exact ih

theorem chain_matches {tree : Tree T R} {xs : List (Tree T R)} (chain : Chain g name item separator tree xs) :
    Matches g (.seq (.rule item) (.star (.seq (.literal separator) (.rule item)))) xs ∧ Tree.words xs = tree.word := by
  induction chain with
  | single found =>
    refine ⟨?_,rfl⟩
    rw [← List.append_nil [_]]
    exact .seq found .starNil
  | @more left x xs before found ih =>
    obtain ⟨listed,words⟩ := ih
    constructor
    · obtain ⟨first,foundFirst,others,foundOthers,rfl⟩ := matches_seq.mp listed
      rw [List.append_assoc]
      refine .seq foundFirst (matches_star_snoc foundOthers ?_)
      have step : Matches g (.seq (.literal separator) (.rule item))
          ([.token ⟨.literal separator,separator.toList⟩] ++ [x]) := .seq .literal found
      exact step
    · rw [words_append,words]
      simp only [Tree.word,Tree.words]

theorem chain_unique {tree tree' : Tree T R} {xs : List (Tree T R)} (chain : Chain g name item separator tree xs)
    (chain' : Chain g name item separator tree' xs) : tree = tree' := by
  induction chain generalizing tree' with
  | single found =>
    generalize single : [_] = xs at chain'
    cases chain' with
    | single found' => cases single; rfl
    | more before found' =>
      have longer := congrArg List.length single
      simp at longer
  | @more left x xs before found ih =>
    generalize same : xs ++ [_,_] = all at chain'
    cases chain' with
    | single found' =>
      have longer := congrArg List.length same
      simp at longer
    | more before' found' =>
      obtain ⟨rfl,last⟩ := List.append_inj' same rfl
      cases ih before'
      cases last
      rfl

theorem agree_left_recursive {ruleFirsts : R → List (Symbol T)} {bound : Nat} {blocked : List (Symbol T)}
    (inner : List (Symbol T)) (closed : g.FirstsClosed ruleFirsts) (recursive : g.LeftRecursive name item separator)
    (agree : Agree g (.rule item) bound inner) (apart : g.Exclude [.literal separator] inner)
    (continued : inner ⊆ blocked) (within : Symbol.literal separator ∈ blocked) : Agree g (.rule name) bound blocked := by
  intro trees trees' text rest rest' short found found' spelled spelled' stopped stopped'
  obtain ⟨tree,rfl⟩ := rule_single found
  obtain ⟨tree',rfl⟩ := rule_single found'
  obtain ⟨xs,chain⟩ := chained recursive found tree (by simp) found
  obtain ⟨xs',chain'⟩ := chained recursive found' tree' (by simp) found'
  obtain ⟨listed,words⟩ := chain_matches chain
  obtain ⟨listed',words'⟩ := chain_matches chain'
  simp only [Tree.words,List.append_nil,← words] at spelled
  simp only [Tree.words,List.append_nil,← words'] at spelled'
  obtain ⟨rfl,rfl⟩ := agree_separated inner closed agree agree apart continued within xs xs' text rest rest' short
    listed listed' spelled spelled' stopped stopped'
  rw [chain_unique chain chain']
  exact ⟨rfl,rfl⟩

theorem derivation_unique {start : R} {blocked : List (Symbol T)} (text : List Char)
    (agree : ∀ bound, Agree g (.rule start) bound blocked)
    (ends : ∀ rest, rest.dropWhile g.ignored = [] → g.Stopped blocked rest) {tree tree' : Tree T R}
    (derived : g.Derives start text tree) (derived' : g.Derives start text tree') : tree = tree' := by
  obtain ⟨found,rest,spelled,ended⟩ := derived
  obtain ⟨found',rest',spelled',ended'⟩ := derived'
  have whole {tree : Tree T R} {rest : List Char} (spelled : g.spell tree.word text = some rest) :
      g.spell (Tree.words [tree]) text = some rest := by
    simpa only [Tree.words,List.append_nil] using spelled
  have same := agree (text.length + 1) [tree] [tree'] text rest rest' (by omega) found found' (whole spelled) (whole spelled')
    (ends rest ended) (ends rest' ended')
  exact (List.cons.inj same.1).1

end

end Lark
