import Mathlib.Data.List.Basic

-- Grammars in Lark's notation, over the names `T` of the terminals and `R` of the
-- rules: what trees a grammar derives, how the leaves of a tree read a text, and
-- which tree a transformer sees.
namespace Lark

-- The right-hand side of a rule. `opt` is `x?`, `maybe` is `[x]`.
inductive Pattern (T R : Type) where
  | literal (text : String)
  | terminal (name : T)
  | rule (name : R)
  | seq (first second : Pattern T R)
  | alt (first second : Pattern T R)
  | opt (body : Pattern T R)
  | star (body : Pattern T R)
  | maybe (body : Pattern T R)

-- An absent `[x]` leaves one `None` for each child that `x` would have left.
def Pattern.placeholders : Pattern T R → Nat
  | .literal _ | .star _ => 0
  | .terminal _ | .rule _ => 1
  | .seq first second => first.placeholders + second.placeholders
  | .alt first second => max first.placeholders second.placeholders
  | .opt body | .maybe body => body.placeholders

inductive Symbol (T : Type) where
  | literal (text : String)
  | terminal (name : T)
  deriving DecidableEq

structure Token (T : Type) where
  symbol : Symbol T
  text : List Char
  deriving DecidableEq

structure Alternative (T R : Type) where
  pattern : Pattern T R
  label : Option R

-- `inline` marks the rules written with a leading question mark.
structure Grammar (T R : Type) where
  alternatives : R → List (Alternative T R)
  inline : R → Bool
  accepts : T → List Char → Bool
  ignored : Char → Bool

inductive Tree (T R : Type) where
  | token (token : Token T)
  | absent
  | node (rule : R) (alternative : Nat) (children : List (Tree T R))

mutual
def Tree.word : Tree T R → List (Token T)
  | .token leaf => [leaf]
  | .absent => []
  | .node _ _ children => Tree.words children
def Tree.words : List (Tree T R) → List (Token T)
  | [] => []
  | tree :: rest => tree.word ++ Tree.words rest
end

inductive Matches (g : Grammar T R) : Pattern T R → List (Tree T R) → Prop where
  | literal {text : String} : Matches g (.literal text) [.token ⟨.literal text,text.toList⟩]
  | terminal {name : T} {text : List Char} (accepted : g.accepts name text = true) :
      Matches g (.terminal name) [.token ⟨.terminal name,text⟩]
  | rule {name : R} {index : Nat} {alternative : Alternative T R} {children : List (Tree T R)}
      (found : (g.alternatives name)[index]? = some alternative)
      (body : Matches g alternative.pattern children) : Matches g (.rule name) [.node name index children]
  | seq {first second : Pattern T R} {left right : List (Tree T R)}
      (leading : Matches g first left) (following : Matches g second right) :
      Matches g (.seq first second) (left ++ right)
  | altLeft {first second : Pattern T R} {children : List (Tree T R)}
      (body : Matches g first children) : Matches g (.alt first second) children
  | altRight {first second : Pattern T R} {children : List (Tree T R)}
      (body : Matches g second children) : Matches g (.alt first second) children
  | optNone {body : Pattern T R} : Matches g (.opt body) []
  | optSome {body : Pattern T R} {children : List (Tree T R)}
      (present : Matches g body children) : Matches g (.opt body) children
  | starNil {body : Pattern T R} : Matches g (.star body) []
  | starCons {body : Pattern T R} {head tail : List (Tree T R)}
      (once : Matches g body head) (more : Matches g (.star body) tail) : Matches g (.star body) (head ++ tail)
  | maybeNone {body : Pattern T R} : Matches g (.maybe body) (List.replicate body.placeholders .absent)
  | maybeSome {body : Pattern T R} {children : List (Tree T R)}
      (present : Matches g body children) : Matches g (.maybe body) children

def scan (accepts : List Char → Bool) : List Char → Option (List Char × List Char)
  | [] => if accepts [] then some ([],[]) else none
  | char :: rest =>
    match scan (fun tail => accepts (char :: tail)) rest with
    | some (lexeme,remaining) => some (char :: lexeme,remaining)
    | none => if accepts [] then some ([],char :: rest) else none

def Grammar.recognizes (g : Grammar T R) : Symbol T → List Char → Bool
  | .literal text => fun lexeme => lexeme == text.toList
  | .terminal name => g.accepts name

def Grammar.read (g : Grammar T R) (symbol : Symbol T) (text : List Char) : Option (List Char × List Char) :=
  scan (g.recognizes symbol) (text.dropWhile g.ignored)

def Grammar.spell (g : Grammar T R) : List (Token T) → List Char → Option (List Char)
  | [],text => some text
  | token :: tokens,text =>
    match g.read token.symbol text with
    | some (lexeme,rest) => if lexeme = token.text then g.spell tokens rest else none
    | none => none

def Grammar.Derives (g : Grammar T R) (start : R) (text : List Char) (tree : Tree T R) : Prop :=
  Matches g (.rule start) [tree] ∧ ∃ rest, g.spell tree.word text = some rest ∧ rest.dropWhile g.ignored = []

inductive Item (T R : Type) where
  | token (token : Token T)
  | absent
  | tree (data : R) (children : List (Item T R))

def Grammar.labelled (g : Grammar T R) (rule : R) (index : Nat) (children : List (Item T R)) : List (Item T R) :=
  match (g.alternatives rule)[index]?.bind Alternative.label with
  | some data => [.tree data children]
  | none => if g.inline rule ∧ children.length = 1 then children else [.tree rule children]

-- A string of the grammar's text is left out, an inlined rule with one child is that child.
mutual
def Grammar.shape (g : Grammar T R) : Tree T R → List (Item T R)
  | .token ⟨.literal _,_⟩ => []
  | .token leaf => [.token leaf]
  | .absent => [.absent]
  | .node rule index children => g.labelled rule index (g.shapes children)
def Grammar.shapes (g : Grammar T R) : List (Tree T R) → List (Item T R)
  | [] => []
  | tree :: rest => g.shape tree ++ g.shapes rest
end

structure Transformer (T R E V : Type) where
  token : Token T → V
  absent : V
  callback : R → List V → Except E V

mutual
def Transformer.transform (t : Transformer T R E V) : Item T R → Except E V
  | .token leaf => .ok (t.token leaf)
  | .absent => .ok t.absent
  | .tree data children => do t.callback data (← t.transformAll children)
def Transformer.transformAll (t : Transformer T R E V) : List (Item T R) → Except E (List V)
  | [] => .ok []
  | item :: rest => do
    let value ← t.transform item
    let values ← t.transformAll rest
    return value :: values
end

def Grammar.combine (g : Grammar T R) (t : Transformer T R E V) (rule : R) (index : Nat) (values : List V) : Except E V :=
  match (g.alternatives rule)[index]?.bind Alternative.label with
  | some data => t.callback data values
  | none =>
    if g.inline rule then
      match values with
      | [value] => .ok value
      | values => t.callback rule values
    else t.callback rule values

theorem transformAll_append (t : Transformer T R E V) (left right : List (Item T R)) :
    t.transformAll (left ++ right) = do return (← t.transformAll left) ++ (← t.transformAll right) := by
  induction left with
  | nil =>
    simp only [List.nil_append,Transformer.transformAll]
    cases t.transformAll right <;> rfl
  | cons item rest ih =>
    simp only [List.cons_append,Transformer.transformAll,ih]
    cases t.transform item with
    | error raised => rfl
    | ok value =>
      cases t.transformAll rest with
      | error raised => rfl
      | ok values => cases t.transformAll right <;> rfl

theorem shapes_append (g : Grammar T R) (left right : List (Tree T R)) :
    g.shapes (left ++ right) = g.shapes left ++ g.shapes right := by
  induction left with
  | nil => rfl
  | cons tree rest ih => simp only [List.cons_append,Grammar.shapes,ih,List.append_assoc]

theorem transformAll_placeholders (g : Grammar T R) (t : Transformer T R E V) (count : Nat) :
    t.transformAll (g.shapes (List.replicate count .absent)) = .ok (List.replicate count t.absent) := by
  induction count with
  | zero => rfl
  | succ count ih =>
    simp only [List.replicate_succ,Grammar.shapes,Grammar.shape,List.singleton_append,
      Transformer.transformAll,Transformer.transform,ih]
    rfl

theorem transformAll_length (t : Transformer T R E V) (items : List (Item T R)) (values : List V)
    (transformed : t.transformAll items = .ok values) : values.length = items.length := by
  induction items generalizing values with
  | nil => cases transformed; rfl
  | cons item rest ih =>
    simp only [Transformer.transformAll] at transformed
    cases first : t.transform item with
    | error raised => rw [first] at transformed; cases transformed
    | ok value =>
      cases others : t.transformAll rest with
      | error raised => rw [first,others] at transformed; cases transformed
      | ok more =>
        rw [first,others] at transformed
        cases transformed
        simp [ih more others]

theorem transformAll_single (t : Transformer T R E V) (item : Item T R) :
    t.transformAll [item] = (t.transform item).map ([·]) := by
  simp only [Transformer.transformAll]
  cases t.transform item <;> rfl

theorem transform_node (g : Grammar T R) (t : Transformer T R E V) (rule : R) (index : Nat)
    (children : List (Tree T R)) (values : List V)
    (transformed : t.transformAll (g.shapes children) = .ok values) :
    t.transformAll (g.shape (.node rule index children)) = (g.combine t rule index values).map ([·]) := by
  have length := transformAll_length t _ _ transformed
  simp only [Grammar.shape,Grammar.labelled,Grammar.combine]
  have called (data : R) : t.transformAll [.tree data (g.shapes children)] = (t.callback data values).map ([·]) := by
    simp only [transformAll_single,Transformer.transform,transformed]
    rfl
  cases (g.alternatives rule)[index]?.bind Alternative.label with
  | some data => exact called data
  | none =>
    cases inlined : g.inline rule with
    | false => simpa [inlined] using called rule
    | true =>
      by_cases single : (g.shapes children).length = 1
      · obtain ⟨value,rfl⟩ := List.length_eq_one_iff.mp (length.trans single)
        simp only [single,and_self,if_true,transformed]
        rfl
      · simp only [single,and_false,if_false,if_true,called]
        split
        · next value => exact absurd length.symm single
        · rfl

inductive Yields (g : Grammar T R) (t : Transformer T R E V) (sort : R → V → Prop) : Pattern T R → List V → Prop where
  | literal {text : String} : Yields g t sort (.literal text) []
  | terminal {name : T} {text : List Char} (accepted : g.accepts name text = true) :
      Yields g t sort (.terminal name) [t.token ⟨.terminal name,text⟩]
  | rule {name : R} {value : V} (sorted : sort name value) : Yields g t sort (.rule name) [value]
  | seq {first second : Pattern T R} {left right : List V}
      (leading : Yields g t sort first left) (following : Yields g t sort second right) :
      Yields g t sort (.seq first second) (left ++ right)
  | altLeft {first second : Pattern T R} {values : List V}
      (body : Yields g t sort first values) : Yields g t sort (.alt first second) values
  | altRight {first second : Pattern T R} {values : List V}
      (body : Yields g t sort second values) : Yields g t sort (.alt first second) values
  | optNone {body : Pattern T R} : Yields g t sort (.opt body) []
  | optSome {body : Pattern T R} {values : List V}
      (present : Yields g t sort body values) : Yields g t sort (.opt body) values
  | starNil {body : Pattern T R} : Yields g t sort (.star body) []
  | starCons {body : Pattern T R} {head tail : List V}
      (once : Yields g t sort body head) (more : Yields g t sort (.star body) tail) :
      Yields g t sort (.star body) (head ++ tail)
  | maybeNone {body : Pattern T R} : Yields g t sort (.maybe body) (List.replicate body.placeholders t.absent)
  | maybeSome {body : Pattern T R} {values : List V}
      (present : Yields g t sort body values) : Yields g t sort (.maybe body) values

section
variable {g : Grammar T R} {t : Transformer T R E V} {sort : R → V → Prop} {values : List V}

@[simp] theorem yields_literal {text : String} : Yields g t sort (.literal text) values ↔ values = [] := by
  constructor
  · intro yielded; cases yielded; rfl
  · rintro rfl; exact .literal

@[simp] theorem yields_terminal {name : T} : Yields g t sort (.terminal name) values ↔
    ∃ text, g.accepts name text = true ∧ values = [t.token ⟨.terminal name,text⟩] := by
  constructor
  · intro yielded; cases yielded with | terminal accepted => exact ⟨_,accepted,rfl⟩
  · rintro ⟨text,accepted,rfl⟩; exact .terminal accepted

@[simp] theorem yields_rule {name : R} : Yields g t sort (.rule name) values ↔
    ∃ value, sort name value ∧ values = [value] := by
  constructor
  · intro yielded; cases yielded with | rule sorted => exact ⟨_,sorted,rfl⟩
  · rintro ⟨value,sorted,rfl⟩; exact .rule sorted

@[simp] theorem yields_seq {first second : Pattern T R} : Yields g t sort (.seq first second) values ↔
    ∃ left, Yields g t sort first left ∧ ∃ right, Yields g t sort second right ∧ values = left ++ right := by
  constructor
  · intro yielded; cases yielded with | seq leading following => exact ⟨_,leading,_,following,rfl⟩
  · rintro ⟨left,leading,right,following,rfl⟩; exact .seq leading following

@[simp] theorem yields_alt {first second : Pattern T R} : Yields g t sort (.alt first second) values ↔
    Yields g t sort first values ∨ Yields g t sort second values := by
  constructor
  · intro yielded
    cases yielded with
    | altLeft body => exact .inl body
    | altRight body => exact .inr body
  · rintro (body | body)
    · exact .altLeft body
    · exact .altRight body

@[simp] theorem yields_opt {body : Pattern T R} : Yields g t sort (.opt body) values ↔
    values = [] ∨ Yields g t sort body values := by
  constructor
  · intro yielded
    cases yielded with
    | optNone => exact .inl rfl
    | optSome present => exact .inr present
  · rintro (rfl | present)
    · exact .optNone
    · exact .optSome present

@[simp] theorem yields_maybe {body : Pattern T R} : Yields g t sort (.maybe body) values ↔
    values = List.replicate body.placeholders t.absent ∨ Yields g t sort body values := by
  constructor
  · intro yielded
    cases yielded with
    | maybeNone => exact .inl rfl
    | maybeSome present => exact .inr present
  · rintro (rfl | present)
    · exact .maybeNone
    · exact .maybeSome present

theorem yields_star {body : Pattern T R} {property : V → Prop} (yielded : Yields g t sort (.star body) values)
    (each : ∀ once, Yields g t sort body once → ∀ value ∈ once, property value) : ∀ value ∈ values, property value := by
  generalize starred : Pattern.star body = pattern at yielded
  induction yielded with
  | starNil => intro value member; cases member
  | starCons once more ihOnce ihMore =>
    cases starred
    intro value member
    rcases List.mem_append.mp member with first | later
    · exact each _ once value first
    · exact ihMore rfl value later
  | _ => cases starred

theorem yields_separated {head item : Pattern T R} {separator : String} {property : V → Prop}
    (yielded : Yields g t sort (.seq head (.star (.seq (.literal separator) item))) values)
    (first : ∀ once, Yields g t sort head once → ∀ value ∈ once, property value)
    (each : ∀ once, Yields g t sort item once → ∀ value ∈ once, property value) : ∀ value ∈ values, property value := by
  obtain ⟨left,leading,right,following,rfl⟩ := yields_seq.mp yielded
  have others := yields_star following fun once body => by
    obtain ⟨_,separated,right,item,rfl⟩ := yields_seq.mp body
    cases yields_literal.mp separated
    exact each right item
  intro value member
  rcases List.mem_append.mp member with early | late
  · exact first left leading value early
  · exact others value late

end

theorem transform_sorted (g : Grammar T R) (t : Transformer T R E V) (sort : R → V → Prop)
    (alternatives : ∀ rule index alternative values, (g.alternatives rule)[index]? = some alternative →
      Yields g t sort alternative.pattern values →
      ∃ value, g.combine t rule index values = .ok value ∧ sort rule value)
    {pattern : Pattern T R} {trees : List (Tree T R)} (found : Matches g pattern trees) :
    ∃ values, t.transformAll (g.shapes trees) = .ok values ∧ Yields g t sort pattern values := by
  have joined {left right : List (Tree T R)} {first second : List V}
      (leading : t.transformAll (g.shapes left) = .ok first)
      (following : t.transformAll (g.shapes right) = .ok second) :
      t.transformAll (g.shapes (left ++ right)) = .ok (first ++ second) := by
    rw [shapes_append,transformAll_append,leading,following]
    rfl
  induction found with
  | literal => exact ⟨[],rfl,.literal⟩
  | terminal accepted => exact ⟨_,rfl,.terminal accepted⟩
  | @rule name index alternative children present body ih =>
    obtain ⟨values,transformed,yielded⟩ := ih
    obtain ⟨value,combined,sorted⟩ := alternatives _ _ _ _ present yielded
    have whole := transform_node g t name index children values transformed
    rw [combined] at whole
    refine ⟨[value],?_,.rule sorted⟩
    simpa only [Grammar.shapes,List.append_nil,Except.map] using whole
  | seq leading following ihLeading ihFollowing =>
    obtain ⟨first,transformedFirst,yieldedFirst⟩ := ihLeading
    obtain ⟨second,transformedSecond,yieldedSecond⟩ := ihFollowing
    exact ⟨first ++ second,joined transformedFirst transformedSecond,.seq yieldedFirst yieldedSecond⟩
  | altLeft body ih =>
    obtain ⟨values,transformed,yielded⟩ := ih
    exact ⟨values,transformed,.altLeft yielded⟩
  | altRight body ih =>
    obtain ⟨values,transformed,yielded⟩ := ih
    exact ⟨values,transformed,.altRight yielded⟩
  | optNone => exact ⟨[],rfl,.optNone⟩
  | optSome present ih =>
    obtain ⟨values,transformed,yielded⟩ := ih
    exact ⟨values,transformed,.optSome yielded⟩
  | starNil => exact ⟨[],rfl,.starNil⟩
  | starCons once more ihOnce ihMore =>
    obtain ⟨first,transformedFirst,yieldedFirst⟩ := ihOnce
    obtain ⟨second,transformedSecond,yieldedSecond⟩ := ihMore
    exact ⟨first ++ second,joined transformedFirst transformedSecond,.starCons yieldedFirst yieldedSecond⟩
  | @maybeNone body => exact ⟨_,transformAll_placeholders g t body.placeholders,.maybeNone⟩
  | maybeSome present ih =>
    obtain ⟨values,transformed,yielded⟩ := ih
    exact ⟨values,transformed,.maybeSome yielded⟩

end Lark
