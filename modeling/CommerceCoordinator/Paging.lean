import Mathlib.Data.List.Basic
import Mathlib.Order.Lattice

-- Reading a table in pages: the first rows above the last key that was read, or
-- the next rows from an offset on.
namespace Paging

variable {Row Key : Type}

section Keyset
variable [LinearOrder Key] (key : Row → Key)

structure Table where
  rows : List Row
  sorted : rows.Pairwise fun a b => key a < key b

def Above (after : Option Key) (row : Row) : Prop := ∀ k, after = some k → k < key row

instance (after : Option Key) (row : Row) : Decidable (Above key after row) :=
  match after with
  | none => .isTrue (by simp [Above])
  | some k => decidable_of_iff (k < key row) (by simp [Above])

def pageAbove (after : Option Key) (limit : Nat) (rows : List Row) : List Row :=
  (rows.filter fun row => Above key after row).take limit

def cursor (after : Option Key) (page : List Row) : Option Key := (page.getLast?.map key).or after

variable {key} {after : Option Key} {limit : Nat} {rows : List Row} {row : Row}

theorem page_rows (member : row ∈ pageAbove key after limit rows) : row ∈ rows ∧ Above key after row := by
  have kept := List.mem_of_mem_take member
  simpa using kept

theorem page_sorted (sorted : rows.Pairwise fun a b => key a < key b) :
    (pageAbove key after limit rows).Pairwise fun a b => key a < key b :=
  (sorted.filter _).sublist (List.take_sublist _ _)

theorem short_page (short : (pageAbove key after limit rows).length ≠ limit) (member : row ∈ rows)
    (above : Above key after row) : row ∈ pageAbove key after limit rows := by
  unfold pageAbove at short ⊢
  rw [List.take_of_length_le (by rw [List.length_take] at short; omega)]
  simpa using ⟨member,above⟩

theorem beyond_page (sorted : rows.Pairwise fun a b => key a < key b) (member : row ∈ rows)
    (above : Above key after row) (missed : row ∉ pageAbove key after limit rows) :
    ∀ other ∈ pageAbove key after limit rows, key other < key row := by
  intro other listed
  unfold pageAbove at missed listed
  have kept : row ∈ rows.filter fun row => Above key after row := by simpa using ⟨member,above⟩
  have ordered := sorted.filter fun row => Above key after row
  rw [← List.take_append_drop limit (rows.filter _),List.pairwise_append] at ordered
  have later : row ∈ (rows.filter fun row => Above key after row).drop limit := by
    rw [← List.take_append_drop limit (rows.filter _),List.mem_append] at kept
    exact kept.resolve_left missed
  exact ordered.2.2 other listed row later

structure ReadSoFar (key : Row → Key) (tables : List (List Row)) (after : Option Key) (read : List Row) : Prop where
  ordered : read.Pairwise fun a b => key a < key b
  behind : ∀ row ∈ read, ∃ k, after = some k ∧ key row ≤ k
  existed : ∀ row ∈ read, ∃ rows ∈ tables, row ∈ rows
  reached : ∀ row, (∀ rows ∈ tables, row ∈ rows) → row ∈ read ∨ Above key after row

-- A reading that leaves out no row that was there all the time, makes none up and
-- repeats none.
structure Covers (key : Row → Key) (tables : List (List Row)) (read : List Row) : Prop where
  ordered : read.Pairwise fun a b => key a < key b
  existed : ∀ row ∈ read, ∃ rows ∈ tables, row ∈ rows
  complete : ∀ row, (∀ rows ∈ tables, row ∈ rows) → row ∈ read

variable {tables newer : List (List Row)} {read : List Row}

theorem ReadSoFar.start (tables : List (List Row)) : ReadSoFar key tables none [] :=
  ⟨.nil,by simp,by simp,fun _ _ => .inr (by simp [Above])⟩

theorem ReadSoFar.later (sofar : ReadSoFar key tables after read) (more : ∀ rows ∈ tables, rows ∈ newer) :
    ReadSoFar key newer after read := by
  refine ⟨sofar.ordered,sofar.behind,?_,?_⟩
  · intro row listed
    obtain ⟨rows,known,present⟩ := sofar.existed row listed
    exact ⟨rows,more rows known,present⟩
  · intro row always
    exact sofar.reached row fun rows known => always rows (more rows known)

theorem Covers.later (covers : Covers key tables read) (more : ∀ rows ∈ tables, rows ∈ newer) :
    Covers key newer read := by
  refine ⟨covers.ordered,?_,?_⟩
  · intro row listed
    obtain ⟨rows,known,present⟩ := covers.existed row listed
    exact ⟨rows,more rows known,present⟩
  · intro row always
    exact covers.complete row fun rows known => always rows (more rows known)

section Step
variable (sofar : ReadSoFar key tables after read) (known : rows ∈ tables)
  (sorted : rows.Pairwise fun a b => key a < key b)
include sofar

theorem ReadSoFar.appended (sorted : rows.Pairwise fun a b => key a < key b) :
    (read++pageAbove key after limit rows).Pairwise fun a b => key a < key b := by
  rw [List.pairwise_append]
  refine ⟨sofar.ordered,page_sorted sorted,?_⟩
  intro earlier listed row fresh
  obtain ⟨k,start,below⟩ := sofar.behind earlier listed
  exact lt_of_le_of_lt below ((page_rows fresh).2 k start)

include known in
theorem ReadSoFar.exist : ∀ row ∈ read++pageAbove key after limit rows, ∃ rows ∈ tables, row ∈ rows := by
  intro row listed
  rcases List.mem_append.mp listed with earlier | fresh
  · exact sofar.existed row earlier
  · exact ⟨rows,known,(page_rows fresh).1⟩

include known sorted

theorem ReadSoFar.next :
    ReadSoFar key tables (cursor key after (pageAbove key after limit rows)) (read++pageAbove key after limit rows) := by
  refine ⟨sofar.appended sorted,?_,sofar.exist known,?_⟩
  · intro row listed
    rcases List.eq_nil_or_concat (pageAbove key after limit rows) with empty | ⟨front,last,ended⟩
    · rw [empty] at listed ⊢
      simpa [cursor] using sofar.behind row (by simpa using listed)
    · have ordered : ((read++pageAbove key after limit rows).Pairwise fun a b => key a < key b) := sofar.appended sorted
      rw [ended,List.concat_eq_append,← List.append_assoc] at ordered listed
      refine ⟨key last,by rw [ended]; simp [cursor],?_⟩
      rcases List.mem_append.mp listed with earlier | here
      · exact le_of_lt ((List.pairwise_append.mp ordered).2.2 row earlier last (by simp))
      · rw [List.mem_singleton.mp here]
  · intro row always
    rcases sofar.reached row always with earlier | above
    · exact .inl (List.mem_append_left _ earlier)
    · by_cases fresh : row ∈ pageAbove key after limit rows
      · exact .inl (List.mem_append_right _ fresh)
      · refine .inr fun k reached => ?_
        have beyond := beyond_page sorted (always rows known) above fresh
        rcases Option.or_eq_some_iff.mp reached with moved | ⟨_,unmoved⟩
        · obtain ⟨last,ended,rfl⟩ := Option.map_eq_some_iff.mp moved
          exact beyond last (List.mem_of_getLast? ended)
        · exact above k unmoved

theorem ReadSoFar.covers (short : (pageAbove key after limit rows).length ≠ limit) :
    Covers key tables (read++pageAbove key after limit rows) := by
  refine ⟨sofar.appended sorted,sofar.exist known,?_⟩
  intro row always
  rcases sofar.reached row always with earlier | above
  · exact List.mem_append_left _ earlier
  · exact List.mem_append_right _ (short_page short (always rows known) above)

end Step

theorem Covers.whole (covers : Covers key [rows] read) (sorted : rows.Pairwise fun a b => key a < key b) : read = rows := by
  have same : ∀ row, row ∈ read ↔ row ∈ rows := by
    intro row
    constructor
    · intro listed
      obtain ⟨other,known,present⟩ := covers.existed row listed
      rwa [List.mem_singleton.mp known] at present
    · intro present
      exact covers.complete row (by simpa using present)
  have asymm : ∀ a b, key a < key b → ¬key b < key a := fun _ _ => lt_asymm
  exact (List.Perm.eq_of_pairwise (fun a b _ _ first second => absurd second (asymm a b first)) covers.ordered sorted
    ((List.perm_ext_iff_of_nodup (covers.ordered.imp fun less same => by subst same; exact lt_irrefl _ less)
      (sorted.imp fun less same => by subst same; exact lt_irrefl _ less)).mpr same))

end Keyset

section Offset

def pageFrom (offset limit : Nat) (rows : List Row) : List Row := (rows.drop offset).take limit

theorem page_drop (rows : List Row) (offset limit : Nat) :
    pageFrom offset limit rows++rows.drop (offset+limit) = rows.drop offset := by
  rw [pageFrom,← List.drop_drop,List.take_append_drop]

end Offset
end Paging
