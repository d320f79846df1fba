import Mathlib.Order.Lattice
import Mathlib.Logic.Function.Basic

-- A key-value store with a clock, whose entries are gone from their deadline on,
-- as memcached and Redis keep them.
namespace TimedCache

structure Entry (Value Time : Type) where
  value : Value
  deadline : Time

structure Cache (Key Value Time : Type) where
  now : Time
  entries : Key → Option (Entry Value Time)

namespace Cache

variable {Key Value Time : Type} [LinearOrder Time] {c next : Cache Key Value Time} {key other : Key}
  {value : Value} {deadline later : Time} {e : Entry Value Time}

section Reading

def lookup (c : Cache Key Value Time) (key : Key) : Option (Entry Value Time) :=
  (c.entries key).filter (c.now < ·.deadline)

def get (c : Cache Key Value Time) (key : Key) : Option Value := (c.lookup key).map (·.value)

def advance (later : Time) (c : Cache Key Value Time) : Option (Cache Key Value Time) :=
  if c.now ≤ later then some ⟨later,c.entries⟩ else none

theorem lookup_some : c.lookup key = some e ↔ c.entries key = some e ∧ c.now < e.deadline := by
  simp [lookup,Option.filter_eq_some_iff]

@[simp] theorem get_none : c.get key = none ↔ c.lookup key = none := by simp [get]

theorem advance_some : c.advance later = some next ↔ c.now ≤ later ∧ next = ⟨later,c.entries⟩ := by
  simp [advance,eq_comm]

theorem lookup_advance (moved : c.advance later = some next) :
    next.lookup key = some e ↔ c.lookup key = some e ∧ later < e.deadline := by
  obtain ⟨forward,rfl⟩ := advance_some.mp moved
  simp only [lookup_some]
  constructor
  · intro found
    exact ⟨⟨found.1,lt_of_le_of_lt forward found.2⟩,found.2⟩
  · intro found
    exact ⟨found.1.1,found.2⟩

end Reading

section Writing
variable [DecidableEq Key]

def set (c : Cache Key Value Time) (key : Key) (value : Value) (deadline : Time) : Cache Key Value Time :=
  ⟨c.now,Function.update c.entries key (some ⟨value,deadline⟩)⟩

def delete (c : Cache Key Value Time) (key : Key) : Cache Key Value Time :=
  ⟨c.now,Function.update c.entries key none⟩

-- The atomic set-if-absent: whether it stored the value, and the cache after it.
def add (c : Cache Key Value Time) (key : Key) (value : Value) (deadline : Time) : Bool × Cache Key Value Time :=
  if (c.lookup key).isSome then (false,c) else (true,c.set key value deadline)

theorem lookup_set : (c.set key value deadline).lookup key = some e ↔ e = ⟨value,deadline⟩ ∧ c.now < deadline := by
  rw [lookup_some]
  simp only [set,Function.update_self,Option.some.injEq]
  constructor
  · intro found
    obtain ⟨rfl,live⟩ := found
    exact ⟨rfl,live⟩
  · intro found
    obtain ⟨rfl,live⟩ := found
    exact ⟨rfl,live⟩

theorem lookup_set_other (different : other ≠ key) : (c.set key value deadline).lookup other = c.lookup other := by
  ext e
  simp only [lookup_some,set,Function.update_of_ne different]

@[simp] theorem lookup_delete : (c.delete key).lookup key = none := by simp [lookup,delete]

theorem lookup_delete_other (different : other ≠ key) : (c.delete key).lookup other = c.lookup other := by
  ext e
  simp only [lookup_some,delete,Function.update_of_ne different]

theorem add_cases (c : Cache Key Value Time) (key : Key) (value : Value) (deadline : Time) :
    (∃ e, c.lookup key = some e ∧ c.add key value deadline = (false,c)) ∨
    c.lookup key = none ∧ c.add key value deadline = (true,c.set key value deadline) := by
  unfold add
  cases found : c.lookup key with
  | none => exact .inr ⟨rfl,rfl⟩
  | some e => exact .inl ⟨e,rfl,rfl⟩

end Writing
end Cache
end TimedCache
