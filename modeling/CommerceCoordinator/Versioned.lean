import Mathlib.Logic.Basic

namespace Versioned

-- Anything a store hands out together with the number of its writes.
class HasVersion (α : Type) where
  version : α → Nat

open HasVersion

variable {α : Type} [HasVersion α]

-- A later value of the same resource: untouched, or written at least once.
def Evolves (earlier later : α) : Prop := later = earlier ∨ version earlier < version later

theorem Evolves.refl (a : α) : Evolves a a := .inl rfl

theorem Evolves.trans {a b c : α} (ab : Evolves a b) (bc : Evolves b c) : Evolves a c := by
  rcases ab with rfl | ab
  · exact bc
  · rcases bc with rfl | bc
    · exact .inr ab
    · exact .inr (Nat.lt_trans ab bc)

-- The rule behind every compare-and-set: a copy whose version is still the
-- current one is the current value.
theorem Evolves.current {copy stored : α} (evolved : Evolves copy stored)
    (same : version stored = version copy) : stored = copy := by
  rcases evolved with rfl | newer
  · rfl
  · omega

-- An update is accepted iff it was made against the current version.
def compareAndSet (given : Nat) (stored : α) (change : α → Option α) : Option α :=
  if version stored = given then change stored else none

theorem compareAndSet_some {given : Nat} {stored next : α} {change : α → Option α} :
    compareAndSet given stored change = some next ↔ version stored = given ∧ change stored = some next := by
  simp [compareAndSet]

theorem compareAndSet_copy {copy stored next : α} {change : α → Option α} (evolved : Evolves copy stored)
    (ok : compareAndSet (version copy) stored change = some next) :
    stored = copy ∧ change copy = some next := by
  obtain ⟨same,changed⟩ := compareAndSet_some.mp ok
  have equal := evolved.current same
  exact ⟨equal,equal ▸ changed⟩

end Versioned
