import CommerceCoordinator.TimedCache

-- A cache of what a source answers, each answer kept for a time after it is stored.
namespace ReadThrough
open TimedCache

section Cache
variable {Key Value Time : Type} [LinearOrder Time] [Add Time] {source : Time → Key → Value → Prop} {ttl : Time}
  {c next : Cache Key Value Time} {key : Key} {value : Value}

-- Answered by the source at `since` and stored at `stored`.
structure Answered (source : Time → Key → Value → Prop) (key : Key) (value : Value) (since stored now : Time) : Prop where
  answered : source since key value
  order : since ≤ stored
  past : stored ≤ now

def Fresh (source : Time → Key → Value → Prop) (ttl : Time) (c : Cache Key Value Time) : Prop :=
  ∀ key e, c.lookup key = some e → ∃ since stored, Answered source key e.value since stored c.now ∧ e.deadline ≤ stored+ttl

theorem Fresh.get (fresh : Fresh source ttl c) (found : c.get key = some value) :
    ∃ since stored, Answered source key value since stored c.now ∧ c.now < stored+ttl := by
  obtain ⟨e,listed,rfl⟩ := Option.map_eq_some_iff.mp found
  obtain ⟨since,stored,answered,kept⟩ := fresh key e listed
  exact ⟨since,stored,answered,lt_of_lt_of_le (Cache.lookup_some.mp listed).2 kept⟩

theorem Fresh.advance {later : Time} (fresh : Fresh source ttl c) (moved : c.advance later = some next) :
    Fresh source ttl next := by
  intro key e listed
  obtain ⟨since,stored,answered,kept⟩ := fresh key e ((Cache.lookup_advance moved).mp listed).1
  obtain ⟨forward,rfl⟩ := Cache.advance_some.mp moved
  exact ⟨since,stored,⟨answered.answered,answered.order,answered.past.trans forward⟩,kept⟩

section Writing
variable [DecidableEq Key]

theorem Fresh.set {since : Time} (fresh : Fresh source ttl c) (answered : source since key value) (past : since ≤ c.now) :
    Fresh source ttl (c.set key value (c.now+ttl)) := by
  intro other e listed
  by_cases same : other = key
  · subst same
    obtain ⟨rfl,_⟩ := Cache.lookup_set.mp listed
    exact ⟨since,c.now,⟨answered,past,le_refl _⟩,le_refl _⟩
  · rw [Cache.lookup_set_other same] at listed
    exact fresh other e listed

theorem Fresh.delete (fresh : Fresh source ttl c) (key : Key) : Fresh source ttl (c.delete key) := by
  intro other e listed
  by_cases same : other = key
  · subst same
    rw [Cache.lookup_delete] at listed
    cases listed
  · rw [Cache.lookup_delete_other same] at listed
    exact fresh other e listed

end Writing
end Cache
end ReadThrough
