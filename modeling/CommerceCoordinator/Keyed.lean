import Mathlib.Data.List.Nodup

-- Rows that are told apart by a key.
namespace Keyed

variable {α κ : Type} [DecidableEq κ] {rows : List α} {key : α → κ}

theorem found (distinct : (rows.map key).Nodup) : rows.find? (fun a => key a = k) = some a ↔ a ∈ rows ∧ key a = k := by
  constructor
  · intro found
    exact ⟨List.mem_of_find?_eq_some found,of_decide_eq_true (@List.find?_some _ (fun a => decide (key a = k)) _ _ found)⟩
  · rintro ⟨listed,rfl⟩
    cases found : rows.find? fun b => key b = key a with
    | none => simpa using List.find?_eq_none.mp found a listed
    | some b =>
      have same := of_decide_eq_true (@List.find?_some _ (fun b => decide (key b = key a)) _ _ found)
      rw [List.inj_on_of_nodup_map distinct (List.mem_of_find?_eq_some found) listed same]

theorem absent : rows.find? (fun a => key a = k) = none ↔ k ∉ rows.map key := by
  simp [List.find?_eq_none]

theorem appended (new : key a ∉ rows.map key) (k : κ) :
    (rows++[a]).find? (fun b => key b = k) = if k = key a then some a else rows.find? fun b => key b = k := by
  rw [List.find?_append]
  split
  · rename_i here
    rw [here,absent.mpr new]
    simp
  · rename_i elsewhere
    simp [Ne.symm elsewhere]

def replaced (key : α → κ) (a : α) (rows : List α) : List α := rows.map fun b => if key b = key a then a else b

theorem replaced_keys (a : α) (rows : List α) : (replaced key a rows).map key = rows.map key := by
  rw [replaced,List.map_map]
  refine List.map_congr_left fun b _ => ?_
  by_cases here : key b = key a <;> simp [here]

theorem replaced_mem {a b : α} (listed : key a ∈ rows.map key) : b ∈ replaced key a rows ↔ b = a ∨ b ∈ rows ∧ key b ≠ key a := by
  rw [replaced,List.mem_map]
  constructor
  · rintro ⟨old,known,rfl⟩
    split
    · exact .inl rfl
    · exact .inr ⟨known,‹_›⟩
  · rintro (rfl | ⟨known,other⟩)
    · obtain ⟨old,known,same⟩ := List.mem_map.mp listed
      exact ⟨old,known,if_pos same⟩
    · exact ⟨b,known,if_neg other⟩

theorem replaced_found {a : α} (distinct : (rows.map key).Nodup) (listed : key a ∈ rows.map key) (k : κ) :
    (replaced key a rows).find? (fun b => key b = k) = if k = key a then some a else rows.find? fun b => key b = k := by
  have still : ((replaced key a rows).map key).Nodup := by
    rw [replaced_keys]
    exact distinct
  by_cases sought : k = key a
  · rw [if_pos sought,found still,replaced_mem listed]
    exact ⟨.inl rfl,sought.symm⟩
  · rw [if_neg sought]
    apply Option.ext
    intro b
    rw [found still,found distinct,replaced_mem listed]
    constructor
    · rintro ⟨rfl | ⟨known,_⟩,same⟩
      · exact absurd same.symm sought
      · exact ⟨known,same⟩
    · rintro ⟨known,same⟩
      exact ⟨.inr ⟨known,fun here => sought (same.symm.trans here)⟩,same⟩

end Keyed
