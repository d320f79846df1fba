import Mathlib.Data.List.Nodup

-- Values collected under keys, in the order the keys came: a dict whose missing
-- entries have a default.
namespace Grouping

variable {K α : Type} [DecidableEq K] {missing : α} {f : α → α}

def change (missing : α) (f : α → α) : List (K × α) → K → List (K × α)
  | [],key => [(key,f missing)]
  | entry::rest,key => if entry.1 = key then (key,f entry.2)::rest else entry::change missing f rest key

def at? (d : List (K × α)) (key : K) : Option α := (d.find? (·.1 = key)).map (·.2)

@[simp] theorem at_nil (key : K) : at? ([] : List (K × α)) key = none := rfl

theorem at_cons (entry : K × α) (d : List (K × α)) (key : K) :
    at? (entry::d) key = if entry.1 = key then some entry.2 else at? d key := by
  unfold at?
  rw [List.find?_cons]
  by_cases here : entry.1 = key <;> simp [here]

theorem at_change (d : List (K × α)) (key other : K) :
    at? (change missing f d key) other =
      if key = other then some (f ((at? d key).getD missing)) else at? d other := by
  induction d with
  | nil => simp [change,at_cons]
  | cons entry rest ih =>
    unfold change
    by_cases here : entry.1 = key
    · rw [if_pos here]
      by_cases same : key = other <;> simp [at_cons,here,same]
    · rw [if_neg here,at_cons,at_cons,at_cons,ih]
      by_cases same : key = other
      · subst same
        simp [here]
      · simp [same]

theorem keys_change (d : List (K × α)) (key : K) :
    (change missing f d key).map (·.1) = if key ∈ d.map (·.1) then d.map (·.1) else d.map (·.1)++[key] := by
  induction d with
  | nil => simp [change]
  | cons entry rest ih =>
    unfold change
    by_cases here : entry.1 = key
    · simp [here]
    · rw [if_neg here,List.map_cons,ih,List.map_cons]
      by_cases listed : key ∈ rest.map (·.1)
      · simp [listed]
      · simp [listed,Ne.symm here]

theorem distinct_change {d : List (K × α)} (distinct : (d.map (·.1)).Nodup) (key : K) :
    ((change missing f d key).map (·.1)).Nodup := by
  rw [keys_change]
  split
  · exact distinct
  · rename_i fresh
    exact List.nodup_append.mpr ⟨distinct,List.nodup_singleton key,by
      intro a listed b here same
      rw [List.mem_singleton.mp here] at same
      exact fresh (same ▸ listed)⟩

theorem mem_change {d : List (K × α)} {key : K} {entry : K × α} (member : entry ∈ change missing f d key) :
    entry ∈ d ∨ entry = (key,f ((at? d key).getD missing)) := by
  induction d with
  | nil => exact .inr (by simpa [change] using member)
  | cons head rest ih =>
    unfold change at member
    by_cases here : head.1 = key
    · rw [if_pos here] at member
      rcases List.mem_cons.mp member with new | old
      · exact .inr (by simpa [at_cons,here] using new)
      · exact .inl (List.mem_cons_of_mem _ old)
    · rw [if_neg here] at member
      rcases List.mem_cons.mp member with old | later
      · exact .inl (old ▸ List.mem_cons_self)
      · rcases ih later with old | new
        · exact .inl (List.mem_cons_of_mem _ old)
        · exact .inr (by simpa [at_cons,here] using new)

theorem mem_iff_at {d : List (K × α)} (distinct : (d.map (·.1)).Nodup) {key : K} {value : α} :
    (key,value) ∈ d ↔ at? d key = some value := by
  induction d generalizing value with
  | nil => simp
  | cons entry rest ih =>
    obtain ⟨fresh,distinct⟩ := List.nodup_cons.mp distinct
    rw [List.mem_cons,at_cons,ih distinct]
    by_cases here : entry.1 = key
    · have absent : at? rest key = none := by
        cases found : at? rest key with
        | none => rfl
        | some other =>
          have listed := List.mem_map_of_mem (f := (·.1)) ((ih distinct).mpr found)
          change entry.1 ∉ rest.map (·.1) at fresh
          rw [here] at fresh
          exact absurd listed fresh
      rw [if_pos here,absent,← here]
      simp [Prod.ext_iff,eq_comm]
    · rw [if_neg here]
      constructor
      · intro listed
        rcases listed with same | found
        · exact absurd (congrArg Prod.fst same).symm here
        · exact found
      · exact .inr

end Grouping
