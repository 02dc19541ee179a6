import Mathlib.Data.List.Basic

/-!
Tables: lists of keys with values, of which the first one for a key counts.
-/

set_option autoImplicit false

namespace QueryTypes.Table

variable {Key Value : Type} [BEq Key] [LawfulBEq Key] {entries : List (Key × Value)} {key : Key}
  {value : Value}

theorem mem_of_lookup (found : entries.lookup key = some value) : (key, value) ∈ entries := by
  obtain ⟨before, after, split, _⟩ := List.lookup_eq_some_iff.mp found
  rw [split]
  exact List.mem_append_right _ List.mem_cons_self

theorem lookup_of_mem (distinct : (entries.map (·.1)).Nodup) (present : (key, value) ∈ entries) :
    entries.lookup key = some value := by
  induction entries with
  | nil => cases present
  | cons entry rest ih =>
      obtain ⟨first, held⟩ := entry
      rw [List.map_cons, List.nodup_cons] at distinct
      rcases List.mem_cons.mp present with same | later
      · cases same
        rw [List.lookup_cons, beq_self_eq_true]
      · have different : (key == first) = false := by
          apply beq_false_of_ne
          intro same
          subst same
          exact distinct.1 (List.mem_map_of_mem (f := (·.1)) later)
        rw [List.lookup_cons, different]
        exact ih distinct.2 later

/-- Looking up every key of a table gives all of its values. -/
theorem filterMap_lookup (distinct : (entries.map (·.1)).Nodup) :
    (entries.map (·.1)).filterMap (fun key => entries.lookup key) = entries.map (·.2) := by
  have each : ∀ entry ∈ entries, entries.lookup entry.1 = some entry.2 :=
    fun entry present => lookup_of_mem distinct present
  rw [List.filterMap_map]
  calc entries.filterMap (fun entry => entries.lookup entry.1)
      = entries.filterMap (fun entry => some entry.2) := List.filterMap_congr each
    _ = entries.map (·.2) := congrFun List.filterMap_eq_map' entries

end QueryTypes.Table
