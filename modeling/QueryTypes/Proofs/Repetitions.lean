import Mathlib.Data.List.Induction
import Mathlib.Data.List.Nodup

/-!
Lists without their repetitions: of equal elements the first one is kept.
-/

set_option autoImplicit false

namespace QueryTypes

variable {Element : Type} [DecidableEq Element]

theorem eraseDups_concat (before : List Element) (last : Element) :
    (before ++ [last]).eraseDups =
      if last ∈ before then before.eraseDups else before.eraseDups ++ [last] := by
  rw [List.eraseDups_append]
  by_cases seen : last ∈ before <;> simp [List.removeAll, seen, List.eraseDups_cons]

theorem eraseDups_nodup (elements : List Element) : elements.eraseDups.Nodup := by
  induction elements using List.reverseRecOn with
  | nil => simp
  | append_singleton before last ih =>
      rw [eraseDups_concat]
      split
      · exact ih
      · rename_i unseen
        refine List.nodup_append'.mpr ⟨ih, List.nodup_singleton last, ?_⟩
        simpa using unseen

/-- Elements that stand at ascending places are kept in the order of their first places. -/
theorem eraseDups_firstPlaces {entries : List (Element × Nat)}
    (ascending : entries.Pairwise fun earlier later => earlier.2 < later.2) :
    (entries.map (·.1)).eraseDups.Pairwise fun earlier later =>
      ∃ place, (earlier, place) ∈ entries ∧ ∀ other, (later, other) ∈ entries → place < other := by
  induction entries using List.reverseRecOn with
  | nil => simp
  | append_singleton before last ih =>
      obtain ⟨sorted, _, least⟩ := List.pairwise_append.mp ascending
      have apart {element : Element} {place : Nat} (present : (element, place) ∈ before) :
          place < last.2 := least (element, place) present last (List.mem_singleton_self last)
      -- A first place stays the first one, since what is added stands behind it.
      have kept := (ih sorted).imp
        (S := fun earlier later => ∃ place, (earlier, place) ∈ before ++ [last] ∧
          ∀ other, (later, other) ∈ before ++ [last] → place < other)
        fun {earlier later} first => by
        obtain ⟨place, present, leads⟩ := first
        refine ⟨place, List.mem_append_left _ present, fun other stands => ?_⟩
        rcases List.mem_append.mp stands with earlier | added
        · exact leads other earlier
        · rw [← List.mem_singleton.mp added] at apart
          exact apart present
      rw [List.map_append, List.map_singleton, eraseDups_concat]
      split
      · exact kept
      · rename_i unseen
        refine List.pairwise_append.mpr ⟨kept, List.pairwise_singleton _ _, ?_⟩
        intro earlier present later added
        rw [List.mem_singleton] at added
        subst added
        obtain ⟨⟨_, place⟩, stands, rfl⟩ := List.mem_map.mp (List.mem_eraseDups.mp present)
        refine ⟨place, List.mem_append_left _ stands, fun other again => ?_⟩
        rcases List.mem_append.mp again with before | added
        · exact absurd (List.mem_map_of_mem before) unseen
        · rw [← List.mem_singleton.mp added] at apart
          exact apart stands

end QueryTypes
