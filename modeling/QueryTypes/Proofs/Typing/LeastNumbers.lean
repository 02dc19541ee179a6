import Mathlib.Order.Bounds.Basic
import QueryTypes.Proofs.Typing.FreshNames

/-!
Names with the least number that is free.

The search for a name has no end of its own: it goes on as long as its candidate is taken. It ends
because the forms of a name are pairwise different and only finitely many names are taken. What it
ends with is the wanted name, or its form with the least number, also where names that are wanted
later look like forms that were given before.
-/

set_option autoImplicit false

namespace QueryTypes.Identifier

inductive SearchEnds (taken : List String) (desired : String) : String → Nat → String → Prop where
  | free {candidate : String} {number : Nat} (absent : candidate ∉ taken) :
      SearchEnds taken desired candidate number candidate
  | next {candidate name : String} {number : Nat} (present : candidate ∈ taken)
      (ends : SearchEnds taken desired (numbered desired number) (number + 1) name) :
      SearchEnds taken desired candidate number name

/-- The name that is due among taken ones: the wanted name if it is free, and otherwise its form
with the least number from two on that is free. There are no more numbers to try than names taken.
-/
inductive Due (taken : List String) (desired : String) : String → Prop where
  | wanted (absent : desired ∉ taken) : Due taken desired desired
  | suffixed {number : Nat} (present : desired ∈ taken)
      (least : IsLeast {other | 2 ≤ other ∧ numbered desired other ∉ taken} number)
      (bounded : number ≤ taken.length + 1) : Due taken desired (numbered desired number)

section Search

variable {taken : List String} {desired : String}

private theorem SearchEnds.functional {candidate name other : String} {number : Nat}
    (first : SearchEnds taken desired candidate number name)
    (second : SearchEnds taken desired candidate number other) : name = other := by
  induction first with
  | free absent =>
      cases second with
      | free => rfl
      | next present => exact absurd present absent
  | next present _ ih =>
      cases second with
      | free absent => exact absurd present absent
      | next _ ends => exact ih ends

/-- The search goes through all forms that are taken. -/
theorem searchEnds_of_forms {number tried : Nat}
    (earlier : numberedForms desired number tried ⊆ taken)
    (absent : numbered desired (number + tried) ∉ taken) :
    SearchEnds taken desired (numbered desired number) (number + 1)
      (numbered desired (number + tried)) := by
  induction tried generalizing number with
  | zero => exact .free absent
  | succ tried ih =>
      unfold numberedForms at earlier
      rw [List.range'_succ, List.map_cons] at earlier
      obtain ⟨present, others⟩ := List.cons_subset.mp earlier
      have reached : number + (tried + 1) = number + 1 + tried := by omega
      rw [reached] at absent ⊢
      exact .next present (ih others absent)

private theorem searchEnds_unique (taken : List String) (desired : String) :
    SearchEnds taken desired desired 2 (unique taken desired) := by
  by_cases present : desired ∈ taken
  · obtain ⟨tried, _, found, earlier, absent⟩ := unique_of_mem present
    rw [found] at absent ⊢
    exact .next present (searchEnds_of_forms earlier absent)
  · rw [unique_of_not_mem present]
    exact .free present

/-- The search ends, and with nothing but the name given. -/
theorem searchEnds_iff {name : String} :
    SearchEnds taken desired desired 2 name ↔ name = unique taken desired := by
  constructor
  · exact fun ends => ends.functional (searchEnds_unique taken desired)
  · rintro rfl
    exact searchEnds_unique taken desired

private theorem unique_due (taken : List String) (desired : String) :
    Due taken desired (unique taken desired) := by
  by_cases present : desired ∈ taken
  · obtain ⟨tried, fewer, found, earlier, absent⟩ := unique_of_mem present
    rw [found] at absent ⊢
    refine .suffixed present ⟨⟨Nat.le_add_right 2 tried, absent⟩, ?_⟩ (by omega)
    rintro other ⟨least, free⟩
    -- A free form is none of those that were tried.
    by_contra smaller
    apply free
    apply earlier
    exact List.mem_map_of_mem (List.mem_range'_1.mpr ⟨least, by omega⟩)
  · rw [unique_of_not_mem present]
    exact .wanted present

end Search

end QueryTypes.Identifier

namespace QueryTypes.Typing

/-- A wanted name is served with the names that were taken at the start and those given before. -/
theorem uniqueNames_getElem? (taken desired : List String) (index : Nat) :
    (uniqueNames taken desired).1[index]? =
      desired[index]?.map
        (Identifier.unique (((uniqueNames taken desired).1.take index).reverse ++ taken)) := by
  induction desired generalizing taken index with
  | nil => rfl
  | cons first rest ih =>
      unfold uniqueNames
      dsimp only
      cases index with
      | zero => rfl
      | succ index =>
          rw [List.getElem?_cons_succ, List.getElem?_cons_succ, ih, List.take_succ_cons,
            List.reverse_cons, List.append_assoc, List.singleton_append]

/-- The names given for wanted ones, however these repeat or look like forms of each other: one for
each, pairwise different, and none taken at the start. Each is what the search ends with among the
names that were taken when its turn came, and the name that is due there. -/
theorem uniqueNames_distinct_least (taken desired : List String) :
    (uniqueNames taken desired).1.length = desired.length ∧
      (uniqueNames taken desired).1.Nodup ∧
      (∀ name ∈ (uniqueNames taken desired).1, name ∉ taken) ∧
      ∀ index wanted, desired[index]? = some wanted →
        ∃ name, (uniqueNames taken desired).1[index]? = some name ∧
          let before := ((uniqueNames taken desired).1.take index).reverse ++ taken
          (∀ other, Identifier.SearchEnds before wanted wanted 2 other ↔ other = name) ∧
            Identifier.Due before wanted name := by
  obtain ⟨distinct, fresh⟩ := uniqueNames_fresh taken desired
  refine ⟨uniqueNames_length taken desired, distinct, fresh, fun index wanted here => ?_⟩
  have given := uniqueNames_getElem? taken desired index
  rw [here, Option.map_some] at given
  exact ⟨_, given, fun _ => Identifier.searchEnds_iff, Identifier.unique_due _ wanted⟩

/-- A form is passed over where it was wanted before, and has a form of its own. -/
theorem forms_among_wanted_names :
    (uniqueNames ["Post"] ["Post", "Post_2", "Post", "Page_2", "Page", "Page"]).1 =
        ["Post_2", "Post_2_2", "Post_3", "Page_2", "Page", "Page_3"] ∧
      Identifier.Due ["Page", "Page_2", "Post_3", "Post_2_2", "Post_2", "Post"] "Page"
        "Page_3" := by
  have given : (uniqueNames ["Post"] ["Post", "Post_2", "Post", "Page_2", "Page", "Page"]).1 =
      ["Post_2", "Post_2_2", "Post_3", "Page_2", "Page", "Page_3"] := by decide +kernel
  obtain ⟨name, found, _, due⟩ := (uniqueNames_distinct_least ["Post"]
    ["Post", "Post_2", "Post", "Page_2", "Page", "Page"]).2.2.2 5 "Page" rfl
  rw [given] at found due
  cases found
  exact ⟨given, due⟩

end QueryTypes.Typing
