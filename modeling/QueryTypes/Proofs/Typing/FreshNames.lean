import Mathlib.Data.List.Perm.Subperm
import Mathlib.Data.List.Nodup
import QueryTypes.Typing.SchemaTypes

/-!
Names that are given once only.

The numbered forms of a name are pairwise different, so a finite list of taken names cannot hold
all of the forms that are tried. The name given is therefore always a new one, also where wanted
names look like numbered ones themselves.
-/

set_option autoImplicit false

namespace QueryTypes.Identifier

theorem numbered_toList (desired : String) (number : Nat) :
    (numbered desired number).toList = desired.toList ++ '_' :: Nat.toDigits 10 number := by
  unfold numbered
  rw [String.toList_append, String.toList_append, Nat.toString_eq_repr, Nat.toList_repr,
    List.append_assoc]
  rfl

private theorem numbered_injective (desired : String) : Function.Injective (numbered desired) := by
  intro first second same
  have texts := congrArg String.toList same
  rw [numbered_toList, numbered_toList, List.append_cancel_left_eq] at texts
  have digits := congrArg (fun text => Nat.ofDigitChars 10 text 0) (List.cons.inj texts).2
  simpa only [Nat.ofDigitChars_toDigits (Nat.one_lt_succ_succ 8) (Nat.le_refl 10)] using digits

private theorem numbered_ne (desired : String) (number : Nat) :
    numbered desired number ≠ desired := by
  intro same
  have texts := congrArg String.toList same
  rw [numbered_toList, List.append_right_eq_self] at texts
  cases texts

def numberedForms (desired : String) (number amount : Nat) : List String :=
  (List.range' number amount).map (numbered desired)

private theorem numberedForms_nodup (desired : String) (number amount : Nat) :
    (numberedForms desired number amount).Nodup :=
  List.Nodup.map (numbered_injective desired) List.nodup_range'

/-- Among names that hold the wanted one there is no room for as many forms of it. -/
theorem amount_lt_of_numberedForms_subset {taken : List String} {desired : String}
    {number amount : Nat} (present : desired ∈ taken)
    (forms : numberedForms desired number amount ⊆ taken) : amount < taken.length := by
  have apart : desired ∉ numberedForms desired number amount := by
    intro listed
    obtain ⟨other, _, same⟩ := List.mem_map.mp listed
    exact numbered_ne desired other same
  have distinct := List.nodup_cons.mpr ⟨apart, numberedForms_nodup desired number amount⟩
  have bounded :=
    (List.subperm_of_subset distinct (List.cons_subset.mpr ⟨present, forms⟩)).length_le
  unfold numberedForms at bounded
  rwa [List.length_cons, List.length_map, List.length_range'] at bounded

/-- The name found is a numbered one, and either free or the one after all that could be tried. -/
theorem firstFree_eq (taken : List String) (desired : String) (fuel number : Nat) :
    ∃ tried ≤ fuel, firstFree taken desired fuel number = numbered desired (number + tried) ∧
      numberedForms desired number tried ⊆ taken ∧
        (tried < fuel → firstFree taken desired fuel number ∉ taken) := by
  induction fuel generalizing number with
  | zero =>
      exact ⟨0, Nat.le_refl 0, rfl, List.nil_subset _, fun more => absurd more (Nat.lt_irrefl 0)⟩
  | succ fuel ih =>
      unfold firstFree
      split
      · rename_i present
        obtain ⟨tried, within, found, earlier, free⟩ := ih (number + 1)
        refine ⟨tried + 1, Nat.succ_le_succ within, ?_, ?_,
          fun more => free (Nat.lt_of_succ_lt_succ more)⟩
        · rw [found]
          congr 1
          omega
        · unfold numberedForms
          rw [List.range'_succ, List.map_cons]
          exact List.cons_subset.mpr ⟨List.contains_iff_mem.mp present, earlier⟩
      · rename_i absent
        exact ⟨0, Nat.zero_le _, rfl, List.nil_subset _,
          fun _ present => absent (List.contains_iff_mem.mpr present)⟩

theorem unique_of_not_mem {taken : List String} {desired : String} (free : desired ∉ taken) :
    unique taken desired = desired := by
  unfold unique
  rw [if_neg fun present => free (List.contains_iff_mem.mp present)]

/-- A wanted name that is taken gives way to its first form that is not. -/
theorem unique_of_mem {taken : List String} {desired : String} (present : desired ∈ taken) :
    ∃ tried < taken.length, unique taken desired = numbered desired (2 + tried) ∧
      numberedForms desired 2 tried ⊆ taken ∧ unique taken desired ∉ taken := by
  obtain ⟨tried, _, found, earlier, free⟩ := firstFree_eq taken desired taken.length 2
  have fewer := amount_lt_of_numberedForms_subset present earlier
  unfold unique
  rw [if_pos (List.contains_iff_mem.mpr present)]
  exact ⟨tried, fewer, found, earlier, free fewer⟩

/-- The name given is not taken: there are more numbered forms than taken names. -/
theorem unique_not_mem (taken : List String) (desired : String) :
    unique taken desired ∉ taken := by
  by_cases present : desired ∈ taken
  · obtain ⟨_, _, _, _, absent⟩ := unique_of_mem present
    exact absent
  · rwa [unique_of_not_mem present]

/-- The name given is the wanted one or a numbered form of it. -/
theorem unique_eq (taken : List String) (desired : String) :
    unique taken desired = desired ∨
      ∃ number, unique taken desired = numbered desired number := by
  by_cases present : desired ∈ taken
  · obtain ⟨tried, _, found, _, _⟩ := unique_of_mem present
    exact .inr ⟨2 + tried, found⟩
  · exact .inl (unique_of_not_mem present)

end QueryTypes.Identifier

namespace QueryTypes.Typing

theorem uniqueNames_length (taken desired : List String) :
    (uniqueNames taken desired).1.length = desired.length := by
  induction desired generalizing taken with
  | nil => rfl
  | cons first rest ih =>
      unfold uniqueNames
      dsimp only
      rw [List.length_cons, List.length_cons, ih]

/-- The names given to a list of wanted ones differ from each other and from those taken before. -/
theorem uniqueNames_fresh (taken desired : List String) :
    (uniqueNames taken desired).1.Nodup ∧ ∀ name ∈ (uniqueNames taken desired).1, name ∉ taken := by
  induction desired generalizing taken with
  | nil => exact ⟨List.nodup_nil, nofun⟩
  | cons first rest ih =>
      obtain ⟨distinct, others⟩ := ih (Identifier.unique taken first :: taken)
      unfold uniqueNames
      dsimp only
      constructor
      · exact List.nodup_cons.mpr
          ⟨fun repeated => others _ repeated List.mem_cons_self, distinct⟩
      · intro name present
        rcases List.mem_cons.mp present with same | later
        · rw [same]
          exact Identifier.unique_not_mem taken first
        · exact fun before => others name later (List.mem_cons_of_mem _ before)

/-- Each name given is made from a wanted one. -/
theorem mem_uniqueNames {taken desired : List String} {name : String}
    (present : name ∈ (uniqueNames taken desired).1) :
    ∃ others, ∃ wanted ∈ desired, name = Identifier.unique others wanted := by
  induction desired generalizing taken with
  | nil => cases present
  | cons first rest ih =>
      unfold uniqueNames at present
      rcases List.mem_cons.mp present with same | later
      · exact ⟨taken, first, List.mem_cons_self, same⟩
      · obtain ⟨others, wanted, inRest, same⟩ := ih later
        exact ⟨others, wanted, List.mem_cons_of_mem _ inRest, same⟩

/-- A wanted name that was not taken before is given, to the first that wants it if to no other. -/
theorem wanted_mem_uniqueNames {taken desired : List String} {wanted : String}
    (present : wanted ∈ desired) (free : wanted ∉ taken) :
    wanted ∈ (uniqueNames taken desired).1 := by
  induction desired generalizing taken with
  | nil => cases present
  | cons first rest ih =>
      unfold uniqueNames
      dsimp only
      by_cases given : wanted = Identifier.unique taken first
      · exact List.mem_cons.mpr (.inl given)
      · refine List.mem_cons_of_mem _ (ih ?_ ?_)
        · refine (List.mem_cons.mp present).resolve_left fun same => given ?_
          subst same
          exact (Identifier.unique_of_not_mem free).symm
        · exact fun now => (List.mem_cons.mp now).elim given free

end QueryTypes.Typing
