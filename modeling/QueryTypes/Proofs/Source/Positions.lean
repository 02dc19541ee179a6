import Mathlib.Data.List.TakeWhile
import Mathlib.Data.Set.Card
import Mathlib.Order.Bounds.Basic
import QueryTypes.Proofs.Source.LineBreaks

/-!
Positions by line and column are exact.

The line of an offset counts the breaks that end up to it, and its column counts from the last of
them. This is also what any search for the offset among the ascending starts of the lines tells,
whether it finds the offset or only where to put it in. So an offset and its position tell the same.
-/

set_option autoImplicit false

namespace QueryTypes.Source

def breaksUpTo (source : String) (offset : Nat) : Set (Nat × Nat) :=
  {found | IsBreak (bytesOf source) found.1 found.2 ∧ found.2 ≤ offset}

/-- What a search in an ascending list may answer: a place where the offset stands, or else the
place where it would have to be put in. -/
inductive Sought (starts : List Nat) (offset : Nat) : Except Nat Nat → Prop where
  | found {place : Nat} (here : starts[place]? = some offset) : Sought starts offset (.ok place)
  | missing {place : Nat} (inRange : place ≤ starts.length)
      (before : ∀ start ∈ starts.take place, start < offset)
      (after : ∀ start ∈ starts.drop place, offset < start) :
      Sought starts offset (.error place)

/-- The line that an answer tells, counted from zero: the one found, or the one before. -/
def TellsLine : Except Nat Nat → Nat → Prop
  | .ok place, line => place = line
  | .error next, line => next = line + 1

def Position.Before (first second : Position) : Prop :=
  first.line < second.line ∨ first.line = second.line ∧ first.column < second.column

namespace LineIndex

def allStarts (index : LineIndex) : List Nat := 0 :: index.starts

def offsetAt (index : LineIndex) (line column : Nat) : Nat :=
  index.allStarts.getD (line - 1) 0 + column

private theorem allStarts_ascending (source : String) :
    (ofSource source).allStarts.Pairwise (· < ·) :=
  .cons (fun _ => lt_of_mem_breakEnds) (breakEnds_ascending 0 source.toList)

private theorem getElem?_length_cons (first : Nat) (others : List Nat) :
    (first :: others)[others.length]? = some (others.getLastD first) := by
  induction others generalizing first with
  | nil => rfl
  | cons second others ih =>
      rw [List.length_cons, List.getElem?_cons_succ, ih, List.getLastD_cons]

private theorem le_of_mem_startsUpTo {index : LineIndex} {offset start : Nat}
    (among : start ∈ index.startsUpTo offset) : start ≤ offset := by
  simpa using List.mem_takeWhile_imp among

section Ascending

variable {index : LineIndex} (ascending : index.allStarts.Pairwise (· < ·))

include ascending

/-- The starts up to an offset come before all others. -/
theorem exists_later (offset : Nat) :
    ∃ later, index.starts = index.startsUpTo offset ++ later ∧ ∀ start ∈ later, offset < start := by
  refine ⟨index.starts.dropWhile fun start => decide (start ≤ offset), ?_, ?_⟩
  · exact List.takeWhile_append_dropWhile.symm
  · have kept := ((List.pairwise_cons.mp ascending).2).sublist (List.dropWhile_sublist
      (p := fun start => decide (start ≤ offset)))
    cases rest : index.starts.dropWhile fun start => decide (start ≤ offset) with
    | nil => exact nofun
    | cons next others =>
        have beyond := List.head_dropWhile_not (p := fun start => decide (start ≤ offset))
          (l := index.starts) (by rw [rest]; exact List.cons_ne_nil _ _)
        simp only [rest, List.head_cons, decide_eq_false_iff_not, Nat.not_le] at beyond
        rw [rest] at kept
        exact List.forall_mem_cons.mpr ⟨beyond, fun start among =>
          beyond.trans ((List.pairwise_cons.mp kept).1 start among)⟩

private theorem mem_startsUpTo {offset start : Nat} :
    start ∈ index.startsUpTo offset ↔ start ∈ index.starts ∧ start ≤ offset := by
  obtain ⟨later, split, beyond⟩ := exists_later ascending offset
  constructor
  · intro among
    exact ⟨split ▸ List.mem_append_left later among, le_of_mem_startsUpTo among⟩
  · rintro ⟨present, reached⟩
    rw [split] at present
    exact (List.mem_append.mp present).resolve_right fun among =>
      absurd reached (Nat.not_le.mpr (beyond start among))

/-- A line starts at or before an offset if it is not after the one of the offset. -/
theorem le_iff_place_le {offset place start : Nat} (here : index.allStarts[place]? = some start) :
    start ≤ offset ↔ place ≤ (index.startsUpTo offset).length := by
  obtain ⟨later, split, beyond⟩ := exists_later ascending offset
  rw [allStarts, split, ← List.cons_append] at here
  by_cases early : place < (0 :: index.startsUpTo offset).length
  · rw [List.getElem?_append_left early] at here
    have reached : start ≤ offset := by
      rcases List.mem_cons.mp (List.mem_of_getElem? here) with rfl | among
      · exact Nat.zero_le offset
      · exact le_of_mem_startsUpTo among
    exact iff_of_true reached (Nat.le_of_lt_succ early)
  · rw [List.getElem?_append_right (Nat.not_lt.mp early)] at here
    rw [List.length_cons] at early
    exact iff_of_false (Nat.not_le.mpr (beyond start (List.mem_of_getElem? here))) (by omega)

private theorem starts_lt {place other start next : Nat}
    (here : index.allStarts[place]? = some start) (there : index.allStarts[other]? = some next)
    (before : place < other) : start < next := by
  obtain ⟨inRange, rfl⟩ := List.getElem?_eq_some_iff.mp here
  obtain ⟨alsoInRange, rfl⟩ := List.getElem?_eq_some_iff.mp there
  exact List.pairwise_iff_getElem.mp ascending place other inRange alsoInRange before

/-- The line of an offset starts at or before it. -/
theorem exists_start (offset : Nat) :
    ∃ start, index.allStarts[(index.startsUpTo offset).length]? = some start ∧
      offset = start + (index.position offset).column := by
  obtain ⟨later, split, _⟩ := exists_later ascending offset
  have here : index.allStarts[(index.startsUpTo offset).length]? =
      some ((index.startsUpTo offset).getLastD 0) := by
    rw [allStarts, split, ← List.cons_append,
      List.getElem?_append_left (Nat.lt_succ_self (index.startsUpTo offset).length)]
    exact getElem?_length_cons 0 (index.startsUpTo offset)
  refine ⟨_, here, ?_⟩
  exact (Nat.add_sub_of_le ((le_iff_place_le ascending here).mpr le_rfl)).symm

/-- Every answer of a search tells the line of the offset. -/
theorem tellsLine_of_sought {offset : Nat} {answer : Except Nat Nat}
    (sought : Sought index.allStarts offset answer) :
    TellsLine answer (index.startsUpTo offset).length := by
  obtain ⟨start, here, reached⟩ := exists_start ascending offset
  have notLater {place next : Nat} (there : index.allStarts[place]? = some next)
      (upTo : next ≤ offset) : place ≤ (index.startsUpTo offset).length :=
    (le_iff_place_le ascending there).mp upTo
  cases sought with
  | @found place there =>
      refine Nat.le_antisymm (notLater there le_rfl) (Nat.not_lt.mp fun before => ?_)
      have beyond := starts_lt ascending there here before
      omega
  | @missing place inRange before after =>
      have beyond : (index.startsUpTo offset).length < place := by
        refine Nat.not_le.mp fun inside => ?_
        have among : start ∈ index.allStarts.drop place := by
          refine List.mem_of_getElem? (i := (index.startsUpTo offset).length - place) ?_
          rw [List.getElem?_drop, Nat.add_sub_of_le inside]
          exact here
        have further := after start among
        omega
      refine Nat.le_antisymm (Nat.not_lt.mp fun further => ?_) beyond
      have inside : (index.startsUpTo offset).length + 1 < index.allStarts.length :=
        Nat.lt_of_lt_of_le further inRange
      have there := List.getElem?_eq_getElem inside
      have upTo := before _ (List.mem_of_getElem? ((List.getElem?_take_of_lt further).trans there))
      have passed := notLater there upTo.le
      omega

private theorem exists_sought (offset : Nat) : ∃ answer, Sought index.allStarts offset answer := by
  obtain ⟨start, here, reached⟩ := exists_start ascending offset
  by_cases exact : (index.position offset).column = 0
  · exact ⟨_, .found (here.trans (congrArg some (by omega)))⟩
  · obtain ⟨inRange, _⟩ := List.getElem?_eq_some_iff.mp here
    refine ⟨_, .missing inRange (fun earlier among => ?_) fun later among => ?_⟩
    · obtain ⟨place, there⟩ := List.mem_iff_getElem?.mp among
      obtain ⟨inside, _⟩ := List.getElem?_eq_some_iff.mp there
      rw [List.length_take_of_le inRange] at inside
      rw [List.getElem?_take_of_lt inside] at there
      have upTo := (le_iff_place_le ascending there).mpr (Nat.le_of_lt_succ inside)
      rcases Nat.lt_or_eq_of_le (Nat.le_of_lt_succ inside) with before | same
      · have less := starts_lt ascending there here before
        omega
      · rw [same, here] at there
        have sameStart := Option.some.inj there
        omega
    · obtain ⟨place, there⟩ := List.mem_iff_getElem?.mp among
      rw [List.getElem?_drop] at there
      have beyond : ¬ later ≤ offset := (le_iff_place_le ascending there).not.mpr (by omega)
      exact Nat.not_le.mp beyond

/-- Later offsets have later positions. -/
theorem position_before {offset other : Nat} (less : offset < other) :
    (index.position offset).Before (index.position other) := by
  obtain ⟨start, here, reached⟩ := exists_start ascending offset
  obtain ⟨next, there, alsoReached⟩ := exists_start ascending other
  have lines := (le_iff_place_le ascending here).mp (show start ≤ other by omega)
  rcases Nat.lt_or_eq_of_le lines with before | same
  · exact .inl (Nat.succ_lt_succ before)
  · rw [same, there] at here
    have sameStart := Option.some.inj here
    exact .inr ⟨congrArg Nat.succ same, by omega⟩

private theorem offsetAt_position (offset : Nat) :
    index.offsetAt (index.position offset).line (index.position offset).column = offset := by
  obtain ⟨start, here, reached⟩ := exists_start ascending offset
  rw [offsetAt, List.getD_eq_getElem?_getD]
  change (index.allStarts[(index.startsUpTo offset).length]?).getD 0 + _ = offset
  rw [here, Option.getD_some]
  exact reached.symm

end Ascending

end LineIndex

private theorem Position.Before.asymm {first second : Position} (before : first.Before second) :
    ¬ second.Before first := by
  unfold Position.Before at *
  omega

private theorem exists_isBreak_iff_mem (source : String) (stop : Nat) :
    (∃ start, IsBreak (bytesOf source) start stop) ↔ stop ∈ (LineIndex.ofSource source).starts := by
  rw [exists_isBreak_iff, bytesOf_eq_encoded, LineIndex.ofSource, mem_breakEnds, StopsAt]
  simp only [Nat.zero_add]

/-- The ends of the breaks up to an offset are the line starts up to it. -/
theorem image_breaksUpTo (source : String) (offset : Nat) :
    Prod.snd '' breaksUpTo source offset =
      {stop | stop ∈ (LineIndex.ofSource source).startsUpTo offset} := by
  ext stop
  rw [Set.mem_ofPred_eq, LineIndex.mem_startsUpTo (LineIndex.allStarts_ascending source),
    ← exists_isBreak_iff_mem]
  constructor
  · rintro ⟨⟨start, _⟩, ⟨found, upTo⟩, rfl⟩
    exact ⟨⟨start, found⟩, upTo⟩
  · rintro ⟨⟨start, found⟩, upTo⟩
    exact ⟨(start, stop), ⟨found, upTo⟩, rfl⟩

private theorem ncard_breaksUpTo (source : String) (offset : Nat) :
    (breaksUpTo source offset).ncard =
      ((LineIndex.ofSource source).startsUpTo offset).length := by
  have apart : Set.InjOn Prod.snd (breaksUpTo source offset) := by
    rintro ⟨start, stop⟩ ⟨found, _⟩ ⟨other, _⟩ ⟨also, _⟩ rfl
    exact Prod.ext (found.start_unique also) rfl
  have distinct : ((LineIndex.ofSource source).startsUpTo offset).Nodup := by
    have all := (List.pairwise_cons.mp (LineIndex.allStarts_ascending source)).2
    exact (all.sublist (List.takeWhile_sublist _)).imp Nat.ne_of_lt
  rw [← apart.ncard_image, image_breaksUpTo, ← List.coe_toFinset,
    Set.ncard_coe_finset, List.toFinset_card_of_nodup distinct]

/-- The last break that ends up to an offset ends where the line of the offset starts. -/
theorem isGreatest_start {source : String} {offset start : Nat}
    (here : (LineIndex.ofSource source).allStarts[
      ((LineIndex.ofSource source).startsUpTo offset).length]? = some start) :
    IsGreatest (insert 0 (Prod.snd '' breaksUpTo source offset)) start := by
  have ascending := LineIndex.allStarts_ascending source
  have places {stop : Nat} : stop ∈ insert 0 (Prod.snd '' breaksUpTo source offset) ↔
      stop ∈ (LineIndex.ofSource source).allStarts ∧ stop ≤ offset := by
    rw [image_breaksUpTo, Set.mem_insert_iff, Set.mem_ofPred_eq,
      LineIndex.mem_startsUpTo ascending, LineIndex.allStarts, List.mem_cons, or_and_right]
    exact or_congr_left (and_iff_left_of_imp fun zero => zero ▸ Nat.zero_le offset).symm
  constructor
  · exact places.mpr ⟨List.mem_of_getElem? here,
      (LineIndex.le_iff_place_le ascending here).mpr le_rfl⟩
  · intro stop among
    obtain ⟨present, upTo⟩ := places.mp among
    obtain ⟨place, there⟩ := List.mem_iff_getElem?.mp present
    have notLater := (LineIndex.le_iff_place_le ascending there).mp upTo
    rcases Nat.lt_or_eq_of_le notLater with before | same
    · exact (LineIndex.starts_lt ascending there here before).le
    · rw [same, here] at there
      exact (Option.some.inj there).ge

/-- The position of an offset, which may lie past the end: what its line and its column count, what
a search for it among the line starts tells, its order, and the way back to it. -/
theorem position_exact (source : String) (offset : Nat) :
    ((LineIndex.ofSource source).position offset).line = 1 + (breaksUpTo source offset).ncard ∧
      (∃ start, IsGreatest (insert 0 (Prod.snd '' breaksUpTo source offset)) start ∧
        offset = start + ((LineIndex.ofSource source).position offset).column) ∧
      (∃ answer, Sought (LineIndex.ofSource source).allStarts offset answer) ∧
      (∀ answer, Sought (LineIndex.ofSource source).allStarts offset answer →
        ∃ line start, TellsLine answer line ∧
          (LineIndex.ofSource source).allStarts[line]? = some start ∧ start ≤ offset ∧
          (LineIndex.ofSource source).position offset = ⟨line + 1, offset - start, offset⟩) ∧
      (∀ other, offset < other ↔ ((LineIndex.ofSource source).position offset).Before
        ((LineIndex.ofSource source).position other)) ∧
      (LineIndex.ofSource source).offsetAt ((LineIndex.ofSource source).position offset).line
        ((LineIndex.ofSource source).position offset).column = offset := by
  have ascending := LineIndex.allStarts_ascending source
  obtain ⟨start, here, reached⟩ := LineIndex.exists_start ascending offset
  refine ⟨?_, ⟨start, isGreatest_start here, reached⟩, LineIndex.exists_sought ascending offset,
    fun answer sought => ?_, fun other => ⟨LineIndex.position_before ascending, fun before => ?_⟩,
    LineIndex.offsetAt_position ascending offset⟩
  · rw [ncard_breaksUpTo, Nat.add_comm]
    rfl
  · refine ⟨_, start, LineIndex.tellsLine_of_sought ascending sought, here, by omega, ?_⟩
    have column : ((LineIndex.ofSource source).position offset).column = offset - start := by omega
    rw [← column]
    rfl
  · refine Nat.lt_of_not_le fun later => ?_
    rcases Nat.lt_or_eq_of_le later with less | same
    · exact before.asymm (LineIndex.position_before ascending less)
    · rw [same] at before
      exact before.asymm before

end QueryTypes.Source
