import QueryTypes.Declared.Printer
import QueryTypes.Proofs.Json.Quoted
import QueryTypes.Proofs.Text.Runs

/-!
The smallest parts of a printed type, told by their text whatever follows them.

A word goes on as long as there are characters of words. What may follow a type is not one of these:
it closes what the type stands in, or is the separator of a union or intersection.
-/

set_option autoImplicit false

namespace QueryTypes.Declared

/-- With something of a kind after them, two texts are only equal if a relation holds, and then what
follows them is equal too. -/
def Tells (following : List Char → Prop) (first second : String) (related : Prop) : Prop :=
  ∀ ⦃rest others : List Char⦄, following rest → following others →
    first.toList ++ rest = second.toList ++ others → related ∧ rest = others

namespace Tells

variable {following later : List Char → Prop} {first second third fourth : String}
  {related further : Prop}

theorem imp (tells : Tells following first second related) (implies : related → further) :
    Tells following first second further := by
  intro rest others allowed allowedToo same
  obtain ⟨holds, alike⟩ := tells allowed allowedToo same
  exact ⟨implies holds, alike⟩

theorem append (tells : Tells following first second related)
    (tellsMore : Tells later third fourth further)
    (leftFollows : ∀ {rest}, later rest → following (third.toList ++ rest))
    (rightFollows : ∀ {rest}, later rest → following (fourth.toList ++ rest)) :
    Tells later (first ++ third) (second ++ fourth) (related ∧ further) := by
  intro rest others allowed allowedToo same
  rw [String.toList_append, String.toList_append, List.append_assoc, List.append_assoc] at same
  obtain ⟨holds, next⟩ := tells (leftFollows allowed) (rightFollows allowedToo) same
  obtain ⟨holdsMore, alike⟩ := tellsMore allowed allowedToo next
  exact ⟨⟨holds, holdsMore⟩, alike⟩

theorem after (text : String) (tells : Tells following first second related) :
    Tells following (text ++ first) (text ++ second) related := by
  intro rest others allowed allowedToo same
  rw [String.toList_append, String.toList_append, List.append_assoc, List.append_assoc] at same
  exact tells allowed allowedToo (List.append_cancel_left same)

theorem upTo (text : String) (tells : Tells following first second related)
    (follows : ∀ {rest}, later rest → following (text.toList ++ rest)) :
    Tells later (first ++ text) (second ++ text) related := by
  intro rest others allowed allowedToo same
  rw [String.toList_append, String.toList_append, List.append_assoc, List.append_assoc] at same
  obtain ⟨holds, alike⟩ := tells (follows allowed) (follows allowedToo) same
  exact ⟨holds, List.append_cancel_left alike⟩

end Tells

/-! ### Words -/

/-- The characters of identifiers. Of those that are not ASCII all are let in. -/
def isWordChar (char : Char) : Bool :=
  char.isAlphanum || char == '$' || char == '_' || decide (128 ≤ char.toNat)

def isIdentifier (name : String) : Bool :=
  match name.toList with
  | [] => false
  | first :: rest => isWordChar first && !first.isDigit && rest.all isWordChar

theorem isIdentifier_start {name : String} (valid : isIdentifier name = true) :
    ∃ first rest,
      name.toList = first :: rest ∧ isWordChar first = true ∧ first.isDigit = false := by
  unfold isIdentifier at valid
  cases chars : name.toList with
  | nil =>
      rw [chars] at valid
      cases valid
  | cons first rest =>
      rw [chars] at valid
      simp only [Bool.and_eq_true, Bool.not_eq_true'] at valid
      exact ⟨first, rest, rfl, valid.1.1, valid.1.2⟩

theorem isIdentifier_chars {name : String} (valid : isIdentifier name = true) :
    ∀ char ∈ name.toList, isWordChar char = true := by
  unfold isIdentifier at valid
  cases chars : name.toList with
  | nil => exact nofun
  | cons first rest =>
      rw [chars] at valid
      simp only [Bool.and_eq_true, List.all_eq_true] at valid
      exact List.forall_mem_cons.mpr ⟨valid.1.1, valid.2⟩

theorem identifier_tells {first second : String} (validFirst : isIdentifier first = true)
    (validSecond : isIdentifier second = true) :
    Tells (EndsRun isWordChar) first second (first = second) := by
  intro rest others endsRest endsOthers same
  obtain ⟨names, alike⟩ := run_prefix (isIdentifier_chars validFirst)
    (isIdentifier_chars validSecond) endsRest endsOthers same
  exact ⟨String.toList_inj.mp names, alike⟩

theorem quoted_tells (first second : String) :
    Tells (fun _ => True) (Json.quoted first) (Json.quoted second) (first = second) := by
  intro rest others _ _ same
  unfold Json.quoted at same
  rw [String.toList_ofList, String.toList_ofList] at same
  obtain ⟨texts, alike⟩ := Json.quotedChars_prefix same
  exact ⟨String.toList_inj.mp texts, alike⟩

/-! ### What may follow a type -/

/-- What may stand after a type, with the marks of the separators that may. -/
inductive Follows (marks : List Char) : List Char → Prop where
  | nothing : Follows marks []
  | closer {char : Char} (closes : char ∈ [';', ')', ',', '>']) (rest : List Char) :
      Follows marks (char :: rest)
  | separator {mark : Char} (listed : mark ∈ marks) (rest : List Char) :
      Follows marks (' ' :: mark :: ' ' :: rest)

namespace Follows

variable {marks : List Char} {rest : List Char}

theorem mono {more : List Char} (within : marks ⊆ more) (follows : Follows marks rest) :
    Follows more rest := by
  cases follows with
  | nothing => exact .nothing
  | closer closes rest => exact .closer closes rest
  | separator listed rest => exact .separator (within listed) rest

theorem start (follows : Follows marks rest) :
    ∀ start ∈ rest.head?, start ∈ [' ', ';', ')', ',', '>'] := by
  cases follows with
  | nothing => exact nofun
  | closer closes rest =>
      rintro _ ⟨⟩
      exact List.mem_cons_of_mem _ closes
  | separator listed rest =>
      rintro _ ⟨⟩
      exact List.mem_cons_self

/-- Nothing that follows a type goes on with a run of which it has no characters. -/
theorem endsRun {kind : Char → Bool} (none : [' ', ';', ')', ',', '>'].any kind = false)
    (follows : Follows marks rest) : EndsRun kind rest := by
  intro start present
  exact Bool.eq_false_iff.mpr (List.any_eq_false.mp none start (follows.start start present))

theorem endsWord (follows : Follows marks rest) : EndsRun isWordChar rest :=
  follows.endsRun (by decide)

theorem mark_of_blank {mark : Char} {more : List Char}
    (follows : Follows marks (' ' :: mark :: more)) : mark ∈ marks := by
  cases follows with
  | closer closes rest => exact absurd closes (by decide)
  | separator listed rest => exact listed

end Follows

/-! ### Lists -/

private theorem separated_cons_cons (separator first second : String) (rest : List String) :
    separated separator (first :: second :: rest) =
      first ++ separator ++ separated separator (second :: rest) := rfl

private theorem separated_append {separator : String} {first second : List String}
    (some : first ≠ []) (more : second ≠ []) :
    separated separator (first ++ second) =
      separated separator first ++ separator ++ separated separator second := by
  induction first with
  | nil => exact absurd rfl some
  | cons start rest ih =>
      cases rest with
      | nil =>
          obtain ⟨next, others, rfl⟩ := List.exists_cons_of_ne_nil more
          rfl
      | cons next others =>
          have shorter := ih (List.cons_ne_nil _ _)
          rw [List.cons_append, List.cons_append, separated_cons_cons, separated_cons_cons,
            ← List.cons_append, shorter]
          simp only [String.append_assoc]

/-- Texts that are separated themselves may be taken apart in the list. -/
theorem separated_flatMap {Element : Type} {separator : String} {text : Element → String}
    {parts : Element → List String} {elements : List Element}
    (each : ∀ element ∈ elements,
      parts element ≠ [] ∧ text element = separated separator (parts element)) :
    separated separator (elements.map text) = separated separator (elements.flatMap parts) := by
  induction elements with
  | nil => rfl
  | cons first rest ih =>
      obtain ⟨⟨some, same⟩, others⟩ := List.forall_mem_cons.mp each
      cases rest with
      | nil => rw [List.map_singleton, List.flatMap_singleton]; exact same
      | cons second more =>
          have further : (second :: more).flatMap parts ≠ [] := by
            rw [List.flatMap_cons]
            exact List.append_ne_nil_of_left_ne_nil (others second List.mem_cons_self).1 _
          rw [List.flatMap_cons, separated_append some further, ← ih others, ← same]
          rfl

private theorem separated_longer {Element : Type} (separator : String) (text : Element → String)
    (first second : Element) (more : List Element) (rest : List Char) :
    (separated separator ((first :: second :: more).map text)).toList ++ rest =
      (text first).toList ++ (separator.toList ++
        ((separated separator ((second :: more).map text)).toList ++ rest)) := by
  rw [List.map_cons, List.map_cons, separated_cons_cons, String.toList_append,
    String.toList_append, List.append_assoc, List.append_assoc]

structure Separates (separator : String) (inner outer : List Char → Prop) : Prop where
  inside : ∀ rest, inner (separator.toList ++ rest)
  outside : ∀ {rest}, outer rest → inner rest
  apart : ∀ {rest more}, outer rest → rest ≠ separator.toList ++ more

theorem separated_tells {Element : Type} {separator : String} {text : Element → String}
    {relation : Element → Element → Prop} {inner outer : List Char → Prop}
    (separates : Separates separator inner outer) {firsts seconds : List Element}
    (each : ∀ first ∈ firsts, ∀ second ∈ seconds,
      Tells inner (text first) (text second) (relation first second))
    (someFirst : firsts ≠ []) (someSecond : seconds ≠ []) :
    Tells outer (separated separator (firsts.map text)) (separated separator (seconds.map text))
      (List.Forall₂ relation firsts seconds) := by
  induction firsts generalizing seconds with
  | nil => exact absurd rfl someFirst
  | cons first moreFirst ih =>
      obtain ⟨second, moreSecond, rfl⟩ := List.exists_cons_of_ne_nil someSecond
      have heads : Tells inner (text first) (text second) (relation first second) :=
        each first List.mem_cons_self second List.mem_cons_self
      intro rest others endsRest endsOthers same
      cases moreFirst with
      | nil =>
          cases moreSecond with
          | nil =>
              obtain ⟨related, alike⟩ :=
                heads (separates.outside endsRest) (separates.outside endsOthers) same
              exact ⟨.cons related .nil, alike⟩
          | cons next last =>
              -- What follows the shorter list would start with the separator.
              rw [separated_longer] at same
              have ends := (heads (separates.outside endsRest) (separates.inside _) same).2
              exact absurd ends (separates.apart endsRest)
      | cons next last =>
          cases moreSecond with
          | nil =>
              rw [separated_longer] at same
              have ends := (heads (separates.inside _) (separates.outside endsOthers) same).2
              exact absurd ends.symm (separates.apart endsOthers)
          | cons other further =>
              rw [separated_longer, separated_longer] at same
              obtain ⟨related, tails⟩ := heads (separates.inside _) (separates.inside _) same
              obtain ⟨relatedMore, alike⟩ := ih (fun one among two present =>
                each one (List.mem_cons_of_mem _ among) two (List.mem_cons_of_mem _ present))
                (List.cons_ne_nil _ _) (List.cons_ne_nil _ _) endsRest endsOthers
                (List.append_cancel_left tails)
              exact ⟨.cons related relatedMore, alike⟩

/-- A list that ends in a text with which none of its elements starts is told by its text if its
elements are. -/
theorem closed_tells {Element : Type} {closing : String} {text : Element → String}
    {relation : Element → Element → Prop}
    (apart : ∀ element rest others, (text element).toList ++ rest ≠ closing.toList ++ others)
    {firsts seconds : List Element}
    (each : ∀ first ∈ firsts, ∀ second ∈ seconds,
      Tells (fun _ => True) (text first) (text second) (relation first second)) :
    Tells (fun _ => True) (String.join (firsts.map text) ++ closing)
      (String.join (seconds.map text) ++ closing) (List.Forall₂ relation firsts seconds) := by
  have longer (element : Element) (more : List Element) :
      String.join ((element :: more).map text) ++ closing =
        text element ++ (String.join (more.map text) ++ closing) := by
    rw [List.map_cons, String.join_cons, String.append_assoc]
  have shortest : String.join (([] : List Element).map text) ++ closing = closing :=
    String.empty_append
  induction firsts generalizing seconds with
  | nil =>
      intro rest others _ _ same
      cases seconds with
      | nil => exact ⟨.nil, List.append_cancel_left same⟩
      | cons second more =>
          rw [longer, shortest, String.toList_append, List.append_assoc] at same
          exact absurd same.symm (apart second _ _)
  | cons first moreFirst ih =>
      intro rest others _ _ same
      cases seconds with
      | nil =>
          rw [longer, shortest, String.toList_append, List.append_assoc] at same
          exact absurd same (apart first _ _)
      | cons second moreSecond =>
          have heads := each first List.mem_cons_self second List.mem_cons_self
          have tails := ih fun one among two present =>
            each one (List.mem_cons_of_mem _ among) two (List.mem_cons_of_mem _ present)
          rw [longer, longer] at same
          obtain ⟨⟨related, relatedMore⟩, alike⟩ :=
            heads.append tails (fun _ => trivial) (fun _ => trivial) trivial trivial same
          exact ⟨.cons related relatedMore, alike⟩

end QueryTypes.Declared
