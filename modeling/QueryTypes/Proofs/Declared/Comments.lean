import Mathlib.Data.List.Infix
import QueryTypes.Declared.Printer

/-!
The comments of a generated file: the lines above a statement, and the notes inside of types.
-/

set_option autoImplicit false

namespace QueryTypes.Declared

/-- A character that ends a line of a script, and with it a line comment. -/
def isLineEnd (char : Char) : Bool :=
  char == '\n' || char == '\r' || char == '\u2028' || char == '\u2029'

/-- One of the ends of a line that nothing takes out of a text. -/
def isSeparator (char : Char) : Bool := char == '\u2028' || char == '\u2029'

def OneLine (text : String) : Prop := text.toList.any isLineEnd = false

instance (text : String) : Decidable (OneLine text) :=
  inferInstanceAs (Decidable (text.toList.any isLineEnd = false))

def ClosesComment (text : String) : Prop := ['*', '/'] <:+: text.toList

instance (text : String) : Decidable (ClosesComment text) :=
  inferInstanceAs (Decidable (['*', '/'] <:+: text.toList))

theorem oneLine_append {first second : String} :
    OneLine (first ++ second) ↔ OneLine first ∧ OneLine second := by
  unfold OneLine
  rw [String.toList_append, List.any_append, Bool.or_eq_false_iff]

private theorem pair_infix_append {Element : Type} {left right : Element}
    (first second : List Element) :
    [left, right] <:+: first ++ second ↔
      [left, right] <:+: first ∨ [left, right] <:+: second ∨
        first.getLast? = some left ∧ second.head? = some right := by
  induction first with
  | nil => simp
  | cons start rest ih =>
      rw [List.cons_append, List.infix_cons_iff, List.infix_cons_iff, ih]
      cases rest with
      | cons next others => simp [List.cons_prefix_cons, or_assoc]
      | nil =>
          cases second with
          | nil => simp [List.cons_prefix_cons]
          | cons next others =>
              simp only [List.cons_prefix_cons, List.getLast?_singleton, List.head?_cons,
                Option.some.injEq]
              grind

/-- Texts end a comment together only if they do so apart, or where they meet. -/
theorem closesComment_append {first second : String}
    (apart : first.toList.getLast? ≠ some '*' ∨ second.toList.head? ≠ some '/') :
    ClosesComment (first ++ second) ↔ ClosesComment first ∨ ClosesComment second := by
  have meet : ¬ (first.toList.getLast? = some '*' ∧ second.toList.head? = some '/') :=
    fun both => apart.elim (fun other => other both.1) fun other => other both.2
  unfold ClosesComment
  rw [String.toList_append, pair_infix_append, iff_false_intro meet, or_false]

mutual

def TypeExpr.notes : TypeExpr → List String
  | .keyword _ | .stringLiteral _ | .numberLiteral _ | .booleanLiteral _ => []
  | .reference _ arguments => notesOfAll arguments
  | .union types | .intersection types => notesOfAll types
  | .literal members => notesOfMembers members
  | .annotated type comment => type.notes ++ [comment]

def notesOfAll : List TypeExpr → List String
  | [] => []
  | first :: rest => first.notes ++ notesOfAll rest

def notesOfMembers : List Member → List String
  | [] => []
  | ⟨_, _, type⟩ :: rest => type.notes ++ notesOfMembers rest

end

theorem mem_notesOfAll {types : List TypeExpr} {note : String} :
    note ∈ notesOfAll types ↔ ∃ type ∈ types, note ∈ type.notes := by
  induction types with
  | nil => simp [notesOfAll]
  | cons first rest ih => simp [notesOfAll, ih]

theorem mem_notesOfMembers {members : List Member} {note : String} :
    note ∈ notesOfMembers members ↔ ∃ member ∈ members, note ∈ member.type.notes := by
  induction members with
  | nil => simp [notesOfMembers]
  | cons first rest ih =>
      obtain ⟨key, optional, type⟩ := first
      simp [notesOfMembers, ih]

def TopLevel.notes : TopLevel → List String
  | .importType _ _ _ => []
  | .constant _ type _ => type.notes
  | .alias _ _ type _ _ => type.notes
  | .augmentation _ interface _ => notesOfMembers interface.members

@[simp] theorem TopLevel.notes_withComments (lines : List String) (declaration : TopLevel) :
    (declaration.withComments lines).notes = declaration.notes := by
  cases declaration <;> rfl

@[simp] theorem TopLevel.notes_exportedAlias (name : String) (type : TypeExpr) :
    (exportedAlias name type).notes = type.notes := rfl

@[simp] theorem TopLevel.comments_withComments (lines : List String) (declaration : TopLevel) :
    (declaration.withComments lines).comments = declaration.comments ++ lines := by
  cases declaration <;> rfl

@[simp] theorem TopLevel.comments_exportedAlias (name : String) (type : TypeExpr) :
    (exportedAlias name type).comments = [] := rfl

/-- All line comments of a statement end where their line does. -/
def TopLevel.CommentsInLine (declaration : TopLevel) : Prop :=
  ∀ comment ∈ declaration.comments, OneLine comment

theorem TopLevel.augmentation_inLine {target : String} {interface : Interface}
    {comments : List String} (all : ∀ comment ∈ comments, OneLine comment) :
    (augmentation target interface comments).CommentsInLine := all

private theorem eq_nil_of_ends {body rest others : List Char} (inside : ¬ ['*', '/'] <:+: body)
    (same : '*' :: '/' :: rest = body ++ '*' :: '/' :: others) : body = [] := by
  cases body with
  | nil => rfl
  | cons first more =>
      obtain ⟨rfl, further⟩ := List.cons.inj same
      cases more with
      | nil => cases further
      | cons second last =>
          obtain ⟨rfl, _⟩ := List.cons.inj further
          exact absurd ⟨[], last, rfl⟩ inside

/-- Where a comment ends is told by its text, whatever follows. -/
theorem comment_prefix {first second rest others : List Char}
    (insideFirst : ¬ ['*', '/'] <:+: first) (insideSecond : ¬ ['*', '/'] <:+: second)
    (same : first ++ '*' :: '/' :: rest = second ++ '*' :: '/' :: others) :
    first = second ∧ rest = others := by
  induction first generalizing second with
  | nil =>
      obtain rfl := eq_nil_of_ends insideSecond same
      cases same
      exact ⟨rfl, rfl⟩
  | cons start more ih =>
      cases second with
      | nil => cases eq_nil_of_ends insideFirst same.symm
      | cons other others =>
          obtain ⟨rfl, further⟩ := List.cons.inj same
          have shorter {body : List Char} (inside : ¬ ['*', '/'] <:+: start :: body) :
              ¬ ['*', '/'] <:+: body := fun within => inside (List.infix_cons within)
          obtain ⟨rfl, alike⟩ := ih (shorter insideFirst) (shorter insideSecond) further
          exact ⟨rfl, alike⟩

end QueryTypes.Declared
