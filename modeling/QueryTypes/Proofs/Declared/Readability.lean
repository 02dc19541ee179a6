import QueryTypes.Proofs.Declared.Forms

/-!
Printed types can be read in one way only.

The text of a type tells its summands, the text of a summand its operands, and the text of an
operand what it is made of: its start tells its form, and with the form it is clear where its parts
are. So types with one text differ only in how they are nested.
-/

set_option autoImplicit false

namespace QueryTypes.Declared

/-! ### Members -/

def KeyEnds (rest : List Char) : Prop := ∃ more, rest = '?' :: more ∨ rest = ':' :: more

theorem KeyEnds.endsWord {rest : List Char} (ends : KeyEnds rest) : EndsRun isWordChar rest := by
  obtain ⟨more, rfl | rfl⟩ := ends
  · rintro _ ⟨⟩
    rfl
  · rintro _ ⟨⟩
    rfl

inductive KeyForm where
  | identifier
  | string
  | computed

def MemberKey.form : MemberKey → KeyForm
  | .identifier _ => .identifier
  | .string _ => .string
  | .computed _ => .computed

def keyForm (text : List Char) : KeyForm :=
  if text.head? = some '"' then .string
  else if text.head? = some '[' then .computed
  else .identifier

private theorem keyForm_text {key : MemberKey} (valid : key.Valid) (rest : List Char) :
    keyForm (key.text.toList ++ rest) = key.form := by
  cases key with
  | identifier name =>
      obtain ⟨first, more, chars, word, _⟩ := isIdentifier_start valid
      have noQuote : first ≠ '"' := by
        rintro rfl
        exact absurd word (by decide)
      have noBracket : first ≠ '[' := by
        rintro rfl
        exact absurd word (by decide)
      rw [MemberKey.text, chars]
      simp [keyForm, MemberKey.form, noQuote, noBracket]
  | string value =>
      rw [MemberKey.text, Json.quoted, String.toList_ofList]
      rfl
  | computed name =>
      rw [MemberKey.text, String.toList_append, String.toList_append]
      rfl

private theorem key_tells {first second : MemberKey} (validFirst : first.Valid)
    (validSecond : second.Valid) : Tells KeyEnds first.text second.text (first = second) := by
  intro rest others endsRest endsOthers same
  have forms : first.form = second.form := by
    rw [← keyForm_text validFirst rest, ← keyForm_text validSecond others, same]
  cases first with
  | identifier name =>
      cases second with
      | identifier other =>
          have names := (identifier_tells validFirst validSecond).imp
            (congrArg MemberKey.identifier)
          exact names endsRest.endsWord endsOthers.endsWord same
      | _ => cases forms
  | string value =>
      cases second with
      | string other =>
          exact ((quoted_tells value other).imp (congrArg MemberKey.string)) trivial trivial same
      | _ => cases forms
  | computed name =>
      cases second with
      | computed other =>
          have closes {text : List Char} (_ : KeyEnds text) :
              EndsRun isWordChar ("]".toList ++ text) := by
            rintro _ ⟨⟩
            rfl
          have names := (identifier_tells validFirst validSecond).imp (congrArg MemberKey.computed)
          have bracketed := (names.after "[").upTo "]" closes
          exact bracketed endsRest endsOthers same
      | _ => cases forms

def memberLine (level : Nat) (member : Member) : String :=
  indentation level ++ member.key.text ++ (if member.optional then "?" else "") ++ ": " ++
    member.type.print level ++ ";\n"

private theorem printMembers_eq_map (level : Nat) (members : List Member) :
    printMembers level members = members.map (memberLine level) := by
  induction members with
  | nil => rfl
  | cons first rest ih =>
      obtain ⟨key, optional, type⟩ := first
      rw [printMembers, ih, List.map_cons]
      rfl

private theorem optional_tells (first second : Bool) :
    Tells (StartsWith ':') (if first then "?" else "") (if second then "?" else "")
      (first = second) := by
  rintro _ _ ⟨rest, rfl⟩ ⟨others, rfl⟩ same
  cases first with
  | false =>
      cases second with
      | false => exact ⟨rfl, same⟩
      | true => cases (List.cons.inj same).1
  | true =>
      cases second with
      | false => cases (List.cons.inj same).1
      | true => exact ⟨rfl, (List.cons.inj same).2⟩

private theorem keyEnds_optional (optional : Bool) {rest : List Char}
    (colon : StartsWith ':' rest) :
    KeyEnds ((if optional then "?" else "").toList ++ rest) := by
  obtain ⟨more, rfl⟩ := colon
  cases optional with
  | false => exact ⟨more, .inr rfl⟩
  | true => exact ⟨':' :: more, .inl rfl⟩

private theorem memberLine_tells (level : Nat) {first second : Member}
    (validFirst : first.key.Valid)
    (validSecond : second.key.Valid)
    (types : Tells (Follows []) (first.type.print level) (second.type.print level)
      (Alike first.type second.type)) :
    Tells (fun _ => True) (memberLine level first) (memberLine level second)
      (SameMember first second) := by
  have keys := (key_tells validFirst validSecond).after (indentation level)
  have marked := keys.append (optional_tells first.optional second.optional)
    (keyEnds_optional first.optional) (keyEnds_optional second.optional)
  have named : Tells (fun _ => True) _ _ _ := marked.upTo ": " fun _ => ⟨_, rfl⟩
  have typed := named.append types (fun _ => trivial) (fun _ => trivial)
  have lines : Tells (fun _ => True) _ _ _ :=
    typed.upTo ";\n" fun _ => .closer List.mem_cons_self _
  exact lines.imp fun ⟨⟨key, optional⟩, type⟩ => ⟨key, optional, type⟩

private theorem indentation_succ (level : Nat) :
    indentation (level + 1) = indentation level ++ "  " := by
  unfold indentation
  rw [Nat.mul_add, List.replicate_add, String.ofList_append]
  rfl

/-- The line of a member is indented further than the brace that closes the members. -/
theorem memberLine_apart (level : Nat) (member : Member) (rest others : List Char) :
    (memberLine (level + 1) member).toList ++ rest ≠
      (indentation level ++ "\x7d").toList ++ others := by
  intro same
  unfold memberLine at same
  rw [indentation_succ] at same
  simp only [String.toList_append, List.append_assoc] at same
  cases (List.cons.inj (List.append_cancel_left same)).1

private theorem braced_tells {level : Nat} {firsts seconds : List Member}
    (each : ∀ first ∈ firsts, ∀ second ∈ seconds,
      Tells (fun _ => True) (memberLine (level + 1) first) (memberLine (level + 1) second)
        (SameMember first second)) :
    Tells (fun _ => True) (braced level (printMembers (level + 1) firsts))
      (braced level (printMembers (level + 1) seconds))
      (List.Forall₂ SameMember firsts seconds) := by
  have lines := closed_tells (memberLine_apart level) each
  have empty : braced level (([] : List Member).map (memberLine (level + 1))) = "\x7b\x7d" := rfl
  rw [printMembers_eq_map, printMembers_eq_map]
  intro rest others _ _ same
  cases firsts with
  | nil =>
      cases seconds with
      | nil => exact ⟨.nil, List.append_cancel_left same⟩
      | cons second more =>
          rw [empty, List.map_cons, braced_cons, String.toList_append] at same
          cases (List.cons.inj (List.cons.inj same).2).1
  | cons first moreFirst =>
      cases seconds with
      | nil =>
          rw [empty, List.map_cons, braced_cons, String.toList_append] at same
          cases (List.cons.inj (List.cons.inj same).2).1
      | cons second moreSecond =>
          rw [List.map_cons, List.map_cons, braced_cons, braced_cons] at same
          exact lines.after "\x7b\n" trivial trivial same

/-! ### References -/

private theorem arguments_separate : Separates ", " (Follows []) (StartsWith '>') where
  inside := fun rest => .closer (by decide) (' ' :: rest)
  outside := by
    rintro _ ⟨more, rfl⟩
    exact .closer (by decide) more
  apart := by
    rintro _ more ⟨others, rfl⟩ same
    cases (List.cons.inj same).1

private theorem Follows.no_bracket {marks rest : List Char} (follows : Follows marks rest)
    (more : List Char) : rest ≠ '<' :: more := by
  rintro rfl
  exact absurd (follows.start '<' rfl) (by decide)

private theorem bracketed_tells {text : TypeExpr → String} {firsts seconds : List TypeExpr}
    (each : ∀ first ∈ firsts, ∀ second ∈ seconds,
      Tells (Follows []) (text first) (text second) (Alike first second)) :
    Tells (Follows operandMarks) (bracketed (firsts.map text)) (bracketed (seconds.map text))
      (List.Forall₂ Alike firsts seconds) := by
  intro rest others followsRest followsOthers same
  cases firsts with
  | nil =>
      cases seconds with
      | nil => exact ⟨.nil, same⟩
      | cons second more =>
          rw [List.map_cons, bracketed_cons, String.append_assoc, String.toList_append] at same
          exact absurd same (followsRest.no_bracket _)
  | cons first moreFirst =>
      cases seconds with
      | nil =>
          rw [List.map_cons, bracketed_cons, String.append_assoc, String.toList_append] at same
          exact absurd same.symm (followsOthers.no_bracket _)
      | cons second moreSecond =>
          have listed := separated_tells arguments_separate each (List.cons_ne_nil _ _)
            (List.cons_ne_nil _ _)
          have closed : Tells (Follows operandMarks) _ _ _ :=
            (listed.after "<").upTo ">" fun _ => ⟨_, rfl⟩
          exact closed followsRest followsOthers same

/-! ### Types by their text -/

private theorem keyword_tells (first second : Keyword) :
    Tells (fun _ => True) first.text second.text (first = second) := by
  have apart (one two : Keyword) : one.text.toList <+: two.text.toList → one = two := by
    cases one <;> cases two <;> decide
  intro rest others _ _ same
  have starts : second.text.toList <+: first.text.toList ++ rest :=
    same ▸ List.prefix_append second.text.toList others
  have keywords : first = second :=
    (List.prefix_or_prefix_of_prefix (List.prefix_append _ rest) starts).elim
      (apart first second) fun shorter => (apart second first shorter).symm
  subst keywords
  exact ⟨rfl, List.append_cancel_left same⟩

private theorem boolean_tells (first second : Bool) :
    Tells (fun _ => True) (if first then "true" else "false") (if second then "true" else "false")
      (first = second) := by
  intro rest others _ _ same
  cases first with
  | false =>
      cases second with
      | false => exact ⟨rfl, List.append_cancel_left same⟩
      | true => cases (List.cons.inj same).1
  | true =>
      cases second with
      | false => cases (List.cons.inj same).1
      | true => exact ⟨rfl, List.append_cancel_left same⟩

private theorem number_tells {first second : Number} (finiteFirst : first.isFinite = true)
    (finiteSecond : second.isFinite = true) :
    Tells (EndsRun Number.isNumeralChar) first.text second.text (first.same second = true) := by
  intro rest others endsRest endsOthers same
  obtain ⟨texts, alike⟩ := run_prefix (Number.text_numeral finiteFirst)
    (Number.text_numeral finiteSecond) endsRest endsOthers same
  exact ⟨Number.same_of_text_eq finiteFirst finiteSecond (String.toList_inj.mp texts), alike⟩

private theorem comment_tells {first second : String} (closedFirst : ¬ ClosesComment first)
    (closedSecond : ¬ ClosesComment second) :
    Tells (fun _ => True) (first ++ "*/") (second ++ "*/") (first = second) := by
  intro rest others _ _ same
  rw [String.toList_append, String.toList_append, List.append_assoc, List.append_assoc] at same
  obtain ⟨texts, alike⟩ := comment_prefix closedFirst closedSecond same
  exact ⟨String.toList_inj.mp texts, alike⟩

def TypeExpr.parts : TypeExpr → List TypeExpr
  | .reference _ arguments => arguments
  | .literal members => members.map (·.type)
  | .union types => [.union types]
  | _ => []

def TypeExpr.Told (first : TypeExpr) : Prop :=
  first.Plain → ∀ (level : Nat) {second : TypeExpr}, second.Plain →
    Tells (Follows []) (first.print level) (second.print level) (Alike first second)

private theorem reference_tells (level : Nat) {first second : String}
    {arguments others : List TypeExpr} (plainFirst : (TypeExpr.reference first arguments).Plain)
    (plainSecond : (TypeExpr.reference second others).Plain)
    (told : ∀ argument ∈ arguments, argument.Told) :
    Tells (Follows operandMarks) ((TypeExpr.reference first arguments).print level)
      ((TypeExpr.reference second others).print level)
      (Alike (.reference first arguments) (.reference second others)) := by
  cases plainFirst with
  | reference valid _ all =>
      cases plainSecond with
      | reference validToo _ allToo =>
          have lists : Tells (Follows operandMarks) (bracketed (arguments.map (·.print level)))
              (bracketed (others.map (·.print level))) (List.Forall₂ Alike arguments others) :=
            bracketed_tells fun argument among other present =>
              told argument among (all argument among) level (allToo other present)
          have whole := (identifier_tells valid validToo).append lists
            (bracketed_endsWord _) (bracketed_endsWord _)
          unfold TypeExpr.print
          rw [printTypes_eq_map, printTypes_eq_map]
          refine whole.imp fun same => ?_
          rw [same.1]
          exact .arguments second same.2

private theorem literal_tells (level : Nat) {members others : List Member}
    (plainFirst : (TypeExpr.literal members).Plain) (plainSecond : (TypeExpr.literal others).Plain)
    (told : ∀ member ∈ members, member.type.Told) :
    Tells (fun _ => True) ((TypeExpr.literal members).print level)
      ((TypeExpr.literal others).print level) (Alike (.literal members) (.literal others)) := by
  cases plainFirst with
  | literal keys all =>
      cases plainSecond with
      | literal keysToo allToo =>
          have lines : Tells (fun _ => True) _ _ _ :=
            braced_tells fun member among other present =>
              memberLine_tells (level + 1) (keys member among) (keysToo other present)
                (told member among (all member among) (level + 1) (allToo other present))
          exact lines.imp Alike.members

private theorem unknown_tells (level : Nat) {first second : String}
    (plainFirst : (TypeExpr.annotated (.keyword .unknown) first).Plain)
    (plainSecond : (TypeExpr.annotated (.keyword .unknown) second).Plain) :
    Tells (fun _ => True) ((TypeExpr.annotated (.keyword .unknown) first).print level)
      ((TypeExpr.annotated (.keyword .unknown) second).print level)
      (Alike (.annotated (.keyword .unknown) first) (.annotated (.keyword .unknown) second)) := by
  cases plainFirst with
  | unknown closed =>
      cases plainSecond with
      | unknown closedToo =>
          have comments := ((comment_tells closed closedToo).after " /*").after "unknown"
          rw [← String.append_assoc, ← String.append_assoc, ← String.append_assoc,
            ← String.append_assoc] at comments
          refine comments.imp fun same => ?_
          rw [same]
          exact .refl _

private theorem union_tells (level : Nat) {types others : List TypeExpr}
    (plainFirst : (TypeExpr.union types).Plain) (plainSecond : (TypeExpr.union others).Plain)
    (told : (TypeExpr.union types).Told) :
    Tells (fun _ => True) (printOperand level (.union types)) (printOperand level (.union others))
      (Alike (.union types) (.union others)) :=
  ((told plainFirst level plainSecond).after "(").upTo ")" fun _ => .closer (by decide) _

private theorem printOperand_tells (level : Nat) {first second : TypeExpr}
    (plainFirst : first.Plain) (plainSecond : second.Plain)
    (singleFirst : first.isIntersection = false) (singleSecond : second.isIntersection = false)
    (parts : ∀ part ∈ first.parts, part.Told) :
    Tells (Follows operandMarks) (printOperand level first) (printOperand level second)
      (Alike first second) := by
  intro rest others followsRest followsOthers same
  -- Both start alike, so they are of one form, and only the parts of that form are to be told.
  have shapes : first.shape = second.shape := by
    rw [← shapeOf_printOperand level plainFirst singleFirst followsRest,
      ← shapeOf_printOperand level plainSecond singleSecond followsOthers, same]
  cases plainFirst with
  | keyword keyword =>
      cases plainSecond with
      | keyword other =>
          obtain ⟨rfl, alike⟩ := keyword_tells keyword other trivial trivial same
          exact ⟨.refl _, alike⟩
      | _ => cases shapes
  | string value =>
      cases plainSecond with
      | string other =>
          obtain ⟨rfl, alike⟩ := quoted_tells value other trivial trivial same
          exact ⟨.refl _, alike⟩
      | _ => cases shapes
  | number finite =>
      cases plainSecond with
      | number finiteToo =>
          have ends {text : List Char} (follows : Follows operandMarks text) :
              EndsRun Number.isNumeralChar text := follows.endsRun (by decide)
          have numbers := (number_tells finite finiteToo).imp Alike.number
          exact numbers (ends followsRest) (ends followsOthers) same
      | _ => cases shapes
  | boolean value =>
      cases plainSecond with
      | boolean other =>
          obtain ⟨rfl, alike⟩ := boolean_tells value other trivial trivial same
          exact ⟨.refl _, alike⟩
      | _ => cases shapes
  | reference valid free all =>
      cases plainSecond with
      | reference validToo freeToo allToo =>
          exact reference_tells level (.reference valid free all)
            (.reference validToo freeToo allToo) parts followsRest followsOthers same
      | _ => cases shapes
  | literal keys all =>
      cases plainSecond with
      | literal keysToo allToo =>
          exact literal_tells level (.literal keys all) (.literal keysToo allToo)
            (List.forall_mem_map.mp parts) trivial trivial same
      | _ => cases shapes
  | unknown closed =>
      cases plainSecond with
      | unknown closedToo =>
          exact unknown_tells level (.unknown closed) (.unknown closedToo) trivial trivial same
      | _ => cases shapes
  | union some all =>
      cases plainSecond with
      | union someToo allToo =>
          exact union_tells level (.union some all) (.union someToo allToo)
            (parts _ List.mem_cons_self) trivial trivial same
      | intersection => cases singleSecond
      | _ => cases shapes
  | intersection some all => cases singleFirst

private theorem operands_separate : Separates " & " (Follows operandMarks) (Follows ['|']) where
  inside := fun rest => .separator (by decide) rest
  outside := Follows.mono (by decide)
  apart := by
    rintro _ more follows rfl
    exact absurd follows.mark_of_blank (by decide)

private theorem summands_separate : Separates " | " (Follows ['|']) (Follows []) where
  inside := fun rest => .separator (by decide) rest
  outside := Follows.mono (by decide)
  apart := by
    rintro _ more follows rfl
    exact absurd follows.mark_of_blank (by decide)

def TypeExpr.OperandsTold (type : TypeExpr) : Prop :=
  ∀ operand ∈ type.operands, ∀ part ∈ operand.parts, part.Told

private theorem summand_tells (level : Nat) {first second : TypeExpr} (plainFirst : first.Plain)
    (plainSecond : second.Plain) (singleFirst : first.isUnion = false)
    (singleSecond : second.isUnion = false) (told : first.OperandsTold) :
    Tells (Follows ['|']) (first.print level) (second.print level) (Alike first second) := by
  have asOperand {type : TypeExpr} (plain : type.Plain) (single : type.isUnion = false) :
      type.print level = separated " & " (type.operands.map (printOperand level)) := by
    rw [← printOperand_operands level plain, printOperand, single, if_neg Bool.false_ne_true]
  have each : ∀ operand ∈ first.operands, ∀ other ∈ second.operands,
      Tells (Follows operandMarks) (printOperand level operand) (printOperand level other)
        (Alike operand other) := by
    intro operand among other present
    obtain ⟨plain, single⟩ := plainFirst.operand operand among
    obtain ⟨plainToo, singleToo⟩ := plainSecond.operand other present
    exact printOperand_tells level plain plainToo single singleToo (told operand among)
  rw [asOperand plainFirst singleFirst, asOperand plainSecond singleSecond]
  have operands := separated_tells operands_separate each plainFirst.operands_ne_nil
    plainSecond.operands_ne_nil
  exact operands.imp Alike.of_operands

private theorem TypeExpr.told_of_summands {type : TypeExpr}
    (told : ∀ summand ∈ type.summands, summand.OperandsTold) : type.Told := by
  intro plainFirst level second plainSecond
  have each : ∀ summand ∈ type.summands, ∀ other ∈ second.summands,
      Tells (Follows ['|']) (summand.print level) (other.print level) (Alike summand other) := by
    intro summand among other present
    obtain ⟨plain, single⟩ := plainFirst.summand summand among
    obtain ⟨plainToo, singleToo⟩ := plainSecond.summand other present
    exact summand_tells level plain plainToo single singleToo (told summand among)
  rw [print_summands level plainFirst, print_summands level plainSecond]
  have summands := separated_tells summands_separate each plainFirst.summands_ne_nil
    plainSecond.summands_ne_nil
  exact summands.imp Alike.of_summands

private theorem TypeExpr.operandsTold_of_parts {type : TypeExpr}
    (single : type.isIntersection = false) (told : ∀ part ∈ type.parts, part.Told) :
    type.OperandsTold := by
  unfold TypeExpr.OperandsTold
  rw [TypeExpr.operands_of_not_intersection single]
  exact List.forall_mem_singleton.mpr told

/-- Where an operand is a union, it is told by its summands; else it is a summand itself. -/
theorem TypeExpr.operandsTold_of_summands {type : TypeExpr}
    (told : ∀ summand ∈ type.summands, summand.OperandsTold) : type.OperandsTold := by
  cases type with
  | union types =>
      exact operandsTold_of_parts rfl (List.forall_mem_singleton.mpr (told_of_summands told))
  | _ => exact told _ List.mem_cons_self

private theorem TypeExpr.Plain.summands_told {type : TypeExpr} (plain : type.Plain) :
    ∀ summand ∈ type.summands, summand.OperandsTold := by
  have partless {part : TypeExpr} (present : part ∈ ([] : List TypeExpr)) : part.Told :=
    absurd present List.not_mem_nil
  -- The summands of a nested union are summands of the outer one, so what the induction carries is
  -- about the summands and their operands, not about the type as a whole.
  induction plain with
  | keyword _ | string _ | number _ | boolean _ | unknown _ =>
      exact List.forall_mem_singleton.mpr
        (TypeExpr.operandsTold_of_parts rfl fun _ => partless)
  | reference _ _ _ ih =>
      refine List.forall_mem_singleton.mpr (TypeExpr.operandsTold_of_parts rfl ?_)
      exact fun argument among => TypeExpr.told_of_summands (ih argument among)
  | literal _ _ ih =>
      refine List.forall_mem_singleton.mpr (TypeExpr.operandsTold_of_parts rfl ?_)
      exact List.forall_mem_map.mpr fun member among => TypeExpr.told_of_summands (ih member among)
  | union _ _ ih =>
      rw [TypeExpr.summands, summandsOfAll_eq_flatMap]
      intro summand present
      obtain ⟨type, among, inside⟩ := List.mem_flatMap.mp present
      exact ih type among summand inside
  | intersection _ _ ih =>
      refine List.forall_mem_singleton.mpr ?_
      unfold TypeExpr.OperandsTold
      rw [TypeExpr.operands, operandsOfAll_eq_flatMap]
      intro operand present
      obtain ⟨type, among, inside⟩ := List.mem_flatMap.mp present
      exact TypeExpr.operandsTold_of_summands (ih type among) operand inside

/-- Types that are printed well and have the same text are the same type but for how they are
nested. -/
theorem TypeExpr.alike_of_print_eq {first second : TypeExpr} (plainFirst : first.Plain)
    (plainSecond : second.Plain) {level : Nat} (same : first.print level = second.print level) :
    Alike first second := by
  have told := TypeExpr.told_of_summands plainFirst.summands_told
  have texts : (first.print level).toList ++ [] = (second.print level).toList ++ [] := by rw [same]
  exact (told plainFirst level plainSecond .nothing .nothing texts).1

/-- `"a" | (Row<0> | null) & Named` however it was nested and whatever sign its zero had. -/
theorem TypeExpr.alike_regrouped :
    let choice (negative : Bool) : TypeExpr :=
      .union [.reference "Row" [.numberLiteral (.ofCode negative 0)], .keyword .null]
    let first : TypeExpr :=
      .union [.stringLiteral "a", .intersection [choice false, .reference "Named" []]]
    let second : TypeExpr :=
      .union [.union [.stringLiteral "a"],
        .intersection [.intersection [choice true], .reference "Named" []]]
    first.Plain ∧ second.Plain ∧ first.print 0 = second.print 0 ∧ Alike first second := by
  intro choice first second
  have pair {left right : TypeExpr} (plain : left.Plain) (plainToo : right.Plain) :
      ∀ type ∈ [left, right], type.Plain :=
    List.forall_mem_cons.mpr ⟨plain, List.forall_mem_singleton.mpr plainToo⟩
  have choices (negative : Bool) : (choice negative).Plain := by
    refine .union (List.cons_ne_nil _ _) (pair ?_ (.keyword .null))
    exact .reference (by decide) (by decide) (List.forall_mem_singleton.mpr (.number rfl))
  have named : (TypeExpr.reference "Named" []).Plain := .reference (by decide) (by decide) nofun
  have plainFirst : first.Plain :=
    .union (List.cons_ne_nil _ _) (pair (.string "a")
      (.intersection (List.cons_ne_nil _ _) (pair (choices false) named)))
  have plainSecond : second.Plain := by
    refine .union (List.cons_ne_nil _ _) (pair ?_ (.intersection (List.cons_ne_nil _ _) ?_))
    · exact .union (List.cons_ne_nil _ _) (List.forall_mem_singleton.mpr (.string "a"))
    · refine pair (.intersection (List.cons_ne_nil _ _) ?_) named
      exact List.forall_mem_singleton.mpr (choices true)
  have same : first.print 0 = second.print 0 := by decide +kernel
  exact ⟨plainFirst, plainSecond, same, alike_of_print_eq plainFirst plainSecond same⟩

end QueryTypes.Declared
