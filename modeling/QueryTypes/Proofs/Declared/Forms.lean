import QueryTypes.Proofs.Declared.Alike
import QueryTypes.Proofs.Declared.Comments
import QueryTypes.Proofs.Declared.Lexemes
import QueryTypes.Proofs.Number.ReadBack

/-!
The form of a printed type, by the start of its text.

A type is printed as its summands, and each summand as its operands. How an operand starts tells
which kind of type it is: a quote, a brace, a parenthesis, a digit or sign, or a word with what
comes after it.
-/

set_option autoImplicit false

namespace QueryTypes.Declared

/-! ### Types that are printed well -/

def keywordWords : List String := ["string", "number", "boolean", "null", "unknown", "never"]

def booleanWords : List String := ["true", "false"]

def MemberKey.Valid : MemberKey → Prop
  | .identifier name | .computed name => isIdentifier name = true
  | .string _ => True

/-- The types whose parts are what they are printed as: names are identifiers, unions and
intersections are not empty, and a comment, which only follows an unknown type, ends at its end. -/
inductive TypeExpr.Plain : TypeExpr → Prop where
  | keyword (keyword : Keyword) : Plain (.keyword keyword)
  | string (value : String) : Plain (.stringLiteral value)
  | number {value : Number} (finite : value.isFinite = true) : Plain (.numberLiteral value)
  | boolean (value : Bool) : Plain (.booleanLiteral value)
  | reference {name : String} {arguments : List TypeExpr} (valid : isIdentifier name = true)
      (free : name ∉ keywordWords ++ booleanWords) (all : ∀ argument ∈ arguments, Plain argument) :
      Plain (.reference name arguments)
  | union {types : List TypeExpr} (some : types ≠ []) (all : ∀ type ∈ types, Plain type) :
      Plain (.union types)
  | intersection {types : List TypeExpr} (some : types ≠ []) (all : ∀ type ∈ types, Plain type) :
      Plain (.intersection types)
  | literal {members : List Member} (keys : ∀ member ∈ members, member.key.Valid)
      (all : ∀ member ∈ members, Plain member.type) : Plain (.literal members)
  | unknown {comment : String} (closed : ¬ ClosesComment comment) :
      Plain (.annotated (.keyword .unknown) comment)

def TypeExpr.isIntersection : TypeExpr → Bool
  | .intersection _ => true
  | _ => false

theorem TypeExpr.operands_of_not_intersection {type : TypeExpr}
    (single : type.isIntersection = false) : type.operands = [type] := by
  cases type with
  | intersection types => cases single
  | _ => rfl

namespace TypeExpr.Plain

variable {type : TypeExpr}

theorem summands_ne_nil (plain : type.Plain) : type.summands ≠ [] := by
  induction plain with
  | union some _ ih =>
      rw [TypeExpr.summands, summandsOfAll_eq_flatMap]
      obtain ⟨first, rest, rfl⟩ := List.exists_cons_of_ne_nil some
      rw [List.flatMap_cons]
      exact List.append_ne_nil_of_left_ne_nil (ih first List.mem_cons_self) _
  | _ => exact List.cons_ne_nil _ _

theorem operands_ne_nil (plain : type.Plain) : type.operands ≠ [] := by
  induction plain with
  | intersection some _ ih =>
      rw [TypeExpr.operands, operandsOfAll_eq_flatMap]
      obtain ⟨first, rest, rfl⟩ := List.exists_cons_of_ne_nil some
      rw [List.flatMap_cons]
      exact List.append_ne_nil_of_left_ne_nil (ih first List.mem_cons_self) _
  | _ => exact List.cons_ne_nil _ _

theorem summand (plain : type.Plain) :
    ∀ summand ∈ type.summands, summand.Plain ∧ summand.isUnion = false := by
  have self := plain
  induction plain with
  | union _ all ih =>
      rw [TypeExpr.summands, summandsOfAll_eq_flatMap]
      intro summand present
      obtain ⟨type, among, inside⟩ := List.mem_flatMap.mp present
      exact ih type among (all type among) summand inside
  | _ => exact List.forall_mem_singleton.mpr ⟨self, rfl⟩

theorem operand (plain : type.Plain) :
    ∀ operand ∈ type.operands, operand.Plain ∧ operand.isIntersection = false := by
  have self := plain
  induction plain with
  | intersection _ all ih =>
      rw [TypeExpr.operands, operandsOfAll_eq_flatMap]
      intro operand present
      obtain ⟨type, among, inside⟩ := List.mem_flatMap.mp present
      exact ih type among (all type among) operand inside
  | _ => exact List.forall_mem_singleton.mpr ⟨self, rfl⟩

end TypeExpr.Plain

/-! ### Printing by summands and operands -/

theorem printTypes_eq_map (level : Nat) (types : List TypeExpr) :
    printTypes level types = types.map (TypeExpr.print level) := by
  induction types with
  | nil => rfl
  | cons first rest ih => rw [printTypes, ih, List.map_cons]

def printOperand (level : Nat) (type : TypeExpr) : String :=
  if type.isUnion then "(" ++ type.print level ++ ")" else type.print level

private theorem printOperands_eq_map (level : Nat) (types : List TypeExpr) :
    printOperands level types = types.map (printOperand level) := by
  induction types with
  | nil => rfl
  | cons first rest ih =>
      rw [printOperands, ih, List.map_cons]
      rfl

theorem print_summands (level : Nat) {type : TypeExpr} (plain : type.Plain) :
    type.print level = separated " | " (type.summands.map (TypeExpr.print level)) := by
  induction plain with
  | union _ all ih =>
      rw [TypeExpr.summands, summandsOfAll_eq_flatMap, TypeExpr.print, printTypes_eq_map,
        List.map_flatMap]
      refine separated_flatMap fun type among => ⟨?_, ih type among⟩
      exact fun empty => (all type among).summands_ne_nil (List.map_eq_nil_iff.mp empty)
  | _ => rfl

theorem printOperand_operands (level : Nat) {type : TypeExpr} (plain : type.Plain) :
    printOperand level type = separated " & " (type.operands.map (printOperand level)) := by
  induction plain with
  | intersection _ all ih =>
      have single (types : List TypeExpr) : printOperand level (.intersection types) =
          separated " & " (printOperands level types) := rfl
      rw [TypeExpr.operands, operandsOfAll_eq_flatMap, List.map_flatMap, single,
        printOperands_eq_map]
      refine separated_flatMap fun type among => ⟨?_, ih type among⟩
      exact fun empty => (all type among).operands_ne_nil (List.map_eq_nil_iff.mp empty)
  | _ => rfl

/-! ### Brackets and braces -/

def StartsWith (first : Char) (text : List Char) : Prop := ∃ more, text = first :: more

def operandMarks : List Char := ['|', '&']

theorem bracketed_cons (first : String) (rest : List String) :
    bracketed (first :: rest) = "<" ++ separated ", " (first :: rest) ++ ">" := rfl

theorem bracketed_endsWord (texts : List String) {rest : List Char}
    (follows : Follows operandMarks rest) :
    EndsRun isWordChar ((bracketed texts).toList ++ rest) := by
  cases texts with
  | nil => exact follows.endsWord
  | cons first more =>
      rw [bracketed_cons, String.append_assoc, String.toList_append]
      rintro _ ⟨⟩
      rfl

theorem braced_cons (level : Nat) (first : String) (rest : List String) :
    braced level (first :: rest) =
      "\x7b\n" ++ (String.join (first :: rest) ++ (indentation level ++ "\x7d")) := by
  rw [← String.append_assoc, ← String.append_assoc]
  rfl

private theorem braced_start (level : Nat) (lines : List String) :
    StartsWith '\x7b' (braced level lines).toList := by
  cases lines with
  | nil =>
      have empty : braced level [] = "\x7b\x7d" := rfl
      rw [empty]
      exact ⟨['\x7d'], rfl⟩
  | cons first rest =>
      rw [braced_cons, String.toList_append]
      exact ⟨_, rfl⟩

/-! ### Forms of operands -/

inductive Shape where
  | keyword
  | string
  | number
  | boolean
  | reference
  | literal
  | unknown
  | group

def TypeExpr.shape : TypeExpr → Shape
  | .keyword _ => .keyword
  | .stringLiteral _ => .string
  | .numberLiteral _ => .number
  | .booleanLiteral _ => .boolean
  | .reference _ _ => .reference
  | .literal _ => .literal
  | .annotated _ _ => .unknown
  | .union _ | .intersection _ => .group

def wordShape (word : String) (after : List Char) : Shape :=
  if word ∈ booleanWords then .boolean
  -- A keyword with a comment.
  else if after.take 2 = [' ', '/'] then .unknown
  -- The one keyword of two words goes on with `symbol`.
  else if word ∈ keywordWords ∨ after.take 2 = [' ', 's'] then .keyword
  else .reference

/-- The form of a type by its text. -/
def shapeOf (text : List Char) : Shape :=
  if text.head? = some '"' then .string
  else if text.head? = some '\x7b' then .literal
  else if text.head? = some '(' then .group
  else if text.head?.any fun start => Number.isNumeralChar start && start != 'e' then .number
  else wordShape (String.ofList (text.takeWhile isWordChar)) (text.dropWhile isWordChar)

private theorem shapeOf_word {word : String} (valid : isIdentifier word = true) {rest : List Char}
    (ends : EndsRun isWordChar rest) : shapeOf (word.toList ++ rest) = wordShape word rest := by
  have all := isIdentifier_chars valid
  obtain ⟨first, more, chars, isWord, noDigit⟩ := isIdentifier_start valid
  have other {char : Char} (mark : isWordChar char = false) : first ≠ char := by
    rintro rfl
    rw [mark] at isWord
    cases isWord
  have quote : first ≠ '"' := other (by decide)
  have brace : first ≠ '\x7b' := other (by decide)
  have parenthesis : first ≠ '(' := other (by decide)
  have minus : first ≠ '-' := other (by decide)
  have plus : first ≠ '+' := other (by decide)
  have point : first ≠ '.' := other (by decide)
  have noNumber : (Number.isNumeralChar first && first != 'e') = false := by
    simp [Number.isNumeralChar, noDigit, minus, plus, point]
  have start : (word.toList ++ rest).head? = some first := by rw [chars]; rfl
  unfold shapeOf
  rw [takeWhile_run all ends, dropWhile_run all ends, String.ofList_toList, start]
  simp [quote, brace, parenthesis, noNumber]

private theorem shapeOf_number {value : Number} (finite : value.isFinite = true)
    (rest : List Char) :
    shapeOf (value.text.toList ++ rest) = .number := by
  obtain ⟨first, more, chars, numeral, other⟩ := Number.text_start finite
  have apart {char : Char} (mark : Number.isNumeralChar char = false) : first ≠ char := by
    rintro rfl
    rw [mark] at numeral
    cases numeral
  have quote : first ≠ '"' := apart (by decide)
  have brace : first ≠ '\x7b' := apart (by decide)
  have parenthesis : first ≠ '(' := apart (by decide)
  rw [chars]
  simp [shapeOf, quote, brace, parenthesis, numeral, other]

private theorem Follows.no_blank {marks rest : List Char} {char : Char}
    (follows : Follows marks rest) (unlisted : char ∉ marks) : rest.take 2 ≠ [' ', char] := by
  cases follows with
  | nothing => exact nofun
  | closer closes rest =>
      intro same
      rw [List.take_succ_cons, List.cons.injEq] at same
      rw [same.1] at closes
      exact absurd closes (by decide)
  | separator listed rest =>
      intro same
      cases same
      exact unlisted listed

private theorem bracketed_no_blank (texts : List String) {rest : List Char} {char : Char}
    (follows : Follows operandMarks rest) (unlisted : char ∉ operandMarks) :
    ((bracketed texts).toList ++ rest).take 2 ≠ [' ', char] := by
  cases texts with
  | nil => exact follows.no_blank unlisted
  | cons first more =>
      rw [bracketed_cons, String.append_assoc, String.toList_append]
      nofun

private theorem shapeOf_keyword (keyword : Keyword) {rest : List Char}
    (follows : Follows operandMarks rest) :
    shapeOf (keyword.text.toList ++ rest) = .keyword := by
  have noNote : rest.take 2 ≠ [' ', '/'] := follows.no_blank (by decide)
  have single {word : String} (valid : isIdentifier word = true) (listed : word ∈ keywordWords)
      (free : word ∉ booleanWords) : shapeOf (word.toList ++ rest) = .keyword := by
    rw [shapeOf_word valid follows.endsWord, wordShape, if_neg free, if_neg noNote,
      if_pos (.inl listed)]
  cases keyword with
  | uniqueSymbol =>
      have blank : EndsRun isWordChar (" symbol".toList ++ rest) := by
        rintro _ ⟨⟩
        rfl
      have split : Keyword.uniqueSymbol.text.toList ++ rest =
          "unique".toList ++ (" symbol".toList ++ rest) := rfl
      rw [split, shapeOf_word (by decide) blank]
      rfl
  | _ => exact single (by decide) (by decide) (by decide)

theorem shapeOf_printOperand (level : Nat) {type : TypeExpr} (plain : type.Plain)
    (single : type.isIntersection = false) {rest : List Char}
    (follows : Follows operandMarks rest) :
    shapeOf ((printOperand level type).toList ++ rest) = type.shape := by
  cases plain with
  | keyword keyword => exact shapeOf_keyword keyword follows
  | string value =>
      change shapeOf ((Json.quoted value).toList ++ rest) = .string
      rw [Json.quoted, String.toList_ofList]
      rfl
  | number finite => exact shapeOf_number finite rest
  | boolean value =>
      cases value with
      | false =>
          change shapeOf ("false".toList ++ rest) = .boolean
          rw [shapeOf_word (by decide) follows.endsWord]
          rfl
      | true =>
          change shapeOf ("true".toList ++ rest) = .boolean
          rw [shapeOf_word (by decide) follows.endsWord]
          rfl
  | @reference name arguments valid free all =>
      have noKeyword : name ∉ keywordWords := fun listed => free (List.mem_append_left _ listed)
      have noBoolean : name ∉ booleanWords := fun listed => free (List.mem_append_right _ listed)
      change shapeOf ((name ++ bracketed (printTypes level arguments)).toList ++ rest) = .reference
      rw [String.toList_append, List.append_assoc,
        shapeOf_word valid (bracketed_endsWord _ follows), wordShape, if_neg noBoolean,
        if_neg (bracketed_no_blank _ follows (by decide)),
        if_neg (not_or.mpr ⟨noKeyword, bracketed_no_blank _ follows (by decide)⟩)]
  | union some all =>
      change shapeOf (("(" ++ _ ++ ")").toList ++ rest) = .group
      rw [String.append_assoc, String.toList_append]
      rfl
  | intersection some all => cases single
  | literal keys all =>
      change shapeOf ((braced level _).toList ++ rest) = .literal
      obtain ⟨more, opens⟩ := braced_start level (printMembers (level + 1) _)
      rw [opens]
      rfl
  | @unknown comment closed =>
      have blank : EndsRun isWordChar (" /*".toList ++ ((comment ++ "*/").toList ++ rest)) := by
        rintro _ ⟨⟩
        rfl
      change shapeOf (("unknown" ++ " /*" ++ comment ++ "*/").toList ++ rest) = .unknown
      rw [String.append_assoc, String.append_assoc, String.toList_append, String.toList_append,
        List.append_assoc, List.append_assoc, shapeOf_word (by decide) blank]
      rfl

end QueryTypes.Declared
