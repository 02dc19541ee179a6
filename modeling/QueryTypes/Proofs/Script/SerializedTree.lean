import Mathlib.Data.List.Basic
import QueryTypes.Proofs.Json.Bits
import QueryTypes.Proofs.Scoping.Phrases
import QueryTypes.Proofs.Script.Forms

/-!
The JSON form of a syntax tree tells the tree but for its marks.

A form is read from its outside: the tag tells the kind, the kind tells the members, and each member
is the form of a part. What is told of all parts right inside of a phrase is so told of the phrase,
and by induction of all phrases. Only a number that is not finite has no form of its own.
-/

set_option autoImplicit false

namespace QueryTypes.Script

open QueryTypes.Scoping (Phrase programPhrases mem_programPhrases)

/-! ### Imports and exports -/

private theorem toldBy_text (text : String) : ToldBy Json.text id text := by
  intro other
  simp

theorem Binding.told (binding : Binding) : ToldBy toJson unmarked binding := by
  intro other
  simp [toJson, unmarked]

private theorem Binding.option_iff (name other : Option Binding) :
    Json.ofOption toJson name = Json.ofOption toJson other ↔
      name.map unmarked = other.map unmarked :=
  option_eq_iff (fun _ => Json.noConfusion) (fun binding _ => binding.told) other

theorem ImportName.told (name : ImportName) : ToldBy toJson unmarked name := by
  intro other
  simp [toJson, unmarked, name.localName.told other.localName]

theorem ImportNames.told (names : ImportNames) : ToldBy toJson unmarked names := by
  intro other
  match names, other with
  | .all localName, .all otherName => simp [toJson, unmarked, localName.told otherName]
  | .some names, .some others =>
      simp [toJson, unmarked, Json.ofList, map_eq_iff fun name _ => ImportName.told name]
  | .all _, .some _ => simp [toJson, unmarked]
  | .some _, .all _ => simp [toJson, unmarked]

theorem ImportNames.toJson_ne_null (names : ImportNames) : names.toJson ≠ .null := by
  cases names <;> exact Json.noConfusion

theorem ImportDeclaration.told (declaration : ImportDeclaration) :
    ToldBy toJson unmarked declaration := by
  intro other
  simp [toJson, unmarked, Binding.option_iff,
    option_eq_iff ImportNames.toJson_ne_null fun names _ => ImportNames.told names]

theorem ExportName.told (name : ExportName) : ToldBy toJson unmarked name := by
  intro other
  simp [toJson, unmarked]

theorem ExportNames.told (names : ExportNames) : ToldBy toJson unmarked names := by
  intro other
  match names, other with
  | .all exported, .all others => simp [toJson, unmarked, Binding.option_iff]
  | .some names, .some others =>
      simp [toJson, unmarked, Json.ofList, map_eq_iff fun name _ => ExportName.told name]
  | .all _, .some _ => simp [toJson, unmarked]
  | .some _, .all _ => simp [toJson, unmarked]

theorem ExportList.told (exports : ExportList) : ToldBy toJson unmarked exports := by
  intro other
  simp [toJson, unmarked, exports.names.told other.names,
    option_eq_iff (fun _ => Json.noConfusion) fun text _ => toldBy_text text]

/-! ### Phrases -/

/-- The form of a phrase tells all of it but its marks. -/
def Told : Phrase → Prop
  | .expr value => ToldBy Expr.toJson Expr.unmarked value
  | .argument argument => ToldBy Argument.toJson Argument.unmarked argument
  | .function function => ToldBy Function.toJson Function.unmarked function
  | .parameter parameter => ToldBy Parameter.toJson Parameter.unmarked parameter
  | .pattern pattern => ToldBy Pattern.toJson Pattern.unmarked pattern
  | .property property => ToldBy PatternProperty.toJson PatternProperty.unmarked property
  | .stmt statement => ToldBy Stmt.toJson Stmt.unmarked statement
  | .block block => ToldBy Block.toJson Block.unmarked block
  | .handler clause => ToldBy CatchClause.toJson CatchClause.unmarked clause
  | .branch branch => ToldBy SwitchBranch.toJson SwitchBranch.unmarked branch

section Inner

variable {Item : Type} {form : Item → Json} {bare : Item → Item} {kind : Item → Phrase}

/-- Phrases in a list, all of one kind. -/
theorem list_iff (reads : ∀ item, Told (kind item) = ToldBy form bare item) {items : List Item}
    (inner : ∀ child ∈ items.map kind, Told child) (others : List Item) :
    items.map form = others.map form ↔ items.map bare = others.map bare :=
  map_eq_iff (fun item present => reads item ▸ inner _ (List.mem_map_of_mem present)) others

/-- A phrase that may be missing. -/
theorem option_iff (reads : ∀ item, Told (kind item) = ToldBy form bare item)
    (present : ∀ item, form item ≠ .null) {item? : Option Item}
    (inner : ∀ child ∈ item?.toList.map kind, Told child) (other? : Option Item) :
    Json.ofOption form item? = Json.ofOption form other? ↔ item?.map bare = other?.map bare :=
  option_eq_iff present
    (fun item found => reads item ▸ inner _ (List.mem_map_of_mem (Option.mem_toList.mpr found)))
    other?

/-- Items in a list that have no phrase of their own, each with the phrases right inside of it. -/
theorem flatMap_iff {direct : Item → List Phrase}
    (told : ∀ item, (∀ child ∈ direct item, Told child) → ToldBy form bare item)
    {items : List Item} (inner : ∀ child ∈ items.flatMap direct, Told child) (others : List Item) :
    items.map form = others.map form ↔ items.map bare = others.map bare :=
  map_eq_iff (fun item present => told item fun child inside =>
    inner child (List.mem_flatMap.mpr ⟨item, present, inside⟩)) others

private theorem Expr.option_iff {value? : Option Expr}
    (inner : ∀ child ∈ Phrase.ofOption value?, Told child) (other? : Option Expr) :
    Json.ofOption toJson value? = Json.ofOption toJson other? ↔
      value?.map unmarked = other?.map unmarked :=
  Script.option_iff (fun _ => rfl) (fun value => value.toJson_tagged.ne_null) inner other?

private theorem Pattern.option_iff {pattern? : Option Pattern}
    (inner : ∀ child ∈ pattern?.toList.map Phrase.pattern, Told child) (other? : Option Pattern) :
    Json.ofOption toJson pattern? = Json.ofOption toJson other? ↔
      pattern?.map unmarked = other?.map unmarked :=
  Script.option_iff (fun _ => rfl) (fun pattern => pattern.toJson_tagged.ne_null) inner other?

end Inner

/-! ### From the parts to the whole -/

theorem TemplatePart.told (part : TemplatePart)
    (inner : ∀ child ∈ Phrase.ofTemplate part, Told child) : ToldBy toJson unmarked part := by
  intro other
  match part, other with
  | .chunk text, .chunk otherText => simp [toJson, unmarked]
  | .substitution value, .substitution otherValue =>
      simp [toJson, unmarked, inner _ List.mem_cons_self otherValue]
  | .chunk _, .substitution _ => simp [toJson, unmarked]
  | .substitution _, .chunk _ => simp [toJson, unmarked]

theorem Argument.told (argument : Argument)
    (inner : ∀ child ∈ (Phrase.argument argument).inner, Told child) :
    ToldBy toJson unmarked argument := by
  intro other
  obtain ⟨mark, spread, value⟩ := argument
  obtain ⟨otherMark, otherSpread, otherValue⟩ := other
  simp [toJson, unmarked, inner _ List.mem_cons_self otherValue]

theorem FunctionBody.told (body : FunctionBody) (inner : ∀ child ∈ Phrase.ofBody body, Told child) :
    ToldBy toJson unmarked body := by
  intro other
  match body, other with
  | .statements body, .statements others =>
      simp [toJson, unmarked, list_iff (fun _ => rfl) inner]
  | .expression value, .expression otherValue =>
      simp [toJson, unmarked, inner _ List.mem_cons_self otherValue]
  | .statements _, .expression _ => simp [toJson, unmarked]
  | .expression _, .statements _ => simp [toJson, unmarked]

theorem Function.told (function : Function)
    (inner : ∀ child ∈ (Phrase.function function).inner, Told child) :
    ToldBy toJson unmarked function := by
  intro other
  obtain ⟨mark, arrow, async, generator, parameters, body⟩ := function
  obtain ⟨otherMark, otherArrow, otherAsync, otherGenerator, otherParameters, otherBody⟩ := other
  obtain ⟨ofParameters, ofBody⟩ := List.forall_mem_append.mp inner
  simp [toJson, unmarked, list_iff (fun _ => rfl) ofParameters,
    FunctionBody.told body ofBody otherBody]

theorem Parameter.told (parameter : Parameter)
    (inner : ∀ child ∈ (Phrase.parameter parameter).inner, Told child) :
    ToldBy toJson unmarked parameter := by
  intro other
  obtain ⟨mark, rest, pattern, default⟩ := parameter
  obtain ⟨otherMark, otherRest, otherPattern, otherDefault⟩ := other
  obtain ⟨ofPattern, ofDefault⟩ := List.forall_mem_cons.mp inner
  simp [toJson, unmarked, ofPattern otherPattern, Expr.option_iff ofDefault]

theorem PatternElement.told (element : PatternElement)
    (inner : ∀ child ∈ Phrase.ofElement (some element), Told child) :
    ToldBy toJson unmarked element := by
  intro other
  obtain ⟨target, default⟩ := element
  obtain ⟨otherTarget, otherDefault⟩ := other
  obtain ⟨ofTarget, ofDefault⟩ := List.forall_mem_cons.mp inner
  simp [toJson, unmarked, ofTarget otherTarget, Expr.option_iff ofDefault]

/-- A hole is told from an element, since its form is null. -/
theorem PatternElement.option_told (element? : Option PatternElement)
    (inner : ∀ child ∈ Phrase.ofElement element?, Told child) :
    ToldBy (Json.ofOption toJson) (Option.map unmarked) element? := by
  refine option_eq_iff toJson_ne_null ?_
  rintro element rfl
  exact element.told inner

theorem PatternProperty.told (property : PatternProperty)
    (inner : ∀ child ∈ (Phrase.property property).inner, Told child) :
    ToldBy toJson unmarked property := by
  intro other
  obtain ⟨mark, key, target, default⟩ := property
  obtain ⟨otherMark, otherKey, otherTarget, otherDefault⟩ := other
  obtain ⟨ofTarget, ofDefault⟩ := List.forall_mem_cons.mp inner
  simp [toJson, unmarked, ofTarget otherTarget, Expr.option_iff ofDefault]

/-- Patterns of one kind are compared member by member. Patterns of two kinds are no case. -/
theorem Pattern.told_of_kind : ∀ (pattern other : Pattern), pattern.ctorIdx = other.ctorIdx →
    (∀ child ∈ Phrase.ofPattern pattern, Told child) →
      (pattern.toJson = other.toJson ↔ pattern.unmarked = other.unmarked)
  | .name binding, .name other, _, _ => by simp [toJson, unmarked, Binding.unmarked]
  | .array _ elements rest, .array _ others otherRest, _, inner => by
      obtain ⟨ofElements, ofRest⟩ := List.forall_mem_append.mp inner
      simp [toJson, unmarked, flatMap_iff PatternElement.option_told ofElements,
        Pattern.option_iff ofRest]
  | .object _ properties rest, .object _ others otherRest, _, inner => by
      obtain ⟨ofProperties, ofRest⟩ := List.forall_mem_append.mp inner
      simp [toJson, unmarked, list_iff (fun _ => rfl) ofProperties, Pattern.option_iff ofRest]

private theorem Expr.member_told (member : String × Expr) (inner : Told (.expr member.2)) :
    ToldBy memberJson (fun member => (member.1, member.2.unmarked)) member := by
  intro other
  simp [memberJson, inner other.2]

private theorem Expr.members_iff {members : List (String × Expr)}
    (inner : ∀ child ∈ members.map fun member => Phrase.expr member.2, Told child)
    (others : List (String × Expr)) :
    members.map memberJson = others.map memberJson ↔
      members.map (fun member => (member.1, member.2.unmarked)) =
        others.map fun member => (member.1, member.2.unmarked) :=
  map_eq_iff (fun member present => member_told member (inner _ (List.mem_map_of_mem present)))
    others

/-- The numbers of two literals have to be the same, and only finite ones are told apart by their
forms. -/
theorem Expr.told_of_kind : ∀ (value other : Expr), value.ctorIdx = other.ctorIdx →
    (∀ mark number, value = .number mark number → number.isFinite = true) →
    (∀ child ∈ Phrase.ofExpr value, Told child) →
      (value.toJson = other.toJson ↔ value.unmarked = other.unmarked)
  | .arrow _ callee, .arrow _ otherCallee, _, _, inner => by
      simp [toJson, unmarked, inner _ List.mem_cons_self otherCallee]
  | .binary _ _ left right, .binary _ _ otherLeft otherRight, _, _, inner => by
      obtain ⟨ofLeft, ofRight⟩ := List.forall_mem_cons.mp inner
      simp [toJson, unmarked, ofLeft otherLeft, ofRight _ List.mem_cons_self otherRight]
  | .call _ _ callee arguments, .call _ _ otherCallee others, _, _, inner => by
      obtain ⟨ofCallee, ofArguments⟩ := List.forall_mem_cons.mp inner
      simp [toJson, unmarked, ofCallee otherCallee, list_iff (fun _ => rfl) ofArguments]
  | .function _ name callee, .function _ otherName otherCallee, _, _, inner => by
      simp [toJson, unmarked, Binding.option_iff, inner _ List.mem_cons_self otherCallee]
  | .member _ _ owner _, .member _ _ otherOwner _, _, _, inner => by
      simp [toJson, unmarked, inner _ List.mem_cons_self otherOwner]
  | .tagged _ tag parts, .tagged _ otherTag others, _, _, inner => by
      obtain ⟨ofTag, ofParts⟩ := List.forall_mem_cons.mp inner
      simp [toJson, unmarked, ofTag otherTag, flatMap_iff TemplatePart.told ofParts]
  | .array _ elements, .array _ others, _, _, inner => by
      simp [toJson, unmarked, list_iff (fun _ => rfl) inner]
  | .object _ members, .object _ others, _, _, inner => by
      simp [toJson, unmarked, members_iff inner]
  | .template _ parts, .template _ others, _, _, inner => by
      simp [toJson, unmarked, flatMap_iff TemplatePart.told inner]
  | .number mark value, .number _ other, _, finite, _ => by
      simp [toJson, unmarked, Json.bits_eq_iff (finite mark value rfl)]
  | .identifier _ _, .identifier _ _, _, _, _ | .bigInteger _ _, .bigInteger _ _, _, _, _
  | .boolean _ _, .boolean _ _, _, _, _ | .null _, .null _, _, _, _
  | .regex _ _, .regex _ _, _, _, _ | .string _ _, .string _ _, _, _, _ => by
      simp [toJson, unmarked]

theorem Block.told (block : Block) (inner : ∀ child ∈ (Phrase.block block).inner, Told child) :
    ToldBy toJson unmarked block := by
  intro other
  obtain ⟨mark, body⟩ := block
  obtain ⟨otherMark, otherBody⟩ := other
  simp [toJson, unmarked, list_iff (fun _ => rfl) inner]

theorem CatchClause.told (clause : CatchClause)
    (inner : ∀ child ∈ (Phrase.handler clause).inner, Told child) :
    ToldBy toJson unmarked clause := by
  intro other
  obtain ⟨mark, parameter, body⟩ := clause
  obtain ⟨otherMark, otherParameter, otherBody⟩ := other
  obtain ⟨ofParameter, ofBody⟩ := List.forall_mem_append.mp inner
  simp [toJson, unmarked, Pattern.option_iff ofParameter, list_iff (fun _ => rfl) ofBody]

theorem SwitchBranch.told (branch : SwitchBranch)
    (inner : ∀ child ∈ (Phrase.branch branch).inner, Told child) :
    ToldBy toJson unmarked branch := by
  intro other
  obtain ⟨mark, test, body⟩ := branch
  obtain ⟨otherMark, otherTest, otherBody⟩ := other
  obtain ⟨ofTest, ofBody⟩ := List.forall_mem_append.mp inner
  simp [toJson, unmarked, Expr.option_iff ofTest, list_iff (fun _ => rfl) ofBody]

theorem Declarator.told (declarator : Declarator)
    (inner : ∀ child ∈ Phrase.ofDeclarator declarator, Told child) :
    ToldBy toJson unmarked declarator := by
  intro other
  obtain ⟨pattern, initializer⟩ := declarator
  obtain ⟨otherPattern, otherInitializer⟩ := other
  obtain ⟨ofPattern, ofInitializer⟩ := List.forall_mem_cons.mp inner
  simp [toJson, unmarked, ofPattern otherPattern, Expr.option_iff ofInitializer]

private theorem Mode.toJson_iff (mode other : Mode) :
    mode.toJson = other.toJson ↔ mode = other := by
  cases mode <;> cases other <;> simp [toJson]

private theorem Stmt.told_of_kind : ∀ (statement other : Stmt), statement.ctorIdx = other.ctorIdx →
    (∀ child ∈ Phrase.ofStmt statement, Told child) →
      (statement.toJson = other.toJson ↔ statement.unmarked = other.unmarked)
  | .block ⟨_, body⟩, .block ⟨_, others⟩, _, inner => by
      simp [toJson, unmarked, Block.unmarked, list_iff (fun _ => rfl) inner]
  | .empty _, .empty _, _, _ => by simp [toJson, unmarked]
  | .exportDefault _ value, .exportDefault _ otherValue, _, inner => by
      simp [toJson, unmarked, inner _ List.mem_cons_self otherValue]
  | .exportList exports, .exportList others, _, _ => by
      simp [toJson, unmarked, exports.told others]
  | .expression _ value, .expression _ otherValue, _, inner => by
      simp [toJson, unmarked, inner _ List.mem_cons_self otherValue]
  | .function ⟨_, _, _, _, callee⟩, .function ⟨_, _, _, _, otherCallee⟩, _, inner => by
      simp [toJson, unmarked, FunctionDeclaration.unmarked, Binding.option_iff,
        inner _ List.mem_cons_self otherCallee]
  | .conditional _ test consequent alternate,
    .conditional _ otherTest otherConsequent otherAlternate, _, inner => by
      obtain ⟨ofTest, ofRest⟩ := List.forall_mem_cons.mp inner
      obtain ⟨ofConsequent, ofAlternate⟩ := List.forall_mem_cons.mp ofRest
      have solid (statement : Stmt) : statement.toJson ≠ .null := statement.toJson_tagged.ne_null
      simp [toJson, unmarked, ofTest otherTest, ofConsequent otherConsequent,
        option_iff (fun _ => rfl) solid ofAlternate]
  | .imports declaration, .imports other, _, _ => by
      simp [toJson, unmarked, declaration.told other]
  | .returns ⟨_, value⟩, .returns ⟨_, otherValue⟩, _, inner => by
      simp [toJson, unmarked, Return.unmarked, Expr.option_iff inner]
  | .switch _ test branches, .switch _ otherTest others, _, inner => by
      obtain ⟨ofTest, ofBranches⟩ := List.forall_mem_cons.mp inner
      simp [toJson, unmarked, ofTest otherTest, list_iff (fun _ => rfl) ofBranches]
  | .attempt _ wrapped handler cleanup, .attempt _ otherWrapped otherHandler otherCleanup,
    _, inner => by
      obtain ⟨ofWrapped, ofRest⟩ := List.forall_mem_cons.mp inner
      obtain ⟨ofHandler, ofCleanup⟩ := List.forall_mem_append.mp ofRest
      simp [toJson, unmarked, ofWrapped otherWrapped,
        option_iff (fun _ => rfl) CatchClause.toJson_ne_null ofHandler,
        option_iff (fun _ => rfl) Block.toJson_ne_null ofCleanup]
  | .variables ⟨_, _, _, declarators, comments⟩, .variables ⟨_, _, _, others, otherComments⟩,
    _, inner => by
      simp [toJson, unmarked, VariableDeclaration.unmarked, Json.ofList, Mode.toJson_iff,
        flatMap_iff Declarator.told inner, map_eq_iff fun text _ => toldBy_text text]
  | .loop _ condition body, .loop _ otherCondition otherBody, _, inner => by
      obtain ⟨ofCondition, ofBody⟩ := List.forall_mem_cons.mp inner
      simp [toJson, unmarked, ofCondition otherCondition, ofBody _ List.mem_cons_self otherBody]

/-- What is told of the phrases right inside of a phrase is told of the phrase, unless it is a
number that is not finite. -/
theorem told_of_inner (phrase : Phrase)
    (finite : ∀ mark value, phrase = .expr (.number mark value) → value.isFinite = true)
    (inner : ∀ child ∈ phrase.inner, Told child) : Told phrase := by
  cases phrase with
  | expr value =>
      exact toldBy_of_kind value.kind_eq Expr.unmarked_kind fun other same =>
        value.told_of_kind other same (fun mark number found => finite mark number (found ▸ rfl))
          inner
  | argument argument => exact argument.told inner
  | function function => exact function.told inner
  | parameter parameter => exact parameter.told inner
  | pattern pattern =>
      exact toldBy_of_kind pattern.kind_eq Pattern.unmarked_kind fun other same =>
        pattern.told_of_kind other same inner
  | property property => exact property.told inner
  | stmt statement =>
      exact toldBy_of_kind statement.kind_eq Stmt.unmarked_kind fun other same =>
        statement.told_of_kind other same inner
  | block block => exact block.told inner
  | handler clause => exact clause.told inner
  | branch branch => exact branch.told inner

/-- A phrase is told by its form if all numbers in it are finite. -/
theorem told_of_finite (phrase : Phrase)
    (finite : ∀ mark value, Phrase.expr (.number mark value) ∈ phrase.preorder →
      value.isFinite = true) : Told phrase := by
  induction phrase using Phrase.induction with
  | step phrase ih =>
      refine told_of_inner phrase (fun mark value found => ?_) fun child direct => ?_
      · exact finite mark value (Phrase.mem_preorder.mpr (.inl found.symm))
      · exact ih child direct fun mark value inside =>
          finite mark value (Phrase.mem_preorder_of_inner direct inside)

/-! ### Programs -/

/-- Two programs have the same JSON form if and only if they differ in nothing but the identities
and places of their nodes. The numbers of one are finite; those of the other then are so as well. -/
theorem Program.toJson_eq_iff_unmarked {first second : Program}
    (finite : ∀ mark value, Phrase.expr (.number mark value) ∈ programPhrases first →
      value.isFinite = true) :
    first.toJson = second.toJson ↔ first.unmarked = second.unmarked := by
  have body : first.body.map Stmt.toJson = second.body.map Stmt.toJson ↔
      first.body.map Stmt.unmarked = second.body.map Stmt.unmarked := by
    refine map_eq_iff (fun statement present => ?_) second.body
    exact told_of_finite (.stmt statement) fun mark value inside =>
      finite mark value (mem_programPhrases.mpr ⟨statement, present, inside⟩)
  simpa [toJson, unmarked] using body

def declaringZero (mark : Mark) (negative : Bool) : Program :=
  ⟨mark, [.variables ⟨mark, false, .constant,
    [⟨.name ⟨mark, "zero"⟩, some (.number mark (.finite negative ⟨0, by decide⟩))⟩], []⟩],
    .ofSource ""⟩

/-- Where a program stands does not show in its form, but the sign of a zero does. -/
theorem Program.toJson_declaringZero :
    (declaringZero ⟨1, ⟨0, 15⟩⟩ true).toJson = (declaringZero ⟨2, ⟨7, 22⟩⟩ true).toJson ∧
      (declaringZero ⟨1, ⟨0, 15⟩⟩ true).toJson ≠ (declaringZero ⟨1, ⟨0, 15⟩⟩ false).toJson := by
  have finite : ∀ mark value, Phrase.expr (.number mark value) ∈
      programPhrases (declaringZero ⟨1, ⟨0, 15⟩⟩ true) → value.isFinite = true := by
    simp [programPhrases, declaringZero, Phrase.preorder_eq, Phrase.inner, Phrase.ofStmt,
      Phrase.ofDeclarator, Phrase.ofOption, Phrase.ofPattern, Phrase.ofExpr, Number.isFinite]
  refine ⟨(Program.toJson_eq_iff_unmarked finite).mpr rfl, fun same => ?_⟩
  have told := (Program.toJson_eq_iff_unmarked finite).mp same
  simp [declaringZero, Program.unmarked, Stmt.unmarked, VariableDeclaration.unmarked,
    Declarator.unmarked, Expr.unmarked] at told

end QueryTypes.Script
