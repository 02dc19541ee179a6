import Mathlib.Data.List.Basic
import QueryTypes.Proofs.Script.Unmarked
import QueryTypes.Script.TreeJson

/-!
What the JSON form of a part of a tree tells of the part.

The form of a list is the list of the forms, and no form of a part that may be missing is null, so
neither an empty list nor a missing part shares its form with another. Where the parts are of
several kinds, the kind is told by the tag.
-/

set_option autoImplicit false

namespace QueryTypes.Script

/-! ### Items told by their form -/

/-- The form of an item tells what is left of the item, and nothing else. -/
def ToldBy {Item Bare : Type} (form : Item → Json) (bare : Item → Bare) (item : Item) : Prop :=
  ∀ other, form item = form other ↔ bare item = bare other

section Told

variable {Item Bare : Type} {form : Item → Json} {bare : Item → Bare}

theorem map_eq_iff {items : List Item} (told : ∀ item ∈ items, ToldBy form bare item)
    (others : List Item) :
    items.map form = others.map form ↔ items.map bare = others.map bare := by
  induction items generalizing others with
  | nil => cases others <;> simp
  | cons first rest ih =>
      obtain ⟨toldFirst, toldRest⟩ := List.forall_mem_cons.mp told
      cases others with
      | nil => simp
      | cons other more => simp only [List.map_cons, List.cons.injEq, toldFirst other, ih toldRest]

/-- A missing item has the form null, which no item has. -/
theorem option_eq_iff (present : ∀ item, form item ≠ .null) {item? : Option Item}
    (told : ∀ item ∈ item?, ToldBy form bare item) (other? : Option Item) :
    Json.ofOption form item? = Json.ofOption form other? ↔ item?.map bare = other?.map bare := by
  cases item? with
  | none =>
      cases other? with
      | none => simp
      | some other => simpa [Json.ofOption] using (present other).symm
  | some item =>
      cases other? with
      | none => simpa [Json.ofOption] using present item
      | some other => simpa [Json.ofOption] using told item rfl other

/-- Where the kind is told both by the form and by what is left, only items of one kind have to be
compared. -/
theorem toldBy_of_kind {kind : Item → Nat} {bareKind : Bare → Nat} {item : Item}
    (ofForm : ∀ other, form item = form other → kind item = kind other)
    (ofBare : ∀ item, bareKind (bare item) = kind item)
    (alike : ∀ other, kind item = kind other → (form item = form other ↔ bare item = bare other)) :
    ToldBy form bare item := by
  intro other
  by_cases same : kind item = kind other
  · exact alike other same
  · refine iff_of_false (fun forms => same (ofForm other forms)) fun bares => same ?_
    rw [← ofBare item, bares, ofBare]

end Told

/-! ### Lists and options -/

def Expr.memberJson (member : String × Expr) : Json :=
  .record [("key", .text member.1), ("value", member.2.toJson)]

def PatternElement.toJson : PatternElement → Json
  | ⟨target, default⟩ =>
      .record [("target", target.toJson), ("default_value", Expr.optionJson default)]

def PatternProperty.toJson : PatternProperty → Json
  | ⟨_, key, target, default⟩ =>
      .record [("key", .text key), ("target", target.toJson),
        ("default_value", Expr.optionJson default)]

def SwitchBranch.toJson : SwitchBranch → Json
  | ⟨_, test, body⟩ =>
      .record [("case", Expr.optionJson test), ("body", .list (Stmt.listJson body))]

def CatchClause.toJson : CatchClause → Json
  | ⟨_, parameter, body⟩ =>
      .record [("parameter", Pattern.optionJson parameter), ("body", .list (Stmt.listJson body))]

def Declarator.toJson : Declarator → Json
  | ⟨pattern, initializer⟩ =>
      .record [("pattern", pattern.toJson), ("initializer", Expr.optionJson initializer)]

theorem PatternElement.toJson_ne_null (element : PatternElement) : element.toJson ≠ .null := by
  cases element
  exact Json.noConfusion

theorem Block.toJson_ne_null (block : Block) : block.toJson ≠ .null := by
  cases block
  exact Json.noConfusion

theorem CatchClause.toJson_ne_null (clause : CatchClause) : clause.toJson ≠ .null := by
  cases clause
  exact Json.noConfusion

@[simp]
theorem Expr.listJson_eq (values : List Expr) : Expr.listJson values = values.map Expr.toJson :=
  eq_map rfl (fun _ _ => rfl) values

@[simp]
theorem Expr.membersJson_eq (members : List (String × Expr)) :
    Expr.membersJson members = members.map Expr.memberJson :=
  eq_map rfl (fun _ _ => rfl) members

@[simp]
theorem TemplatePart.listJson_eq (parts : List TemplatePart) :
    TemplatePart.listJson parts = parts.map TemplatePart.toJson :=
  eq_map rfl (fun _ _ => rfl) parts

@[simp]
theorem Argument.listJson_eq (arguments : List Argument) :
    Argument.listJson arguments = arguments.map Argument.toJson :=
  eq_map rfl (fun _ _ => rfl) arguments

@[simp]
theorem Parameter.listJson_eq (parameters : List Parameter) :
    Parameter.listJson parameters = parameters.map Parameter.toJson :=
  eq_map rfl (fun _ _ => rfl) parameters

@[simp]
theorem Pattern.elementsJson_eq (elements : List (Option PatternElement)) :
    Pattern.elementsJson elements = elements.map (Json.ofOption PatternElement.toJson) :=
  eq_map rfl (fun | none, _ => rfl | some ⟨_, _⟩, _ => rfl) elements

@[simp]
theorem Pattern.propertiesJson_eq (properties : List PatternProperty) :
    Pattern.propertiesJson properties = properties.map PatternProperty.toJson :=
  eq_map rfl (fun ⟨_, _, _, _⟩ _ => rfl) properties

@[simp]
theorem Stmt.listJson_eq (body : List Stmt) : Stmt.listJson body = body.map Stmt.toJson :=
  eq_map rfl (fun _ _ => rfl) body

@[simp]
theorem SwitchBranch.listJson_eq (branches : List SwitchBranch) :
    SwitchBranch.listJson branches = branches.map SwitchBranch.toJson :=
  eq_map rfl (fun ⟨_, _, _⟩ _ => rfl) branches

@[simp]
theorem Declarator.listJson_eq (declarators : List Declarator) :
    Declarator.listJson declarators = declarators.map Declarator.toJson :=
  eq_map rfl (fun ⟨_, _⟩ _ => rfl) declarators

@[simp]
theorem Expr.optionJson_eq (value : Option Expr) :
    Expr.optionJson value = .ofOption Expr.toJson value := by
  cases value <;> rfl

@[simp]
theorem Pattern.optionJson_eq (pattern : Option Pattern) :
    Pattern.optionJson pattern = .ofOption Pattern.toJson pattern := by
  cases pattern <;> rfl

@[simp]
theorem Stmt.optionJson_eq (statement : Option Stmt) :
    Stmt.optionJson statement = .ofOption Stmt.toJson statement := by
  cases statement <;> rfl

@[simp]
theorem Block.optionJson_eq (block : Option Block) :
    Block.optionJson block = .ofOption Block.toJson block := by
  cases block <;> rfl

@[simp]
theorem CatchClause.optionJson_eq (clause : Option CatchClause) :
    CatchClause.optionJson clause = .ofOption CatchClause.toJson clause := by
  rcases clause with _ | ⟨_, _, _⟩ <;> rfl

/-! ### Kinds -/

def Tagged (tags : List String) (kind : Nat) (form : Json) : Prop :=
  ∃ tag, tags[kind]? = some tag ∧ form.member? "$t" = some (.text tag)

theorem Tagged.kind_eq {tags : List String} (distinct : tags.Nodup) {kind other : Nat} {form : Json}
    (tagged : Tagged tags kind form) (taggedToo : Tagged tags other form) : kind = other := by
  obtain ⟨tag, atKind, present⟩ := tagged
  obtain ⟨tagToo, atOther, presentToo⟩ := taggedToo
  obtain rfl : tag = tagToo := Json.text.inj (Option.some.inj (present.symm.trans presentToo))
  obtain ⟨within, -⟩ := List.getElem?_eq_some_iff.mp atKind
  exact (List.getElem?_inj within distinct).mp (atKind.trans atOther.symm)

theorem Tagged.ne_null {tags : List String} {kind : Nat} {form : Json}
    (tagged : Tagged tags kind form) : form ≠ .null := by
  rintro rfl
  obtain ⟨tag, -, present⟩ := tagged
  cases present

def Expr.tags : List String :=
  ["ArrowFunc", "Binary", "Call", "Func", "Id", "Member", "TaggedTemplate", "LitArr", "LitBigInt",
    "LitBool", "LitNull", "LitNum", "LitObj", "LitRegex", "LitStr", "LitTemplate"]

def Pattern.tags : List String := ["Id", "Arr", "Obj"]

def Stmt.tags : List String :=
  ["Block", "Empty", "ExportDefaultExpr", "ExportList", "Expr", "FuncDecl", "If", "Import",
    "Return", "Switch", "Try", "VarDecl", "While"]

theorem Expr.toJson_tagged (value : Expr) : Tagged tags value.ctorIdx value.toJson := by
  cases value <;> exact ⟨_, rfl, rfl⟩

theorem Pattern.toJson_tagged (pattern : Pattern) : Tagged tags pattern.ctorIdx pattern.toJson := by
  cases pattern <;> exact ⟨_, rfl, rfl⟩

theorem Stmt.toJson_tagged (statement : Stmt) : Tagged tags statement.ctorIdx statement.toJson := by
  cases statement with
  | block block => obtain ⟨_, _⟩ := block; exact ⟨_, rfl, rfl⟩
  | function declaration => obtain ⟨_, _, _, _, _⟩ := declaration; exact ⟨_, rfl, rfl⟩
  | returns statement => obtain ⟨_, _⟩ := statement; exact ⟨_, rfl, rfl⟩
  | «variables» declaration => obtain ⟨_, _, _, _, _⟩ := declaration; exact ⟨_, rfl, rfl⟩
  | _ => exact ⟨_, rfl, rfl⟩

theorem Expr.kind_eq (value other : Expr) (same : value.toJson = other.toJson) :
    value.ctorIdx = other.ctorIdx :=
  Tagged.kind_eq (by decide) value.toJson_tagged (same ▸ other.toJson_tagged)

theorem Pattern.kind_eq (pattern other : Pattern) (same : pattern.toJson = other.toJson) :
    pattern.ctorIdx = other.ctorIdx :=
  Tagged.kind_eq (by decide) pattern.toJson_tagged (same ▸ other.toJson_tagged)

theorem Stmt.kind_eq (statement other : Stmt) (same : statement.toJson = other.toJson) :
    statement.ctorIdx = other.ctorIdx :=
  Tagged.kind_eq (by decide) statement.toJson_tagged (same ▸ other.toJson_tagged)

theorem Expr.unmarked_kind (value : Expr) : value.unmarked.ctorIdx = value.ctorIdx := by
  cases value <;> rfl

theorem Pattern.unmarked_kind (pattern : Pattern) :
    pattern.unmarked.ctorIdx = pattern.ctorIdx := by
  cases pattern <;> rfl

theorem Stmt.unmarked_kind (statement : Stmt) :
    statement.unmarked.ctorIdx = statement.ctorIdx := by
  cases statement <;> rfl

end QueryTypes.Script
