import QueryTypes.Script.Tree

/-!
Syntax trees without their marks.

Every mark is replaced by one and the same, so that two trees have the same unmarked tree if and
only if they differ in nothing but the identities and the places of their nodes.
-/

set_option autoImplicit false

namespace QueryTypes.Script

def Mark.blank : Mark := ⟨0, .nowhere⟩

def Binding.unmarked (binding : Binding) : Binding := ⟨.blank, binding.name⟩

def ImportName.unmarked (name : ImportName) : ImportName :=
  ⟨name.imported, name.localName.unmarked⟩

def ImportNames.unmarked : ImportNames → ImportNames
  | .all localName => .all localName.unmarked
  | .some names => .some (names.map ImportName.unmarked)

def ImportDeclaration.unmarked (declaration : ImportDeclaration) : ImportDeclaration :=
  ⟨.blank, declaration.typeOnly, declaration.default.map Binding.unmarked,
    declaration.names.map ImportNames.unmarked, declaration.source⟩

def ExportName.unmarked (name : ExportName) : ExportName := ⟨.blank, name.target, name.exported⟩

def ExportNames.unmarked : ExportNames → ExportNames
  | .all exported => .all (exported.map Binding.unmarked)
  | .some names => .some (names.map ExportName.unmarked)

def ExportList.unmarked (exports : ExportList) : ExportList :=
  ⟨.blank, exports.typeOnly, exports.names.unmarked, exports.source⟩

mutual

def Expr.unmarked : Expr → Expr
  | .arrow _ function => .arrow .blank function.unmarked
  | .binary _ operator left right => .binary .blank operator left.unmarked right.unmarked
  | .call _ optional callee arguments =>
      .call .blank optional callee.unmarked (Argument.unmarkedList arguments)
  | .function _ name function =>
      .function .blank (name.map Binding.unmarked) function.unmarked
  | .identifier _ name => .identifier .blank name
  | .member _ optional object property => .member .blank optional object.unmarked property
  | .tagged _ tag parts => .tagged .blank tag.unmarked (TemplatePart.unmarkedList parts)
  | .array _ elements => .array .blank (Expr.unmarkedList elements)
  | .bigInteger _ digits => .bigInteger .blank digits
  | .boolean _ value => .boolean .blank value
  | .null _ => .null .blank
  | .number _ value => .number .blank value
  | .object _ members => .object .blank (Expr.unmarkedMembers members)
  | .regex _ pattern => .regex .blank pattern
  | .string _ value => .string .blank value
  | .template _ parts => .template .blank (TemplatePart.unmarkedList parts)

def Expr.unmarkedList : List Expr → List Expr
  | [] => []
  | first :: rest => first.unmarked :: Expr.unmarkedList rest

def Expr.unmarkedOption : Option Expr → Option Expr
  | none => none
  | some value => some value.unmarked

def Expr.unmarkedMembers : List (String × Expr) → List (String × Expr)
  | [] => []
  | (key, value) :: rest => (key, value.unmarked) :: Expr.unmarkedMembers rest

def TemplatePart.unmarked : TemplatePart → TemplatePart
  | .chunk text => .chunk text
  | .substitution value => .substitution value.unmarked

def TemplatePart.unmarkedList : List TemplatePart → List TemplatePart
  | [] => []
  | first :: rest => first.unmarked :: TemplatePart.unmarkedList rest

def Argument.unmarked : Argument → Argument
  | ⟨_, spread, value⟩ => ⟨.blank, spread, value.unmarked⟩

def Argument.unmarkedList : List Argument → List Argument
  | [] => []
  | first :: rest => first.unmarked :: Argument.unmarkedList rest

def Function.unmarked : Function → Function
  | ⟨_, arrow, async, generator, parameters, body⟩ =>
      ⟨.blank, arrow, async, generator, Parameter.unmarkedList parameters, body.unmarked⟩

def Parameter.unmarked : Parameter → Parameter
  | ⟨_, rest, pattern, default⟩ =>
      ⟨.blank, rest, pattern.unmarked, Expr.unmarkedOption default⟩

def Parameter.unmarkedList : List Parameter → List Parameter
  | [] => []
  | first :: rest => first.unmarked :: Parameter.unmarkedList rest

def FunctionBody.unmarked : FunctionBody → FunctionBody
  | .statements body => .statements (Stmt.unmarkedList body)
  | .expression value => .expression value.unmarked

def Pattern.unmarked : Pattern → Pattern
  | .name binding => .name binding.unmarked
  | .array _ elements rest =>
      .array .blank (PatternElement.unmarkedList elements) (Pattern.unmarkedOption rest)
  | .object _ properties rest =>
      .object .blank (PatternProperty.unmarkedList properties) (Pattern.unmarkedOption rest)

def Pattern.unmarkedOption : Option Pattern → Option Pattern
  | none => none
  | some pattern => some pattern.unmarked

def PatternElement.unmarked : PatternElement → PatternElement
  | ⟨target, default⟩ => ⟨target.unmarked, Expr.unmarkedOption default⟩

/-- A hole stays where it is. -/
def PatternElement.unmarkedList : List (Option PatternElement) → List (Option PatternElement)
  | [] => []
  | none :: rest => none :: PatternElement.unmarkedList rest
  | some element :: rest => some element.unmarked :: PatternElement.unmarkedList rest

def PatternProperty.unmarked : PatternProperty → PatternProperty
  | ⟨_, key, target, default⟩ => ⟨.blank, key, target.unmarked, Expr.unmarkedOption default⟩

def PatternProperty.unmarkedList : List PatternProperty → List PatternProperty
  | [] => []
  | first :: rest => first.unmarked :: PatternProperty.unmarkedList rest

def Stmt.unmarked : Stmt → Stmt
  | .block block => .block block.unmarked
  | .empty _ => .empty .blank
  | .exportDefault _ value => .exportDefault .blank value.unmarked
  | .exportList exports => .exportList exports.unmarked
  | .expression _ value => .expression .blank value.unmarked
  | .function declaration => .function declaration.unmarked
  | .conditional _ test consequent alternate =>
      .conditional .blank test.unmarked consequent.unmarked (Stmt.unmarkedOption alternate)
  | .imports declaration => .imports declaration.unmarked
  | .returns statement => .returns statement.unmarked
  | .switch _ test branches => .switch .blank test.unmarked (SwitchBranch.unmarkedList branches)
  | .attempt _ wrapped handler cleanup =>
      .attempt .blank wrapped.unmarked (CatchClause.unmarkedOption handler)
        (Block.unmarkedOption cleanup)
  | .variables declaration => .variables declaration.unmarked
  | .loop _ condition body => .loop .blank condition.unmarked body.unmarked

def Stmt.unmarkedList : List Stmt → List Stmt
  | [] => []
  | first :: rest => first.unmarked :: Stmt.unmarkedList rest

def Stmt.unmarkedOption : Option Stmt → Option Stmt
  | none => none
  | some statement => some statement.unmarked

def Block.unmarked : Block → Block
  | ⟨_, body⟩ => ⟨.blank, Stmt.unmarkedList body⟩

def Block.unmarkedOption : Option Block → Option Block
  | none => none
  | some block => some block.unmarked

def FunctionDeclaration.unmarked : FunctionDeclaration → FunctionDeclaration
  | ⟨_, exported, exportedAsDefault, name, function⟩ =>
      ⟨.blank, exported, exportedAsDefault, name.map Binding.unmarked, function.unmarked⟩

def Return.unmarked : Return → Return
  | ⟨_, value⟩ => ⟨.blank, Expr.unmarkedOption value⟩

def SwitchBranch.unmarked : SwitchBranch → SwitchBranch
  | ⟨_, test, body⟩ => ⟨.blank, Expr.unmarkedOption test, Stmt.unmarkedList body⟩

def SwitchBranch.unmarkedList : List SwitchBranch → List SwitchBranch
  | [] => []
  | first :: rest => first.unmarked :: SwitchBranch.unmarkedList rest

def CatchClause.unmarked : CatchClause → CatchClause
  | ⟨_, parameter, body⟩ => ⟨.blank, Pattern.unmarkedOption parameter, Stmt.unmarkedList body⟩

def CatchClause.unmarkedOption : Option CatchClause → Option CatchClause
  | none => none
  | some clause => some clause.unmarked

def Declarator.unmarked : Declarator → Declarator
  | ⟨pattern, initializer⟩ => ⟨pattern.unmarked, Expr.unmarkedOption initializer⟩

def Declarator.unmarkedList : List Declarator → List Declarator
  | [] => []
  | first :: rest => first.unmarked :: Declarator.unmarkedList rest

def VariableDeclaration.unmarked : VariableDeclaration → VariableDeclaration
  | ⟨_, exported, mode, declarators, comments⟩ =>
      ⟨.blank, exported, mode, Declarator.unmarkedList declarators, comments⟩

end

/-- The statements of a program without their marks. Where its lines start is left out as well. -/
def Program.unmarked (program : Program) : List Stmt := Stmt.unmarkedList program.body

/-! ### Lists and options

The trees of a list and of an option are unmarked one by one. -/

/-- A function that goes through lists item by item is a map. -/
theorem eq_map {Item Image : Type} {item : Item → Image} {list : List Item → List Image}
    (nil : list [] = []) (cons : ∀ first rest, list (first :: rest) = item first :: list rest)
    (items : List Item) : list items = items.map item := by
  induction items with
  | nil => exact nil
  | cons first rest ih => rw [cons, ih, List.map_cons]

@[simp]
theorem Expr.unmarkedList_eq (values : List Expr) :
    Expr.unmarkedList values = values.map Expr.unmarked :=
  eq_map rfl (fun _ _ => rfl) values

@[simp]
theorem Expr.unmarkedMembers_eq (members : List (String × Expr)) :
    Expr.unmarkedMembers members = members.map fun member => (member.1, member.2.unmarked) :=
  eq_map rfl (fun _ _ => rfl) members

@[simp]
theorem TemplatePart.unmarkedList_eq (parts : List TemplatePart) :
    TemplatePart.unmarkedList parts = parts.map TemplatePart.unmarked :=
  eq_map rfl (fun _ _ => rfl) parts

@[simp]
theorem Argument.unmarkedList_eq (arguments : List Argument) :
    Argument.unmarkedList arguments = arguments.map Argument.unmarked :=
  eq_map rfl (fun _ _ => rfl) arguments

@[simp]
theorem Parameter.unmarkedList_eq (parameters : List Parameter) :
    Parameter.unmarkedList parameters = parameters.map Parameter.unmarked :=
  eq_map rfl (fun _ _ => rfl) parameters

@[simp]
theorem PatternElement.unmarkedList_eq (elements : List (Option PatternElement)) :
    PatternElement.unmarkedList elements = elements.map (Option.map PatternElement.unmarked) :=
  eq_map rfl (fun | none, _ => rfl | some _, _ => rfl) elements

@[simp]
theorem PatternProperty.unmarkedList_eq (properties : List PatternProperty) :
    PatternProperty.unmarkedList properties = properties.map PatternProperty.unmarked :=
  eq_map rfl (fun _ _ => rfl) properties

@[simp]
theorem Stmt.unmarkedList_eq (body : List Stmt) :
    Stmt.unmarkedList body = body.map Stmt.unmarked :=
  eq_map rfl (fun _ _ => rfl) body

@[simp]
theorem SwitchBranch.unmarkedList_eq (branches : List SwitchBranch) :
    SwitchBranch.unmarkedList branches = branches.map SwitchBranch.unmarked :=
  eq_map rfl (fun _ _ => rfl) branches

@[simp]
theorem Declarator.unmarkedList_eq (declarators : List Declarator) :
    Declarator.unmarkedList declarators = declarators.map Declarator.unmarked :=
  eq_map rfl (fun _ _ => rfl) declarators

@[simp]
theorem Expr.unmarkedOption_eq (value : Option Expr) :
    Expr.unmarkedOption value = value.map Expr.unmarked := by
  cases value <;> rfl

@[simp]
theorem Pattern.unmarkedOption_eq (pattern : Option Pattern) :
    Pattern.unmarkedOption pattern = pattern.map Pattern.unmarked := by
  cases pattern <;> rfl

@[simp]
theorem Stmt.unmarkedOption_eq (statement : Option Stmt) :
    Stmt.unmarkedOption statement = statement.map Stmt.unmarked := by
  cases statement <;> rfl

@[simp]
theorem Block.unmarkedOption_eq (block : Option Block) :
    Block.unmarkedOption block = block.map Block.unmarked := by
  cases block <;> rfl

@[simp]
theorem CatchClause.unmarkedOption_eq (clause : Option CatchClause) :
    CatchClause.unmarkedOption clause = clause.map CatchClause.unmarked := by
  cases clause <;> rfl

end QueryTypes.Script
