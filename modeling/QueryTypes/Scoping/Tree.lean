import QueryTypes.Scoping.Event

/-!
The lexical scopes of a program.

Scopes are numbered in the order in which they start, so a scope's parent has a smaller number.
Each holds the variables declared in it, after hoisting, and the uses made from it. Uses are not
resolved here; `lookup` finds the variable that a name means in a scope.
-/

set_option autoImplicit false

namespace QueryTypes.Scoping

open QueryTypes.Script

abbrev ScopeId := Nat

/-- A declared name; the last of its definitions decides what it stands for. -/
structure Variable where
  name : String
  scope : ScopeId
  definitions : List Definition

structure Reference where
  node : NodeId
  name : String
deriving DecidableEq

structure Scope where
  id : ScopeId
  parent : Option ScopeId
  kind : ScopeKind
  children : List ScopeId
  «variables» : List Variable
  references : List Reference

namespace Scope

def fresh (id : ScopeId) (parent : Option ScopeId) (kind : ScopeKind) : Scope :=
  ⟨id, parent, kind, [], [], []⟩

def declared? (scope : Scope) (name : String) : Option Variable :=
  scope.variables.find? fun declared => declared.name == name

/-- Adds a definition to the variable with this name, which is new if there is none. -/
def declare (scope : Scope) (name : String) (definition : Definition) : Scope :=
  if (scope.declared? name).isSome then
    { scope with «variables» := scope.variables.map fun declared =>
        if declared.name == name then
          { declared with definitions := declared.definitions ++ [definition] }
        else declared }
  else
    { scope with «variables» := scope.variables ++ [⟨name, scope.id, [definition]⟩] }

end Scope

/-- The scopes of a program, by number, and the scopes that nodes made or stand in. Of several
entries for one node the first counts. -/
structure ScopeTree where
  scopes : Array Scope
  created : List (NodeId × ScopeId)
  enclosing : List (NodeId × ScopeId)

namespace ScopeTree

def root : ScopeId := 0

def initial : ScopeTree := ⟨#[.fresh root none .module], [], []⟩

def size (tree : ScopeTree) : Nat := tree.scopes.size

def scope? (tree : ScopeTree) (id : ScopeId) : Option Scope := tree.scopes[id]?

def parent? (tree : ScopeTree) (id : ScopeId) : Option ScopeId :=
  (tree.scope? id).bind (·.parent)

def ancestorsWithin (tree : ScopeTree) : (limit : Nat) → ScopeId → List ScopeId
  | 0, _ => []
  | limit + 1, id =>
      id :: match tree.parent? id with
        | none => []
        | some parent => ancestorsWithin tree limit parent

/-- A scope and the scopes around it. A parent's number is smaller, so there are at most as many
as the scope's own number and one. -/
def ancestors (tree : ScopeTree) (id : ScopeId) : List ScopeId :=
  tree.ancestorsWithin (id + 1) id

def closureOf (tree : ScopeTree) (id : ScopeId) : ScopeId :=
  ((tree.ancestors id).find? fun ancestor =>
    (tree.scope? ancestor).any (·.kind.isClosure)).getD root

def createdBy? (tree : ScopeTree) (node : NodeId) : Option ScopeId := tree.created.lookup node

/-- The scope that a variable declaration, a used identifier or a return statement stands in. -/
def enclosing? (tree : ScopeTree) (node : NodeId) : Option ScopeId := tree.enclosing.lookup node

def declared? (tree : ScopeTree) (id : ScopeId) (name : String) : Option Variable :=
  (tree.scope? id).bind (·.declared? name)

def lookup (tree : ScopeTree) (id : ScopeId) (name : String) : Option Variable :=
  (tree.ancestors id).findSome? fun ancestor => tree.declared? ancestor name

def modifyScope (tree : ScopeTree) (id : ScopeId) (change : Scope → Scope) : ScopeTree :=
  { tree with scopes := tree.scopes.modify id change }

end ScopeTree

structure Walk where
  tree : ScopeTree
  current : ScopeId

namespace Walk

def start : Walk := ⟨.initial, ScopeTree.root⟩

def resolve (walk : Walk) : Target → ScopeId
  | .current => walk.current
  | .closure => walk.tree.closureOf walk.current
  | .module => ScopeTree.root

def enter (walk : Walk) (kind : ScopeKind) (creator : NodeId) : Walk :=
  let id := walk.tree.size
  let grown := walk.tree.modifyScope walk.current fun scope =>
    { scope with children := scope.children ++ [id] }
  { tree :=
      { grown with
        scopes := grown.scopes.push (.fresh id (some walk.current) kind)
        created := (creator, id) :: grown.created }
    current := id }

def leave (walk : Walk) : Walk :=
  { walk with current := (walk.tree.parent? walk.current).getD ScopeTree.root }

def locate (walk : Walk) (node : NodeId) : Walk :=
  { walk with
    tree := { walk.tree with enclosing := (node, walk.current) :: walk.tree.enclosing } }

def step (walk : Walk) : Event → Walk
  | .node _ => walk
  | .enter kind creator => walk.enter kind creator
  | .leave => walk.leave
  | .declare target name definition =>
      { walk with
        tree := walk.tree.modifyScope (walk.resolve target) (·.declare name definition) }
  | .refer id name =>
      let located := walk.locate id
      { located with
        tree := located.tree.modifyScope walk.current fun scope =>
          { scope with references := scope.references ++ [⟨id, name⟩] } }
  | .returns id => walk.locate id
  | .variables declaration => walk.locate declaration.mark.id

end Walk

def bind (program : Program) : ScopeTree :=
  ((programEvents program).foldl Walk.step .start).tree

end QueryTypes.Scoping
