import Mathlib.Data.List.Forall2
import QueryTypes.Proofs.Resolution.Frames
import QueryTypes.Proofs.Scoping.Reordering

/-!
Two hosts whose modules differ only in the numbers of their scopes.

Where the modules under each path agree, evaluation in one host goes along with evaluation in the
other: whatever is at hand in one, environments, calls, values and what the way went through, has
its like in the other. A step requests alike what its like requests, so by induction on the budget
the answers are alike, and failures are the same.
-/

set_option autoImplicit false

namespace QueryTypes.Resolution

open QueryTypes.Script
open QueryTypes.Source
open QueryTypes.Scoping
open QueryTypes.Modules

/-! ### Modules that go together -/

/-- Modules that resolution can tell apart only by the numbers of their scopes. -/
structure Interchangeable (module other : Module) : Prop where
  path : other.path = module.path
  mark : other.program.mark = module.program.mark
  lines : other.program.lines = module.program.lines
  scopes : module.scopes.Agrees other.scopes
  default : defaultExport? other.body = defaultExport? module.body
  entries : exportEntries other.body = exportEntries module.body
  sources : wildcardSources other.body = wildcardSources module.body

structure Paired (before after : Host) (module other : Module) : Prop where
  held : before.find? module.path = some module
  alsoHeld : after.find? other.path = some other
  alike : Interchangeable module other

inductive Likewise {Error Left Right : Type} (together : Left → Right → Prop) :
    Except Error Left → Except Error Right → Prop
  | ok {left : Left} {right : Right} : together left right →
    Likewise together (.ok left) (.ok right)
  | error (error : Error) : Likewise together (.error error) (.error error)

/-- Both hosts lead to the same paths. Under each path both have a module, or fail alike. -/
structure Parallel (before after : Host) : Prop where
  resolve : ∀ specifier importer, after.resolve specifier importer =
    before.resolve specifier importer
  modules : ∀ path, Likewise (Paired before after) (before.module path) (after.module path)

theorem rel_cases {Left Right : Type} {together : Left → Right → Prop} {left : Option Left}
    {right : Option Right} (both : Option.Rel together left right) :
    (left = none ∧ right = none) ∨
      ∃ first second, left = some first ∧ right = some second ∧ together first second := by
  cases both with
  | some given => exact .inr ⟨_, _, rfl, rfl, given⟩
  | none => exact .inl ⟨rfl, rfl⟩

theorem getD_rel {Left Right : Type} {together : Left → Right → Prop} {left : Option Left}
    {right : Option Right} (both : Option.Rel together left right) {first : Left} {second : Right}
    (default : together first second) : together (left.getD first) (right.getD second) := by
  cases both with
  | some given => exact given
  | none => exact default

section Modules

variable {before after : Host} {module other : Module}

/-- A path tells which modules go together. -/
theorem Paired.of_path {module' other' : Module} (paired : Paired before after module other)
    (also : Paired before after module' other') (path : module'.path = module.path) :
    module' = module ∧ other' = other := by
  have first := also.held
  have second := also.alsoHeld
  rw [path, paired.held] at first
  rw [also.alike.path, path, ← paired.alike.path, paired.alsoHeld] at second
  exact ⟨(Option.some.inj first).symm, (Option.some.inj second).symm⟩

theorem Paired.within_eq (paired : Paired before after module other) (loc : Loc) (cause : Cause) :
    Failure.within other loc cause = .within module loc cause := by
  unfold Failure.within Module.range
  rw [paired.alike.path, paired.alike.lines]

theorem Parallel.fetch (parallel : Parallel before after) (specifier importer : String) :
    Likewise (Paired before after) (before.fetch specifier importer)
      (after.fetch specifier importer) := by
  unfold Host.fetch
  rw [parallel.resolve]
  cases before.resolve specifier importer with
  | ok path => exact parallel.modules path
  | error message => exact .error message

end Modules

/-! ### What goes together -/

mutual

inductive SameFrame (before after : Host) : Frame → Frame → Prop
  | intro {trail : Trail} {site : Site} {module other : Module} {scope otherScope : ScopeId}
      {bindings others : List (String × Actual)} {parent otherParent : Option Frame}
      (paired : Paired before after module other)
      (scopes : module.scopes.SameScope other.scopes scope otherScope)
      (parameters : List.Forall₂ (SameBinding before after) bindings others)
      (around : Option.Rel (SameFrame before after) parent otherParent) :
      SameFrame before after ⟨trail, site, module, scope, bindings, parent⟩
        ⟨trail, site, other, otherScope, others, otherParent⟩

inductive SameBinding (before after : Host) : String × Actual → String × Actual → Prop
  | argument {name : String} {value : Expr} {caller other : Environment}
      (calls : SameEnvironment before after caller other) :
      SameBinding before after (name, .argument value caller) (name, .argument value other)
  | default (name : String) (value : Expr) :
      SameBinding before after (name, .default value) (name, .default value)

inductive SameEnvironment (before after : Host) : Environment → Environment → Prop
  | intro {module other : Module} {scope otherScope : ScopeId} {frame otherFrame : Option Frame}
      (paired : Paired before after module other)
      (scopes : module.scopes.SameScope other.scopes scope otherScope)
      (calls : Option.Rel (SameFrame before after) frame otherFrame) :
      SameEnvironment before after ⟨module, scope, frame⟩ ⟨other, otherScope, otherFrame⟩

end

inductive SameValue (before after : Host) : Value → Value → Prop
  | text (text : String) : SameValue before after (.text text) (.text text)
  | function (function : Function) {module other : Module} {frame otherFrame : Option Frame}
      (paired : Paired before after module other)
      (calls : Option.Rel (SameFrame before after) frame otherFrame) :
      SameValue before after (.function ⟨function, module, frame⟩)
        (.function ⟨function, other, otherFrame⟩)

structure SameKey (before after : Host) (key other : IdentifierKey) : Prop where
  site : other.site = key.site
  trail : other.trail = key.trail
  scope : ∃ module counterpart, Paired before after module counterpart ∧
    module.path = key.site.path ∧
      module.scopes.SameScope counterpart.scopes key.scope other.scope

structure SameVisited (before after : Host) (visited other : Visited) : Prop where
  identifiers : List.Forall₂ (SameKey before after) visited.identifiers other.identifiers
  exports : other.exports = visited.exports
  calls : other.calls = visited.calls

inductive SameGoal (before after : Host) : Goal → Goal → Prop
  | expression (value : Expr) {environment other : Environment}
      (calls : SameEnvironment before after environment other) :
      SameGoal before after (.expression value environment) (.expression value other)
  | exported {target otherTarget requester otherRequester : Module}
      (targets : Paired before after target otherTarget) (name : String)
      (requesters : Paired before after requester otherRequester) (loc : Loc) :
      SameGoal before after (.exported target name requester loc)
        (.exported otherTarget name otherRequester loc)

/-- Plans that request and answer alike, as long as their requests are answered alike. -/
inductive SamePlan (before after : Host) : Plan → Plan → Prop
  | finish {result other : Except Failure Value}
      (answers : Likewise (SameValue before after) result other) :
      SamePlan before after (.finish result) (.finish other)
  | timed (late : Failure) {rest other : Plan} (later : SamePlan before after rest other) :
      SamePlan before after (.timed late rest) (.timed late other)
  | load (path : String) {rest other : Plan} (later : SamePlan before after rest other) :
      SamePlan before after (.load path rest) (.load path other)
  | ask {goal otherGoal : Goal} {visited otherVisited : Visited}
      {next otherNext : Except Failure Value → Plan}
      (goals : SameGoal before after goal otherGoal)
      (ways : SameVisited before after visited otherVisited)
      (later : ∀ answer other, Likewise (SameValue before after) answer other →
        SamePlan before after (next answer) (otherNext other)) :
      SamePlan before after (.ask goal visited next) (.ask otherGoal otherVisited otherNext)

section Together

variable {before after : Host}

namespace SameFrame

variable {frame other : Frame}

theorem paired (same : SameFrame before after frame other) :
    Paired before after frame.module other.module := by
  cases same with
  | intro paired _ _ _ => exact paired

theorem scopes (same : SameFrame before after frame other) :
    frame.module.scopes.SameScope other.module.scopes frame.functionScope other.functionScope := by
  cases same with
  | intro _ scopes _ _ => exact scopes

theorem bindings (same : SameFrame before after frame other) :
    List.Forall₂ (SameBinding before after) frame.bindings other.bindings := by
  cases same with
  | intro _ _ bindings _ => exact bindings

theorem parent (same : SameFrame before after frame other) :
    Option.Rel (SameFrame before after) frame.parent other.parent := by
  cases same with
  | intro _ _ _ parent => exact parent

/-- The frames that conditions find outwards go together if the conditions do. -/
theorem find? {condition otherCondition : Frame → Bool}
    (agree : ∀ inner counterpart, SameFrame before after inner counterpart →
      otherCondition counterpart = condition inner) :
    ∀ {frame other : Frame}, SameFrame before after frame other →
      Option.Rel (SameFrame before after) (frame.find? condition) (other.find? otherCondition)
  | ⟨trail, site, module, scope, bindings, parent⟩, other, same => by
      have outer := same.parent
      rw [Frame.find?_eq, Frame.find?_eq, agree _ _ same]
      split
      · exact .some same
      · match parent, other.parent, outer with
        | none, none, _ => exact .none
        | some frame, some counterpart, .some around => exact find? agree around

end SameFrame

theorem trails_eq {frame other : Option Frame}
    (same : Option.Rel (SameFrame before after) frame other) :
    other.map (·.trail) = frame.map (·.trail) := by
  cases same with
  | none => rfl
  | some frames =>
      cases frames with
      | intro _ _ _ _ => rfl

theorem sites_eq {frame other : Option Frame}
    (same : Option.Rel (SameFrame before after) frame other) :
    other.map (·.site) = frame.map (·.site) := by
  cases same with
  | none => rfl
  | some frames =>
      cases frames with
      | intro _ _ _ _ => rfl

namespace SameEnvironment

variable {environment other : Environment}

theorem paired (same : SameEnvironment before after environment other) :
    Paired before after environment.module other.module := by
  cases same with
  | intro paired _ _ => exact paired

theorem scopes (same : SameEnvironment before after environment other) :
    environment.module.scopes.SameScope other.module.scopes environment.scope other.scope := by
  cases same with
  | intro _ scopes _ => exact scopes

theorem frame (same : SameEnvironment before after environment other) :
    Option.Rel (SameFrame before after) environment.frame other.frame := by
  cases same with
  | intro _ _ frame => exact frame

theorem ofModule {module counterpart : Module} (paired : Paired before after module counterpart) :
    SameEnvironment before after (.ofModule module) (.ofModule counterpart) :=
  .intro paired (ScopeTree.sameScope_root _ _) .none

theorem withScope (same : SameEnvironment before after environment other)
    {scope otherScope : ScopeId}
    (scopes : environment.module.scopes.SameScope other.module.scopes scope otherScope) :
    SameEnvironment before after (environment.withScope scope) (other.withScope otherScope) :=
  .intro same.paired scopes same.frame

theorem noted (same : SameEnvironment before after environment other) (node : NodeId)
    {scope otherScope : ScopeId}
    (scopes : environment.module.scopes.SameScope other.module.scopes scope otherScope) :
    SameEnvironment before after
      (environment.withScope ((environment.module.scopes.enclosing? node).getD scope))
      (other.withScope ((other.module.scopes.enclosing? node).getD otherScope)) :=
  same.withScope (getD_rel (same.paired.alike.scopes.enclosing node) scopes)

theorem failure_eq (same : SameEnvironment before after environment other) (loc : Loc)
    (cause : Cause) : other.failure loc cause = environment.failure loc cause :=
  same.paired.within_eq loc cause

theorem lookup (same : SameEnvironment before after environment other) (name : String) :
    Option.Rel (environment.module.scopes.SameVariable other.module.scopes)
      (environment.lookup name) (other.lookup name) :=
  same.paired.alike.scopes.lookup _ _ same.scopes name

theorem isUndefined_eq (same : SameEnvironment before after environment other) :
    isUndefined other = isUndefined environment := by
  funext value
  unfold isUndefined
  split
  · rename_i name
    rcases rel_cases (same.lookup name) with ⟨nothing, alsoNothing⟩ | ⟨_, _, here, there, _⟩
    · rw [nothing, alsoNothing]
    · rw [here, there]
      rfl
  · rfl

private theorem wrapperImport?_eq (same : SameEnvironment before after environment other)
    (options : Options) (name : String) (expected : ImportKind) :
    wrapperImport? options other name expected =
      wrapperImport? options environment name expected := by
  have last : (other.lookup name).bind (·.definitions.getLast?) =
      (environment.lookup name).bind (·.definitions.getLast?) := by
    rcases rel_cases (same.lookup name) with ⟨nothing, alsoNothing⟩ | ⟨_, _, here, there, known⟩
    · rw [nothing, alsoNothing]
    · rw [here, there]
      exact congrArg List.getLast? known.definitions
  unfold wrapperImport?
  rw [last]

theorem wrapperName?_eq (same : SameEnvironment before after environment other)
    (options : Options) (callee : Expr) :
    wrapperName? options other callee = wrapperName? options environment callee := by
  unfold wrapperName?
  simp only [same.wrapperImport?_eq]

end SameEnvironment

theorem SameBinding.lookup {bindings others : List (String × Actual)}
    (same : List.Forall₂ (SameBinding before after) bindings others) (name : String) :
    Option.Rel (fun actual other => SameBinding before after (name, actual) (name, other))
      (bindings.lookup name) (others.lookup name) := by
  induction same with
  | nil => exact .none
  | cons first _ ih =>
      cases first with
      | @argument bound value caller other calls =>
          rw [List.lookup_cons, List.lookup_cons]
          cases name == bound with
          | true => exact .some (.argument calls)
          | false => exact ih
      | default bound value =>
          rw [List.lookup_cons, List.lookup_cons]
          cases name == bound with
          | true => exact .some (.default name value)
          | false => exact ih

/-! ### Ways -/

private theorem sameKey_biUnique : Relator.BiUnique (SameKey before after) := by
  -- The path of a use tells the modules, and in these a scope goes together with one other only.
  refine ⟨?_, ?_⟩
  · intro key key' common same same'
    obtain ⟨module, other, paired, path, scopes⟩ := same.scope
    obtain ⟨module', other', paired', path', scopes'⟩ := same'.scope
    have sites : key'.site = key.site := same'.site.symm.trans same.site
    obtain ⟨rfl, rfl⟩ := paired.of_path paired' (by rw [path, path', sites])
    have scope := paired.alike.scopes.unique.1 scopes scopes'
    have trail := same.trail.symm.trans same'.trail
    obtain ⟨_, _, _⟩ := key
    obtain ⟨_, _, _⟩ := key'
    cases sites
    cases scope
    cases trail
    rfl
  · intro common key key' same same'
    obtain ⟨module, other, paired, path, scopes⟩ := same.scope
    obtain ⟨module', other', paired', path', scopes'⟩ := same'.scope
    obtain ⟨rfl, rfl⟩ := paired.of_path paired' (by rw [path, path'])
    have scope := paired.alike.scopes.unique.2 scopes scopes'
    have trail := same.trail.trans same'.trail.symm
    have sites := same.site.trans same'.site.symm
    obtain ⟨_, _, _⟩ := key
    obtain ⟨_, _, _⟩ := key'
    cases sites
    cases scope
    cases trail
    rfl

namespace SameVisited

variable {visited other : Visited}

theorem empty : SameVisited before after .empty .empty := ⟨.nil, rfl, rfl⟩

theorem enterIdentifier (same : SameVisited before after visited other) (guards : Guards)
    {key counterpart : IdentifierKey} (keys : SameKey before after key counterpart) :
    Option.Rel (SameVisited before after) (visited.enterIdentifier guards key)
      (other.enterIdentifier guards counterpart) := by
  have contains : other.identifiers.contains counterpart = visited.identifiers.contains key := by
    rw [Bool.eq_iff_iff, List.contains_iff_mem, List.contains_iff_mem]
    exact (List.rel_mem sameKey_biUnique keys same.identifiers).symm
  unfold Visited.enterIdentifier
  rw [contains]
  split
  · exact .none
  · exact .some ⟨.cons keys same.identifiers, same.exports, same.calls⟩

theorem enterExport (same : SameVisited before after visited other) (guards : Guards)
    (key : ExportKey) :
    Option.Rel (SameVisited before after) (visited.enterExport guards key)
      (other.enterExport guards key) := by
  unfold Visited.enterExport
  rw [same.exports]
  split
  · exact .none
  · exact .some ⟨same.identifiers, rfl, same.calls⟩

theorem enterCall (same : SameVisited before after visited other) (guards : Guards)
    (key : CallKey) :
    Option.Rel (SameVisited before after) (visited.enterCall guards key)
      (other.enterCall guards key) := by
  unfold Visited.enterCall
  rw [same.calls]
  split
  · exact .none
  · exact .some ⟨same.identifiers, same.exports, rfl⟩

end SameVisited

end Together

end QueryTypes.Resolution
