import QueryTypes.Resolution.Extraction
import QueryTypes.Proofs.Resolution.Following

/-!
Wrapper calls that extraction reports.

What is a candidate is decided by how a call is written and what is a wrapper call by what its
callee is imported as. The two agree on members of a source and on wrappers imported under a name
that is listed itself; a wrapper imported under another name is passed over in silence.
-/

set_option autoImplicit false

namespace QueryTypes.Resolution

open QueryTypes.Script
open QueryTypes.Scoping
open QueryTypes.Modules

namespace Candidate

/-- What a candidate's initializer came to is in the report of its module under the variable's
name and place, as a query or as an error. -/
def Reported (candidate : Candidate) (context : Context) (clocks : Nat → Clock)
    (module : Module) : Prop :=
  ∃ number, (candidates context.options module)[number]? = some candidate ∧
    let resolved := candidate.resolve { context with clock := clocks number } module
    (∃ query ∈ (extract context clocks module).queries,
        resolved = .ok query ∧ query.declared = candidate.declared) ∨
      ∃ error ∈ (extract context clocks module).errors,
        resolved = .error error ∧ error.declared = candidate.declared

/-- What a candidate comes to goes by its variable. -/
theorem resolve_declared (candidate : Candidate) (context : Context) (module : Module) :
    (∃ query, candidate.resolve context module = .ok query ∧
        query.declared = candidate.declared) ∨
      ∃ error, candidate.resolve context module = .error error ∧
        error.declared = candidate.declared := by
  unfold resolve
  dsimp only
  split
  · exact .inl ⟨_, rfl, rfl⟩
  · exact .inr ⟨_, rfl, rfl⟩

/-- No candidate of a module is lost. -/
theorem reported {candidate : Candidate} {context : Context} {module : Module}
    (present : candidate ∈ candidates context.options module) (clocks : Nat → Clock) :
    candidate.Reported context clocks module := by
  obtain ⟨number, inside, rfl⟩ := List.mem_iff_getElem.mp present
  generalize here : (candidates context.options module)[number] = candidate
  refine ⟨number, List.getElem?_eq_some_iff.mpr ⟨inside, here⟩, ?_⟩
  have among : candidate.resolve { context with clock := clocks number } module ∈
      (candidates context.options module).mapIdx fun number candidate =>
        candidate.resolve { context with clock := clocks number } module :=
    List.mem_mapIdx.mpr ⟨number, inside, by rw [here]⟩
  obtain ⟨query, resolved, same⟩ | ⟨error, resolved, same⟩ :=
    candidate.resolve_declared { context with clock := clocks number } module
  · exact .inl ⟨query, List.mem_filterMap.mpr ⟨_, among, by rw [resolved]⟩, resolved, same⟩
  · exact .inr ⟨error, List.mem_filterMap.mpr ⟨_, among, by rw [resolved]⟩, resolved, same⟩

theorem looksLikeQuery {candidate : Candidate} {options : Options} {module : Module}
    (present : candidate ∈ candidates options module) :
    looksLikeQuery options candidate.initializer = true := by
  obtain ⟨event, _, inEvent⟩ := List.mem_flatMap.mp present
  cases event with
  | «variables» declaration =>
      dsimp only at inEvent
      unfold declarationCandidates at inEvent
      split at inEvent
      · cases inEvent
      · obtain ⟨declarator, _, made⟩ := List.mem_filterMap.mp inEvent
        unfold candidate? at made
        split at made
        · split at made
          · rename_i looks
            cases made
            exact looks
          · cases made
        · cases made
  | _ => cases inEvent

end Candidate

def variableOf (module : Module) (binding : Binding) : QueryVariable :=
  ⟨binding.name, binding.mark.loc, module.range binding.mark.loc⟩

/-- A declarator whose initializer looks like a query is a candidate, however deep its declaration
stands. -/
theorem mem_candidates {options : Options} {module : Module} {declaration : VariableDeclaration}
    (met : .variables declaration ∈ programEvents module.program)
    (heeded : isIgnored options declaration = false) {binding : Binding} {initializer : Expr}
    (declares : ⟨.name binding, some initializer⟩ ∈ declaration.declarators)
    (looks : looksLikeQuery options initializer = true) :
    ⟨declaration, variableOf module binding, initializer⟩ ∈ candidates options module := by
  apply List.mem_flatMap.mpr
  refine ⟨.variables declaration, met, ?_⟩
  dsimp only
  unfold declarationCandidates
  rw [if_neg (by rw [heeded]; exact Bool.false_ne_true)]
  apply List.mem_filterMap.mpr
  refine ⟨⟨.name binding, some initializer⟩, declares, ?_⟩
  unfold candidate?
  exact if_pos looks

def Renames (options : Options) : Expr → Prop
  | .identifier _ name => options.isWrapper name = false
  | _ => False

/-- A call of a wrapper looks like a query unless the wrapper was imported under an unlisted
name. -/
theorem looksLikeQuery_of_wrapperName? {options : Options} {environment : Environment}
    {callee : Expr} {wrapper : String}
    (wraps : wrapperName? options environment callee = some wrapper) (mark : Mark)
    (optional : Bool) (arguments : List Argument) :
    looksLikeQuery options (.call mark optional callee arguments) = true ∨
      Renames options callee := by
  unfold wrapperName? at wraps
  split at wraps
  · rename_i nameMark name
    cases listed : options.isWrapper name with
    | true => exact .inl listed
    | false => exact .inr listed
  · rename_i memberMark chained objectMark object property
    split at wraps
    · rename_i listed
      exact .inl listed
    · cases wraps
  · cases wraps

/-- Every declarator whose initializer calls a wrapper is reported, wherever it stands and whatever
the call comes to, unless its declaration is to be ignored. The exception are wrappers that go by a
name which is not listed: their calls are no candidates. -/
theorem wrapper_call_reported {context : Context} (clocks : Nat → Clock) {module : Module}
    {declaration : VariableDeclaration}
    (met : .variables declaration ∈ programEvents module.program)
    (heeded : isIgnored context.options declaration = false) {binding : Binding} {mark : Mark}
    {optional : Bool} {callee : Expr} {arguments : List Argument}
    (declares : ⟨.name binding, some (.call mark optional callee arguments)⟩ ∈
      declaration.declarators) {wrapper : String}
    (wraps : wrapperName? context.options
      ⟨module, (module.scopes.enclosing? declaration.mark.id).getD ScopeTree.root, none⟩ callee =
        some wrapper) :
    let candidate : Candidate :=
      ⟨declaration, variableOf module binding, .call mark optional callee arguments⟩
    (¬ Renames context.options callee → candidate.Reported context clocks module) ∧
      (Renames context.options callee → candidate ∉ candidates context.options module) := by
  constructor
  · intro listed
    have looks :=
      (looksLikeQuery_of_wrapperName? wraps mark optional arguments).resolve_right listed
    exact Candidate.reported (mem_candidates met heeded declares looks) clocks
  · intro renames present
    have looks := Candidate.looksLikeQuery present
    cases callee with
    | identifier nameMark name => exact Bool.noConfusion (looks.symm.trans renames)
    | _ => exact renames

def callOf (callee : Expr) : Expr :=
  .call (numbered 7) false callee [⟨numbered 8, false, .string (numbered 9) "*"⟩]

/-- `const query = callee("*")` -/
def callDeclaration (callee : Expr) : VariableDeclaration :=
  ⟨numbered 5, false, .constant, [⟨.name ⟨numbered 6, "query"⟩, some (callOf callee)⟩], []⟩

def memberCallee : Expr :=
  .member (numbered 10) false (.identifier (numbered 11) "groq") "defineQuery"

/-- A module with an import of everything from `groq`, and a function with the declaration. -/
def memberCallModule : Module :=
  .ofProgram "/page.ts" ⟨numbered 0,
    [.imports ⟨numbered 1, false, none, some (.all ⟨numbered 2, "groq"⟩), "groq"⟩,
      .function ⟨numbered 3, false, false, none, ⟨numbered 4, false, false, false, [],
        .statements [.variables (callDeclaration memberCallee)]⟩⟩], ⟨[]⟩⟩

theorem member_call_reported :
    Candidate.Reported
      ⟨callDeclaration memberCallee, variableOf memberCallModule ⟨numbered 6, "query"⟩,
        callOf memberCallee⟩ (.still .empty) (fun _ => .stopped) memberCallModule := by
  have met : Event.variables (callDeclaration memberCallee) ∈
      programEvents memberCallModule.program := List.mem_of_getElem? (i := 8) rfl
  have wraps : wrapperName? .standard ⟨memberCallModule,
      (memberCallModule.scopes.enclosing? 5).getD ScopeTree.root, none⟩ memberCallee =
        some "defineQuery" := by decide +kernel
  exact (wrapper_call_reported _ met (by decide) List.mem_cons_self wraps).1 id

def renamedCallee : Expr := .identifier (numbered 3) "dq"

/-- A module with `import { defineQuery as dq } from "groq"` and the declaration. -/
def renamedCallModule : Module :=
  .ofProgram "/page.ts" ⟨numbered 0,
    [.imports ⟨numbered 1, false, none,
        some (.some [⟨"defineQuery", ⟨numbered 2, "dq"⟩⟩]), "groq"⟩,
      .variables (callDeclaration renamedCallee)], ⟨[]⟩⟩

/-- The call is one of a wrapper and its text is found. But the report of the module is empty. -/
theorem renamed_wrapper_call_not_reported :
    let environment : Environment := ⟨renamedCallModule,
      (renamedCallModule.scopes.enclosing? 5).getD ScopeTree.root, none⟩
    let context : Context := .still .empty
    let clocks := fun _ : Nat => Clock.stopped
    .variables (callDeclaration renamedCallee) ∈ programEvents renamedCallModule.program ∧
      isIgnored .standard (callDeclaration renamedCallee) = false ∧
      wrapperName? .standard environment renamedCallee = some "defineQuery" ∧
      (resolveText context (callOf renamedCallee) environment).text? = some "*" ∧
      (extract context clocks renamedCallModule).queries = [] ∧
      (extract context clocks renamedCallModule).errors = [] := by
  refine ⟨List.mem_of_getElem? (i := 5) rfl, by decide, by decide +kernel, by decide +kernel,
    by decide +kernel, by decide +kernel⟩

end QueryTypes.Resolution
