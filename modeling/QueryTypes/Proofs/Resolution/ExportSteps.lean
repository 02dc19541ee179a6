import QueryTypes.Proofs.Resolution.Linking
import QueryTypes.Proofs.Resolution.Reexports
import QueryTypes.Proofs.Scoping.Declaring

/-!
One step of a lookup beside one step of ResolveExport.

A lookup tries a module's top-level variables before its export lists, exported or not, and passes
a `default` on to sources of which everything is re-exported. Where neither makes a difference,
the plan of a lookup does what the language prescribes for the statements that export the name.
-/

set_option autoImplicit false

namespace QueryTypes.Script

def Stmt.isTypeOnly : Stmt → Bool
  | .imports declaration => declaration.typeOnly
  | .exportList exports => exports.typeOnly
  | _ => false

end QueryTypes.Script

namespace QueryTypes.Resolution

open QueryTypes.Script
open QueryTypes.Source
open QueryTypes.Scoping
open QueryTypes.Modules

/-! ### How a name is exported, by the statements and by their summaries -/

def ValuesOnly (module : Module) : Prop :=
  ∀ statement ∈ module.body, statement.isTypeOnly = false

instance (module : Module) : Decidable (ValuesOnly module) :=
  inferInstanceAs (Decidable (∀ statement ∈ module.body, _))

def entryForm : ExportName × Option String → ExportForm
  | (entry, none) => .binding entry.target
  | (entry, some source) => .indirect source entry.target

section Forms

variable {module : Module} {name : String} {form : ExportForm}

private theorem mem_exportForms :
    form ∈ exportForms module name ↔
      ∃ statement ∈ module.body, (name, form) ∈ exportedBy statement := by
  unfold exportForms
  constructor
  · intro present
    obtain ⟨entry, filtered, rfl⟩ := List.mem_map.mp present
    obtain ⟨among, same⟩ := List.mem_filter.mp filtered
    rw [← eq_of_beq same]
    exact List.mem_flatMap.mp among
  · intro present
    exact List.mem_map.mpr ⟨(name, form),
      List.mem_filter.mpr ⟨List.mem_flatMap.mpr present, beq_self_eq_true name⟩, rfl⟩

theorem mem_exportEntries {body : List Stmt} {entry : ExportName} {source : Option String} :
    (entry, source) ∈ exportEntries body ↔
      ∃ mark names, .exportList ⟨mark, false, .some names, source⟩ ∈ body ∧ entry ∈ names := by
  constructor
  · intro present
    obtain ⟨statement, inBody, among⟩ := List.mem_flatMap.mp present
    split at among
    · rename_i mark names origin
      obtain ⟨listed, inNames, same⟩ := List.mem_map.mp among
      cases same
      exact ⟨mark, names, inBody, inNames⟩
    · cases among
  · rintro ⟨mark, names, inBody, inNames⟩
    exact List.mem_flatMap.mpr ⟨_, inBody, List.mem_map.mpr ⟨entry, inNames, rfl⟩⟩

/-- The entry that counts for a name is one of the ways in which the name is exported. -/
theorem entryForm_mem {entry : ExportName} {source : Option String}
    (listed : exportEntry? module.body name = some (entry, source)) :
    entryForm (entry, source) ∈ exportForms module name := by
  obtain ⟨among, same⟩ := List.mem_filter.mp (List.mem_of_getLast? listed)
  obtain ⟨mark, names, inBody, inNames⟩ := mem_exportEntries.mp among
  rw [← eq_of_beq same]
  apply mem_exportForms.mpr
  refine ⟨_, inBody, ?_⟩
  cases source with
  | none => exact List.mem_map.mpr ⟨entry, inNames, rfl⟩
  | some source => exact List.mem_map.mpr ⟨entry, inNames, rfl⟩

private theorem exportEntry?_isSome {entry : ExportName × Option String}
    (present : entry ∈ exportEntries module.body) (exported : entry.1.exported = name) :
    ( exportEntry? module.body name).isSome := by
  apply List.getLast?_isSome.mpr
  exact List.ne_nil_of_mem (List.mem_filter.mpr ⟨present, beq_iff_eq.mpr exported⟩)

/-- A module without a default export and without an entry for a name exports it, if at all, as a
variable of that name or as another module. -/
theorem exportForms_of_not_owns (values : ValuesOnly module)
    (unowned : ¬ Owns module name) (present : form ∈ exportForms module name) :
    form = .binding name ∨ ∃ source, form = .everything source := by
  obtain ⟨noDefault, _, unlisted⟩ := not_owns_iff.mp unowned
  obtain ⟨statement, inBody, exports⟩ := mem_exportForms.mp present
  have notDefault (isDefault : name = "default") :=
    List.findSome?_eq_none_iff.mp (noDefault isDefault) statement inBody
  have notListed {mark : Mark} {typeOnly : Bool} {names : List ExportName} {source : Option String}
      (listed : .exportList ⟨mark, typeOnly, .some names, source⟩ ∈ module.body)
      {entry : ExportName} (inNames : entry ∈ names) : entry.exported ≠ name := by
    intro exported
    obtain rfl : typeOnly = false := values _ listed
    have counted := exportEntry?_isSome (mem_exportEntries.mpr ⟨mark, names, listed, inNames⟩)
      exported
    rw [unlisted] at counted
    cases counted
  unfold exportedBy at exports
  split at exports
  · obtain ⟨binding, _, same⟩ := List.mem_map.mp exports
    cases same
    exact .inl rfl
  · cases List.mem_singleton.mp exports
    cases notDefault rfl
  · cases List.mem_singleton.mp exports
    cases notDefault rfl
  · cases List.mem_singleton.mp exports
    exact .inl rfl
  · cases List.mem_singleton.mp exports
    cases notDefault rfl
  · obtain ⟨entry, inNames, same⟩ := List.mem_map.mp exports
    cases same
    exact absurd rfl (notListed inBody inNames)
  · obtain ⟨entry, inNames, same⟩ := List.mem_map.mp exports
    cases same
    exact absurd rfl (notListed inBody inNames)
  · cases List.mem_singleton.mp exports
    exact .inr ⟨_, rfl⟩
  · cases exports

end Forms

/-! ### One step -/

/-- The plan of a lookup does what a step of ResolveExport says; a binding that is found has the
text. -/
inductive Carries (context : Context) (module : Module) (name text : String) (entered : Visited) :
    ExportStep → Plan → Prop
  | found {binding : ExportBinding} {mark : Mark} {environment : Environment} :
      Carries context module name text entered (.found binding)
        (.become (.expression (.string mark text) environment) entered)
  | passed {found : Module} {asked : String} {place : Loc} {late : Failure} :
      context.host.find? found.path = some found →
        Carries context module name text entered (.passed ⟨found.path, asked⟩)
          (.timed late (.load found.path (.become (.exported found asked module place) entered)))
  | spread {keys : List ExportKey} {missing : Failure} :
      sourceKeys? context.host module name (wildcardSources module.body) = some keys →
        missing.cause.isExportMissing = true →
          Carries context module name text entered (.spread keys)
            (.wildcards context module name entered missing (wildcardSources module.body))

section Steps

variable {context : Context} {module : Module} {name text : String} {entered : Visited}
  {step : ExportStep}

theorem linked?_resolve {host : Host} {source path : String}
    (linked : linked? host module source = some path) :
    ∃ found, host.fetch source module.path = .ok found ∧ found.path = path := by
  unfold linked? at linked
  split at linked
  · rename_i found resolved
    exact ⟨found, resolved, Option.some.inj linked⟩
  · cases linked

/-- Going on in another module under some name is a passed request. -/
theorem withModule_carries {source asked : String} {place inner : Loc}
    (linked : (linked? context.host module source).map
      (fun path => ExportStep.passed ⟨path, asked⟩) = some step) :
    Carries context module name text entered step
      (Plan.withModule context source module place fun found =>
        Plan.become (.exported found asked module inner) entered) := by
  obtain ⟨path, led, rfl⟩ := Option.map_eq_some_iff.mp linked
  obtain ⟨found, resolved, rfl⟩ := linked?_resolve led
  unfold Plan.withModule
  rw [resolved]
  exact .passed (Host.mem_of_fetch resolved)

private theorem initialText?_eq_some {known : Variable} (initial : initialText? known = some text) :
    (∀ definition ∈ known.definitions, definition.isDeclarator = true) ∧
      ∃ declaration index binding mark,
        known.definitions.getLast? = some (.declarator declaration index) ∧
          declaration.declarators[index]? = some ⟨.name binding, some (.string mark text)⟩ := by
  unfold initialText? at initial
  split at initial
  · rename_i declarators
    refine ⟨List.all_eq_true.mp declarators, ?_⟩
    obtain ⟨definition, last, given⟩ := Option.bind_eq_some_iff.mp initial
    unfold Definition.text? at given
    split at given
    · rename_i declaration index
      split at given
      · rename_i binding mark written found
        cases given
        exact ⟨declaration, index, binding, mark, last, found⟩
      · cases given
    · cases given
  · cases initial

/-- The text of a variable of a module. -/
theorem text?_of_named {host : Host} (held : host.find? module.path = some module)
    {localName : String} {known : Variable}
    (declared : module.scopes.declared? ScopeTree.root localName = some known) :
    ExportBinding.text? host ⟨module.path, .named localName⟩ = initialText? known := by
  simp only [ExportBinding.text?, held, Option.bind_some, bindingText?, declared]

/-- A variable of a module is looked up as its own step says. -/
theorem declared_carries (held : context.host.find? module.path = some module)
    {localName : String} {known : Variable}
    (declared : module.scopes.declared? ScopeTree.root localName = some known)
    (here : bindingStep? context.host module localName = some step)
    (written : ∀ binding, step = .found binding → binding.text? context.host = some text)
    (place : Loc) :
    Carries context module name text entered step
      (Plan.declared context known place (.ofModule module) entered) := by
  have own (same : step = .found ⟨module.path, .named localName⟩) :
      initialText? known = some text := by
    rw [← text?_of_named held declared]
    exact written _ same
  simp only [bindingStep?, declared] at here
  split at here
  · rename_i declaration kind imported localBinding only
    split at here
    · cases here
      have notDeclarator := (initialText?_eq_some (own rfl)).1 _ (only ▸ List.mem_singleton_self _)
      cases notDeclarator
    · rename_i single
      simp only [Plan.declared, only, List.getLast?_singleton, if_neg single]
      exact withModule_carries here
  · cases here
    obtain ⟨_, declaration, index, binding, mark, last, found⟩ := initialText?_eq_some (own rfl)
    obtain ⟨environment, plan⟩ := declared_of_string context last found place (.ofModule module)
      entered
    rw [plan]
    exact .found

/-- An entry of an export list is looked up as its form says. -/
theorem exportEntry_carries (held : context.host.find? module.path = some module)
    {entry : ExportName} {source : Option String}
    (here : formStep? context.host module (entryForm (entry, source)) = some step)
    (written : ∀ binding, step = .found binding → binding.text? context.host = some text) :
    Carries context module name text entered step
      (Plan.exportEntry context module entry source entered) := by
  cases source with
  | some source => exact withModule_carries here
  | none =>
      unfold Plan.exportEntry
      cases declared : module.scopes.declared? ScopeTree.root entry.target with
      | some known => exact declared_carries held declared here written _
      | none =>
          simp only [entryForm, formStep?, bindingStep?, declared] at here
          cases here

/-- Where an export has a step, it is that of each form the export has. -/
theorem formStep?_of_mem {host : Host} (held : host.find? module.path = some module)
    (here : exportStep? host ⟨module.path, name⟩ = some step) {form : ExportForm}
    (present : form ∈ exportForms module name) : formStep? host module form = some step := by
  simp only [exportStep?, held] at here
  split at here
  · rename_i only forms
    rw [forms] at present
    rw [List.mem_singleton.mp present]
    exact here
  · rename_i forms
    rw [forms] at present
    cases present
  · cases here

/-- An expression that is exported by default and has the text is a string. -/
theorem defaultExpression_of_text {host : Host} (held : host.find? module.path = some module)
    {value : Expr} (provided : defaultExport? module.body = some (.expression value))
    (here : exportStep? host ⟨module.path, "default"⟩ = some step)
    (written : ∀ binding, step = .found binding → binding.text? host = some text) :
    ∃ binding mark, step = .found binding ∧ value = .string mark text := by
  obtain ⟨mark, present⟩ := mem_of_defaultExpression provided
  have form : .anonymous ∈ exportForms module "default" :=
    mem_exportForms.mpr ⟨_, present, List.mem_singleton_self _⟩
  cases formStep?_of_mem held here form
  have initial := written _ rfl
  simp only [ExportBinding.text?, held, Option.bind_some, bindingText?, provided] at initial
  split at initial
  · rename_i stringMark found same
    cases initial
    cases same
    exact ⟨_, stringMark, rfl, rfl⟩
  · cases initial

/-- A function is no text, so a default export with a text is an expression. -/
theorem defaultFunction_without_text {host : Host} (held : host.find? module.path = some module)
    {function : Function}
    (provided : defaultExport? module.body = some (.function function))
    (here : exportStep? host ⟨module.path, "default"⟩ = some step)
    (written : ∀ binding, step = .found binding → binding.text? host = some text) : False := by
  obtain ⟨mark, exported, declared, present⟩ := mem_of_defaultFunction provided
  cases declared with
  | none =>
      have form : .anonymous ∈ exportForms module "default" := by
        refine mem_exportForms.mpr ⟨_, present, ?_⟩
        cases exported <;> exact List.mem_singleton_self _
      cases formStep?_of_mem held here form
      have unwritten := written _ rfl
      simp only [ExportBinding.text?, held, Option.bind_some, bindingText?, provided] at unwritten
      cases unwritten
  | some binding =>
      have form : .binding binding.name ∈ exportForms module "default" := by
        refine mem_exportForms.mpr ⟨_, present, ?_⟩
        cases exported <;> exact List.mem_singleton_self _
      obtain ⟨known, found, defined⟩ := functionName_defined present
      rw [← Host.scopes_of_mem held] at found
      have stepped := formStep?_of_mem held here form
      simp only [formStep?, bindingStep?, found] at stepped
      split at stepped
      · rename_i declaration kind imported localBinding only
        rw [only] at defined
        cases List.mem_singleton.mp defined
      · cases stepped
        have initial := written _ rfl
        rw [text?_of_named held found] at initial
        have notDeclarator := (initialText?_eq_some initial).1 _ defined
        cases notDeclarator

/-- What a module has nothing of its own for is asked of all its sources, `default` apart. -/
theorem step_of_not_owns {host : Host} (held : host.find? module.path = some module)
    (values : ValuesOnly module) (notDefault : name = "default" → exportForms module name ≠ [])
    (unowned : ¬ Owns module name) (here : exportStep? host ⟨module.path, name⟩ = some step)
    (written : ∀ binding, step = .found binding → binding.text? host = some text) :
    ∃ keys, step = .spread keys ∧
      sourceKeys? host module name (wildcardSources module.body) = some keys := by
  have formless : exportForms module name = [] := by
    apply List.eq_nil_iff_forall_not_mem.mpr
    intro form present
    have stepped := formStep?_of_mem held here present
    rcases exportForms_of_not_owns values unowned present with rfl | ⟨source, rfl⟩
    · obtain ⟨_, undeclared, _⟩ := not_owns_iff.mp unowned
      simp only [formStep?, bindingStep?, undeclared] at stepped
      cases stepped
    · obtain ⟨path, _, rfl⟩ := Option.map_eq_some_iff.mp stepped
      obtain ⟨_, _, impossible⟩ := Option.bind_eq_some_iff.mp (written _ rfl)
      cases impossible
  simp only [exportStep?, held, formless] at here
  split at here
  · rename_i isDefault
    exact absurd formless (notDefault isDefault)
  · obtain ⟨keys, asked, rfl⟩ := Option.map_eq_some_iff.mp here
    exact ⟨keys, rfl, asked⟩

/-- Where a top-level variable of the name leads where its export leads, looking the name up is the
step that ResolveExport takes. -/
theorem exported_carries (held : context.host.find? module.path = some module)
    (values : ValuesOnly module)
    (topLevel : (module.scopes.declared? ScopeTree.root name).isSome →
      bindingStep? context.host module name = exportStep? context.host ⟨module.path, name⟩)
    (notDefault : name = "default" → exportForms module name ≠ [])
    (here : exportStep? context.host ⟨module.path, name⟩ = some step)
    (written : ∀ binding, step = .found binding → binding.text? context.host = some text)
    (requester : Module) (loc : Loc) {visited : Visited}
    (entering : visited.enterExport context.guards ⟨module.path, name⟩ = some entered) :
    Carries context module name text entered step
      (Plan.exported context module name requester loc visited) := by
  simp only [Plan.exported, entering]
  split
  · rename_i value provided
    split at provided
    · rename_i isDefault
      subst isDefault
      obtain ⟨binding, mark, rfl, rfl⟩ := defaultExpression_of_text held provided here written
      exact .found
    · cases provided
  · rename_i function provided
    split at provided
    · rename_i isDefault
      subst isDefault
      exact (defaultFunction_without_text held provided here written).elim
    · cases provided
  · rename_i provided
    unfold Plan.namedExport
    cases declared : module.scopes.declared? ScopeTree.root name with
    | some known =>
        -- Found before any export is looked at, so it has to lead to the same.
        have same := topLevel (by rw [declared]; rfl)
        exact declared_carries held declared (same.trans here) written _
    | none =>
        cases listed : exportEntry? module.body name with
        | some entry =>
            exact exportEntry_carries held (formStep?_of_mem held here (entryForm_mem listed))
              written
        | none =>
            have unowned : ¬ Owns module name :=
              not_owns_iff.mpr ⟨fun isDefault => by rwa [if_pos isDefault] at provided, declared,
                listed⟩
            obtain ⟨keys, rfl, asked⟩ := step_of_not_owns held values notDefault
              unowned here written
            exact .spread asked rfl

end Steps

end QueryTypes.Resolution
