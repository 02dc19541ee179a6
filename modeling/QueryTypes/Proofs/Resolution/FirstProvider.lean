import QueryTypes.Proofs.Resolution.Reexports

/-!
Which source of a module's re-exports decides a name.

Sources before the first one that has the name anywhere behind it answer that it is missing, and
the search comes to that first one. Its value, or its failure, is then the answer of the module,
unless the failure says that an export is missing. The search looks at the kind of the failure and
not at where it arose, so a source that has the name is passed over if what the name stands for
refers to a missing export of some other module.
-/

set_option autoImplicit false

namespace QueryTypes.Resolution

open QueryTypes.Script
open QueryTypes.Source
open QueryTypes.Scoping
open QueryTypes.Modules

inductive Provides (host : Host) (name : String) : Module → Prop
  | itself {module : Module} : Owns module name → Provides host name module
  | relayed {module found : Module} :
      Relays host module found → Provides host name found → Provides host name module

/-- A module does not provide a name, and everything that the search for it comes across can be
fetched. -/
structure Fruitless (host : Host) (name : String) (module : Module) : Prop where
  nothing : ¬ Provides host name module
  loadable : ∀ reached, Reaches host name module reached → Loadable host reached

section Search

variable {host : Host} {options : Options} {clock : Clock} {name : String}

theorem Reaches.provides {module reached : Module} (reaches : Reaches host name module reached)
    (provides : Provides host name reached) : Provides host name module := by
  induction reaches with
  | here => exact provides
  | through _ relays _ ih => exact .relayed relays (ih provides)

theorem Fruitless.relayed {module found : Module} (fruitless : Fruitless host name module)
    (unowned : ¬ Owns module name) (relays : Relays host module found) :
    Fruitless host name found where
  nothing := fun provides => fruitless.nothing (.relayed relays provides)
  loadable := fun reached reaches =>
    fruitless.loadable reached (.through unowned relays reaches)

theorem Fruitless.searchable {module : Module} (fruitless : Fruitless host name module) :
    Searchable host name module := by
  intro reached reaches
  have unowned : ¬ Owns reached name :=
    fun owns => fruitless.nothing (reaches.provides (.itself owns))
  exact ⟨fun owns => absurd owns unowned, fun _ => fruitless.loadable reached reaches⟩

/-- A lookup in a module that does not provide the name finds it missing, unless it is cut off. -/
theorem Fruitless.not_isDecisive (running : Context.Unhurried ⟨host, options, .all, clock⟩)
    {module : Module} (fruitless : Fruitless host name module)
    (held : host.find? module.path = some module)
    (budget : Nat) (requester : Module) (loc : Loc) (visited : Visited) (trail : Trail)
    (finished : (solve ⟨host, options, .all, clock⟩ budget
      ⟨.exported module name requester loc, visited, trail⟩).isCutOff = false) :
    isDecisive (solve ⟨host, options, .all, clock⟩ budget
      ⟨.exported module name requester loc, visited, trail⟩).result = false := by
  have ends := solve_searchEnds running budget held fruitless.searchable requester loc visited trail
  cases answered : (solve ⟨host, options, .all, clock⟩ budget
      ⟨.exported module name requester loc, visited, trail⟩).result with
  | ok value =>
      rw [answered] at ends
      cases ends with
      | text way owned =>
          exact absurd (way.provides (.itself (owns_of_text owned))) fruitless.nothing
  | error failure =>
      rw [answered] at ends
      cases ends with
      | cutOff cut =>
          rw [Outcome.isCutOff_iff.mpr ⟨failure, answered, cut⟩] at finished
          cases finished
      | missing missed _ => rw [isDecisive_error, missed, Bool.not_true]

end Search

section Asking

variable {context : Context} {solve : Task → Outcome} {target : Module} {name : String}
  {visited : Visited} {trail : Trail}

/-- Sources that are asked in vain are passed, unless one of them is cut off and with it the whole
search. -/
theorem find?_isDecisive_append (missing : Failure) {count : Nat}
    {before after : List (String × Loc)}
    (finished : ∀ failure,
      ((sourceAnswers context solve target name visited trail count (before ++ after)).find?
        isDecisive).getD (.error missing) = .error failure → failure.cause.isCutOff = false)
    (vain : ∀ source ∈ before, ∀ number,
      let answer := sourceAnswer context solve target name visited trail number source
      isDecisive answer = false ∨ ∃ failure, answer = .error failure ∧
        failure.cause.isCutOff = true) :
    (sourceAnswers context solve target name visited trail count (before ++ after)).find?
        isDecisive =
      (sourceAnswers context solve target name visited trail (count + before.length) after).find?
        isDecisive := by
  induction before generalizing count with
  | nil => rfl
  | cons source rest ih =>
      have shifted : count + 1 + rest.length = count + (source :: rest).length := by
        rw [List.length_cons]
        omega
      simp only [List.cons_append, sourceAnswers, List.find?_cons] at finished ⊢
      -- The budget suffices for the whole search, so no source is cut off before it has ended.
      rcases vain source List.mem_cons_self count with undecided | ⟨failure, answered, cut⟩
      · simp only [undecided] at finished ⊢
        rw [ih finished fun other present => vain other (List.mem_cons_of_mem _ present), shifted]
      · have decisive : isDecisive (.error failure) = true := by
          rw [isDecisive_error, Cause.isExportMissing_of_isCutOff cut, Bool.not_false]
        simp only [answered, decisive, Option.getD_some] at finished
        exact absurd ((finished failure rfl).symm.trans cut) Bool.false_ne_true

end Asking

/-- Let every source before one of them be fruitless. If that one's answer is a value, or a failure
that is no missing export, then it is the answer of the module, and no later source is asked. If
an export is missing there, then the first later source with such an answer decides, and without
one the name is missing where it was requested. -/
theorem exported_of_first_provider {host : Host} {options : Options} {clock : Clock}
    (running : Context.Unhurried ⟨host, options, .all, clock⟩) {target provider : Module}
    {name : String}
    (unowned : ¬ Owns target name) {before after : List (String × Loc)}
    {specifier : String} {place : Loc}
    (sources : wildcardSources target.body = before ++ (specifier, place) :: after)
    (resolved : host.fetch specifier target.path = .ok provider)
    (fruitless : ∀ source ∈ before, ∃ found,
      host.fetch source.1 target.path = .ok found ∧ Fruitless host name found)
    {visited : Visited} (fresh : ⟨target.path, name⟩ ∉ visited.exports)
    (requester : Module) (loc : Loc) (trail : Trail) (budget : Nat)
    (finished : (solve ⟨host, options, .all, clock⟩ (budget + 1)
      ⟨.exported target name requester loc, visited, trail⟩).isCutOff = false) :
    let context : Context := ⟨host, options, .all, clock⟩
    let entered := { visited with exports := ⟨target.path, name⟩ :: visited.exports }
    let inTarget :=
      (solve context (budget + 1) ⟨.exported target name requester loc, visited, trail⟩).result
    let inProvider := (solve context budget
      ⟨.exported provider name target place, entered, before.length :: trail⟩).result
    let later := sourceAnswers context (solve context budget) target name entered trail
      (before.length + 1) after
    (isDecisive inProvider = true → inTarget = inProvider) ∧
      (isDecisive inProvider = false →
        inTarget = (later.find? isDecisive).getD
          (.error (.within requester loc (.exportNotFound name target.path)))) := by
  have searched : (solve ⟨host, options, .all, clock⟩ (budget + 1) _).result = _ :=
    solve_of_not_owns running budget unowned requester loc
      (Visited.enterExport_of_not_mem fresh) trail
  rw [sources] at searched
  have past : (sourceAnswers ⟨host, options, .all, clock⟩
        (solve ⟨host, options, .all, clock⟩ budget) target name
        { visited with exports := ⟨target.path, name⟩ :: visited.exports } trail 0
        (before ++ (specifier, place) :: after)).find? isDecisive =
      (sourceAnswers ⟨host, options, .all, clock⟩
        (solve ⟨host, options, .all, clock⟩ budget) target name
        { visited with exports := ⟨target.path, name⟩ :: visited.exports } trail
        (0 + before.length) ((specifier, place) :: after)).find? isDecisive := by
    apply find?_isDecisive_append (.within requester loc (.exportNotFound name target.path))
    · intro failure failed
      rw [← searched] at failed
      apply Bool.eq_false_iff.mpr
      intro cut
      rw [Outcome.isCutOff_iff.mpr ⟨failure, failed, cut⟩] at finished
      cases finished
    · intro source present number
      obtain ⟨found, foundHere, nothing⟩ := fruitless source present
      rw [sourceAnswer_of_resolve foundHere]
      cases cut : (solve ⟨host, options, .all, clock⟩ budget ⟨.exported found name target source.2,
          { visited with exports := ⟨target.path, name⟩ :: visited.exports },
          number :: trail⟩).isCutOff with
      | true => exact .inr (Outcome.isCutOff_iff.mp cut)
      | false =>
          exact .inl (nothing.not_isDecisive running (Host.mem_of_fetch foundHere) _ _ _ _ _ cut)
  dsimp only
  rw [searched, past, Nat.zero_add]
  simp only [sourceAnswers, sourceAnswer, resolved, List.find?_cons]
  constructor
  · intro decisive
    rw [decisive, Option.getD_some]
  · intro undecided
    rw [undecided]

/-- A module that neither has a name nor re-exports everything of another one is fruitless. -/
theorem fruitless_of_no_sources {host : Host} {name : String} {module : Module}
    (unowned : ¬ Owns module name) (closed : wildcardSources module.body = []) :
    Fruitless host name module := by
  have relaysNothing (found : Module) : ¬ Relays host module found := by
    rintro ⟨source, present, _⟩
    rw [closed] at present
    cases present
  constructor
  · intro provides
    cases provides with
    | itself owns => exact unowned owns
    | relayed relays _ => exact relaysNothing _ relays
  · intro reached reaches
    cases reaches with
    | here =>
        intro source present
        rw [closed] at present
        cases present
    | through _ relays _ => exact absurd relays (relaysNothing _)

def reexportingIndex : Module := .ofProgram "/index.ts" (relaying ["/empty.ts", "/queries.ts"])

/-- The empty module is asked in vain, and the answer is that of `/queries.ts`. -/
theorem reexport_decided_by_second_source :
    ∃ provider, ¬ Owns reexportingIndex "all" ∧
      wildcardSources reexportingIndex.body = [("/empty.ts", .nowhere), ("/queries.ts", .nowhere)] ∧
        (∀ source ∈ [("/empty.ts", Loc.nowhere)], ∃ found,
          reexportingHost.host.fetch source.1 reexportingIndex.path = .ok found ∧
            Fruitless reexportingHost "all" found) ∧
          reexportingHost.host.fetch "/queries.ts" reexportingIndex.path = .ok provider ∧
            Provides reexportingHost "all" provider ∧
              (solve (.still reexportingHost) 3
                ⟨.exported reexportingIndex "all" importingModule .nowhere, .empty, []⟩).result =
                  .ok (.text "*") := by
  have unowned : ¬ Owns reexportingIndex "all" := by decide +kernel
  have fruitless : ∀ source ∈ [("/empty.ts", Loc.nowhere)], ∃ found,
      reexportingHost.host.fetch source.1 reexportingIndex.path = .ok found ∧
        Fruitless reexportingHost "all" found := by
    intro source present
    cases List.mem_singleton.mp present
    exact ⟨_, rfl, fruitless_of_no_sources (by decide +kernel) rfl⟩
  have finished : (solve (.still reexportingHost) 3
      ⟨.exported reexportingIndex "all" importingModule .nowhere, .empty, []⟩).isCutOff =
        false := by
    decide +kernel
  refine ⟨_, unowned, rfl, fruitless, rfl, .itself (by decide +kernel), ?_⟩
  have decided := @exported_of_first_provider reexportingHost .standard .stopped
    (Context.still_unhurried _) reexportingIndex _ "all" unowned [("/empty.ts", .nowhere)] []
      "/queries.ts" .nowhere rfl rfl fruitless .empty
    List.not_mem_nil importingModule .nowhere [] 2 finished
  exact (decided.1 (by decide +kernel)).trans rfl

/-! ### A provider that is passed over -/

/-- `/index.ts` re-exports everything of `/broken.ts` and of `/other.ts`. Both have the name, the
first by way of something that `/empty.ts` does not export. -/
def brokenHost : MemoryHost :=
  (((MemoryHost.empty.insert "/empty.ts" ⟨numbered 0, [], ⟨[]⟩⟩).insert "/other.ts"
    ⟨numbered 0, [.variables ⟨numbered 1, true, .constant,
      [⟨.name ⟨numbered 2, "all"⟩, some (.string (numbered 3) "*")⟩], []⟩], ⟨[]⟩⟩).insert
    "/broken.ts" ⟨numbered 0, [.imports ⟨numbered 1, false, none,
      some (.some [⟨"gone", ⟨numbered 2, "gone"⟩⟩]), "/empty.ts"⟩,
      .variables ⟨numbered 3, true, .constant,
        [⟨.name ⟨numbered 4, "all"⟩, some (.identifier (numbered 5) "gone")⟩], []⟩], ⟨[]⟩⟩).insert
    "/index.ts" (relaying ["/broken.ts", "/other.ts"])

/-- The search goes on past a module that has the name, since what the name stands for there is an
export that a third module lacks. -/
theorem search_passes_over_provider :
    ¬ ∀ (host : Host) (options : Options) (clock : Clock) (target provider : Module) (name : String)
        (before after : List (String × Loc)) (specifier : String) (place : Loc)
        (requester : Module) (loc : Loc) (budget : Nat),
      Context.Unhurried ⟨host, options, .all, clock⟩ → ¬ Owns target name →
        wildcardSources target.body = before ++ (specifier, place) :: after →
          host.fetch specifier target.path = .ok provider →
            (∀ source ∈ before, ∃ found,
              host.fetch source.1 target.path = .ok found ∧ Fruitless host name found) →
              Provides host name provider →
                let context : Context := ⟨host, options, .all, clock⟩
                let inTarget := solve context (budget + 1)
                  ⟨.exported target name requester loc, .empty, []⟩
                inTarget.isCutOff = false →
                  inTarget.result = (solve context budget ⟨.exported provider name target place,
                    ⟨[], [⟨target.path, name⟩], []⟩, [before.length]⟩).result := by
  intro claimed
  have same := claimed brokenHost .standard .stopped (.ofProgram "/index.ts"
    (relaying ["/broken.ts", "/other.ts"])) _ "all" [] [("/other.ts", .nowhere)] "/broken.ts"
    .nowhere importingModule .nowhere 5 (Context.still_unhurried _)
      (by decide +kernel) rfl rfl nofun
    (.itself (by decide +kernel)) (by decide +kernel)
  have differs := congrArg Except.isOk same
  revert differs
  decide +kernel

end QueryTypes.Resolution
