import QueryTypes.Proofs.Resolution.Termination

/-!
The search for a name through modules that re-export everything of others.

A module that has nothing of its own under the name asks its sources one after another. What is
on the way already is refused, so on a graph with cycles branches are cut off. Nothing is lost by
that: a way that comes back to a module leaves it a last time, and from there on the search at that
module follows it.
-/

set_option autoImplicit false

namespace QueryTypes.Resolution

open QueryTypes.Script
open QueryTypes.Source
open QueryTypes.Scoping
open QueryTypes.Modules

/-! ### Which modules have a name -/

/-- A module has something of its own under a name. -/
def Owns (module : Module) (name : String) : Prop :=
  (name = "default" ∧ (defaultExport? module.body).isSome) ∨
    (module.scopes.declared? ScopeTree.root name).isSome ∨
      ( exportEntry? module.body name).isSome

instance (module : Module) (name : String) : Decidable (Owns module name) :=
  inferInstanceAs (Decidable (_ ∨ _ ∨ _))

/-- The text that a module has under a name, if that is a top-level variable which is initialized
with a string. -/
def ownText? (module : Module) (name : String) : Option String :=
  if name = "default" ∧ (defaultExport? module.body).isSome then none
  else match (module.scopes.declared? ScopeTree.root name).bind (·.definitions.getLast?) with
    | some (.declarator declaration index) =>
        match declaration.declarators[index]? with
        | some ⟨.name _, some (.string _ text)⟩ => some text
        | _ => none
    | _ => none

def Relays (host : Host) (module found : Module) : Prop :=
  ∃ source ∈ wildcardSources module.body, host.fetch source.1 module.path = .ok found

def Loadable (host : Host) (module : Module) : Prop :=
  ∀ source ∈ wildcardSources module.body, (host.fetch source.1 module.path).isOk

instance (host : Host) (module : Module) : Decidable (Loadable host module) :=
  inferInstanceAs (Decidable (∀ source ∈ wildcardSources module.body, _))

/-- The modules that re-exports lead to, by way of modules that have nothing under the name. -/
inductive Reaches (host : Host) (name : String) : Module → Module → Prop
  | here {module : Module} : Reaches host name module module
  | through {module found provider : Module} :
      ¬ Owns module name → Relays host module found → Reaches host name found provider →
        Reaches host name module provider

/-- The same without passing through a module at which the lookup was passed already. -/
inductive ReachesPast (host : Host) (name : String) (passed : List ExportKey) :
    Module → Module → Prop
  | here {module : Module} :
      ⟨module.path, name⟩ ∉ passed → ReachesPast host name passed module module
  | through {module found provider : Module} :
      ⟨module.path, name⟩ ∉ passed → ¬ Owns module name → Relays host module found →
        ReachesPast host name passed found provider →
          ReachesPast host name passed module provider

section Ways

variable {host : Host} {name : String} {passed : List ExportKey} {module found provider : Module}

private theorem ownText?_eq_some {text : String} (owned : ownText? module name = some text) :
    (name = "default" → defaultExport? module.body = none) ∧
      ∃ known declaration index binding mark,
        module.scopes.declared? ScopeTree.root name = some known ∧
          known.definitions.getLast? = some (.declarator declaration index) ∧
            declaration.declarators[index]? = some ⟨.name binding, some (.string mark text)⟩ := by
  unfold ownText? at owned
  split at owned
  · cases owned
  · rename_i noDefault
    refine ⟨?_, ?_⟩
    · intro isDefault
      simpa [isDefault] using noDefault
    · split at owned
      · rename_i declaration index last
        obtain ⟨known, declared, defined⟩ := Option.bind_eq_some_iff.mp last
        split at owned
        · rename_i binding mark given found
          cases owned
          exact ⟨known, declaration, index, binding, mark, declared, defined, found⟩
        · cases owned
      · cases owned

theorem owns_of_text {text : String} (owned : ownText? module name = some text) :
    Owns module name := by
  obtain ⟨_, known, _, _, _, _, declared, _⟩ := ownText?_eq_some owned
  refine .inr (.inl ?_)
  rw [declared]
  rfl

theorem Loadable.resolve (loadable : Loadable host module) {source : String × Loc}
    (present : source ∈ wildcardSources module.body) :
    ∃ found, host.fetch source.1 module.path = .ok found := by
  have loaded := loadable source present
  cases resolved : host.fetch source.1 module.path with
  | ok found => exact ⟨found, rfl⟩
  | error message =>
      rw [resolved] at loaded
      cases loaded

theorem not_owns_iff :
    ¬ Owns module name ↔
      (name = "default" → defaultExport? module.body = none) ∧
        module.scopes.declared? ScopeTree.root name = none ∧
          exportEntry? module.body name = none := by
  unfold Owns
  simp only [not_or, not_and, Bool.not_eq_true, Option.isSome_eq_false_iff,
    Option.isNone_iff_eq_none]

theorem Relays.find? (relays : Relays host module found) :
    host.find? found.path = some found := by
  obtain ⟨source, _, resolved⟩ := relays
  exact Host.mem_of_fetch resolved

theorem Reaches.mem (reaches : Reaches host name module provider) (held : module ∈ host) :
    provider ∈ host := by
  induction reaches with
  | here => exact held
  | through _ relays _ ih =>
      obtain ⟨source, _, resolved⟩ := relays
      exact ih (Host.mem_of_fetch resolved)

theorem Reaches.past_nil (reaches : Reaches host name module provider) :
    ReachesPast host name [] module provider := by
  induction reaches with
  | here => exact .here List.not_mem_nil
  | through unowned relays _ ih => exact .through List.not_mem_nil unowned relays ih

theorem ReachesPast.not_mem (reaches : ReachesPast host name passed module provider) :
    ⟨module.path, name⟩ ∉ passed := by
  cases reaches with
  | here new => exact new
  | through new _ _ _ => exact new

/-- A way that meets a module leaves it a last time. -/
theorem ReachesPast.last {met : Module} (metHeld : host.find? met.path = some met)
    (reaches : ReachesPast host name passed module provider)
    (held : host.find? module.path = some module) :
    ReachesPast host name (⟨met.path, name⟩ :: passed) module provider ∨ provider = met ∨
      ∃ next, Relays host met next ∧
        ReachesPast host name (⟨met.path, name⟩ :: passed) next provider := by
  have new {other : Module} (different : other.path ≠ met.path)
      (fresh : ⟨other.path, name⟩ ∉ passed) :
      (⟨other.path, name⟩ : ExportKey) ∉ ⟨met.path, name⟩ :: passed := by
    intro member
    rcases List.mem_cons.mp member with same | earlier
    · exact different (congrArg ExportKey.path same)
    · exact fresh earlier
  have same {other : Module} (otherHeld : host.find? other.path = some other)
      (samePath : other.path = met.path) : other = met := by
    rw [samePath, metHeld] at otherHeld
    exact (Option.some.inj otherHeld).symm
  induction reaches with
  | @here module fresh =>
      by_cases samePath : module.path = met.path
      · exact .inr (.inl (same held samePath))
      · exact .inl (.here (new samePath fresh))
  | @through module found provider fresh unowned relays _ ih =>
      rcases ih relays.find? with past | later
      · by_cases samePath : module.path = met.path
        · rw [same held samePath] at relays
          exact .inr (.inr ⟨found, relays, past⟩)
        · exact .inl (.through (new samePath fresh) unowned relays past)
      · exact .inr later

end Ways

/-! ### Asking one source after another -/

/-- An answer that ends the search: a value, or a failure that is no missing export. -/
def isDecisive : Except Failure Value → Bool
  | .ok _ => true
  | .error failure => !failure.cause.isExportMissing

theorem isDecisive_error (failure : Failure) :
    isDecisive (.error failure) = !failure.cause.isExportMissing := rfl

def sourceAnswer (context : Context) (solve : Task → Outcome) (target : Module) (name : String)
    (visited : Visited) (trail : Trail) (count : Nat) (source : String × Loc) :
    Except Failure Value :=
  match context.host.fetch source.1 target.path with
  | .ok found => (solve ⟨.exported found name target source.2, visited, count :: trail⟩).result
  | .error message => .error (.within target source.2 (.host message))

def sourceAnswers (context : Context) (solve : Task → Outcome) (target : Module) (name : String)
    (visited : Visited) (trail : Trail) : Nat → List (String × Loc) → List (Except Failure Value)
  | _, [] => []
  | count, source :: rest =>
      sourceAnswer context solve target name visited trail count source ::
        sourceAnswers context solve target name visited trail (count + 1) rest

section Asking

variable {context : Context} {solve : Task → Outcome} {target : Module} {name : String}
  {visited : Visited} {trail : Trail} {expired : Moment → Bool}

theorem mem_sourceAnswers {count : Nat} {sources : List (String × Loc)}
    {answer : Except Failure Value}
    (present : answer ∈ sourceAnswers context solve target name visited trail count sources) :
    ∃ source ∈ sources, ∃ number,
      answer = sourceAnswer context solve target name visited trail number source := by
  induction sources generalizing count with
  | nil => cases present
  | cons first rest ih =>
      rcases List.mem_cons.mp present with same | later
      · exact ⟨first, List.mem_cons_self, count, same⟩
      · obtain ⟨source, inRest, number, same⟩ := ih later
        exact ⟨source, List.mem_cons_of_mem _ inRest, number, same⟩

private theorem sourceAnswer_mem {count : Nat} {sources : List (String × Loc)}
    {source : String × Loc} (present : source ∈ sources) :
    ∃ number, sourceAnswer context solve target name visited trail number source ∈
      sourceAnswers context solve target name visited trail count sources := by
  induction sources generalizing count with
  | nil => cases present
  | cons first rest ih =>
      rcases List.mem_cons.mp present with same | later
      · subst same
        exact ⟨count, List.mem_cons_self⟩
      · obtain ⟨number, inRest⟩ := @ih (count + 1) later
        exact ⟨number, List.mem_cons_of_mem _ inRest⟩

theorem sourceAnswer_of_resolve {found : Module} {source : String × Loc}
    (resolved : context.host.fetch source.1 target.path = .ok found) (count : Nat) :
    sourceAnswer context solve target name visited trail count source =
      (solve ⟨.exported found name target source.2, visited, count :: trail⟩).result := by
  unfold sourceAnswer
  rw [resolved]

/-- The first decisive answer counts, and without one the name is missing. -/
theorem wildcards_result (running : ∀ moment, expired moment = false) (missing : Failure)
    (count : Nat) (sources : List (String × Loc)) :
    ((Plan.wildcards context target name visited missing sources).follow expired solve trail
        count).result =
      ((sourceAnswers context solve target name visited trail count sources).find?
        isDecisive).getD (.error missing) := by
  induction sources generalizing count with
  | nil => rfl
  | cons source rest ih =>
      obtain ⟨specifier, loc⟩ := source
      unfold Plan.wildcards Plan.withModule sourceAnswers sourceAnswer
      rw [Plan.follow_timed (running _)]
      cases resolved : context.host.fetch specifier target.path with
      | error message => rfl
      | ok found =>
          simp only [Plan.follow, Outcome.after]
          cases answered :
              (solve ⟨.exported found name target loc, visited, count :: trail⟩).result with
          | ok value => rfl
          | error failure =>
              cases missed : failure.cause.isExportMissing with
              | true =>
                  simp only [missed, if_true, isDecisive_error, List.find?_cons, Bool.not_true]
                  exact ih (count + 1)
              | false =>
                  simp only [missed, Bool.false_eq_true, if_false, isDecisive_error,
                    List.find?_cons, Bool.not_false]
                  rfl

end Asking

private theorem provided_eq_none {body : List Stmt} {name : String}
    (noDefault : name = "default" → defaultExport? body = none) :
    (if name = "default" then defaultExport? body else none) = none := by
  split
  · rename_i isDefault
    exact noDefault isDefault
  · rfl

/-- A module that has nothing under a name passes the lookup on. -/
theorem exported_of_not_owns {context : Context} {target : Module} {name : String}
    (unowned : ¬ Owns target name) (requester : Module) (loc : Loc)
    {visited entered : Visited}
    (entering : visited.enterExport context.guards ⟨target.path, name⟩ = some entered) :
    Plan.exported context target name requester loc visited =
      Plan.wildcards context target name entered
        (.within requester loc (.exportNotFound name target.path))
        (wildcardSources target.body) := by
  obtain ⟨noDefault, undeclared, unlisted⟩ := not_owns_iff.mp unowned
  simp only [Plan.exported, entering, provided_eq_none noDefault, Plan.namedExport, undeclared,
    unlisted]

theorem declared_of_string (context : Context) {known : Variable}
    {declaration : VariableDeclaration} {index : Nat} {binding : Binding} {mark : Mark}
    {text : String} (last : known.definitions.getLast? = some (.declarator declaration index))
    (found : declaration.declarators[index]? = some ⟨.name binding, some (.string mark text)⟩)
    (loc : Loc) (environment : Environment) (visited : Visited) :
    ∃ inner, Plan.declared context known loc environment visited =
      Plan.become (.expression (.string mark text) inner) visited := by
  refine ⟨environment.withScope
    ((environment.module.scopes.enclosing? declaration.mark.id).getD known.scope), ?_⟩
  simp only [Plan.declared, last, found, Plan.declarator]

/-- A module that has a string under a name goes on with it. -/
theorem exported_of_text {context : Context} {target : Module} {name text : String}
    (owned : ownText? target name = some text) (requester : Module) (loc : Loc)
    {visited entered : Visited}
    (entering : visited.enterExport context.guards ⟨target.path, name⟩ = some entered) :
    ∃ mark environment, Plan.exported context target name requester loc visited =
      Plan.become (.expression (.string mark text) environment) entered := by
  obtain ⟨noDefault, known, declaration, index, binding, mark, declared, last, found⟩ :=
    ownText?_eq_some owned
  obtain ⟨environment, plan⟩ := declared_of_string context last found target.program.mark.loc
    (.ofModule target) entered
  refine ⟨mark, environment, ?_⟩
  simp only [Plan.exported, entering, provided_eq_none noDefault, Plan.namedExport, declared, plan]

/-- A module that has a string under a name gives it, if a step is left for it. -/
theorem follow_exported_of_text {host : Host} {options : Options} {clock : Clock}
    (running : Context.Unhurried ⟨host, options, .all, clock⟩) {target : Module}
    {name text : String}
    (owned : ownText? target name = some text) (requester : Module) (loc : Loc)
    {visited entered : Visited}
    (entering : visited.enterExport .all ⟨target.path, name⟩ = some entered) (budget : Nat)
    (trail : Trail) :
    let context : Context := ⟨host, options, .all, clock⟩
    let result := ((Plan.exported context target name requester loc visited).follow
      context.expired (solve context budget) trail 0).result
    result = .ok (.text text) ∨ ∃ failure, result = .error failure ∧
      failure.cause.isCutOff = true := by
  obtain ⟨mark, environment, plan⟩ := @exported_of_text ⟨host, options, .all, clock⟩ _ _ _ owned
    requester loc _ _ entering
  simp only [plan, Plan.become, Plan.follow, Outcome.after]
  cases budget with
  | zero =>
      rw [solve_zero (running _)]
      exact .inr ⟨_, rfl, by rw [Goal.failure_cause]; rfl⟩
  | succ budget =>
      rw [solve_succ (running _)]
      exact .inl rfl

/-! ### The whole search -/

/-- How a lookup ends, past what was passed already: with a string that a module reached has, cut
off, or for want of the name everywhere it could still go. -/
inductive SearchEnds (host : Host) (name : String) (passed : List ExportKey) (start : Module) :
    Except Failure Value → Prop
  | text {provider : Module} {text : String} :
      Reaches host name start provider → ownText? provider name = some text →
        SearchEnds host name passed start (.ok (.text text))
  | cutOff {failure : Failure} :
      failure.cause.isCutOff = true → SearchEnds host name passed start (.error failure)
  | missing {failure : Failure} :
      failure.cause.isExportMissing = true →
        (∀ provider, ReachesPast host name passed start provider → ¬ Owns provider name) →
          SearchEnds host name passed start (.error failure)

def Searchable (host : Host) (name : String) (start : Module) : Prop :=
  ∀ reached, Reaches host name start reached →
    (Owns reached name → (ownText? reached name).isSome) ∧
      (¬ Owns reached name → Loadable host reached)

theorem Searchable.relayed {host : Host} {name : String} {start found : Module}
    (searchable : Searchable host name start) (unowned : ¬ Owns start name)
    (relays : Relays host start found) : Searchable host name found :=
  fun reached way => searchable reached (.through unowned relays way)

section Searching

variable {host : Host} {options : Options} {clock : Clock} {name : String}

/-- An answer that does not end the search says that there is nothing behind the source. -/
theorem SearchEnds.nothing_behind {passed : List ExportKey} {start : Module}
    {answer : Except Failure Value} (ends : SearchEnds host name passed start answer)
    (undecided : isDecisive answer = false) {provider : Module}
    (way : ReachesPast host name passed start provider) : ¬ Owns provider name := by
  cases ends with
  | text _ _ => cases undecided
  | cutOff cut =>
      rw [isDecisive_error, Cause.isExportMissing_of_isCutOff cut] at undecided
      cases undecided
  | missing _ nothing => exact nothing provider way

/-- An answer that ends the search of a source ends that of the module. -/
theorem SearchEnds.relayed {passed deeper : List ExportKey} {module found : Module}
    {answer : Except Failure Value} (ends : SearchEnds host name deeper found answer)
    (decisive : isDecisive answer = true) (unowned : ¬ Owns module name)
    (relays : Relays host module found) : SearchEnds host name passed module answer := by
  cases ends with
  | text way owned => exact .text (.through unowned relays way) owned
  | cutOff cut => exact .cutOff cut
  | missing missed _ =>
      rw [isDecisive_error, missed] at decisive
      cases decisive

/-- One step of the search, from how it ends at the sources. -/
theorem searchEnds_of_sources {solve : Task → Outcome} {target : Module} {passed : List ExportKey}
    {entered : Visited} {trail : Trail} (held : host.find? target.path = some target)
    (unowned : ¬ Owns target name) (loadable : Loadable host target)
    (sources : ∀ found loc innerTrail, Relays host target found →
      SearchEnds host name (⟨target.path, name⟩ :: passed) found
        (solve ⟨.exported found name target loc, entered, innerTrail⟩).result)
    {missing : Failure} (missed : missing.cause.isExportMissing = true) :
    SearchEnds host name passed target
      (((sourceAnswers ⟨host, options, .all, clock⟩ solve target name entered trail 0
        (wildcardSources target.body)).find? isDecisive).getD (.error missing)) := by
  cases first : (sourceAnswers ⟨host, options, .all, clock⟩ solve target name entered trail 0
      (wildcardSources target.body)).find? isDecisive with
  | some answer =>
      rw [Option.getD_some]
      have decisive := List.find?_some first
      obtain ⟨source, present, number, same⟩ := mem_sourceAnswers (List.mem_of_find?_eq_some first)
      obtain ⟨found, resolved⟩ := loadable.resolve present
      rw [sourceAnswer_of_resolve resolved] at same
      have relays : Relays host target found := ⟨source, present, resolved⟩
      rw [same] at decisive ⊢
      exact (sources found source.2 _ relays).relayed decisive unowned relays
  | none =>
      refine .missing missed ?_
      intro provider way
      -- The way leaves this module a last time, to a source that was asked in vain.
      rcases way.last held held with back | same | ⟨next, relays, onward⟩
      · exact absurd List.mem_cons_self back.not_mem
      · subst same
        exact unowned
      · have ⟨source, present, resolved⟩ := relays
        obtain ⟨number, asked⟩ : ∃ number,
            sourceAnswer ⟨host, options, .all, clock⟩ solve target name entered trail number
                source ∈
              sourceAnswers ⟨host, options, .all, clock⟩ solve target name entered trail 0
                (wildcardSources target.body) := sourceAnswer_mem present
        rw [sourceAnswer_of_resolve resolved] at asked
        have undecided := List.find?_eq_none.mp first _ asked
        exact (sources next source.2 _ relays).nothing_behind (Bool.eq_false_iff.mpr undecided)
          onward

theorem Visited.enterExport_of_not_mem {visited : Visited} {key : ExportKey}
    (fresh : key ∉ visited.exports) :
    visited.enterExport .all key = some { visited with exports := key :: visited.exports } := by
  unfold enterExport
  simp [fresh]

theorem Visited.enterExport_none {visited : Visited} {key : ExportKey}
    (refused : visited.enterExport .all key = none) : key ∈ visited.exports := by
  unfold enterExport at refused
  split at refused
  · rename_i repeated
    simpa [Guards.all] using repeated
  · cases refused

/-- A module that has nothing under a name answers as the first of its sources that decides. -/
theorem solve_of_not_owns (running : Context.Unhurried ⟨host, options, .all, clock⟩) (budget : Nat)
    {target : Module} (unowned : ¬ Owns target name) (requester : Module) (loc : Loc)
    {visited entered : Visited}
    (entering : visited.enterExport .all ⟨target.path, name⟩ = some entered) (trail : Trail) :
    (solve ⟨host, options, .all, clock⟩ (budget + 1)
        ⟨.exported target name requester loc, visited, trail⟩).result =
      ((sourceAnswers ⟨host, options, .all, clock⟩ (solve ⟨host, options, .all, clock⟩ budget)
          target name entered trail 0 (wildcardSources target.body)).find? isDecisive).getD
        (.error (.within requester loc (.exportNotFound name target.path))) := by
  rw [solve_succ (running _)]
  unfold Task.plan
  dsimp only
  rw [exported_of_not_owns unowned requester loc entering, wildcards_result running]

/-- A lookup that was passed already on the way to it is given up. -/
theorem solve_of_passed (running : Context.Unhurried ⟨host, options, .all, clock⟩) (budget : Nat)
    {target : Module} (requester : Module) (loc : Loc) {visited : Visited}
    (entering : visited.enterExport .all ⟨target.path, name⟩ = none) (trail : Trail) :
    (solve ⟨host, options, .all, clock⟩ (budget + 1)
        ⟨.exported target name requester loc, visited, trail⟩).result =
      .error (.within requester loc (.circularExport name target.path)) := by
  rw [solve_succ (running _)]
  simp only [Task.plan, Plan.exported, entering, Plan.fail, Plan.follow]

/-- Every lookup through re-exports ends as a search of what it could still reach. -/
theorem solve_searchEnds (running : Context.Unhurried ⟨host, options, .all, clock⟩) (budget : Nat)
    {target : Module} (held : host.find? target.path = some target)
    (searchable : Searchable host name target) (requester : Module) (loc : Loc) (visited : Visited)
    (trail : Trail) :
    SearchEnds host name visited.exports target
      (solve ⟨host, options, .all, clock⟩ budget
        ⟨.exported target name requester loc, visited, trail⟩).result := by
  induction budget generalizing target requester loc visited trail with
  | zero =>
      rw [solve_zero (running _)]
      exact .cutOff (by rw [Goal.failure_cause]; rfl)
  | succ budget ih =>
      cases entering : visited.enterExport .all ⟨target.path, name⟩ with
      | none =>
          have passed := Visited.enterExport_none entering
          rw [solve_of_passed running budget requester loc entering]
          exact .missing rfl fun provider way => absurd passed way.not_mem
      | some entered =>
          by_cases owned : Owns target name
          · obtain ⟨text, asText⟩ :=
              Option.isSome_iff_exists.mp ((searchable target .here).1 owned)
            rw [solve_succ (running _)]
            unfold Task.plan
            rcases follow_exported_of_text running asText requester loc entering
              budget trail with found | ⟨failure, failed, cut⟩
            · rw [found]
              exact .text .here asText
            · rw [failed]
              exact .cutOff cut
          · rw [solve_of_not_owns running budget owned requester loc entering]
            apply searchEnds_of_sources held owned ((searchable target .here).2 owned) _ rfl
            intro found place innerTrail relays
            have deeper := ih relays.find? (searchable.relayed owned relays) target place entered
              innerTrail
            obtain ⟨_, same⟩ := Visited.enterExport_all entering
            rw [same] at deeper ⊢
            exact deeper

/-- A search that finds nothing fails where the name was requested. -/
theorem solve_missing (running : Context.Unhurried ⟨host, options, .all, clock⟩) (budget : Nat)
    {target : Module}
    (unowned : ¬ Owns target name) (requester : Module) (loc : Loc) (visited : Visited)
    (fresh : ⟨target.path, name⟩ ∉ visited.exports) (trail : Trail)
    (undecided : isDecisive (solve ⟨host, options, .all, clock⟩ (budget + 1)
      ⟨.exported target name requester loc, visited, trail⟩).result = false) :
    (solve ⟨host, options, .all, clock⟩ (budget + 1)
        ⟨.exported target name requester loc, visited, trail⟩).result =
      .error (.within requester loc (.exportNotFound name target.path)) := by
  rw [solve_of_not_owns running budget unowned requester loc
    (Visited.enterExport_of_not_mem fresh)] at undecided ⊢
  cases first : (sourceAnswers ⟨host, options, .all, clock⟩
      (solve ⟨host, options, .all, clock⟩ budget) target name
      { visited with exports := ⟨target.path, name⟩ :: visited.exports } trail 0
      (wildcardSources target.body)).find? isDecisive with
  | none => rfl
  | some answer =>
      rw [first, Option.getD_some, List.find?_some first] at undecided
      cases undecided

end Searching

/-! ### Imports through re-exports -/

/-- A name used in a scope of a module stands for what another module exports. The place is that of
the imported name. -/
def Imports (host : Host) (page : Module) (scope : ScopeId) (used : String) (target : Module)
    (name : String) (place : Loc) : Prop :=
  ∃ known declaration kind localName,
    page.scopes.lookup scope used = some known ∧
      known.definitions.getLast? = some (.importBinding declaration kind name localName) ∧
        kind ≠ .everything ∧ localName.mark.loc = place ∧
          host.fetch declaration.source page.path = .ok target

theorem Imports.find? {host : Host} {page target : Module} {scope : ScopeId} {used name : String}
    {place : Loc} (imports : Imports host page scope used target name place) :
    host.find? target.path = some target := by
  obtain ⟨_, _, _, _, _, _, _, _, resolved⟩ := imports
  exact Host.mem_of_fetch resolved

/-- The use of an imported name asks for the export, with nothing on the way but the use. -/
theorem solve_import {host : Host} {options : Options} {clock : Clock}
    (running : Context.Unhurried ⟨host, options, .all, clock⟩)
    {page target : Module} {scope : ScopeId} {used name : String} {place : Loc}
    (imports : Imports host page scope used target name place) (mark : Mark) (budget : Nat) :
    (solve ⟨host, options, .all, clock⟩ (budget + 1)
        (startingTask (.identifier mark used) ⟨page, scope, none⟩)).result =
      (solve ⟨host, options, .all, clock⟩ budget ⟨.exported target name page place,
        ⟨[⟨⟨page.path, mark.id⟩, scope, none⟩], [], []⟩, [0]⟩).result := by
  obtain ⟨known, declaration, kind, localName, found, last, single, samePlace, resolved⟩ := imports
  have looked : (⟨page, scope, none⟩ : Environment).lookup used = some known := found
  have entered : Visited.empty.enterIdentifier .all ⟨⟨page.path, mark.id⟩, scope, none⟩ =
      some ⟨[⟨⟨page.path, mark.id⟩, scope, none⟩], [], []⟩ := rfl
  rw [solve_succ (running _)]
  simp only [startingTask, Task.plan, Plan.expression, Plan.identifier, Option.map_none, entered,
    looked, Plan.declared, last, if_neg single, Plan.withModule, Plan.follow_timed (running _),
    resolved, Plan.become, Plan.follow, Outcome.after, samePlace]

private theorem resolveText_of_text {context : Context} {value : Expr} {environment : Environment}
    {text : String} (answered : (solve context context.options.maxDepth
      (startingTask value environment)).result = .ok (.text text)) :
    (resolveText context value environment).result = .ok text := by
  unfold startingTask at answered
  simp only [resolveText, answered]

private theorem resolveText_of_failure {context : Context} {value : Expr}
    {environment : Environment}
    {failure : Failure} (answered : (solve context context.options.maxDepth
      (startingTask value environment)).result = .error failure) :
    (resolveText context value environment).result = .error failure := by
  unfold startingTask at answered
  simp only [resolveText, answered]

/-- An import that is not cut off has a text that a module reached has, or nothing reached has the
name and it is missing. -/
theorem resolveText_import_cases {host : Host} {options : Options} {clock : Clock}
    (running : Context.Unhurried ⟨host, options, .all, clock⟩) {page target : Module}
    {scope : ScopeId}
    {used name : String} {place : Loc}
    (imports : Imports host page scope used target name place)
    (searchable : Searchable host name target) (mark : Mark)
    (finished : (resolveText ⟨host, options, .all, clock⟩ (.identifier mark used)
      ⟨page, scope, none⟩).isCutOff = false) :
    let result :=
      (resolveText ⟨host, options, .all, clock⟩ (.identifier mark used) ⟨page, scope, none⟩).result
    (∃ provider text, Reaches host name target provider ∧ ownText? provider name = some text ∧
        result = .ok text) ∨
      ((∀ provider, Reaches host name target provider → ¬ Owns provider name) ∧
        result = .error (.within page place (.exportNotFound name target.path))) := by
  rw [resolveText_isCutOff] at finished
  cases depth : options.maxDepth with
  | zero =>
      dsimp only at finished
      rw [depth, solve_zero (running _), Task.refused_isCutOff] at finished
      cases finished
  | succ budget =>
      have asked := solve_import running imports mark budget
      have ends := solve_searchEnds running budget imports.find? searchable page place
        ⟨[⟨⟨page.path, mark.id⟩, scope, none⟩], [], []⟩ [0]
      cases answered : (solve ⟨host, options, .all, clock⟩ budget ⟨.exported target name page place,
          ⟨[⟨⟨page.path, mark.id⟩, scope, none⟩], [], []⟩, [0]⟩).result with
      | ok value =>
          rw [answered] at asked ends
          cases ends with
          | text way owned =>
              rw [← depth] at asked
              exact .inl ⟨_, _, way, owned, resolveText_of_text asked⟩
      | error failure =>
          rw [answered] at asked ends
          cases ends with
          | cutOff cut =>
              dsimp only at finished
              rw [depth, Outcome.isCutOff, asked] at finished
              exact absurd (finished.symm.trans cut) Bool.false_ne_true
          | missing missed nothing =>
              right
              refine ⟨fun provider way => nothing provider way.past_nil, ?_⟩
              have unowned := nothing target (.here List.not_mem_nil)
              cases budget with
              | zero =>
                  rw [solve_zero (running _)] at answered
                  cases answered
                  rw [Goal.failure_cause] at missed
                  cases missed
              | succ budget =>
                  have exact := solve_missing running budget unowned page place
                    ⟨[⟨⟨page.path, mark.id⟩, scope, none⟩], [], []⟩
                    List.not_mem_nil [0] (by rw [answered, isDecisive_error, missed]; rfl)
                  rw [answered] at exact
                  rw [← depth, exact] at asked
                  exact resolveText_of_failure asked

/-- Let every module that re-exports lead to, past those that have the name, have it as a string or
have nothing under it but sources that are there. From some budget on, the imported name has a text
if and only if some module is reached that has the name, the text is that of such a module, and
otherwise the export is missing where it was imported. -/
theorem resolveText_import_iff_reaches (memory : MemoryHost) {page target : Module}
    {scope : ScopeId} {used name : String} {place : Loc}
    (imports : Imports memory page scope used target name place)
    (searchable : Searchable memory name target) (mark : Mark) :
    ∃ least, ∀ (options : Options) (clock : Clock),
      Context.Unhurried ⟨memory, options, .all, clock⟩ → least ≤ options.maxDepth →
        let result := (resolveText ⟨memory, options, .all, clock⟩ (.identifier mark used)
          ⟨page, scope, none⟩).result
        ((∃ text, result = .ok text) ↔
            ∃ provider, Reaches memory name target provider ∧ Owns provider name) ∧
          (∀ text, result = .ok text → ∃ provider, Reaches memory name target provider ∧
            ownText? provider name = some text) ∧
          ((∀ provider, Reaches memory name target provider → ¬ Owns provider name) →
            result = .error (.within page place (.exportNotFound name target.path))) := by
  obtain ⟨least, finishes⟩ :=
    resolveText_not_isCutOff_of_large_budget memory page (.identifier mark used) scope
  refine ⟨least, fun options clock running enough => ?_⟩
  have finished := finishes options clock enough
  rcases resolveText_import_cases running imports searchable mark finished with
    ⟨provider, text, way, owned, found⟩ | ⟨nothing, missing⟩
  · dsimp only
    rw [found]
    refine ⟨⟨fun _ => ⟨provider, way, owns_of_text owned⟩, fun _ => ⟨text, rfl⟩⟩, ?_, ?_⟩
    · intro other same
      cases same
      exact ⟨provider, way, owned⟩
    · intro nothing
      exact absurd (owns_of_text owned) (nothing provider way)
  · dsimp only
    rw [missing]
    refine ⟨⟨?_, ?_⟩, ?_, fun _ => rfl⟩
    · rintro ⟨text, impossible⟩
      cases impossible
    · rintro ⟨provider, way, owned⟩
      exact absurd owned (nothing provider way)
    · intro text impossible
      cases impossible

def relaying (sources : List String) : Program :=
  ⟨numbered 0, sources.mapIdx fun index source =>
    .exportList ⟨numbered (index + 1), false, .all none, some source⟩, ⟨[]⟩⟩

/-- It re-exports `/left.ts`, which leads back here and to itself, and `/right.ts`, which leads to
`/left.ts` before it leads to the text. -/
def cyclicIndex : Module := .ofProgram "/index.ts" (relaying ["/left.ts", "/right.ts"])

def cyclicHost : MemoryHost :=
  (((MemoryHost.empty.insert "/text.ts" ⟨numbered 0, [.variables ⟨numbered 1, true, .constant,
      [⟨.name ⟨numbered 2, "all"⟩, some (.string (numbered 3) "*")⟩], []⟩], ⟨[]⟩⟩).insert
    "/right.ts" (relaying ["/left.ts", "/text.ts"])).insert
    "/left.ts" (relaying ["/index.ts", "/left.ts"])).insert
    cyclicIndex.path cyclicIndex.program

theorem text_found_behind_cycles :
    Imports cyclicHost importingModule ScopeTree.root "all" cyclicIndex "all" .nowhere ∧
      Searchable cyclicHost "all" cyclicIndex ∧
        ∃ least, ∀ (options : Options) (clock : Clock),
          Context.Unhurried ⟨cyclicHost, options, .all, clock⟩ → least ≤ options.maxDepth →
            ∃ text, (resolveText ⟨cyclicHost, options, .all, clock⟩
              (.identifier (numbered 9) "all")
              ⟨importingModule, ScopeTree.root, none⟩).result = .ok text := by
  have imports : Imports cyclicHost importingModule ScopeTree.root "all" cyclicIndex "all"
      .nowhere := ⟨_, _, _, _, rfl, rfl, by decide, rfl, rfl⟩
  have held : cyclicIndex ∈ cyclicHost.host := rfl
  have searchable : Searchable cyclicHost "all" cyclicIndex := by
    have everywhere : ∀ module ∈ cyclicHost.modules,
        (Owns module "all" → (ownText? module "all").isSome) ∧
          (¬ Owns module "all" → Loadable cyclicHost module) := by decide +kernel
    exact fun reached way => everywhere reached (MemoryHost.mem_modules (way.mem held))
  have reached : ∃ provider, Reaches cyclicHost "all" cyclicIndex provider ∧
      Owns provider "all" := by
    refine ⟨_, .through (by decide +kernel)
      ⟨("/right.ts", .nowhere), List.mem_cons_of_mem _ List.mem_cons_self, rfl⟩
      (.through (by decide +kernel)
        ⟨("/text.ts", .nowhere), List.mem_cons_of_mem _ List.mem_cons_self, rfl⟩ .here),
      by decide +kernel⟩
  obtain ⟨least, always⟩ :=
    resolveText_import_iff_reaches cyclicHost imports searchable (numbered 9)
  exact ⟨imports, searchable, least, fun options clock running enough =>
    (always options clock running enough).1.mpr reached⟩

end QueryTypes.Resolution
