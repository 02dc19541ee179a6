import Mathlib.Data.List.Infix
import QueryTypes.Proofs.Resolution.ExportSteps
import QueryTypes.Proofs.Resolution.FirstProvider

/-!
Lookups of exports that agree with the rules of ECMAScript.

A lookup notes only what is on its way, and takes the first source that has the name, so modules
behind it may be as they like. Since all sources that have the name agree, and a way that comes
back to a module leaves it a last time, the lookup ends with the binding that is designated, as
long as each of its steps is one that the language prescribes.
-/

set_option autoImplicit false

namespace QueryTypes.Resolution

open QueryTypes.Script
open QueryTypes.Source
open QueryTypes.Scoping
open QueryTypes.Modules

/-! ### The search -/

inductive AsksPast (host : Host) (passed : List ExportKey) : ExportKey → ExportKey → Prop
  | here {key : ExportKey} : key ∉ passed → AsksPast host passed key key
  | through {key next provider : ExportKey} :
      key ∉ passed → Leads host key next → AsksPast host passed next provider →
        AsksPast host passed key provider

/-- No request that is still to be made finds a binding. -/
def Barren (host : Host) (passed : List ExportKey) (key : ExportKey) : Prop :=
  ∀ provider, AsksPast host passed key provider →
    ∀ binding, exportStep? host provider ≠ some (.found binding)

section Ways

variable {host : Host} {passed : List ExportKey} {key provider : ExportKey}

theorem Asks.past_nil (asks : Asks host key provider) : AsksPast host [] key provider := by
  induction asks using Relation.ReflTransGen.head_induction_on with
  | refl => exact .here List.not_mem_nil
  | head leads _ ih => exact .through List.not_mem_nil leads ih

theorem AsksPast.not_mem (way : AsksPast host passed key provider) : key ∉ passed := by
  cases way with
  | here new => exact new
  | through new _ _ => exact new

/-- A way that comes to a request leaves it a last time. -/
theorem AsksPast.last (way : AsksPast host passed key provider) (met : ExportKey) :
    AsksPast host (met :: passed) key provider ∨ provider = met ∨
      ∃ next, Leads host met next ∧ AsksPast host (met :: passed) next provider := by
  have new {other : ExportKey} (different : other ≠ met) (fresh : other ∉ passed) :
      other ∉ met :: passed :=
    fun present => (List.mem_cons.mp present).elim different fresh
  induction way with
  | @here key fresh =>
      by_cases same : key = met
      · exact .inr (.inl same)
      · exact .inl (.here (new same fresh))
  | @through key next provider fresh leads _ ih =>
      rcases ih with past | later
      · by_cases same : key = met
        · subst same
          exact .inr (.inr ⟨next, leads, past⟩)
        · exact .inl (.through (new same fresh) leads past)
      · exact .inr later

/-- A request that finds nothing itself, and whose own requests are barren after it. -/
theorem Barren.of_requests {step : ExportStep} (here : exportStep? host key = some step)
    (unfound : ∀ binding, step ≠ .found binding)
    (behind : ∀ next ∈ step.requests, Barren host (key :: passed) next) :
    Barren host passed key := by
  intro provider way binding found
  -- The way starts at the request, and may come back to it; what counts is where it leaves it last.
  rcases way.last key with past | same | ⟨next, ⟨known, there, requested⟩, onward⟩
  · exact past.not_mem List.mem_cons_self
  · rw [same, here] at found
    exact unfound binding (Option.some.inj found)
  · rw [here] at there
    cases there
    exact behind next requested provider onward binding found

end Ways

/-! ### What a lookup comes to -/

inductive ExportStep.ComesTo (host : Host) (passed : List ExportKey) :
    ExportStep → ExportKey → Prop
  | passed {next : ExportKey} : ComesTo host passed (.passed next) next
  | first {next : ExportKey} {later : List ExportKey} :
      ComesTo host passed (.spread (next :: later)) next
  | later {earlier next : ExportKey} {others : List ExportKey} :
      Barren host passed earlier → ComesTo host passed (.spread others) next →
        ComesTo host passed (.spread (earlier :: others)) next

theorem ExportStep.ComesTo.mem {host : Host} {passed : List ExportKey} {step : ExportStep}
    {next : ExportKey} (comes : step.ComesTo host passed next) : next ∈ step.requests := by
  induction comes with
  | passed => exact List.mem_singleton_self _
  | first => exact List.mem_cons_self
  | later _ _ ih => exact List.mem_cons_of_mem _ ih

/-- The requests that a lookup comes to, each with those on the way to it. It turns to a source only
when there is nothing in the sources before, and to no source after the first one with the name. -/
inductive LooksUp (host : Host) (start : ExportKey) : List ExportKey → ExportKey → Prop
  | start : LooksUp host start [] start
  | next {passed : List ExportKey} {key next : ExportKey} {step : ExportStep} :
      LooksUp host start passed key → key ∉ passed → exportStep? host key = some step →
        step.ComesTo host (key :: passed) next → LooksUp host start (key :: passed) next

theorem LooksUp.asks {host : Host} {start key : ExportKey} {passed : List ExportKey}
    (looks : LooksUp host start passed key) : Asks host start key := by
  induction looks with
  | start => exact .refl
  | next _ _ here comes ih => exact ih.tail ⟨_, here, comes.mem⟩

/-- A top-level variable that has the name asked for leads where the export of that name leads, or
is initialized with the text; and a `default` that the module lacks is not to be had behind its
re-exports either. -/
structure Regular (host : Host) (text : String) (module : Module) (name : String) : Prop where
  topLevel : (module.scopes.declared? ScopeTree.root name).isSome →
    bindingStep? host module name = exportStep? host ⟨module.path, name⟩ ∨
      ownText? module name = some text
  default : name = "default" → exportForms module name = [] → Fruitless host name module

/-! ### How lookups end -/

/-- How a lookup ends: with the text, or for want of the name, where nothing is left to find. -/
inductive LookupEnds (nothing : Prop) (text : String) : Except Failure Value → Prop
  | text : LookupEnds nothing text (.ok (.text text))
  | missing {failure : Failure} :
      failure.cause.isExportMissing = true → nothing → LookupEnds nothing text (.error failure)

theorem LookupEnds.imp {nothing other : Prop} {text : String} {answer : Except Failure Value}
    (ends : LookupEnds nothing text answer) (weaker : nothing → other) :
    LookupEnds other text answer := by
  cases ends with
  | text => exact .text
  | missing missed here => exact .missing missed (weaker here)

section Searching

variable {host : Host} {options : Options} {clock : Clock} {text : String}

/-- A lookup in one source after another, from how the lookups in the sources end. -/
theorem wildcards_end (running : Context.Unhurried ⟨host, options, .all, clock⟩) {module : Module}
    {name : String} {entered : Visited} {passed : List ExportKey} {solve : Task → Outcome}
    {trail : Trail} {missing : Failure} (missed : missing.cause.isExportMissing = true)
    {sources : List (String × Loc)} {keys : List ExportKey}
    (asked : sourceKeys? host module name sources = some keys)
    (answers : ∀ found, (ExportStep.spread keys).ComesTo host passed ⟨found.path, name⟩ →
      host.find? found.path = some found → ∀ place trail,
        LookupEnds (Barren host passed ⟨found.path, name⟩) text
          (solve ⟨.exported found name module place, entered, trail⟩).result)
    (count : Nat) :
    LookupEnds (∀ key ∈ keys, Barren host passed key) text
      ((Plan.wildcards ⟨host, options, .all, clock⟩ module name entered missing sources).follow
        (Context.expired ⟨host, options, .all, clock⟩) solve trail count).result := by
  induction sources generalizing keys count with
  | nil =>
      cases asked
      exact .missing missed (List.forall_mem_nil _)
  | cons source rest ih =>
      obtain ⟨specifier, loc⟩ := source
      unfold sourceKeys? at asked
      split at asked
      · rename_i path others linked later
        cases asked
        obtain ⟨found, fetched, rfl⟩ := linked?_resolve linked
        have ends := answers found .first (Host.mem_of_fetch fetched) loc (count :: trail)
        unfold Plan.wildcards Plan.withModule
        rw [Plan.follow_timed (running _)]
        dsimp only at fetched ⊢
        rw [fetched]
        simp only [Plan.follow, Outcome.after]
        cases answered :
            (solve ⟨.exported found name module loc, entered, count :: trail⟩).result with
        | ok value =>
            rw [answered] at ends
            cases ends with
            | text => exact .text
        | error failure =>
            rw [answered] at ends
            cases ends with
            | missing passedOver barren =>
                dsimp only
                rw [if_pos passedOver]
                -- The next source is come to since there is nothing behind this one.
                refine (ih later (fun other comes => answers other (.later barren comes))
                  (count + 1)).imp fun onward key present => ?_
                rcases List.mem_cons.mp present with rfl | inRest
                · exact barren
                · exact onward key inRest
      · cases asked

/-- One step of a lookup, from how those it comes to end. -/
theorem Carries.follow_ends (running : Context.Unhurried ⟨host, options, .all, clock⟩)
    {module : Module} {name : String} {entered : Visited} {step : ExportStep} {plan : Plan}
    {passed : List ExportKey} {solve : Task → Outcome}
    (carries : Carries ⟨host, options, .all, clock⟩ module name text entered step plan)
    (here : exportStep? host ⟨module.path, name⟩ = some step)
    (strings : ∀ mark environment trail,
      (solve ⟨.expression (.string mark text) environment, entered, trail⟩).result =
        .ok (.text text))
    (answers : ∀ found asked,
      step.ComesTo host (⟨module.path, name⟩ :: passed) ⟨found.path, asked⟩ →
        host.find? found.path = some found → ∀ place trail,
          LookupEnds (Barren host (⟨module.path, name⟩ :: passed) ⟨found.path, asked⟩) text
            (solve ⟨.exported found asked module place, entered, trail⟩).result)
    (trail : Trail) :
    LookupEnds (Barren host passed ⟨module.path, name⟩) text
      (plan.follow (Context.expired ⟨host, options, .all, clock⟩) solve trail 0).result := by
  cases carries with
  | found =>
      simp only [Plan.become, Plan.follow, Outcome.after, strings]
      exact .text
  | @passed found asked place late held =>
      rw [Plan.follow_timed (running _)]
      simp only [Plan.become, Plan.follow, Outcome.after]
      refine (answers found asked .passed held place (0 :: trail)).imp fun barren => ?_
      refine Barren.of_requests here (fun _ same => by cases same) fun next requested => ?_
      rw [List.mem_singleton.mp requested]
      exact barren
  | @spread keys missing asked missed =>
      exact (wildcards_end running missed asked (fun found => answers found name) 0).imp
        (Barren.of_requests here fun _ same => by cases same)

/-- A module that has a string under a name gives it. -/
theorem solve_of_ownText (running : Context.Unhurried ⟨host, options, .all, clock⟩)
    {target : Module} {name : String} (owned : ownText? target name = some text)
    (requester : Module) (loc : Loc) {visited : Visited}
    (fresh : ⟨target.path, name⟩ ∉ visited.exports) (budget : Nat) (trail : Trail) :
    (solve ⟨host, options, .all, clock⟩ (budget + 2)
      ⟨.exported target name requester loc, visited, trail⟩).result = .ok (.text text) := by
  obtain ⟨mark, environment, plan⟩ := @exported_of_text ⟨host, options, .all, clock⟩ _ _ _ owned
    requester loc _ _ (Visited.enterExport_of_not_mem fresh)
  rw [solve_succ (running _)]
  simp only [Task.plan, plan, Plan.become, Plan.follow, Outcome.after]
  rw [solve_succ (running _)]
  rfl

/-- A lookup in a module that does not provide the name ends, and finds it missing. -/
theorem Fruitless.solve_missing (running : Context.Unhurried ⟨host, options, .all, clock⟩)
    {name : String} {keys : List ExportKey}
    (known : ∀ module ∈ host, ⟨module.path, name⟩ ∈ keys) (budget : Nat) {target : Module}
    (fruitless : Fruitless host name target) (held : target ∈ host) (requester : Module)
    (loc : Loc) (visited : Visited) (trail : Trail)
    (enough : remaining keys visited.exports < budget) :
    ∃ failure, (solve ⟨host, options, .all, clock⟩ budget
      ⟨.exported target name requester loc, visited, trail⟩).result = .error failure ∧
        failure.cause.isExportMissing = true := by
  induction budget generalizing target requester loc visited trail with
  | zero => exact absurd enough (Nat.not_lt_zero _)
  | succ budget ih =>
      cases entering : visited.enterExport .all ⟨target.path, name⟩ with
      | none => exact ⟨_, solve_of_passed running budget requester loc entering trail, rfl⟩
      | some entered =>
          obtain ⟨fresh, rfl⟩ := Visited.enterExport_all entering
          have less := Nat.lt_of_lt_of_le (remaining_cons_lt (known target held) fresh)
            (Nat.lt_succ_iff.mp enough)
          have unowned : ¬ Owns target name := fun owns => fruitless.nothing (.itself owns)
          rw [solve_of_not_owns running budget unowned requester loc entering]
          cases first : (sourceAnswers ⟨host, options, .all, clock⟩
              (solve ⟨host, options, .all, clock⟩ budget) target name
              { visited with exports := ⟨target.path, name⟩ :: visited.exports } trail 0
              (wildcardSources target.body)).find? isDecisive with
          | none => exact ⟨_, rfl, rfl⟩
          | some answer =>
              obtain ⟨source, present, number, same⟩ :=
                mem_sourceAnswers (List.mem_of_find?_eq_some first)
              obtain ⟨found, fetched⟩ := (fruitless.loadable target .here).resolve present
              have relays : Relays host target found := ⟨source, present, fetched⟩
              obtain ⟨failure, failed, missed⟩ := ih (fruitless.relayed unowned relays)
                (Host.mem_of_fetch fetched) target source.2
                { visited with exports := ⟨target.path, name⟩ :: visited.exports }
                (number :: trail) less
              have decisive := List.find?_some first
              rw [same, sourceAnswer_of_resolve fetched, failed, isDecisive_error, missed]
                at decisive
              cases decisive

/-- In the language a module without a default export has no `default`, whatever it re-exports. -/
private theorem barren_of_formless {target : Module} (held : host.find? target.path = some target)
    (formless : exportForms target "default" = []) (passed : List ExportKey) :
    Barren host passed ⟨target.path, "default"⟩ := by
  have nowhere : exportStep? host ⟨target.path, "default"⟩ = some (.spread []) := by
    simp only [exportStep?, held, formless, if_true]
  exact .of_requests nowhere (fun _ same => by cases same) (List.forall_mem_nil _)

/-- A request that is known, has a step, and under which its module is regular. A binding that it
finds has the text. -/
structure Followable (host : Host) (text : String) (all : List ExportKey) (key : ExportKey) :
    Prop where
  known : key ∈ all
  step : ∃ step, exportStep? host key = some step ∧
    ∀ binding, step = .found binding → binding.text? host = some text
  regular : ∀ module ∈ host.find? key.path, Regular host text module key.name

/-- A lookup with a budget for all requests that are left ends with the text, or there is none. -/
theorem solve_lookupEnds (running : Context.Unhurried ⟨host, options, .all, clock⟩)
    (linkable : ∀ module ∈ host, ValuesOnly module) {start : ExportKey} {all : List ExportKey}
    (defaults : ∀ module ∈ host, ⟨module.path, "default"⟩ ∈ all)
    (followable : ∀ passed key, LooksUp host start passed key → key ∉ passed →
      Followable host text all key)
    (budget : Nat) {target : Module} {name : String}
    (held : host.find? target.path = some target) (requester : Module) (loc : Loc)
    (visited : Visited) (looks : LooksUp host start visited.exports ⟨target.path, name⟩)
    (trail : Trail) (enough : remaining all visited.exports < budget) :
    LookupEnds (Barren host visited.exports ⟨target.path, name⟩) text
      (solve ⟨host, options, .all, clock⟩ budget
        ⟨.exported target name requester loc, visited, trail⟩).result := by
  induction budget generalizing target name requester loc visited trail with
  | zero => exact absurd enough (Nat.not_lt_zero _)
  | succ budget ih =>
      cases entering : visited.enterExport .all ⟨target.path, name⟩ with
      | none =>
          have passed := Visited.enterExport_none entering
          rw [solve_of_passed running budget requester loc entering]
          exact .missing rfl fun provider way => absurd passed way.not_mem
      | some entered =>
          obtain ⟨fresh, rfl⟩ := Visited.enterExport_all entering
          obtain ⟨known, ⟨step, here, written⟩, regularly⟩ := followable _ _ looks fresh
          have regular := regularly target held
          -- Each step makes a request that is left, so the budget lasts as long as the requests.
          have less := Nat.lt_of_lt_of_le (remaining_cons_lt known fresh)
            (Nat.lt_succ_iff.mp enough)
          obtain ⟨left, rfl⟩ := Nat.exists_eq_succ_of_ne_zero (Nat.ne_zero_of_lt less)
          by_cases own : ownText? target name = some text
          · rw [solve_of_ownText running own requester loc fresh left trail]
            exact .text
          by_cases lacking : name = "default" ∧ exportForms target name = []
          · obtain ⟨rfl, formless⟩ := lacking
            obtain ⟨failure, failed, missed⟩ := (regular.default rfl formless).solve_missing
              running defaults (left + 2) held requester loc visited trail enough
            rw [failed]
            exact .missing missed (barren_of_formless held formless visited.exports)
          · rw [solve_succ (running _)]
            have carries := @exported_carries ⟨host, options, .all, clock⟩ _ _ _ _ _ held
              (linkable target held) (fun declared => (regular.topLevel declared).resolve_right own)
              (fun isDefault formless => lacking ⟨isDefault, formless⟩) here written requester loc
              visited entering
            refine carries.follow_ends running here ?_ ?_ trail
            · intro mark environment innerTrail
              rw [solve_succ (running _)]
              rfl
            · intro found asked comes foundHeld place innerTrail
              exact ih foundHeld target place
                { visited with exports := ⟨target.path, name⟩ :: visited.exports }
                (.next looks fresh here comes) innerTrail less

end Searching

/-- With enough budget and time, a module's export is looked up as a text, whatever else is on the
way to the lookup. -/
def ExportGives (host : Host) (target : Module) (name text : String) : Prop :=
  ∃ least, ∀ (options : Options) (clock : Clock),
    Context.Unhurried ⟨host, options, .all, clock⟩ → ∀ budget, least ≤ budget →
      ∀ requester loc identifiers calls trail,
        (solve ⟨host, options, .all, clock⟩ budget
          ⟨.exported target name requester loc, ⟨identifiers, [], calls⟩, trail⟩).result =
            .ok (.text text)

section Giving

variable {host : Host} {target : Module} {name text other : String}

theorem ExportGives.unique (gives : ExportGives host target name text)
    (also : ExportGives host target name other) : text = other := by
  obtain ⟨least, first⟩ := gives
  obtain ⟨otherLeast, second⟩ := also
  have never : Context.Unhurried ⟨host, .standard, .all, .stopped⟩ := fun _ => rfl
  have here := first .standard .stopped never _ (Nat.le_max_left least otherLeast) target .nowhere
    [] [] []
  have there := second .standard .stopped never _ (Nat.le_max_right least otherLeast) target
    .nowhere [] [] []
  rw [here] at there
  cases there
  rfl

/-- A top-level variable is taken first, exported or not. -/
theorem exportGives_of_ownText (owned : ownText? target name = some text) :
    ExportGives host target name text := by
  refine ⟨2, ?_⟩
  intro options clock running budget enough requester loc identifiers calls trail
  obtain ⟨left, rfl⟩ := Nat.exists_eq_add_of_le' enough
  exact solve_of_ownText running owned requester loc List.not_mem_nil left trail

/-- Where an export designates a binding that is initialized with a string, and each module that the
lookup comes to is regular, it is looked up as that string. -/
theorem exportGives_of_designates {paths : List String}
    (finite : ∀ module ∈ host, module.path ∈ paths)
    (linkable : ∀ module ∈ host, ValuesOnly module) (held : target ∈ host)
    {binding : ExportBinding} (designates : Designates host ⟨target.path, name⟩ binding)
    (initialized : binding.text? host = some text)
    (regular : ∀ passed key, LooksUp host ⟨target.path, name⟩ passed key → key ∉ passed →
      ∀ module ∈ host.find? key.path, Regular host text module key.name) :
    ExportGives host target name text := by
  obtain ⟨all, searched, provider, provides, found⟩ := designates.explored
  -- A `default` is looked for also where ResolveExport does not go.
  let known := all ++ paths.map fun path => (⟨path, "default"⟩ : ExportKey)
  have defaults : ∀ module ∈ host, ⟨module.path, "default"⟩ ∈ known := fun module present =>
    List.mem_append_right _ (List.mem_map.mpr ⟨_, finite module present, rfl⟩)
  have followable (passed : List ExportKey) (key : ExportKey)
      (looks : LooksUp host ⟨target.path, name⟩ passed key) (fresh : key ∉ passed) :
      Followable host text known key := by
    obtain ⟨among, step, here, only⟩ := searched key looks.asks
    refine ⟨List.mem_append_left _ among, ⟨step, here, ?_⟩, regular passed key looks fresh⟩
    intro other same
    rw [only other same]
    exact initialized
  refine ⟨remaining known [] + 1, ?_⟩
  intro options clock running budget enough requester loc identifiers calls trail
  have ends := solve_lookupEnds running linkable defaults followable budget held requester loc
    ⟨identifiers, [], calls⟩ .start trail enough
  cases answered : (solve ⟨host, options, .all, clock⟩ budget
      ⟨.exported target name requester loc, ⟨identifiers, [], calls⟩, trail⟩).result with
  | ok value =>
      rw [answered] at ends
      cases ends with
      | text => rfl
  | error failure =>
      rw [answered] at ends
      cases ends with
      | missing _ barren => exact absurd found (barren provider provides.past_nil binding)

end Giving

/-- In a finite graph of modules, lookups of exports agree with ECMAScript where the modules come to
are regular. A top-level variable of the name that is initialized with a string is taken before
everything else. -/
theorem linked_export_value {host : Host} {paths : List String}
    (finite : ∀ module ∈ host, module.path ∈ paths)
    (linkable : ∀ module ∈ host, ValuesOnly module) {target : Module} (held : target ∈ host)
    (name : String) :
    (∀ binding text, Designates host ⟨target.path, name⟩ binding →
      binding.text? host = some text →
        (∀ passed key, LooksUp host ⟨target.path, name⟩ passed key → key ∉ passed →
          ∀ module ∈ host.find? key.path, Regular host text module key.name) →
            ExportGives host target name text) ∧
      ∀ text, ownText? target name = some text → ExportGives host target name text :=
  ⟨fun _ _ designates initialized regular =>
      exportGives_of_designates finite linkable held designates initialized regular,
    fun _ owned => exportGives_of_ownText owned⟩

def constant (id : NodeId) (exported : Bool) (name text : String) : Stmt :=
  .variables ⟨numbered id, exported, .constant,
    [⟨.name ⟨numbered (id + 1), name⟩, some (.string (numbered (id + 2)) text)⟩], []⟩

def againModule : Module :=
  .ofProgram "/again.ts" ⟨numbered 0, [.exportList ⟨numbered 1, false,
    .some [⟨numbered 2, "posts", "query"⟩], some "/index.ts"⟩], ⟨[]⟩⟩

/-- `/index.ts` leads back to itself, to `/barrel.ts`, which exports what it imports from
`/texts.ts`, and to `/late.ts`, which has a `posts` that it does not export. In `/texts.ts` the name
is that of an entry for a constant with another name. -/
def linkedHost : MemoryHost :=
  ⟨[(againModule.path, againModule.program),
    ("/index.ts", relaying ["/index.ts", "/barrel.ts", "/late.ts"]),
    ("/barrel.ts", ⟨numbered 0, [
      .imports ⟨numbered 1, false, none, some (.some [⟨"all", ⟨numbered 2, "kept"⟩⟩]), "/texts.ts"⟩,
      .exportList ⟨numbered 3, false, .some [⟨numbered 4, "kept", "posts"⟩], none⟩], ⟨[]⟩⟩),
    ("/texts.ts", ⟨numbered 0, [constant 1 false "base" "*",
      .exportList ⟨numbered 4, false, .some [⟨numbered 5, "base", "all"⟩], none⟩], ⟨[]⟩⟩),
    ("/late.ts", ⟨numbered 0, [constant 1 false "posts" "private"], ⟨[]⟩⟩)]⟩

def linkedWay : List ExportKey :=
  [⟨"/texts.ts", "all"⟩, ⟨"/barrel.ts", "posts"⟩, ⟨"/index.ts", "posts"⟩, ⟨"/again.ts", "query"⟩]

/-- The lookup does not come to `/late.ts`, since `/barrel.ts` has the name. -/
theorem mem_linkedWay {passed : List ExportKey} {key : ExportKey}
    (looks : LooksUp linkedHost ⟨"/again.ts", "query"⟩ passed key) (fresh : key ∉ passed) :
    key :: passed ∈ linkedWay.tails := by
  have provides : ¬ Barren linkedHost [⟨"/index.ts", "posts"⟩, ⟨"/again.ts", "query"⟩]
      ⟨"/barrel.ts", "posts"⟩ := fun barren =>
    barren ⟨"/texts.ts", "all"⟩
      (.through (by decide) ⟨.passed ⟨"/texts.ts", "all"⟩, by decide +kernel, List.mem_cons_self⟩
        (.here (by decide)))
      ⟨"/texts.ts", .named "base"⟩ (by decide +kernel)
  have taken {request : ExportKey} {step other : ExportStep}
      (here : exportStep? linkedHost request = some step)
      (known : exportStep? linkedHost request = some other) : step = other :=
    Option.some.inj (here.symm.trans known)
  induction looks with
  | start => decide
  | @next passed key next step _ new here comes ih =>
      have before := ih new
      simp only [linkedWay, List.tails, List.mem_cons, List.cons.injEq, List.not_mem_nil,
        reduceCtorEq, or_false] at before
      rcases before with ⟨rfl, rfl⟩ | ⟨rfl, rfl⟩ | ⟨rfl, rfl⟩ | ⟨rfl, rfl⟩
      · cases taken here (show _ = some (.found ⟨"/texts.ts", .named "base"⟩) by decide +kernel)
        cases comes
      · cases taken here (show _ = some (.passed ⟨"/texts.ts", "all"⟩) by decide +kernel)
        cases comes
        decide
      · cases taken here (show _ = some (.spread [⟨"/index.ts", "posts"⟩, ⟨"/barrel.ts", "posts"⟩,
          ⟨"/late.ts", "posts"⟩]) by decide +kernel)
        cases comes with
        | first => exact absurd List.mem_cons_self fresh
        | later _ comes =>
            cases comes with
            | first => decide
            | later barren _ => exact absurd barren provides
      · cases taken here (show _ = some (.passed ⟨"/index.ts", "posts"⟩) by decide +kernel)
        cases comes
        decide

theorem renamed_export_value :
    (∀ module ∈ linkedHost.host, module.path ∈ linkedHost.modules.map (·.path)) ∧
      (∀ module ∈ linkedHost.host, ValuesOnly module) ∧ againModule ∈ linkedHost.host ∧
        Designates linkedHost ⟨"/again.ts", "query"⟩ ⟨"/texts.ts", .named "base"⟩ ∧
          ExportGives linkedHost againModule "query" "*" := by
  have finite : ∀ module ∈ linkedHost.host, module.path ∈ linkedHost.modules.map (·.path) :=
    fun module present => List.mem_map_of_mem (MemoryHost.mem_modules present)
  have values : ∀ module ∈ linkedHost.modules, ValuesOnly module := by decide +kernel
  have linkable : ∀ module ∈ linkedHost.host, ValuesOnly module :=
    fun module present => values module (MemoryHost.mem_modules present)
  have designates : Designates linkedHost ⟨"/again.ts", "query"⟩ ⟨"/texts.ts", .named "base"⟩ :=
    ⟨5, ⟨"/late.ts", "posts"⟩ :: linkedWay, by decide +kernel⟩
  have topLevel : ∀ key ∈ linkedWay, ∀ module ∈ linkedHost.host.find? key.path,
      (module.scopes.declared? ScopeTree.root key.name).isSome →
        bindingStep? linkedHost module key.name =
          exportStep? linkedHost ⟨module.path, key.name⟩ := by decide +kernel
  have named : ∀ key ∈ linkedWay, key.name ≠ "default" := by decide
  have regular (passed : List ExportKey) (key : ExportKey)
      (looks : LooksUp linkedHost ⟨againModule.path, "query"⟩ passed key) (fresh : key ∉ passed) :
      ∀ module ∈ linkedHost.host.find? key.path, Regular linkedHost "*" module key.name := by
    have onWay : key ∈ linkedWay :=
      ((List.mem_tails _ _).mp (mem_linkedWay looks fresh)).subset List.mem_cons_self
    exact fun module found =>
      ⟨fun declared => .inl (topLevel key onWay module found declared),
        fun isDefault => absurd isDefault (named key onWay)⟩
  refine ⟨finite, linkable, rfl, designates, ?_⟩
  exact (linked_export_value finite linkable rfl "query").1 _ _ designates (by decide +kernel)
    regular

def shadowingModule : Module :=
  .ofProgram "/texts.ts" ⟨numbered 0, [constant 1 false "name" "private",
    constant 4 false "other" "exported",
    .exportList ⟨numbered 7, false, .some [⟨numbered 8, "other", "name"⟩], none⟩], ⟨[]⟩⟩

def shadowingHost : MemoryHost := ⟨[(shadowingModule.path, shadowingModule.program)]⟩

/-- A variable that is not exported hides an entry of an export list. -/
theorem private_variable_hides_export :
    (∀ module ∈ shadowingHost.host, ValuesOnly module) ∧ shadowingModule ∈ shadowingHost.host ∧
      Designates shadowingHost ⟨"/texts.ts", "name"⟩ ⟨"/texts.ts", .named "other"⟩ ∧
        ExportBinding.text? shadowingHost ⟨"/texts.ts", .named "other"⟩ = some "exported" ∧
          ¬ ExportGives shadowingHost shadowingModule "name" "exported" := by
  have values : ∀ module ∈ shadowingHost.modules, ValuesOnly module := by decide +kernel
  refine ⟨fun module present => values module (MemoryHost.mem_modules present), rfl, ⟨1, _, rfl⟩,
    rfl, fun gives => ?_⟩
  have own : ExportGives shadowingHost shadowingModule "name" "private" :=
    exportGives_of_ownText (by decide +kernel)
  exact absurd (gives.unique own) (by decide)

def collectingModule : Module :=
  .ofProgram "/all.ts" (relaying ["/named.ts", "/other.ts"])

/-- `/named.ts` has a name only by way of `/index.ts`, which has no default export itself. -/
def defaultHost : MemoryHost :=
  ⟨[(collectingModule.path, collectingModule.program),
    ("/named.ts", ⟨numbered 0, [.exportList ⟨numbered 1, false,
      .some [⟨numbered 2, "default", "all"⟩], some "/index.ts"⟩], ⟨[]⟩⟩),
    ("/index.ts", relaying ["/text.ts"]),
    ("/text.ts", ⟨numbered 0, [.exportDefault (numbered 1) (.string (numbered 2) "*")], ⟨[]⟩⟩),
    ("/other.ts", ⟨numbered 0, [constant 1 true "all" "other"], ⟨[]⟩⟩)]⟩

/-- Unlike in the language, a re-export of everything passes a default export on. -/
theorem default_export_passed_on :
    Designates defaultHost ⟨"/all.ts", "all"⟩ ⟨"/other.ts", .named "all"⟩ ∧
      ExportBinding.text? defaultHost ⟨"/other.ts", .named "all"⟩ = some "other" ∧
        (solve (.still defaultHost) 9
          ⟨.exported collectingModule "all" collectingModule .nowhere, .empty, []⟩).result =
            .ok (.text "*") := by
  have resolved : resolveExport defaultHost 3 ⟨"/all.ts", "all"⟩ [] =
      some (.found ⟨"/other.ts", .named "all"⟩, [⟨"/other.ts", "all"⟩, ⟨"/index.ts", "default"⟩,
        ⟨"/named.ts", "all"⟩, ⟨"/all.ts", "all"⟩]) := by decide +kernel
  exact ⟨⟨3, _, resolved⟩, by decide +kernel, rfl⟩

end QueryTypes.Resolution
