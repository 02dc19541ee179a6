import Mathlib.Logic.Relation
import QueryTypes.Resolution.Plan

/-!
What a module exports under a name by the rules of ECMAScript.

`resolveExport` is ResolveExport of the language's specification, on the statements of modules: what
a module exports is what its statements say that it exports, a `default` is not passed on by a
re-export of everything, and sources that provide different bindings make a name ambiguous. The
modules and names asked for are collected along the whole search and not only along the way, so a
second request for the same one finds nothing.
-/

set_option autoImplicit false

namespace QueryTypes.Scoping

def Definition.isDeclarator : Definition → Bool
  | .declarator _ _ => true
  | _ => false

def Definition.text? : Definition → Option String
  | .declarator declaration index =>
      match declaration.declarators[index]? with
      | some ⟨.name _, some (.string _ text)⟩ => some text
      | _ => none
  | _ => none

end QueryTypes.Scoping

namespace QueryTypes.Resolution

open QueryTypes.Script
open QueryTypes.Scoping
open QueryTypes.Modules

/-! ### What a module exports -/

inductive ExportForm where
  /-- A name of the module itself, which may be an imported one. -/
  | binding (localName : String)
  /-- A default export without a name in the module. -/
  | anonymous
  /-- What another module exports under a name. -/
  | indirect (source imported : String)
  /-- Another module as one object. -/
  | everything (source : String)
deriving DecidableEq

def exportedBy : Stmt → List (String × ExportForm)
  | .variables ⟨_, true, _, declarators, _⟩ =>
      (declarators.flatMap fun declarator => declarator.pattern.bindings).map fun binding =>
        (binding.name, .binding binding.name)
  | .function ⟨_, _, true, some binding, _⟩ => [("default", .binding binding.name)]
  | .function ⟨_, _, true, none, _⟩ => [("default", .anonymous)]
  | .function ⟨_, true, false, some binding, _⟩ => [(binding.name, .binding binding.name)]
  | .exportDefault _ _ => [("default", .anonymous)]
  | .exportList ⟨_, _, .some names, none⟩ =>
      names.map fun name => (name.exported, .binding name.target)
  | .exportList ⟨_, _, .some names, some source⟩ =>
      names.map fun name => (name.exported, .indirect source name.target)
  | .exportList ⟨_, _, .all (some binding), some source⟩ => [(binding.name, .everything source)]
  | _ => []

/-- The ways in which a module exports a name. There is at most one in a module without early
errors. -/
def exportForms (module : Module) (name : String) : List ExportForm :=
  ((module.body.flatMap exportedBy).filter fun entry => entry.1 == name).map (·.2)

/-! ### Bindings -/

inductive BindingName where
  | named (name : String)
  | default
  | everything
deriving DecidableEq

structure ExportBinding where
  path : String
  name : BindingName
deriving DecidableEq

/-- The text that a variable is initialized with by the last of its declarators, if nothing but
declarators defines it. -/
def initialText? (known : Variable) : Option String :=
  if known.definitions.all Definition.isDeclarator then
    known.definitions.getLast?.bind Definition.text?
  else none

def bindingText? (module : Module) : BindingName → Option String
  | .named name => (module.scopes.declared? ScopeTree.root name).bind initialText?
  | .default =>
      match defaultExport? module.body with
      | some (.expression (.string _ text)) => some text
      | _ => none
  | .everything => none

def ExportBinding.text? (host : Host) (binding : ExportBinding) : Option String :=
  (host.find? binding.path).bind fun module => bindingText? module binding.name

/-! ### ResolveExport -/

/-- What is known of an export without looking at other modules. -/
inductive ExportStep where
  | found (binding : ExportBinding)
  /-- The export is that of another module. -/
  | passed (next : ExportKey)
  /-- Each of some modules may provide the name. -/
  | spread (keys : List ExportKey)
deriving DecidableEq

def ExportStep.requests : ExportStep → List ExportKey
  | .found _ => []
  | .passed next => [next]
  | .spread keys => keys

def linked? (host : Host) (module : Module) (source : String) : Option String :=
  match host.fetch source module.path with
  | .ok found => some found.path
  | .error _ => none

/-- A name of a module itself: what it was imported as, if it was, and else its own binding. -/
def bindingStep? (host : Host) (module : Module) (localName : String) : Option ExportStep :=
  match module.scopes.declared? ScopeTree.root localName with
  | none => none
  | some known =>
      match known.definitions with
      | [.importBinding declaration kind imported _] =>
          if kind = .everything then some (.found ⟨module.path, .named localName⟩)
          else (linked? host module declaration.source).map fun path => .passed ⟨path, imported⟩
      | _ => some (.found ⟨module.path, .named localName⟩)

def formStep? (host : Host) (module : Module) : ExportForm → Option ExportStep
  | .binding localName => bindingStep? host module localName
  | .anonymous => some (.found ⟨module.path, .default⟩)
  | .indirect source imported =>
      (linked? host module source).map fun path => .passed ⟨path, imported⟩
  | .everything source =>
      (linked? host module source).map fun path => .found ⟨path, .everything⟩

def sourceKeys? (host : Host) (module : Module) (name : String) :
    List (String × Source.Loc) → Option (List ExportKey)
  | [] => some []
  | source :: rest =>
      match linked? host module source.1, sourceKeys? host module name rest with
      | some path, some keys => some (⟨path, name⟩ :: keys)
      | _, _ => none

/-- Nothing if a module is missing or has an early error. -/
def exportStep? (host : Host) (key : ExportKey) : Option ExportStep :=
  match host.find? key.path with
  | none => none
  | some module =>
      match exportForms module key.name with
      | [form] => formStep? host module form
      | [] =>
          if key.name = "default" then some (.spread [])
          else (sourceKeys? host module key.name (wildcardSources module.body)).map .spread
      | _ :: _ :: _ => none

inductive ExportResult where
  | missing
  | ambiguous
  | found (binding : ExportBinding)
deriving DecidableEq

/-- Asks one module after another. All that have the name have to agree on the binding. -/
def resolveAmong (ask : ExportKey → List ExportKey → Option (ExportResult × List ExportKey)) :
    List ExportKey → (star : Option ExportBinding) → List ExportKey →
      Option (ExportResult × List ExportKey)
  | [], none, asked => some (.missing, asked)
  | [], some binding, asked => some (.found binding, asked)
  | next :: rest, star, asked =>
      match ask next asked with
      | none => none
      | some (.missing, asked) => resolveAmong ask rest star asked
      | some (.ambiguous, asked) => some (.ambiguous, asked)
      | some (.found binding, asked) =>
          if star = none ∨ star = some binding then resolveAmong ask rest (some binding) asked
          else some (.ambiguous, asked)

/-- ResolveExport, with the requests made so far. The fuel bounds how deep requests nest; there is
no answer without enough of it. -/
def resolveExport (host : Host) : (fuel : Nat) → ExportKey → List ExportKey →
    Option (ExportResult × List ExportKey)
  | 0, _, _ => none
  | fuel + 1, key, asked =>
      if asked.contains key then some (.missing, asked)
      else
        match exportStep? host key with
        | none => none
        | some (.found binding) => some (.found binding, key :: asked)
        | some (.passed next) => resolveExport host fuel next (key :: asked)
        | some (.spread keys) => resolveAmong (resolveExport host fuel) keys none (key :: asked)

/-- A module's export under a name is a binding, and one only. -/
def Designates (host : Host) (key : ExportKey) (binding : ExportBinding) : Prop :=
  ∃ fuel asked, resolveExport host fuel key [] = some (.found binding, asked)

private theorem resolveAmong_congr {first second : ExportKey → List ExportKey →
      Option (ExportResult × List ExportKey)}
    (agree : ∀ key asked answer, first key asked = some answer → second key asked = some answer)
    {keys : List ExportKey} {star : Option ExportBinding} {asked : List ExportKey}
    {answer : ExportResult × List ExportKey}
    (resolved : resolveAmong first keys star asked = some answer) :
    resolveAmong second keys star asked = some answer := by
  induction keys generalizing star asked with
  | nil =>
      cases star with
      | none => exact resolved
      | some binding => exact resolved
  | cons next rest ih =>
      unfold resolveAmong at resolved ⊢
      cases answered : first next asked with
      | none =>
          rw [answered] at resolved
          cases resolved
      | some result =>
          obtain ⟨result, later⟩ := result
          rw [answered] at resolved
          rw [agree _ _ _ answered]
          cases result with
          | missing => exact ih resolved
          | ambiguous => exact resolved
          | found binding =>
              dsimp only at resolved ⊢
              split
              · rename_i same
                rw [if_pos same] at resolved
                exact ih resolved
              · rename_i different
                rw [if_neg different] at resolved
                exact resolved

/-- More fuel changes no answer. -/
theorem resolveExport_of_le {host : Host} {fuel larger : Nat} (fuel_le : fuel ≤ larger)
    {key : ExportKey} {asked : List ExportKey} {answer : ExportResult × List ExportKey}
    (resolved : resolveExport host fuel key asked = some answer) :
    resolveExport host larger key asked = some answer := by
  induction fuel generalizing larger key asked answer with
  | zero => cases resolved
  | succ fuel ih =>
      obtain ⟨larger, rfl⟩ := Nat.exists_eq_succ_of_ne_zero (Nat.ne_zero_of_lt fuel_le)
      have deeper := @ih larger (Nat.le_of_succ_le_succ fuel_le)
      unfold resolveExport at resolved ⊢
      split
      · rename_i repeated
        rw [if_pos repeated] at resolved
        exact resolved
      · rename_i new
        rw [if_neg new] at resolved
        cases here : exportStep? host key with
        | none =>
            rw [here] at resolved
            cases resolved
        | some step =>
            rw [here] at resolved
            cases step with
            | found binding => exact resolved
            | passed next => exact deeper resolved
            | spread keys => exact resolveAmong_congr (fun _ _ _ => deeper) resolved

/-- An export designates one binding at most. -/
theorem Designates.unique {host : Host} {key : ExportKey} {binding other : ExportBinding}
    (designates : Designates host key binding) (also : Designates host key other) :
    binding = other := by
  obtain ⟨fuel, asked, resolved⟩ := designates
  obtain ⟨otherFuel, otherAsked, otherResolved⟩ := also
  have first := resolveExport_of_le (Nat.le_max_left fuel otherFuel) resolved
  have second := resolveExport_of_le (Nat.le_max_right fuel otherFuel) otherResolved
  rw [first] at second
  cases second
  rfl

/-! ### The requests of a search -/

def Leads (host : Host) (key next : ExportKey) : Prop :=
  ∃ step, exportStep? host key = some step ∧ next ∈ step.requests

def Asks (host : Host) : ExportKey → ExportKey → Prop := Relation.ReflTransGen (Leads host)

/-- The requests that were added to those before lead to each other and to earlier ones only, and
the bindings they find are the one given. -/
structure Explored (host : Host) (before after : List ExportKey) (star : Option ExportBinding) :
    Prop where
  grows : before ⊆ after
  closed : ∀ key ∈ after, key ∉ before → ∃ step, exportStep? host key = some step ∧
    step.requests ⊆ after ∧ ∀ binding, step = .found binding → star = some binding

def ExportResult.star : ExportResult → Option ExportBinding
  | .found binding => some binding
  | _ => none

section Exploring

variable {host : Host}

theorem Explored.refl (asked : List ExportKey) (star : Option ExportBinding) :
    Explored host asked asked star :=
  ⟨List.Subset.refl asked, fun _ present new => absurd present new⟩

/-- One part of a search after another, the second one agreeing with what the first one found. -/
theorem Explored.trans {before between after : List ExportKey} {early late : Option ExportBinding}
    (first : Explored host before between early) (second : Explored host between after late)
    (agree : ∀ binding, early = some binding → late = some binding) :
    Explored host before after late where
  grows := List.Subset.trans first.grows second.grows
  closed := by
    intro key present new
    by_cases earlier : key ∈ between
    · obtain ⟨step, here, inside, found⟩ := first.closed key earlier new
      exact ⟨step, here, List.Subset.trans inside second.grows,
        fun binding same => agree binding (found binding same)⟩
    · exact second.closed key present earlier

/-- A request that finds no binding itself, and whose own requests were all made. -/
theorem Explored.enter {key : ExportKey} {before after : List ExportKey}
    {star : Option ExportBinding} (explored : Explored host (key :: before) after star)
    {step : ExportStep} (here : exportStep? host key = some step)
    (inside : step.requests ⊆ after) (unfound : ∀ binding, step ≠ .found binding) :
    Explored host before after star where
  grows := fun _ present => explored.grows (List.mem_cons_of_mem _ present)
  closed := by
    intro other present new
    by_cases same : other = key
    · subst same
      exact ⟨step, here, inside, fun binding found => absurd found (unfound binding)⟩
    · apply explored.closed other present
      intro earlier
      rcases List.mem_cons.mp earlier with equal | older
      · exact same equal
      · exact new older

section Among

variable {ask : ExportKey → List ExportKey → Option (ExportResult × List ExportKey)}

private theorem resolveAmong_explored {keys : List ExportKey}
    (each : ∀ next ∈ keys, ∀ before result after, ask next before = some (result, after) →
      result ≠ .ambiguous → next ∈ after ∧ Explored host before after result.star)
    {star : Option ExportBinding} {before after : List ExportKey} {result : ExportResult}
    (resolved : resolveAmong ask keys star before = some (result, after))
    (unique : result ≠ .ambiguous) :
    keys ⊆ after ∧ Explored host before after result.star ∧
      ∀ binding, star = some binding → result.star = some binding := by
  induction keys generalizing star before with
  | nil =>
      cases star with
      | none =>
          cases resolved
          exact ⟨List.nil_subset _, .refl _ _, nofun⟩
      | some binding =>
          cases resolved
          exact ⟨List.nil_subset _, .refl _ _, fun _ same => same⟩
  | cons next rest ih =>
      have later := fun other present => each other (List.mem_cons_of_mem _ present)
      unfold resolveAmong at resolved
      split at resolved
      · cases resolved
      · rename_i between answered
        obtain ⟨here, first⟩ := each next List.mem_cons_self _ _ _ answered nofun
        obtain ⟨others, second, kept⟩ := ih later resolved
        exact ⟨List.cons_subset.mpr ⟨second.grows here, others⟩, first.trans second nofun, kept⟩
      · cases resolved
        exact absurd rfl unique
      · rename_i binding between answered
        obtain ⟨here, first⟩ := each next List.mem_cons_self _ _ _ answered nofun
        split at resolved
        · rename_i agree
          obtain ⟨others, second, kept⟩ := ih later resolved
          refine ⟨List.cons_subset.mpr ⟨second.grows here, others⟩, first.trans second ?_, ?_⟩
          · intro other same
            cases same
            exact kept _ rfl
          · intro other same
            rcases agree with nothing | equal
            · rw [nothing] at same
              cases same
            · rw [equal] at same
              cases same
              exact kept _ rfl
        · cases resolved
          exact absurd rfl unique

/-- A binding found among several modules is one that was found before or that one of them has. -/
theorem resolveAmong_found {keys : List ExportKey} {star : Option ExportBinding}
    {before after : List ExportKey} {binding : ExportBinding}
    (resolved : resolveAmong ask keys star before = some (.found binding, after)) :
    star = some binding ∨ ∃ next ∈ keys, ∃ earlier later,
      ask next earlier = some (.found binding, later) := by
  induction keys generalizing star before with
  | nil =>
      cases star with
      | none => cases resolved
      | some known =>
          cases resolved
          exact .inl rfl
  | cons next rest ih =>
      unfold resolveAmong at resolved
      split at resolved
      · cases resolved
      · rcases ih resolved with known | ⟨other, present, asked⟩
        · exact .inl known
        · exact .inr ⟨other, List.mem_cons_of_mem _ present, asked⟩
      · cases resolved
      · rename_i known between answered
        split at resolved
        · rcases ih resolved with same | ⟨other, present, asked⟩
          · cases same
            exact .inr ⟨next, List.mem_cons_self, _, _, answered⟩
          · exact .inr ⟨other, List.mem_cons_of_mem _ present, asked⟩
        · cases resolved

end Among

/-- A search that is not ambiguous made the request it started with, and explored all that it
leads to. -/
theorem resolveExport_explored {fuel : Nat} {key : ExportKey} {before after : List ExportKey}
    {result : ExportResult} (resolved : resolveExport host fuel key before = some (result, after))
    (unique : result ≠ .ambiguous) : key ∈ after ∧ Explored host before after result.star := by
  induction fuel generalizing key before result after with
  | zero => cases resolved
  | succ fuel ih =>
      unfold resolveExport at resolved
      split at resolved
      · rename_i repeated
        cases resolved
        exact ⟨List.contains_iff_mem.mp repeated, .refl _ _⟩
      · split at resolved
        · cases resolved
        · rename_i binding here
          cases resolved
          refine ⟨List.mem_cons_self, List.subset_cons_self _ _, ?_⟩
          intro other present new
          rcases List.mem_cons.mp present with same | earlier
          · subst same
            refine ⟨_, here, List.nil_subset _, fun _ same => ?_⟩
            cases same
            rfl
          · exact absurd earlier new
        · rename_i next here
          obtain ⟨asked, inside⟩ := ih resolved unique
          exact ⟨inside.grows List.mem_cons_self,
            inside.enter here (List.cons_subset.mpr ⟨asked, List.nil_subset _⟩) nofun⟩
        · rename_i keys here
          obtain ⟨asked, inside, _⟩ := resolveAmong_explored
            (fun next _ before result after answered => ih answered) resolved unique
          exact ⟨inside.grows List.mem_cons_self, inside.enter here asked nofun⟩

/-- A binding that was found is that of a module which the search came to. -/
theorem resolveExport_found {fuel : Nat} {key : ExportKey} {before after : List ExportKey}
    {binding : ExportBinding}
    (resolved : resolveExport host fuel key before = some (.found binding, after)) :
    ∃ provider, Asks host key provider ∧
      exportStep? host provider = some (.found binding) := by
  induction fuel generalizing key before after with
  | zero => cases resolved
  | succ fuel ih =>
      unfold resolveExport at resolved
      split at resolved
      · cases resolved
      · split at resolved
        · cases resolved
        · rename_i here
          cases resolved
          exact ⟨key, .refl, here⟩
        · rename_i next here
          obtain ⟨provider, asked, there⟩ := ih resolved
          exact ⟨provider, .head ⟨_, here, List.mem_cons_self⟩ asked, there⟩
        · rename_i keys here
          rcases resolveAmong_found resolved with impossible | ⟨next, present, _, _, answered⟩
          · cases impossible
          · obtain ⟨provider, asked, there⟩ := ih answered
            exact ⟨provider, .head ⟨_, here, present⟩ asked, there⟩

/-- A search that is not ambiguous made all the requests that there are. -/
theorem asks_mem {fuel : Nat} {key : ExportKey} {result : ExportResult} {all : List ExportKey}
    (resolved : resolveExport host fuel key [] = some (result, all)) (unique : result ≠ .ambiguous)
    {asked : ExportKey} (asks : Asks host key asked) : asked ∈ all := by
  obtain ⟨start, explored⟩ := resolveExport_explored resolved unique
  induction asks with
  | refl => exact start
  | tail _ leads ih =>
      obtain ⟨step, here, requested⟩ := leads
      obtain ⟨same, there, requests, _⟩ := explored.closed _ ih List.not_mem_nil
      rw [here] at there
      cases there
      exact requests requested

/-- Where an export designates a binding, finitely many requests are made, no module with another
binding of its own is come to, and a module with that binding is. -/
theorem Designates.explored {key : ExportKey} {binding : ExportBinding}
    (designates : Designates host key binding) :
    ∃ all : List ExportKey,
      (∀ asked, Asks host key asked → asked ∈ all ∧ ∃ step, exportStep? host asked = some step ∧
        ∀ other, step = .found other → other = binding) ∧
      ∃ provider, Asks host key provider ∧
        exportStep? host provider = some (.found binding) := by
  obtain ⟨fuel, all, resolved⟩ := designates
  obtain ⟨_, explored⟩ := resolveExport_explored resolved nofun
  refine ⟨all, ?_, resolveExport_found resolved⟩
  intro asked asks
  have known := asks_mem resolved nofun asks
  obtain ⟨step, here, _, found⟩ := explored.closed asked known List.not_mem_nil
  exact ⟨known, step, here, fun other same => (Option.some.inj (found other same)).symm⟩

end Exploring

end QueryTypes.Resolution
