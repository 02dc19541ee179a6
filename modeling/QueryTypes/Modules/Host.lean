import QueryTypes.Modules.Path
import QueryTypes.Scoping.Tree

/-!
Modules, and the ways from an import specifier to one. Programs in memory are one such way.
-/

set_option autoImplicit false

namespace QueryTypes.Modules

open QueryTypes.Script
open QueryTypes.Source
open QueryTypes.Scoping

structure Module where
  path : String
  program : Program
  scopes : ScopeTree

namespace Module

def ofProgram (path : String) (program : Program) : Module := ⟨path, program, bind program⟩

def body (module : Module) : List Stmt := module.program.body

def range (module : Module) (loc : Loc) : Range := module.program.lines.range loc

end Module

/-- The way from an import specifier to a program: first to a path, then to what is there. Either
part may fail, with a text that says why. -/
structure Host where
  resolve : (specifier importer : String) → Except String String
  load : (path : String) → Except String Program

namespace Host

def module (host : Host) (path : String) : Except String Module :=
  (host.load path).map (.ofProgram path)

def find? (host : Host) (path : String) : Option Module := (host.module path).toOption

def fetch (host : Host) (specifier importer : String) : Except String Module :=
  (host.resolve specifier importer).bind host.module

/-- The modules of a host are those that it loads under their own paths. -/
instance : Membership Module Host where
  mem host module := host.find? module.path = some module

section Finding

variable {host : Host} {specifier importer path : String} {found : Module}

theorem module_of_find? (held : host.find? path = some found) : host.module path = .ok found := by
  unfold find? at held
  cases given : host.module path with
  | ok other =>
      rw [given] at held
      rw [Option.some.inj held]
  | error message =>
      rw [given] at held
      cases held

theorem fetch_eq_ok_iff :
    host.fetch specifier importer = .ok found ↔
      ∃ path, host.resolve specifier importer = .ok path ∧ host.find? path = some found := by
  unfold fetch
  cases resolved : host.resolve specifier importer with
  | error message => simp [Except.bind]
  | ok path =>
      constructor
      · intro given
        exact ⟨path, rfl, congrArg Except.toOption given⟩
      · rintro ⟨other, same, held⟩
        cases same
        exact module_of_find? held

theorem exists_load (held : host.find? path = some found) :
    ∃ program, host.load path = .ok program ∧ found = .ofProgram path program := by
  have given := module_of_find? held
  unfold module at given
  cases loaded : host.load path with
  | ok program =>
      rw [loaded] at given
      cases given
      exact ⟨program, rfl, rfl⟩
  | error message =>
      rw [loaded] at given
      cases given

theorem mem_of_find? (held : host.find? path = some found) : found ∈ host := by
  obtain ⟨program, _, rfl⟩ := exists_load held
  exact held

theorem mem_of_fetch (fetched : host.fetch specifier importer = .ok found) : found ∈ host := by
  obtain ⟨path, _, held⟩ := fetch_eq_ok_iff.mp fetched
  exact mem_of_find? held

theorem scopes_of_mem (held : found ∈ host) : found.scopes = bind found.program := by
  obtain ⟨program, _, same⟩ := exists_load held
  rw [same]
  rfl

end Finding

end Host

/-- Programs by path, the first one of a path counts. -/
structure MemoryHost where
  programs : List (String × Program)

namespace MemoryHost

def empty : MemoryHost := ⟨[]⟩

def contains (memory : MemoryHost) (path : String) : Bool := (memory.programs.lookup path).isSome

def insert (memory : MemoryHost) (path : String) (program : Program) : MemoryHost :=
  ⟨(path, program) :: memory.programs.filter fun held => held.1 != path⟩

def modules (memory : MemoryHost) : List Module :=
  memory.programs.map fun held => .ofProgram held.1 held.2

/-- What may be added to a specifier to name a file, in the order in which it is tried. -/
def endings : List String :=
  ["", ".ts", ".tsx", ".js", ".jsx", ".mjs", "/index.ts", "/index.tsx", "/index.js"]

def unresolvedText (specifier importer : String) : String :=
  "Cannot find module \"" ++ specifier ++ "\" from " ++ importer

def missingText (path : String) : String := "missing module " ++ path

/-- The path that a specifier names in the importing file: the first ending that leads to a module
counts. -/
def resolve (memory : MemoryHost) (specifier importer : String) : Except String String :=
  let base := if Path.isRelative specifier then Path.join importer specifier else specifier
  match (endings.map (base ++ ·)).find? memory.contains with
  | some path => .ok path
  | none => .error (unresolvedText specifier importer)

def load (memory : MemoryHost) (path : String) : Except String Program :=
  match memory.programs.lookup path with
  | some program => .ok program
  | none => .error (missingText path)

def host (memory : MemoryHost) : Host := ⟨memory.resolve, memory.load⟩

instance : Coe MemoryHost Host := ⟨host⟩

theorem mem_modules {memory : MemoryHost} {module : Module} (held : module ∈ memory.host) :
    module ∈ memory.modules := by
  obtain ⟨program, loaded, same⟩ := Host.exists_load held
  change memory.load module.path = .ok program at loaded
  unfold load at loaded
  split at loaded
  · rename_i found
    cases loaded
    obtain ⟨before, after, split, _⟩ := List.lookup_eq_some_iff.mp found
    rw [same, modules, split]
    exact List.mem_map.mpr ⟨_, List.mem_append_right _ List.mem_cons_self, rfl⟩
  · cases loaded

end MemoryHost

end QueryTypes.Modules
