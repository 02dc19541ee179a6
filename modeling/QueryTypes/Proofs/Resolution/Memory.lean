import Mathlib.Logic.Equiv.Basic
import QueryTypes.Proofs.Resolution.Reexports
import QueryTypes.Resolution.Session

/-!
What a session's memory holds, and what computations do to it.

The modules kept are those that the host would give, each once, and how many evaluations are under
way is the same after a computation as before, also after one that fails. Frames get numbers here;
elsewhere they are called by the way to the evaluation that makes them. Ways of different frames
differ, so there is a renaming that gives each numbered frame its way and keeps all frames apart.
-/

set_option autoImplicit false

namespace QueryTypes.Resolution

open QueryTypes.Script
open QueryTypes.Source
open QueryTypes.Scoping
open QueryTypes.Modules

/-! ### Memory -/

namespace Memory

def paths (memory : Memory) : List String := memory.modules.map (·.path)

def Sound (host : Host) (memory : Memory) : Prop :=
  ∀ module ∈ memory.modules, module ∈ host

/-- A module that is known is the one that the host holds under its path. -/
theorem Sound.find? {host : Host} {memory : Memory} (sound : memory.Sound host) {path : String}
    {kept : Module} (known : memory.modules.find? (fun known => known.path == path) = some kept) :
    kept.path = path ∧ host.find? path = some kept := by
  have matching := List.find?_some known
  have samePath : kept.path = path := eq_of_beq matching
  have held : host.find? kept.path = some kept := sound kept (List.mem_of_find?_eq_some known)
  rw [samePath] at held
  exact ⟨samePath, held⟩

end Memory

def note (known : List String) (path : String) : List String :=
  if path ∈ known then known else known ++ [path]

/-- What becomes of the memory when some frames are made and some modules asked for. -/
structure Memory.Grows (host : Host) (frames : Nat) (loaded : List String) (before after : Memory) :
    Prop where
  sound : after.Sound host
  paths : after.paths = loaded.foldl note before.paths
  nextFrame : after.nextFrame = before.nextFrame + frames
  depth : after.depth = before.depth

theorem Memory.Grows.refl {host : Host} {memory : Memory} (sound : memory.Sound host) :
    Grows host 0 [] memory memory := ⟨sound, rfl, rfl, rfl⟩

theorem Memory.Grows.trans {host : Host} {frames others : Nat} {loaded later : List String}
    {before between after : Memory} (first : Grows host frames loaded before between)
    (second : Grows host others later between after) :
    Grows host (frames + others) (loaded ++ later) before after where
  sound := second.sound
  paths := by rw [second.paths, first.paths, List.foldl_append]
  nextFrame := by rw [second.nextFrame, first.nextFrame, Nat.add_assoc]
  depth := second.depth.trans first.depth

/-! ### Where frames are made -/

/-- Trails of frames that are made below a trail by the requests from some number on, and at the
trail itself if `own` says so. -/
structure Spread (own : Bool) (trail : Trail) (count : Nat) (made : List Trail) : Prop where
  distinct : made.Nodup
  below : ∀ way ∈ made, (own = true ∧ way = trail) ∨
    ∃ number, count ≤ number ∧ number :: trail <:+ way

section Spreading

variable {own : Bool} {trail : Trail} {count : Nat} {made later : List Trail}

theorem Spread.nil : Spread own trail count [] := ⟨List.nodup_nil, nofun⟩

theorem Spread.suffix (spread : Spread own trail count made) {way : Trail} (present : way ∈ made) :
    trail <:+ way := by
  rcases spread.below way present with ⟨_, rfl⟩ | ⟨number, _, deeper⟩
  · exact List.suffix_refl way
  · exact (List.suffix_cons number trail).trans deeper

/-- What one request makes is apart from what the evaluation itself and later requests make. -/
theorem Spread.after_request (distinct : made.Nodup)
    (below : ∀ way ∈ made, count :: trail <:+ way)
    (spread : Spread own trail (count + 1) later) : Spread own trail count (made ++ later) where
  distinct := by
    refine List.nodup_append.mpr ⟨distinct, spread.distinct, ?_⟩
    rintro way inMade _ inLater rfl
    have here := below way inMade
    -- A common trail would end in the numbers of two requests, or be too short.
    rcases spread.below way inLater with ⟨_, same⟩ | ⟨number, larger, there⟩
    · have longer := here.length_le
      rw [same, List.length_cons] at longer
      omega
    · have shorter := List.suffix_of_suffix_length_le here there (Nat.le_refl _)
      injection shorter.eq_of_length rfl with sameNumber _
      omega
  below := by
    intro way present
    rcases List.mem_append.mp present with inMade | inLater
    · exact .inr ⟨count, Nat.le_refl count, below way inMade⟩
    · rcases spread.below way inLater with here | ⟨number, larger, there⟩
      · exact .inl here
      · exact .inr ⟨number, Nat.le_of_succ_le larger, there⟩

/-- The evaluation's own frame is apart from what its requests make. -/
theorem Spread.after_frame (spread : Spread false trail count made) :
    Spread true trail count (trail :: made) where
  distinct := by
    refine List.nodup_cons.mpr ⟨fun present => ?_, spread.distinct⟩
    rcases spread.below trail present with ⟨impossible, _⟩ | ⟨number, _, deeper⟩
    · cases impossible
    · have longer := deeper.length_le
      rw [List.length_cons] at longer
      omega
  below := by
    intro way present
    rcases List.mem_cons.mp present with same | inMade
    · exact .inl ⟨rfl, same⟩
    · rcases spread.below way inMade with ⟨impossible, _⟩ | deeper
      · cases impossible
      · exact .inr deeper

end Spreading

/-- The frames numbered from some number on have these trails. -/
def Assigns (names : Trail → Trail) (first : Nat) (made : List Trail) : Prop :=
  ∀ index way, made[index]? = some way → names [first + index] = way

section Assigning

variable {names : Trail → Trail} {first : Nat} {made later : List Trail}

theorem Assigns.left (assigns : Assigns names first (made ++ later)) :
    Assigns names first made := by
  intro index way found
  obtain ⟨inside, _⟩ := List.getElem?_eq_some_iff.mp found
  exact assigns index way (by rw [List.getElem?_append_left inside, found])

theorem Assigns.right (assigns : Assigns names first (made ++ later)) :
    Assigns names (first + made.length) later := by
  intro index way found
  rw [Nat.add_assoc]
  apply assigns
  rw [List.getElem?_append_right (Nat.le_add_right _ _), Nat.add_sub_cancel_left, found]

/-- Different trails can be assigned to numbers without two trails becoming one. -/
theorem exists_assigns (first : Nat) (distinct : made.Nodup) :
    ∃ names, Function.Injective names ∧ Assigns names first made := by
  induction made generalizing first with
  | nil => exact ⟨id, Function.injective_id, nofun⟩
  | cons way rest ih =>
      obtain ⟨new, distinct⟩ := List.nodup_cons.mp distinct
      obtain ⟨names, injective, assigns⟩ := ih (first + 1) distinct
      -- The later frames keep their trails: none of them has this trail, or this one's number.
      refine ⟨Equiv.swap (names [first]) way ∘ names,
        (Equiv.injective _).comp injective, ?_⟩
      intro index other found
      cases index with
      | zero =>
          cases found
          exact Equiv.swap_apply_left _ _
      | succ index =>
          have later : rest[index]? = some other := found
          have named := assigns index other later
          rw [Nat.add_right_comm] at named
          refine (congrArg _ named).trans (Equiv.swap_apply_of_ne_of_ne ?_ ?_)
          · intro same
            have equal := injective (named.trans same)
            simp only [List.cons.injEq, and_true] at equal
            omega
          · intro same
            rw [same] at later
            exact new (List.mem_of_getElem? later)

end Assigning

/-! ### Computations with a memory -/

namespace Run

variable {Answer Other : Type}

theorem bind_apply (run : Run Answer) (next : Answer → Run Other) (memory : Memory) :
    (run >>= next) memory =
      match run memory with
      | (.ok answer, after) => next answer after
      | (.error failure, after) => (.error failure, after) := by
  change (do
    let answered ← run memory
    ExceptT.bindCont next answered.1 answered.2 : Id _) = _
  rcases run memory with ⟨answer | failure, after⟩ <;> rfl

theorem throw_apply (failure : Failure) (memory : Memory) :
    (throw failure : Run Answer) memory = (.error failure, memory) := rfl

private theorem modify_apply (change : Memory → Memory) (memory : Memory) :
    (modify change : Run PUnit) memory = (.ok ⟨⟩, change memory) := rfl

private theorem get_apply (memory : Memory) :
    (get : Run Memory) memory = (.ok memory, memory) := rfl

theorem tryCatch_apply (run : Run Answer) (handle : Failure → Run Answer) (memory : Memory) :
    (tryCatch run handle) memory =
      match run memory with
      | (.ok answer, after) => (.ok answer, after)
      | (.error failure, after) => handle failure after := by
  change (ExceptT.tryCatch run handle : ExceptT Failure (StateM Memory) Answer) memory = _
  unfold ExceptT.tryCatch
  change (Bind.bind (m := StateM Memory) run _ : StateM Memory _) memory = _
  simp only [Bind.bind, StateT.bind]
  rcases run memory with ⟨answer | failure, after⟩ <;> rfl

/-- What is changed at the end is changed whether the computation fails or not. -/
theorem tryFinally_modify_apply (run : Run Answer) (change : Memory → Memory) (memory : Memory) :
    (tryFinally run (modify change) : Run Answer) memory =
      ((run memory).1, change (run memory).2) := by
  simp only [tryFinally, tryFinally', Functor.map, ExceptT.map, ExceptT.mk, Bind.bind, StateT.bind]
  rcases run memory with ⟨answer | failure, after⟩ <;> rfl

theorem nested_late {context : Context} {moment : Moment} (elapsed : context.expired moment = true)
    (goal : Goal) (step : Run Value) :
    nested context moment goal step =
      throw (goal.failure (.timeout context.options.timeoutMs)) :=
  if_pos elapsed

theorem nested_apply {context : Context} {moment : Moment}
    (running : context.expired moment = false) (goal : Goal) (step : Run Value)
    (memory : Memory) :
    nested context moment goal step memory =
      if context.options.maxDepth < memory.depth + 1 then
        (.error (goal.failure (.depthLimit context.options.maxDepth)), memory)
      else
        let taken := step { memory with depth := memory.depth + 1 }
        (taken.1, { taken.2 with depth := taken.2.depth - 1 }) := by
  unfold nested
  rw [running]
  simp only [Bool.false_eq_true, if_false, bind_apply, modify_apply, tryFinally_modify_apply,
    get_apply]
  split
  · rfl
  · rfl

theorem freshTrail_apply (memory : Memory) :
    freshTrail memory =
      (.ok [memory.nextFrame], { memory with nextFrame := memory.nextFrame + 1 }) := rfl

section Fetching

variable {context : Context} {moment : Moment} {specifier : String} {importer : Module}

theorem fetch_late (elapsed : context.expired moment = true) (loc : Loc) :
    fetch context moment specifier importer loc =
      throw (.within importer loc (.timeout context.options.timeoutMs)) :=
  if_pos elapsed

/-- A module is fetched once, and it is the one that the host holds. -/
theorem fetch_grows (running : context.expired moment = false) {found : Module}
    (fetched : context.host.fetch specifier importer.path = .ok found) (loc : Loc)
    {memory : Memory} (sound : memory.Sound context.host) :
    ∃ after, fetch context moment specifier importer loc memory = (.ok found, after) ∧
      memory.Grows context.host 0 [found.path] after := by
  obtain ⟨path, resolved, held⟩ := Host.fetch_eq_ok_iff.mp fetched
  unfold fetch
  simp only [running, Bool.false_eq_true, if_false, resolved, bind_apply, get_apply]
  cases known : memory.modules.find? fun known => known.path == path with
  | some kept =>
      obtain ⟨rfl, keptHeld⟩ := sound.find? known
      cases held.symm.trans keptHeld
      refine ⟨memory, rfl, sound, ?_, rfl, rfl⟩
      exact (if_pos (List.mem_map_of_mem (List.mem_of_find?_eq_some known))).symm
  | none =>
      have new : path ∉ memory.paths := by
        intro member
        obtain ⟨kept, present, samePath⟩ := List.mem_map.mp member
        exact List.find?_eq_none.mp known kept present (beq_iff_eq.mpr samePath)
      obtain ⟨program, loaded, rfl⟩ := Host.exists_load held
      simp only [loaded, bind_apply, modify_apply]
      refine ⟨_, rfl, ?_, ?_, rfl, rfl⟩
      · intro module present
        rcases List.mem_append.mp present with earlier | last
        · exact sound module earlier
        · rw [List.mem_singleton.mp last]
          exact held
      · refine Eq.trans List.map_append ?_
        exact (if_neg new).symm

/-- What the host fails to give, be it the path or what is there, is not known either. -/
theorem fetch_error (running : context.expired moment = false) {message : String}
    (fetched : context.host.fetch specifier importer.path = .error message) (loc : Loc)
    {memory : Memory} (sound : memory.Sound context.host) :
    fetch context moment specifier importer loc memory =
      (.error (.within importer loc (.host message)), memory) := by
  unfold Host.fetch at fetched
  unfold fetch
  cases resolved : context.host.resolve specifier importer.path with
  | error text =>
      rw [resolved] at fetched
      cases fetched
      simp only [running, Bool.false_eq_true, if_false, throw_apply]
  | ok path =>
      rw [resolved] at fetched
      change context.host.module path = .error message at fetched
      simp only [running, Bool.false_eq_true, if_false, bind_apply, get_apply]
      cases known : memory.modules.find? fun known => known.path == path with
      | some kept =>
          have held := Host.module_of_find? (sound.find? known).2
          cases fetched.symm.trans held
      | none =>
          unfold Host.module at fetched
          cases loaded : context.host.load path with
          | ok program =>
              rw [loaded] at fetched
              cases fetched
          | error text =>
              rw [loaded] at fetched
              cases fetched
              rfl

end Fetching

end Run

end QueryTypes.Resolution
