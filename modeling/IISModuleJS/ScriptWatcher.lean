import IISModuleJS.ScheduledMachine
import IISModuleJS.WideString
import Mathlib.Logic.Function.Basic

/-!
# Loading scripts and watching them

The engine thread runs `load_and_watch`.  Every round scans `loaded_scripts`
for a script whose last write time differs from the recorded one; the first
such script resets the engine and executes `Main.js` again.  `execute_file`
asks for the last write time, records it, opens and reads the file and runs
it, and a running script loads further scripts through `load`.  Callbacks of
requests run scripts on other threads, which may load scripts too.

The machine has one action for every file operation, so that files can change
between any two of them.  The engine lock is held from the beginning to the
end of a callback and of the outermost `execute_file`, and for `reset_engine`;
the scan does not take it.  A file keeps all the versions it ever had, and a
new version has a time that no earlier one had.
-/

namespace IISModuleJS

namespace ScriptWatcher

abbrev Path := WString

/-- `fs::file_time_type`. -/
abbrev Time := Int

abbrev Content := List UInt8

structure Version where
  time : Time
  content : Content
  deriving DecidableEq

/-- All versions of a file, the newest first, and whether it exists now. -/
structure File where
  versions : List Version
  present : Bool
  deriving DecidableEq

namespace File

def current (file : File) : Option Version :=
  if file.present then file.versions.head? else none

def times (file : File) : List Time :=
  file.versions.map (·.time)

def absent : File :=
  ⟨[], false⟩

end File

/-- The next operation of a call of `execute_file`. -/
inductive Stage
  | lastWriteTime
  | pushBack (time : Time)
  | openFile (time : Time)
  | readFile (time : Time)
  | executeString (time : Time) (content : Content)
  | running
  deriving DecidableEq

structure Activation where
  path : Path
  stage : Stage
  deriving DecidableEq

/-- Who holds the engine lock. -/
inductive Owner
  | engineLoop
  | callback
  deriving DecidableEq

/-- Where the loop of `load_and_watch` stands: at an entry of the scan, before
`reset_engine`, in the `execute_file` that follows it, or in the part that
watches the filesystem directory.  It is terminated when a C++ exception has
left the loop. -/
inductive Phase
  | scanning (index : Nat)
  | resetting
  | reloading
  | watching
  | terminated
  deriving DecidableEq

/-- A script that was run, with the time recorded for it and the text that was
read. -/
structure Execution where
  path : Path
  time : Time
  content : Content
  deriving DecidableEq

/-- An entry that the scan found unchanged, with the text that its file had at
that moment. -/
structure Inspection where
  index : Nat
  path : Path
  content : Content
  deriving DecidableEq

/-- What is remembered about the current scan: the files, the number of
entries and the executed scripts at its beginning, and its inspections. -/
structure Pass where
  files : Path → File
  entries : Nat
  executed : List Execution
  inspected : List Inspection

/-- The state of the files and of the engine.  The last two fields are a
history that no step looks at: the scripts executed since `reset_engine`, and
the current scan. -/
structure State where
  files : Path → File
  loadedScripts : List (Path × Time)
  phase : Phase
  hasContext : Bool
  owner : Option Owner
  activations : List Activation
  executed : List Execution
  pass : Pass

inductive Action
  | save (path : Path) (time : Time) (content : Content)
  | delete (path : Path)
  | beginPass
  | inspect
  | endPass
  | reset
  | executeMain
  | enterCallback
  | exitCallback
  | load (path : Path)
  | advance
  | fail
  | finish
  deriving DecidableEq

/-- Leave the innermost `execute_file`.  With the outermost one of the engine
thread the scan is over. -/
def State.leave (state : State) (outer : List Activation) : State :=
  match outer, state.owner with
  | [], some .engineLoop =>
      { state with activations := [], owner := none, phase := .watching }
  | _, _ => { state with activations := outer }

def State.setStage (state : State) (path : Path) (outer : List Activation)
    (stage : Stage) : State :=
  { state with activations := ⟨path, stage⟩ :: outer }

/-- One round of the scan: compare the recorded time with the one that the
error-code form of `last_write_time` returns. -/
def State.inspect (state : State) (index : Nat) (path : Path) (time : Time) :
    State :=
  match (state.files path).current with
  | none => { state with phase := .scanning (index + 1) }
  | some version =>
      if time ≠ version.time then
        { state with phase := .resetting }
      else
        { state with
          phase := .scanning (index + 1)
          pass := { state.pass with
            inspected := ⟨index, path, version.content⟩ ::
              state.pass.inspected } }

/-- The next operation of the innermost `execute_file`.  The throwing form of
`last_write_time` leaves the loop if no `load` is in between, which would turn
the exception into a JavaScript one. -/
def State.advance (state : State) (path : Path) (outer : List Activation) :
    Stage → Option State
  | .lastWriteTime =>
      match (state.files path).current with
      | some version => some (state.setStage path outer (.pushBack version.time))
      | none =>
          if outer = [] ∧ state.owner = some .engineLoop then
            some { state with
              activations := [], owner := none, phase := .terminated }
          else
            some (state.leave outer)
  | .pushBack time =>
      some { state.setStage path outer (.openFile time) with
        loadedScripts := state.loadedScripts ++ [(path, time)] }
  | .openFile time =>
      if (state.files path).present then
        some (state.setStage path outer (.readFile time))
      else
        some (state.leave outer)
  | .readFile time =>
      (state.files path).versions.head?.map fun version =>
        state.setStage path outer (.executeString time version.content)
  | .executeString time content =>
      some { state.setStage path outer .running with
        executed := ⟨path, time, content⟩ :: state.executed }
  | .running => none

/-- The stages at which `execute_file` can give up with a JavaScript exception:
the file cannot be opened or read, or its text does not compile. -/
def Stage.canFail : Stage → Bool
  | .openFile _ | .readFile _ | .executeString _ _ => true
  | .lastWriteTime | .pushBack _ | .running => false

/-- A script is running and can call `load`. -/
def State.canLoad (state : State) : Bool :=
  match state.activations with
  | [] => state.owner == some .callback
  | innermost :: _ => innermost.stage == .running

def step (scriptPath : Path) (state : State) : Action → Option State
  | .save path time content =>
      if time ∈ (state.files path).times then
        none
      else
        some { state with
          files := Function.update state.files path
            ⟨⟨time, content⟩ :: (state.files path).versions, true⟩ }
  | .delete path =>
      if (state.files path).present then
        some { state with
          files := Function.update state.files path
            ⟨(state.files path).versions, false⟩ }
      else
        none
  | .beginPass =>
      if state.phase = .watching then
        some { state with
          phase := .scanning 0
          pass := ⟨state.files, state.loadedScripts.length, state.executed,
            []⟩ }
      else
        none
  | .inspect =>
      match state.phase with
      | .scanning index =>
          state.loadedScripts[index]?.map fun (path, time) =>
            state.inspect index path time
      | _ => none
  | .endPass =>
      if state.phase = .scanning state.loadedScripts.length then
        some { state with phase := .watching }
      else
        none
  | .reset =>
      if state.phase = .resetting ∧ state.owner = none then
        some { state with
          loadedScripts := [], executed := [], hasContext := true
          phase := .reloading }
      else
        none
  | .executeMain =>
      if state.phase = .reloading ∧ state.owner = none then
        some { state with
          owner := some .engineLoop
          activations := [⟨scriptPath, .lastWriteTime⟩] }
      else
        none
  | .enterCallback =>
      if state.hasContext ∧ state.owner = none then
        some { state with owner := some .callback }
      else
        none
  | .exitCallback =>
      if state.owner = some .callback ∧ state.activations = [] then
        some { state with owner := none }
      else
        none
  | .load path =>
      if state.canLoad then
        some (state.setStage path state.activations .lastWriteTime)
      else
        none
  | .advance =>
      match state.activations with
      | [] => none
      | innermost :: outer =>
          state.advance innermost.path outer innermost.stage
  | .fail =>
      match state.activations with
      | [] => none
      | innermost :: outer =>
          if innermost.stage.canFail then some (state.leave outer) else none
  | .finish =>
      match state.activations with
      | [] => none
      | innermost :: outer =>
          if innermost.stage = .running then some (state.leave outer) else none

/-- Before the first round: the engine has no context, and `Main.js` is listed
with the default time.  Files come into being by being saved. -/
def initial (scriptPath : Path) : State where
  files := fun _ => .absent
  loadedScripts := [(scriptPath, 0)]
  phase := .scanning 0
  hasContext := false
  owner := none
  activations := []
  executed := []
  pass := ⟨fun _ => .absent, 1, [], []⟩

/-- What an action can do, with everything that enabled it. -/
inductive Transition (scriptPath : Path) (state : State) :
    Action → State → Prop
  | save (path : Path) (time : Time) (content : Content)
      (fresh : time ∉ (state.files path).times) :
      Transition scriptPath state (.save path time content) { state with
        files := Function.update state.files path
          ⟨⟨time, content⟩ :: (state.files path).versions, true⟩ }
  | delete (path : Path) (present : (state.files path).present = true) :
      Transition scriptPath state (.delete path) { state with
        files := Function.update state.files path
          ⟨(state.files path).versions, false⟩ }
  | beginPass (watching : state.phase = .watching) :
      Transition scriptPath state .beginPass { state with
        phase := .scanning 0
        pass := ⟨state.files, state.loadedScripts.length, state.executed,
          []⟩ }
  | missing (index : Nat) (path : Path) (time : Time)
      (scanning : state.phase = .scanning index)
      (entry : state.loadedScripts[index]? = some (path, time))
      (missing : (state.files path).current = none) :
      Transition scriptPath state .inspect
        { state with phase := .scanning (index + 1) }
  | changed (index : Nat) (path : Path) (time : Time) (version : Version)
      (scanning : state.phase = .scanning index)
      (entry : state.loadedScripts[index]? = some (path, time))
      (current : (state.files path).current = some version)
      (changed : time ≠ version.time) :
      Transition scriptPath state .inspect { state with phase := .resetting }
  | unchanged (index : Nat) (path : Path) (version : Version)
      (scanning : state.phase = .scanning index)
      (entry : state.loadedScripts[index]? = some (path, version.time))
      (current : (state.files path).current = some version) :
      Transition scriptPath state .inspect { state with
        phase := .scanning (index + 1)
        pass := { state.pass with
          inspected := ⟨index, path, version.content⟩ ::
            state.pass.inspected } }
  | endPass (scanned : state.phase = .scanning state.loadedScripts.length) :
      Transition scriptPath state .endPass { state with phase := .watching }
  | reset (resetting : state.phase = .resetting)
      (unlocked : state.owner = none) :
      Transition scriptPath state .reset { state with
        loadedScripts := [], executed := [], hasContext := true
        phase := .reloading }
  | executeMain (reloading : state.phase = .reloading)
      (unlocked : state.owner = none) :
      Transition scriptPath state .executeMain { state with
        owner := some .engineLoop
        activations := [⟨scriptPath, .lastWriteTime⟩] }
  | enterCallback (hasContext : state.hasContext = true)
      (unlocked : state.owner = none) :
      Transition scriptPath state .enterCallback
        { state with owner := some .callback }
  | exitCallback (owns : state.owner = some .callback)
      (ended : state.activations = []) :
      Transition scriptPath state .exitCallback { state with owner := none }
  | load (path : Path) (canLoad : state.canLoad = true) :
      Transition scriptPath state (.load path)
        (state.setStage path state.activations .lastWriteTime)
  | lastWriteTime (path : Path) (outer : List Activation)
      (version : Version)
      (innermost : state.activations = ⟨path, .lastWriteTime⟩ :: outer)
      (current : (state.files path).current = some version) :
      Transition scriptPath state .advance
        (state.setStage path outer (.pushBack version.time))
  | escapes (path : Path)
      (innermost : state.activations = [⟨path, .lastWriteTime⟩])
      (owns : state.owner = some .engineLoop)
      (missing : (state.files path).current = none) :
      Transition scriptPath state .advance { state with
        activations := [], owner := none, phase := .terminated }
  | pushBack (path : Path) (outer : List Activation) (time : Time)
      (innermost : state.activations = ⟨path, .pushBack time⟩ :: outer) :
      Transition scriptPath state .advance
        { state.setStage path outer (.openFile time) with
          loadedScripts := state.loadedScripts ++ [(path, time)] }
  | openFile (path : Path) (outer : List Activation) (time : Time)
      (innermost : state.activations = ⟨path, .openFile time⟩ :: outer)
      (present : (state.files path).present = true) :
      Transition scriptPath state .advance
        (state.setStage path outer (.readFile time))
  | readFile (path : Path) (outer : List Activation) (time : Time)
      (version : Version) (older : List Version)
      (innermost : state.activations = ⟨path, .readFile time⟩ :: outer)
      (newest : (state.files path).versions = version :: older) :
      Transition scriptPath state .advance
        (state.setStage path outer (.executeString time version.content))
  | executeString (path : Path) (outer : List Activation) (time : Time)
      (content : Content)
      (innermost :
        state.activations = ⟨path, .executeString time content⟩ :: outer) :
      Transition scriptPath state .advance
        { state.setStage path outer .running with
          executed := ⟨path, time, content⟩ :: state.executed }
  | leaves (action : Action) (innermost : Activation)
      (outer : List Activation)
      (activations : state.activations = innermost :: outer)
      (ends : action = .advance ∨ action = .fail ∨ action = .finish)
      (caught : innermost.stage = .lastWriteTime →
        ¬ (outer = [] ∧ state.owner = some .engineLoop)) :
      Transition scriptPath state action (state.leave outer)

theorem transition_of_inspect {scriptPath : Path} {state : State}
    {index : Nat} {path : Path} {time : Time}
    (scanning : state.phase = .scanning index)
    (entry : state.loadedScripts[index]? = some (path, time)) :
    Transition scriptPath state .inspect (state.inspect index path time) := by
  unfold State.inspect
  split
  next missing => exact .missing index path time scanning entry missing
  next version current =>
    split
    next changed =>
      exact .changed index path time version scanning entry current changed
    next same =>
      obtain rfl : time = version.time := not_not.mp same
      exact .unchanged index path version scanning entry current

theorem transition_of_advance {scriptPath : Path} {state next : State}
    {path : Path} {stage : Stage} {outer : List Activation}
    (innermost : state.activations = ⟨path, stage⟩ :: outer)
    (advances : state.advance path outer stage = some next) :
    Transition scriptPath state .advance next := by
  have leaves (caught : stage = .lastWriteTime →
      ¬ (outer = [] ∧ state.owner = some .engineLoop)) :
      Transition scriptPath state .advance (state.leave outer) :=
    .leaves .advance _ outer innermost (.inl rfl) caught
  cases stage with
  | lastWriteTime =>
      simp only [State.advance] at advances
      split at advances
      next version current =>
        cases advances
        exact .lastWriteTime path outer version innermost current
      next missing =>
        split at advances
        next escapes =>
          cases advances
          obtain ⟨rfl, owns⟩ := escapes
          exact .escapes path innermost owns missing
        next caught =>
          cases advances
          exact leaves fun _ => caught
  | pushBack time =>
      cases advances
      exact .pushBack path outer time innermost
  | openFile time =>
      simp only [State.advance] at advances
      split at advances
      next present =>
        cases advances
        exact .openFile path outer time innermost present
      next =>
        cases advances
        exact leaves (by simp)
  | readFile time =>
      simp only [State.advance] at advances
      cases newest : (state.files path).versions with
      | nil => simp [newest] at advances
      | cons version older =>
          rw [newest] at advances
          cases advances
          exact .readFile path outer time version older innermost newest
  | executeString time content =>
      cases advances
      exact .executeString path outer time content innermost
  | running => cases advances

theorem transition_of_step {scriptPath : Path} {state next : State}
    {action : Action} (steps : step scriptPath state action = some next) :
    Transition scriptPath state action next := by
  cases action with
  | save path time content =>
      simp only [step] at steps
      split at steps
      next => cases steps
      next fresh =>
        cases steps
        exact .save path time content fresh
  | delete path =>
      simp only [step] at steps
      split at steps
      next present =>
        cases steps
        exact .delete path present
      next => cases steps
  | beginPass =>
      simp only [step] at steps
      split at steps
      next watching =>
        cases steps
        exact .beginPass watching
      next => cases steps
  | inspect =>
      simp only [step] at steps
      split at steps
      next index scanning =>
        obtain ⟨⟨path, time⟩, entry, rfl⟩ :=
          Option.map_eq_some_iff.mp steps
        exact transition_of_inspect scanning entry
      next => cases steps
  | endPass =>
      simp only [step] at steps
      split at steps
      next scanned =>
        cases steps
        exact .endPass scanned
      next => cases steps
  | reset =>
      simp only [step] at steps
      split at steps
      next enabled =>
        cases steps
        exact .reset enabled.1 enabled.2
      next => cases steps
  | executeMain =>
      simp only [step] at steps
      split at steps
      next enabled =>
        cases steps
        exact .executeMain enabled.1 enabled.2
      next => cases steps
  | enterCallback =>
      simp only [step] at steps
      split at steps
      next enabled =>
        cases steps
        exact .enterCallback enabled.1 enabled.2
      next => cases steps
  | exitCallback =>
      simp only [step] at steps
      split at steps
      next enabled =>
        cases steps
        exact .exitCallback enabled.1 enabled.2
      next => cases steps
  | load path =>
      simp only [step] at steps
      split at steps
      next canLoad =>
        cases steps
        exact .load path canLoad
      next => cases steps
  | advance =>
      simp only [step] at steps
      split at steps
      next => cases steps
      next innermost outer activations =>
        exact transition_of_advance activations steps
  | fail =>
      simp only [step] at steps
      split at steps
      next => cases steps
      next innermost outer activations =>
        split at steps
        next canFail =>
          cases steps
          refine .leaves .fail innermost outer activations
            (.inr (.inl rfl)) fun asks => ?_
          simp [asks, Stage.canFail] at canFail
        next => cases steps
  | finish =>
      simp only [step] at steps
      split at steps
      next => cases steps
      next innermost outer activations =>
        split at steps
        next isRunning =>
          cases steps
          refine .leaves .finish innermost outer activations
            (.inr (.inr rfl)) fun asks => ?_
          rw [isRunning] at asks
          cases asks
        next => cases steps

/-- Only the owner of the lock runs scripts. -/
theorem owner_ne_none {state : State}
    (unlocked : state.owner = none → state.activations = [])
    {innermost : Activation} {outer : List Activation}
    (activations : state.activations = innermost :: outer) :
    state.owner ≠ none := by
  intro free
  rw [unlocked free] at activations
  cases activations

theorem owner_ne_none_of_canLoad {state : State}
    (unlocked : state.owner = none → state.activations = [])
    (canLoad : state.canLoad = true) : state.owner ≠ none := by
  intro free
  simp [State.canLoad, unlocked free, free] at canLoad

end ScriptWatcher

end IISModuleJS
