import IISModuleJS.CallbackHandles
import IISModuleJS.DirectoryNotifications
import IISModuleJS.ScriptReload

/-!
# The context that callbacks enter

The engine has no context until the first `reset_engine`, which comes with the
first scan that finds `Main.js`.  A call of `handle_callback` that finds no
function does nothing, and functions are only registered by scripts, which run
in a context.  But `directory_change_callback` enters the context before it
looks whether a function is registered, and it is called for every change of
the filesystem directory that a wait notices.

The machine here runs the loop of `load_and_watch` with its scan and its
notifications, the scripts, the requests, and the workers that scripts start.
An entry into an empty context ends the process.
-/

namespace IISModuleJS

namespace EngineContext

open DirectoryNotifications (WaitResult)
open ScheduledMachine
open ScriptWatcher (Path Recorded)

/-- Who opens a `v8::Context::Scope` over the global context. -/
inductive Opener
  | directoryChangeCallback
  | executeFile
  | handleCallback
  | worker
  deriving DecidableEq

/-- A scope that was opened, and whether the context was set then. -/
structure Entry where
  opener : Opener
  contextSet : Bool
  deriving DecidableEq

/-- The two parts of the loop, and what leads to entries from outside of it:
the registered functions, the calls of `handle_callback` that have found theirs
and wait for the engine lock, and the workers that have yet to come back.
`caller` is who runs scripts under the lock at the moment, other than
`execute_file` of the loop.  The entries are a history. -/
structure State where
  watcher : ScriptWatcher.State
  notifications : DirectoryNotifications.State
  functions : FunctionHandles
  arrived : List CallbackType
  workers : Nat
  caller : Option Opener
  entries : List Entry

def initial (scriptPath : Path) : State where
  watcher := ScriptWatcher.initial scriptPath
  notifications := DirectoryNotifications.initial
  functions := .empty
  arrived := []
  workers := 0
  caller := none
  entries := []

/-- Actions of the two parts, and of the threads around them. -/
inductive Action
  | watcher (action : ScriptWatcher.Action)
  | notifications (action : DirectoryNotifications.Action)
  | directoryChangeCallback
  | requestArrives (type : CallbackType)
  | handleCallback (index : Nat)
  | startWorker
  | workerReturns
  | register (args : List JsValue)
  | fsRegister (args : List JsValue)
  | callerReturns
  deriving DecidableEq

/-- Open a scope. -/
def State.enter (state : State) (opener : Opener) : State :=
  { state with
    entries := state.entries ++ [⟨opener, state.watcher.hasContext⟩] }

/-- Take the engine lock, open a scope, and run a script. -/
def call (scriptPath : Path) (state : State) (opener : Opener) :
    Option State :=
  if state.watcher.owner = none then
    if state.watcher.hasContext then
      (ScriptWatcher.step scriptPath state.watcher .enterCallback).map
        fun watcher =>
          { state.enter opener with watcher := watcher, caller := some opener }
    else some (state.enter opener)
  else none

/-- The actions of the first part that are steps here.  Callbacks have their
own, and a scan begins when the wait of the round before is over. -/
def State.canWatch (state : State) : ScriptWatcher.Action → Bool
  | .enterCallback => false
  | .exitCallback => false
  | .beginPass => state.notifications.phase == .scanning
  | _ => true

/-- What `reset_engine` and `execute_file` do besides: the functions are
cleared, and a scope is opened. -/
def State.prepare (state : State) : ScriptWatcher.Action → State
  | .reset => { state with functions := .empty }
  | .executeMain => state.enter .executeFile
  | .load _ => state.enter .executeFile
  | _ => state

/-- The scan or the reload was the last step before the notifications. -/
def State.scanned (state : State) (watcher : ScriptWatcher.State) : Bool :=
  watcher.phase == .watching && state.watcher.phase != .watching

def watch (scriptPath : Path) (state : State)
    (action : ScriptWatcher.Action) : Option State :=
  if state.canWatch action then
    (ScriptWatcher.step scriptPath state.watcher action).bind fun watcher =>
      if state.scanned watcher then
        (DirectoryNotifications.step state.notifications .scan).map
          fun notifications =>
            { state.prepare action with
              watcher := watcher
              notifications := notifications }
      else some { state.prepare action with watcher := watcher }
  else none

/-- The actions of the second part that are steps here. -/
def canNotify : DirectoryNotifications.Action → Bool
  | .change => true
  | .findFirstChangeNotification _ => true
  | .waitForSingleObject _ => true
  | _ => false

/-- `directory_change_callback`.  The scope is opened before the test for an
empty function. -/
def directoryChangeCallback (scriptPath : Path) (state : State) :
    Option State :=
  (DirectoryNotifications.step state.notifications
    .directoryChangeCallback).bind fun calling =>
      match state.functions.directoryChange with
      | some _ =>
          call scriptPath { state with notifications := calling }
            .directoryChangeCallback
      | none =>
          if state.watcher.owner = none then
            (DirectoryNotifications.step calling .callbackReturns).map
              fun returned =>
                { state.enter .directoryChangeCallback with
                  notifications := returned }
          else none

/-- The script that a caller runs ends, and the engine lock is free. -/
def callerReturns (scriptPath : Path) (state : State) : Option State :=
  (ScriptWatcher.step scriptPath state.watcher .exitCallback).bind
    fun watcher =>
      match state.caller with
      | none => none
      | some .directoryChangeCallback =>
          (DirectoryNotifications.step state.notifications
            .callbackReturns).map fun notifications =>
              { state with
                watcher := watcher
                notifications := notifications
                caller := none }
      | some _ => some { state with watcher := watcher, caller := none }

/-- A script calls `register` or `fs.register`. -/
def State.setFunctions (state : State) :
    Except String FunctionHandles → Option State
  | .ok functions =>
      if state.watcher.canLoad then
        some { state with functions := functions }
      else none
  | .error _ => if state.watcher.canLoad then some state else none

def perform (scriptPath : Path) (state : State) : Action → Option State
  | .watcher action => watch scriptPath state action
  | .notifications action =>
      if canNotify action then
        (DirectoryNotifications.step state.notifications action).map
          fun notifications => { state with notifications := notifications }
      else none
  | .directoryChangeCallback => directoryChangeCallback scriptPath state
  | .requestArrives type =>
      match state.functions.callbackFunction type with
      | some _ => some { state with arrived := state.arrived ++ [type] }
      | none => some state
  | .handleCallback index =>
      match state.arrived[index]? with
      | some _ =>
          call scriptPath
            { state with arrived := state.arrived.eraseIdx index }
            .handleCallback
      | none => none
  | .startWorker =>
      if state.watcher.canLoad then
        some { state with workers := state.workers + 1 }
      else none
  | .workerReturns =>
      match state.workers with
      | 0 => none
      | workers + 1 =>
          call scriptPath { state with workers := workers } .worker
  | .register args => state.setFunctions (state.functions.register args)
  | .fsRegister args => state.setFunctions (state.functions.fsRegister args)
  | .callerReturns => callerReturns scriptPath state

/-- No scope was opened over an empty context. -/
def State.intact (state : State) : Bool :=
  state.entries.all fun entry => entry.contextSet

def step (scriptPath : Path) (state : State) (action : Action) :
    Option State :=
  if state.intact then perform scriptPath state action else none

variable {scriptPath : Path} {state next : State} {action : Action}

/-- A call that gets the lock opens a scope, and takes the lock if there is a
context. -/
structure Called (scriptPath : Path) (state : State) (opener : Opener)
    (next : State) : Prop where
  unlocked : state.watcher.owner = none
  watcher : next.watcher = state.watcher ∨
    ScriptWatcher.step scriptPath state.watcher .enterCallback =
      some next.watcher
  notifications : next.notifications = state.notifications
  functions : next.functions = state.functions
  arrived : next.arrived = state.arrived
  workers : next.workers = state.workers
  entries : next.entries =
    state.entries ++ [⟨opener, state.watcher.hasContext⟩]

theorem called_of_call {opener : Opener}
    (calls : call scriptPath state opener = some next) :
    Called scriptPath state opener next := by
  unfold call at calls
  split at calls
  next unlocked =>
    split at calls
    next =>
      obtain ⟨watcher, steps, rfl⟩ := Option.map_eq_some_iff.mp calls
      exact ⟨unlocked, .inr steps, rfl, rfl, rfl, rfl, rfl⟩
    next =>
      cases calls
      exact ⟨unlocked, .inl rfl, rfl, rfl, rfl, rfl, rfl⟩
  next => cases calls

/-- Everything a step can do, with what enabled it. -/
inductive Transition (scriptPath : Path) (state : State) :
    Action → State → Prop
  | watcher {action : ScriptWatcher.Action} {watcher : ScriptWatcher.State}
      {notifications : DirectoryNotifications.State}
      (steps : ScriptWatcher.step scriptPath state.watcher action =
        some watcher)
      (moves : notifications = state.notifications ∨
        DirectoryNotifications.step state.notifications .scan =
          some notifications) :
      Transition scriptPath state (.watcher action)
        { state.prepare action with
          watcher := watcher
          notifications := notifications }
  | notifications {action : DirectoryNotifications.Action}
      {notifications : DirectoryNotifications.State}
      (steps : DirectoryNotifications.step state.notifications action =
        some notifications) :
      Transition scriptPath state (.notifications action)
        { state with notifications := notifications }
  | directoryCalled {calling : DirectoryNotifications.State} {next : State}
      (steps : DirectoryNotifications.step state.notifications
        .directoryChangeCallback = some calling)
      (called : Called scriptPath { state with notifications := calling }
        .directoryChangeCallback next) :
      Transition scriptPath state .directoryChangeCallback next
  | directoryReturned {calling returned : DirectoryNotifications.State}
      (steps : DirectoryNotifications.step state.notifications
        .directoryChangeCallback = some calling)
      (returns : DirectoryNotifications.step calling .callbackReturns =
        some returned) :
      Transition scriptPath state .directoryChangeCallback
        { state.enter .directoryChangeCallback with
          notifications := returned }
  | requestArrives {type : CallbackType}
      (registered : state.functions.callbackFunction type ≠ none) :
      Transition scriptPath state (.requestArrives type)
        { state with arrived := state.arrived ++ [type] }
  | handleCallback {index : Nat} {next : State}
      (waiting : state.arrived ≠ [])
      (called : Called scriptPath
        { state with arrived := state.arrived.eraseIdx index }
        .handleCallback next) :
      Transition scriptPath state (.handleCallback index) next
  | startWorker (canLoad : state.watcher.canLoad = true) :
      Transition scriptPath state .startWorker
        { state with workers := state.workers + 1 }
  | workerReturns {workers : Nat} {next : State}
      (running : state.workers = workers + 1)
      (called : Called scriptPath { state with workers := workers }
        .worker next) :
      Transition scriptPath state .workerReturns next
  | setFunctions (action : Action) (functions : FunctionHandles)
      (canLoad : state.watcher.canLoad = true)
      (other : action ≠ .notifications .change) :
      Transition scriptPath state action { state with functions := functions }
  | callerReturns {watcher : ScriptWatcher.State}
      {notifications : DirectoryNotifications.State}
      (steps : ScriptWatcher.step scriptPath state.watcher .exitCallback =
        some watcher)
      (moves : notifications = state.notifications ∨
        DirectoryNotifications.step state.notifications .callbackReturns =
          some notifications) :
      Transition scriptPath state .callerReturns
        { state with
          watcher := watcher
          notifications := notifications
          caller := none }
  | stays (action : Action) (other : action ≠ .notifications .change) :
      Transition scriptPath state action state

theorem notifications_prepare (action : ScriptWatcher.Action) :
    (state.prepare action).notifications = state.notifications := by
  cases action <;> rfl

theorem transition_of_watch {action : ScriptWatcher.Action}
    (watches : watch scriptPath state action = some next) :
    Transition scriptPath state (.watcher action) next := by
  unfold watch at watches
  split at watches
  next =>
    obtain ⟨watcher, steps, continues⟩ :=
      Option.bind_eq_some_iff.mp watches
    split at continues
    next =>
      obtain ⟨notifications, moves, rfl⟩ :=
        Option.map_eq_some_iff.mp continues
      exact .watcher steps (.inr moves)
    next =>
      cases continues
      exact .watcher steps (.inl (notifications_prepare action))
  next => cases watches

theorem transition_of_directoryChangeCallback
    (performs : directoryChangeCallback scriptPath state = some next) :
    Transition scriptPath state .directoryChangeCallback next := by
  obtain ⟨calling, steps, continues⟩ := Option.bind_eq_some_iff.mp performs
  split at continues
  next => exact .directoryCalled steps (called_of_call continues)
  next =>
    split at continues
    next =>
      obtain ⟨returned, returns, rfl⟩ :=
        Option.map_eq_some_iff.mp continues
      exact .directoryReturned steps returns
    next => cases continues

theorem transition_of_callerReturns
    (performs : callerReturns scriptPath state = some next) :
    Transition scriptPath state .callerReturns next := by
  obtain ⟨watcher, steps, continues⟩ := Option.bind_eq_some_iff.mp performs
  split at continues
  next => cases continues
  next =>
    obtain ⟨notifications, moves, rfl⟩ := Option.map_eq_some_iff.mp continues
    exact .callerReturns steps (.inr moves)
  next =>
    cases continues
    exact .callerReturns steps (.inl rfl)

theorem transition_of_setFunctions {result : Except String FunctionHandles}
    (other : action ≠ .notifications .change)
    (sets : state.setFunctions result = some next) :
    Transition scriptPath state action next := by
  cases result with
  | ok functions =>
      simp only [State.setFunctions, Option.ite_none_right_eq_some,
        Option.some.injEq] at sets
      obtain ⟨canLoad, rfl⟩ := sets
      exact .setFunctions action functions canLoad other
  | error message =>
      simp only [State.setFunctions, Option.ite_none_right_eq_some,
        Option.some.injEq] at sets
      obtain ⟨-, rfl⟩ := sets
      exact .stays action other

theorem transition_of_step (steps : step scriptPath state action = some next) :
    Transition scriptPath state action next := by
  simp only [step, Option.ite_none_right_eq_some] at steps
  obtain ⟨-, performs⟩ := steps
  cases action with
  | watcher action => exact transition_of_watch performs
  | notifications action =>
      simp only [perform, Option.ite_none_right_eq_some] at performs
      obtain ⟨notifications, moves, rfl⟩ :=
        Option.map_eq_some_iff.mp performs.2
      exact .notifications moves
  | directoryChangeCallback =>
      exact transition_of_directoryChangeCallback performs
  | requestArrives type =>
      simp only [perform] at performs
      split at performs
      next registered =>
        cases performs
        exact .requestArrives (by simp [registered])
      next =>
        cases performs
        exact .stays _ (by simp)
  | handleCallback index =>
      simp only [perform] at performs
      split at performs
      next waiting =>
        refine .handleCallback ?_ (called_of_call performs)
        exact List.ne_nil_of_mem (List.mem_of_getElem? waiting)
      next => cases performs
  | startWorker =>
      simp only [perform, Option.ite_none_right_eq_some,
        Option.some.injEq] at performs
      obtain ⟨canLoad, rfl⟩ := performs
      exact .startWorker canLoad
  | workerReturns =>
      simp only [perform] at performs
      split at performs
      next => cases performs
      next workers running =>
        exact .workerReturns running (called_of_call performs)
  | register args => exact transition_of_setFunctions (by simp) performs
  | fsRegister args => exact transition_of_setFunctions (by simp) performs
  | callerReturns => exact transition_of_callerReturns performs

theorem Called.watcher_moves {opener : Opener}
    (called : Called scriptPath state opener next) :
    ∃ moves, run (ScriptWatcher.step scriptPath) state.watcher moves =
      some next.watcher := by
  rcases called.watcher with stays | steps
  · exact ⟨[], congrArg some stays.symm⟩
  · exact ⟨_, run_singleton steps⟩

theorem watcher_moves (transition : Transition scriptPath state action next) :
    ∃ moves, run (ScriptWatcher.step scriptPath) state.watcher moves =
      some next.watcher := by
  cases transition with
  | watcher steps => exact ⟨_, run_singleton steps⟩
  | notifications => exact ⟨[], rfl⟩
  | directoryCalled steps called =>
      obtain ⟨moves, moved⟩ := called.watcher_moves
      exact ⟨moves, moved⟩
  | directoryReturned => exact ⟨[], rfl⟩
  | requestArrives => exact ⟨[], rfl⟩
  | handleCallback waiting called =>
      obtain ⟨moves, moved⟩ := called.watcher_moves
      exact ⟨moves, moved⟩
  | startWorker => exact ⟨[], rfl⟩
  | workerReturns running called =>
      obtain ⟨moves, moved⟩ := called.watcher_moves
      exact ⟨moves, moved⟩
  | setFunctions => exact ⟨[], rfl⟩
  | callerReturns steps => exact ⟨_, run_singleton steps⟩
  | stays => exact ⟨[], rfl⟩

theorem notification_moves
    (transition : Transition scriptPath state action next) :
    ∃ moves, run DirectoryNotifications.step state.notifications moves =
        some next.notifications ∧
      (action = .notifications .change ∨ .change ∉ moves) := by
  cases transition with
  | watcher steps moves =>
      rcases moves with rfl | steps
      · exact ⟨[], rfl, by simp⟩
      · exact ⟨_, run_singleton steps, by simp⟩
  | @notifications action _ steps =>
      refine ⟨_, run_singleton steps, ?_⟩
      by_cases changes : action = .change
      · exact .inl (congrArg _ changes)
      · exact .inr (by simpa using fun same => changes same.symm)
  | directoryCalled steps called =>
      rw [called.notifications]
      exact ⟨_, run_singleton steps, by simp⟩
  | directoryReturned steps returns =>
      exact ⟨_, run_append (run_singleton steps) (run_singleton returns),
        by simp⟩
  | requestArrives => exact ⟨[], rfl, by simp⟩
  | handleCallback waiting called =>
      rw [called.notifications]
      exact ⟨[], rfl, by simp⟩
  | startWorker => exact ⟨[], rfl, by simp⟩
  | workerReturns running called =>
      rw [called.notifications]
      exact ⟨[], rfl, by simp⟩
  | setFunctions => exact ⟨[], rfl, by simp⟩
  | callerReturns steps moves =>
      rcases moves with rfl | steps
      · exact ⟨[], rfl, by simp⟩
      · exact ⟨_, run_singleton steps, by simp⟩
  | stays => exact ⟨[], rfl, by simp⟩

/-- In a run the watched scripts are those of a run of the watcher. -/
theorem exists_watcher_run {schedule : List Action}
    (runs : run (step scriptPath) (initial scriptPath) schedule =
      some state) :
    ∃ moves, run (ScriptWatcher.step scriptPath)
      (ScriptWatcher.initial scriptPath) moves = some state.watcher :=
  @exists_component_run _ _ (step scriptPath) _ _
    (ScriptWatcher.step scriptPath) State.watcher
    (fun _ _ _ steps => watcher_moves (transition_of_step steps)) _ _ _ runs

/-- The notifications are those of a run of the waiting loop. -/
theorem exists_notifications_run {schedule : List Action}
    (runs : run (step scriptPath) (initial scriptPath) schedule =
      some state) :
    ∃ moves, run DirectoryNotifications.step DirectoryNotifications.initial
      moves = some state.notifications :=
  @exists_component_run _ _ (step scriptPath) _ _
    DirectoryNotifications.step State.notifications
    (fun _ _ _ steps =>
      (notification_moves (transition_of_step steps)).imp
        fun _ moved => moved.1) _ _ _ runs

theorem hasContext_of_watcherStep {before after : ScriptWatcher.State}
    {move : ScriptWatcher.Action}
    (steps : ScriptWatcher.step scriptPath before move = some after)
    (hasContext : before.hasContext = true) : after.hasContext = true := by
  cases ScriptWatcher.transition_of_step steps with
  | reset => rfl
  | leaves =>
      unfold ScriptWatcher.State.leave
      split <;> exact hasContext
  | _ => exact hasContext

/-- A context that is set stays set. -/
theorem hasContext_kept (transition : Transition scriptPath state action next)
    (hasContext : state.watcher.hasContext = true) :
    next.watcher.hasContext = true := by
  obtain ⟨moves, moved⟩ := watcher_moves transition
  exact @invariant_of_run _ _ (ScriptWatcher.step scriptPath)
    (fun watcher => watcher.hasContext = true)
    (fun _ _ _ kept steps => hasContext_of_watcherStep steps kept) _ _ _
    hasContext moved

theorem recorded_kept (transition : Transition scriptPath state action next)
    (recorded : Recorded state.watcher) : Recorded next.watcher := by
  obtain ⟨moves, moved⟩ := watcher_moves transition
  exact invariant_of_run
    (fun _ _ _ kept steps => kept.step (ScriptWatcher.transition_of_step steps))
    recorded moved

/-- Something that only scripts set up: a function, a call that has found its
function, or a worker. -/
def State.Lively (state : State) : Prop :=
  state.functions ≠ .empty ∨ state.arrived ≠ [] ∨ 0 < state.workers

theorem lively_prepare {action : ScriptWatcher.Action}
    {watcher : ScriptWatcher.State}
    {notifications : DirectoryNotifications.State}
    (lively : ({ state.prepare action with
      watcher := watcher, notifications := notifications } : State).Lively) :
    state.Lively := by
  cases action with
  | reset =>
      rcases lively with registered | others
      · exact absurd rfl registered
      · exact .inr others
  | _ => exact lively

theorem Called.lively {opener : Opener}
    (called : Called scriptPath state opener next) (lively : next.Lively) :
    state.Lively := by
  unfold State.Lively at lively ⊢
  rw [← called.functions, ← called.arrived, ← called.workers]
  exact lively

theorem lively_of_transition
    (transition : Transition scriptPath state action next)
    (lively : next.Lively) :
    state.Lively ∨ state.watcher.canLoad = true := by
  cases transition with
  | watcher steps => exact .inl (lively_prepare lively)
  | notifications => exact .inl lively
  | directoryCalled steps called =>
      have before := called.lively lively
      exact .inl before
  | directoryReturned => exact .inl lively
  | requestArrives registered =>
      refine .inl (.inl ?_)
      intro none
      rw [none, FunctionHandles.callbackFunction_empty] at registered
      exact registered rfl
  | handleCallback waiting => exact .inl (.inr (.inl waiting))
  | startWorker canLoad => exact .inr canLoad
  | workerReturns running => exact .inl (.inr (.inr (by omega)))
  | setFunctions _ _ canLoad => exact .inr canLoad
  | callerReturns => exact .inl lively
  | stays => exact .inl lively

/-- What has to hold when a scope is opened. -/
inductive MayOpen (state : State) : Opener → Prop
  | directoryChangeCallback
      (sleeping : state.notifications.phase = .sleeping) :
      MayOpen state .directoryChangeCallback
  | executeMain (reloading : state.watcher.phase = .reloading) :
      MayOpen state .executeFile
  | load (canLoad : state.watcher.canLoad = true) :
      MayOpen state .executeFile
  | handleCallback (waiting : state.arrived ≠ []) :
      MayOpen state .handleCallback
  | worker (running : 0 < state.workers) : MayOpen state .worker

/-- The entries of a step: none, or one of somebody who may open a scope. -/
inductive Enters (state next : State) : Prop
  | nobody (entries : next.entries = state.entries)
  | somebody (opener : Opener) (mayOpen : MayOpen state opener)
      (entries : next.entries =
        state.entries ++ [⟨opener, state.watcher.hasContext⟩])

theorem enters_of_watcher {action : ScriptWatcher.Action}
    {watcher : ScriptWatcher.State}
    (steps : ScriptWatcher.step scriptPath state.watcher action =
      some watcher) :
    Enters state (state.prepare action) := by
  cases ScriptWatcher.transition_of_step steps with
  | executeMain reloading =>
      exact .somebody .executeFile (.executeMain reloading) rfl
  | load path canLoad => exact .somebody .executeFile (.load canLoad) rfl
  | leaves action innermost outer activations ends =>
      rcases ends with rfl | rfl | rfl <;> exact .nobody rfl
  | _ => exact .nobody rfl

theorem sleeping_of_step {calling : DirectoryNotifications.State}
    (steps : DirectoryNotifications.step state.notifications
      .directoryChangeCallback = some calling) :
    state.notifications.phase = .sleeping := by
  cases DirectoryNotifications.transition_of_step steps with
  | directoryChangeCallback sleeping => exact sleeping

theorem enters_of_transition
    (transition : Transition scriptPath state action next) :
    Enters state next := by
  cases transition with
  | watcher steps =>
      cases enters_of_watcher steps with
      | nobody entries => exact .nobody entries
      | somebody opener mayOpen entries =>
          exact .somebody opener mayOpen entries
  | notifications => exact .nobody rfl
  | directoryCalled steps called =>
      exact .somebody _ (.directoryChangeCallback (sleeping_of_step steps))
        called.entries
  | directoryReturned steps =>
      exact .somebody _ (.directoryChangeCallback (sleeping_of_step steps))
        rfl
  | requestArrives => exact .nobody rfl
  | handleCallback waiting called =>
      exact .somebody _ (.handleCallback waiting) called.entries
  | startWorker => exact .nobody rfl
  | workerReturns running called =>
      exact .somebody _ (.worker (by omega)) called.entries
  | setFunctions => exact .nobody rfl
  | callerReturns => exact .nobody rfl
  | stays => exact .nobody rfl

/-- What holds of all entries is preserved if it holds of everybody who may
open a scope. -/
theorem Enters.forall_entries (enters : Enters state next)
    {property : Entry → Prop}
    (before : ∀ entry ∈ state.entries, property entry)
    (opened : ∀ opener, MayOpen state opener →
      property ⟨opener, state.watcher.hasContext⟩) :
    ∀ entry ∈ next.entries, property entry := by
  cases enters with
  | nobody entries =>
      rw [entries]
      exact before
  | somebody opener mayOpen entries =>
      rw [entries]
      intro entry member
      rcases List.mem_append.mp member with old | new
      · exact before entry old
      · rw [List.mem_singleton.mp new]
        exact opened opener mayOpen

/-- Everything that comes from scripts has a context, and only the directory
callback enters an empty one. -/
structure Started (state : State) : Prop where
  recorded : Recorded state.watcher
  lively : state.Lively → state.watcher.hasContext = true
  entries : ∀ entry ∈ state.entries, entry.contextSet = false →
    entry.opener = .directoryChangeCallback

theorem started_initial (scriptPath : Path) :
    Started (initial scriptPath) where
  recorded := ScriptWatcher.recorded_initial scriptPath
  lively := by
    rintro (registered | arrived | running)
    · exact absurd rfl registered
    · exact absurd rfl arrived
    · exact absurd running (Nat.lt_irrefl 0)
  entries := by simp [initial]

theorem Started.hasContext_of_canLoad (started : Started state)
    (canLoad : state.watcher.canLoad = true) :
    state.watcher.hasContext = true :=
  started.recorded.started (.inl
    (ScriptWatcher.owner_ne_none_of_canLoad started.recorded.unlocked canLoad))

/-- All others who may open a scope find a context. -/
theorem Started.hasContext_of_mayOpen (started : Started state)
    {opener : Opener} (mayOpen : MayOpen state opener)
    (other : opener ≠ .directoryChangeCallback) :
    state.watcher.hasContext = true := by
  cases mayOpen with
  | directoryChangeCallback => exact absurd rfl other
  | executeMain reloading =>
      exact started.recorded.started (.inr reloading)
  | load canLoad => exact started.hasContext_of_canLoad canLoad
  | handleCallback waiting => exact started.lively (.inr (.inl waiting))
  | worker running => exact started.lively (.inr (.inr running))

theorem Started.step (started : Started state)
    (transition : Transition scriptPath state action next) :
    Started next where
  recorded := recorded_kept transition started.recorded
  lively := by
    intro lively
    apply hasContext_kept transition
    rcases lively_of_transition transition lively with before | canLoad
    · exact started.lively before
    · exact started.hasContext_of_canLoad canLoad
  entries := by
    apply (enters_of_transition transition).forall_entries started.entries
    intro opener mayOpen missing
    by_contra other
    have hasContext := started.hasContext_of_mayOpen mayOpen other
    rw [hasContext] at missing
    cases missing

theorem started_of_run {schedule : List Action}
    (runs : run (step scriptPath) (initial scriptPath) schedule =
      some state) : Started state :=
  invariant_of_run
    (fun _ _ _ started steps => started.step (transition_of_step steps))
    (started_initial scriptPath) runs

/-- The loop is about to call `directory_change_callback`. -/
def Awaited (notifications : DirectoryNotifications.State) : Prop :=
  (notifications.phase = .waiting ∧
    notifications.changeNotifyHandle = some ⟨true⟩) ∨
  notifications.phase = .sleeping

/-- A change is noticed by the wait that the loop is in. -/
def Noticed (notifications : DirectoryNotifications.State) : Prop :=
  notifications.phase = .waiting ∧
    notifications.changeNotifyHandle.isSome = true

instance (notifications : DirectoryNotifications.State) :
    Decidable (Noticed notifications) :=
  inferInstanceAs (Decidable (_ ∧ _))

theorem noticed_of_change {notifications : DirectoryNotifications.State}
    (awaited : Awaited notifications.afterChange) :
    Awaited notifications ∨ Noticed notifications := by
  rcases awaited with ⟨waiting, handle⟩ | sleeping
  · refine .inr ⟨waiting, ?_⟩
    obtain ⟨earlier, valid, -⟩ := Option.map_eq_some_iff.mp handle
    rw [valid]
    rfl
  · exact .inl (.inr sleeping)

/-- Without a change a loop that always asks for a new handle does not come to
call it. -/
theorem awaited_of_step {before after : DirectoryNotifications.State}
    {move : DirectoryNotifications.Action}
    (asks : before.waitFor = .object0) (other : move ≠ .change)
    (steps : DirectoryNotifications.step before move = some after)
    (awaited : Awaited after) : Awaited before := by
  cases DirectoryNotifications.transition_of_step steps with
  | change => exact absurd rfl other
  | scan => simp [Awaited] at awaited
  | openHandle succeeds =>
      cases succeeds <;> simp [Awaited] at awaited
  | keepHandle succeeds notifying keeps =>
      rw [asks] at keeps
      cases keeps
  | signalled waiting handle => exact .inl ⟨waiting, handle⟩
  | notSignalled => simp [Awaited] at awaited
  | directoryChangeCallback => simp [Awaited] at awaited
  | callbackReturns => simp [Awaited] at awaited

theorem awaited_of_run {moves : List DirectoryNotifications.Action}
    {before after : DirectoryNotifications.State}
    (asks : before.waitFor = .object0) (others : .change ∉ moves)
    (moved : run DirectoryNotifications.step before moves = some after)
    (awaited : Awaited after) : Awaited before := by
  induction moves generalizing before with
  | nil =>
      cases moved
      exact awaited
  | cons move rest ih =>
      obtain ⟨middle, steps, restMoved⟩ := run_cons_eq_some.mp moved
      rw [List.mem_cons, not_or] at others
      have kept := DirectoryNotifications.waitFor_of_step steps
      exact awaited_of_step asks (fun same => others.1 same.symm) steps
        (ih (kept.trans asks) others.2 restMoved)

/-- The filesystem directory changes while the loop waits for that only if the
engine was reset before. -/
def ChangesAfterReset (state : State) (action : Action) : Prop :=
  action = .notifications .change → Noticed state.notifications →
    state.watcher.hasContext = true

instance (state : State) (action : Action) :
    Decidable (ChangesAfterReset state action) :=
  inferInstanceAs (Decidable (_ → _ → _))

/-- A callback that is about to be called finds a context, as have all
before. -/
structure Prepared (state : State) : Prop where
  started : Started state
  asks : state.notifications.waitFor = .object0
  awaited : Awaited state.notifications → state.watcher.hasContext = true
  entries : ∀ entry ∈ state.entries, entry.contextSet = true

theorem waitFor_of_transition
    (transition : Transition scriptPath state action next) :
    next.notifications.waitFor = state.notifications.waitFor := by
  obtain ⟨moves, moved, -⟩ := notification_moves transition
  exact @invariant_of_run _ _ DirectoryNotifications.step
    (fun notifications =>
      notifications.waitFor = state.notifications.waitFor)
    (fun _ _ _ kept steps =>
      (DirectoryNotifications.waitFor_of_step steps).trans kept) _ _ _
    rfl moved

theorem awaited_of_transition
    (asks : state.notifications.waitFor = .object0)
    (transition : Transition scriptPath state action next)
    (awaited : Awaited next.notifications) :
    Awaited state.notifications ∨
      (action = .notifications .change ∧ Noticed state.notifications) := by
  obtain ⟨moves, moved, changes | others⟩ := notification_moves transition
  · subst changes
    cases transition with
    | notifications steps =>
        cases steps
        exact (noticed_of_change awaited).imp_right fun noticed =>
          ⟨rfl, noticed⟩
    | setFunctions _ _ _ other => exact absurd rfl other
    | stays _ other => exact absurd rfl other
  · exact .inl (awaited_of_run asks others moved awaited)

theorem Prepared.step (prepared : Prepared state)
    (allowed : ChangesAfterReset state action)
    (transition : Transition scriptPath state action next) :
    Prepared next where
  started := prepared.started.step transition
  asks := (waitFor_of_transition transition).trans prepared.asks
  awaited := by
    intro awaited
    apply hasContext_kept transition
    rcases awaited_of_transition prepared.asks transition awaited with
      before | ⟨changes, noticed⟩
    · exact prepared.awaited before
    · exact allowed changes noticed
  entries := by
    apply (enters_of_transition transition).forall_entries prepared.entries
    intro opener mayOpen
    by_cases directory : opener = .directoryChangeCallback
    · subst directory
      cases mayOpen with
      | directoryChangeCallback sleeping =>
          exact prepared.awaited (.inr sleeping)
    · exact prepared.started.hasContext_of_mayOpen mayOpen directory

theorem prepared_initial (scriptPath : Path) :
    Prepared (initial scriptPath) where
  started := started_initial scriptPath
  asks := rfl
  awaited := by simp [Awaited, initial, DirectoryNotifications.initial]
  entries := by simp [initial]

/-- The loop notices a change and enters the context. -/
def noticedChange : List Action :=
  [.notifications .change, .notifications (.waitForSingleObject .object0),
    .directoryChangeCallback]

/-- Before the first reset that ends in an empty context. -/
theorem run_noticedChange (started : Started state)
    (intact : state.intact = true) (noticed : Noticed state.notifications)
    (missing : state.watcher.hasContext = false) :
    ∃ final, run (step scriptPath) state noticedChange = some final ∧
      ⟨.directoryChangeCallback, false⟩ ∈ final.entries := by
  obtain ⟨waiting, valid⟩ := noticed
  obtain ⟨handle, handleEq⟩ := Option.isSome_iff_exists.mp valid
  have unlocked : state.watcher.owner = none := by
    by_contra owned
    have hasContext := started.recorded.started (.inl owned)
    rw [missing] at hasContext
    cases hasContext
  have unregistered : state.functions = .empty := by
    by_contra registered
    have hasContext := started.lively (.inl registered)
    rw [missing] at hasContext
    cases hasContext
  have changed : step scriptPath state (.notifications .change) =
      some { state with notifications := state.notifications.afterChange } := by
    simp [step, intact, perform, canNotify, DirectoryNotifications.step]
  have signalled : step scriptPath
      { state with notifications := state.notifications.afterChange }
      (.notifications (.waitForSingleObject .object0)) =
        some { state with
          notifications :=
            { state.notifications.afterChange with phase := .sleeping } } := by
    have still : State.intact { state with
        notifications := state.notifications.afterChange } = true := intact
    rw [step, if_pos still]
    simp [perform, canNotify, DirectoryNotifications.step,
      DirectoryNotifications.State.afterChange,
      DirectoryNotifications.canReturn, waiting, handleEq]
  obtain ⟨final, called, entries⟩ : ∃ final, step scriptPath { state with
      notifications :=
        { state.notifications.afterChange with phase := .sleeping } }
      .directoryChangeCallback = some final ∧
        final.entries =
          state.entries ++ [⟨.directoryChangeCallback, false⟩] := by
    have still : State.intact { state with
        notifications :=
          { state.notifications.afterChange with phase := .sleeping } } =
            true := intact
    rw [step, if_pos still]
    simp only [perform, directoryChangeCallback,
      DirectoryNotifications.step, if_true, Option.bind_some, unregistered,
      FunctionHandles.empty, unlocked, Option.map_some, State.enter, missing]
    exact ⟨_, rfl, rfl⟩
  refine ⟨final, ?_, ?_⟩
  · exact run_cons_eq_some.mpr ⟨_, changed,
      run_cons_eq_some.mpr ⟨_, signalled, run_singleton called⟩⟩
  · rw [entries]
    exact List.mem_append_right _ (List.mem_singleton_self _)

/-- The contexts that scopes are opened over.  In every run in which the
filesystem directory does not change while the loop waits for that before the
first reset, all of them are set.  In every other run that is so for all but
the directory callback, and a single such change is enough to let that one
enter an empty context. -/
theorem entries_set {schedule : List Action}
    (runs : run (step scriptPath) (initial scriptPath) schedule =
      some state) :
    (Respects (step scriptPath) ChangesAfterReset (initial scriptPath)
        schedule →
      ∀ entry ∈ state.entries, entry.contextSet = true) ∧
    (∀ entry ∈ state.entries, entry.contextSet = false →
      entry.opener = .directoryChangeCallback) ∧
    (state.intact = true →
      ¬ ChangesAfterReset state (.notifications .change) →
        ∃ final, run (step scriptPath) state noticedChange = some final ∧
          ⟨.directoryChangeCallback, false⟩ ∈ final.entries) := by
  refine ⟨?_, (started_of_run runs).entries, ?_⟩
  · intro respects
    have prepared : Prepared state :=
      invariant_of_respects
        (fun _ _ _ prepared allowed steps =>
          prepared.step allowed (transition_of_step steps))
        (prepared_initial scriptPath) respects runs
    exact prepared.entries
  · intro intact early
    simp only [ChangesAfterReset, not_forall, Bool.not_eq_true] at early
    obtain ⟨-, noticed, missing⟩ := early
    exact run_noticedChange (started_of_run runs) intact noticed missing

/-- A path that stands for `Main.js`. -/
def mainScript : Path :=
  [0x4D]

/-- `Main.js` is loaded and registers a function for changes of the directory;
then there is one. -/
def loadAndNotify : List Action :=
  [.watcher (.save mainScript 1 []), .watcher .inspect, .watcher .reset,
    .watcher .executeMain, .watcher .advance, .watcher .advance,
    .watcher .advance, .watcher .advance, .watcher .advance,
    .fsRegister [.function 0], .watcher .finish,
    .notifications (.findFirstChangeNotification true)] ++
  noticedChange ++ [.callerReturns]

theorem entries_set_loadAndNotify :
    ∃ state, run (step mainScript) (initial mainScript) loadAndNotify =
        some state ∧
      state.entries =
        [⟨.executeFile, true⟩, ⟨.directoryChangeCallback, true⟩] ∧
      ∀ entry ∈ state.entries, entry.contextSet = true := by
  have respects : Respects (step mainScript) ChangesAfterReset
      (initial mainScript) loadAndNotify := by
    decide
  have ran : ∃ state, run (step mainScript) (initial mainScript)
      loadAndNotify = some state ∧ state.entries =
        [⟨.executeFile, true⟩, ⟨.directoryChangeCallback, true⟩] :=
    ⟨_, rfl, rfl⟩
  obtain ⟨state, runs, entries⟩ := ran
  exact ⟨state, runs, entries, (entries_set runs).1 respects⟩

/-- Without `Main.js` a change of the directory after the first scan enters an
empty context. -/
theorem change_without_main_enters_nothing :
    ∃ state,
      run (step mainScript) (initial mainScript)
          ([.watcher .inspect, .watcher .endPass,
            .notifications (.findFirstChangeNotification true)] ++
              noticedChange) = some state ∧
      state.watcher.hasContext = false ∧
      state.entries = [⟨.directoryChangeCallback, false⟩] :=
  ⟨_, rfl, rfl, rfl⟩

end EngineContext

end IISModuleJS
