import IISModuleJS.CallbackEngine

/-!
# Prototype objects and contexts

The objects that scripts receive from the module are clones of five global
prototype objects.  `initialize_objects` creates those that are missing, in the
context of that moment, and runs at the end of every `reset_engine`, which has
just created a new context.  But `reset_engine` only clears two of the five
handles, so the others keep the instances of the first context.

The machine of the callbacks is extended by the contexts, the five handles and
a list of the objects handed out: the response and the request when a
notification calls its function, a fetch response when a worker resolves a
promise, and database and interprocess objects when a script asks for them.
-/

namespace IISModuleJS

namespace PrototypeObjects

open ScheduledMachine

/-- The objects with a global prototype object. -/
inductive ApiObject
  | httpResponse
  | httpRequest
  | fetch
  | db
  | ipc
  deriving DecidableEq

/-- `reset_engine` clears the handle. -/
def ApiObject.isCleared : ApiObject → Bool
  | .httpResponse | .httpRequest => true
  | .fetch | .db | .ipc => false

/-- An object given to a script: the context in which the cloned instance was
created, and the context that was current when it was given. -/
structure Handout where
  object : ApiObject
  origin : Option Nat
  context : Option Nat
  deriving DecidableEq

/-- Contexts are numbered in the order of their creation.  `handedOut` is a
history. -/
structure State where
  engine : CallbackEngine.State
  context : Option Nat
  prototypes : ApiObject → Option Nat
  handedOut : List Handout

inductive Action
  | engine (action : CallbackEngine.Action)
  | fetchResolved
  | dbInit
  | ipcInit
  deriving DecidableEq

/-- `initialize_objects`. -/
def initializeObjects (context : Nat) (prototypes : ApiObject → Option Nat) :
    ApiObject → Option Nat :=
  fun object =>
    if (prototypes object).isNone then some context else prototypes object

/-- `reset_engine` on the prototype objects and the context. -/
def State.resetEngine (state : State) (engine : CallbackEngine.State) :
    State :=
  let context := state.context.elim 0 (· + 1)
  { state with
    engine := engine
    context := some context
    prototypes := initializeObjects context fun object =>
      if object.isCleared then none else state.prototypes object }

/-- Give a clone of a prototype object to a script. -/
def State.give (state : State) (object : ApiObject) : State :=
  { state with
    handedOut := ⟨object, state.prototypes object, state.context⟩ ::
      state.handedOut }

/-- The engine thread and the workers run script code in the current context,
so they cannot before there is one. -/
def step (state : State) : Action → Option State
  | .engine .resetEngine =>
      (CallbackEngine.step state.engine .resetEngine).map state.resetEngine
  | .engine (.lockRequest notification) =>
      (CallbackEngine.step state.engine (.lockRequest notification)).map
        fun engine =>
          (({ state with engine := engine }).give .httpResponse).give
            .httpRequest
  | .engine .lockNative =>
      if state.context.isSome then
        (CallbackEngine.step state.engine .lockNative).map fun engine =>
          { state with engine := engine }
      else
        none
  | .engine action =>
      (CallbackEngine.step state.engine action).map fun engine =>
        { state with engine := engine }
  | .fetchResolved =>
      if state.engine.lockOwner = some .native then
        some (state.give .fetch)
      else
        none
  | .dbInit =>
      if state.engine.scriptRunning then some (state.give .db) else none
  | .ipcInit =>
      if state.engine.scriptRunning then some (state.give .ipc) else none

def initial : State :=
  ⟨CallbackEngine.initial, none, fun _ => none, []⟩

/-- What an action can do: the engine takes a step of its own, which resets it
or calls a function if the action does, or an object is handed out by a thread
that holds the lock. -/
inductive Transition (state : State) : Action → State → Prop
  | reset (engine : CallbackEngine.State)
      (stepTo : CallbackEngine.step state.engine .resetEngine = some engine) :
      Transition state (.engine .resetEngine) (state.resetEngine engine)
  | call (notification : Nat) (engine : CallbackEngine.State)
      (stepTo : CallbackEngine.step state.engine
        (.lockRequest notification) = some engine) :
      Transition state (.engine (.lockRequest notification))
        ((({ state with engine := engine }).give .httpResponse).give
          .httpRequest)
  | engine (action : CallbackEngine.Action) (engine : CallbackEngine.State)
      (stepTo : CallbackEngine.step state.engine action = some engine)
      (noReset : action ≠ .resetEngine)
      (noCall : ∀ notification, action ≠ .lockRequest notification)
      (hasContext : action = .lockNative → state.context ≠ none) :
      Transition state (.engine action) { state with engine := engine }
  | give (action : Action) (object : ApiObject)
      (locked : state.engine.lockOwner ≠ none) :
      Transition state action (state.give object)

variable {state next : State} {action : Action}

theorem lockOwner_of_scriptRunning {engine : CallbackEngine.State}
    (running : engine.scriptRunning = true) : engine.lockOwner ≠ none := by
  intro free
  simp [CallbackEngine.State.scriptRunning, free] at running

theorem transition_of_step (stepTo : step state action = some next) :
    Transition state action next := by
  have plain {taken : CallbackEngine.Action}
      (noReset : taken ≠ .resetEngine)
      (noCall : ∀ notification, taken ≠ .lockRequest notification)
      (hasContext : taken = .lockNative → state.context ≠ none)
      (mapped : ((CallbackEngine.step state.engine taken).map fun engine =>
        { state with engine := engine }) = some next) :
      Transition state (.engine taken) next := by
    obtain ⟨engine, engineStep, rfl⟩ := Option.map_eq_some_iff.mp mapped
    exact .engine taken engine engineStep noReset noCall hasContext
  cases action with
  | engine taken =>
      cases taken with
      | resetEngine =>
          obtain ⟨engine, engineStep, rfl⟩ := Option.map_eq_some_iff.mp stepTo
          exact .reset engine engineStep
      | lockRequest notification =>
          obtain ⟨engine, engineStep, rfl⟩ := Option.map_eq_some_iff.mp stepTo
          exact .call notification engine engineStep
      | lockNative =>
          simp only [step] at stepTo
          split at stepTo
          next hasContext =>
            refine plain (by simp) (by simp) (fun _ => ?_) stepTo
            exact Option.isSome_iff_ne_none.mp hasContext
          next => cases stepTo
      | createIsolate => exact plain (by simp) (by simp) (by simp) stepTo
      | arrive => exact plain (by simp) (by simp) (by simp) stepTo
      | unlockNative => exact plain (by simp) (by simp) (by simp) stepTo
      | register => exact plain (by simp) (by simp) (by simp) stepTo
      | fsRegister => exact plain (by simp) (by simp) (by simp) stepTo
      | settle => exact plain (by simp) (by simp) (by simp) stepTo
      | runMicrotask => exact plain (by simp) (by simp) (by simp) stepTo
      | returnFrom => exact plain (by simp) (by simp) (by simp) stepTo
  | fetchResolved =>
      simp only [step] at stepTo
      split at stepTo
      next held =>
        cases stepTo
        exact .give .fetchResolved .fetch (by simp [held])
      next => cases stepTo
  | dbInit =>
      simp only [step] at stepTo
      split at stepTo
      next running =>
        cases stepTo
        exact .give .dbInit .db (lockOwner_of_scriptRunning running)
      next => cases stepTo
  | ipcInit =>
      simp only [step] at stepTo
      split at stepTo
      next running =>
        cases stepTo
        exact .give .ipcInit .ipc (lockOwner_of_scriptRunning running)
      next => cases stepTo

/-- No thread holds the lock, no function is registered, and no call is past
its unlocked tests. -/
structure Dormant (engine : CallbackEngine.State) : Prop where
  unlocked : engine.lockOwner = none
  unregistered : ∀ type, engine.handles.callbackFunction type = none
  notLocking : ∀ identity notification,
    engine.notifications identity = some notification →
      notification.phase ≠ .locking

theorem dormant_initial : Dormant CallbackEngine.initial where
  unlocked := rfl
  unregistered := by
    intro type
    cases type <;> rfl
  notLocking := by simp [CallbackEngine.initial]

theorem Dormant.not_scriptRunning {engine : CallbackEngine.State}
    (dormant : Dormant engine) : engine.scriptRunning = false := by
  simp [CallbackEngine.State.scriptRunning, dormant.unlocked]

theorem Dormant.arrive {engine : CallbackEngine.State}
    (dormant : Dormant engine) (identity : Nat) (type : CallbackType)
    (context : Nat) :
    Dormant (engine.setNotification identity
      (engine.arrival type context)) := by
  refine ⟨dormant.unlocked, dormant.unregistered, ?_⟩
  intro other notification found
  rcases CallbackEngine.State.notifications_setNotification found with
    ⟨-, rfl⟩ | ⟨-, before⟩
  · simp [CallbackEngine.State.arrival, dormant.unregistered type]
  · exact dormant.notLocking other notification before

/-- A dormant engine stays dormant until it is reset or a native thread takes
the lock, and it calls no function. -/
theorem Dormant.step {engine next : CallbackEngine.State}
    {action : CallbackEngine.Action} (dormant : Dormant engine)
    (noReset : action ≠ .resetEngine) (noLock : action ≠ .lockNative)
    (stepTo : CallbackEngine.step engine action = some next) :
    Dormant next ∧ ∀ notification, action ≠ .lockRequest notification := by
  have quiet := dormant.not_scriptRunning
  cases action with
  | createIsolate =>
      cases stepTo
      exact ⟨⟨dormant.unlocked, dormant.unregistered, dormant.notLocking⟩,
        by simp⟩
  | arrive identity type context =>
      simp only [CallbackEngine.step] at stepTo
      split at stepTo
      · cases stepTo
      · cases stepTo
        exact ⟨dormant.arrive identity type context, by simp⟩
  | lockRequest identity =>
      simp only [CallbackEngine.step] at stepTo
      split at stepTo
      · cases stepTo
      next notification found =>
        split at stepTo
        next enabled =>
          exact (dormant.notLocking identity notification found
            enabled.1).elim
        next => cases stepTo
  | lockNative => exact (noLock rfl).elim
  | unlockNative => simp [CallbackEngine.step, dormant.unlocked] at stepTo
  | resetEngine => exact (noReset rfl).elim
  | register args => simp [CallbackEngine.step, quiet] at stepTo
  | fsRegister args => simp [CallbackEngine.step, quiet] at stepTo
  | settle promise rejects result =>
      simp [CallbackEngine.step, quiet] at stepTo
  | runMicrotask => simp [CallbackEngine.step, quiet] at stepTo
  | returnFrom identity result =>
      simp only [CallbackEngine.step] at stepTo
      split at stepTo
      · cases stepTo
      · split at stepTo
        · simp [dormant.unlocked] at stepTo
        · cases stepTo

/-- The context of the prototype instance of an object when the given context
is current. -/
def ApiObject.origin (object : ApiObject) (context : Nat) : Nat :=
  if object.isCleared then context else 0

structure OriginInvariant (state : State) : Prop where
  dormant : state.context = none → Dormant state.engine
  missing : state.context = none → ∀ object, state.prototypes object = none
  prototypes : ∀ context, state.context = some context →
    ∀ object, state.prototypes object = some (object.origin context)
  handouts : ∀ handout ∈ state.handedOut, ∃ context,
    handout.context = some context ∧
      handout.origin = some (handout.object.origin context)

theorem originInvariant_initial : OriginInvariant initial where
  dormant := fun _ => dormant_initial
  missing := fun _ _ => rfl
  prototypes := by simp [initial]
  handouts := by simp [initial]

theorem OriginInvariant.give (invariant : OriginInvariant state)
    (hasContext : state.context ≠ none) (object : ApiObject) :
    OriginInvariant (state.give object) where
  dormant := invariant.dormant
  missing := invariant.missing
  prototypes := invariant.prototypes
  handouts := by
    obtain ⟨context, current⟩ := Option.ne_none_iff_exists'.mp hasContext
    intro handout handoutMem
    rcases List.mem_cons.mp handoutMem with rfl | earlier
    · exact ⟨context, current, invariant.prototypes context current object⟩
    · exact invariant.handouts handout earlier

/-- A reset creates a context and gives it the prototype objects that are
missing. -/
theorem OriginInvariant.reset (invariant : OriginInvariant state)
    (engine : CallbackEngine.State) :
    OriginInvariant (state.resetEngine engine) where
  dormant := by simp [State.resetEngine]
  missing := by simp [State.resetEngine]
  prototypes := by
    intro context current object
    simp only [State.resetEngine, Option.some.injEq] at current
    subst current
    simp only [State.resetEngine, initializeObjects, ApiObject.origin]
    cases cleared : object.isCleared with
    | true => simp
    | false =>
        cases before : state.context with
        | none => simp [invariant.missing before object]
        | some context =>
            simp [invariant.prototypes context before object,
              ApiObject.origin, cleared]
  handouts := invariant.handouts

theorem OriginInvariant.engineStep (invariant : OriginInvariant state)
    {taken : CallbackEngine.Action} {engine : CallbackEngine.State}
    (stepTo : CallbackEngine.step state.engine taken = some engine)
    (noReset : taken ≠ .resetEngine)
    (hasContext : taken = .lockNative → state.context ≠ none) :
    OriginInvariant { state with engine := engine } where
  dormant := by
    intro noContext
    have noLock : taken ≠ .lockNative := fun locks =>
      hasContext locks noContext
    exact ((invariant.dormant noContext).step noReset noLock stepTo).1
  missing := invariant.missing
  prototypes := invariant.prototypes
  handouts := invariant.handouts

theorem OriginInvariant.step (invariant : OriginInvariant state)
    (transition : Transition state action next) : OriginInvariant next := by
  cases transition with
  | reset engine stepTo => exact invariant.reset engine
  | call notification engine stepTo =>
      have hasContext : state.context ≠ none := by
        intro noContext
        have quiet := (invariant.dormant noContext).step (by simp) (by simp)
          stepTo
        exact quiet.2 notification rfl
      have called := invariant.engineStep stepTo (by simp) (by simp)
      exact (called.give hasContext .httpResponse).give hasContext .httpRequest
  | engine taken engine stepTo noReset noCall hasContext =>
      exact invariant.engineStep stepTo noReset hasContext
  | give _ object locked =>
      apply invariant.give
      intro noContext
      exact locked (invariant.dormant noContext).unlocked

/-- In every run, an object handed out comes from the context that was current
exactly if its prototype object is one of the two that `reset_engine` clears,
or if the current context was the first one. -/
theorem origin_eq_context_iff {schedule : List Action}
    (runs : run step initial schedule = some state) :
    ∀ handout ∈ state.handedOut,
      handout.origin = handout.context ↔
        handout.object.isCleared = true ∨ handout.context = some 0 := by
  have invariant : OriginInvariant state :=
    invariant_of_run
      (fun _ _ _ invariant stepTo =>
        invariant.step (transition_of_step stepTo))
      originInvariant_initial runs
  intro handout handoutMem
  obtain ⟨context, current, origin⟩ := invariant.handouts handout handoutMem
  rw [current, origin, ApiObject.origin]
  cases cleared : handout.object.isCleared with
  | true => simp
  | false => simp [eq_comm]

/-- Two loads, each of which opens a database from its script. -/
def openDatabaseTwice : List Action :=
  [.engine .createIsolate, .engine .resetEngine, .engine .lockNative, .dbInit,
    .engine .unlockNative, .engine .resetEngine, .engine .lockNative, .dbInit,
    .engine .unlockNative]

theorem origin_eq_context_firstLoad :
    ∃ final, run step initial (openDatabaseTwice.take 5) = some final ∧
      ∀ handout ∈ final.handedOut, handout.origin = handout.context := by
  refine ⟨_, rfl, fun handout handoutMem => ?_⟩
  have only : handout = ⟨.db, some 0, some 0⟩ :=
    List.mem_singleton.mp handoutMem
  exact (@origin_eq_context_iff _ (openDatabaseTwice.take 5) rfl handout
    handoutMem).mpr (by simp [only])

/-- The second database object is a clone of an instance of the first
context. -/
theorem second_database_from_first_context :
    ∃ final, run step initial openDatabaseTwice = some final ∧
      ∃ handout ∈ final.handedOut, handout.origin ≠ handout.context :=
  ⟨_, rfl, ⟨.db, some 0, some 1⟩, List.mem_cons_self, by decide⟩

end PrototypeObjects

end IISModuleJS
