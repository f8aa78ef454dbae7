import IISModuleJS.CallbackHandles
import IISModuleJS.ScheduledMachine
import Mathlib.Logic.Function.Basic

/-!
# Notifications, the engine lock and promises

IIS calls `handle_callback` for every notification, each on a thread of its
own.  A call first tests without a lock whether a function is registered, then
takes the engine lock (`v8::Locker`), calls the function, and turns the result
into a notification status.  If the function returned a promise that is still
pending, the call attaches a reaction and the notification is completed later,
when the promise settles.

The machine has one action for every step that another thread can observe:
the unlocked test, taking the lock and calling, each effect of a running
script, and the return.  The engine thread and the worker threads take the
same lock to run script code.
-/

namespace IISModuleJS

namespace CallbackEngine

def rqNotificationContinue : Int := 0

def rqNotificationPending : Int := 1

def rqNotificationFinishRequest : Int := 2

def glNotificationContinue : Int := 0

def glNotificationHandled : Int := 1

inductive PromiseState
  | pending (reactions : List Nat)
  | fulfilled (result : JsValue)
  | rejected (result : JsValue)
  deriving DecidableEq

/-- The result of `local_function->Call`: empty when the callback threw. -/
inductive CallResult
  | empty
  | value (result : JsValue)
  deriving DecidableEq

/-- How `handle_callback` leaves: with a status, or with the status "pending"
after it attached its reaction to a promise. -/
inductive Exit
  | status (code : Int)
  | pending (promise : Nat)
  deriving DecidableEq

/-- The status that a settled promise completes a notification with. -/
def settledStatus (result : JsValue) : Int :=
  if result.intOrZero ≠ 0 then rqNotificationFinishRequest
  else rqNotificationContinue

/-- The part of `handle_callback` after the call. -/
def callbackExit (type : CallbackType) (promises : Nat → PromiseState) :
    CallResult → Exit
  | .empty => .status 0
  | .value result =>
      if type = .preBeginRequest ∧ !result.isNumber then
        .status 0
      else
        match result with
        | .promise identity =>
            match promises identity with
            | .fulfilled settled => .status (settledStatus settled)
            | .rejected settled => .status (settledStatus settled)
            | .pending _ => .pending identity
        | _ =>
            .status
              (if result.intOrZero ≠ 0 then
                if type = .preBeginRequest then glNotificationHandled
                else rqNotificationFinishRequest
              else rqNotificationContinue)

/-- Where a call of `handle_callback` stands.  A call that returns from its
unlocked tests has not called anything. -/
inductive Phase
  | locking
  | calling (localFunction : Option JsValue)
  | returned (status : Int) (called : Bool)
  deriving DecidableEq

/-- A notification and what happened to it: the promise whose reaction is to
complete it, and the statuses that `IndicateCompletion` was called with. -/
structure Notification where
  type : CallbackType
  context : Nat
  phase : Phase
  awaiting : Option Nat
  completions : List Int
  deriving DecidableEq

/-- `IndicateCompletion`. -/
def Notification.indicateCompletion (notification : Notification)
    (status : Int) : Notification :=
  { notification with completions := notification.completions ++ [status] }

@[simp]
theorem Notification.phase_indicateCompletion (notification : Notification)
    (status : Int) :
    (notification.indicateCompletion status).phase = notification.phase :=
  rfl

@[simp]
theorem Notification.awaiting_indicateCompletion
    (notification : Notification) (status : Int) :
    (notification.indicateCompletion status).awaiting =
      notification.awaiting :=
  rfl

@[simp]
theorem Notification.completions_indicateCompletion
    (notification : Notification) (status : Int) :
    (notification.indicateCompletion status).completions =
      notification.completions ++ [status] :=
  rfl

/-- The two objects that a notification hands to the script. -/
inductive HttpObject
  | response
  | request
  deriving DecidableEq

/-- Who holds the engine lock: the thread of a notification, or the engine
thread or a worker. -/
inductive Owner
  | request (notification : Nat)
  | native
  deriving DecidableEq

structure State where
  isolate : Bool
  handles : FunctionHandles
  lockOwner : Option Owner
  notifications : Nat → Option Notification
  internalFields : Nat → HttpObject → Option Nat
  promises : Nat → PromiseState
  microtasks : List (Nat × JsValue)

def initial : State where
  isolate := false
  handles := .empty
  lockOwner := none
  notifications := fun _ => none
  internalFields := fun _ _ => none
  promises := fun _ => .pending []
  microtasks := []

inductive Action
  | createIsolate
  | arrive (notification : Nat) (type : CallbackType) (context : Nat)
  | lockRequest (notification : Nat)
  | lockNative
  | unlockNative
  | resetEngine
  | register (args : List JsValue)
  | fsRegister (args : List JsValue)
  | settle (promise : Nat) (rejects : Bool) (result : JsValue)
  | runMicrotask
  | returnFrom (notification : Nat) (result : CallResult)
  deriving DecidableEq

/-- `DISABLE_INTERNAL_POINTER_RESET` is defined. -/
def disableInternalPointerReset : Bool := true

/-- `RESET_INTERNAL_POINTERS`. -/
def resetInternalPointers (notification : Nat)
    (fields : Nat → HttpObject → Option Nat) :
    Nat → HttpObject → Option Nat :=
  if disableInternalPointerReset then fields
  else Function.update fields notification fun _ => none

namespace State

def setNotification (state : State) (identity : Nat)
    (notification : Notification) : State :=
  { state with
    notifications :=
      Function.update state.notifications identity (some notification) }

/-- Looking up a notification after one of them was replaced. -/
theorem notifications_setNotification {state : State}
    {identity other : Nat} {notification found : Notification}
    (lookup : (state.setNotification identity notification).notifications
      other = some found) :
    (other = identity ∧ found = notification) ∨
      (other ≠ identity ∧ state.notifications other = some found) := by
  by_cases same : other = identity
  · subst same
    left
    simpa [setNotification, eq_comm] using lookup
  · right
    exact ⟨same, by simpa [setNotification, same] using lookup⟩

/-- A script is running: its thread holds the lock, and a request thread got
there by calling a function. -/
def scriptRunning (state : State) : Bool :=
  match state.lockOwner with
  | none => false
  | some .native => true
  | some (.request identity) =>
      match (state.notifications identity).map Notification.phase with
      | some (.calling (some _)) => true
      | _ => false

/-- The unlocked tests of `handle_callback`. -/
def arrival (state : State) (type : CallbackType) (context : Nat) :
    Notification where
  type := type
  context := context
  phase :=
    if !state.isolate || (state.handles.callbackFunction type).isNone then
      .returned 0 false
    else
      .locking
  awaiting := none
  completions := []

/-- `Then` adds the reaction of a notification to a pending promise. -/
def addReaction (state : State) (promise identity : Nat) :
    Nat → PromiseState :=
  match state.promises promise with
  | .pending reactions =>
      Function.update state.promises promise
        (.pending (reactions ++ [identity]))
  | _ => state.promises

/-- Leave `handle_callback` and release the lock. -/
def leave (state : State) (identity : Nat) (notification : Notification) :
    Exit → State
  | .status code =>
      { state.setNotification identity
          { notification with phase := .returned code true } with
        lockOwner := none
        internalFields :=
          resetInternalPointers identity state.internalFields }
  | .pending promise =>
      { state.setNotification identity
          { notification with
            phase := .returned rqNotificationPending true
            awaiting := some promise } with
        lockOwner := none
        promises := state.addReaction promise identity }

end State

open State

def step (state : State) : Action → Option State
  | .createIsolate => some { state with isolate := true }
  | .arrive identity type context =>
      if (state.notifications identity).isSome then none
      else
        some (state.setNotification identity (state.arrival type context))
  | .lockRequest identity =>
      match state.notifications identity with
      | none => none
      | some notification =>
          if notification.phase = .locking ∧ state.lockOwner = none then
            some
              { state.setNotification identity
                  { notification with
                    phase := .calling
                      (state.handles.callbackFunction notification.type) } with
                lockOwner := some (.request identity)
                internalFields :=
                  Function.update state.internalFields identity
                    fun _ => some notification.context }
          else none
  | .lockNative =>
      if state.isolate ∧ state.lockOwner = none then
        some { state with lockOwner := some .native }
      else none
  | .unlockNative =>
      if state.lockOwner = some .native then
        some { state with lockOwner := none }
      else none
  | .resetEngine =>
      if state.isolate ∧ state.lockOwner = none then
        some { state with handles := .empty }
      else none
  | .register args =>
      if state.scriptRunning then
        match state.handles.register args with
        | .ok handles => some { state with handles := handles }
        | .error _ => some state
      else none
  | .fsRegister args =>
      if state.scriptRunning then
        match state.handles.fsRegister args with
        | .ok handles => some { state with handles := handles }
        | .error _ => some state
      else none
  | .settle identity rejects result =>
      match state.scriptRunning, state.promises identity with
      | true, .pending reactions =>
          some
            { state with
              promises := Function.update state.promises identity
                (if rejects then .rejected result else .fulfilled result)
              microtasks :=
                state.microtasks ++ reactions.map fun reaction =>
                  (reaction, result) }
      | _, _ => none
  | .runMicrotask =>
      match state.scriptRunning, state.microtasks with
      | true, (identity, result) :: rest =>
          match state.notifications identity with
          | some notification =>
              some
                { state.setNotification identity
                    (notification.indicateCompletion (settledStatus result)) with
                  microtasks := rest }
          | none => none
      | _, _ => none
  | .returnFrom identity result =>
      match state.notifications identity with
      | none => none
      | some notification =>
          match notification.phase with
          | .calling (some _) =>
              if state.lockOwner = some (.request identity) then
                some (state.leave identity notification
                  (callbackExit notification.type state.promises result))
              else none
          | _ => none

/-- Everything a step can do, with the guards under which it does it. -/
inductive Transition (state : State) : Action → State → Prop
  | createIsolate :
      Transition state .createIsolate { state with isolate := true }
  | arrive {identity : Nat} {type : CallbackType} {context : Nat}
      (fresh : state.notifications identity = none) :
      Transition state (.arrive identity type context)
        (state.setNotification identity (state.arrival type context))
  | lockRequest {identity : Nat} {notification : Notification}
      (found : state.notifications identity = some notification)
      (locking : notification.phase = .locking)
      (free : state.lockOwner = none) :
      Transition state (.lockRequest identity)
        { state.setNotification identity
            { notification with
              phase := .calling
                (state.handles.callbackFunction notification.type) } with
          lockOwner := some (.request identity)
          internalFields :=
            Function.update state.internalFields identity
              fun _ => some notification.context }
  | lockNative (free : state.lockOwner = none) :
      Transition state .lockNative
        { state with lockOwner := some .native }
  | unlockNative (held : state.lockOwner = some .native) :
      Transition state .unlockNative { state with lockOwner := none }
  | resetEngine (free : state.lockOwner = none) :
      Transition state .resetEngine { state with handles := .empty }
  | register {args : List JsValue} {handles : FunctionHandles}
      (registered : state.handles.register args = .ok handles) :
      Transition state (.register args) { state with handles := handles }
  | registerThrows {args : List JsValue} :
      Transition state (.register args) state
  | fsRegister {args : List JsValue} {handles : FunctionHandles}
      (registered : state.handles.fsRegister args = .ok handles) :
      Transition state (.fsRegister args) { state with handles := handles }
  | fsRegisterThrows {args : List JsValue} :
      Transition state (.fsRegister args) state
  | settle {promise : Nat} {rejects : Bool} {result : JsValue}
      {reactions : List Nat}
      (pending : state.promises promise = .pending reactions) :
      Transition state (.settle promise rejects result)
        { state with
          promises := Function.update state.promises promise
            (if rejects then .rejected result else .fulfilled result)
          microtasks :=
            state.microtasks ++ reactions.map fun reaction =>
              (reaction, result) }
  | runMicrotask {identity : Nat} {result : JsValue}
      {rest : List (Nat × JsValue)} {notification : Notification}
      (queued : state.microtasks = (identity, result) :: rest)
      (found : state.notifications identity = some notification) :
      Transition state .runMicrotask
        { state.setNotification identity
            (notification.indicateCompletion (settledStatus result)) with
          microtasks := rest }
  | returnFrom {identity : Nat} {result : CallResult}
      {notification : Notification} {function : JsValue}
      (found : state.notifications identity = some notification)
      (calling : notification.phase = .calling (some function)) :
      Transition state (.returnFrom identity result)
        (state.leave identity notification
          (callbackExit notification.type state.promises result))

theorem transition_of_step {state next : State} {action : Action}
    (stepTo : step state action = some next) :
    Transition state action next := by
  cases action with
  | createIsolate =>
      cases stepTo
      exact .createIsolate
  | arrive identity type context =>
      simp only [step] at stepTo
      split at stepTo
      · cases stepTo
      next fresh =>
        cases stepTo
        exact .arrive (by simpa using fresh)
  | lockRequest identity =>
      simp only [step] at stepTo
      split at stepTo
      · cases stepTo
      next notification found =>
        split at stepTo
        next ready =>
          cases stepTo
          exact .lockRequest found ready.1 ready.2
        next => cases stepTo
  | lockNative =>
      simp only [step] at stepTo
      split at stepTo
      next ready =>
        cases stepTo
        exact .lockNative ready.2
      next => cases stepTo
  | unlockNative =>
      simp only [step] at stepTo
      split at stepTo
      next held =>
        cases stepTo
        exact .unlockNative held
      next => cases stepTo
  | resetEngine =>
      simp only [step] at stepTo
      split at stepTo
      next ready =>
        cases stepTo
        exact .resetEngine ready.2
      next => cases stepTo
  | register args =>
      simp only [step] at stepTo
      split at stepTo
      · split at stepTo
        next handles registered =>
          cases stepTo
          exact .register registered
        next =>
          cases stepTo
          exact .registerThrows
      · cases stepTo
  | fsRegister args =>
      simp only [step] at stepTo
      split at stepTo
      · split at stepTo
        next handles registered =>
          cases stepTo
          exact .fsRegister registered
        next =>
          cases stepTo
          exact .fsRegisterThrows
      · cases stepTo
  | settle promise rejects result =>
      simp only [step] at stepTo
      split at stepTo
      next reactions _ pending =>
        cases stepTo
        exact .settle pending
      next => cases stepTo
  | runMicrotask =>
      simp only [step] at stepTo
      split at stepTo
      next identity result rest _ queued =>
        split at stepTo
        next notification found =>
          cases stepTo
          exact .runMicrotask queued found
        next => cases stepTo
      next => cases stepTo
  | returnFrom identity result =>
      simp only [step] at stepTo
      split at stepTo
      · cases stepTo
      next notification found =>
        split at stepTo
        next function calling =>
          split at stepTo
          · cases stepTo
            exact .returnFrom found calling
          · cases stepTo
        next => cases stepTo

end CallbackEngine

end IISModuleJS
