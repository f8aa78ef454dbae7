import IISModuleJS.CallbackEngine

/-!
# The window between the test for a callback and the engine lock

`handle_callback` tests its function handle before it takes the engine lock,
while `reset_engine` clears all handles under the lock.  A reset that falls
between the test and the lock makes the request thread call an empty handle.
This file proves that such resets are the only way to get there, and that each
of them leads there.
-/

namespace IISModuleJS

namespace CallbackEngine

open ScheduledMachine State

/-- No thread is at `local_function->Call` with an empty handle. -/
def NoEmptyCall (state : State) : Prop :=
  ∀ identity notification, state.notifications identity = some notification →
    notification.phase ≠ .calling none

/-- A notification without a registered function returns "continue" from its
tests, without the lock and without calling anything. -/
def UnregisteredContinues (state : State) : Prop :=
  ∀ identity type context, state.notifications identity = none →
    state.handles.callbackFunction type = none →
      ∃ next notification,
        step state (.arrive identity type context) = some next ∧
          next.notifications identity = some notification ∧
          notification.phase = .returned rqNotificationContinue false ∧
          next.lockOwner = state.lockOwner

/-- `reset_engine` runs only while no request thread is between its unlocked
test and the engine lock. -/
def ResetOutsideWindow (state : State) (action : Action) : Prop :=
  action = .resetEngine →
    ∀ identity notification,
      state.notifications identity = some notification →
        notification.phase ≠ .locking

/-- A thread in the window has a registered function, and a thread that calls
read a nonempty handle. -/
structure WindowInvariant (state : State) : Prop where
  registered : ∀ identity notification,
    state.notifications identity = some notification →
      notification.phase = .locking →
        (state.handles.callbackFunction notification.type).isSome
  noEmptyCall : NoEmptyCall state

theorem windowInvariant_initial : WindowInvariant initial := by
  constructor
  · intro identity notification found
    cases found
  · intro identity notification found
    cases found

/-- Replacing one notification keeps the invariant if the new one satisfies
it. -/
theorem WindowInvariant.setNotification {state : State}
    (invariant : WindowInvariant state) {identity : Nat}
    {notification : Notification}
    (registered : notification.phase = .locking →
      (state.handles.callbackFunction notification.type).isSome)
    (nonempty : notification.phase ≠ .calling none) :
    WindowInvariant (state.setNotification identity notification) := by
  constructor
  · intro other changed found locking
    obtain ⟨-, rfl⟩ | ⟨-, unchanged⟩ := notifications_setNotification found
    · exact registered locking
    · exact invariant.registered other changed unchanged locking
  · intro other changed found
    obtain ⟨-, rfl⟩ | ⟨-, unchanged⟩ := notifications_setNotification found
    · exact nonempty
    · exact invariant.noEmptyCall other changed unchanged

theorem WindowInvariant.of_handles {state next : State}
    (invariant : WindowInvariant state)
    (sameNotifications : next.notifications = state.notifications)
    (nonempty : ∀ type, (state.handles.callbackFunction type).isSome →
      (next.handles.callbackFunction type).isSome) :
    WindowInvariant next := by
  constructor
  · intro identity notification found locking
    rw [sameNotifications] at found
    exact nonempty _
      (invariant.registered identity notification found locking)
  · intro identity notification found
    rw [sameNotifications] at found
    exact invariant.noEmptyCall identity notification found

theorem WindowInvariant.arrive {state : State}
    (invariant : WindowInvariant state) (identity : Nat)
    (type : CallbackType) (context : Nat) :
    WindowInvariant
      (state.setNotification identity (state.arrival type context)) := by
  by_cases skipped :
      !state.isolate || (state.handles.callbackFunction type).isNone
  · apply invariant.setNotification <;> simp [arrival, skipped]
  · have tested : (state.handles.callbackFunction type).isSome := by
      cases found : state.handles.callbackFunction type with
      | none => simp [found] at skipped
      | some function => rfl
    apply invariant.setNotification
    · intro _
      exact tested
    · simp [arrival, skipped]

theorem WindowInvariant.lockRequest {state : State}
    (invariant : WindowInvariant state) (identity : Nat)
    {notification : Notification}
    (nonempty :
      (state.handles.callbackFunction notification.type).isSome) :
    WindowInvariant (state.setNotification identity
      { notification with
        phase := .calling
          (state.handles.callbackFunction notification.type) }) := by
  apply invariant.setNotification
  · intro locking
    cases locking
  · intro empty
    rw [Phase.calling.injEq] at empty
    simp [empty] at nonempty

theorem WindowInvariant.leave {state : State}
    (invariant : WindowInvariant state) (identity : Nat)
    (notification : Notification) (exit : Exit) :
    WindowInvariant (state.leave identity notification exit) := by
  cases exit with
  | status code =>
      have changed : WindowInvariant (state.setNotification identity
          { notification with phase := .returned code true }) := by
        apply invariant.setNotification <;> simp
      exact ⟨changed.registered, changed.noEmptyCall⟩
  | pending promise =>
      have changed : WindowInvariant (state.setNotification identity
          { notification with
            phase := .returned rqNotificationPending true
            awaiting := some promise }) := by
        apply invariant.setNotification <;> simp
      exact ⟨changed.registered, changed.noEmptyCall⟩

theorem WindowInvariant.step {state next : State} {action : Action}
    (invariant : WindowInvariant state)
    (outside : ResetOutsideWindow state action)
    (stepTo : step state action = some next) :
    WindowInvariant next := by
  cases transition_of_step stepTo with
  | createIsolate => exact invariant.of_handles rfl fun _ => id
  | arrive fresh => exact invariant.arrive _ _ _
  | @lockRequest identity notification found locking free =>
      have changed := invariant.lockRequest identity
        (invariant.registered _ _ found locking)
      exact ⟨changed.registered, changed.noEmptyCall⟩
  | lockNative free => exact invariant.of_handles rfl fun _ => id
  | unlockNative held => exact invariant.of_handles rfl fun _ => id
  | resetEngine free =>
      constructor
      · intro identity notification found locking
        exact (outside rfl identity notification found locking).elim
      · exact invariant.noEmptyCall
  | register registered =>
      exact invariant.of_handles rfl fun _ =>
        FunctionHandles.isSome_of_register registered
  | registerThrows => exact invariant
  | fsRegister registered =>
      refine invariant.of_handles rfl fun type nonempty => ?_
      rw [FunctionHandles.callbackFunction_fsRegister registered]
      exact nonempty
  | fsRegisterThrows => exact invariant
  | settle pending => exact invariant.of_handles rfl fun _ => id
  | @runMicrotask identity result rest notification queued found =>
      have changed : WindowInvariant (state.setNotification identity
          (notification.indicateCompletion (settledStatus result))) :=
        invariant.setNotification
          (invariant.registered identity notification found)
          (invariant.noEmptyCall identity notification found)
      exact ⟨changed.registered, changed.noEmptyCall⟩
  | returnFrom found calling => exact invariant.leave _ _ _

theorem unregisteredContinues (state : State) :
    UnregisteredContinues state := by
  intro identity type context fresh unregistered
  refine ⟨state.setNotification identity (state.arrival type context),
    state.arrival type context, ?_, ?_, ?_, rfl⟩
  · simp [step, fresh]
  · simp [setNotification]
  · simp [arrival, unregistered, rqNotificationContinue]

/-- A reset in the window of a thread makes that thread call an empty handle
as soon as it gets the lock. -/
theorem emptyCall_of_reset {state next : State} {identity : Nat}
    {notification : Notification}
    (found : state.notifications identity = some notification)
    (locking : notification.phase = .locking)
    (stepTo : step state .resetEngine = some next) :
    ∃ called, step next (.lockRequest identity) = some called ∧
      ¬ NoEmptyCall called := by
  cases transition_of_step stepTo with
  | resetEngine free =>
      refine ⟨_, by simp [step, found, locking, free]; rfl, ?_⟩
      intro noEmptyCall
      exact noEmptyCall identity { notification with phase := .calling none }
        (by simp [setNotification]) rfl

/-- In every run whose resets fall outside the windows, no thread calls an
empty handle and unregistered notifications return "continue"; and in every
run, a reset inside a window can be followed by a call of an empty handle. -/
theorem noEmptyCall_of_resetOutsideWindow {schedule : List Action}
    {reached : State} (runs : run step initial schedule = some reached) :
    (Respects step ResetOutsideWindow initial schedule →
      NoEmptyCall reached ∧ UnregisteredContinues reached) ∧
    ∀ action next, ¬ ResetOutsideWindow reached action →
      step reached action = some next →
        ∃ identity called,
          step next (.lockRequest identity) = some called ∧
            ¬ NoEmptyCall called := by
  refine ⟨fun respects => ?_, ?_⟩
  · have invariant : WindowInvariant reached :=
      invariant_of_respects
        (fun _ _ _ holds outside stepTo => holds.step outside stepTo)
        windowInvariant_initial respects runs
    exact ⟨invariant.noEmptyCall, unregisteredContinues reached⟩
  · intro action next inside stepTo
    simp only [ResetOutsideWindow, not_forall, not_not] at inside
    obtain ⟨rfl, identity, notification, found, locking⟩ := inside
    exact ⟨identity, emptyCall_of_reset found locking stepTo⟩

/-- A reload that is over before the next request arrives. -/
def quietReload : List Action :=
  [.createIsolate, .lockNative, .register [.function 0], .unlockNative,
    .resetEngine, .lockNative, .register [.function 1], .unlockNative,
    .arrive 0 .beginRequest 7, .lockRequest 0]

theorem noEmptyCall_quietReload :
    ∃ final, run step initial quietReload = some final ∧
      Respects step ResetOutsideWindow initial quietReload ∧
        NoEmptyCall final ∧ UnregisteredContinues final := by
  have respects : Respects step ResetOutsideWindow initial quietReload :=
    respects_cons nofun rfl <| respects_cons nofun rfl <|
    respects_cons nofun rfl <| respects_cons nofun rfl <|
    respects_cons (fun _ => nofun) rfl <| respects_cons nofun rfl <|
    respects_cons nofun rfl <| respects_cons nofun rfl <|
    respects_cons nofun rfl <| respects_cons nofun rfl trivial
  exact ⟨_, rfl, respects,
    (@noEmptyCall_of_resetOutsideWindow quietReload _ rfl).1 respects⟩

/-- A reload that starts while a request is between its test and the lock. -/
def reloadInWindow : List Action :=
  [.createIsolate, .lockNative, .register [.function 0], .unlockNative,
    .arrive 0 .beginRequest 7, .resetEngine, .lockRequest 0]

theorem reloadInWindow_calls_empty_handle :
    ∃ final, run step initial reloadInWindow = some final ∧
      ¬ NoEmptyCall final := by
  refine ⟨_, rfl, fun noEmptyCall => ?_⟩
  exact noEmptyCall 0 ⟨.beginRequest, 7, .calling none, none, []⟩ rfl rfl

end CallbackEngine

end IISModuleJS
