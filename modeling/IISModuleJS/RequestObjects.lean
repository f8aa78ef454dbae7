import IISModuleJS.CallbackEngine

/-!
# The response and request objects of a notification

`handle_callback` stores the `IHttpContext` of its notification in the
internal field of a response object and of a request object and hands both to
the script.  Every method of these objects tests the field before it uses it.

The build defines `DISABLE_INTERNAL_POINTER_RESET`, so no exit of
`handle_callback` and no completion clears the field.  Scripts can keep the
objects, and the test then lets a method through with the context of its
notification, whether the request is in progress or finished.
-/

namespace IISModuleJS

namespace CallbackEngine

open ScheduledMachine State

inductive ResponseMethod
  | clear
  | clearHeaders
  | closeConnection
  | disableBuffering
  | setNeedDisconnect
  | getKernelCacheEnabled
  | resetConnection
  | getStatus
  | setStatus
  | redirect
  | setErrorDescription
  | disableKernelCache
  | deleteHeader
  | getHeader
  | read
  | write
  | setHeader
  deriving DecidableEq

inductive RequestMethod
  | read
  | setUrl
  | deleteHeader
  | setHeader
  | getMethod
  | getAbsPath
  | getFullUrl
  | getQueryString
  | getPath
  | getHost
  | getLocalAddress
  | getRemoteAddress
  | getHeader
  deriving DecidableEq

/-- The name that the guard of a response method puts into its message. -/
def ResponseMethod.guardName : ResponseMethod → String
  | .clear => "clear"
  | .clearHeaders => "clearHeaders"
  | .closeConnection => "closeConnection"
  | .disableBuffering => "disableBuffering"
  | .setNeedDisconnect => "setNeedDisconnect"
  | .getKernelCacheEnabled => "getKernelCacheEnabled"
  | .resetConnection => "resetConnection"
  | .getStatus => "getStatus"
  | .setStatus => "setStatus"
  | .redirect => "redirect"
  | .setErrorDescription => "setErrorDescription"
  | .disableKernelCache => "disableKernelCache"
  | .deleteHeader => "deleteHeader"
  | .getHeader => "getHeader"
  | .read => "read"
  | .write => "write"
  | .setHeader => "setHeader"

/-- The name that the guard of a request method puts into its message.  Two
methods carry the name of another one. -/
def RequestMethod.guardName : RequestMethod → String
  | .read => "read"
  | .setUrl => "setUrl"
  | .deleteHeader => "deleteHeader"
  | .setHeader => "setHeader"
  | .getMethod => "getMethod"
  | .getAbsPath => "getMethod"
  | .getFullUrl => "getFullUrl"
  | .getQueryString => "getQueryString"
  | .getPath => "getQueryString"
  | .getHost => "getHost"
  | .getLocalAddress => "getLocalAddress"
  | .getRemoteAddress => "getRemoteAddress"
  | .getHeader => "getHeader"

inductive HttpMethod
  | response (method : ResponseMethod)
  | request (method : RequestMethod)
  deriving DecidableEq

namespace HttpMethod

def object : HttpMethod → HttpObject
  | .response _ => .response
  | .request _ => .request

def message : HttpMethod → String
  | .response method => "invalid p_http_response for " ++ method.guardName
  | .request method => "invalid p_http_request for " ++ method.guardName

/-- The guard at the start of every method, on the object that was made for a
notification.  It gives the context that the method goes on with.  The
parameter tells whether `GetResponse` or `GetRequest` of a context is not
null. -/
def guard (provides : Nat → HttpObject → Bool) (state : State)
    (identity : Nat) (method : HttpMethod) : Except String Nat :=
  match state.internalFields identity method.object with
  | none => .error method.message
  | some context =>
      if provides context method.object then .ok context
      else .error method.message

end HttpMethod

namespace Notification

/-- The callback was called, so the script has the two objects. -/
def called (notification : Notification) : Bool :=
  match notification.phase with
  | .locking => false
  | .calling _ => true
  | .returned _ called => called

/-- The notification has neither returned a final status nor been completed by
`IndicateCompletion`. -/
def InProgress (notification : Notification) : Prop :=
  match notification.phase with
  | .returned _ _ =>
      notification.awaiting ≠ none ∧ notification.completions = []
  | _ => True

/-- What the internal fields of the two objects hold. -/
def objectField (notification : Notification) : Option Nat :=
  if notification.called then some notification.context else none

end Notification

/-- A method that gets past its guard uses the context of a request that is
still in progress. -/
def NoUseOfFinishedRequest (provides : Nat → HttpObject → Bool)
    (state : State) : Prop :=
  ∀ identity method context,
    HttpMethod.guard provides state identity method = .ok context →
      ∃ other notification,
        state.notifications other = some notification ∧
        notification.context = context ∧ notification.InProgress

/-- The internal fields follow the notifications. -/
def FieldInvariant (state : State) : Prop :=
  ∀ identity object, state.internalFields identity object =
    (state.notifications identity).bind Notification.objectField

theorem FieldInvariant.setNotification {state : State}
    (invariant : FieldInvariant state) {identity : Nat}
    {notification : Notification}
    (field : notification.objectField =
      (state.notifications identity).bind Notification.objectField) :
    FieldInvariant (state.setNotification identity notification) := by
  intro other object
  by_cases same : other = identity
  · subst same
    simpa [State.setNotification, field] using invariant other object
  · simpa [State.setNotification, same] using invariant other object

theorem FieldInvariant.lockRequest {state : State}
    (invariant : FieldInvariant state) {identity : Nat}
    {notification : Notification} (handle : Option JsValue) :
    FieldInvariant
      { state.setNotification identity
          { notification with phase := .calling handle } with
        lockOwner := some (.request identity)
        internalFields := Function.update state.internalFields identity
          fun _ => some notification.context } := by
  intro other object
  by_cases same : other = identity
  · subst same
    simp [State.setNotification, Notification.objectField,
      Notification.called]
  · simpa [State.setNotification, same] using invariant other object

theorem FieldInvariant.leave {state : State}
    (invariant : FieldInvariant state) {identity : Nat}
    {notification : Notification} {function : JsValue}
    (found : state.notifications identity = some notification)
    (calling : notification.phase = .calling (some function))
    (exit : Exit) :
    FieldInvariant (state.leave identity notification exit) := by
  have field : (state.notifications identity).bind
      Notification.objectField = some notification.context := by
    simp [found, Notification.objectField, Notification.called, calling]
  cases exit with
  | status code =>
      have changed : FieldInvariant (state.setNotification identity
          { notification with phase := .returned code true }) := by
        apply invariant.setNotification
        rw [field]
        simp [Notification.objectField, Notification.called]
      exact changed
  | pending promise =>
      have changed : FieldInvariant (state.setNotification identity
          { notification with
            phase := .returned rqNotificationPending true
            awaiting := some promise }) := by
        apply invariant.setNotification
        rw [field]
        simp [Notification.objectField, Notification.called]
      exact changed

theorem FieldInvariant.step {state next : State} {action : Action}
    (invariant : FieldInvariant state)
    (stepTo : step state action = some next) :
    FieldInvariant next := by
  cases transition_of_step stepTo with
  | @arrive identity type context fresh =>
      apply invariant.setNotification
      by_cases skipped :
          !state.isolate || (state.handles.callbackFunction type).isNone
      · simp [fresh, State.arrival, Notification.objectField,
          Notification.called, skipped]
      · simp [fresh, State.arrival, Notification.objectField,
          Notification.called, skipped]
  | lockRequest found locking free => exact invariant.lockRequest _
  | @runMicrotask identity result rest notification queued found =>
      have changed : FieldInvariant (state.setNotification identity
          (notification.indicateCompletion (settledStatus result))) := by
        apply invariant.setNotification
        rw [found]
        rfl
      exact changed
  | returnFrom found calling => exact invariant.leave found calling _
  | _ => exact invariant

theorem fieldInvariant_of_run {schedule : List Action} {state : State}
    (runs : run CallbackEngine.step initial schedule = some state) :
    FieldInvariant state :=
  invariant_of_run (fun _ _ _ holds stepTo => FieldInvariant.step holds stepTo)
    (fun _ _ => rfl) runs

/-- In every run, a method that gets past its guard goes on with the context
of the notification that its object was made for; and for every such object,
of a request in progress or finished, the test of the internal field never
fires, so that only a null response or request makes the method throw. -/
theorem guard_of_run (provides : Nat → HttpObject → Bool)
    {schedule : List Action} {state : State}
    (runs : run CallbackEngine.step initial schedule = some state)
    (identity : Nat) (method : HttpMethod) :
    (∀ context,
      HttpMethod.guard provides state identity method = .ok context →
        ∃ notification, state.notifications identity = some notification ∧
          notification.called ∧ notification.context = context) ∧
    ∀ notification, state.notifications identity = some notification →
      notification.called →
        state.internalFields identity method.object =
          some notification.context ∧
        HttpMethod.guard provides state identity method =
          if provides notification.context method.object then
            .ok notification.context
          else .error method.message := by
  have field := fieldInvariant_of_run runs identity method.object
  constructor
  · intro context passed
    unfold HttpMethod.guard at passed
    rw [field] at passed
    cases found : state.notifications identity with
    | none => simp [found] at passed
    | some notification =>
        by_cases wasCalled : notification.called
        · simp only [found, Option.bind_some, Notification.objectField,
            wasCalled, if_true] at passed
          split at passed
          · cases passed
            exact ⟨notification, rfl, wasCalled, rfl⟩
          · cases passed
        · simp [found, Notification.objectField, wasCalled] at passed
  · intro notification found called
    have held : state.internalFields identity method.object =
        some notification.context := by
      simp [field, found, Notification.objectField, called]
    exact ⟨held, by simp [HttpMethod.guard, held]⟩

/-- A request whose callback returns "continue", so that it is finished. -/
def finishedRequest : List Action :=
  [.createIsolate, .lockNative, .register [.function 0], .unlockNative,
    .arrive 0 .beginRequest 7, .lockRequest 0, .returnFrom 0 .empty]

theorem guard_of_run_finishedRequest :
    ∃ final, run CallbackEngine.step initial finishedRequest = some final ∧
      HttpMethod.guard (fun _ _ => true) final 0 (.response .write) =
        .ok 7 := by
  have reached : ∃ final,
      run CallbackEngine.step initial finishedRequest = some final ∧
        final.notifications 0 =
          some ⟨.beginRequest, 7, .returned 0 true, none, []⟩ :=
    ⟨_, rfl, rfl⟩
  obtain ⟨final, runs, found⟩ := reached
  exact ⟨final, runs,
    ((guard_of_run (fun _ _ => true) runs 0 (.response .write)).2
      _ found rfl).2⟩

theorem finishedRequest_still_used :
    ∃ final, run CallbackEngine.step initial finishedRequest = some final ∧
      ¬ NoUseOfFinishedRequest (fun _ _ => true) final := by
  refine ⟨_, rfl, fun noUse => ?_⟩
  obtain ⟨other, notification, found, same, progress⟩ :=
    noUse 0 (.response .write) 7 rfl
  cases other with
  | zero =>
      cases found
      exact progress.1 rfl
  | succ other => cases found

end CallbackEngine

end IISModuleJS
