import IISModuleJS.CompletionProtocol

/-!
# The ways in which a callback gives its result

A callback of a request gives its result directly, by returning or throwing it,
or through a promise.  The promise may be settled when the callback returns it
or be settled later, and then the status of the notification is that of its
completion.

The conversion of a value to a status is the same on the three ways of
fulfilment, and rejections go through the same code.  Only an exception has an
exit of its own: it always lets the request continue, whatever was thrown.
-/

namespace IISModuleJS

namespace CallbackEngine

open ScheduledMachine State

/-- The status that ends a notification: what `handle_callback` returned, or
what the completion said if it returned "pending". -/
def Notification.finalStatus (notification : Notification) : Option Int :=
  match notification.phase, notification.awaiting with
  | .returned status _, none => some status
  | .returned _ _, some _ => notification.completions.head?
  | _, _ => none

def State.finalStatus (state : State) (identity : Nat) : Option Int :=
  (state.notifications identity).bind Notification.finalStatus

/-- How the result of a callback reaches `handle_callback`. -/
inductive Route
  | direct
  | settled (promise : Nat)
  | later (promise : Nat)
  deriving DecidableEq

/-- The result of the call: a value, nothing after an exception, or a
promise. -/
def Route.callResult (rejects : Bool) (value : JsValue) : Route → CallResult
  | .direct => if rejects then .empty else .value value
  | .settled promise => .value (.promise promise)
  | .later promise => .value (.promise promise)

/-- A promise that was settled with a value. -/
def settledWith (rejects : Bool) (value : JsValue) : PromiseState :=
  if rejects then .rejected value else .fulfilled value

/-- The promise of a route when the callback returns and at the end. -/
def Route.Taken (rejects : Bool) (value : JsValue) (atReturn atEnd : State) :
    Route → Prop
  | .direct => True
  | .settled promise =>
      atReturn.promises promise = settledWith rejects value
  | .later promise =>
      (atReturn.promises promise).settled = none ∧
        atEnd.promises promise = settledWith rejects value

/-- A run in which the callback of a request gives its result on some route,
up to a state in which no completion of the notification is waiting. -/
structure Execution (rejects : Bool) (value : JsValue) (route : Route) where
  earlier : List Action
  atReturn : State
  reached : run step initial earlier = some atReturn
  identity : Nat
  notification : Notification
  found : atReturn.notifications identity = some notification
  request : notification.type ≠ .preBeginRequest
  next : State
  returns : step atReturn
    (.returnFrom identity (route.callResult rejects value)) = some next
  later : List Action
  atEnd : State
  goesOn : run step next later = some atEnd
  taken : route.Taken rejects value atReturn atEnd
  completed : atEnd.queuedCompletions identity = []

/-- The final status of the notification. -/
def Execution.status {rejects : Bool} {value : JsValue} {route : Route}
    (execution : Execution rejects value route) : Option Int :=
  execution.atEnd.finalStatus execution.identity

/-- The status that a route gives. -/
def Route.status (rejects : Bool) (value : JsValue) (route : Route) : Int :=
  if rejects ∧ route = .direct then rqNotificationContinue
  else settledStatus value

theorem settled_settledWith (rejects : Bool) (value : JsValue) :
    (settledWith rejects value).settled = some value :=
  PromiseState.settled_ite rejects value

/-- The exit of a value that is no promise. -/
theorem callbackExit_plain {type : CallbackType}
    (request : type ≠ .preBeginRequest) (promises : Nat → PromiseState)
    {value : JsValue} (plain : ∀ promise, value ≠ .promise promise) :
    callbackExit type promises (.value value) =
      .status (settledStatus value) := by
  cases value with
  | promise identity => exact absurd rfl (plain identity)
  | _ => simp [callbackExit, request, settledStatus]

/-- A return comes from a call and leaves by the exit of its result. -/
theorem leave_of_returnFrom {state next : State} {identity : Nat}
    {notification : Notification} {result : CallResult}
    (found : state.notifications identity = some notification)
    (stepTo : step state (.returnFrom identity result) = some next) :
    (∃ function, notification.phase = .calling (some function)) ∧
      next = state.leave identity notification
        (callbackExit notification.type state.promises result) := by
  cases transition_of_step stepTo with
  | @returnFrom _ _ caller function lookup calling =>
      obtain rfl : notification = caller :=
        Option.some.inj (found.symm.trans lookup)
      exact ⟨⟨function, calling⟩, rfl⟩

section Executions

variable {rejects : Bool} {value : JsValue} {route : Route}
  (execution : Execution rejects value route)

/-- The exit of `handle_callback` in an execution. -/
def Execution.exit : Exit :=
  callbackExit execution.notification.type execution.atReturn.promises
    (route.callResult rejects value)

theorem Execution.next_of_status {code : Int}
    (exit : execution.exit = .status code) :
    execution.next.notifications execution.identity =
      some { execution.notification with phase := .returned code true } := by
  have left := (leave_of_returnFrom execution.found execution.returns).2
  unfold Execution.exit at exit
  rw [left, exit]
  simp [State.leave, State.setNotification]

theorem Execution.next_of_pending {promise : Nat}
    (exit : execution.exit = .pending promise) :
    execution.next.notifications execution.identity =
      some { execution.notification with
        phase := .returned rqNotificationPending true
        awaiting := some promise } := by
  have left := (leave_of_returnFrom execution.found execution.returns).2
  unfold Execution.exit at exit
  rw [left, exit]
  simp [State.leave, State.setNotification]

theorem Execution.awaiting_none :
    execution.notification.awaiting = none := by
  have invariant := completionInvariant_of_run execution.reached
  have consistent := invariant.consistent _ _ execution.found
  obtain ⟨⟨function, calling⟩, -⟩ :=
    leave_of_returnFrom execution.found execution.returns
  rw [Notification.Consistent, calling] at consistent
  exact consistent

theorem Execution.invariant_atEnd : CompletionInvariant execution.atEnd := by
  have before := completionInvariant_of_run execution.reached
  exact invariant_of_run (fun _ _ _ holds stepTo => holds.step stepTo)
    (before.step execution.returns) execution.goesOn

/-- An exit with a status is final. -/
theorem Execution.status_of_exit {code : Int}
    (exit : execution.exit = .status code) :
    execution.status = some code := by
  obtain ⟨last, found, extended⟩ :=
    extends_of_run execution.goesOn (execution.next_of_status exit) rfl
  have phase : last.phase = .returned code true := extended.2.1
  have awaiting : last.awaiting = none :=
    extended.2.2.1.trans execution.awaiting_none
  rw [Execution.status, State.finalStatus, found]
  simp [Notification.finalStatus, phase, awaiting]

/-- An exit with "pending" ends with the completion of the promise. -/
theorem Execution.status_of_pending {promise : Nat}
    (exit : execution.exit = .pending promise)
    (settled : execution.atEnd.promises promise = settledWith rejects value) :
    execution.status = some (settledStatus value) := by
  obtain ⟨last, found, extended⟩ :=
    extends_of_run execution.goesOn (execution.next_of_pending exit) rfl
  have phase : last.phase = .returned rqNotificationPending true :=
    extended.2.1
  have awaiting : last.awaiting = some promise := extended.2.2.1
  have delivered := execution.invariant_atEnd.delivered execution.identity
  rw [execution.completed, List.append_nil, completions_of_found found,
    State.expectedCompletions, awaiting_of_found found, awaiting,
    Option.bind_some, settled, settled_settledWith] at delivered
  rw [Execution.status, State.finalStatus, found]
  simp [Notification.finalStatus, phase, awaiting, delivered]

/-- Every route gives its status. -/
theorem Execution.status_eq (plain : ∀ promise, value ≠ .promise promise) :
    execution.status = some (route.status rejects value) := by
  cases route with
  | direct =>
      apply execution.status_of_exit
      cases rejects with
      | true => rfl
      | false => exact callbackExit_plain execution.request _ plain
  | settled promise =>
      apply execution.status_of_exit
      have settled : execution.atReturn.promises promise =
        settledWith rejects value := execution.taken
      rw [Execution.exit, Route.callResult,
        callbackExit_promise execution.request, settled, settled_settledWith]
      simp [Route.status]
  | later promise =>
      obtain ⟨unsettled, settled⟩ := execution.taken
      have exit : execution.exit = .pending promise := by
        rw [Execution.exit, Route.callResult,
          callbackExit_promise execution.request, unsettled]
      have status := execution.status_of_pending exit settled
      simpa [Route.status] using status

end Executions

/-- The agreement of the routes.  All routes of fulfilment give the same
status, and so do the two routes of rejection through a promise.  A callback
that throws lets the request continue, which is what a rejection gives exactly
if the value does not convert to a number other than zero. -/
theorem callbacks_agree {value : JsValue}
    (plain : ∀ promise, value ≠ .promise promise) :
    (∀ {first second : Route} (one : Execution false value first)
      (other : Execution false value second), one.status = other.status) ∧
    (∀ {first second : Route} (one : Execution true value first)
      (other : Execution true value second),
      first ≠ .direct → second ≠ .direct → one.status = other.status) ∧
    (∀ {route : Route} (thrown : Execution true value .direct)
      (rejected : Execution true value route), route ≠ .direct →
        thrown.status = some rqNotificationContinue ∧
        (thrown.status = rejected.status ↔ value.intOrZero = 0)) := by
  refine ⟨?_, ?_, ?_⟩
  · intro first second one other
    rw [one.status_eq plain, other.status_eq plain]
    simp [Route.status]
  · intro first second one other promised otherPromised
    rw [one.status_eq plain, other.status_eq plain]
    simp [Route.status, promised, otherPromised]
  · intro route thrown rejected promised
    rw [thrown.status_eq plain, rejected.status_eq plain]
    refine ⟨by simp [Route.status], ?_⟩
    by_cases zero : value.intOrZero = 0
    · simp [Route.status, promised, settledStatus, zero]
    · simp [Route.status, promised, settledStatus, zero,
        rqNotificationContinue, rqNotificationFinishRequest]

/-- The number one, which is `FINISH`. -/
def finish : JsValue :=
  .number (.finite 1)

/-- A request whose callback has been called; before that the script may have
settled a promise. -/
def calledRequest (settlement : List Action) : List Action :=
  [.createIsolate, .lockNative, .register [.function 0]] ++ settlement ++
    [.unlockNative, .arrive 0 .beginRequest 7, .lockRequest 0]

theorem exists_execution_direct (rejects : Bool) :
    Nonempty (Execution rejects finish .direct) := by
  cases rejects <;>
    exact ⟨⟨calledRequest [], _, rfl, 0, _, rfl, by decide, _, rfl, [], _, rfl,
      trivial, rfl⟩⟩

theorem exists_execution_settled (rejects : Bool) :
    Nonempty (Execution rejects finish (.settled 0)) := by
  cases rejects with
  | false =>
      exact ⟨⟨calledRequest [.settle 0 false finish], _, rfl, 0, _, rfl,
        by decide, _, rfl, [], _, rfl, rfl, rfl⟩⟩
  | true =>
      exact ⟨⟨calledRequest [.settle 0 true finish], _, rfl, 0, _, rfl,
        by decide, _, rfl, [], _, rfl, rfl, rfl⟩⟩

theorem exists_execution_later (rejects : Bool) :
    Nonempty (Execution rejects finish (.later 0)) := by
  cases rejects with
  | false =>
      exact ⟨⟨calledRequest [], _, rfl, 0, _, rfl, by decide, _, rfl,
        [.lockNative, .settle 0 false finish, .runMicrotask], _, rfl,
        ⟨rfl, rfl⟩, rfl⟩⟩
  | true =>
      exact ⟨⟨calledRequest [], _, rfl, 0, _, rfl, by decide, _, rfl,
        [.lockNative, .settle 0 true finish, .runMicrotask], _, rfl,
        ⟨rfl, rfl⟩, rfl⟩⟩

/-- Returning `FINISH` and fulfilling a promise with it later agree. -/
theorem callbacks_agree_finish :
    ∃ (returned : Execution false finish .direct)
      (fulfilled : Execution false finish (.later 0)),
      returned.status = fulfilled.status := by
  obtain ⟨returned⟩ := exists_execution_direct false
  obtain ⟨fulfilled⟩ := exists_execution_later false
  exact ⟨returned, fulfilled,
    (callbacks_agree (by simp [finish])).1 returned fulfilled⟩

/-- Throwing the number one lets the request continue; a promise rejected with
it finishes the request. -/
theorem throw_differs_from_rejection :
    ∃ (thrown : Execution true finish .direct)
      (rejected : Execution true finish (.settled 0))
      (later : Execution true finish (.later 0)),
      thrown.status = some rqNotificationContinue ∧
      rejected.status = some rqNotificationFinishRequest ∧
      later.status = some rqNotificationFinishRequest ∧
      thrown.status ≠ rejected.status := by
  have plain : ∀ promise, finish ≠ .promise promise := by simp [finish]
  obtain ⟨thrown⟩ := exists_execution_direct true
  obtain ⟨rejected⟩ := exists_execution_settled true
  obtain ⟨later⟩ := exists_execution_later true
  have continues := thrown.status_eq plain
  have finishes := rejected.status_eq plain
  have finishesLater := later.status_eq plain
  have status : settledStatus finish = rqNotificationFinishRequest := by decide
  simp only [Route.status] at continues finishes finishesLater
  refine ⟨thrown, rejected, later, ?_, ?_, ?_, ?_⟩
  · simpa using continues
  · simpa [status] using finishes
  · simpa [status] using finishesLater
  · rw [continues, finishes]
    decide

end CallbackEngine

end IISModuleJS
