import IISModuleJS.CallbackEngine

/-!
# Every notification is answered once

A notification is answered either by the status that `handle_callback`
returns, or, if the callback returned a promise that is still pending, by one
call of `IndicateCompletion` when that promise settles.

The proof follows the reactions.  A notification that waits for a promise
occurs once among the reactions of that promise until the promise settles;
from then on its completion is either queued as a microtask or done.
-/

namespace IISModuleJS

namespace CallbackEngine

open ScheduledMachine State

/-- The result of a settled promise. -/
def PromiseState.settled : PromiseState → Option JsValue
  | .pending _ => none
  | .fulfilled result => some result
  | .rejected result => some result

def PromiseState.reactions : PromiseState → List Nat
  | .pending reactions => reactions
  | _ => []

@[simp]
theorem PromiseState.settled_pending (reactions : List Nat) :
    (PromiseState.pending reactions).settled = none :=
  rfl

@[simp]
theorem PromiseState.reactions_pending (reactions : List Nat) :
    (PromiseState.pending reactions).reactions = reactions :=
  rfl

@[simp]
theorem PromiseState.settled_ite (rejects : Bool) (result : JsValue) :
    PromiseState.settled
      (if rejects then .rejected result else .fulfilled result) =
        some result := by
  cases rejects <;> rfl

@[simp]
theorem PromiseState.reactions_ite (rejects : Bool) (result : JsValue) :
    PromiseState.reactions
      (if rejects then .rejected result else .fulfilled result) = [] := by
  cases rejects <;> rfl

namespace State

def awaiting (state : State) (identity : Nat) : Option Nat :=
  (state.notifications identity).bind Notification.awaiting

def completions (state : State) (identity : Nat) : List Int :=
  ((state.notifications identity).map Notification.completions).getD []

/-- The statuses of the completions that wait in the microtask queue. -/
def queuedCompletions (state : State) (identity : Nat) : List Int :=
  (state.microtasks.filter fun task => task.1 = identity).map fun task =>
    settledStatus task.2

/-- The status that the promise of a notification settled with, if it has a
promise and this has settled. -/
def expectedCompletions (state : State) (identity : Nat) : List Int :=
  (((state.awaiting identity).bind fun promise =>
    (state.promises promise).settled).map settledStatus).toList

theorem awaiting_of_found {state : State} {identity : Nat}
    {notification : Notification}
    (found : state.notifications identity = some notification) :
    state.awaiting identity = notification.awaiting := by
  simp [awaiting, found]

theorem completions_of_found {state : State} {identity : Nat}
    {notification : Notification}
    (found : state.notifications identity = some notification) :
    state.completions identity = notification.completions := by
  simp [completions, found]

theorem awaiting_setNotification (state : State) (identity other : Nat)
    (notification : Notification) :
    (state.setNotification identity notification).awaiting other =
      if other = identity then notification.awaiting
      else state.awaiting other := by
  by_cases same : other = identity <;>
    simp [awaiting, setNotification, same]

theorem completions_setNotification (state : State) (identity other : Nat)
    (notification : Notification) :
    (state.setNotification identity notification).completions other =
      if other = identity then notification.completions
      else state.completions other := by
  by_cases same : other = identity <;>
    simp [completions, setNotification, same]

end State

/-- The statuses that end a notification of a given type. -/
def FinalStatus (type : CallbackType) (status : Int) : Prop :=
  if type = .preBeginRequest then
    status = glNotificationContinue ∨ status = glNotificationHandled
  else
    status = rqNotificationContinue ∨ status = rqNotificationFinishRequest

theorem settledStatus_cases (result : JsValue) :
    settledStatus result = rqNotificationContinue ∨
      settledStatus result = rqNotificationFinishRequest := by
  unfold settledStatus
  split <;> simp

/-- The callback of a request notification returned a promise that is still
pending. -/
def ReturnsPending (type : CallbackType) (promises : Nat → PromiseState)
    (result : CallResult) (promise : Nat) : Prop :=
  type ≠ .preBeginRequest ∧ result = .value (.promise promise) ∧
    (promises promise).settled = none

theorem finalStatus_ite (type : CallbackType) (flag : Prop)
    [Decidable flag] :
    FinalStatus type
      (if flag then
        if type = .preBeginRequest then glNotificationHandled
        else rqNotificationFinishRequest
      else rqNotificationContinue) := by
  unfold FinalStatus
  split <;> split <;> simp [rqNotificationContinue, glNotificationContinue]

theorem finalStatus_settledStatus {type : CallbackType}
    (request : type ≠ .preBeginRequest) (result : JsValue) :
    FinalStatus type (settledStatus result) := by
  simpa [FinalStatus, request] using settledStatus_cases result

theorem callbackExit_promise {type : CallbackType}
    (request : type ≠ .preBeginRequest) (promises : Nat → PromiseState)
    (identity : Nat) :
    callbackExit type promises (.value (.promise identity)) =
      match (promises identity).settled with
      | none => .pending identity
      | some settled => .status (settledStatus settled) := by
  cases found : promises identity <;>
    simp [callbackExit, request, found, PromiseState.settled]

/-- What `handle_callback` does with the result of the callback: it attaches
its reaction exactly to a pending promise, and all other exits are final. -/
theorem callbackExit_spec (type : CallbackType)
    (promises : Nat → PromiseState) (result : CallResult) :
    (∃ promise, ReturnsPending type promises result promise ∧
      callbackExit type promises result = .pending promise) ∨
    ((∀ promise, ¬ ReturnsPending type promises result promise) ∧
      ∃ code, callbackExit type promises result = .status code ∧
        FinalStatus type code) := by
  have continues : FinalStatus type 0 := by
    simp [FinalStatus, rqNotificationContinue, glNotificationContinue]
  cases result with
  | empty =>
      right
      exact ⟨by simp [ReturnsPending], 0, rfl, continues⟩
  | value result =>
      by_cases skipped : type = .preBeginRequest ∧ !result.isNumber
      · right
        exact ⟨by simp [ReturnsPending, skipped.1], 0,
          by simp [callbackExit, skipped], continues⟩
      cases result with
      | promise identity =>
          have request : type ≠ .preBeginRequest := by
            intro same
            exact skipped ⟨same, rfl⟩
          cases found : (promises identity).settled with
          | none =>
              left
              exact ⟨identity, ⟨request, rfl, found⟩,
                by simp [callbackExit_promise request, found]⟩
          | some settled =>
              right
              refine ⟨?_, settledStatus settled,
                by simp [callbackExit_promise request, found],
                finalStatus_settledStatus request settled⟩
              rintro promise ⟨-, same, unsettled⟩
              cases same
              simp [found] at unsettled
      | _ =>
          right
          refine ⟨by simp [ReturnsPending], _,
            by simp only [callbackExit, skipped, if_false]; rfl,
            finalStatus_ite type _⟩

/-- The status of a notification and the promise it waits for belong
together. -/
def Notification.Consistent (notification : Notification) : Prop :=
  match notification.phase with
  | .returned status _ =>
      (notification.awaiting = none ∧
        FinalStatus notification.type status) ∨
      (notification.awaiting.isSome ∧
        notification.type ≠ .preBeginRequest ∧
        status = rqNotificationPending)
  | _ => notification.awaiting = none

/-- Each waiting notification has one reaction at its promise and nowhere
else, and the completions that were made or are queued for it are what the
promise settled with. -/
structure CompletionInvariant (state : State) : Prop where
  consistent : ∀ identity notification,
    state.notifications identity = some notification →
      notification.Consistent
  attached : ∀ identity promise,
    (state.promises promise).reactions.count identity =
      if state.awaiting identity = some promise ∧
          (state.promises promise).settled = none then 1
      else 0
  delivered : ∀ identity,
    state.completions identity ++ state.queuedCompletions identity =
      state.expectedCompletions identity

theorem completionInvariant_initial : CompletionInvariant initial where
  consistent := by
    intro identity notification found
    cases found
  attached := by
    intro identity promise
    simp [initial, State.awaiting]
  delivered := by
    intro identity
    rfl

/-- Steps that touch neither notifications nor promises nor the queue. -/
theorem CompletionInvariant.of_same {state next : State}
    (invariant : CompletionInvariant state)
    (notifications : next.notifications = state.notifications)
    (promises : next.promises = state.promises)
    (microtasks : next.microtasks = state.microtasks) :
    CompletionInvariant next where
  consistent := by
    rw [notifications]
    exact invariant.consistent
  attached := by
    intro identity promise
    rw [promises, State.awaiting, notifications]
    exact invariant.attached identity promise
  delivered := by
    intro identity
    rw [State.completions, State.queuedCompletions,
      State.expectedCompletions, State.awaiting, notifications, promises,
      microtasks]
    exact invariant.delivered identity

/-- Replacing a notification by a consistent one that waits for the same
promise and has the same completions. -/
theorem CompletionInvariant.setNotification {state : State}
    (invariant : CompletionInvariant state) {identity : Nat}
    {notification : Notification}
    (consistent : notification.Consistent)
    (awaiting : notification.awaiting = state.awaiting identity)
    (completions : notification.completions = state.completions identity) :
    CompletionInvariant (state.setNotification identity notification) := by
  have sameAwaiting :
      (state.setNotification identity notification).awaiting =
        state.awaiting := by
    funext other
    rw [awaiting_setNotification]
    split
    next same => rw [awaiting, same]
    next => rfl
  have sameCompletions :
      (state.setNotification identity notification).completions =
        state.completions := by
    funext other
    rw [completions_setNotification]
    split
    next same => rw [completions, same]
    next => rfl
  constructor
  · intro other changed found
    obtain ⟨-, rfl⟩ | ⟨-, unchanged⟩ := notifications_setNotification found
    · exact consistent
    · exact invariant.consistent other changed unchanged
  · intro other promise
    rw [sameAwaiting]
    exact invariant.attached other promise
  · intro other
    rw [sameCompletions, State.expectedCompletions, sameAwaiting]
    exact invariant.delivered other

theorem queuedCompletions_append (state : State) (reactions : List Nat)
    (result : JsValue) (promises : Nat → PromiseState) (identity : Nat) :
    State.queuedCompletions
        { state with
          promises := promises
          microtasks :=
            state.microtasks ++ reactions.map fun reaction =>
              (reaction, result) } identity =
      state.queuedCompletions identity ++
        List.replicate (reactions.count identity)
          (settledStatus result) := by
  simp only [State.queuedCompletions, List.filter_append, List.map_append]
  congr 1
  induction reactions with
  | nil => rfl
  | cons reaction rest ih =>
      by_cases same : reaction = identity
      · simp [same, ih, List.replicate_succ]
      · simp [same, ih]

theorem CompletionInvariant.settle {state : State}
    (invariant : CompletionInvariant state) {promise : Nat}
    (rejects : Bool) (result : JsValue) {reactions : List Nat}
    (pending : state.promises promise = .pending reactions) :
    CompletionInvariant
      { state with
        promises := Function.update state.promises promise
          (if rejects then .rejected result else .fulfilled result)
        microtasks :=
          state.microtasks ++ reactions.map fun reaction =>
            (reaction, result) } := by
  constructor
  · exact invariant.consistent
  · intro identity other
    by_cases same : other = promise
    · subst same
      simp
    · simp only [Function.update_of_ne same]
      exact invariant.attached identity other
  · intro identity
    have count := invariant.attached identity promise
    simp only [pending, PromiseState.reactions_pending,
      PromiseState.settled_pending, and_true] at count
    rw [queuedCompletions_append, count, ← List.append_assoc]
    change state.completions identity ++ state.queuedCompletions identity ++
      _ = _
    rw [invariant.delivered identity]
    by_cases waiting : state.awaiting identity = some promise
    · have unsettled : state.expectedCompletions identity = [] := by
        simp [State.expectedCompletions, waiting, pending]
      simp only [waiting, if_true, unsettled]
      change _ = (((state.awaiting identity).bind _).map _).toList
      simp [waiting]
    · have elsewhere : ((state.awaiting identity).bind fun other =>
          (Function.update state.promises promise
            (if rejects then .rejected result
              else .fulfilled result) other).settled) =
          (state.awaiting identity).bind fun other =>
            (state.promises other).settled := by
        cases found : state.awaiting identity with
        | none => rfl
        | some other =>
            have different : other ≠ promise := by
              intro same
              exact waiting (by rw [found, same])
            simp [different]
      simp only [waiting, if_false, List.replicate_zero, List.append_nil]
      change _ = (((state.awaiting identity).bind _).map _).toList
      rw [elsewhere]
      rfl

theorem queuedCompletions_cons {state : State} {identity : Nat}
    {result : JsValue} {rest : List (Nat × JsValue)}
    (queued : state.microtasks = (identity, result) :: rest)
    (other : Nat) :
    state.queuedCompletions other =
      (if other = identity then [settledStatus result] else []) ++
        State.queuedCompletions { state with microtasks := rest } other := by
  by_cases same : other = identity
  · simp [State.queuedCompletions, queued, same]
  · simp [State.queuedCompletions, queued, same, Ne.symm same]

/-- Running a microtask moves one completion from the queue to its
notification. -/
theorem CompletionInvariant.runMicrotask {state : State}
    (invariant : CompletionInvariant state) {identity : Nat}
    {result : JsValue} {rest : List (Nat × JsValue)}
    {notification : Notification}
    (queued : state.microtasks = (identity, result) :: rest)
    (found : state.notifications identity = some notification) :
    CompletionInvariant
      { state.setNotification identity
          (notification.indicateCompletion (settledStatus result)) with
        microtasks := rest } := by
  have sameAwaiting : ∀ other,
      (state.setNotification identity
        (notification.indicateCompletion
          (settledStatus result))).awaiting other =
        state.awaiting other := by
    intro other
    rw [awaiting_setNotification]
    split
    next same => simp [same, awaiting_of_found found]
    next => rfl
  constructor
  · intro other changed lookup
    obtain ⟨-, rfl⟩ | ⟨-, unchanged⟩ := notifications_setNotification lookup
    · exact invariant.consistent identity notification found
    · exact invariant.consistent other changed unchanged
  · intro other promise
    have attached := invariant.attached other promise
    rw [← sameAwaiting other] at attached
    exact attached
  · intro other
    have delivered := invariant.delivered other
    rw [queuedCompletions_cons queued, ← List.append_assoc] at delivered
    have expected : State.expectedCompletions
        { state.setNotification identity
            (notification.indicateCompletion (settledStatus result)) with
          microtasks := rest } other =
        state.expectedCompletions other := by
      rw [State.expectedCompletions, State.expectedCompletions,
        ← sameAwaiting other]
      rfl
    rw [expected, ← delivered]
    congr 1
    change (state.setNotification identity _).completions other = _
    rw [completions_setNotification]
    split
    next same => simp [same, completions_of_found found]
    next => simp

/-- A notification that waits for nothing starts to wait for a pending
promise. -/
theorem CompletionInvariant.attach {state : State}
    (invariant : CompletionInvariant state) {identity promise : Nat}
    {notification : Notification} {reactions : List Nat}
    (pending : state.promises promise = .pending reactions)
    (idle : state.awaiting identity = none)
    (consistent : notification.Consistent)
    (awaiting : notification.awaiting = some promise)
    (completions : notification.completions = state.completions identity) :
    CompletionInvariant
      { state.setNotification identity notification with
        promises := state.addReaction promise identity } := by
  have added : state.addReaction promise identity =
      Function.update state.promises promise
        (.pending (reactions ++ [identity])) := by
    rw [State.addReaction, pending]
  have settled : ∀ other,
      (state.addReaction promise identity other).settled =
        (state.promises other).settled := by
    intro other
    rw [added]
    by_cases same : other = promise
    · subst same
      simp [pending]
    · simp [same]
  constructor
  · intro other changed found
    obtain ⟨-, rfl⟩ | ⟨-, unchanged⟩ := notifications_setNotification found
    · exact consistent
    · exact invariant.consistent other changed unchanged
  · intro other target
    change (state.addReaction promise identity target).reactions.count other =
      if (state.setNotification identity notification).awaiting other =
          some target ∧
        (state.addReaction promise identity target).settled = none then 1
      else 0
    have attached := invariant.attached other target
    rw [awaiting_setNotification, settled]
    by_cases sameTarget : target = promise
    · subst sameTarget
      have grown :
          (state.addReaction target identity target).reactions =
            (state.promises target).reactions ++ [identity] := by
        rw [added, pending]
        simp
      rw [grown, List.count_append, attached]
      by_cases same : other = identity
      · subst same
        simp [idle, awaiting, pending]
      · simp [same, Ne.symm same]
    · have kept : (state.addReaction promise identity target).reactions =
          (state.promises target).reactions := by
        rw [added, Function.update_of_ne sameTarget]
      rw [kept, attached]
      by_cases same : other = identity
      · subst same
        simp [idle, awaiting, Ne.symm sameTarget]
      · simp [same]
  · intro other
    have delivered := invariant.delivered other
    change (state.setNotification identity notification).completions other ++
        state.queuedCompletions other =
      ((((state.setNotification identity notification).awaiting other).bind
        fun target => (state.addReaction promise identity target).settled).map
          settledStatus).toList
    simp only [settled]
    rw [completions_setNotification, awaiting_setNotification]
    by_cases same : other = identity
    · subst same
      simpa [State.expectedCompletions, idle, awaiting, pending,
        completions] using delivered
    · simp only [same, if_false]
      exact delivered

theorem CompletionInvariant.leave {state : State}
    (invariant : CompletionInvariant state) {identity : Nat}
    {notification : Notification} {function : JsValue}
    (found : state.notifications identity = some notification)
    (calling : notification.phase = .calling (some function))
    (result : CallResult) :
    CompletionInvariant (state.leave identity notification
      (callbackExit notification.type state.promises result)) := by
  have idle : notification.awaiting = none := by
    have consistent := invariant.consistent identity notification found
    rw [Notification.Consistent, calling] at consistent
    exact consistent
  obtain ⟨promise, ⟨request, -, unsettled⟩, exit⟩ | ⟨-, code, exit, final⟩ :=
    callbackExit_spec notification.type state.promises result
  · rw [exit]
    cases pending : state.promises promise with
    | pending reactions =>
        have attached := invariant.attach pending
          ((awaiting_of_found found).trans idle)
          (show Notification.Consistent
            { notification with
              phase := .returned rqNotificationPending true
              awaiting := some promise } from
            .inr ⟨rfl, request, rfl⟩) rfl
          (completions_of_found found).symm
        exact attached.of_same rfl rfl rfl
    | fulfilled settled =>
        simp [pending, PromiseState.settled] at unsettled
    | rejected settled =>
        simp [pending, PromiseState.settled] at unsettled
  · rw [exit]
    have changed : CompletionInvariant (state.setNotification identity
        { notification with phase := .returned code true }) :=
      invariant.setNotification (.inl ⟨idle, final⟩)
        (awaiting_of_found found).symm (completions_of_found found).symm
    exact changed.of_same rfl rfl rfl

theorem consistent_arrival (state : State) (type : CallbackType)
    (context : Nat) : (state.arrival type context).Consistent := by
  by_cases skipped :
      !state.isolate || (state.handles.callbackFunction type).isNone
  · simp [Notification.Consistent, State.arrival, skipped, FinalStatus,
      glNotificationContinue, rqNotificationContinue]
  · simp [Notification.Consistent, State.arrival, skipped]

theorem CompletionInvariant.step {state next : State} {action : Action}
    (invariant : CompletionInvariant state)
    (stepTo : step state action = some next) :
    CompletionInvariant next := by
  cases transition_of_step stepTo with
  | createIsolate => exact invariant.of_same rfl rfl rfl
  | arrive fresh =>
      exact invariant.setNotification (consistent_arrival _ _ _)
        (by simp [State.awaiting, fresh, State.arrival])
        (by simp [State.completions, fresh, State.arrival])
  | @lockRequest identity notification found locking free =>
      have idle := invariant.consistent identity notification found
      rw [Notification.Consistent, locking] at idle
      have changed := invariant.setNotification
        (show Notification.Consistent
          { notification with
            phase := .calling
              (state.handles.callbackFunction notification.type) } from idle)
        (awaiting_of_found found).symm (completions_of_found found).symm
      exact changed.of_same rfl rfl rfl
  | lockNative free => exact invariant.of_same rfl rfl rfl
  | unlockNative held => exact invariant.of_same rfl rfl rfl
  | resetEngine free => exact invariant.of_same rfl rfl rfl
  | register registered => exact invariant.of_same rfl rfl rfl
  | registerThrows => exact invariant
  | fsRegister registered => exact invariant.of_same rfl rfl rfl
  | fsRegisterThrows => exact invariant
  | settle pending => exact invariant.settle _ _ pending
  | runMicrotask queued found => exact invariant.runMicrotask queued found
  | returnFrom found calling => exact invariant.leave found calling _

theorem completionInvariant_of_run {schedule : List Action} {state : State}
    (runs : run CallbackEngine.step initial schedule = some state) :
    CompletionInvariant state :=
  invariant_of_run (fun _ _ _ holds stepTo => holds.step stepTo)
    completionInvariant_initial runs

/-- How a notification is answered.  As long as `handle_callback` has not
returned there is no completion.  After that it either returned a final status
and there is no completion, or it returned "pending" and the only completion,
made or queued, is that of its promise. -/
def Answered (state : State) (identity : Nat)
    (notification : Notification) : Prop :=
  match notification.phase with
  | .returned status _ =>
      (FinalStatus notification.type status ∧
        notification.awaiting = none ∧ notification.completions = [] ∧
        state.queuedCompletions identity = []) ∨
      ∃ promise, notification.awaiting = some promise ∧
        notification.type ≠ .preBeginRequest ∧
        status = rqNotificationPending ∧
        match (state.promises promise).settled with
        | none =>
            notification.completions = [] ∧
              state.queuedCompletions identity = []
        | some result =>
            (settledStatus result = rqNotificationContinue ∨
              settledStatus result = rqNotificationFinishRequest) ∧
            ((notification.completions = [settledStatus result] ∧
              state.queuedCompletions identity = []) ∨
            (notification.completions = [] ∧
              state.queuedCompletions identity = [settledStatus result]))
  | _ =>
      notification.completions = [] ∧ state.queuedCompletions identity = []

theorem CompletionInvariant.answered {state : State}
    (invariant : CompletionInvariant state) {identity : Nat}
    {notification : Notification}
    (found : state.notifications identity = some notification) :
    Answered state identity notification := by
  have consistent := invariant.consistent identity notification found
  have delivered := invariant.delivered identity
  rw [completions_of_found found, State.expectedCompletions,
    awaiting_of_found found] at delivered
  have unawaited (idle : notification.awaiting = none) :
      notification.completions = [] ∧
        state.queuedCompletions identity = [] := by
    simpa [idle] using delivered
  unfold Notification.Consistent at consistent
  unfold Answered
  split
  next status called returned =>
    rw [returned] at consistent
    obtain ⟨idle, final⟩ | ⟨waiting, request, pending⟩ := consistent
    · exact .inl ⟨final, idle, unawaited idle⟩
    · obtain ⟨promise, awaited⟩ := Option.isSome_iff_exists.mp waiting
      refine .inr ⟨promise, awaited, request, pending, ?_⟩
      cases settled : (state.promises promise).settled with
      | none => simpa [awaited, settled] using delivered
      | some result =>
          refine ⟨settledStatus_cases result, ?_⟩
          have single : notification.completions ++
              state.queuedCompletions identity = [settledStatus result] := by
            simpa [awaited, settled] using delivered
          rcases List.append_eq_singleton_iff.mp single with
            ⟨made, queued⟩ | ⟨made, queued⟩
          · exact .inr ⟨made, queued⟩
          · exact .inl ⟨made, queued⟩
  next unreturned =>
    apply unawaited
    split at consistent
    next status called returned => exact (unreturned status called returned).elim
    next => exact consistent

/-- What a return of `handle_callback` does to its notification. -/
def ReturnsBy (state : State) (type : CallbackType) (result : CallResult)
    (returned : Notification) : Prop :=
  (∃ promise, ReturnsPending type state.promises result promise ∧
    returned.phase = .returned rqNotificationPending true ∧
    returned.awaiting = some promise) ∨
  ((∀ promise, ¬ ReturnsPending type state.promises result promise) ∧
    ∃ status, returned.phase = .returned status true ∧
      FinalStatus type status ∧ returned.awaiting = none)

theorem CompletionInvariant.returnFrom {state next : State}
    (invariant : CompletionInvariant state) {identity : Nat}
    {notification : Notification} {result : CallResult}
    (found : state.notifications identity = some notification)
    (stepTo : CallbackEngine.step state (.returnFrom identity result) =
      some next) :
    ∃ returned, next.notifications identity = some returned ∧
      returned.type = notification.type ∧
      ReturnsBy state notification.type result returned := by
  cases transition_of_step stepTo with
  | @returnFrom _ _ caller function lookup calling =>
      obtain rfl : notification = caller := by
        simpa [found] using lookup
      have idle := invariant.consistent identity notification found
      rw [Notification.Consistent, calling] at idle
      obtain ⟨promise, pending, exit⟩ | ⟨never, code, exit, final⟩ :=
        callbackExit_spec notification.type state.promises result
      · rw [exit]
        refine ⟨{ notification with
            phase := .returned rqNotificationPending true
            awaiting := some promise }, ?_, rfl,
          .inl ⟨promise, pending, rfl, rfl⟩⟩
        simp [State.leave, State.setNotification]
      · rw [exit]
        refine ⟨{ notification with phase := .returned code true }, ?_, rfl,
          .inr ⟨never, code, rfl, final, idle⟩⟩
        simp [State.leave, State.setNotification]

/-- After the return only completions can be added. -/
def Notification.Extends (before after : Notification) : Prop :=
  after.type = before.type ∧ after.phase = before.phase ∧
    after.awaiting = before.awaiting ∧
    before.completions <+: after.completions

theorem Notification.Extends.refl (notification : Notification) :
    notification.Extends notification :=
  ⟨rfl, rfl, rfl, List.prefix_rfl⟩

theorem Notification.Extends.trans {first second third : Notification}
    (left : first.Extends second) (right : second.Extends third) :
    first.Extends third :=
  ⟨right.1.trans left.1, right.2.1.trans left.2.1,
    right.2.2.1.trans left.2.2.1, left.2.2.2.trans right.2.2.2⟩

theorem extends_of_step {state next : State} {action : Action}
    (stepTo : CallbackEngine.step state action = some next)
    {identity : Nat} {notification : Notification} {status : Int}
    {called : Bool}
    (found : state.notifications identity = some notification)
    (returned : notification.phase = .returned status called) :
    ∃ later, next.notifications identity = some later ∧
      notification.Extends later := by
  have unchanged (other : Nat) (changed : Notification)
      (different : identity ≠ other) :
      ∃ later, (state.setNotification other changed).notifications identity =
          some later ∧ notification.Extends later :=
    ⟨notification, by simpa [State.setNotification, different] using found,
      .refl notification⟩
  cases transition_of_step stepTo with
  | @arrive other _ _ fresh =>
      refine unchanged other _ ?_
      rintro rfl
      simp [found] at fresh
  | @lockRequest other caller lookup locking free =>
      refine unchanged other _ ?_
      rintro rfl
      obtain rfl : notification = caller := by
        simpa [found] using lookup
      simp [returned] at locking
  | @runMicrotask other result rest caller queued lookup =>
      by_cases same : identity = other
      · subst same
        obtain rfl : notification = caller := by
          simpa [found] using lookup
        exact ⟨notification.indicateCompletion (settledStatus result),
          by simp [State.setNotification],
          rfl, rfl, rfl, List.prefix_append _ _⟩
      · exact unchanged other _ same
  | @returnFrom other result caller function lookup calling =>
      have different : identity ≠ other := by
        rintro rfl
        obtain rfl : notification = caller := by
          simpa [found] using lookup
        simp [returned] at calling
      cases callbackExit caller.type state.promises result with
      | status code => exact unchanged other _ different
      | pending promise => exact unchanged other _ different
  | _ => exact ⟨notification, found, .refl notification⟩

/-- The answer of a returned notification never changes, except that its
completion is added. -/
theorem extends_of_run {state final : State} {schedule : List Action}
    (runs : run CallbackEngine.step state schedule = some final)
    {identity : Nat} {notification : Notification} {status : Int}
    {called : Bool}
    (found : state.notifications identity = some notification)
    (returned : notification.phase = .returned status called) :
    ∃ later, final.notifications identity = some later ∧
      notification.Extends later := by
  refine @invariant_of_run _ _ _
    (fun reached =>
      ∃ later, reached.notifications identity = some later ∧
        notification.Extends later)
    ?_ _ _ _ ⟨notification, found, .refl notification⟩ runs
  rintro reached action next ⟨later, lookup, extended⟩ stepTo
  obtain ⟨last, lastLookup, lastExtended⟩ :=
    extends_of_step stepTo lookup (extended.2.1.trans returned)
  exact ⟨last, lastLookup, extended.trans lastExtended⟩

theorem scriptRunning_setNotification {state : State} {identity : Nat}
    {notification changed : Notification}
    (found : state.notifications identity = some notification)
    (samePhase : changed.phase = notification.phase) :
    (state.setNotification identity changed).scriptRunning =
      state.scriptRunning := by
  unfold State.scriptRunning
  cases owner : state.lockOwner with
  | none => simp [State.setNotification, owner]
  | some holder =>
      cases holder with
      | native => simp [State.setNotification, owner]
      | request caller =>
          by_cases same : caller = identity
          · subst same
            simp [State.setNotification, owner, found, samePhase]
          · simp [State.setNotification, owner, same]

theorem CompletionInvariant.isSome_of_queued {state : State}
    (invariant : CompletionInvariant state) {identity : Nat}
    {result : JsValue} {rest : List (Nat × JsValue)}
    (queued : state.microtasks = (identity, result) :: rest) :
    ∃ notification, state.notifications identity = some notification := by
  cases found : state.notifications identity with
  | some notification => exact ⟨notification, rfl⟩
  | none =>
      have delivered := invariant.delivered identity
      rw [queuedCompletions_cons queued] at delivered
      simp [State.completions, State.expectedCompletions, State.awaiting,
        found] at delivered

/-- A running script can empty the microtask queue. -/
theorem CompletionInvariant.exists_drained {state : State}
    (invariant : CompletionInvariant state)
    (running : state.scriptRunning) :
    ∃ drained,
      run CallbackEngine.step state
        (List.replicate state.microtasks.length .runMicrotask) =
          some drained ∧
      drained.microtasks = [] := by
  generalize lengthEq : state.microtasks.length = length
  induction length generalizing state with
  | zero => exact ⟨state, rfl, List.length_eq_zero_iff.mp lengthEq⟩
  | succ length ih =>
      obtain ⟨⟨identity, result⟩, rest, queued⟩ :=
        List.exists_cons_of_length_eq_add_one lengthEq
      obtain ⟨notification, found⟩ := invariant.isSome_of_queued queued
      have stepTo : CallbackEngine.step state .runMicrotask =
          some
            { state.setNotification identity
                (notification.indicateCompletion (settledStatus result)) with
              microtasks := rest } := by
        simp [CallbackEngine.step, running, queued, found]
      have stillRunning : (state.setNotification identity
          (notification.indicateCompletion
            (settledStatus result))).scriptRunning := by
        rw [scriptRunning_setNotification found
          (notification.phase_indicateCompletion _)]
        exact running
      obtain ⟨drained, runs, empty⟩ := ih (invariant.step stepTo)
        stillRunning (by simpa [queued] using lengthEq)
      exact ⟨drained, run_cons_eq_some.mpr ⟨_, stepTo, runs⟩, empty⟩

/-- The completion protocol.  In every reachable state each notification is
answered properly; a return gives "pending" exactly for a pending promise and
a final status otherwise; an answer never changes later, except that the
completion of the promise is added; and a running script can carry out all
queued completions. -/
theorem completionProtocol {schedule : List Action} {state : State}
    (runs : run CallbackEngine.step initial schedule = some state) :
    (∀ identity notification,
      state.notifications identity = some notification →
        Answered state identity notification) ∧
    (∀ identity notification result next,
      state.notifications identity = some notification →
        CallbackEngine.step state (.returnFrom identity result) = some next →
          ∃ returned, next.notifications identity = some returned ∧
            returned.type = notification.type ∧
            ReturnsBy state notification.type result returned) ∧
    (∀ identity notification status called later final,
      state.notifications identity = some notification →
        notification.phase = .returned status called →
          run CallbackEngine.step state later = some final →
            ∃ last, final.notifications identity = some last ∧
              notification.Extends last) ∧
    (state.scriptRunning →
      ∃ drained,
        run CallbackEngine.step state
          (List.replicate state.microtasks.length .runMicrotask) =
            some drained ∧
        drained.microtasks = []) := by
  have invariant := completionInvariant_of_run runs
  refine ⟨?_, ?_, ?_, invariant.exists_drained⟩
  · intro identity notification found
    exact invariant.answered found
  · intro identity notification result next found stepTo
    exact invariant.returnFrom found stepTo
  · intro identity notification status called later final found returned
      laterRuns
    exact extends_of_run laterRuns found returned

/-- A request whose callback returns a pending promise that a worker settles
later. -/
def promiseRequest : List Action :=
  [.createIsolate, .lockNative, .register [.function 0], .unlockNative,
    .arrive 0 .beginRequest 7, .lockRequest 0,
    .returnFrom 0 (.value (.promise 3)), .lockNative,
    .settle 3 false (.number (.finite 2)), .runMicrotask]

theorem completionProtocol_promiseRequest :
    ∃ final, run CallbackEngine.step initial promiseRequest = some final ∧
      final.completions 0 = [rqNotificationFinishRequest] ∧
      ∀ identity notification,
        final.notifications identity = some notification →
          Answered final identity notification := by
  have runs : ∃ final,
      run CallbackEngine.step initial promiseRequest = some final ∧
        final.completions 0 = [rqNotificationFinishRequest] :=
    ⟨_, rfl, rfl⟩
  obtain ⟨final, runs, completed⟩ := runs
  exact ⟨final, runs, completed, (completionProtocol runs).1⟩

end CallbackEngine

end IISModuleJS
