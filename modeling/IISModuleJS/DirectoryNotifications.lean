import IISModuleJS.ScheduledMachine

/-!
# Notifications about the filesystem directory

After its scan, `load_and_watch` waits up to a second for a change of the
filesystem directory and calls `directory_change_callback` if there was one.
The notification handle is meant to be kept after a time-out, but the result of
the wait is stored in a new variable of the loop body that hides the one tested
at the top.  So every round opens a new handle, and a new handle knows nothing
of earlier changes.

A change is therefore noticed if it is made while the loop waits on its handle
or sleeps before the callback, and can be lost at every other moment.
-/

namespace IISModuleJS

namespace DirectoryNotifications

open ScheduledMachine

/-- The results of `WaitForSingleObject`. -/
inductive WaitResult
  | object0
  | timeout
  | failed
  deriving DecidableEq

/-- The next operation of the loop: the scan with its possible reload,
`FindFirstChangeNotificationW`, `WaitForSingleObject`, `Sleep`, or the rest of
the callback. -/
inductive Phase
  | scanning
  | notifying
  | waiting
  | sleeping
  | calling
  deriving DecidableEq

/-- A notification handle is signalled by the changes made after it was
created, and stays signalled. -/
structure Handle where
  signalled : Bool
  deriving DecidableEq

/-- The variables of the loop.  `waitFor` is the one declared before it.
`opened` and `unanswered` are a history: whether a handle was opened, and how
many changes since then no callback has followed. -/
structure State where
  phase : Phase
  waitFor : WaitResult
  changeNotifyHandle : Option Handle
  opened : Bool
  unanswered : Nat
  deriving DecidableEq

inductive Action
  | change
  | scan
  | findFirstChangeNotification (succeeds : Bool)
  | waitForSingleObject (result : WaitResult)
  | directoryChangeCallback
  | callbackReturns
  deriving DecidableEq

/-- The results that a wait can have. -/
def canReturn (handle : Option Handle) : WaitResult → Bool
  | .object0 => handle == some ⟨true⟩
  | .timeout => handle == some ⟨false⟩
  | .failed => handle == none

/-- The directory changes.  Handles remember it. -/
def State.afterChange (state : State) : State :=
  { state with
    changeNotifyHandle := state.changeNotifyHandle.map fun _ => ⟨true⟩
    unanswered :=
      if state.opened then state.unanswered + 1 else state.unanswered }

/-- The result of the wait is tested, but not stored in `waitFor`. -/
def step (state : State) : Action → Option State
  | .change => some state.afterChange
  | .scan =>
      if state.phase = .scanning then
        some { state with phase := .notifying }
      else
        none
  | .findFirstChangeNotification succeeds =>
      if state.phase = .notifying then
        if state.waitFor ≠ .timeout then
          some { state with
            phase := .waiting
            changeNotifyHandle := if succeeds then some ⟨false⟩ else none
            opened := state.opened || succeeds }
        else
          some { state with phase := .waiting }
      else
        none
  | .waitForSingleObject result =>
      if state.phase = .waiting ∧ canReturn state.changeNotifyHandle result then
        some { state with
          phase := if result = .object0 then .sleeping else .scanning }
      else
        none
  | .directoryChangeCallback =>
      if state.phase = .sleeping then
        some { state with phase := .calling, unanswered := 0 }
      else
        none
  | .callbackReturns =>
      if state.phase = .calling then
        some { state with phase := .scanning }
      else
        none

def initial : State :=
  ⟨.scanning, .object0, none, false, 0⟩

/-- The loop is in `WaitForSingleObject` on a handle that is not signalled. -/
def Blocked (state : State) : Prop :=
  state.phase = .waiting ∧ state.changeNotifyHandle = some ⟨false⟩

instance (state : State) : Decidable (Blocked state) :=
  inferInstanceAs (Decidable (_ ∧ _))

/-- After the first handle was opened, files change only while the loop waits
on its handle or sleeps before the callback. -/
def ChangesWatched (state : State) (action : Action) : Prop :=
  action = .change → state.opened = true →
    (state.phase = .waiting ∧ state.changeNotifyHandle.isSome = true) ∨
      state.phase = .sleeping

instance (state : State) (action : Action) :
    Decidable (ChangesWatched state action) :=
  inferInstanceAs (Decidable (_ → _ → _))

variable {state next : State} {action : Action}

/-- What an action can do, with everything that enabled it. -/
inductive Transition (state : State) : Action → State → Prop
  | change : Transition state .change state.afterChange
  | scan (scanning : state.phase = .scanning) :
      Transition state .scan { state with phase := .notifying }
  | openHandle (succeeds : Bool) (notifying : state.phase = .notifying)
      (renews : state.waitFor ≠ .timeout) :
      Transition state (.findFirstChangeNotification succeeds) { state with
        phase := .waiting
        changeNotifyHandle := if succeeds then some ⟨false⟩ else none
        opened := state.opened || succeeds }
  | keepHandle (succeeds : Bool) (notifying : state.phase = .notifying)
      (keeps : state.waitFor = .timeout) :
      Transition state (.findFirstChangeNotification succeeds)
        { state with phase := .waiting }
  | signalled (waiting : state.phase = .waiting)
      (handle : state.changeNotifyHandle = some ⟨true⟩) :
      Transition state (.waitForSingleObject .object0)
        { state with phase := .sleeping }
  | notSignalled (result : WaitResult) (waiting : state.phase = .waiting)
      (handle : state.changeNotifyHandle ≠ some ⟨true⟩) :
      Transition state (.waitForSingleObject result)
        { state with phase := .scanning }
  | directoryChangeCallback (sleeping : state.phase = .sleeping) :
      Transition state .directoryChangeCallback
        { state with phase := .calling, unanswered := 0 }
  | callbackReturns (calling : state.phase = .calling) :
      Transition state .callbackReturns { state with phase := .scanning }

theorem transition_of_step (steps : step state action = some next) :
    Transition state action next := by
  cases action with
  | change =>
      cases steps
      exact .change
  | scan =>
      simp only [step] at steps
      split at steps
      next scanning =>
        cases steps
        exact .scan scanning
      next => cases steps
  | findFirstChangeNotification succeeds =>
      simp only [step] at steps
      split at steps
      next notifying =>
        split at steps
        next renews =>
          cases steps
          exact .openHandle succeeds notifying renews
        next keeps =>
          cases steps
          exact .keepHandle succeeds notifying (not_not.mp keeps)
      next => cases steps
  | waitForSingleObject result =>
      simp only [step] at steps
      split at steps
      next enabled =>
        cases steps
        obtain ⟨waiting, returns⟩ := enabled
        cases result with
        | object0 => exact .signalled waiting (by simpa [canReturn] using returns)
        | timeout =>
            have handle : state.changeNotifyHandle = some ⟨false⟩ := by
              simpa [canReturn] using returns
            exact .notSignalled .timeout waiting (by simp [handle])
        | failed =>
            have handle : state.changeNotifyHandle = none := by
              simpa [canReturn] using returns
            exact .notSignalled .failed waiting (by simp [handle])
      next => cases steps
  | directoryChangeCallback =>
      simp only [step] at steps
      split at steps
      next sleeping =>
        cases steps
        exact .directoryChangeCallback sleeping
      next => cases steps
  | callbackReturns =>
      simp only [step] at steps
      split at steps
      next calling =>
        cases steps
        exact .callbackReturns calling
      next => cases steps

/-- A change without a callback is remembered by the handle of the wait or by
the sleep that follows it. -/
def Remembered (state : State) : Prop :=
  state.unanswered = 0 ∨
    (state.phase = .waiting ∧ state.changeNotifyHandle = some ⟨true⟩) ∨
    state.phase = .sleeping

theorem Remembered.change (remembered : Remembered state)
    (watched : ChangesWatched state .change) :
    Remembered state.afterChange := by
  by_cases opened : state.opened = true
  · rcases watched rfl opened with ⟨waiting, valid⟩ | sleeping
    · obtain ⟨handle, handleEq⟩ := Option.isSome_iff_exists.mp valid
      exact .inr (.inl ⟨waiting, by simp [State.afterChange, handleEq]⟩)
    · exact .inr (.inr sleeping)
  · rcases remembered with answered | ⟨waiting, handle⟩ | sleeping
    · exact .inl (by simpa [State.afterChange, opened] using answered)
    · exact .inr (.inl ⟨waiting, by simp [State.afterChange, handle]⟩)
    · exact .inr (.inr sleeping)

/-- Outside of the wait and the sleep, all changes have been answered. -/
theorem Remembered.answered (remembered : Remembered state)
    (outside : state.phase ≠ .sleeping)
    (unsignalled : state.phase = .waiting →
      state.changeNotifyHandle ≠ some ⟨true⟩) : state.unanswered = 0 := by
  rcases remembered with answered | ⟨waiting, handle⟩ | sleeping
  · exact answered
  · exact (unsignalled waiting handle).elim
  · exact (outside sleeping).elim

theorem Remembered.step (remembered : Remembered state)
    (watched : ChangesWatched state action)
    (transition : Transition state action next) : Remembered next := by
  cases transition with
  | change => exact remembered.change watched
  | scan scanning =>
      exact .inl (remembered.answered (by simp [scanning]) (by simp [scanning]))
  | openHandle succeeds notifying =>
      exact .inl
        (remembered.answered (by simp [notifying]) (by simp [notifying]))
  | keepHandle succeeds notifying =>
      exact .inl
        (remembered.answered (by simp [notifying]) (by simp [notifying]))
  | signalled => exact .inr (.inr rfl)
  | notSignalled result waiting handle =>
      exact .inl (remembered.answered (by simp [waiting]) fun _ => handle)
  | directoryChangeCallback => exact .inl rfl
  | callbackReturns calling =>
      exact .inl (remembered.answered (by simp [calling]) (by simp [calling]))

theorem waitFor_of_step (steps : step state action = some next) :
    next.waitFor = state.waitFor := by
  cases transition_of_step steps <;> rfl

theorem waitFor_of_run {schedule : List Action}
    (runs : run step initial schedule = some state) :
    state.waitFor = .object0 :=
  @invariant_of_run _ _ step (fun state => state.waitFor = .object0)
    (fun _ _ _ kept stepTo => (waitFor_of_step stepTo).trans kept) _ _ _ rfl
    runs

/-- The loop on a new handle. -/
def State.renewed (state : State) : State :=
  { state with
    phase := .waiting, changeNotifyHandle := some ⟨false⟩, opened := true }

theorem run_notifying (renews : state.waitFor = .object0)
    (notifying : state.phase = .notifying) :
    run step state [.findFirstChangeNotification true] =
      some state.renewed := by
  simp [run, step, notifying, renews, State.renewed]

theorem run_scanning (renews : state.waitFor = .object0)
    (scanning : state.phase = .scanning) :
    run step state [.scan, .findFirstChangeNotification true] =
      some state.renewed := by
  simp [run, step, scanning, renews, State.renewed]

/-- Outside of a wait on a valid handle and of the sleep, the loop can come to
block on a new handle without a callback or a change in between. -/
theorem exists_renewed (renews : state.waitFor = .object0)
    (unwatched : ¬ ((state.phase = .waiting ∧
      state.changeNotifyHandle.isSome = true) ∨ state.phase = .sleeping)) :
    ∃ schedule, Action.change ∉ schedule ∧
      run step state schedule = some state.renewed := by
  cases phase : state.phase with
  | scanning => exact ⟨_, by simp, run_scanning renews phase⟩
  | notifying => exact ⟨_, by simp, run_notifying renews phase⟩
  | waiting =>
      have invalid : state.changeNotifyHandle = none := by
        by_contra valid
        exact unwatched (.inl ⟨phase, Option.isSome_iff_ne_none.mpr valid⟩)
      refine ⟨[.waitForSingleObject .failed, .scan,
        .findFirstChangeNotification true], by simp, ?_⟩
      simp [run, step, phase, renews, invalid, canReturn, State.renewed]
  | sleeping => exact (unwatched (.inr phase)).elim
  | calling =>
      refine ⟨[.callbackReturns, .scan, .findFirstChangeNotification true],
        by simp, ?_⟩
      simp [run, step, phase, renews, State.renewed]

theorem respects_of_quiet {schedule : List Action}
    (quiet : Action.change ∉ schedule) :
    Respects step ChangesWatched state schedule := by
  induction schedule generalizing state with
  | nil => trivial
  | cons action rest ih =>
      rw [List.mem_cons, not_or] at quiet
      exact ⟨fun same => absurd same.symm quiet.1, fun _ _ => ih quiet.2⟩

/-- In every schedule whose changes are watched, the loop blocks only when all
changes were answered.  A single change at another moment is enough to let it
block, without further changes, with one that no callback has followed. -/
theorem blocked_only_when_answered {schedule : List Action}
    (runs : run step initial schedule = some state) :
    (Respects step ChangesWatched initial schedule →
      Blocked state → state.unanswered = 0) ∧
    (¬ ChangesWatched state .change →
      ∃ after more final, step state .change = some after ∧
        Respects step ChangesWatched after more ∧
          run step after more = some final ∧
            Blocked final ∧ 0 < final.unanswered) := by
  constructor
  · intro respects blocked
    have remembered : Remembered state :=
      invariant_of_respects
        (fun _ _ _ remembered watched stepTo =>
          remembered.step watched (transition_of_step stepTo))
        (.inl rfl) respects runs
    apply remembered.answered
    · rw [blocked.1]
      simp
    · intro _
      rw [blocked.2]
      simp
  · intro unwatched
    obtain ⟨opened, elsewhere⟩ : state.opened = true ∧
        ¬ ((state.phase = .waiting ∧
          state.changeNotifyHandle.isSome = true) ∨
            state.phase = .sleeping) := by
      simpa [ChangesWatched] using unwatched
    have renews : state.waitFor = .object0 := waitFor_of_run runs
    obtain ⟨more, quiet, renewed⟩ := @exists_renewed state.afterChange renews
      (by simpa [State.afterChange] using elsewhere)
    refine ⟨state.afterChange, more, _, rfl, respects_of_quiet quiet, renewed,
      ⟨rfl, rfl⟩, ?_⟩
    simp [State.renewed, State.afterChange, opened]

/-- A change while the loop waits. -/
def watchedChange : List Action :=
  [.scan, .findFirstChangeNotification true, .change,
    .waitForSingleObject .object0, .directoryChangeCallback,
    .callbackReturns, .scan, .findFirstChangeNotification true]

theorem blocked_only_when_answered_watchedChange :
    ∃ final, run step initial watchedChange = some final ∧ Blocked final ∧
      final.unanswered = 0 := by
  have respects : Respects step ChangesWatched initial watchedChange := by
    decide
  exact ⟨_, rfl, by decide,
    (@blocked_only_when_answered _ watchedChange rfl).1 respects (by decide)⟩

/-- A change after a time-out and before the next handle: the loop blocks, and
no callback has followed. -/
theorem change_after_timeout_lost :
    ∃ final, run step initial
        [.scan, .findFirstChangeNotification true,
          .waitForSingleObject .timeout, .change, .scan,
          .findFirstChangeNotification true] = some final ∧
      Blocked final ∧ final.unanswered = 1 :=
  ⟨_, rfl, by decide, rfl⟩

end DirectoryNotifications

end IISModuleJS
