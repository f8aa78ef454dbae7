import IISModuleJS.WorkerGate

/-!
# Calls that fail behind the gate

A call of an asynchronous operation takes its slot when it passes the gate, and
the worker gives it back.  Between the two the calling thread makes a promise
and starts the thread of the worker.  If that fails, for instance because
`std::thread` throws `std::system_error`, the exception reaches the script and
there is no worker that could give the slot back.

The machine here is that of the gate, with the passage of the gate and the
start of the thread as two steps.  Without failures they are one step of the
gate.
-/

namespace IISModuleJS

namespace SlotLeaks

open AsyncWorkers ScheduledMachine

/-- The gate, whether the call at the gate has passed it without having
started its thread, and the calls that ended with an exception after that. -/
structure State where
  gate : WorkerGate.State
  passed : Bool
  thrown : List Operation

def initial : State where
  gate := WorkerGate.initial
  passed := false
  thrown := []

inductive Action
  | gate (action : WorkerGate.Action)
  | passGate
  | startThread
  | failStart

/-- One step.  All steps of the gate are as before except that the calling
thread starts its worker itself; until then it holds on to the gate, and
through it to the engine lock. -/
def step (sameSite : String → Bool) (state : State) :
    Action → Option State
  | .gate .enterGate => none
  | .gate action =>
      (WorkerGate.step sameSite state.gate action).map fun gate =>
        { state with gate := gate }
  | .passGate =>
      if state.gate.atGate.isSome ∧ state.passed = false ∧
          state.gate.threadCount < WorkerGate.maxThreads then
        some
          { state with
            gate :=
              { state.gate with threadCount := state.gate.threadCount + 1 }
            passed := true }
      else none
  | .startThread =>
      match state.passed, state.gate.atGate with
      | true, some operation =>
          some
            { state with
              gate :=
                { state.gate with
                  atGate := none
                  workers := state.gate.workers ++ [.start operation] }
              passed := false }
      | _, _ => none
  | .failStart =>
      match state.passed, state.gate.atGate with
      | true, some operation =>
          some
            { gate := { state.gate with atGate := none }
              passed := false
              thrown := state.thrown ++ [operation] }
      | _, _ => none

/-- The action is a failure behind the gate. -/
def Action.fails : Action → Bool
  | .failStart => true
  | _ => false

/-- The gate with some slots less in use. -/
def lower (slots : Int) (gate : WorkerGate.State) : WorkerGate.State :=
  { gate with threadCount := gate.threadCount - slots }

variable {sameSite : String → Bool}

theorem perform_lower (slots : Int) (gate : WorkerGate.State) (index : Nat)
    (worker : WorkerGate.Worker) (effect : Effect) :
    (lower slots gate).perform index worker effect =
      (gate.perform index worker effect).map (lower slots) := by
  cases effect with
  | decrement =>
      simp only [WorkerGate.State.perform, Option.map_some, lower]
      congr 2
      omega
  | notifyOne => rfl
  | _ =>
      simp only [WorkerGate.State.perform]
      rw [apply_ite (Option.map (lower slots))]
      rfl

/-- Only the gate itself looks at the thread count. -/
theorem step_lower (slots : Int) (gate : WorkerGate.State)
    {action : WorkerGate.Action} (other : action ≠ .enterGate) :
    WorkerGate.step sameSite (lower slots gate) action =
      (WorkerGate.step sameSite gate action).map (lower slots) := by
  have workers : (lower slots gate).workers = gate.workers := rfl
  cases action with
  | enterGate => exact absurd rfl other
  | work index results =>
      simp only [WorkerGate.step, workers]
      cases gate.workers[index]? with
      | none => rfl
      | some worker =>
          dsimp only
          cases worker.program with
          | done value => rfl
          | perform effect next =>
              dsimp only
              rw [perform_lower]
              cases gate.perform index worker effect <;> rfl
  | sendRequest index =>
      simp only [WorkerGate.step, workers]
      cases gate.workers[index]? with
      | none => rfl
      | some worker =>
          dsimp only
          rw [apply_ite (Option.map (lower slots))]
          rfl
  | arrive => rfl
  | _ =>
      simp only [WorkerGate.step]
      rw [apply_ite (Option.map (lower slots))]
      rfl

/-- Everything a step can do, with the guards under which it does it. -/
inductive Transition (sameSite : String → Bool) (state : State) :
    Action → State → Prop
  | gate {action : WorkerGate.Action} {gate : WorkerGate.State}
      (other : action ≠ .enterGate)
      (stepTo : WorkerGate.step sameSite state.gate action = some gate) :
      Transition sameSite state (.gate action) { state with gate := gate }
  | passGate {operation : Operation}
      (waiting : state.gate.atGate = some operation)
      (notPassed : state.passed = false)
      (below : state.gate.threadCount < WorkerGate.maxThreads) :
      Transition sameSite state .passGate
        { state with
          gate :=
            { state.gate with threadCount := state.gate.threadCount + 1 }
          passed := true }
  | startThread {operation : Operation}
      (waiting : state.gate.atGate = some operation)
      (passed : state.passed = true) :
      Transition sameSite state .startThread
        { state with
          gate :=
            { state.gate with
              atGate := none
              workers := state.gate.workers ++ [.start operation] }
          passed := false }
  | failStart {operation : Operation}
      (waiting : state.gate.atGate = some operation)
      (passed : state.passed = true) :
      Transition sameSite state .failStart
        { gate := { state.gate with atGate := none }
          passed := false
          thrown := state.thrown ++ [operation] }

theorem transition_of_step {state next : State} {action : Action}
    (stepTo : step sameSite state action = some next) :
    Transition sameSite state action next := by
  cases action with
  | gate action =>
      have other : action ≠ .enterGate := by
        rintro rfl
        cases stepTo
      have stepped : (WorkerGate.step sameSite state.gate action).map
          (fun gate => { state with gate := gate }) = some next := by
        cases action with
        | enterGate => exact absurd rfl other
        | _ => exact stepTo
      obtain ⟨gate, gateStep, rfl⟩ := Option.map_eq_some_iff.mp stepped
      exact .gate other gateStep
  | passGate =>
      simp only [step] at stepTo
      split at stepTo
      next ready =>
        cases stepTo
        obtain ⟨operation, waiting⟩ := Option.isSome_iff_exists.mp ready.1
        exact .passGate waiting ready.2.1 ready.2.2
      next => cases stepTo
  | startThread =>
      simp only [step] at stepTo
      split at stepTo
      next operation passed waiting =>
        cases stepTo
        exact .startThread waiting passed
      next => cases stepTo
  | failStart =>
      simp only [step] at stepTo
      split at stepTo
      next operation passed waiting =>
        cases stepTo
        exact .failStart waiting passed
      next => cases stepTo

/-- Passing the gate and starting the thread at once is what the gate does in
one step. -/
theorem passGate_startThread {state : State}
    (notPassed : state.passed = false) :
    run (step sameSite) state [.passGate, .startThread] =
      (WorkerGate.step sameSite state.gate .enterGate).map fun gate =>
        { state with gate := gate } := by
  cases waiting : state.gate.atGate with
  | none => simp [run, step, WorkerGate.step, waiting]
  | some operation =>
      by_cases below : state.gate.threadCount < WorkerGate.maxThreads
      · simp [run, step, WorkerGate.step, waiting, notPassed, below]
      · simp [run, step, WorkerGate.step, waiting, below]

/-- The slots that no worker holds: those of failed calls, and that of a call
that has yet to start its thread. -/
def State.unowned (state : State) : Nat :=
  state.thrown.length + state.passed.toNat

/-- Without the unowned slots the gate is as it should be. -/
structure SlotInvariant (state : State) : Prop where
  gate : WorkerGate.GateInvariant (lower state.unowned state.gate)
  bounded : state.gate.threadCount ≤ WorkerGate.maxThreads

theorem slotInvariant_initial : SlotInvariant initial where
  gate := by
    have same : lower initial.unowned initial.gate = WorkerGate.initial := rfl
    rw [same]
    exact WorkerGate.gateInvariant_initial
  bounded := by decide

/-- No step but the passage of the gate raises the count. -/
theorem threadCount_le_of_step {gate next : WorkerGate.State}
    {action : WorkerGate.Action} (other : action ≠ .enterGate)
    (stepTo : WorkerGate.step sameSite gate action = some next) :
    next.threadCount ≤ gate.threadCount := by
  cases WorkerGate.transition_of_step stepTo with
  | enterGate => exact absurd rfl other
  | work found program performs =>
      cases WorkerGate.performed_iff.mp performs <;>
        simp only [WorkerGate.State.setWorker] <;> omega
  | _ => exact Int.le_refl _

theorem SlotInvariant.step {state next : State} {action : Action}
    (invariant : SlotInvariant state)
    (stepTo : step sameSite state action = some next) :
    SlotInvariant next := by
  have bounded := invariant.bounded
  cases transition_of_step stepTo with
  | @gate action gate other gateStep =>
      refine ⟨?_, ?_⟩
      · refine @WorkerGate.GateInvariant.step sameSite _ _ action
          invariant.gate ?_
        rw [step_lower _ _ other, gateStep]
        rfl
      · exact Int.le_trans (threadCount_le_of_step other gateStep) bounded
  | passGate waiting notPassed below =>
      refine ⟨invariant.gate.of_same ?_ rfl fun _ => id, below⟩
      simp only [lower, State.unowned, notPassed, Bool.toNat_true,
        Bool.toNat_false]
      omega
  | @startThread operation waiting passed =>
      have entered := invariant.gate.enterGate operation (by
        simp only [lower, State.unowned, passed, Bool.toNat_true]
        omega)
      refine ⟨entered.of_same ?_ rfl fun _ => id, bounded⟩
      simp only [lower, State.unowned, passed, Bool.toNat_true,
        Bool.toNat_false]
      omega
  | failStart waiting passed =>
      refine ⟨invariant.gate.of_same ?_ rfl fun _ => id, bounded⟩
      simp only [lower, State.unowned, passed, Bool.toNat_true,
        Bool.toNat_false, List.length_append, List.length_singleton]

theorem slotInvariant_of_run {schedule : List Action} {state : State}
    (runs : run (step sameSite) initial schedule = some state) :
    SlotInvariant state :=
  invariant_of_run (fun _ _ _ holds stepTo => holds.step stepTo)
    slotInvariant_initial runs

/-- The number of calls of a schedule that fail behind the gate. -/
def failures (schedule : List Action) : Nat :=
  schedule.countP Action.fails

theorem length_thrown_of_run {schedule : List Action} {state final : State}
    (runs : run (step sameSite) state schedule = some final) :
    final.thrown.length = state.thrown.length + failures schedule := by
  induction schedule generalizing state with
  | nil =>
      cases runs
      rfl
  | cons action rest ih =>
      obtain ⟨next, stepTo, restRuns⟩ := run_cons_eq_some.mp runs
      have later := ih restRuns
      rw [failures, List.countP_cons, ← failures]
      cases transition_of_step stepTo with
      | failStart waiting passed =>
          simp only [Action.fails, if_true]
          rw [List.length_append, List.length_singleton] at later
          omega
      | _ => simpa [Action.fails] using later

/-- The count is that of the slots in use and of the slots lost. -/
theorem threadCount_eq {schedule : List Action} {state : State}
    (runs : run (step sameSite) initial schedule = some state) :
    state.gate.threadCount =
      state.gate.workers.countP WorkerGate.Worker.holdsSlot +
        state.passed.toNat + failures schedule := by
  have counts := (slotInvariant_of_run runs).gate.counts
  have thrown := length_thrown_of_run runs
  have nothing : initial.thrown.length = 0 := rfl
  simp only [lower, State.unowned] at counts
  omega

/-- No worker is running, and no call is between the gate and its thread. -/
def NoRunningWorker (state : State) : Prop :=
  state.passed = false ∧
    ∀ worker ∈ state.gate.workers, worker.program = .done ()

/-- A worker that is done has given its slot back. -/
theorem not_holdsSlot_of_done {worker : WorkerGate.Worker}
    (conforms : worker.Conforms) (finished : worker.program = .done ()) :
    worker.holdsSlot = false := by
  obtain ⟨rest, complete, nothing⟩ := conforms.exists_complete
  rw [nothing finished, List.append_nil] at complete
  obtain ⟨calls, settlement, same⟩ := complete
  simp [WorkerGate.Worker.holdsSlot, same, finishing]

theorem threadCount_of_noRunningWorker {schedule : List Action}
    {state : State} (runs : run (step sameSite) initial schedule = some state)
    (idle : NoRunningWorker state) :
    state.gate.threadCount = failures schedule := by
  have conforms := (slotInvariant_of_run runs).gate.conforms
  have unheld : state.gate.workers.countP WorkerGate.Worker.holdsSlot = 0 := by
    rw [List.countP_eq_zero]
    intro worker member
    rw [not_holdsSlot_of_done (conforms worker member) (idle.2 worker member)]
    exact Bool.false_ne_true
  rw [threadCount_eq runs, unheld, idle.1]
  simp

/-- Failing calls give their slots back: when the exception of a call reaches
the script, the count is by one lower than it was with the slot of the call, and
without a running worker it is zero. -/
structure SlotsGivenBack (sameSite : String → Bool)
    (schedule : List Action) : Prop where
  restored : ∀ earlier later passed after,
    schedule = earlier ++ .failStart :: later →
    run (step sameSite) initial earlier = some passed →
    step sameSite passed .failStart = some after →
      after.gate.threadCount = passed.gate.threadCount - 1
  unused : ∀ earlier later state, schedule = earlier ++ later →
    run (step sameSite) initial earlier = some state →
    NoRunningWorker state → state.gate.threadCount = 0

/-- A failing call takes a slot and keeps it. -/
theorem threadCount_failStart {passed after : State}
    (stepTo : step sameSite passed .failStart = some after) :
    after.gate.threadCount = passed.gate.threadCount := by
  cases transition_of_step stepTo with
  | failStart waiting passed => rfl

theorem threadCount_passGate {before passed : State}
    (stepTo : step sameSite before .passGate = some passed) :
    passed.gate.threadCount = before.gate.threadCount + 1 := by
  cases transition_of_step stepTo with
  | passGate waiting notPassed below => rfl

theorem failures_eq_zero {schedule : List Action}
    (never : Action.failStart ∉ schedule) : failures schedule = 0 := by
  rw [failures, List.countP_eq_zero]
  intro action member fails
  cases action with
  | failStart => exact never member
  | _ => cases fails

/-- The slots of failing calls.  In every run the failing calls give their
slots back exactly if there are none.  Each of them leaves the count by one
higher than it was before the call, so that in a state without a running worker
the count is the number of calls that have failed. -/
theorem slotsGivenBack_iff {schedule : List Action} {state : State}
    (runs : run (step sameSite) initial schedule = some state) :
    (SlotsGivenBack sameSite schedule ↔ .failStart ∉ schedule) ∧
    (NoRunningWorker state →
      state.gate.threadCount = failures schedule) ∧
    ∀ before passed after, step sameSite before .passGate = some passed →
      step sameSite passed .failStart = some after →
        after.gate.threadCount = before.gate.threadCount + 1 := by
  refine ⟨⟨?_, ?_⟩, threadCount_of_noRunningWorker runs, ?_⟩
  · intro givenBack member
    obtain ⟨earlier, later, cut⟩ := List.append_of_mem member
    rw [cut] at runs
    obtain ⟨passed, after, before, fails⟩ := run_prefix runs
    have kept := threadCount_failStart fails
    have restored := givenBack.restored _ _ _ _ cut before fails
    omega
  · intro never
    refine ⟨?_, ?_⟩
    · intro earlier later passed after cut
      exact absurd (by simp [cut]) never
    · intro earlier later reached cut before idle
      have zero : failures earlier = 0 :=
        failures_eq_zero fun member => never (by simp [cut, member])
      rw [threadCount_of_noRunningWorker before idle, zero]
      rfl
  · intro before passed after passes fails
    rw [threadCount_failStart fails, threadCount_passGate passes]

/-- After as many failures as there are slots, the gate stays closed. -/
theorem passGate_closed {schedule : List Action} {state : State}
    (runs : run (step sameSite) initial schedule = some state)
    (exhausted : WorkerGate.maxThreads ≤ failures schedule) :
    step sameSite state .passGate = none := by
  have count := threadCount_eq runs
  have above : ¬ state.gate.threadCount < WorkerGate.maxThreads := by omega
  simp [step, above]

/-- A hash that is started by a script. -/
def startedHash : List Action :=
  [.gate .lockNative, .gate (.callAsync (.bcryptHash [] 10)), .passGate,
    .startThread, .gate .unlockNative]

theorem slotsGivenBack_startedHash :
    SlotsGivenBack (fun _ => false) startedHash := by
  have reached : ∃ state,
      run (step fun _ => false) initial startedHash = some state := ⟨_, rfl⟩
  obtain ⟨state, runs⟩ := reached
  exact (slotsGivenBack_iff runs).1.mpr (by simp [startedHash])

/-- A hash whose thread cannot be created: the script gets the exception, no
worker is running, and a slot is gone. -/
theorem failedStart_loses_slot :
    ∃ state,
      run (step fun _ => false) initial
        [.gate .lockNative, .gate (.callAsync (.bcryptHash [] 10)),
          .passGate, .failStart, .gate .unlockNative] = some state ∧
      state.thrown = [.bcryptHash [] 10] ∧ NoRunningWorker state ∧
      state.gate.threadCount = 1 := by
  refine ⟨_, rfl, rfl, ⟨rfl, ?_⟩, rfl⟩
  intro worker member
  cases member

end SlotLeaks

end IISModuleJS
