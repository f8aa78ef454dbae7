import IISModuleJS.DirectoryNotifications

/-!
# The notification handles of the loop

`load_and_watch` keeps its notification handle in one variable.  The result of
the wait is meant to decide whether it asks for another handle, but the test
reads a variable that is never written, so every round calls
`FindFirstChangeNotificationW`.  No handle is ever closed.

The machine is that of the loop, with a history of its calls: how many handles
are open, what the waits returned, and which wait came before each request.
-/

namespace IISModuleJS

namespace NotificationHandles

open DirectoryNotifications (WaitResult Action)
open ScheduledMachine

/-- The loop and the history of its calls.  `openHandles` counts the handles
that `FindFirstChangeNotificationW` has returned and that are not closed, and
`requests` has the result of the wait before each call, if there was one. -/
structure State where
  loop : DirectoryNotifications.State
  openHandles : Nat
  results : List WaitResult
  requests : List (Option WaitResult)
  deriving DecidableEq

def initial : State :=
  ⟨DirectoryNotifications.initial, 0, [], []⟩

/-- What an action of the loop adds to the history.  Whether a handle is asked
for depends on the variable declared before the loop. -/
def State.record (state : State) (loop : DirectoryNotifications.State) :
    Action → State
  | .findFirstChangeNotification succeeds =>
      if state.loop.waitFor ≠ .timeout then
        { state with
          loop := loop
          openHandles := state.openHandles + succeeds.toNat
          requests := state.requests ++ [state.results.getLast?] }
      else
        { state with loop := loop }
  | .waitForSingleObject result =>
      { state with loop := loop, results := state.results ++ [result] }
  | _ => { state with loop := loop }

def step (state : State) (action : Action) : Option State :=
  (DirectoryNotifications.step state.loop action).map fun loop =>
    state.record loop action

/-- At most one handle is open, and each was asked for at the start or after a
wait that was signalled. -/
structure HandlesBounded (state : State) : Prop where
  single : state.openHandles ≤ 1
  requested : ∀ previous ∈ state.requests,
    previous = none ∨ previous = some .object0

/-- The rounds of a schedule that reach `FindFirstChangeNotificationW`. -/
def reached (schedule : List Action) : Nat :=
  schedule.countP fun
    | .findFirstChangeNotification _ => true
    | _ => false

/-- The handles that it returns in a schedule. -/
def returned (schedule : List Action) : Nat :=
  schedule.countP fun
    | .findFirstChangeNotification succeeds => succeeds
    | _ => false

/-- The results of the waits in a schedule. -/
def waits (schedule : List Action) : List WaitResult :=
  schedule.filterMap fun
    | .waitForSingleObject result => some result
    | _ => none

variable {state next : State} {action : Action}

theorem loop_of_step (stepTo : step state action = some next) :
    DirectoryNotifications.step state.loop action = some next.loop := by
  obtain ⟨loop, loopStep, rfl⟩ := Option.map_eq_some_iff.mp stepTo
  rw [loopStep]
  cases action with
  | findFirstChangeNotification succeeds =>
      simp only [State.record]
      split <;> rfl
  | _ => rfl

theorem waitFor_of_step (stepTo : step state action = some next) :
    next.loop.waitFor = state.loop.waitFor :=
  DirectoryNotifications.waitFor_of_step (loop_of_step stepTo)

/-- What an action adds to the history of a loop that always asks. -/
theorem history_of_step (asks : state.loop.waitFor = .object0)
    (stepTo : step state action = some next) :
    next.openHandles = state.openHandles + returned [action] ∧
    next.results = state.results ++ waits [action] ∧
    next.requests = state.requests ++
      List.replicate (reached [action]) state.results.getLast? := by
  obtain ⟨loop, -, rfl⟩ := Option.map_eq_some_iff.mp stepTo
  cases action with
  | findFirstChangeNotification succeeds =>
      have renews : state.loop.waitFor ≠ .timeout := by simp [asks]
      rw [State.record, if_pos renews]
      refine ⟨?_, (List.append_nil _).symm, rfl⟩
      cases succeeds <;> rfl
  | waitForSingleObject result =>
      exact ⟨rfl, rfl, (List.append_nil _).symm⟩
  | _ =>
      exact ⟨rfl, (List.append_nil _).symm, (List.append_nil _).symm⟩

/-- The history of a run in terms of its schedule. -/
theorem history_of_run {final : State} {schedule : List Action}
    (asks : state.loop.waitFor = .object0)
    (runs : run step state schedule = some final) :
    final.openHandles = state.openHandles + returned schedule ∧
    final.results = state.results ++ waits schedule ∧
    final.requests.length = state.requests.length + reached schedule := by
  induction schedule generalizing state with
  | nil =>
      cases runs
      exact ⟨rfl, (List.append_nil _).symm, rfl⟩
  | cons action rest ih =>
      obtain ⟨next, stepTo, restRuns⟩ := run_cons_eq_some.mp runs
      obtain ⟨opened, waited, asked⟩ := history_of_step asks stepTo
      obtain ⟨laterOpened, laterWaited, laterAsked⟩ :=
        ih ((waitFor_of_step stepTo).trans asks) restRuns
      have returned_cons : returned (action :: rest) =
          returned [action] + returned rest :=
        @List.countP_append _ _ [action] rest
      have waits_cons : waits (action :: rest) =
          waits [action] ++ waits rest :=
        @List.filterMap_append _ _ [action] rest _
      have reached_cons : reached (action :: rest) =
          reached [action] + reached rest :=
        @List.countP_append _ _ [action] rest
      have length := congrArg List.length asked
      rw [List.length_append, List.length_replicate] at length
      refine ⟨by omega, ?_, by omega⟩
      rw [laterWaited, waited, waits_cons, List.append_assoc]

/-- The requests are aligned with the waits: the first came before all of
them, and each later one after the next wait. -/
def Aligned (state : State) : Prop :=
  state.requests ++
      (if state.loop.phase = .waiting then [] else [state.results.getLast?]) =
    none :: state.results.map some

/-- A wait that returns is the one that the next request comes after. -/
theorem aligned_of_wait {result : WaitResult}
    {phase : DirectoryNotifications.Phase}
    (aligned : Aligned state) (waiting : state.loop.phase = .waiting)
    (elsewhere : phase ≠ .waiting) :
    Aligned (state.record { state.loop with phase := phase }
      (.waitForSingleObject result)) := by
  unfold Aligned at aligned ⊢
  rw [waiting, if_pos rfl, List.append_nil] at aligned
  simp [State.record, elsewhere, aligned]

theorem aligned_of_step (asks : state.loop.waitFor = .object0)
    (aligned : Aligned state) (stepTo : step state action = some next) :
    Aligned next := by
  obtain ⟨loop, loopStep, rfl⟩ := Option.map_eq_some_iff.mp stepTo
  cases DirectoryNotifications.transition_of_step loopStep with
  | change => exact aligned
  | scan scanning => simpa [Aligned, State.record, scanning] using aligned
  | openHandle succeeds notifying renews =>
      simpa [Aligned, State.record, notifying, renews] using aligned
  | keepHandle succeeds notifying keeps =>
      rw [asks] at keeps
      cases keeps
  | signalled waiting handle =>
      exact aligned_of_wait aligned waiting (by decide)
  | notSignalled result waiting handle =>
      exact aligned_of_wait aligned waiting (by decide)
  | directoryChangeCallback sleeping =>
      simpa [Aligned, State.record, sleeping] using aligned
  | callbackReturns calling =>
      simpa [Aligned, State.record, calling] using aligned

theorem aligned_of_run {schedule : List Action}
    (runs : run step initial schedule = some state) : Aligned state := by
  have start : initial.loop.waitFor = .object0 ∧ Aligned initial :=
    ⟨rfl, rfl⟩
  have preserved (before : State) (action : Action) (after : State)
      (kept : before.loop.waitFor = .object0 ∧ Aligned before)
      (stepTo : step before action = some after) :
      after.loop.waitFor = .object0 ∧ Aligned after :=
    ⟨(waitFor_of_step stepTo).trans kept.1,
      aligned_of_step kept.1 kept.2 stepTo⟩
  exact (@invariant_of_run _ _ step
    (fun state => state.loop.waitFor = .object0 ∧ Aligned state) preserved
    _ _ _ start runs).2

/-- The requests of a run are the first of these waits. -/
theorem requests_eq {schedule : List Action}
    (runs : run step initial schedule = some state) :
    state.requests =
      (none :: (waits schedule).map some).take (reached schedule) := by
  obtain ⟨-, waited, asked⟩ := history_of_run rfl runs
  have results : state.results = waits schedule := waited
  have length : state.requests.length = reached schedule := by
    rw [asked]
    exact Nat.zero_add _
  have aligned := aligned_of_run runs
  unfold Aligned at aligned
  rw [← results, ← aligned, ← length, List.take_left]

/-- All requests came at the start or after a signalled wait exactly if all
waits but the last were signalled, or all of them if a request followed. -/
theorem requested_iff (results : List WaitResult) (count : Nat) :
    (∀ previous ∈ (none :: results.map some).take count,
      previous = none ∨ previous = some .object0) ↔
    ∀ result ∈ results.take (count - 1), result = .object0 := by
  cases count with
  | zero => simp
  | succ count =>
      rw [List.take_succ_cons, Nat.add_sub_cancel, ← List.map_take]
      constructor
      · intro requested result member
        have signalled := requested (some result)
          (List.mem_cons_of_mem _ (List.mem_map_of_mem member))
        simpa using signalled
      · intro signalled previous member
        rcases List.mem_cons.mp member with rfl | later
        · exact .inl rfl
        · obtain ⟨result, resultMem, rfl⟩ := List.mem_map.mp later
          exact .inr (congrArg some (signalled result resultMem))

/-- The handles of the loop.  In every run the loop has exactly as many handles
open as `FindFirstChangeNotificationW` has returned.  At most one is open, and
all requests came at the start or after a signalled wait, exactly if it has
returned at most one and every wait that a later call of it follows was
signalled. -/
theorem handlesBounded_iff {schedule : List Action}
    (runs : run step initial schedule = some state) :
    state.openHandles = returned schedule ∧
    (HandlesBounded state ↔
      returned schedule ≤ 1 ∧
        ∀ result ∈ (waits schedule).take (reached schedule - 1),
          result = .object0) := by
  obtain ⟨opened, -, -⟩ := history_of_run rfl runs
  have count : state.openHandles = returned schedule := by
    rw [opened]
    exact Nat.zero_add _
  have requests := requested_iff (waits schedule) (reached schedule)
  rw [← requests_eq runs] at requests
  refine ⟨count, ?_, ?_⟩
  · rintro ⟨single, requested⟩
    exact ⟨count ▸ single, requests.mp requested⟩
  · rintro ⟨single, signalled⟩
    exact ⟨count ▸ single, requests.mpr signalled⟩

/-- A first round: one handle, and a wait that times out. -/
def firstRound : List Action :=
  [.scan, .findFirstChangeNotification true, .waitForSingleObject .timeout]

theorem handlesBounded_firstRound :
    ∃ state, run step initial firstRound = some state ∧
      HandlesBounded state := by
  have ran : ∃ state, run step initial firstRound = some state := ⟨_, rfl⟩
  obtain ⟨state, runs⟩ := ran
  exact ⟨state, runs, (handlesBounded_iff runs).2.mpr (by decide)⟩

/-- A second round opens a second handle, whether the wait timed out or was
signalled. -/
theorem second_round_opens_handle :
    (∃ state,
      run step initial (firstRound ++
        [.scan, .findFirstChangeNotification true]) = some state ∧
      state.openHandles = 2 ∧ state.requests = [none, some .timeout] ∧
      ¬ HandlesBounded state) ∧
    ∃ state,
      run step initial
        [.scan, .findFirstChangeNotification true, .change,
          .waitForSingleObject .object0, .directoryChangeCallback,
          .callbackReturns, .scan, .findFirstChangeNotification true] =
        some state ∧
      state.openHandles = 2 ∧ state.requests = [none, some .object0] ∧
      ¬ HandlesBounded state := by
  refine ⟨⟨_, rfl, rfl, rfl, ?_⟩, ⟨_, rfl, rfl, rfl, ?_⟩⟩
  · intro bounded
    exact absurd bounded.single (by decide)
  · intro bounded
    exact absurd bounded.single (by decide)

end NotificationHandles

end IISModuleJS
