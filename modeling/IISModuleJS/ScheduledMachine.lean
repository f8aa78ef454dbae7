import Mathlib.Data.List.Basic

/-!
# Machines driven by a schedule

A concurrent component is modelled as a partial step function: an action
names the thread that moves and everything the environment decides about the
move, and the step is undefined when the action is not enabled.  A schedule is
a list of actions, so a statement about every schedule is a statement about
every interleaving.

Guarded schedules restrict the states in which certain actions may be taken.
They are used to say under which scheduling condition a component keeps a
promise that it does not keep in general.
-/

namespace IISModuleJS

namespace ScheduledMachine

variable {State Action : Type*}

/-- The state after a whole schedule, or `none` as soon as one of its actions
is not enabled. -/
def run (step : State → Action → Option State) :
    State → List Action → Option State
  | state, [] => some state
  | state, action :: rest =>
      (step state action).bind fun next => run step next rest

/-- Every action of the schedule is taken in a state that allows it. -/
def Respects (step : State → Action → Option State)
    (allowed : State → Action → Prop) : State → List Action → Prop
  | _, [] => True
  | state, action :: rest =>
      allowed state action ∧
        ∀ next, step state action = some next →
          Respects step allowed next rest

variable {step : State → Action → Option State}

theorem run_cons_eq_some {state final : State} {action : Action}
    {rest : List Action} :
    run step state (action :: rest) = some final ↔
      ∃ next, step state action = some next ∧
        run step next rest = some final := by
  simp [run, Option.bind_eq_some_iff]

theorem run_singleton {state next : State} {action : Action}
    (stepTo : step state action = some next) :
    run step state [action] = some next :=
  run_cons_eq_some.mpr ⟨next, stepTo, rfl⟩

/-- A schedule that runs can be run up to each of its actions. -/
theorem run_prefix {earlier later : List Action} {action : Action}
    {start final : State}
    (runs : run step start (earlier ++ action :: later) =
      some final) :
    ∃ state next, run step start earlier = some state ∧
      step state action = some next := by
  induction earlier generalizing start with
  | nil =>
      obtain ⟨next, stepTo, -⟩ := run_cons_eq_some.mp runs
      exact ⟨start, next, rfl, stepTo⟩
  | cons first earlier ih =>
      obtain ⟨second, stepTo, restRuns⟩ := run_cons_eq_some.mp runs
      obtain ⟨state, next, before, now⟩ := ih restRuns
      exact ⟨state, next, run_cons_eq_some.mpr ⟨second, stepTo, before⟩, now⟩

theorem run_append {state middle final : State}
    {earlier later : List Action}
    (before : run step state earlier = some middle)
    (after : run step middle later = some final) :
    run step state (earlier ++ later) = some final := by
  induction earlier generalizing state with
  | nil =>
      cases before
      exact after
  | cons action earlier ih =>
      obtain ⟨next, stepTo, restRuns⟩ := run_cons_eq_some.mp before
      exact run_cons_eq_some.mpr ⟨next, stepTo, ih restRuns⟩

/-- A machine whose every step is a run of one of its components runs that
component. -/
theorem exists_component_run {Part Move : Type*}
    {component : Part → Move → Option Part} {part : State → Part}
    (simulates : ∀ state action next, step state action = some next →
      ∃ moves, run component (part state) moves = some (part next))
    {start final : State} {schedule : List Action}
    (runs : run step start schedule = some final) :
    ∃ moves, run component (part start) moves = some (part final) := by
  induction schedule generalizing start with
  | nil =>
      cases runs
      exact ⟨[], rfl⟩
  | cons action rest ih =>
      obtain ⟨next, stepTo, restRuns⟩ := run_cons_eq_some.mp runs
      obtain ⟨first, firstRun⟩ := simulates start action next stepTo
      obtain ⟨others, othersRun⟩ := ih restRuns
      exact ⟨first ++ others, run_append firstRun othersRun⟩

/-- A guarded schedule is checked along the one run it has. -/
theorem respects_cons {allowed : State → Action → Prop}
    {state next : State} {action : Action} {rest : List Action}
    (allowedHere : allowed state action)
    (stepTo : step state action = some next)
    (respects : Respects step allowed next rest) :
    Respects step allowed state (action :: rest) := by
  refine ⟨allowedHere, fun other otherStep => ?_⟩
  rw [stepTo] at otherStep
  cases otherStep
  exact respects

/-- The induction rule for guarded schedules: a property that the allowed
steps preserve holds after every schedule that respects the guard. -/
theorem invariant_of_respects {allowed : State → Action → Prop}
    {invariant : State → Prop}
    (preserved : ∀ state action next, invariant state →
      allowed state action → step state action = some next →
        invariant next)
    {start final : State} {schedule : List Action}
    (starts : invariant start)
    (respects : Respects step allowed start schedule)
    (runs : run step start schedule = some final) :
    invariant final := by
  induction schedule generalizing start with
  | nil =>
      cases runs
      exact starts
  | cons action rest ih =>
      obtain ⟨next, stepTo, restRuns⟩ := run_cons_eq_some.mp runs
      exact ih (preserved start action next starts respects.1 stepTo)
        (respects.2 next stepTo) restRuns

theorem respects_of_forall {allowed : State → Action → Prop}
    (always : ∀ state action, allowed state action)
    (state : State) (schedule : List Action) :
    Respects step allowed state schedule := by
  induction schedule generalizing state with
  | nil => trivial
  | cons action rest ih =>
      exact ⟨always state action, fun next _ => ih next⟩

/-- The induction rule for all schedules. -/
theorem invariant_of_run {invariant : State → Prop}
    (preserved : ∀ state action next, invariant state →
      step state action = some next → invariant next)
    {start final : State} {schedule : List Action}
    (starts : invariant start)
    (runs : run step start schedule = some final) :
    invariant final := by
  have unguarded : Respects step (fun _ _ => True) start schedule :=
    respects_of_forall (fun _ _ => trivial) start schedule
  exact invariant_of_respects
    (fun state action next holds _ stepTo =>
      preserved state action next holds stepTo)
    starts unguarded runs

theorem respects_iff {allowed : State → Action → Prop}
    {state next : State} {action : Action} {rest : List Action}
    (stepTo : step state action = some next) :
    allowed state action ∧ Respects step allowed next rest ↔
      Respects step allowed state (action :: rest) := by
  constructor
  · rintro ⟨allowedHere, respects⟩
    exact respects_cons allowedHere stepTo respects
  · rintro ⟨allowedHere, respects⟩
    exact ⟨allowedHere, respects next stepTo⟩

theorem respects_iff_of_disabled {allowed : State → Action → Prop}
    {state : State} {action : Action} {rest : List Action}
    (disabled : step state action = none) :
    allowed state action ↔
      Respects step allowed state (action :: rest) := by
  constructor
  · intro allowedHere
    refine ⟨allowedHere, fun next stepTo => ?_⟩
    rw [disabled] at stepTo
    cases stepTo
  · exact And.left

/-- Whether a schedule respects a guard can be computed. -/
instance decidableRespects {allowed : State → Action → Prop}
    [∀ state action, Decidable (allowed state action)] :
    ∀ (state : State) (schedule : List Action),
      Decidable (Respects step allowed state schedule)
  | _, [] => .isTrue trivial
  | state, action :: rest =>
      match stepTo : step state action with
      | none => decidable_of_iff _ (respects_iff_of_disabled stepTo)
      | some next =>
          have := @decidableRespects allowed _ next rest
          decidable_of_iff _ (respects_iff stepTo)

/-- A guarded schedule leads from one state to another. -/
def Reaches (step : State → Action → Option State)
    (allowed : State → Action → Prop) (start final : State) : Prop :=
  ∃ schedule, Respects step allowed start schedule ∧
    run step start schedule = some final

theorem reaches_refl {allowed : State → Action → Prop} (state : State) :
    Reaches step allowed state state :=
  ⟨[], trivial, rfl⟩

theorem reaches_step {allowed : State → Action → Prop}
    {state next final : State} (action : Action)
    (allowedHere : allowed state action)
    (stepTo : step state action = some next)
    (reaches : Reaches step allowed next final) :
    Reaches step allowed state final := by
  obtain ⟨schedule, respects, runs⟩ := reaches
  exact ⟨action :: schedule, respects_cons allowedHere stepTo respects,
    run_cons_eq_some.mpr ⟨next, stepTo, runs⟩⟩

theorem reaches_trans {allowed : State → Action → Prop}
    {first second third : State}
    (toSecond : Reaches step allowed first second)
    (toThird : Reaches step allowed second third) :
    Reaches step allowed first third := by
  obtain ⟨schedule, respects, runs⟩ := toSecond
  induction schedule generalizing first with
  | nil =>
      cases runs
      exact toThird
  | cons action rest ih =>
      obtain ⟨next, stepTo, restRuns⟩ := run_cons_eq_some.mp runs
      exact reaches_step action respects.1 stepTo
        (ih (respects.2 next stepTo) restRuns)

end ScheduledMachine

end IISModuleJS
