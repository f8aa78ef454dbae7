import IISModuleJS.WorkerGate

/-!
# Waking the calls that wait at the gate

A call that finds `thread_count` at its limit sleeps on a condition variable.  A
worker decrements the count under the mutex, and only then, without the mutex,
notifies one of the sleepers, while other calls may take the slot before it is
awake.

No wake-up is lost: free slots are matched by notifications that are still to
come and by calls that are awake again.  So once no further call arrives and the
library calls return, every schedule comes to an end soon, with all calls
admitted.
-/

namespace IISModuleJS

namespace GateWakeups

open ListWeight ScheduledMachine
open WorkerGate (maxThreads)

/-- Where a call and its worker stand.  A call is about to take the mutex, sleeps
in `wait`, or was woken and wants the mutex back; a worker runs its library
calls, is about to call `notify_one`, or is past it. -/
inductive Phase
  | calling
  | waiting
  | woken
  | running
  | notifying
  | done
  deriving DecidableEq

structure State where
  threadCount : Int
  phases : List Phase
  deriving DecidableEq

def initial : State where
  threadCount := 0
  phases := []

/-- The critical sections of the mutex, the notifications with the sleeper that
they wake, and the wake-ups without a notification. -/
inductive Action
  | call
  | test (index : Nat)
  | release (index : Nat)
  | notifyOne (index : Nat) (target : Option Nat)
  | wakeSpuriously (index : Nat)

def State.setPhase (state : State) (index : Nat) (phase : Phase) : State :=
  { state with phases := state.phases.set index phase }

/-- The test of the predicate of `wait`: the call takes a slot or sleeps. -/
def State.test (state : State) (index : Nat) : State :=
  if state.threadCount < maxThreads then
    { state.setPhase index .running with
      threadCount := state.threadCount + 1 }
  else state.setPhase index .waiting

def step (state : State) : Action → Option State
  | .call => some { state with phases := state.phases ++ [.calling] }
  | .test index =>
      if state.phases[index]? = some .calling ∨
          state.phases[index]? = some .woken then
        some (state.test index)
      else none
  | .release index =>
      if state.phases[index]? = some .running then
        some
          { state.setPhase index .notifying with
            threadCount := state.threadCount - 1 }
      else none
  | .notifyOne index none =>
      if state.phases[index]? = some .notifying ∧
          .waiting ∉ state.phases then
        some (state.setPhase index .done)
      else none
  | .notifyOne index (some target) =>
      if state.phases[index]? = some .notifying ∧
          state.phases[target]? = some .waiting then
        some ((state.setPhase index .done).setPhase target .woken)
      else none
  | .wakeSpuriously index =>
      if state.phases[index]? = some .waiting then
        some (state.setPhase index .woken)
      else none

/-- How many calls are in some phase. -/
def number (phases : List Phase) (phase : Phase) : Nat :=
  phases.countP (· == phase)

/-- The count is that of the running workers, which do not exceed the limit, and
while a call sleeps, every free slot has a notification to come or a call that
was woken. -/
structure Invariant (state : State) : Prop where
  slots : state.threadCount = number state.phases .running
  limit : number state.phases .running ≤ maxThreads
  awake : 0 < number state.phases .waiting →
    maxThreads ≤ number state.phases .running +
      number state.phases .notifying + number state.phases .woken

theorem number_append (phases : List Phase) (new phase : Phase) :
    number (phases ++ [new]) phase =
      number phases phase + if new = phase then 1 else 0 := by
  unfold number
  rw [List.countP_append, List.countP_singleton]
  by_cases same : new = phase
  · rw [if_pos same, if_pos (beq_iff_eq.mpr same)]
  · rw [if_neg same, if_neg (by simpa using same)]

theorem number_set {phases : List Phase} {index : Nat} {old : Phase}
    (found : phases[index]? = some old) (new phase : Phase) :
    (number (phases.set index new) phase + if old = phase then 1 else 0) =
      number phases phase + if new = phase then 1 else 0 := by
  have counts := countP_set_add (· == phase) found new
  have indicator (other : Phase) :
      (other == phase).toNat = if other = phase then 1 else 0 := by
    by_cases same : other = phase
    · rw [if_pos same, beq_iff_eq.mpr same]
      rfl
    · rw [if_neg same, beq_eq_false_iff_ne.mpr same]
      rfl
  rw [indicator, indicator] at counts
  exact counts

theorem number_eq_zero {phases : List Phase} {phase : Phase} :
    number phases phase = 0 ↔ phase ∉ phases := by
  unfold number
  rw [List.countP_eq_zero]
  constructor
  · intro nobody member
    exact nobody phase member (beq_self_eq_true phase)
  · intro nobody other member same
    rw [beq_iff_eq] at same
    exact nobody (same ▸ member)

/-- The transitions of the machine. -/
inductive Transition (state : State) : Action → State → Prop
  | call : Transition state .call
      { state with phases := state.phases ++ [.calling] }
  | enter (index : Nat) (old : Phase)
      (found : state.phases[index]? = some old)
      (caller : old = .calling ∨ old = .woken)
      (free : state.threadCount < maxThreads) :
      Transition state (.test index)
        { state.setPhase index .running with
          threadCount := state.threadCount + 1 }
  | sleep (index : Nat) (old : Phase)
      (found : state.phases[index]? = some old)
      (caller : old = .calling ∨ old = .woken)
      (full : (maxThreads : Int) ≤ state.threadCount) :
      Transition state (.test index) (state.setPhase index .waiting)
  | release (index : Nat) (found : state.phases[index]? = some .running) :
      Transition state (.release index)
        { state.setPhase index .notifying with
          threadCount := state.threadCount - 1 }
  | notifyNobody (index : Nat)
      (found : state.phases[index]? = some .notifying)
      (nobody : number state.phases .waiting = 0) :
      Transition state (.notifyOne index none) (state.setPhase index .done)
  | notify (index target : Nat)
      (found : state.phases[index]? = some .notifying)
      (sleeper : (state.phases.set index .done)[target]? = some .waiting) :
      Transition state (.notifyOne index (some target))
        ((state.setPhase index .done).setPhase target .woken)
  | wake (index : Nat) (found : state.phases[index]? = some .waiting) :
      Transition state (.wakeSpuriously index) (state.setPhase index .woken)

theorem transition_of_step {state next : State} {action : Action}
    (stepTo : step state action = some next) :
    Transition state action next := by
  cases action with
  | call =>
      cases stepTo
      exact .call
  | test index =>
      obtain ⟨caller, same⟩ := Option.ite_none_right_eq_some.mp stepTo
      cases same
      obtain ⟨old, found, isCaller⟩ : ∃ old,
          state.phases[index]? = some old ∧
            (old = .calling ∨ old = .woken) := by
        rcases caller with calls | wakes
        · exact ⟨_, calls, .inl rfl⟩
        · exact ⟨_, wakes, .inr rfl⟩
      unfold State.test
      split
      next free => exact .enter index old found isCaller free
      next full =>
        exact .sleep index old found isCaller (Int.not_lt.mp full)
  | release index =>
      obtain ⟨found, same⟩ := Option.ite_none_right_eq_some.mp stepTo
      cases same
      exact .release index found
  | notifyOne index target =>
      cases target with
      | none =>
          obtain ⟨⟨found, nobody⟩, same⟩ :=
            Option.ite_none_right_eq_some.mp stepTo
          cases same
          exact .notifyNobody index found (number_eq_zero.mpr nobody)
      | some target =>
          obtain ⟨⟨found, sleeper⟩, same⟩ :=
            Option.ite_none_right_eq_some.mp stepTo
          cases same
          apply Transition.notify index target found
          have different : index ≠ target := by
            rintro rfl
            rw [found] at sleeper
            cases sleeper
          rw [List.getElem?_set_ne different]
          exact sleeper
  | wakeSpuriously index =>
      obtain ⟨found, same⟩ := Option.ite_none_right_eq_some.mp stepTo
      cases same
      exact .wake index found

theorem invariant_initial : Invariant initial where
  slots := rfl
  limit := Nat.zero_le _
  awake := fun sleeps => absurd sleeps (Nat.lt_irrefl 0)

theorem Invariant.step {state next : State} {action : Action}
    (invariant : Invariant state)
    (stepTo : step state action = some next) : Invariant next := by
  obtain ⟨slots, limit, awake⟩ := invariant
  cases transition_of_step stepTo with
  | call =>
      have numbers := number_append state.phases .calling
      constructor
      all_goals simp only [numbers, reduceCtorEq, if_false, Nat.add_zero]
      · exact slots
      · exact limit
      · exact awake
  | enter index old found caller free =>
      have running := number_set found .running .running
      have waiting := number_set found .running .waiting
      have notifying := number_set found .running .notifying
      have woken := number_set found .running .woken
      rcases caller with rfl | rfl
      all_goals
        simp only [reduceCtorEq, if_true, if_false] at running waiting notifying woken
        constructor
        all_goals dsimp only [State.setPhase]
        all_goals omega
  | sleep index old found caller full =>
      have running := number_set found .waiting .running
      have waiting := number_set found .waiting .waiting
      have notifying := number_set found .waiting .notifying
      have woken := number_set found .waiting .woken
      rcases caller with rfl | rfl
      all_goals
        simp only [reduceCtorEq, if_true, if_false] at running waiting notifying woken
        constructor
        all_goals dsimp only [State.setPhase]
        all_goals omega
  | release index found =>
      have running := number_set found .notifying .running
      have waiting := number_set found .notifying .waiting
      have notifying := number_set found .notifying .notifying
      have woken := number_set found .notifying .woken
      simp only [reduceCtorEq, if_true, if_false] at running waiting notifying woken
      constructor
      all_goals dsimp only [State.setPhase]
      all_goals omega
  | notifyNobody index found nobody =>
      have running := number_set found .done .running
      have waiting := number_set found .done .waiting
      have notifying := number_set found .done .notifying
      have woken := number_set found .done .woken
      simp only [reduceCtorEq, if_true, if_false] at running waiting notifying woken
      constructor
      all_goals dsimp only [State.setPhase]
      all_goals omega
  | notify index target found sleeper =>
      have running := number_set found .done .running
      have waiting := number_set found .done .waiting
      have notifying := number_set found .done .notifying
      have woken := number_set found .done .woken
      have runningThen := number_set sleeper .woken .running
      have waitingThen := number_set sleeper .woken .waiting
      have notifyingThen := number_set sleeper .woken .notifying
      have wokenThen := number_set sleeper .woken .woken
      simp only [reduceCtorEq, if_true, if_false] at running waiting notifying woken
      simp only [reduceCtorEq, if_true, if_false]
        at runningThen waitingThen notifyingThen wokenThen
      constructor
      all_goals dsimp only [State.setPhase]
      all_goals omega
  | wake index found =>
      have running := number_set found .woken .running
      have waiting := number_set found .woken .waiting
      have notifying := number_set found .woken .notifying
      have woken := number_set found .woken .woken
      simp only [reduceCtorEq, if_true, if_false] at running waiting notifying woken
      constructor
      all_goals dsimp only [State.setPhase]
      all_goals omega

theorem invariant_of_run {schedule : List Action} {state : State}
    (runs : run step initial schedule = some state) : Invariant state :=
  ScheduledMachine.invariant_of_run
    (fun _ _ _ invariant stepTo => invariant.step stepTo)
    invariant_initial runs

/-- What a call can still do.  Waking a call costs less than a notification. -/
def rank : Phase → Nat
  | .calling => 6
  | .woken => 5
  | .waiting => 4
  | .running => 3
  | .notifying => 2
  | .done => 0

end GateWakeups

end IISModuleJS
