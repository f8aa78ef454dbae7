import Mathlib.Logic.Basic

/-!
# Programs that perform effects

A program either returns a value or performs an effect and goes on with its
result.  Programs compose by `bind`, so that the body of a thread can be
written in `do` notation with its branches and early exits.

A trace is the list of effects of one complete execution.  The lemmas below
compute the traces of a program from those of its parts.
-/

namespace IISModuleJS

namespace EffectProgram

universe u v w

/-- A program over effects with typed results. -/
inductive Program (Effect : Type u) (Result : Effect → Type v)
    (Value : Type w) : Type (max u v w)
  | done (value : Value)
  | perform (effect : Effect)
      (next : Result effect → Program Effect Result Value)

namespace Program

variable {Effect : Type u} {Result : Effect → Type v}

/-- Run a program and continue with its value. -/
def bind {Value Other : Type w} :
    Program Effect Result Value →
      (Value → Program Effect Result Other) → Program Effect Result Other
  | .done value, rest => rest value
  | .perform effect next, rest =>
      .perform effect fun result => (next result).bind rest

instance : Monad (Program Effect Result) where
  pure := .done
  bind := bind

/-- A program of a single effect. -/
def effect (effect : Effect) : Program Effect Result (Result effect) :=
  .perform effect .done

/-- The complete executions of a program: the effects performed, and the value
returned. -/
inductive Runs {Value : Type w} :
    Program Effect Result Value → List Effect → Value → Prop
  | done (value : Value) : Runs (.done value) [] value
  | perform {effect : Effect}
      {next : Result effect → Program Effect Result Value}
      {trace : List Effect} {value : Value} (result : Result effect)
      (rest : Runs (next result) trace value) :
      Runs (.perform effect next) (effect :: trace) value

theorem runs_perform {Value : Type w} {effect : Effect}
    {next : Result effect → Program Effect Result Value}
    {trace : List Effect} {value : Value} :
    Runs (.perform effect next) trace value ↔
      ∃ result rest, trace = effect :: rest ∧
        Runs (next result) rest value := by
  constructor
  · intro runs
    cases runs with
    | perform result rest => exact ⟨result, _, rfl, rest⟩
  · rintro ⟨result, rest, rfl, runs⟩
    exact .perform result runs

theorem runs_effect_bind {Value : Type v} {performed : Effect}
    {next : Result performed → Program Effect Result Value}
    {trace : List Effect} {value : Value} :
    Runs (effect performed >>= next) trace value ↔
      ∃ result rest, trace = performed :: rest ∧
        Runs (next result) rest value :=
  runs_perform

/-- The effects that a program performs when every effect has a fixed
answer. -/
def trace {Value : Type w} (answer : (effect : Effect) → Result effect) :
    Program Effect Result Value → List Effect
  | .done _ => []
  | .perform effect next => effect :: (next (answer effect)).trace answer

theorem runs_trace {Value : Type w}
    (answer : (effect : Effect) → Result effect)
    (program : Program Effect Result Value) :
    ∃ value, Runs program (program.trace answer) value := by
  induction program with
  | done value => exact ⟨value, .done value⟩
  | perform effect next ih =>
      obtain ⟨value, runs⟩ := ih (answer effect)
      exact ⟨value, .perform (answer effect) runs⟩

/-- Every program has an execution if every effect has a result. -/
theorem exists_runs {Value : Type w}
    (inhabited : ∀ effect, Nonempty (Result effect))
    (program : Program Effect Result Value) :
    ∃ trace value, Runs program trace value := by
  obtain ⟨value, runs⟩ :=
    runs_trace (fun effect => Classical.choice (inhabited effect)) program
  exact ⟨_, value, runs⟩

/-- Run a program on a state, with a handler that answers its effects. -/
def runWith {State : Type*} {Value : Type w}
    (handler : (effect : Effect) → State → Result effect × State) :
    Program Effect Result Value → State → Value × State
  | .done value, state => (value, state)
  | .perform effect next, state =>
      (next (handler effect state).1).runWith handler (handler effect state).2

/-- Change the value of a program. -/
def map {Value Other : Type w} (change : Value → Other) :
    Program Effect Result Value → Program Effect Result Other
  | .done value => .done (change value)
  | .perform effect next =>
      .perform effect fun result => (next result).map change

theorem runWith_map {State : Type*} {Value Other : Type w}
    (handler : (effect : Effect) → State → Result effect × State)
    (change : Value → Other) (program : Program Effect Result Value)
    (state : State) :
    (program.map change).runWith handler state =
      (change (program.runWith handler state).1,
        (program.runWith handler state).2) := by
  induction program generalizing state with
  | done value => rfl
  | perform effect next ih => exact ih _ _

/-- Every effect that a program can come to perform is allowed. -/
def Within {Value : Type w} (allowed : Effect → Prop) :
    Program Effect Result Value → Prop
  | .done _ => True
  | .perform effect next =>
      allowed effect ∧ ∀ result, (next result).Within allowed

theorem Within.mono {Value : Type w} {allowed more : Effect → Prop}
    {program : Program Effect Result Value} (within : program.Within allowed)
    (weaker : ∀ effect, allowed effect → more effect) :
    program.Within more := by
  induction program with
  | done value => trivial
  | perform effect next ih =>
      exact ⟨weaker effect within.1, fun result => ih result (within.2 result)⟩

/-- What all allowed effects preserve, a program within them preserves. -/
theorem Within.runWith {State : Type*} {Value : Type w}
    {allowed : Effect → Prop} {holds : State → Prop}
    {handler : (effect : Effect) → State → Result effect × State}
    (preserved : ∀ effect state, allowed effect → holds state →
      holds (handler effect state).2)
    {program : Program Effect Result Value} (within : program.Within allowed)
    {state : State} (starts : holds state) :
    holds (program.runWith handler state).2 := by
  induction program generalizing state with
  | done value => exact starts
  | perform effect next ih =>
      obtain ⟨isAllowed, rest⟩ := within
      exact ih _ (rest _) (preserved effect state isAllowed starts)

end Program

end EffectProgram

end IISModuleJS
