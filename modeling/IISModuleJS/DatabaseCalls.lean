import IISModuleJS.JavaScriptValue
import IISModuleJS.ScheduledMachine
import Mathlib.Logic.Function.Basic

/-!
# Asynchronous database calls

A database object owns a `DbContext` with a session, a statement and a result.
`prepare`, `bind`, `reset` and `close` change the statement.  `exec`, `query`
and `queryRow` start a worker that executes whatever statement the context has
when the worker gets to it, stores the result in the context, and settles the
promise of the call later.  Nothing is copied at the time of the call.

The machine interleaves the steps of scripts with the two steps of a worker.
A call runs the statement that it was made for, and is fulfilled with its own
result, as long as nobody changes the statement before the worker executes it
or replaces the result before the promise is settled.
-/

namespace IISModuleJS

namespace DatabaseCalls

open ScheduledMachine

/-- A value bound to a placeholder. -/
inductive BoundValue
  | text (value : List UInt8)
  | integer (value : Int)
  | boolean (value : Bool)
  | double (value : JsNumber)
  | null
  deriving DecidableEq

/-- What the database executes: a query and the values of its placeholders.
A default-constructed statement has no query. -/
structure Execution where
  query : Option (List UInt8)
  bindings : Int → Option BoundValue

/-- `cppdb::statement`, with the placeholder that the next plain `bind`
fills. -/
structure Statement extends Execution where
  placeholder : Int

namespace Statement

/-- A default-constructed statement.  All its functions throw. -/
def empty : Statement :=
  ⟨⟨none, fun _ => none⟩, 1⟩

def isEmpty (statement : Statement) : Bool :=
  statement.query.isNone

/-- `session.prepare(query)`. -/
def prepare (query : List UInt8) : Statement :=
  ⟨⟨some query, fun _ => none⟩, 1⟩

/-- `bind` with or without an index. -/
def bind (statement : Statement) (value : BoundValue) :
    Option Int → Statement
  | none =>
      { statement with
        bindings := Function.update statement.bindings statement.placeholder
          (some value)
        placeholder := statement.placeholder + 1 }
  | some index =>
      { statement with
        bindings := Function.update statement.bindings index (some value) }

/-- Remove all bindings. -/
def reset (statement : Statement) : Statement :=
  { statement with bindings := fun _ => none, placeholder := 1 }

end Statement

/-- Which call a result comes from. -/
inductive ResultOrigin
  | call (identity : Nat)
  | synchronous
  deriving DecidableEq

/-- `DbContext`.  A result is told apart by where it comes from; `next` and
`fetch` only move in it. -/
structure DbContext where
  statement : Statement
  result : Option ResultOrigin

/-- The functions of a database object that return when they are done.  Where
the database decides whether a function throws, `succeeds` says so. -/
inductive ScriptCall
  | prepare (query : List UInt8) (succeeds : Bool)
  | bind (index : Option Int) (value : BoundValue) (succeeds : Bool)
  | reset
  | execSync
  | querySync (succeeds : Bool)
  | queryRowSync (succeeds : Bool)
  | close
  | next
  | fetch

namespace DbContext

/-- The context after `querySync` or `queryRowSync`. -/
def storeSynchronous (context : DbContext) (succeeds : Bool) : DbContext :=
  if succeeds ∧ !context.statement.isEmpty then
    { context with result := some .synchronous }
  else
    context

/-- The context after a function called by a script. -/
def apply (context : DbContext) : ScriptCall → DbContext
  | .prepare query succeeds =>
      if succeeds then
        { context with statement := .prepare query }
      else
        context
  | .bind index value succeeds =>
      if succeeds ∧ !context.statement.isEmpty then
        { context with statement := context.statement.bind value index }
      else
        context
  | .reset =>
      if context.statement.isEmpty then
        context
      else
        { context with statement := context.statement.reset }
  | .execSync => context
  | .querySync succeeds => context.storeSynchronous succeeds
  | .queryRowSync succeeds => context.storeSynchronous succeeds
  | .close => ⟨.empty, none⟩
  | .next => context
  | .fetch => context

end DbContext

inductive CallKind
  | exec
  | query
  | queryRow

/-- `query` and `queryRow` store a result. -/
def CallKind.storesResult : CallKind → Bool
  | .exec => false
  | .query | .queryRow => true

/-- How far the worker of a call is: before its library call, between it and
the settlement, or done.  A fulfilled promise remembers the result that the
context had at that moment. -/
inductive Stage
  | started
  | executed (outcome : Except String Unit)
  | fulfilled (result : Option ResultOrigin)
  | rejected (message : String)
  deriving DecidableEq

/-- An asynchronous call.  `issued` is what was current when it was made, `ran`
what its worker executed. -/
structure Call where
  context : Nat
  kind : CallKind
  stage : Stage
  issued : Execution
  ran : Option Execution

structure State where
  contexts : Nat → DbContext
  calls : Nat → Option Call

/-- The steps of scripts and those of workers. -/
inductive Action
  | script (context : Nat) (function : ScriptCall)
  | call (identity context : Nat) (kind : CallKind)
  | execute (identity : Nat) (outcome : Except String Unit)
  | settle (identity : Nat)

def State.setContext (state : State) (identity : Nat) (context : DbContext) :
    State :=
  { state with contexts := Function.update state.contexts identity context }

def State.setCall (state : State) (identity : Nat) (call : Call) : State :=
  { state with calls := Function.update state.calls identity (some call) }

/-- The library call of a worker: it executes the statement that the context
has now, and stores the result if it returns one. -/
def State.execute (state : State) (identity : Nat) (call : Call)
    (outcome : Except String Unit) : State :=
  let context := state.contexts call.context
  let stored :=
    if call.kind.storesResult ∧ outcome = .ok () then
      state.setContext call.context
        { context with result := some (.call identity) }
    else
      state
  stored.setCall identity { call with
    stage := .executed outcome
    ran := some context.statement.toExecution }

/-- The text that the worker keeps of an exception. -/
def errorMessage : Except String Unit → String
  | .ok _ => ""
  | .error what => what

/-- The worker takes an empty text for success. -/
def State.settle (state : State) (identity : Nat) (call : Call)
    (outcome : Except String Unit) : State :=
  state.setCall identity { call with
    stage :=
      if (errorMessage outcome).isEmpty then
        .fulfilled (state.contexts call.context).result
      else
        .rejected (errorMessage outcome) }

def step (state : State) : Action → Option State
  | .script context function =>
      some (state.setContext context
        ((state.contexts context).apply function))
  | .call identity context kind =>
      if (state.calls identity).isSome then
        none
      else
        some (state.setCall identity ⟨context, kind, .started,
          (state.contexts context).statement.toExecution, none⟩)
  | .execute identity outcome =>
      match state.calls identity with
      | none => none
      | some call =>
          if call.stage = .started ∧
              (outcome = .ok () →
                !(state.contexts call.context).statement.isEmpty) then
            some (state.execute identity call outcome)
          else
            none
  | .settle identity =>
      match state.calls identity with
      | none => none
      | some call =>
          match call.stage with
          | .executed outcome => some (state.settle identity call outcome)
          | _ => none

/-- Database objects as `db.init` creates them. -/
def initial : State :=
  ⟨fun _ => ⟨.empty, none⟩, fun _ => none⟩

/-- The worker of a call executed what was current when the call was made, and
a promise of `query` or `queryRow` was fulfilled when the context had the result
of this call. -/
def RunsIssued (identity : Nat) (call : Call) : Prop :=
  (∀ execution, call.ran = some execution → execution = call.issued) ∧
    ∀ result, call.stage = .fulfilled result →
      call.kind.storesResult = true → result = some (.call identity)

/-- A worker has still to execute the statement of the context. -/
def State.AwaitsExecution (state : State) (context : Nat) : Prop :=
  ∃ identity call, state.calls identity = some call ∧
    call.context = context ∧ call.stage = .started

/-- A promise has still to be fulfilled for the result of the context. -/
def State.AwaitsSettlement (state : State) (context : Nat) : Prop :=
  ∃ identity call, state.calls identity = some call ∧
    call.context = context ∧ call.stage = .executed (.ok ()) ∧
      call.kind.storesResult = true

/-- The step disturbs no call: nothing changes what a worker has still to
execute, no result is replaced before the promise of its call is settled, and
no exception of `query` or `queryRow` comes without a text. -/
def Undisturbed (state : State) : Action → Prop
  | .script context function =>
      let before := state.contexts context
      let after := before.apply function
      (state.AwaitsExecution context →
        after.statement.toExecution = before.statement.toExecution) ∧
      (state.AwaitsSettlement context → after.result = before.result)
  | .call _ _ _ => True
  | .execute identity outcome =>
      ∀ call, state.calls identity = some call →
        call.kind.storesResult = true →
          outcome ≠ .error "" ∧
            (outcome = .ok () → ¬state.AwaitsSettlement call.context)
  | .settle _ => True

variable {state next : State} {action : Action}

/-- What an action can do, with everything that enabled it. -/
inductive Transition (state : State) : Action → State → Prop
  | script (context : Nat) (function : ScriptCall) :
      Transition state (.script context function)
        (state.setContext context ((state.contexts context).apply function))
  | call (identity context : Nat) (kind : CallKind)
      (fresh : state.calls identity = none) :
      Transition state (.call identity context kind)
        (state.setCall identity ⟨context, kind, .started,
          (state.contexts context).statement.toExecution, none⟩)
  | execute (identity : Nat) (call : Call) (outcome : Except String Unit)
      (found : state.calls identity = some call)
      (started : call.stage = .started) :
      Transition state (.execute identity outcome)
        (state.execute identity call outcome)
  | settle (identity : Nat) (call : Call) (outcome : Except String Unit)
      (found : state.calls identity = some call)
      (executed : call.stage = .executed outcome) :
      Transition state (.settle identity)
        (state.settle identity call outcome)

theorem transition_of_step (stepTo : step state action = some next) :
    Transition state action next := by
  cases action with
  | script context function =>
      cases stepTo
      exact .script context function
  | call identity context kind =>
      simp only [step] at stepTo
      split at stepTo
      · cases stepTo
      next fresh =>
        cases stepTo
        exact .call identity context kind (by simpa using fresh)
  | execute identity outcome =>
      simp only [step] at stepTo
      split at stepTo
      · cases stepTo
      next call found =>
        split at stepTo
        next enabled =>
          cases stepTo
          exact .execute identity call outcome found enabled.1
        next => cases stepTo
  | settle identity =>
      simp only [step] at stepTo
      split at stepTo
      · cases stepTo
      next call found =>
        split at stepTo
        next outcome executed =>
          cases stepTo
          exact .settle identity call outcome found executed
        next => cases stepTo

/-- What is known of a call at its stage, while nothing disturbs it. -/
def OnTrack (state : State) (identity : Nat) (call : Call) : Prop :=
  match call.stage with
  | .started =>
      (state.contexts call.context).statement.toExecution = call.issued ∧
        call.ran = none
  | .executed outcome =>
      call.ran = some call.issued ∧
        (call.kind.storesResult = true →
          outcome ≠ .error "" ∧
            (outcome = .ok () →
              (state.contexts call.context).result =
                some (.call identity)))
  | .fulfilled result =>
      call.ran = some call.issued ∧
        (call.kind.storesResult = true → result = some (.call identity))
  | .rejected _ => call.ran = some call.issued

structure CallInvariant (state : State) : Prop where
  onTrack : ∀ identity call, state.calls identity = some call →
    OnTrack state identity call
  produced : ∀ context identity,
    (state.contexts context).result = some (.call identity) →
      ∃ call, state.calls identity = some call ∧ call.stage ≠ .started

theorem OnTrack.runsIssued {identity : Nat} {call : Call}
    (onTrack : OnTrack state identity call) : RunsIssued identity call := by
  obtain ⟨context, kind, stage, issued, ran⟩ := call
  cases stage with
  | started =>
      have notRun : ran = none := onTrack.2
      exact ⟨by simp [notRun], by simp⟩
  | executed outcome =>
      refine ⟨?_, by simp⟩
      intro execution executionEq
      exact Option.some.inj (executionEq.symm.trans onTrack.1)
  | fulfilled result =>
      constructor
      · intro execution executionEq
        exact Option.some.inj (executionEq.symm.trans onTrack.1)
      · intro other otherEq stores
        cases otherEq
        exact onTrack.2 stores
  | rejected message =>
      refine ⟨?_, by simp⟩
      intro execution executionEq
      exact Option.some.inj (executionEq.symm.trans onTrack)

theorem callInvariant_initial : CallInvariant initial where
  onTrack := by simp [initial]
  produced := by simp [initial]

/-- A call stays on track when its context keeps what it relies on. -/
theorem OnTrack.keep {identity : Nat} {call : Call}
    (onTrack : OnTrack state identity call)
    (statement : call.stage = .started →
      (next.contexts call.context).statement.toExecution =
        (state.contexts call.context).statement.toExecution)
    (result : call.stage = .executed (.ok ()) →
      call.kind.storesResult = true →
        (next.contexts call.context).result =
          (state.contexts call.context).result) :
    OnTrack next identity call := by
  obtain ⟨context, kind, stage, issued, ran⟩ := call
  cases stage with
  | started => exact ⟨(statement rfl).trans onTrack.1, onTrack.2⟩
  | executed outcome =>
      refine ⟨onTrack.1, fun stores => ⟨(onTrack.2 stores).1, ?_⟩⟩
      intro succeeds
      subst succeeds
      exact (result rfl stores).trans ((onTrack.2 stores).2 rfl)
  | fulfilled result => exact onTrack
  | rejected message => exact onTrack

/-- Only the worker of a call stores the result of the call. -/
theorem apply_result {context : DbContext} {function : ScriptCall}
    {identity : Nat}
    (stored : (context.apply function).result = some (.call identity)) :
    context.result = some (.call identity) := by
  cases function with
  | prepare query succeeds =>
      cases succeeds with
      | false => exact stored
      | true => exact stored
  | bind index value succeeds =>
      simp only [DbContext.apply] at stored
      split at stored
      · exact stored
      · exact stored
  | reset =>
      simp only [DbContext.apply] at stored
      split at stored
      · exact stored
      · exact stored
  | querySync succeeds =>
      simp only [DbContext.apply, DbContext.storeSynchronous] at stored
      split at stored
      · cases stored
      · exact stored
  | queryRowSync succeeds =>
      simp only [DbContext.apply, DbContext.storeSynchronous] at stored
      split at stored
      · cases stored
      · exact stored
  | close => cases stored
  | execSync => exact stored
  | next => exact stored
  | fetch => exact stored

theorem contexts_setContext (identity : Nat) (context : DbContext)
    (other : Nat) :
    (state.setContext identity context).contexts other =
      if other = identity then context else state.contexts other :=
  Function.update_apply _ _ _ _

theorem calls_setCall (identity : Nat) (call : Call) (other : Nat) :
    (state.setCall identity call).calls other =
      if other = identity then some call else state.calls other :=
  Function.update_apply _ _ _ _

/-- Executing a statement does not change it. -/
theorem execute_statement (identity : Nat) (call : Call)
    (outcome : Except String Unit) (context : Nat) :
    ((state.execute identity call outcome).contexts context).statement =
      (state.contexts context).statement := by
  simp only [State.execute, State.setCall]
  split
  · rw [contexts_setContext]
    split
    next same => rw [same]
    next => rfl
  · rfl

/-- A result is stored only in the context of the call, and only if there is
one. -/
theorem execute_result (identity : Nat) (call : Call)
    (outcome : Except String Unit) (context : Nat) :
    ((state.execute identity call outcome).contexts context).result =
      if (call.kind.storesResult = true ∧ outcome = .ok ()) ∧
          context = call.context then
        some (.call identity)
      else
        (state.contexts context).result := by
  simp only [State.execute, State.setCall]
  split
  next stores =>
    rw [contexts_setContext]
    split
    next same => rw [if_pos ⟨stores, same⟩]
    next different => rw [if_neg fun both => different both.2]
  next stores => rw [if_neg fun both => stores both.1]

theorem calls_execute (identity : Nat) (call : Call)
    (outcome : Except String Unit) (other : Nat) :
    (state.execute identity call outcome).calls other =
      if other = identity then
        some { call with
          stage := .executed outcome
          ran := some
            (state.contexts call.context).statement.toExecution }
      else
        state.calls other := by
  simp only [State.execute, calls_setCall]
  split
  · rfl
  · split
    · rfl
    · rfl

namespace CallInvariant

theorem script (invariant : CallInvariant state) {context : Nat}
    {function : ScriptCall}
    (undisturbed : Undisturbed state (.script context function)) :
    CallInvariant (state.setContext context
      ((state.contexts context).apply function)) where
  onTrack := by
    intro identity call found
    refine (invariant.onTrack identity call found).keep ?_ ?_
    · intro started
      rw [contexts_setContext]
      split
      next same =>
        rw [same]
        exact undisturbed.1 ⟨identity, call, found, same, started⟩
      next => rfl
    · intro executed stores
      rw [contexts_setContext]
      split
      next same =>
        rw [same]
        exact undisturbed.2 ⟨identity, call, found, same, executed, stores⟩
      next => rfl
  produced := by
    intro other identity stored
    rw [contexts_setContext] at stored
    split at stored
    next => exact invariant.produced context identity (apply_result stored)
    next => exact invariant.produced other identity stored

theorem call (invariant : CallInvariant state) {identity context : Nat}
    {kind : CallKind} (fresh : state.calls identity = none) :
    CallInvariant (state.setCall identity ⟨context, kind, .started,
      (state.contexts context).statement.toExecution, none⟩) where
  onTrack := by
    intro other call found
    rw [calls_setCall] at found
    split at found
    next =>
      cases found
      exact ⟨rfl, rfl⟩
    next =>
      exact (invariant.onTrack other call found).keep (fun _ => rfl)
        fun _ _ => rfl
  produced := by
    intro other origin stored
    obtain ⟨call, found, executed⟩ := invariant.produced other origin stored
    refine ⟨call, ?_, executed⟩
    rw [calls_setCall, if_neg]
    · exact found
    · rintro rfl
      rw [fresh] at found
      cases found

theorem execute (invariant : CallInvariant state) {identity : Nat}
    {call : Call} {outcome : Except String Unit}
    (undisturbed : Undisturbed state (.execute identity outcome))
    (found : state.calls identity = some call)
    (started : call.stage = .started) :
    CallInvariant (state.execute identity call outcome) where
  onTrack := by
    intro other otherCall otherFound
    rw [calls_execute] at otherFound
    split at otherFound
    next same =>
      cases otherFound
      have current := invariant.onTrack identity call found
      rw [OnTrack, started] at current
      refine ⟨congrArg some current.1, fun stores => ?_⟩
      refine ⟨(undisturbed call found stores).1, fun succeeds => ?_⟩
      rw [execute_result, if_pos ⟨⟨stores, succeeds⟩, rfl⟩, same]
    next =>
      refine (invariant.onTrack other otherCall otherFound).keep ?_ ?_
      · intro _
        rw [execute_statement]
      · intro executed stores
        rw [execute_result, if_neg]
        rintro ⟨⟨callStores, succeeds⟩, same⟩
        exact (undisturbed call found callStores).2 succeeds
          ⟨other, otherCall, otherFound, same, executed, stores⟩
  produced := by
    intro other origin stored
    rw [calls_execute]
    split
    next => exact ⟨_, rfl, by simp⟩
    next different =>
      rw [execute_result] at stored
      split at stored
      next =>
        cases stored
        exact absurd rfl different
      next => exact invariant.produced other origin stored

theorem settle (invariant : CallInvariant state) {identity : Nat}
    {call : Call} {outcome : Except String Unit}
    (found : state.calls identity = some call)
    (executed : call.stage = .executed outcome) :
    CallInvariant (state.settle identity call outcome) where
  onTrack := by
    intro other otherCall otherFound
    simp only [State.settle, calls_setCall] at otherFound
    split at otherFound
    next same =>
      cases otherFound
      have current := invariant.onTrack identity call found
      rw [OnTrack, executed] at current
      cases outcome with
      | ok done =>
          refine ⟨current.1, fun stores => ?_⟩
          rw [same]
          exact (current.2 stores).2 rfl
      | error what =>
          by_cases empty : what.isEmpty
          · rw [show errorMessage (.error what) = what from rfl, if_pos empty]
            refine ⟨current.1, fun stores => ?_⟩
            have noText : what = "" := by simpa using empty
            exact absurd (congrArg Except.error noText) (current.2 stores).1
          · rw [show errorMessage (.error what) = what from rfl, if_neg empty]
            exact current.1
    next =>
      exact (invariant.onTrack other otherCall otherFound).keep (fun _ => rfl)
        fun _ _ => rfl
  produced := by
    intro other origin stored
    simp only [State.settle, calls_setCall]
    split
    next =>
      refine ⟨_, rfl, ?_⟩
      split <;> simp
    next => exact invariant.produced other origin stored

theorem step (invariant : CallInvariant state)
    (undisturbed : Undisturbed state action)
    (stepTo : DatabaseCalls.step state action = some next) :
    CallInvariant next := by
  cases transition_of_step stepTo with
  | script context function => exact invariant.script undisturbed
  | call identity context kind fresh => exact invariant.call fresh
  | execute identity call outcome found started =>
      exact invariant.execute undisturbed found started
  | settle identity call outcome found executed =>
      exact invariant.settle found executed

end CallInvariant

/-- Some continuation that disturbs no call makes one run or report something
else than what it was made for. -/
def GoesWrong (state : State) : Prop :=
  ∃ rest final identity call, Respects step Undisturbed state rest ∧
    run step state rest = some final ∧
      final.calls identity = some call ∧ ¬RunsIssued identity call

/-- A worker that finds another statement executes it. -/
theorem goesWrong_of_statement {identity : Nat} {call : Call}
    (found : state.calls identity = some call)
    (started : call.stage = .started)
    (changed : (state.contexts call.context).statement.toExecution ≠
      call.issued) : GoesWrong state := by
  have stepTo : step state (.execute identity (.error "execution failed")) =
      some (state.execute identity call (.error "execution failed")) := by
    simp [step, found, started]
  have executed :=
    (@calls_execute state identity call (.error "execution failed")
      identity).trans (if_pos rfl)
  have undisturbed : Undisturbed state
      (.execute identity (.error "execution failed")) := by
    intro other otherFound stores
    exact ⟨by simp, nofun⟩
  refine ⟨[_], _, identity, _, respects_cons undisturbed stepTo trivial,
    run_cons_eq_some.mpr ⟨_, stepTo, rfl⟩, executed, ?_⟩
  intro runsIssued
  exact changed (runsIssued.1 _ rfl)

/-- A promise that finds another result is fulfilled with it. -/
theorem goesWrong_of_result {identity : Nat} {call : Call}
    {outcome : Except String Unit}
    (found : state.calls identity = some call)
    (executed : call.stage = .executed outcome)
    (noText : errorMessage outcome = "")
    (stores : call.kind.storesResult = true)
    (replaced : (state.contexts call.context).result ≠
      some (.call identity)) : GoesWrong state := by
  have stepTo : step state (.settle identity) =
      some (state.settle identity call outcome) := by
    simp [step, found, executed]
  have settled : (state.settle identity call outcome).calls identity =
      some { call with
        stage := .fulfilled (state.contexts call.context).result } := by
    simp [State.settle, calls_setCall, noText]
  have undisturbed : Undisturbed state (.settle identity) := trivial
  refine ⟨[_], _, identity, _, respects_cons undisturbed stepTo trivial,
    run_cons_eq_some.mpr ⟨_, stepTo, rfl⟩, settled, ?_⟩
  intro runsIssued
  exact replaced (runsIssued.2 _ rfl stores)

namespace CallInvariant

theorem script_goesWrong (invariant : CallInvariant state) {context : Nat}
    {function : ScriptCall}
    (disturbed : ¬Undisturbed state (.script context function)) :
    GoesWrong (state.setContext context
      ((state.contexts context).apply function)) := by
  rw [Undisturbed, Classical.not_and_iff_not_or_not] at disturbed
  simp only [Classical.not_imp] at disturbed
  rcases disturbed with ⟨awaits, changed⟩ | ⟨awaits, replaced⟩
  · obtain ⟨identity, call, found, rfl, started⟩ := awaits
    refine goesWrong_of_statement found started ?_
    have current := invariant.onTrack identity call found
    rw [OnTrack, started] at current
    rw [contexts_setContext, if_pos rfl, ← current.1]
    exact changed
  · obtain ⟨identity, call, found, rfl, executed, stores⟩ := awaits
    refine goesWrong_of_result found executed rfl stores ?_
    have current := invariant.onTrack identity call found
    rw [OnTrack, executed] at current
    rw [contexts_setContext, if_pos rfl, ← (current.2 stores).2 rfl]
    exact replaced

theorem execute_goesWrong (invariant : CallInvariant state) {identity : Nat}
    {call : Call} {outcome : Except String Unit}
    (found : state.calls identity = some call)
    (started : call.stage = .started)
    (disturbed : ¬Undisturbed state (.execute identity outcome)) :
    GoesWrong (state.execute identity call outcome) := by
  simp only [Undisturbed, Classical.not_forall] at disturbed
  obtain ⟨other, otherFound, stores, disturbed⟩ := disturbed
  have same : call = other := Option.some.inj (found.symm.trans otherFound)
  subst same
  have calls := @calls_execute state identity call outcome
  by_cases silent : outcome = .error ""
  · have stored : (state.contexts call.context).result ≠
        some (.call identity) := by
      intro produced
      obtain ⟨producer, producerFound, executed⟩ :=
        invariant.produced call.context identity produced
      have isCall := Option.some.inj (found.symm.trans producerFound)
      exact executed (isCall ▸ started)
    refine goesWrong_of_result ((calls identity).trans (if_pos rfl)) rfl ?_
      stores ?_
    · rw [silent]
      rfl
    · rw [execute_result, if_neg (by simp [silent])]
      exact stored
  · have awaits : outcome = .ok () ∧ state.AwaitsSettlement call.context := by
      simpa [silent] using disturbed
    obtain ⟨succeeds, pending, pendingCall, pendingFound, sameContext,
      executed, pendingStores⟩ := awaits
    have different : pending ≠ identity := by
      rintro rfl
      have isCall := Option.some.inj (found.symm.trans pendingFound)
      rw [isCall, executed] at started
      cases started
    refine goesWrong_of_result
      ((calls pending).trans ((if_neg different).trans pendingFound))
      executed rfl pendingStores ?_
    rw [execute_result, if_pos ⟨⟨stores, succeeds⟩, sameContext⟩]
    simpa using Ne.symm different

theorem goesWrong (invariant : CallInvariant state)
    (stepTo : DatabaseCalls.step state action = some next)
    (disturbed : ¬Undisturbed state action) : GoesWrong next := by
  cases transition_of_step stepTo with
  | script context function => exact invariant.script_goesWrong disturbed
  | call identity context kind fresh => exact absurd trivial disturbed
  | execute identity call outcome found started =>
      exact invariant.execute_goesWrong found started disturbed
  | settle identity call outcome found executed =>
      exact absurd trivial disturbed

end CallInvariant

/-- In every run that disturbs no call, all calls run what they were made for
and report their own results.  The first step that disturbs a call can always be
continued, without another one, to a call that does not. -/
theorem calls_runIssued {schedule : List Action} {state : State}
    (undisturbed : Respects step Undisturbed initial schedule)
    (runs : run step initial schedule = some state) :
    (∀ identity call, state.calls identity = some call →
      RunsIssued identity call) ∧
    ∀ action next, step state action = some next →
      ¬Undisturbed state action →
        ∃ rest final identity call, Respects step Undisturbed next rest ∧
          run step next rest = some final ∧
            final.calls identity = some call ∧
              ¬RunsIssued identity call := by
  have invariant : CallInvariant state :=
    invariant_of_respects
      (fun _ _ _ invariant allowed stepTo => invariant.step allowed stepTo)
      callInvariant_initial undisturbed runs
  constructor
  · intro identity call found
    exact (invariant.onTrack identity call found).runsIssued
  · intro action next stepTo disturbed
    exact invariant.goesWrong stepTo disturbed

/-- A statement is prepared, queried and left alone. -/
def queryOnce : List Action :=
  [.script 0 (.prepare [65] true), .call 0 0 .query, .execute 0 (.ok ()),
    .settle 0]

theorem undisturbed_queryOnce :
    Respects step Undisturbed initial queryOnce := by
  refine respects_cons ?_ rfl (respects_cons trivial rfl
    (respects_cons ?_ rfl (respects_cons trivial rfl trivial)))
  · constructor
    · rintro ⟨identity, call, found, -⟩
      cases found
    · rintro ⟨identity, call, found, -⟩
      cases found
  · intro call found stores
    refine ⟨by simp, fun _ => ?_⟩
    rintro ⟨pending, pendingCall, pendingFound, -, executed, -⟩
    rw [calls_setCall] at pendingFound
    split at pendingFound
    · cases pendingFound
      cases executed
    · cases pendingFound

theorem calls_runIssued_queryOnce :
    ∃ state call, run step initial queryOnce = some state ∧
      state.calls 0 = some call ∧
      call.stage = .fulfilled (some (.call 0)) ∧ RunsIssued 0 call :=
  ⟨_, _, rfl, rfl, rfl,
    (calls_runIssued undisturbed_queryOnce rfl).1 0 _ rfl⟩

/-- A second `prepare` comes before the worker of the first statement. -/
theorem prepare_replaces_issued :
    ∃ state call, run step initial
        [.script 0 (.prepare [65] true), .call 0 0 .exec,
          .script 0 (.prepare [66] true), .execute 0 (.ok ())] =
        some state ∧
      state.calls 0 = some call ∧ ¬RunsIssued 0 call := by
  refine ⟨_, _, rfl, rfl, ?_⟩
  intro runsIssued
  have queries := congrArg Execution.query (runsIssued.1 _ rfl)
  exact absurd queries (by decide)

end DatabaseCalls

end IISModuleJS
