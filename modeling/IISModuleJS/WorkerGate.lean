import IISModuleJS.AsyncWorkers
import IISModuleJS.ListWeight
import IISModuleJS.ScheduledMachine

/-!
# The gate in front of the worker threads

At most `MAX_THREADS` workers run at a time.  A call of an asynchronous
operation waits until `thread_count` is below that limit, increments it and
starts its worker; the worker decrements it again when its library calls are
done.  The call is made by a script, so its thread holds the engine lock while
it waits.

The machine has the engine lock, the requests that IIS hands to
`handle_callback`, the call that waits at the gate, and the workers.  A fetch
can reach this very site: its request then arrives like any other, and the
library call returns only after the request has been answered.
-/

namespace IISModuleJS

namespace WorkerGate

open AsyncWorkers EffectProgram ListWeight Program ScheduledMachine

/-- `MAX_THREADS`. -/
def maxThreads : Nat := 24

/-- A worker: what it still has to do, what it did, and the request that its
fetch sent to this site. -/
structure Worker where
  operation : Operation
  program : WorkerProgram Unit
  history : List Effect
  sentRequest : Option Nat

/-- The worker of a call that was just admitted. -/
def Worker.start (operation : Operation) : Worker where
  operation := operation
  program := operation.worker
  history := []
  sentRequest := none

/-- The worker after its next effect. -/
def Worker.advance (worker : Worker) (effect : Effect)
    (program : WorkerProgram Unit) : Worker :=
  { worker with
    program := program
    history := worker.history ++ [effect] }

/-- The slot of a worker is taken from the admission of its call until the
worker decrements the thread count. -/
def Worker.holdsSlot (worker : Worker) : Bool :=
  decide (Effect.decrement ∉ worker.history)

/-- Where `handle_callback` stands with a request that has a registered
callback: it waits for the engine lock, runs the callback, waits for a promise,
or has answered. -/
inductive RequestPhase
  | locking
  | running
  | pending
  | answered
  deriving DecidableEq

/-- Who holds the engine lock. -/
inductive Owner
  | native
  | request (index : Nat)
  | worker (index : Nat)
  deriving DecidableEq

structure State where
  threadCount : Int
  lockOwner : Option Owner
  atGate : Option Operation
  requests : List RequestPhase
  workers : List Worker

def initial : State where
  threadCount := 0
  lockOwner := none
  atGate := none
  requests := []
  workers := []

inductive Action
  | arrive
  | lockRequest (index : Nat)
  | returnRequest (index : Nat) (pending : Bool)
  | completeRequest (index : Nat)
  | lockNative
  | unlockNative
  | callAsync (operation : Operation)
  | enterGate
  | sendRequest (index : Nat)
  | work (index : Nat) (results : ∀ effect : Effect, effect.Result)

namespace State

/-- The holder of the engine lock can run script code. -/
def scriptRunning (state : State) : Bool :=
  state.lockOwner.isSome && state.atGate.isNone

/-- A worker does not wait for an answer of this site. -/
def replied (state : State) (worker : Worker) : Bool :=
  match worker.sentRequest with
  | none => true
  | some index => state.requests[index]? == some .answered

def setRequest (state : State) (index : Nat) (phase : RequestPhase) :
    State :=
  { state with requests := state.requests.set index phase }

def setWorker (state : State) (index : Nat) (worker : Worker) : State :=
  { state with workers := state.workers.set index worker }

/-- The effect of a worker on the rest of the state, when it is enabled. -/
def perform (state : State) (index : Nat) (worker : Worker) :
    Effect → Option State
  | .library _ => if state.replied worker then some state else none
  | .decrement => some { state with threadCount := state.threadCount - 1 }
  | .notifyOne => some state
  | .lockEngine =>
      if state.lockOwner = none then
        some { state with lockOwner := some (.worker index) }
      else none
  | .settle _ =>
      if state.lockOwner = some (.worker index) ∧ state.atGate = none then
        some state
      else none
  | .unlockEngine =>
      if state.lockOwner = some (.worker index) ∧ state.atGate = none then
        some { state with lockOwner := none }
      else none

end State

/-- A fetch that sends a request to this site. -/
def reachesSite (sameSite : String → Bool) : Operation → Bool
  | .fetch request =>
      sameSite request.hostname &&
        (clientMethods.lookup request.method).isSome
  | _ => false

/-- The worker is in the library call of a fetch from this site. -/
def Worker.fetching (sameSite : String → Bool) (worker : Worker) : Bool :=
  reachesSite sameSite worker.operation && worker.history.isEmpty

/-- One step.  The parameter tells which host names lead to this site. -/
def step (sameSite : String → Bool) (state : State) :
    Action → Option State
  | .arrive =>
      some { state with requests := state.requests ++ [.locking] }
  | .lockRequest index =>
      if state.requests[index]? = some .locking ∧ state.lockOwner = none then
        some
          { state.setRequest index .running with
            lockOwner := some (.request index) }
      else none
  | .returnRequest index pending =>
      if state.lockOwner = some (.request index) ∧ state.atGate = none ∧
          state.requests[index]? = some .running then
        some
          { state.setRequest index
              (if pending then .pending else .answered) with
            lockOwner := none }
      else none
  | .completeRequest index =>
      if state.scriptRunning ∧ state.requests[index]? = some .pending then
        some (state.setRequest index .answered)
      else none
  | .lockNative =>
      if state.lockOwner = none then
        some { state with lockOwner := some .native }
      else none
  | .unlockNative =>
      if state.lockOwner = some .native ∧ state.atGate = none then
        some { state with lockOwner := none }
      else none
  | .callAsync operation =>
      if state.scriptRunning then
        some { state with atGate := some operation }
      else none
  | .enterGate =>
      match state.atGate with
      | none => none
      | some operation =>
          if state.threadCount < maxThreads then
            some
              { state with
                threadCount := state.threadCount + 1
                atGate := none
                workers := state.workers ++ [.start operation] }
          else none
  | .sendRequest index =>
      match state.workers[index]? with
      | none => none
      | some worker =>
          if worker.fetching sameSite ∧ worker.sentRequest = none then
            some
              { state.setWorker index
                  { worker with
                    sentRequest := some state.requests.length } with
                requests := state.requests ++ [.locking] }
          else none
  | .work index results =>
      match state.workers[index]? with
      | none => none
      | some worker =>
          match worker.program with
          | .done _ => none
          | .perform effect next =>
              (state.perform index worker effect).map fun performed =>
                performed.setWorker index
                  (worker.advance effect (next (results effect)))

/-- Everything a step can do, with the guards under which it does it. -/
inductive Transition (sameSite : String → Bool) (state : State) :
    Action → State → Prop
  | arrive :
      Transition sameSite state .arrive
        { state with requests := state.requests ++ [.locking] }
  | lockRequest {index : Nat}
      (locking : state.requests[index]? = some .locking)
      (free : state.lockOwner = none) :
      Transition sameSite state (.lockRequest index)
        { state.setRequest index .running with
          lockOwner := some (.request index) }
  | returnRequest {index : Nat} {pending : Bool}
      (held : state.lockOwner = some (.request index))
      (noCall : state.atGate = none)
      (running : state.requests[index]? = some .running) :
      Transition sameSite state (.returnRequest index pending)
        { state.setRequest index
            (if pending then .pending else .answered) with
          lockOwner := none }
  | completeRequest {index : Nat} (running : state.scriptRunning)
      (pending : state.requests[index]? = some .pending) :
      Transition sameSite state (.completeRequest index)
        (state.setRequest index .answered)
  | lockNative (free : state.lockOwner = none) :
      Transition sameSite state .lockNative
        { state with lockOwner := some .native }
  | unlockNative (held : state.lockOwner = some .native)
      (noCall : state.atGate = none) :
      Transition sameSite state .unlockNative
        { state with lockOwner := none }
  | callAsync {operation : Operation} (running : state.scriptRunning) :
      Transition sameSite state (.callAsync operation)
        { state with atGate := some operation }
  | enterGate {operation : Operation}
      (waiting : state.atGate = some operation)
      (below : state.threadCount < maxThreads) :
      Transition sameSite state .enterGate
        { state with
          threadCount := state.threadCount + 1
          atGate := none
          workers := state.workers ++ [.start operation] }
  | sendRequest {index : Nat} {worker : Worker}
      (found : state.workers[index]? = some worker)
      (fetches : worker.fetching sameSite)
      (unsent : worker.sentRequest = none) :
      Transition sameSite state (.sendRequest index)
        { state.setWorker index
            { worker with sentRequest := some state.requests.length } with
          requests := state.requests ++ [.locking] }
  | work {index : Nat} {results : ∀ effect : Effect, effect.Result}
      {worker : Worker} {effect : Effect}
      {next : effect.Result → WorkerProgram Unit} {performed : State}
      (found : state.workers[index]? = some worker)
      (program : worker.program = .perform effect next)
      (performs : state.perform index worker effect = some performed) :
      Transition sameSite state (.work index results)
        (performed.setWorker index
          (worker.advance effect (next (results effect))))

variable {sameSite : String → Bool}

theorem transition_of_step {state next : State} {action : Action}
    (stepTo : step sameSite state action = some next) :
    Transition sameSite state action next := by
  cases action with
  | arrive =>
      cases stepTo
      exact .arrive
  | lockRequest index =>
      simp only [step] at stepTo
      split at stepTo
      next ready =>
        cases stepTo
        exact .lockRequest ready.1 ready.2
      next => cases stepTo
  | returnRequest index pending =>
      simp only [step] at stepTo
      split at stepTo
      next ready =>
        cases stepTo
        exact .returnRequest ready.1 ready.2.1 ready.2.2
      next => cases stepTo
  | completeRequest index =>
      simp only [step] at stepTo
      split at stepTo
      next ready =>
        cases stepTo
        exact .completeRequest ready.1 ready.2
      next => cases stepTo
  | lockNative =>
      simp only [step] at stepTo
      split at stepTo
      next free =>
        cases stepTo
        exact .lockNative free
      next => cases stepTo
  | unlockNative =>
      simp only [step] at stepTo
      split at stepTo
      next ready =>
        cases stepTo
        exact .unlockNative ready.1 ready.2
      next => cases stepTo
  | callAsync operation =>
      simp only [step] at stepTo
      split at stepTo
      next running =>
        cases stepTo
        exact .callAsync running
      next => cases stepTo
  | enterGate =>
      simp only [step] at stepTo
      split at stepTo
      · cases stepTo
      next operation waiting =>
        split at stepTo
        next below =>
          cases stepTo
          exact .enterGate waiting below
        next => cases stepTo
  | sendRequest index =>
      simp only [step] at stepTo
      split at stepTo
      · cases stepTo
      next worker found =>
        split at stepTo
        next ready =>
          cases stepTo
          exact .sendRequest found ready.1 ready.2
        next => cases stepTo
  | work index results =>
      simp only [step] at stepTo
      split at stepTo
      · cases stepTo
      next worker found =>
        split at stepTo
        · cases stepTo
        next effect next program =>
          obtain ⟨performed, performs, rfl⟩ :=
            Option.map_eq_some_iff.mp stepTo
          exact .work found program performs

/-- What an effect changes outside its worker. -/
inductive Performed (state : State) (index : Nat) (worker : Worker) :
    Effect → State → Prop
  | library {library : LibraryCall} (replied : state.replied worker) :
      Performed state index worker (.library library) state
  | decrement :
      Performed state index worker .decrement
        { state with threadCount := state.threadCount - 1 }
  | notifyOne : Performed state index worker .notifyOne state
  | lockEngine (free : state.lockOwner = none) :
      Performed state index worker .lockEngine
        { state with lockOwner := some (.worker index) }
  | settle {settlement : Settlement}
      (held : state.lockOwner = some (.worker index))
      (noCall : state.atGate = none) :
      Performed state index worker (.settle settlement) state
  | unlockEngine (held : state.lockOwner = some (.worker index))
      (noCall : state.atGate = none) :
      Performed state index worker .unlockEngine
        { state with lockOwner := none }

theorem performed_iff {state performed : State} {index : Nat}
    {worker : Worker} {effect : Effect} :
    state.perform index worker effect = some performed ↔
      Performed state index worker effect performed := by
  constructor
  · intro performs
    cases effect with
    | library library =>
        simp only [State.perform, Option.ite_none_right_eq_some,
          Option.some.injEq] at performs
        obtain ⟨replied, rfl⟩ := performs
        exact .library replied
    | decrement =>
        cases performs
        exact .decrement
    | notifyOne =>
        cases performs
        exact .notifyOne
    | lockEngine =>
        simp only [State.perform, Option.ite_none_right_eq_some,
          Option.some.injEq] at performs
        obtain ⟨free, rfl⟩ := performs
        exact .lockEngine free
    | settle settlement =>
        simp only [State.perform, Option.ite_none_right_eq_some,
          Option.some.injEq] at performs
        obtain ⟨⟨held, noCall⟩, rfl⟩ := performs
        exact .settle held noCall
    | unlockEngine =>
        simp only [State.perform, Option.ite_none_right_eq_some,
          Option.some.injEq] at performs
        obtain ⟨⟨held, noCall⟩, rfl⟩ := performs
        exact .unlockEngine held noCall
  · intro performs
    cases performs <;> simp [State.perform, *]

/-- What a worker still does completes what it did. -/
def Worker.Conforms (worker : Worker) : Prop :=
  ∀ trace value, Runs worker.program trace value →
    Complete (worker.history ++ trace)

theorem Worker.conforms_start (operation : Operation) :
    (Worker.start operation).Conforms :=
  completes_worker operation

theorem Worker.Conforms.advance {worker : Worker} {effect : Effect}
    {next : effect.Result → WorkerProgram Unit}
    (conforms : worker.Conforms)
    (program : worker.program = .perform effect next)
    (result : effect.Result) :
    (worker.advance effect (next result)).Conforms := by
  intro trace value runs
  have complete := conforms (effect :: trace) value
    (by rw [program]; exact .perform result runs)
  simpa [Worker.advance] using complete

theorem Worker.Conforms.nextEffect {worker : Worker} {effect : Effect}
    {next : effect.Result → WorkerProgram Unit}
    (conforms : worker.Conforms)
    (program : worker.program = .perform effect next) :
    NextEffect worker.history effect := by
  obtain ⟨result⟩ := nonempty_result effect
  obtain ⟨trace, value, runs⟩ := exists_runs nonempty_result (next result)
  apply nextEffect_of_complete
  exact conforms (effect :: trace) value
    (by rw [program]; exact .perform result runs)

/-- The thread count counts the taken slots, every worker stays on the way to
a complete execution, and a worker between taking and giving back the engine
lock holds it. -/
structure GateInvariant (state : State) : Prop where
  counts : state.threadCount = state.workers.countP Worker.holdsSlot
  bounded : state.threadCount ≤ maxThreads
  conforms : ∀ worker ∈ state.workers, worker.Conforms
  owns : ∀ index worker, state.workers[index]? = some worker →
    .lockEngine ∈ worker.history → .unlockEngine ∉ worker.history →
      state.lockOwner = some (.worker index)

theorem gateInvariant_initial : GateInvariant initial where
  counts := rfl
  bounded := by decide
  conforms := by
    intro worker member
    cases member
  owns := by
    intro index worker found
    cases found

/-- Steps that leave the workers and the thread count alone and take the
engine lock from no worker. -/
theorem GateInvariant.of_same {state next : State}
    (invariant : GateInvariant state)
    (threadCount : next.threadCount = state.threadCount)
    (workers : next.workers = state.workers)
    (owner : ∀ index, state.lockOwner = some (.worker index) →
      next.lockOwner = some (.worker index)) :
    GateInvariant next where
  counts := by rw [threadCount, workers, invariant.counts]
  bounded := by rw [threadCount]; exact invariant.bounded
  conforms := by rw [workers]; exact invariant.conforms
  owns := by
    rw [workers]
    intro index worker found locked owning
    exact owner index (invariant.owns index worker found locked owning)

theorem GateInvariant.enterGate {state : State}
    (invariant : GateInvariant state) (operation : Operation)
    (below : state.threadCount < maxThreads) :
    GateInvariant
      { state with
        threadCount := state.threadCount + 1
        atGate := none
        workers := state.workers ++ [.start operation] } where
  counts := by
    simp [invariant.counts, List.countP_append, Worker.start,
      Worker.holdsSlot]
  bounded := below
  conforms := by
    intro worker member
    rcases List.mem_append.mp member with old | new
    · exact invariant.conforms worker old
    · rw [List.mem_singleton.mp new]
      exact Worker.conforms_start operation
  owns := by
    intro index worker found locked owning
    rcases Nat.lt_or_ge index state.workers.length with inside | outside
    · rw [List.getElem?_append_left inside] at found
      exact invariant.owns index worker found locked owning
    · rw [List.getElem?_append_right outside] at found
      obtain rfl : Worker.start operation = worker := by
        have member := List.mem_of_getElem? found
        simpa [eq_comm] using member
      cases locked

/-- One worker is replaced. -/
theorem GateInvariant.replace {state next : State}
    (invariant : GateInvariant state) {index : Nat}
    {worker changed : Worker}
    (found : state.workers[index]? = some worker)
    (workers : next.workers = state.workers.set index changed)
    (conforms : changed.Conforms)
    (counts : next.threadCount + worker.holdsSlot.toNat =
      state.threadCount + changed.holdsSlot.toNat)
    (decreases : next.threadCount ≤ state.threadCount)
    (others : ∀ other, other ≠ index →
      state.lockOwner = some (.worker other) →
        next.lockOwner = some (.worker other))
    (owns : .lockEngine ∈ changed.history →
      .unlockEngine ∉ changed.history →
        next.lockOwner = some (.worker index)) :
    GateInvariant next where
  counts := by
    have replaced := countP_set_add Worker.holdsSlot found changed
    have before := invariant.counts
    rw [workers]
    omega
  bounded := Int.le_trans decreases invariant.bounded
  conforms := by
    rw [workers]
    intro other member
    rcases List.mem_or_eq_of_mem_set member with old | rfl
    · exact invariant.conforms other old
    · exact conforms
  owns := by
    rw [workers]
    intro other holder lookup locked owning
    by_cases same : other = index
    · subst same
      obtain ⟨bound, -⟩ := List.getElem?_eq_some_iff.mp found
      obtain rfl : changed = holder := by
        simpa [List.getElem?_set_self bound] using lookup
      exact owns locked owning
    · rw [List.getElem?_set_ne (Ne.symm same)] at lookup
      exact others other same
        (invariant.owns other holder lookup locked owning)

theorem mem_history_advance {worker : Worker} {effect other : Effect}
    {program : WorkerProgram Unit} :
    other ∈ (worker.advance effect program).history ↔
      other ∈ worker.history ∨ other = effect := by
  simp [Worker.advance]

theorem holdsSlot_advance (worker : Worker) (effect : Effect)
    (program : WorkerProgram Unit) :
    (worker.advance effect program).holdsSlot =
      (worker.holdsSlot && decide (effect ≠ .decrement)) := by
  simp [Worker.holdsSlot, Worker.advance, eq_comm]

/-- A step of a worker.  The cases are the effects in the order in which a
worker performs them. -/
theorem GateInvariant.work {state performed : State}
    (invariant : GateInvariant state) {index : Nat} {worker : Worker}
    {effect : Effect} {next : effect.Result → WorkerProgram Unit}
    (found : state.workers[index]? = some worker)
    (program : worker.program = .perform effect next)
    (performs : Performed state index worker effect performed)
    (result : effect.Result) :
    GateInvariant (performed.setWorker index
      (worker.advance effect (next result))) := by
  have conforms := invariant.conforms worker (List.mem_of_getElem? found)
  have nextEffect := conforms.nextEffect program
  have owned := invariant.owns index worker found
  refine invariant.replace found ?workers (conforms.advance program result)
    ?counts ?decreases ?others ?owns
  case workers => cases performs <;> rfl
  case counts =>
    rw [holdsSlot_advance]
    cases nextEffect with
    | library library holding unlocked =>
        cases performs
        simp [State.setWorker]
    | decrement holding unlocked =>
        cases performs
        simp [State.setWorker, Worker.holdsSlot, holding]
    | notifyOne released unlocked =>
        cases performs
        simp [State.setWorker]
    | lockEngine released unlocked =>
        cases performs
        simp [State.setWorker]
    | settle settlement released locked owning =>
        cases performs
        simp [State.setWorker]
    | unlockEngine released locked owning =>
        cases performs
        simp [State.setWorker]
  case decreases =>
    cases performs <;> simp only [State.setWorker] <;> omega
  case others =>
    intro other different held
    cases performs with
    | lockEngine free => simp [free] at held
    | unlockEngine holder noCall =>
        rw [holder] at held
        cases held
        exact (different rfl).elim
    | _ => exact held
  case owns =>
    rw [mem_history_advance, mem_history_advance]
    intro locked owning
    cases performs with
    | lockEngine free => rfl
    | settle held noCall => exact held
    | unlockEngine held noCall => simp at owning
    | _ => simp at locked owning; exact owned locked owning

theorem GateInvariant.step {state next : State} {action : Action}
    (invariant : GateInvariant state)
    (stepTo : step sameSite state action = some next) :
    GateInvariant next := by
  cases transition_of_step stepTo with
  | arrive => exact invariant.of_same rfl rfl fun _ => id
  | lockRequest locking free =>
      refine invariant.of_same rfl rfl fun index held => ?_
      simp [free] at held
  | returnRequest held noCall running =>
      refine invariant.of_same rfl rfl fun index holder => ?_
      simp [held] at holder
  | completeRequest running pending => exact invariant.of_same rfl rfl fun _ => id
  | lockNative free =>
      refine invariant.of_same rfl rfl fun index held => ?_
      simp [free] at held
  | unlockNative held noCall =>
      refine invariant.of_same rfl rfl fun index holder => ?_
      simp [held] at holder
  | callAsync running => exact invariant.of_same rfl rfl fun _ => id
  | enterGate waiting below => exact invariant.enterGate _ below
  | @sendRequest index worker found fetches unsent =>
      have conforms := invariant.conforms worker (List.mem_of_getElem? found)
      exact invariant.replace found rfl conforms rfl
        (Int.le_refl _)
        (fun _ _ => id) (invariant.owns index worker found)
  | work found program performs =>
      exact invariant.work found program (performed_iff.mp performs) _

theorem gateInvariant_of_run {schedule : List Action} {state : State}
    (runs : run (step sameSite) initial schedule = some state) :
    GateInvariant state :=
  invariant_of_run (fun _ _ _ holds stepTo => holds.step stepTo)
    gateInvariant_initial runs

/-- A worker that still holds its slot can take its next step, without the
engine lock, unless it waits for an answer of this site. -/
def CanRelease (sameSite : String → Bool) (state : State) : Prop :=
  ∀ index worker results, state.workers[index]? = some worker →
    worker.holdsSlot → state.replied worker →
      ∃ next, step sameSite state (.work index results) = some next

/-- A worker that released its slot and is not done can take its next step,
unless it waits for the engine lock or the script that it runs waits at the
gate. -/
def CanSettle (sameSite : String → Bool) (state : State) : Prop :=
  ∀ index worker results, state.workers[index]? = some worker →
    worker.program ≠ .done () → worker.holdsSlot = false →
      (.lockEngine ∉ worker.history → state.lockOwner = none) →
      (.lockEngine ∈ worker.history → state.atGate = none) →
        ∃ next, step sameSite state (.work index results) = some next

theorem exists_step_of_performed {state performed : State} {index : Nat}
    {worker : Worker} {effect : Effect}
    {next : effect.Result → WorkerProgram Unit}
    (results : ∀ effect : Effect, effect.Result)
    (found : state.workers[index]? = some worker)
    (program : worker.program = .perform effect next)
    (performs : Performed state index worker effect performed) :
    ∃ next, step sameSite state (.work index results) = some next := by
  simp [step, found, program, performed_iff.mpr performs]

theorem GateInvariant.canRelease {state : State}
    (invariant : GateInvariant state) : CanRelease sameSite state := by
  intro index worker results found holds replied
  have conforms := invariant.conforms worker (List.mem_of_getElem? found)
  have holding : .decrement ∉ worker.history := by
    simpa [Worker.holdsSlot] using holds
  cases program : worker.program with
  | done value =>
      have complete := conforms [] value (by rw [program]; exact .done value)
      obtain ⟨calls, settlement, same⟩ := complete
      rw [List.append_nil] at same
      simp [same, finishing] at holding
  | perform effect next =>
      cases conforms.nextEffect program with
      | library library _ unlocked =>
          exact exists_step_of_performed results found program
            (.library replied)
      | decrement _ unlocked =>
          exact exists_step_of_performed results found program .decrement
      | notifyOne released => exact (holding released).elim
      | lockEngine released => exact (holding released).elim
      | settle settlement released => exact (holding released).elim
      | unlockEngine released => exact (holding released).elim

theorem GateInvariant.canSettle {state : State}
    (invariant : GateInvariant state) : CanSettle sameSite state := by
  intro index worker results found unfinished released free noCall
  have conforms := invariant.conforms worker (List.mem_of_getElem? found)
  have released : .decrement ∈ worker.history := by
    simpa [Worker.holdsSlot] using released
  cases program : worker.program with
  | done value => exact (unfinished program).elim
  | perform effect next =>
      cases conforms.nextEffect program with
      | library library holding => exact (holding released).elim
      | decrement holding => exact (holding released).elim
      | notifyOne =>
          exact exists_step_of_performed results found program .notifyOne
      | lockEngine _ unlocked =>
          exact exists_step_of_performed results found program
            (.lockEngine (free unlocked))
      | settle settlement _ locked owning =>
          have held := invariant.owns index worker found locked owning
          exact exists_step_of_performed results found program
            (.settle held (noCall locked))
      | unlockEngine _ locked owning =>
          have held := invariant.owns index worker found locked owning
          exact exists_step_of_performed results found program
            (.unlockEngine held (noCall locked))

theorem Worker.Conforms.exists_complete {worker : Worker}
    (conforms : worker.Conforms) :
    ∃ rest, Complete (worker.history ++ rest) ∧
      (worker.program = .done () → rest = []) := by
  obtain ⟨rest, value, runs⟩ := exists_runs nonempty_result worker.program
  refine ⟨rest, conforms rest value runs, fun finished => ?_⟩
  rw [finished] at runs
  cases runs
  rfl

/-- The worker protocol.  In every reachable state the thread count is the
number of admitted calls that have not released their slot, it is between zero
and the limit, and what each worker did is the beginning of a complete
execution, and all of it when the worker is done: its library calls, one
release, one request for the engine lock, one settlement.  Workers never get
stuck on the way. -/
theorem workerProtocol (sameSite : String → Bool) {schedule : List Action}
    {state : State}
    (runs : run (step sameSite) initial schedule = some state) :
    state.threadCount = state.workers.countP Worker.holdsSlot ∧
    0 ≤ state.threadCount ∧ state.threadCount ≤ maxThreads ∧
    (∀ worker ∈ state.workers, ∃ rest,
      Complete (worker.history ++ rest) ∧
        (worker.program = .done () → rest = [])) ∧
    CanRelease sameSite state ∧ CanSettle sameSite state := by
  have invariant := gateInvariant_of_run runs
  refine ⟨invariant.counts, ?_, invariant.bounded, ?_,
    invariant.canRelease, invariant.canSettle⟩
  · rw [invariant.counts]
    exact Int.natCast_nonneg _
  · intro worker member
    exact (invariant.conforms worker member).exists_complete

/-- Results of library calls that all fail. -/
def failures : ∀ effect : Effect, effect.Result
  | .library (.httpRequest _ _) => (none : Option Nat)
  | .library (.gzipCompress _ _) => (.error "" : Except String Bytes)
  | .library (.gzipDecompress _) => (.error "" : Except String Bytes)
  | .library (.bcryptGensalt _) => ((1, []) : Int × Bytes)
  | .library (.bcryptHashpw _ _) => ((1, []) : Int × Bytes)
  | .library (.bcryptCheckpw _ _) => (1 : Int)
  | .library (.statementExec _) => (.error "failed" : Except String Unit)
  | .library (.statementQuery _) => (.error "failed" : Except String Unit)
  | .library (.statementRow _) => (.error "failed" : Except String Unit)
  | .decrement => ()
  | .notifyOne => ()
  | .lockEngine => ()
  | .settle _ => ()
  | .unlockEngine => ()

/-- A script starts a hash whose salt cannot be generated. -/
def failedHash : List Action :=
  [.lockNative, .callAsync (.bcryptHash [] 99), .enterGate, .unlockNative,
    .work 0 failures, .work 0 failures]

theorem workerProtocol_failedHash :
    ∃ final,
      run (step fun _ => false) initial failedHash = some final ∧
      final.threadCount = 0 ∧
      ∀ worker ∈ final.workers, ∃ rest,
        Complete (worker.history ++ rest) ∧
          (worker.program = .done () → rest = []) := by
  have reached : ∃ final,
      run (step fun _ => false) initial failedHash = some final ∧
        final.threadCount = 0 :=
    ⟨_, rfl, rfl⟩
  obtain ⟨final, runs, count⟩ := reached
  exact ⟨final, runs, count, (workerProtocol _ runs).2.2.2.1⟩

end WorkerGate

end IISModuleJS
