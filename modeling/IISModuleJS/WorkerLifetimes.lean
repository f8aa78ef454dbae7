import IISModuleJS.ManagedHeap
import IISModuleJS.ScheduledMachine

/-!
# What workers use and how long it lives

The workers of `db.exec`, `db.query` and `db.queryRow` capture a raw pointer to
the `DbContext` of a database object, the worker of `gzip.decompress` one to the
memory of an `ArrayBuffer`.  The only handle that a worker holds is the one to
its promise resolver.  A collection deletes the `DbContext` of a database object
that is not reachable, through the weak callback of its `DbHandler`, and the
memory of an `ArrayBuffer` that is not reachable.

So a worker is safe as long as, at every collection, the object whose memory it
may still use is reachable: from the script, or from a promise that is still
pending, for example because a reaction of the promise mentions the object.
-/

namespace IISModuleJS

namespace WorkerLifetimes

open ManagedHeap ScheduledMachine

/-- Promises, closures and everything else that has no memory of its own are
plain.  A `Uint8Array` is a view of an `ArrayBuffer`. -/
inductive ObjectKind
  | plain
  | database
  | arrayBuffer
  | uint8Array (buffer : Nat)
  deriving DecidableEq

/-- The references that a script cannot erase. -/
def ObjectKind.intrinsic : ObjectKind → List Nat
  | .uint8Array buffer => [buffer]
  | .plain | .database | .arrayBuffer => []

inductive WorkerKind
  | exec
  | query
  | queryRow
  | decompress
  deriving DecidableEq

/-- The object whose memory a call captures, if its argument has the right
type. -/
def WorkerKind.captures (kind : WorkerKind) (object : Nat) :
    ObjectKind → Option Nat
  | .database => if kind = .decompress then none else some object
  | .uint8Array buffer => if kind = .decompress then some buffer else none
  | .plain | .arrayBuffer => none

/-- A worker makes its library call, waits for the lock of the isolate and
settles the promise.  `failed` tells whether the call left an error message. -/
inductive Stage
  | running
  | returned (failed : Bool)
  | finished
  deriving DecidableEq

structure Worker where
  kind : WorkerKind
  captured : Nat
  resolver : Nat
  stage : Stage
  deriving DecidableEq

/-- The worker may still use what it captured.  Only `queryRow` looks at its
`DbContext` again after the library call. -/
def Worker.mayUse (worker : Worker) : Bool :=
  match worker.stage with
  | .running => true
  | .returned failed => worker.kind = .queryRow && !failed
  | .finished => false

structure State where
  heap : Heap ObjectKind
  workers : List Worker
  deriving DecidableEq

/-- The library call of a worker consists of any number of accesses. -/
inductive Action
  | script (mutation : Mutation ObjectKind)
  | call (kind : WorkerKind) (object : Nat)
  | access (worker : Nat)
  | returns (worker : Nat) (failed : Bool)
  | settle (worker : Nat)
  | collect (survivors : List Nat)
  deriving DecidableEq

namespace State

/-- The strong handles of workers. -/
def handles (state : State) : List Nat :=
  (state.workers.filter (·.stage ≠ .finished)).map (·.resolver)

/-- The call returns a new promise. -/
def start (state : State) (kind : WorkerKind) (captured : Nat) : State where
  heap := state.heap.allocate .plain
  workers := state.workers ++
    [⟨kind, captured, state.heap.objects.length, .running⟩]

def setStage (state : State) (identity : Nat) (worker : Worker)
    (stage : Stage) : State :=
  { state with
    workers := state.workers.set identity { worker with stage := stage } }

/-- The reactions of a settled promise run, and the handle is gone. -/
def settle (state : State) (identity : Nat) (worker : Worker) : State :=
  { state.setStage identity worker .finished with
    heap := { state.heap with
      roots := worker.resolver :: state.heap.roots } }

end State

def step (state : State) : Action → Option State
  | .script mutation =>
      (state.heap.mutate ObjectKind.intrinsic mutation).map fun heap =>
        { state with heap := heap }
  | .call kind object =>
      if object ∈ state.heap.roots then
        (state.heap.objects[object]?).bind fun argument =>
          (kind.captures object argument).map fun captured =>
            state.start kind captured
      else
        none
  | .access identity =>
      match state.workers[identity]? with
      | none => none
      | some worker => if worker.stage = .running then some state else none
  | .returns identity failed =>
      match state.workers[identity]? with
      | none => none
      | some worker =>
          if worker.stage = .running then
            some (state.setStage identity worker (.returned failed))
          else
            none
  | .settle identity =>
      match state.workers[identity]? with
      | none => none
      | some worker =>
          match worker.stage with
          | .returned _ => some (state.settle identity worker)
          | _ => none
  | .collect survivors =>
      (state.heap.collect ObjectKind.intrinsic state.handles survivors).map
        fun heap => { state with heap := heap }

def initial : State :=
  ⟨⟨[], [], [], []⟩, []⟩

/-- The object whose memory a worker may still use. -/
def State.usedBy (state : State) (identity : Nat) : Option Nat :=
  (state.workers[identity]?).bind fun worker =>
    if worker.mayUse then some worker.captured else none

/-- The object whose memory is used by a step of a worker. -/
def State.uses (state : State) : Action → Option Nat
  | .access identity | .settle identity => state.usedBy identity
  | _ => none

/-- The script or a pending promise holds everything that workers may still
use. -/
def State.HoldsCaptured (state : State) : Prop :=
  ∀ worker ∈ state.workers, worker.mayUse = true →
    state.heap.Reachable ObjectKind.intrinsic state.handles worker.captured

/-- A collection comes only when everything that workers may still use is
held. -/
def CollectsSafely (state : State) : Action → Prop
  | .collect _ => state.HoldsCaptured
  | _ => True

variable {state next : State} {action : Action}

/-- What an action can do, with everything that enabled it. -/
inductive Transition (state : State) : Action → State → Prop
  | script (mutation : Mutation ObjectKind) (heap : Heap ObjectKind)
      (mutated : Mutated ObjectKind.intrinsic state.heap heap) :
      Transition state (.script mutation) { state with heap := heap }
  | call (kind : WorkerKind) (object captured : Nat)
      (held : object ∈ state.heap.roots)
      (captures : captured = object ∨
        captured ∈ state.heap.targets ObjectKind.intrinsic object) :
      Transition state (.call kind object) (state.start kind captured)
  | access (identity : Nat) : Transition state (.access identity) state
  | returns (identity : Nat) (worker : Worker) (failed : Bool)
      (found : state.workers[identity]? = some worker)
      (running : worker.stage = .running) :
      Transition state (.returns identity failed)
        (state.setStage identity worker (.returned failed))
  | settle (identity : Nat) (worker : Worker) (failed : Bool)
      (found : state.workers[identity]? = some worker)
      (returned : worker.stage = .returned failed) :
      Transition state (.settle identity) (state.settle identity worker)
  | collect (survivors : List Nat) (heap : Heap ObjectKind)
      (collects : state.heap.collect ObjectKind.intrinsic state.handles
        survivors = some heap) :
      Transition state (.collect survivors) { state with heap := heap }

theorem captures_held {kind : WorkerKind} {object captured : Nat}
    {argument : ObjectKind}
    (argumentAt : state.heap.objects[object]? = some argument)
    (captures : kind.captures object argument = some captured) :
    captured = object ∨
      captured ∈ state.heap.targets ObjectKind.intrinsic object := by
  cases argument with
  | plain => cases captures
  | arrayBuffer => cases captures
  | database =>
      simp only [WorkerKind.captures] at captures
      split at captures
      · cases captures
      · cases captures
        exact .inl rfl
  | uint8Array buffer =>
      simp only [WorkerKind.captures] at captures
      split at captures
      · cases captures
        refine .inr (mem_targets.mpr (.inr ⟨_, argumentAt, ?_⟩))
        exact List.mem_singleton.mpr rfl
      · cases captures

theorem transition_of_step (stepTo : step state action = some next) :
    Transition state action next := by
  cases action with
  | script mutation =>
      obtain ⟨heap, mutates, rfl⟩ := Option.map_eq_some_iff.mp stepTo
      exact .script mutation heap (mutated_of_mutate mutates)
  | call kind object =>
      simp only [step] at stepTo
      split at stepTo
      next held =>
        obtain ⟨argument, argumentAt, starts⟩ :=
          Option.bind_eq_some_iff.mp stepTo
        obtain ⟨captured, captures, rfl⟩ := Option.map_eq_some_iff.mp starts
        exact .call kind object captured held
          (captures_held argumentAt captures)
      next => cases stepTo
  | access identity =>
      simp only [step] at stepTo
      split at stepTo
      · cases stepTo
      next worker found =>
        split at stepTo
        · cases stepTo
          exact .access identity
        · cases stepTo
  | returns identity failed =>
      simp only [step] at stepTo
      split at stepTo
      · cases stepTo
      next worker found =>
        split at stepTo
        next running =>
          cases stepTo
          exact .returns identity worker failed found running
        next => cases stepTo
  | settle identity =>
      simp only [step] at stepTo
      split at stepTo
      · cases stepTo
      next worker found =>
        split at stepTo
        next failed returned =>
          cases stepTo
          exact .settle identity worker failed found returned
        next => cases stepTo
  | collect survivors =>
      obtain ⟨heap, collects, rfl⟩ := Option.map_eq_some_iff.mp stepTo
      exact .collect survivors heap collects

/-- The promise of a worker is there as long as the worker holds its handle,
and what it captured is there as long as it may be used. -/
structure Worker.Supported (heap : Heap ObjectKind) (worker : Worker) :
    Prop where
  resolver : worker.stage ≠ .finished → heap.Alive worker.resolver
  captured : worker.mayUse = true → heap.Alive worker.captured

structure LifetimeInvariant (state : State) : Prop where
  sound : state.heap.Sound ObjectKind.intrinsic
  workers : ∀ worker ∈ state.workers, worker.Supported state.heap

theorem lifetimeInvariant_initial : LifetimeInvariant initial where
  sound :=
    ⟨by simp [initial], by simp [initial, Heap.targets], by simp [initial]⟩
  workers := by simp [initial]

theorem mem_handles {worker : Worker} (member : worker ∈ state.workers)
    (pending : worker.stage ≠ .finished) :
    worker.resolver ∈ state.handles := by
  refine List.mem_map.mpr ⟨worker, List.mem_filter.mpr ⟨member, ?_⟩, rfl⟩
  simpa using pending

namespace LifetimeInvariant

theorem handles (invariant : LifetimeInvariant state) :
    ∀ object ∈ state.handles, state.heap.Alive object := by
  intro object member
  obtain ⟨worker, filtered, rfl⟩ := List.mem_map.mp member
  obtain ⟨workerMember, pending⟩ := List.mem_filter.mp filtered
  exact (invariant.workers worker workerMember).resolver (by simpa using pending)

/-- A step of the mutator keeps everything that workers rely on. -/
theorem mutated (invariant : LifetimeInvariant state) {heap : Heap ObjectKind}
    (mutated : Mutated ObjectKind.intrinsic state.heap heap) :
    LifetimeInvariant { state with heap := heap } where
  sound := invariant.sound.mutated mutated
  workers := by
    intro worker member
    have supported := invariant.workers worker member
    exact ⟨fun pending => mutated.alive (supported.resolver pending),
      fun mayUse => mutated.alive (supported.captured mayUse)⟩

theorem start (invariant : LifetimeInvariant state) {kind : WorkerKind}
    {object captured : Nat} (held : object ∈ state.heap.roots)
    (captures : captured = object ∨
      captured ∈ state.heap.targets ObjectKind.intrinsic object) :
    LifetimeInvariant (state.start kind captured) := by
  have allocated : Mutated ObjectKind.intrinsic state.heap
      (state.heap.allocate .plain) :=
    mutated_allocate (by simp [ObjectKind.intrinsic])
  have kept := invariant.mutated allocated
  have objectAlive := invariant.sound.roots object held
  refine ⟨kept.sound, ?_⟩
  intro worker member
  rcases List.mem_append.mp member with old | new
  · exact kept.workers worker old
  · cases List.mem_singleton.mp new
    refine ⟨fun _ => kept.sound.roots _ List.mem_cons_self, fun _ => ?_⟩
    rcases captures with rfl | reference
    · exact allocated.alive objectAlive
    · exact allocated.alive
        ((invariant.sound.targets object captured reference).2 objectAlive.2)

theorem setStage (invariant : LifetimeInvariant state) {identity : Nat}
    {worker : Worker} {stage : Stage}
    (supported : Worker.Supported state.heap { worker with stage := stage }) :
    LifetimeInvariant (state.setStage identity worker stage) where
  sound := invariant.sound
  workers := by
    intro other member
    rcases List.mem_or_eq_of_mem_set member with old | rfl
    · exact invariant.workers other old
    · exact supported

theorem returns (invariant : LifetimeInvariant state) {identity : Nat}
    {worker : Worker} {failed : Bool}
    (found : state.workers[identity]? = some worker)
    (running : worker.stage = .running) :
    LifetimeInvariant
      (state.setStage identity worker (.returned failed)) := by
  have supported := invariant.workers worker (List.mem_of_getElem? found)
  refine invariant.setStage ⟨fun _ => ?_, fun _ => ?_⟩
  · exact supported.resolver (by simp [running])
  · exact supported.captured (by simp [Worker.mayUse, running])

theorem settle (invariant : LifetimeInvariant state) {identity : Nat}
    {worker : Worker} {failed : Bool}
    (found : state.workers[identity]? = some worker)
    (returned : worker.stage = .returned failed) :
    LifetimeInvariant (state.settle identity worker) := by
  have supported := invariant.workers worker (List.mem_of_getElem? found)
  have finished : LifetimeInvariant
      (state.setStage identity worker .finished) :=
    invariant.setStage ⟨by simp, by simp [Worker.mayUse]⟩
  refine ⟨finished.sound.hold (supported.resolver (by simp [returned])), ?_⟩
  intro other member
  have otherSupported := finished.workers other member
  exact ⟨otherSupported.resolver, otherSupported.captured⟩

theorem collect (invariant : LifetimeInvariant state)
    (holds : state.HoldsCaptured) {survivors : List Nat}
    {heap : Heap ObjectKind}
    (collects : state.heap.collect ObjectKind.intrinsic state.handles
      survivors = some heap) :
    LifetimeInvariant { state with heap := heap } where
  sound := invariant.sound.collect collects
  workers := by
    intro worker member
    have supported := invariant.workers worker member
    have retains := (collect_eq_some.mp collects).1
    constructor
    · intro pending
      refine (collect_alive collects _).mpr ⟨supported.resolver pending, ?_⟩
      exact retains.1 _ (List.mem_append_right _ (mem_handles member pending))
    · intro mayUse
      refine (collect_alive collects _).mpr ⟨supported.captured mayUse, ?_⟩
      exact retains.of_reachable (holds worker member mayUse)

theorem step (invariant : LifetimeInvariant state)
    (safe : CollectsSafely state action)
    (stepTo : WorkerLifetimes.step state action = some next) :
    LifetimeInvariant next := by
  cases transition_of_step stepTo with
  | script mutation heap mutated => exact invariant.mutated mutated
  | call kind object captured held captures =>
      exact invariant.start held captures
  | access identity => exact invariant
  | returns identity worker failed found running =>
      exact invariant.returns found running
  | settle identity worker failed found returned =>
      exact invariant.settle found returned
  | collect survivors heap collects => exact invariant.collect safe collects

end LifetimeInvariant

theorem usedBy_eq_some {identity object : Nat}
    (uses : state.usedBy identity = some object) :
    ∃ worker ∈ state.workers, worker.mayUse = true ∧
      worker.captured = object := by
  obtain ⟨worker, found, captured⟩ := Option.bind_eq_some_iff.mp uses
  split at captured
  next mayUse =>
    exact ⟨worker, List.mem_of_getElem? found, mayUse,
      Option.some.inj captured⟩
  next => cases captured

theorem uses_eq_some {object : Nat} (uses : state.uses action = some object) :
    ∃ worker ∈ state.workers, worker.mayUse = true ∧
      worker.captured = object := by
  cases action with
  | access identity => exact usedBy_eq_some uses
  | settle identity => exact usedBy_eq_some uses
  | script mutation => cases uses
  | call kind object => cases uses
  | returns identity failed => cases uses
  | collect survivors => cases uses

/-- A worker that may use what it captured can go on to do so. -/
theorem exists_use {worker : Worker} (member : worker ∈ state.workers)
    (mayUse : worker.mayUse = true) :
    ∃ action next, step state action = some next ∧
      state.uses action = some worker.captured := by
  obtain ⟨identity, found⟩ := List.mem_iff_getElem?.mp member
  have uses : state.usedBy identity = some worker.captured := by
    simp [State.usedBy, found, mayUse]
  cases stageEq : worker.stage with
  | running =>
      exact ⟨.access identity, state, by simp [step, found, stageEq], uses⟩
  | returned failed =>
      exact ⟨.settle identity, state.settle identity worker,
        by simp [step, found, stageEq], uses⟩
  | finished => simp [Worker.mayUse, stageEq] at mayUse

/-- In every run that collects only while everything that workers may still use
is held, no worker uses what has been freed.  In a state where something of this
is not held, a collection and one more step of a worker use freed memory. -/
theorem workers_use_no_freed {schedule : List Action} {state : State}
    (safe : Respects step CollectsSafely initial schedule)
    (runs : run step initial schedule = some state) :
    (∀ action object, state.uses action = some object →
      object ∉ state.heap.freed) ∧
    (¬state.HoldsCaptured →
      ∃ survivors collected action next object,
        step state (.collect survivors) = some collected ∧
          step collected action = some next ∧
            collected.uses action = some object ∧
              object ∈ collected.heap.freed) := by
  have invariant : LifetimeInvariant state :=
    invariant_of_respects
      (fun _ _ _ invariant allowed stepTo => invariant.step allowed stepTo)
      lifetimeInvariant_initial safe runs
  constructor
  · intro action object uses
    obtain ⟨worker, member, mayUse, rfl⟩ := uses_eq_some uses
    exact ((invariant.workers worker member).captured mayUse).2
  · intro notHeld
    simp only [State.HoldsCaptured, not_forall] at notHeld
    obtain ⟨worker, member, mayUse, unreachable⟩ := notHeld
    obtain ⟨survivors, heap, collects, freed⟩ :=
      invariant.sound.exists_collect invariant.handles
    have stepTo : step state (.collect survivors) =
        some { state with heap := heap } :=
      Option.map_eq_some_iff.mpr ⟨heap, collects, rfl⟩
    have workerMember : worker ∈ ({ state with heap := heap } : State).workers :=
      member
    obtain ⟨action, next, useStep, uses⟩ := exists_use workerMember mayUse
    refine ⟨survivors, _, action, next, _, stepTo, useStep, uses, ?_⟩
    exact freed _ ((invariant.workers worker member).captured mayUse) unreachable

/-- The worker of `exec` is running.  The script has forgotten everything, but
the pending promise has a reaction that mentions the database object. -/
def awaiting : State where
  heap := ⟨[.database, .plain, .plain], [], [(2, 1), (1, 0)], []⟩
  workers := [⟨.exec, 0, 2, .running⟩]

theorem holdsCaptured_awaiting : awaiting.HoldsCaptured := by
  intro worker member _
  cases List.mem_singleton.mp member
  have toReaction : 1 ∈ awaiting.heap.targets ObjectKind.intrinsic 2 := by
    decide
  have toDatabase : 0 ∈ awaiting.heap.targets ObjectKind.intrinsic 1 := by
    decide
  exact ⟨2, by decide, .head toReaction (.single toDatabase)⟩

/-- A run to this state and a collection. -/
def awaitedExec : List Action :=
  [.script (.allocate .database), .script (.allocate .plain),
    .script (.store 1 0), .call .exec 0, .script (.store 2 1),
    .script (.drop 0), .script (.drop 1), .script (.drop 2),
    .collect [0, 1, 2]]

theorem collectsSafely_awaitedExec :
    Respects step CollectsSafely initial awaitedExec :=
  respects_cons trivial rfl (respects_cons trivial rfl
    (respects_cons trivial rfl (respects_cons trivial rfl
    (respects_cons trivial rfl (respects_cons trivial rfl
    (respects_cons trivial rfl (respects_cons trivial rfl
    (respects_cons holdsCaptured_awaiting rfl trivial))))))))

theorem workers_use_no_freed_awaitedExec :
    ∃ state, run step initial awaitedExec = some state ∧
      state.heap.roots = [] ∧ state.uses (.access 0) = some 0 ∧
        0 ∉ state.heap.freed :=
  ⟨_, rfl, rfl, rfl,
    (workers_use_no_freed collectsSafely_awaitedExec rfl).1 (.access 0) 0 rfl⟩

/-- Nobody mentions the database object after the call, and a collection deletes
its `DbContext` before the worker gets to it. -/
theorem exec_uses_deleted_context :
    ∃ state next, run step initial
        [.script (.allocate .database), .call .exec 0, .script (.drop 0),
          .script (.drop 1), .collect [1]] = some state ∧
      step state (.access 0) = some next ∧
        state.uses (.access 0) = some 0 ∧ 0 ∈ state.heap.freed :=
  ⟨_, _, rfl, rfl, rfl, by decide⟩

end WorkerLifetimes

end IISModuleJS
