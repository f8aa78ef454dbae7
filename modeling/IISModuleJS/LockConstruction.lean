import IISModuleJS.InterprocessLock

/-!
# Exceptions in the constructor of a lock

The constructor of `IPC_Lock` acquires what the lock holds step by step: a
writer a handle to the mutex, the mutex, a handle to the semaphore and all its
permits, a reader a handle to the semaphore and one permit.  Every Win32 call
can fail, and then the constructor throws.  The destructor does not run for an
object whose constructor throws, and the handles are plain members, so that
nothing is given back.

The machine runs one constructor, call by call, while other threads use the
mutex and the semaphore.  A wait for a mutex whose owner has died makes the
caller its owner and says so, which the constructor treats as a failure.
-/

namespace IISModuleJS

namespace LockConstruction

open InterprocessLock (maxLocks)
open ScheduledMachine

/-- `MAX_PATH`. -/
def maxPath : Nat := 260

/-- The thread that runs the constructor, and its arguments. -/
structure Construction where
  thread : Nat
  isWriteLock : Bool
  nameLength : Nat

/-- How many permits the constructor waits for. -/
def Construction.wanted (construction : Construction) : Nat :=
  if construction.isWriteLock then maxLocks else 1

/-- The named mutex and the named semaphore.  The mutex is abandoned from the
death of its owner until the next wait; the semaphore has a count while it
exists. -/
structure Objects where
  mutexOwner : Option Nat
  mutexDepth : Nat
  abandoned : Bool
  semaphore : Option Nat
  deriving DecidableEq

/-- The next step of the constructor, or how it ended. -/
inductive Stage
  | checkingName
  | creatingMutex
  | waitingMutex
  | creatingSemaphore
  | waitingSemaphore (taken : Nat)
  | constructed
  | thrown (message : String)
  deriving DecidableEq

/-- What a Win32 call answers: a handle or `WAIT_OBJECT_0`, `WAIT_ABANDONED`,
or anything else. -/
inductive Answer
  | succeeds
  | abandoned
  | fails
  deriving DecidableEq

/-- The objects and the constructor: its stage, its members `mutex_handle` and
`semaphore_handle`, and the answers it got.  The last field adds up what other
threads changed about the count of the semaphore; no step reads it. -/
structure State where
  objects : Objects
  stage : Stage
  mutexHandle : Bool
  semaphoreHandle : Bool
  answers : List Answer
  others : Int
  deriving DecidableEq

def start (objects : Objects) : State where
  objects := objects
  stage := .checkingName
  mutexHandle := false
  semaphoreHandle := false
  answers := []
  others := 0

/-- A step of another thread. -/
inductive OtherStep
  | takeMutex (thread : Nat)
  | releaseMutex
  | dieOwningMutex
  | takePermit
  | releasePermits (count : Nat)
  | createSemaphore (count : Nat)
  | closeSemaphore
  deriving DecidableEq

inductive Action
  | checkName
  | own (answer : Answer)
  | other (step : OtherStep)
  deriving DecidableEq

def State.throws (state : State) (message : String) : State :=
  { state with stage := .thrown message }

/-- The mutex after the thread became its owner. -/
def Objects.own (objects : Objects) (thread : Nat) : Objects :=
  { objects with
    mutexOwner := some thread
    mutexDepth := objects.mutexDepth + 1
    abandoned := false }

/-- `CreateSemaphoreA` with a handle as its result, and what the constructor
does then.  Only a writer asks whether the semaphore has existed before. -/
def createSemaphore (construction : Construction) (state : State) : State :=
  match construction.isWriteLock, state.objects.semaphore with
  | true, none =>
      { state with
        objects := { state.objects with semaphore := some 0 }
        semaphoreHandle := true
        stage := .constructed }
  | false, none =>
      { state with
        objects := { state.objects with semaphore := some maxLocks }
        semaphoreHandle := true
        stage := .waitingSemaphore 0 }
  | _, some _ =>
      { state with
        semaphoreHandle := true
        stage := .waitingSemaphore 0 }

/-- A Win32 call of the constructor with its answer, if it can be that. -/
def ownCall (construction : Construction) (state : State) :
    Answer → Option State
  | .succeeds =>
      match state.stage with
      | .creatingMutex =>
          some { state with mutexHandle := true, stage := .waitingMutex }
      | .waitingMutex =>
          if (state.objects.mutexOwner = none ∧
              state.objects.abandoned = false) ∨
              state.objects.mutexOwner = some construction.thread then
            some
              { state with
                objects := state.objects.own construction.thread
                stage := .creatingSemaphore }
          else none
      | .creatingSemaphore => some (createSemaphore construction state)
      | .waitingSemaphore taken =>
          match state.objects.semaphore with
          | some (count + 1) =>
              some
                { state with
                  objects := { state.objects with semaphore := some count }
                  stage :=
                    if taken + 1 = construction.wanted then .constructed
                    else .waitingSemaphore (taken + 1) }
          | _ => none
      | _ => none
  | .abandoned =>
      match state.stage with
      | .waitingMutex =>
          if state.objects.mutexOwner = none ∧
              state.objects.abandoned = true then
            some
              ({ state with
                objects := state.objects.own construction.thread }.throws
                "failed to wait for semaphore object")
          else none
      | _ => none
  | .fails =>
      match state.stage with
      | .creatingMutex => some (state.throws "could not create mutex.")
      | .waitingMutex =>
          some (state.throws "failed to wait for semaphore object")
      | .creatingSemaphore => some (state.throws "could not create rwlock.")
      | .waitingSemaphore _ =>
          some (state.throws
            (if construction.isWriteLock then
              "failed to wait for semaphore object"
            else "failed to wait for single object"))
      | _ => none

/-- A step of another thread, if it is possible.  The semaphore is destroyed
with its last handle, so not while the constructor has one. -/
def otherStep (construction : Construction) (state : State) :
    OtherStep → Option State
  | .takeMutex thread =>
      if thread ≠ construction.thread ∧
          (state.objects.mutexOwner = none ∨
            state.objects.mutexOwner = some thread) then
        some { state with objects := state.objects.own thread }
      else none
  | .releaseMutex =>
      if state.objects.mutexOwner.isSome ∧
          state.objects.mutexOwner ≠ some construction.thread then
        some
          { state with
            objects :=
              { state.objects with
                mutexOwner :=
                  if state.objects.mutexDepth = 1 then none
                  else state.objects.mutexOwner
                mutexDepth := state.objects.mutexDepth - 1 } }
      else none
  | .dieOwningMutex =>
      if state.objects.mutexOwner.isSome ∧
          state.objects.mutexOwner ≠ some construction.thread then
        some
          { state with
            objects :=
              { state.objects with
                mutexOwner := none
                mutexDepth := 0
                abandoned := true } }
      else none
  | .takePermit =>
      match state.objects.semaphore with
      | some (count + 1) =>
          some
            { state with
              objects := { state.objects with semaphore := some count }
              others := state.others - 1 }
      | _ => none
  | .releasePermits count =>
      match state.objects.semaphore with
      | some before =>
          if before + count ≤ maxLocks then
            some
              { state with
                objects :=
                  { state.objects with semaphore := some (before + count) }
                others := state.others + count }
          else none
      | none => none
  | .createSemaphore count =>
      match state.objects.semaphore with
      | some _ => none
      | none =>
          some
            { state with
              objects := { state.objects with semaphore := some count }
              others := state.others + count }
  | .closeSemaphore =>
      match state.objects.semaphore with
      | some count =>
          if state.semaphoreHandle = false then
            some
              { state with
                objects := { state.objects with semaphore := none }
                others := state.others - count }
          else none
      | none => none

def step (construction : Construction) (state : State) :
    Action → Option State
  | .checkName =>
      if state.stage = .checkingName then
        if maxPath < construction.nameLength then
          some (state.throws "rwlock name too long.")
        else
          some
            { state with
              stage :=
                if construction.isWriteLock then .creatingMutex
                else .creatingSemaphore }
      else none
  | .own answer =>
      (ownCall construction state answer).map fun next =>
        { next with answers := state.answers ++ [answer] }
  | .other moved => otherStep construction state moved

/-- The stage of the lock in the machine of `InterprocessLock`. -/
def lockStage (construction : Construction) (state : State) :
    InterprocessLock.Stage :=
  match state.stage with
  | .checkingName =>
      if construction.isWriteLock then .creatingMutex else .creatingSemaphore
  | .creatingMutex => .creatingMutex
  | .waitingMutex => .waitingMutex
  | .creatingSemaphore => .creatingSemaphore
  | .waitingSemaphore _ => .waitingSemaphore
  | .constructed => .held
  | .thrown _ => .thrown state.semaphoreHandle

/-- The permits that the lock has there. -/
def lockPermits (construction : Construction) (state : State) : Nat :=
  match state.stage with
  | .waitingSemaphore taken => taken
  | .constructed => construction.wanted
  | _ => 0

def lockOf (construction : Construction) (state : State) :
    InterprocessLock.Lock where
  thread := construction.thread
  isWriteLock := construction.isWriteLock
  stage := lockStage construction state
  permits := lockPermits construction state

/-- The machine with this lock alone. -/
def machineOf (construction : Construction) (state : State) :
    InterprocessLock.State where
  semaphore := state.objects.semaphore
  mutexOwner := state.objects.mutexOwner
  mutexDepth := state.objects.mutexDepth
  locks := [lockOf construction state]

/-- A call that succeeds is the call that the lock makes in the lock
machine. -/
theorem call_of_succeeds {construction : Construction} {state next : State}
    (stepTo : step construction state (.own .succeeds) = some next) :
    InterprocessLock.call (machineOf construction state) 0
        (lockOf construction state) =
      some (machineOf construction next) := by
  obtain ⟨made, called, rfl⟩ := Option.map_eq_some_iff.mp stepTo
  simp only [ownCall] at called
  cases stage : state.stage with
  | creatingMutex =>
      rw [stage] at called
      cases called
      simp [InterprocessLock.call, machineOf, lockOf, lockStage, lockPermits,
        stage, InterprocessLock.State.setLock]
  | waitingMutex =>
      rw [stage] at called
      simp only [Option.ite_none_right_eq_some, Option.some.injEq] at called
      obtain ⟨free, rfl⟩ := called
      have available : state.objects.mutexOwner = none ∨
          state.objects.mutexOwner = some construction.thread :=
        free.imp_left And.left
      simp [InterprocessLock.call, machineOf, lockOf, lockStage, lockPermits,
        stage, available, InterprocessLock.State.setLock, Objects.own]
  | creatingSemaphore =>
      rw [stage] at called
      cases called
      cases writer : construction.isWriteLock <;>
        cases present : state.objects.semaphore <;>
        simp [InterprocessLock.call, machineOf, lockOf, lockStage,
          lockPermits, stage, createSemaphore, writer, present,
          InterprocessLock.State.createSemaphore, Construction.wanted,
          InterprocessLock.State.setLock]
  | waitingSemaphore taken =>
      rw [stage] at called
      dsimp only at called
      split at called
      next count present =>
        cases called
        by_cases last : taken + 1 = construction.wanted
        · simp [InterprocessLock.call, machineOf, lockOf, lockStage,
            lockPermits, stage, present, last, InterprocessLock.State.setLock,
            InterprocessLock.Lock.takePermit, InterprocessLock.Lock.wanted]
          exact rfl
        · simp [InterprocessLock.call, machineOf, lockOf, lockStage,
            lockPermits, stage, present, last, InterprocessLock.State.setLock,
            InterprocessLock.Lock.takePermit, InterprocessLock.Lock.wanted]
          exact last
      next => cases called
  | checkingName =>
      rw [stage] at called
      cases called
  | constructed =>
      rw [stage] at called
      cases called
  | thrown message =>
      rw [stage] at called
      cases called

/-- How often the thread owns the mutex. -/
def Objects.ownDepth (objects : Objects) (thread : Nat) : Nat :=
  if objects.mutexOwner = some thread then objects.mutexDepth else 0

/-- The count of the semaphore; one that does not exist has no permits. -/
def Objects.available (objects : Objects) : Int :=
  objects.semaphore.getD 0

/-- The constructor holds nothing: the thread owns the mutex no more often than
before, the count of the semaphore is what it was up to the steps of other
threads, and there is no open handle. -/
structure HoldsNothing (construction : Construction) (before : Objects)
    (state : State) : Prop where
  mutex : state.objects.ownDepth construction.thread =
    before.ownDepth construction.thread
  semaphore : state.objects.available = before.available + state.others
  mutexHandle : state.mutexHandle = false
  semaphoreHandle : state.semaphoreHandle = false

/-- The constructor holds the handle of the first call, which succeeded. -/
structure HoldsHandle (construction : Construction) (state : State) :
    Prop where
  short : construction.nameLength ≤ maxPath
  first : state.answers.head? = some .succeeds
  mutexHandle : construction.isWriteLock = true → state.mutexHandle = true
  semaphoreHandle : construction.isWriteLock = false →
    state.semaphoreHandle = true

/-- Nothing is held before the first call. -/
structure Untouched (construction : Construction) (before : Objects)
    (state : State) : Prop where
  nothing : HoldsNothing construction before state
  unanswered : state.answers = []

/-- What is held at each stage. -/
def Progress (construction : Construction) (before : Objects)
    (state : State) : Prop :=
  match state.stage with
  | .checkingName => Untouched construction before state
  | .creatingMutex =>
      construction.isWriteLock = true ∧
        construction.nameLength ≤ maxPath ∧
        Untouched construction before state
  | .creatingSemaphore =>
      (construction.isWriteLock = true ∧ HoldsHandle construction state) ∨
      (construction.isWriteLock = false ∧
        construction.nameLength ≤ maxPath ∧
        Untouched construction before state)
  | .waitingMutex =>
      construction.isWriteLock = true ∧ HoldsHandle construction state
  | .waitingSemaphore _ => HoldsHandle construction state
  | .constructed => HoldsHandle construction state
  | .thrown _ =>
      (HoldsNothing construction before state ∧
        (maxPath < construction.nameLength ∨
          state.answers.head? = some .fails)) ∨
      HoldsHandle construction state

/-- A step changes nothing about what the constructor holds, and what it
changes about the count is added up. -/
structure Kept (construction : Construction) (state next : State) :
    Prop where
  mutexHandle : next.mutexHandle = state.mutexHandle
  semaphoreHandle : next.semaphoreHandle = state.semaphoreHandle
  answers : next.answers = state.answers
  mutex : next.objects.ownDepth construction.thread =
    state.objects.ownDepth construction.thread
  semaphore : next.objects.available - next.others =
    state.objects.available - state.others

/-- A free mutex that another thread takes was not owned by the thread, and is
not then. -/
theorem ownDepth_own_other {objects : Objects} {thread other : Nat}
    (different : other ≠ thread)
    (free : objects.mutexOwner = none ∨ objects.mutexOwner = some other) :
    (objects.own other).ownDepth thread = objects.ownDepth thread := by
  have unowned : objects.mutexOwner ≠ some thread := by
    intro owned
    rcases free with none | same
    · rw [none] at owned
      cases owned
    · rw [same] at owned
      exact different (Option.some.inj owned)
  have foreign : (objects.own other).mutexOwner ≠ some thread := by
    intro owned
    exact different (Option.some.inj owned)
  rw [Objects.ownDepth, Objects.ownDepth, if_neg unowned, if_neg foreign]

theorem kept_of_otherStep {construction : Construction}
    {state next : State} {moved : OtherStep}
    (stepTo : otherStep construction state moved = some next) :
    next.stage = state.stage ∧ Kept construction state next := by
  cases moved with
  | takeMutex thread =>
      simp only [otherStep, Option.ite_none_right_eq_some,
        Option.some.injEq] at stepTo
      obtain ⟨⟨different, free⟩, rfl⟩ := stepTo
      exact ⟨rfl, rfl, rfl, rfl, ownDepth_own_other different free, rfl⟩
  | releaseMutex =>
      simp only [otherStep, Option.ite_none_right_eq_some,
        Option.some.injEq] at stepTo
      obtain ⟨⟨owned, foreign⟩, rfl⟩ := stepTo
      refine ⟨rfl, rfl, rfl, rfl, ?_, rfl⟩
      by_cases last : state.objects.mutexDepth = 1
      · simp [Objects.ownDepth, foreign, last]
      · simp [Objects.ownDepth, foreign, last]
  | dieOwningMutex =>
      simp only [otherStep, Option.ite_none_right_eq_some,
        Option.some.injEq] at stepTo
      obtain ⟨⟨owned, foreign⟩, rfl⟩ := stepTo
      refine ⟨rfl, rfl, rfl, rfl, ?_, rfl⟩
      simp [Objects.ownDepth, foreign]
  | takePermit =>
      simp only [otherStep] at stepTo
      split at stepTo
      next count present =>
        cases stepTo
        refine ⟨rfl, rfl, rfl, rfl, rfl, ?_⟩
        simp only [Objects.available, present, Option.getD_some]
        omega
      next => cases stepTo
  | releasePermits count =>
      simp only [otherStep] at stepTo
      split at stepTo
      next before present =>
        split at stepTo
        next =>
          cases stepTo
          refine ⟨rfl, rfl, rfl, rfl, rfl, ?_⟩
          simp only [Objects.available, present, Option.getD_some]
          omega
        next => cases stepTo
      next => cases stepTo
  | createSemaphore count =>
      simp only [otherStep] at stepTo
      split at stepTo
      next => cases stepTo
      next absent =>
        cases stepTo
        refine ⟨rfl, rfl, rfl, rfl, rfl, ?_⟩
        simp only [Objects.available, absent, Option.getD_some,
          Option.getD_none]
        omega
  | closeSemaphore =>
      simp only [otherStep] at stepTo
      split at stepTo
      next count present =>
        split at stepTo
        next =>
          cases stepTo
          refine ⟨rfl, rfl, rfl, rfl, rfl, ?_⟩
          simp only [Objects.available, present, Option.getD_some,
            Option.getD_none]
          omega
        next => cases stepTo
      next => cases stepTo

section Steps

variable {construction : Construction} {before : Objects}
  {state next : State}

theorem HoldsNothing.of_kept
    (nothing : HoldsNothing construction before state)
    (kept : Kept construction state next) :
    HoldsNothing construction before next where
  mutex := kept.mutex.trans nothing.mutex
  semaphore := by
    have count := kept.semaphore
    have same := nothing.semaphore
    omega
  mutexHandle := kept.mutexHandle.trans nothing.mutexHandle
  semaphoreHandle := kept.semaphoreHandle.trans nothing.semaphoreHandle

theorem HoldsHandle.of_kept (holds : HoldsHandle construction state)
    (kept : Kept construction state next) :
    HoldsHandle construction next where
  short := holds.short
  first := by rw [kept.answers]; exact holds.first
  mutexHandle := by rw [kept.mutexHandle]; exact holds.mutexHandle
  semaphoreHandle := by rw [kept.semaphoreHandle]; exact holds.semaphoreHandle

theorem Untouched.of_kept (untouched : Untouched construction before state)
    (kept : Kept construction state next) :
    Untouched construction before next where
  nothing := untouched.nothing.of_kept kept
  unanswered := kept.answers.trans untouched.unanswered

/-- A step of another thread. -/
theorem Progress.of_kept (progress : Progress construction before state)
    (sameStage : next.stage = state.stage)
    (kept : Kept construction state next) :
    Progress construction before next := by
  unfold Progress at progress ⊢
  rw [sameStage]
  cases stage : state.stage with
  | checkingName =>
      rw [stage] at progress
      exact progress.of_kept kept
  | creatingMutex =>
      rw [stage] at progress
      exact ⟨progress.1, progress.2.1, progress.2.2.of_kept kept⟩
  | creatingSemaphore =>
      rw [stage] at progress
      refine progress.imp ?_ ?_
      · exact fun writer => ⟨writer.1, writer.2.of_kept kept⟩
      · exact fun reader => ⟨reader.1, reader.2.1, reader.2.2.of_kept kept⟩
  | waitingMutex =>
      rw [stage] at progress
      exact ⟨progress.1, progress.2.of_kept kept⟩
  | waitingSemaphore taken =>
      rw [stage] at progress
      exact progress.of_kept kept
  | constructed =>
      rw [stage] at progress
      exact progress.of_kept kept
  | thrown message =>
      rw [stage] at progress
      refine progress.imp ?_ fun holds => holds.of_kept kept
      rintro ⟨nothing, condition⟩
      rw [kept.answers]
      exact ⟨nothing.of_kept kept, condition⟩

/-- The check of the name. -/
theorem Progress.checkName (progress : Progress construction before state)
    (stepTo : step construction state .checkName = some next) :
    Progress construction before next := by
  simp only [step, Option.ite_none_right_eq_some] at stepTo
  obtain ⟨stage, checked⟩ := stepTo
  unfold Progress at progress
  rw [stage] at progress
  have untouched : Untouched construction before state := progress
  split at checked
  next long =>
    cases checked
    have kept : Kept construction state
        (state.throws "rwlock name too long.") :=
      ⟨rfl, rfl, rfl, rfl, rfl⟩
    exact .inl ⟨untouched.nothing.of_kept kept, .inl long⟩
  next short =>
    have short := Nat.le_of_not_lt short
    cases checked
    cases writer : construction.isWriteLock with
    | true =>
        have kept : Kept construction state
            { state with stage := .creatingMutex } :=
          ⟨rfl, rfl, rfl, rfl, rfl⟩
        exact ⟨writer, short, untouched.of_kept kept⟩
    | false =>
        have kept : Kept construction state
            { state with stage := .creatingSemaphore } :=
          ⟨rfl, rfl, rfl, rfl, rfl⟩
        exact .inr ⟨writer, short, untouched.of_kept kept⟩

/-- After its first call the constructor holds a handle as long as it keeps
its handles. -/
theorem HoldsHandle.answered (holds : HoldsHandle construction state)
    (answer : Answer) (mutexHandle : next.mutexHandle = state.mutexHandle)
    (semaphoreHandle : state.semaphoreHandle = true →
      next.semaphoreHandle = true)
    (answers : next.answers = state.answers ++ [answer]) :
    HoldsHandle construction next where
  short := holds.short
  first := by
    rw [answers, List.head?_append, holds.first]
    rfl
  mutexHandle := by
    rw [mutexHandle]
    exact holds.mutexHandle
  semaphoreHandle := fun reader =>
    semaphoreHandle (holds.semaphoreHandle reader)

/-- A first call that fails leaves nothing held. -/
theorem Untouched.fails (untouched : Untouched construction before state)
    (message : String) :
    Progress construction before
      { state.throws message with answers := state.answers ++ [.fails] } := by
  have nothing := untouched.nothing
  have first : (state.answers ++ [Answer.fails]).head? = some .fails := by
    rw [untouched.unanswered]
    rfl
  exact .inl ⟨⟨nothing.mutex, nothing.semaphore, nothing.mutexHandle,
    nothing.semaphoreHandle⟩, .inr first⟩

/-- What `CreateSemaphoreA` does when it succeeds. -/
theorem createSemaphore_spec (construction : Construction) (state : State) :
    (createSemaphore construction state).mutexHandle = state.mutexHandle ∧
    (createSemaphore construction state).semaphoreHandle = true ∧
    (createSemaphore construction state).answers = state.answers ∧
    ((createSemaphore construction state).stage = .constructed ∨
      (createSemaphore construction state).stage = .waitingSemaphore 0) := by
  unfold createSemaphore
  split
  · exact ⟨rfl, rfl, rfl, .inl rfl⟩
  · exact ⟨rfl, rfl, rfl, .inr rfl⟩
  · exact ⟨rfl, rfl, rfl, .inr rfl⟩

/-- A constructor that waits for permits or is done only needs its handle. -/
theorem progress_of_holdsHandle (holds : HoldsHandle construction state)
    (stage : state.stage = .constructed ∨
      ∃ taken, state.stage = .waitingSemaphore taken) :
    Progress construction before state := by
  unfold Progress
  rcases stage with constructed | ⟨taken, waiting⟩
  · rw [constructed]
    exact holds
  · rw [waiting]
    exact holds

/-- The call of `CreateMutexA`. -/
theorem Progress.createMutex {answer : Answer} {made : State}
    (stage : state.stage = .creatingMutex)
    (progress : Progress construction before state)
    (called : ownCall construction state answer = some made) :
    Progress construction before
      { made with answers := state.answers ++ [answer] } := by
  unfold Progress at progress
  rw [stage] at progress
  obtain ⟨writer, short, untouched⟩ := progress
  cases answer with
  | succeeds =>
      simp only [ownCall, stage] at called
      cases called
      refine ⟨writer, short, ?_, fun _ => rfl, ?_⟩
      · simp [untouched.unanswered]
      · simp [writer]
  | abandoned =>
      simp only [ownCall, stage] at called
      cases called
  | fails =>
      simp only [ownCall, stage] at called
      cases called
      exact untouched.fails _

/-- The wait for the mutex. -/
theorem Progress.waitMutex {answer : Answer} {made : State}
    (stage : state.stage = .waitingMutex)
    (progress : Progress construction before state)
    (called : ownCall construction state answer = some made) :
    Progress construction before
      { made with answers := state.answers ++ [answer] } := by
  unfold Progress at progress
  rw [stage] at progress
  obtain ⟨writer, holds⟩ := progress
  cases answer with
  | succeeds =>
      simp only [ownCall, stage, Option.ite_none_right_eq_some,
        Option.some.injEq] at called
      obtain ⟨free, rfl⟩ := called
      exact .inl ⟨writer, holds.answered .succeeds rfl id rfl⟩
  | abandoned =>
      simp only [ownCall, stage, Option.ite_none_right_eq_some,
        Option.some.injEq] at called
      obtain ⟨free, rfl⟩ := called
      exact .inr (holds.answered .abandoned rfl id rfl)
  | fails =>
      simp only [ownCall, stage] at called
      cases called
      exact .inr (holds.answered .fails rfl id rfl)

/-- The call of `CreateSemaphoreA`, which is the first one of a reader. -/
theorem Progress.createSemaphore {answer : Answer} {made : State}
    (stage : state.stage = .creatingSemaphore)
    (progress : Progress construction before state)
    (called : ownCall construction state answer = some made) :
    Progress construction before
      { made with answers := state.answers ++ [answer] } := by
  unfold Progress at progress
  rw [stage] at progress
  cases answer with
  | succeeds =>
      simp only [ownCall, stage] at called
      cases called
      obtain ⟨mutexHandle, semaphoreHandle, answers, stages⟩ :=
        createSemaphore_spec construction state
      refine progress_of_holdsHandle ?_
        (stages.imp id fun waiting => ⟨0, waiting⟩)
      rcases progress with ⟨writer, holds⟩ | ⟨reader, short, untouched⟩
      · exact holds.answered .succeeds mutexHandle
          (fun _ => semaphoreHandle) rfl
      · refine ⟨short, ?_, ?_, fun _ => semaphoreHandle⟩
        · simp [untouched.unanswered]
        · simp [reader]
  | abandoned =>
      simp only [ownCall, stage] at called
      cases called
  | fails =>
      simp only [ownCall, stage] at called
      cases called
      rcases progress with ⟨writer, holds⟩ | ⟨reader, short, untouched⟩
      · exact .inr (holds.answered .fails rfl id rfl)
      · exact untouched.fails _

/-- A wait for the semaphore. -/
theorem Progress.waitSemaphore {answer : Answer} {made : State} {taken : Nat}
    (stage : state.stage = .waitingSemaphore taken)
    (progress : Progress construction before state)
    (called : ownCall construction state answer = some made) :
    Progress construction before
      { made with answers := state.answers ++ [answer] } := by
  unfold Progress at progress
  rw [stage] at progress
  have holds : HoldsHandle construction state := progress
  cases answer with
  | succeeds =>
      simp only [ownCall, stage] at called
      split at called
      next count present =>
        cases called
        refine progress_of_holdsHandle
          (holds.answered .succeeds rfl id rfl) ?_
        by_cases last : taken + 1 = construction.wanted
        · exact .inl (if_pos last)
        · exact .inr ⟨taken + 1, if_neg last⟩
      next => cases called
  | abandoned =>
      simp only [ownCall, stage] at called
      cases called
  | fails =>
      simp only [ownCall, stage] at called
      cases called
      exact .inr (holds.answered .fails rfl id rfl)

theorem Progress.step {action : Action}
    (progress : Progress construction before state)
    (stepTo : step construction state action = some next) :
    Progress construction before next := by
  cases action with
  | checkName => exact progress.checkName stepTo
  | other moved =>
      obtain ⟨sameStage, kept⟩ := kept_of_otherStep stepTo
      exact progress.of_kept sameStage kept
  | own answer =>
      obtain ⟨made, called, rfl⟩ := Option.map_eq_some_iff.mp stepTo
      cases stage : state.stage with
      | creatingMutex => exact Progress.createMutex stage progress called
      | waitingMutex => exact Progress.waitMutex stage progress called
      | creatingSemaphore =>
          exact Progress.createSemaphore stage progress called
      | waitingSemaphore taken =>
          exact Progress.waitSemaphore stage progress called
      | _ => cases answer <;> simp [ownCall, stage] at called

end Steps

/-- The answer that a call of the constructor gets in an action. -/
def Action.answer : Action → Option Answer
  | .own answer => some answer
  | _ => none

theorem progress_of_run {construction : Construction} {before : Objects}
    {schedule : List Action} {state : State}
    (runs : run (step construction) (start before) schedule = some state) :
    Progress construction before state := by
  have untouched : Untouched construction before (start before) :=
    ⟨⟨rfl, (Int.add_zero _).symm, rfl, rfl⟩, rfl⟩
  have starts : Progress construction before (start before) := untouched
  exact invariant_of_run (fun _ _ _ holds stepTo => Progress.step holds stepTo)
    starts runs

/-- The log of a run holds the answers of its actions. -/
theorem answers_of_run {construction : Construction} {schedule : List Action}
    {state final : State}
    (runs : run (step construction) state schedule = some final) :
    final.answers = state.answers ++ schedule.filterMap Action.answer := by
  induction schedule generalizing state with
  | nil =>
      cases runs
      simp
  | cons action rest ih =>
      obtain ⟨next, stepTo, restRuns⟩ := run_cons_eq_some.mp runs
      rw [ih restRuns]
      cases action with
      | checkName =>
          simp only [step, Option.ite_none_right_eq_some] at stepTo
          obtain ⟨-, checked⟩ := stepTo
          have same : next.answers = state.answers := by
            split at checked <;> cases checked <;> rfl
          rw [same]
          rfl
      | other moved =>
          have same := (kept_of_otherStep stepTo).2.answers
          rw [same]
          rfl
      | own answer =>
          obtain ⟨made, called, rfl⟩ := Option.map_eq_some_iff.mp stepTo
          simp [Action.answer]

/-- A constructor that throws holds nothing exactly if the name is too long or
its first call fails, which is `CreateMutexA` for a writer and
`CreateSemaphoreA` for a reader.  With any other failure at least the handle of
the first call stays open. -/
theorem thrown_holdsNothing_iff {construction : Construction}
    {before : Objects} {schedule : List Action} {state : State}
    {message : String}
    (runs : run (step construction) (start before) schedule = some state)
    (threw : state.stage = .thrown message) :
    HoldsNothing construction before state ↔
      maxPath < construction.nameLength ∨
        (schedule.filterMap Action.answer).head? = some .fails := by
  have progress := progress_of_run runs
  have answers := answers_of_run runs
  have unanswered : (start before).answers = [] := rfl
  rw [unanswered, List.nil_append] at answers
  unfold Progress at progress
  rw [threw] at progress
  rw [← answers]
  rcases progress with ⟨nothing, condition⟩ | holds
  · exact iff_of_true nothing condition
  · refine iff_of_false ?_ ?_
    · intro nothing
      cases writer : construction.isWriteLock with
      | true =>
          have opened := holds.mutexHandle writer
          rw [nothing.mutexHandle] at opened
          cases opened
      | false =>
          have opened := holds.semaphoreHandle writer
          rw [nothing.semaphoreHandle] at opened
          cases opened
    · rintro (long | failed)
      · exact absurd holds.short (Nat.not_le_of_lt long)
      · rw [holds.first] at failed
        cases failed

/-- A writer with a short name. -/
def writer : Construction :=
  ⟨7, true, 4⟩

/-- The owner of the mutex has died. -/
def abandonedMutex : Objects :=
  ⟨none, 0, true, none⟩

/-- A writer whose second wait for the semaphore fails throws with the mutex, a
permit and both handles. -/
example :
    (run (step writer) (start ⟨none, 0, false, some 24⟩)
      [.checkName, .own .succeeds, .own .succeeds, .own .succeeds,
        .own .succeeds, .own .fails]).map (fun state =>
          (state.objects, state.mutexHandle, state.semaphoreHandle)) =
      some (⟨some 7, 1, false, some 23⟩, true, true) :=
  rfl

/-- A writer that cannot create its mutex holds nothing. -/
theorem writer_without_mutex :
    ∃ state,
      run (step writer) (start abandonedMutex) [.checkName, .own .fails] =
        some state ∧
      HoldsNothing writer abandonedMutex state := by
  have reached : ∃ state,
      run (step writer) (start abandonedMutex) [.checkName, .own .fails] =
        some state ∧ state.stage = .thrown "could not create mutex." :=
    ⟨_, rfl, rfl⟩
  obtain ⟨state, runs, threw⟩ := reached
  exact ⟨state, runs, (thrown_holdsNothing_iff runs threw).mpr (.inr rfl)⟩

/-- A writer that finds the mutex abandoned throws as its owner, with the handle
open. -/
theorem writer_abandoned_holds_mutex :
    ∃ state,
      run (step writer) (start abandonedMutex)
        [.checkName, .own .succeeds, .own .abandoned] = some state ∧
      state.stage = .thrown "failed to wait for semaphore object" ∧
      state.objects.mutexOwner = some writer.thread ∧
      state.mutexHandle = true ∧
      ¬ HoldsNothing writer abandonedMutex state := by
  refine ⟨_, rfl, rfl, rfl, rfl, ?_⟩
  intro nothing
  have closed := nothing.mutexHandle
  cases closed

end LockConstruction

end IISModuleJS
