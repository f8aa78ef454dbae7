import IISModuleJS.ScheduledMachine
import IISModuleJS.ListWeight

/-!
# The interprocess lock

`IPC_Lock` is a reader-writer lock on a name.  Read and write locks share one
named semaphore: a reader takes one permit, a writer all of them.  Writers
also hold a named mutex.  The destructor is the same for both kinds of lock.

Every step of the machine is one Win32 call of one lock.  A named semaphore
exists while some handle to it is open; creating it again opens the existing
one; a release that would exceed the maximum is refused and changes nothing.
A mutex has one owner, which can take it repeatedly.
-/

namespace IISModuleJS

namespace InterprocessLock

open ScheduledMachine ListWeight

/-- `IPCKV_MAX_LOCKS`. -/
def maxLocks : Nat := 24

/-- The next Win32 call of a lock, or where it rests. -/
inductive Stage
  | creatingMutex
  | waitingMutex
  | creatingSemaphore
  | waitingSemaphore
  | held
  | releasingSemaphore
  | closingSemaphore
  | releasingMutex
  | closingMutex
  | destroyed
  | thrown (semaphoreOpen : Bool)
  deriving DecidableEq

namespace Stage

/-- The lock has an open handle to the semaphore. -/
def semaphoreOpen : Stage → Bool
  | .waitingSemaphore => true
  | .held => true
  | .releasingSemaphore => true
  | .closingSemaphore => true
  | .thrown isOpen => isOpen
  | _ => false

/-- The constructor of the lock is running. -/
def constructing : Stage → Bool
  | .creatingMutex => true
  | .waitingMutex => true
  | .creatingSemaphore => true
  | .waitingSemaphore => true
  | _ => false

/-- The destructor of the lock is running. -/
def destructing : Stage → Bool
  | .releasingSemaphore => true
  | .closingSemaphore => true
  | .releasingMutex => true
  | .closingMutex => true
  | _ => false

def busy (stage : Stage) : Bool :=
  stage.constructing || stage.destructing

end Stage

/-- An `IPC_Lock` with the thread that uses it and the permits it took from
the semaphore.  A writer that creates the semaphore creates it without free
permits, which is counted as having taken all of them. -/
structure Lock where
  thread : Nat
  isWriteLock : Bool
  stage : Stage
  permits : Nat
  deriving DecidableEq

namespace Lock

/-- How many permits the constructor waits for. -/
def wanted (lock : Lock) : Nat :=
  if lock.isWriteLock then maxLocks else 1

def start (thread : Nat) (isWriteLock : Bool) : Lock where
  thread := thread
  isWriteLock := isWriteLock
  stage := if isWriteLock then .creatingMutex else .creatingSemaphore
  permits := 0

/-- After a successful wait for the semaphore. -/
def takePermit (lock : Lock) : Lock :=
  { lock with
    permits := lock.permits + 1
    stage :=
      if lock.permits + 1 = lock.wanted then .held else .waitingSemaphore }

/-- After the semaphore handle is closed. -/
def closed (lock : Lock) : Lock :=
  { lock with
    permits := 0
    stage := if lock.isWriteLock then .releasingMutex else .destroyed }

end Lock

/-- The named objects and all locks on the name.  The semaphore has a count
while it exists. -/
structure State where
  semaphore : Option Nat
  mutexOwner : Option Nat
  mutexDepth : Nat
  locks : List Lock
  deriving DecidableEq

def initial : State where
  semaphore := none
  mutexOwner := none
  mutexDepth := 0
  locks := []

inductive Action
  | construct (thread : Nat) (isWriteLock : Bool)
  | call (index : Nat)
  | fail (index : Nat)
  | destroy (index : Nat)
  deriving DecidableEq

namespace State

/-- A thread runs at most one constructor or destructor at a time. -/
def idle (state : State) (thread : Nat) : Bool :=
  state.locks.all fun lock => !(lock.thread == thread && lock.stage.busy)

def setLock (state : State) (index : Nat) (lock : Lock) : State :=
  { state with locks := state.locks.set index lock }

/-- `CreateSemaphoreA` and what the constructor does with its outcome. -/
def createSemaphore (state : State) (index : Nat) (lock : Lock) : State :=
  match lock.isWriteLock, state.semaphore with
  | true, none =>
      { state.setLock index
          { lock with stage := .held, permits := maxLocks } with
        semaphore := some 0 }
  | false, none =>
      { state.setLock index { lock with stage := .waitingSemaphore } with
        semaphore := some maxLocks }
  | _, some _ =>
      state.setLock index { lock with stage := .waitingSemaphore }

/-- `ReleaseSemaphore` with `IPCKV_MAX_LOCKS`. -/
def releaseSemaphore (state : State) (index : Nat) (lock : Lock)
    (count : Nat) : State :=
  if count + maxLocks ≤ maxLocks then
    { state.setLock index
        { lock with stage := .closingSemaphore, permits := 0 } with
      semaphore := some (count + maxLocks) }
  else
    state.setLock index { lock with stage := .closingSemaphore }

/-- `CloseHandle` on the semaphore, which is destroyed with its last
handle. -/
def closeSemaphore (state : State) (index : Nat) (lock : Lock) : State :=
  let next := state.setLock index lock.closed
  if next.locks.any fun other => other.stage.semaphoreOpen then next
  else { next with semaphore := none }

/-- `ReleaseMutex`. -/
def releaseMutex (state : State) (index : Nat) (lock : Lock) : State :=
  { state.setLock index { lock with stage := .closingMutex } with
    mutexOwner := if state.mutexDepth = 1 then none else state.mutexOwner
    mutexDepth := state.mutexDepth - 1 }

end State

open State

/-- The next Win32 call of a lock, if it returns. -/
def call (state : State) (index : Nat) (lock : Lock) : Option State :=
  match lock.stage with
  | .creatingMutex =>
      some (state.setLock index { lock with stage := .waitingMutex })
  | .waitingMutex =>
      if state.mutexOwner = none ∨ state.mutexOwner = some lock.thread then
        some
          { state.setLock index { lock with stage := .creatingSemaphore } with
            mutexOwner := some lock.thread
            mutexDepth := state.mutexDepth + 1 }
      else none
  | .creatingSemaphore => some (state.createSemaphore index lock)
  | .waitingSemaphore =>
      match state.semaphore with
      | some (count + 1) =>
          some
            { state.setLock index lock.takePermit with
              semaphore := some count }
      | _ => none
  | .releasingSemaphore =>
      state.semaphore.map fun count =>
        state.releaseSemaphore index lock count
  | .closingSemaphore => some (state.closeSemaphore index lock)
  | .releasingMutex => some (state.releaseMutex index lock)
  | .closingMutex =>
      some (state.setLock index { lock with stage := .destroyed })
  | .held => none
  | .destroyed => none
  | .thrown _ => none

def step (state : State) : Action → Option State
  | .construct thread isWriteLock =>
      if state.idle thread then
        some
          { state with
            locks := state.locks ++ [.start thread isWriteLock] }
      else none
  | .call index =>
      state.locks[index]?.bind fun lock => call state index lock
  | .fail index =>
      state.locks[index]?.bind fun lock =>
        if lock.stage.constructing then
          some (state.setLock index
            { lock with stage := .thrown lock.stage.semaphoreOpen })
        else none
  | .destroy index =>
      state.locks[index]?.bind fun lock =>
        if lock.stage = .held ∧ state.idle lock.thread then
          some (state.setLock index
            { lock with stage := .releasingSemaphore })
        else none

/-- Everything a step can do, with the guards under which it does it. -/
inductive Transition (state : State) : Action → State → Prop
  | construct {thread : Nat} {isWriteLock : Bool}
      (idle : state.idle thread) :
      Transition state (.construct thread isWriteLock)
        { state with locks := state.locks ++ [.start thread isWriteLock] }
  | fail {index : Nat} {lock : Lock}
      (found : state.locks[index]? = some lock)
      (constructing : lock.stage.constructing) :
      Transition state (.fail index)
        (state.setLock index
          { lock with stage := .thrown lock.stage.semaphoreOpen })
  | destroy {index : Nat} {lock : Lock}
      (found : state.locks[index]? = some lock)
      (held : lock.stage = .held) (idle : state.idle lock.thread) :
      Transition state (.destroy index)
        (state.setLock index { lock with stage := .releasingSemaphore })
  | createMutex {index : Nat} {lock : Lock}
      (found : state.locks[index]? = some lock)
      (stage : lock.stage = .creatingMutex) :
      Transition state (.call index)
        (state.setLock index { lock with stage := .waitingMutex })
  | waitMutex {index : Nat} {lock : Lock}
      (found : state.locks[index]? = some lock)
      (stage : lock.stage = .waitingMutex)
      (available :
        state.mutexOwner = none ∨ state.mutexOwner = some lock.thread) :
      Transition state (.call index)
        { state.setLock index { lock with stage := .creatingSemaphore } with
          mutexOwner := some lock.thread
          mutexDepth := state.mutexDepth + 1 }
  | createForWriter {index : Nat} {lock : Lock}
      (found : state.locks[index]? = some lock)
      (stage : lock.stage = .creatingSemaphore)
      (writer : lock.isWriteLock = true)
      (absent : state.semaphore = none) :
      Transition state (.call index)
        { state.setLock index
            { lock with stage := .held, permits := maxLocks } with
          semaphore := some 0 }
  | createForReader {index : Nat} {lock : Lock}
      (found : state.locks[index]? = some lock)
      (stage : lock.stage = .creatingSemaphore)
      (reader : lock.isWriteLock = false)
      (absent : state.semaphore = none) :
      Transition state (.call index)
        { state.setLock index { lock with stage := .waitingSemaphore } with
          semaphore := some maxLocks }
  | openSemaphore {index : Nat} {lock : Lock} {count : Nat}
      (found : state.locks[index]? = some lock)
      (stage : lock.stage = .creatingSemaphore)
      (present : state.semaphore = some count) :
      Transition state (.call index)
        (state.setLock index { lock with stage := .waitingSemaphore })
  | waitSemaphore {index : Nat} {lock : Lock} {count : Nat}
      (found : state.locks[index]? = some lock)
      (stage : lock.stage = .waitingSemaphore)
      (present : state.semaphore = some (count + 1)) :
      Transition state (.call index)
        { state.setLock index lock.takePermit with semaphore := some count }
  | release {index : Nat} {lock : Lock}
      (found : state.locks[index]? = some lock)
      (stage : lock.stage = .releasingSemaphore)
      (present : state.semaphore = some 0) :
      Transition state (.call index)
        { state.setLock index
            { lock with stage := .closingSemaphore, permits := 0 } with
          semaphore := some maxLocks }
  | releaseRefused {index : Nat} {lock : Lock} {count : Nat}
      (found : state.locks[index]? = some lock)
      (stage : lock.stage = .releasingSemaphore)
      (present : state.semaphore = some (count + 1)) :
      Transition state (.call index)
        (state.setLock index { lock with stage := .closingSemaphore })
  | close {index : Nat} {lock : Lock}
      (found : state.locks[index]? = some lock)
      (stage : lock.stage = .closingSemaphore)
      (shared : (state.locks.set index lock.closed).any fun other =>
        other.stage.semaphoreOpen) :
      Transition state (.call index) (state.setLock index lock.closed)
  | closeLast {index : Nat} {lock : Lock}
      (found : state.locks[index]? = some lock)
      (stage : lock.stage = .closingSemaphore)
      (last : ∀ other ∈ state.locks.set index lock.closed,
        other.stage.semaphoreOpen = false) :
      Transition state (.call index)
        { state.setLock index lock.closed with semaphore := none }
  | releaseMutex {index : Nat} {lock : Lock}
      (found : state.locks[index]? = some lock)
      (stage : lock.stage = .releasingMutex) :
      Transition state (.call index) (state.releaseMutex index lock)
  | closeMutex {index : Nat} {lock : Lock}
      (found : state.locks[index]? = some lock)
      (stage : lock.stage = .closingMutex) :
      Transition state (.call index)
        (state.setLock index { lock with stage := .destroyed })

theorem transition_of_call {state next : State} {index : Nat} {lock : Lock}
    (found : state.locks[index]? = some lock)
    (calls : call state index lock = some next) :
    Transition state (.call index) next := by
  unfold call at calls
  split at calls
  next stage =>
    cases calls
    exact .createMutex found stage
  next stage =>
    split at calls
    next available =>
      cases calls
      exact .waitMutex found stage available
    next => cases calls
  next stage =>
    cases calls
    unfold State.createSemaphore
    split
    next writer absent => exact .createForWriter found stage writer absent
    next reader absent => exact .createForReader found stage reader absent
    next count present => exact .openSemaphore found stage present
  next stage =>
    split at calls
    next count present =>
      cases calls
      exact .waitSemaphore found stage present
    next => cases calls
  next stage =>
    obtain ⟨count, present, rfl⟩ := Option.map_eq_some_iff.mp calls
    unfold State.releaseSemaphore
    cases count with
    | zero => exact .release found stage present
    | succ count =>
        rw [if_neg (by omega)]
        exact .releaseRefused found stage present
  next stage =>
    cases calls
    unfold State.closeSemaphore
    dsimp only
    split
    next shared => exact .close found stage shared
    next last =>
      exact .closeLast found stage (by simpa [State.setLock] using last)
  next stage =>
    cases calls
    exact .releaseMutex found stage
  next stage =>
    cases calls
    exact .closeMutex found stage
  next => cases calls
  next => cases calls
  next => cases calls

theorem transition_of_step {state next : State} {action : Action}
    (stepTo : step state action = some next) :
    Transition state action next := by
  cases action with
  | construct thread isWriteLock =>
      simp only [step] at stepTo
      split at stepTo
      next idle =>
        cases stepTo
        exact .construct idle
      next => cases stepTo
  | call index =>
      obtain ⟨lock, found, calls⟩ := Option.bind_eq_some_iff.mp stepTo
      exact transition_of_call found calls
  | fail index =>
      obtain ⟨lock, found, fails⟩ := Option.bind_eq_some_iff.mp stepTo
      simp only [Option.ite_none_right_eq_some, Option.some.injEq] at fails
      obtain ⟨constructing, rfl⟩ := fails
      exact .fail found constructing
  | destroy index =>
      obtain ⟨lock, found, starts⟩ := Option.bind_eq_some_iff.mp stepTo
      simp only [Option.ite_none_right_eq_some, Option.some.injEq] at starts
      obtain ⟨⟨held, idle⟩, rfl⟩ := starts
      exact .destroy found held idle

/-- The permits of a lock fit its stage. -/
structure Lock.Proper (lock : Lock) : Prop where
  closed : lock.stage.semaphoreOpen = false → lock.permits = 0
  held : lock.stage = .held → lock.permits = lock.wanted
  waiting : lock.stage = .waitingSemaphore → lock.permits < lock.wanted

theorem Lock.wanted_pos (lock : Lock) : 0 < lock.wanted := by
  unfold Lock.wanted
  split <;> decide

theorem Lock.proper_start (thread : Nat) (isWriteLock : Bool) :
    (Lock.start thread isWriteLock).Proper := by
  cases isWriteLock <;> constructor <;> simp [Lock.start]

theorem Lock.Proper.waitingSemaphore {lock : Lock} (proper : lock.Proper)
    (stage : lock.stage = .creatingSemaphore) :
    Lock.Proper { lock with stage := .waitingSemaphore } := by
  have none : lock.permits = 0 := proper.closed (by rw [stage]; rfl)
  refine ⟨nofun, nofun, fun _ => ?_⟩
  change lock.permits < lock.wanted
  rw [none]
  exact lock.wanted_pos

theorem Lock.Proper.takePermit {lock : Lock} (proper : lock.Proper)
    (stage : lock.stage = .waitingSemaphore) : lock.takePermit.Proper := by
  have below := proper.waiting stage
  unfold Lock.takePermit
  by_cases full : lock.permits + 1 = lock.wanted
  · simp only [full, if_true]
    exact ⟨nofun, fun _ => rfl, nofun⟩
  · simp only [full, if_false]
    refine ⟨nofun, nofun, fun _ => ?_⟩
    change lock.permits + 1 < lock.wanted
    omega

theorem Lock.proper_closed (lock : Lock) : lock.closed.Proper := by
  unfold Lock.closed
  cases lock.isWriteLock <;> constructor <;> simp

/-- Locks are proper, and the semaphore exists while one of them has a handle
to it. -/
structure StageInvariant (state : State) : Prop where
  proper : ∀ lock ∈ state.locks, lock.Proper
  present : ∀ lock ∈ state.locks, lock.stage.semaphoreOpen →
    state.semaphore.isSome

theorem stageInvariant_initial : StageInvariant initial where
  proper := nofun
  present := nofun

/-- One lock is replaced while the semaphore stays or comes into being. -/
theorem StageInvariant.replace {state next : State}
    (invariant : StageInvariant state) (index : Nat) (changed : Lock)
    (locks : next.locks = state.locks.set index changed)
    (proper : changed.Proper)
    (present : changed.stage.semaphoreOpen → next.semaphore.isSome)
    (stays : state.semaphore.isSome → next.semaphore.isSome) :
    StageInvariant next := by
  constructor
  · rw [locks]
    intro lock member
    rcases List.mem_or_eq_of_mem_set member with old | rfl
    · exact invariant.proper lock old
    · exact proper
  · rw [locks]
    intro lock member isOpen
    rcases List.mem_or_eq_of_mem_set member with old | rfl
    · exact stays (invariant.present lock old isOpen)
    · exact present isOpen

theorem StageInvariant.step {state next : State} {action : Action}
    (invariant : StageInvariant state)
    (stepTo : step state action = some next) : StageInvariant next := by
  cases transition_of_step stepTo with
  | @construct thread isWriteLock idle =>
      constructor
      · intro lock member
        rcases List.mem_append.mp member with old | new
        · exact invariant.proper lock old
        · rw [List.mem_singleton.mp new]
          exact Lock.proper_start thread isWriteLock
      · intro lock member isOpen
        rcases List.mem_append.mp member with old | new
        · exact invariant.present lock old isOpen
        · rw [List.mem_singleton.mp new] at isOpen
          cases isWriteLock <;> cases isOpen
  | @fail index lock found constructing =>
      have member := List.mem_of_getElem? found
      exact invariant.replace index _ rfl
        ⟨(invariant.proper lock member).closed, nofun, nofun⟩
        (invariant.present lock member) id
  | @destroy index lock found held idle =>
      have member := List.mem_of_getElem? found
      refine invariant.replace index _ rfl ⟨nofun, nofun, nofun⟩ ?_ id
      exact fun _ => invariant.present lock member (by rw [held]; rfl)
  | @createMutex index lock found stage =>
      have member := List.mem_of_getElem? found
      have none := (invariant.proper lock member).closed (by rw [stage]; rfl)
      exact invariant.replace index _ rfl ⟨fun _ => none, nofun, nofun⟩
        nofun id
  | @waitMutex index lock found stage available =>
      have member := List.mem_of_getElem? found
      have none := (invariant.proper lock member).closed (by rw [stage]; rfl)
      exact invariant.replace index _ rfl ⟨fun _ => none, nofun, nofun⟩
        nofun id
  | @createForWriter index lock found stage writer absent =>
      refine invariant.replace index _ rfl ⟨nofun, fun _ => ?_, nofun⟩
        (fun _ => rfl) (fun _ => rfl)
      simp [Lock.wanted, writer]
  | @createForReader index lock found stage reader absent =>
      have proper := invariant.proper lock (List.mem_of_getElem? found)
      exact invariant.replace index _ rfl (proper.waitingSemaphore stage)
        (fun _ => rfl) (fun _ => rfl)
  | @openSemaphore index lock count found stage present =>
      have proper := invariant.proper lock (List.mem_of_getElem? found)
      exact invariant.replace index _ rfl (proper.waitingSemaphore stage)
        (fun _ => by simp [State.setLock, present]) id
  | @waitSemaphore index lock count found stage present =>
      have proper := invariant.proper lock (List.mem_of_getElem? found)
      exact invariant.replace index _ rfl (proper.takePermit stage)
        (fun _ => rfl) (fun _ => rfl)
  | release found stage present =>
      exact invariant.replace _ _ rfl ⟨nofun, nofun, nofun⟩
        (fun _ => rfl) (fun _ => rfl)
  | releaseRefused found stage present =>
      exact invariant.replace _ _ rfl ⟨nofun, nofun, nofun⟩
        (fun _ => by simp [State.setLock, present]) id
  | @close index lock found stage shared =>
      refine invariant.replace index lock.closed rfl lock.proper_closed
        ?_ id
      intro isOpen
      exact invariant.present lock (List.mem_of_getElem? found)
        (by rw [stage]; rfl)
  | @closeLast index lock found stage last =>
      constructor
      · intro other member
        rcases List.mem_or_eq_of_mem_set member with old | rfl
        · exact invariant.proper other old
        · exact lock.proper_closed
      · intro other member isOpen
        rw [last other member] at isOpen
        cases isOpen
  | @releaseMutex index lock found stage =>
      have member := List.mem_of_getElem? found
      have none := (invariant.proper lock member).closed (by rw [stage]; rfl)
      exact invariant.replace index _ rfl ⟨fun _ => none, nofun, nofun⟩
        nofun id
  | @closeMutex index lock found stage =>
      have member := List.mem_of_getElem? found
      have none := (invariant.proper lock member).closed (by rw [stage]; rfl)
      exact invariant.replace index _ rfl ⟨fun _ => none, nofun, nofun⟩
        nofun id

end InterprocessLock

end IISModuleJS
