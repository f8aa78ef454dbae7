import IISModuleJS.InterprocessLock

/-!
# When the interprocess lock cannot get stuck

A writer needs all `IPCKV_MAX_LOCKS` permits of the semaphore.  The
destructor of a reader gives its permit back only if the count is zero;
otherwise its release is refused and the permit is lost when the handle is
closed, unless this was the last handle and the semaphore goes away with it.
A writer can then wait for a permit that nobody has.

This file proves that the lock is never stuck in runs in which no handle is
closed at the cost of a permit, and gives a run with a single reader and a
single writer that ends stuck.
-/

namespace IISModuleJS

namespace InterprocessLock

open ScheduledMachine ListWeight

/-- No lock is held or being destroyed, and some constructors wait for the
semaphore, none of which can go on. -/
structure Stuck (state : State) : Prop where
  notHeld : ∀ lock ∈ state.locks, lock.stage ≠ .held
  notDestructing : ∀ lock ∈ state.locks, lock.stage.destructing = false
  waiting : ∃ lock ∈ state.locks, lock.stage = .waitingSemaphore
  blocked : ∀ index lock, state.locks[index]? = some lock →
    lock.stage = .waitingSemaphore →
      InterprocessLock.step state (.call index) = none

/-- No constructor fails, and a destructor closes its semaphore handle only if
it is the last one, or if the count and the permits of the other locks still
add up to `IPCKV_MAX_LOCKS`. -/
def KeepsPermits (state : State) (action : Action) : Prop :=
  (∀ index, action ≠ .fail index) ∧
  ∀ index lock, action = .call index →
    state.locks[index]? = some lock → lock.stage = .closingSemaphore →
      (∀ other ∈ state.locks.set index lock.closed,
        other.stage.semaphoreOpen = false) ∨
      ∃ count, state.semaphore = some count ∧
        maxLocks ≤
          count + weight Lock.permits (state.locks.set index lock.closed)

/-- The stages that only write locks go through. -/
def Stage.usesMutex : Stage → Bool
  | .creatingMutex => true
  | .waitingMutex => true
  | .releasingMutex => true
  | .closingMutex => true
  | _ => false

/-- The lock has the mutex. -/
def Lock.ownsMutex (lock : Lock) : Bool :=
  lock.isWriteLock &&
    match lock.stage with
    | .creatingSemaphore => true
    | .waitingSemaphore => true
    | .held => true
    | .releasingSemaphore => true
    | .closingSemaphore => true
    | .releasingMutex => true
    | _ => false

/-- A thread is in at most one constructor or destructor. -/
def SingleBusy (state : State) : Prop :=
  ∀ (index other : Nat) (lock second : Lock),
    state.locks[index]? = some lock → state.locks[other]? = some second →
      lock.thread = second.thread → lock.stage.busy → second.stage.busy →
        index = other

theorem not_busy_of_idle {state : State} {thread : Nat}
    (idle : state.idle thread) {lock : Lock} (member : lock ∈ state.locks)
    (same : lock.thread = thread) : lock.stage.busy = false := by
  have all := List.all_eq_true.mp idle lock member
  simpa [same] using all

theorem SingleBusy.replace {state next : State}
    (single : SingleBusy state) {index : Nat} {lock : Lock}
    (changed : Lock) (found : state.locks[index]? = some lock)
    (locks : next.locks = state.locks.set index changed)
    (thread : changed.thread = lock.thread)
    (busy : lock.stage.busy ∨ state.idle lock.thread) :
    SingleBusy next := by
  have alone {other : Nat} {second : Lock}
      (otherFound : state.locks[other]? = some second)
      (same : second.thread = lock.thread)
      (otherBusy : second.stage.busy) : index = other := by
    rcases busy with lockBusy | idle
    · exact single index other lock second found otherFound same.symm
        lockBusy otherBusy
    · have quiet := not_busy_of_idle idle
        (List.mem_of_getElem? otherFound) same
      rw [quiet] at otherBusy
      cases otherBusy
  obtain ⟨bound, -⟩ := List.getElem?_eq_some_iff.mp found
  have changedAt {first : Lock}
      (lookup : (state.locks.set index changed)[index]? = some first) :
      first = changed := by
    simpa [List.getElem?_set_self bound, eq_comm] using lookup
  intro left right first second
  rw [locks]
  intro leftFound rightFound sameThread leftBusy rightBusy
  by_cases leftHere : left = index
  · by_cases rightHere : right = index
    · rw [leftHere, rightHere]
    · rw [leftHere] at leftFound ⊢
      rw [List.getElem?_set_ne (Ne.symm rightHere)] at rightFound
      rw [changedAt leftFound, thread] at sameThread
      exact alone rightFound sameThread.symm rightBusy
  · rw [List.getElem?_set_ne (Ne.symm leftHere)] at leftFound
    by_cases rightHere : right = index
    · rw [rightHere] at rightFound ⊢
      rw [changedAt rightFound, thread] at sameThread
      exact (alone leftFound sameThread leftBusy).symm
    · rw [List.getElem?_set_ne (Ne.symm rightHere)] at rightFound
      exact single left right first second leftFound rightFound sameThread
        leftBusy rightBusy

theorem SingleBusy.construct {state : State} (single : SingleBusy state)
    {thread : Nat} (isWriteLock : Bool) (idle : state.idle thread) :
    SingleBusy
      { state with locks := state.locks ++ [.start thread isWriteLock] } := by
  have cases {position : Nat} {lock : Lock}
      (found : (state.locks ++ [Lock.start thread isWriteLock])[position]? =
        some lock) :
      state.locks[position]? = some lock ∨
        (position = state.locks.length ∧ lock.thread = thread) := by
    rcases Nat.lt_or_ge position state.locks.length with inside | outside
    · rw [List.getElem?_append_left inside] at found
      exact .inl found
    · rw [List.getElem?_append_right outside] at found
      obtain ⟨bound, lookup⟩ := List.getElem?_eq_some_iff.mp found
      simp only [List.length_singleton] at bound
      right
      constructor
      · omega
      · simp only [List.getElem_singleton] at lookup
        rw [← lookup]
        rfl
  intro left right first second leftFound rightFound sameThread leftBusy
    rightBusy
  rcases cases leftFound with leftOld | ⟨leftNew, leftThread⟩
  · rcases cases rightFound with rightOld | ⟨rightNew, rightThread⟩
    · exact single left right first second leftOld rightOld sameThread
        leftBusy rightBusy
    · have quiet := not_busy_of_idle idle (List.mem_of_getElem? leftOld)
        (sameThread.trans rightThread)
      simp [quiet] at leftBusy
  · rcases cases rightFound with rightOld | ⟨rightNew, rightThread⟩
    · have quiet := not_busy_of_idle idle (List.mem_of_getElem? rightOld)
        (sameThread.symm.trans leftThread)
      simp [quiet] at rightBusy
    · omega

theorem SingleBusy.step {state next : State} {action : Action}
    (single : SingleBusy state)
    (stepTo : InterprocessLock.step state action = some next) :
    SingleBusy next := by
  cases transition_of_step stepTo with
  | construct idle => exact single.construct _ idle
  | fail found constructing =>
      exact single.replace _ found rfl rfl
        (.inl (by simp [Stage.busy, constructing]))
  | destroy found held idle =>
      exact single.replace _ found rfl rfl (.inr idle)
  | createMutex found stage =>
      exact single.replace _ found rfl rfl (.inl (by rw [stage]; rfl))
  | waitMutex found stage available =>
      exact single.replace _ found rfl rfl (.inl (by rw [stage]; rfl))
  | createForWriter found stage writer absent =>
      exact single.replace _ found rfl rfl (.inl (by rw [stage]; rfl))
  | createForReader found stage reader absent =>
      exact single.replace _ found rfl rfl (.inl (by rw [stage]; rfl))
  | openSemaphore found stage present =>
      exact single.replace _ found rfl rfl (.inl (by rw [stage]; rfl))
  | waitSemaphore found stage present =>
      exact single.replace _ found rfl rfl (.inl (by rw [stage]; rfl))
  | release found stage present =>
      exact single.replace _ found rfl rfl (.inl (by rw [stage]; rfl))
  | releaseRefused found stage present =>
      exact single.replace _ found rfl rfl (.inl (by rw [stage]; rfl))
  | close found stage shared =>
      exact single.replace _ found rfl rfl (.inl (by rw [stage]; rfl))
  | closeLast found stage last =>
      exact single.replace _ found rfl rfl (.inl (by rw [stage]; rfl))
  | releaseMutex found stage =>
      exact single.replace _ found rfl rfl (.inl (by rw [stage]; rfl))
  | closeMutex found stage =>
      exact single.replace _ found rfl rfl (.inl (by rw [stage]; rfl))

/-- The mutex is owned by the thread of every lock that has it, as many times
as there are such locks.  Constructors do not fail. -/
structure MutexInvariant (state : State) : Prop where
  writers : ∀ lock ∈ state.locks, lock.stage.usesMutex →
    lock.isWriteLock = true
  depth : state.mutexDepth = state.locks.countP Lock.ownsMutex
  owner : ∀ lock ∈ state.locks, lock.ownsMutex →
    state.mutexOwner = some lock.thread
  noFailure : ∀ lock ∈ state.locks, ∀ isOpen,
    lock.stage ≠ .thrown isOpen

theorem mutexInvariant_initial : MutexInvariant initial where
  writers := nofun
  depth := rfl
  owner := nofun
  noFailure := nofun

/-- A lock is replaced by one that has the mutex if and only if it had it. -/
theorem MutexInvariant.replace {state next : State}
    (invariant : MutexInvariant state) {index : Nat} {lock : Lock}
    (changed : Lock) (found : state.locks[index]? = some lock)
    (locks : next.locks = state.locks.set index changed)
    (mutexOwner : next.mutexOwner = state.mutexOwner)
    (mutexDepth : next.mutexDepth = state.mutexDepth)
    (thread : changed.thread = lock.thread)
    (writers : changed.stage.usesMutex → changed.isWriteLock = true)
    (owns : changed.ownsMutex = lock.ownsMutex)
    (noFailure : ∀ isOpen, changed.stage ≠ .thrown isOpen) :
    MutexInvariant next := by
  have member := List.mem_of_getElem? found
  constructor
  · rw [locks]
    intro other otherMember
    rcases List.mem_or_eq_of_mem_set otherMember with old | rfl
    · exact invariant.writers other old
    · exact writers
  · have replaced := countP_set_add Lock.ownsMutex found changed
    have before := invariant.depth
    rw [owns] at replaced
    rw [locks, mutexDepth]
    omega
  · rw [locks, mutexOwner]
    intro other otherMember
    rcases List.mem_or_eq_of_mem_set otherMember with old | rfl
    · exact invariant.owner other old
    · rw [owns, thread]
      exact invariant.owner lock member
  · rw [locks]
    intro other otherMember
    rcases List.mem_or_eq_of_mem_set otherMember with old | rfl
    · exact invariant.noFailure other old
    · exact noFailure

theorem MutexInvariant.waitMutex {state : State}
    (invariant : MutexInvariant state) {index : Nat} {lock : Lock}
    (found : state.locks[index]? = some lock)
    (stage : lock.stage = .waitingMutex)
    (available :
      state.mutexOwner = none ∨ state.mutexOwner = some lock.thread) :
    MutexInvariant
      { state.setLock index { lock with stage := .creatingSemaphore } with
        mutexOwner := some lock.thread
        mutexDepth := state.mutexDepth + 1 } := by
  have member := List.mem_of_getElem? found
  have writer := invariant.writers lock member (by rw [stage]; rfl)
  constructor
  · intro other otherMember
    rcases List.mem_or_eq_of_mem_set otherMember with old | rfl
    · exact invariant.writers other old
    · exact fun _ => writer
  · have replaced := countP_set_add Lock.ownsMutex found
      { lock with stage := .creatingSemaphore }
    have before : lock.ownsMutex = false := by
      simp [Lock.ownsMutex, stage]
    have after : Lock.ownsMutex
        { lock with stage := .creatingSemaphore } = true := by
      simp [Lock.ownsMutex, writer]
    rw [before, after, ← invariant.depth] at replaced
    exact replaced.symm
  · intro other otherMember owns
    rcases List.mem_or_eq_of_mem_set otherMember with old | rfl
    · have owner := invariant.owner other old owns
      rcases available with free | mine
      · simp [free] at owner
      · exact mine.symm.trans owner
    · rfl
  · intro other otherMember
    rcases List.mem_or_eq_of_mem_set otherMember with old | rfl
    · exact invariant.noFailure other old
    · exact nofun

theorem MutexInvariant.releaseMutex {state : State}
    (invariant : MutexInvariant state) {index : Nat} {lock : Lock}
    (found : state.locks[index]? = some lock)
    (stage : lock.stage = .releasingMutex) :
    MutexInvariant (state.releaseMutex index lock) := by
  have member := List.mem_of_getElem? found
  have writer := invariant.writers lock member (by rw [stage]; rfl)
  have before : lock.ownsMutex = true := by
    simp [Lock.ownsMutex, stage, writer]
  have after : Lock.ownsMutex { lock with stage := .closingMutex } =
      false := by
    simp [Lock.ownsMutex]
  have replaced := countP_set_add Lock.ownsMutex found
    { lock with stage := .closingMutex }
  rw [before, after, ← invariant.depth] at replaced
  constructor
  · intro other otherMember
    rcases List.mem_or_eq_of_mem_set otherMember with old | rfl
    · exact invariant.writers other old
    · exact fun _ => writer
  · change state.mutexDepth - 1 = _
    exact (Nat.eq_sub_of_add_eq replaced).symm
  · intro other otherMember owns
    have different : state.mutexDepth ≠ 1 := by
      intro single
      rw [single] at replaced
      have none := Nat.succ.inj replaced
      have some := List.countP_pos_iff.mpr ⟨other, otherMember, owns⟩
      change 0 < (state.locks.set index _).countP _ at some
      omega
    change (if state.mutexDepth = 1 then none else state.mutexOwner) = _
    rw [if_neg different]
    rcases List.mem_or_eq_of_mem_set otherMember with old | rfl
    · exact invariant.owner other old owns
    · exact invariant.owner lock member before
  · intro other otherMember
    rcases List.mem_or_eq_of_mem_set otherMember with old | rfl
    · exact invariant.noFailure other old
    · exact nofun

theorem MutexInvariant.construct {state : State}
    (invariant : MutexInvariant state) (thread : Nat)
    (isWriteLock : Bool) :
    MutexInvariant
      { state with locks := state.locks ++ [.start thread isWriteLock] } := by
  have unowned : (Lock.start thread isWriteLock).ownsMutex = false := by
    cases isWriteLock <;> rfl
  constructor
  · intro lock member
    rcases List.mem_append.mp member with old | new
    · exact invariant.writers lock old
    · rw [List.mem_singleton.mp new]
      cases isWriteLock
      · nofun
      · exact fun _ => rfl
  · simpa [List.countP_append, unowned] using invariant.depth
  · intro lock member owns
    rcases List.mem_append.mp member with old | new
    · exact invariant.owner lock old owns
    · rw [List.mem_singleton.mp new, unowned] at owns
      cases owns
  · intro lock member
    rcases List.mem_append.mp member with old | new
    · exact invariant.noFailure lock old
    · rw [List.mem_singleton.mp new]
      cases isWriteLock <;> nofun

theorem ownsMutex_takePermit {lock : Lock}
    (stage : lock.stage = .waitingSemaphore) :
    lock.takePermit.ownsMutex = lock.ownsMutex := by
  unfold Lock.takePermit Lock.ownsMutex
  by_cases full : lock.permits + 1 = lock.wanted <;> simp [full, stage]

theorem ownsMutex_closed {lock : Lock}
    (stage : lock.stage = .closingSemaphore) :
    lock.closed.ownsMutex = lock.ownsMutex := by
  unfold Lock.closed Lock.ownsMutex
  cases lock.isWriteLock <;> simp [stage]

theorem MutexInvariant.close {state next : State}
    (invariant : MutexInvariant state) {index : Nat} {lock : Lock}
    (found : state.locks[index]? = some lock)
    (stage : lock.stage = .closingSemaphore)
    (locks : next.locks = state.locks.set index lock.closed)
    (mutexOwner : next.mutexOwner = state.mutexOwner)
    (mutexDepth : next.mutexDepth = state.mutexDepth) :
    MutexInvariant next := by
  refine invariant.replace lock.closed found locks mutexOwner mutexDepth rfl
    ?_ (ownsMutex_closed stage) ?_
  · unfold Lock.closed
    cases lock.isWriteLock <;> simp [Stage.usesMutex]
  · unfold Lock.closed
    cases lock.isWriteLock <;> simp

theorem MutexInvariant.step {state next : State} {action : Action}
    (invariant : MutexInvariant state)
    (noFailure : ∀ index, action ≠ .fail index)
    (stepTo : InterprocessLock.step state action = some next) :
    MutexInvariant next := by
  cases transition_of_step stepTo with
  | construct idle => exact invariant.construct _ _
  | @fail index lock found constructing => exact (noFailure index rfl).elim
  | destroy found held idle =>
      exact invariant.replace _ found rfl rfl rfl rfl nofun
        (by simp [Lock.ownsMutex, held]) nofun
  | @createMutex index lock found stage =>
      have writer := invariant.writers lock (List.mem_of_getElem? found)
        (by rw [stage]; rfl)
      exact invariant.replace _ found rfl rfl rfl rfl (fun _ => writer)
        (by simp [Lock.ownsMutex, stage]) nofun
  | waitMutex found stage available =>
      exact invariant.waitMutex found stage available
  | createForWriter found stage writer absent =>
      exact invariant.replace _ found rfl rfl rfl rfl nofun
        (by simp [Lock.ownsMutex, stage]) nofun
  | createForReader found stage reader absent =>
      exact invariant.replace _ found rfl rfl rfl rfl nofun
        (by simp [Lock.ownsMutex, stage]) nofun
  | openSemaphore found stage present =>
      exact invariant.replace _ found rfl rfl rfl rfl nofun
        (by simp [Lock.ownsMutex, stage]) nofun
  | @waitSemaphore index lock count found stage present =>
      refine invariant.replace lock.takePermit found rfl rfl rfl rfl ?_
        (ownsMutex_takePermit stage) ?_
      · unfold Lock.takePermit
        split <;> nofun
      · unfold Lock.takePermit
        split <;> nofun
  | release found stage present =>
      exact invariant.replace _ found rfl rfl rfl rfl nofun
        (by simp [Lock.ownsMutex, stage]) nofun
  | releaseRefused found stage present =>
      exact invariant.replace _ found rfl rfl rfl rfl nofun
        (by simp [Lock.ownsMutex, stage]) nofun
  | close found stage shared => exact invariant.close found stage rfl rfl rfl
  | closeLast found stage last => exact invariant.close found stage rfl rfl rfl
  | releaseMutex found stage => exact invariant.releaseMutex found stage
  | closeMutex found stage =>
      exact invariant.replace _ found rfl rfl rfl rfl nofun
        (by simp [Lock.ownsMutex, stage]) nofun

/-- The permits of all locks and the free ones are not fewer than
`IPCKV_MAX_LOCKS`. -/
def EnoughPermits (state : State) : Prop :=
  ∀ count, state.semaphore = some count →
    maxLocks ≤ count + weight Lock.permits state.locks

theorem EnoughPermits.replace {state next : State}
    (enough : EnoughPermits state) {index : Nat} {lock : Lock}
    (changed : Lock) (found : state.locks[index]? = some lock)
    (locks : next.locks = state.locks.set index changed)
    (semaphore : next.semaphore = state.semaphore)
    (permits : changed.permits = lock.permits) : EnoughPermits next := by
  intro count present
  rw [semaphore] at present
  have before := enough count present
  have replaced := weight_set Lock.permits found changed
  rw [locks]
  omega

theorem EnoughPermits.step {state next : State} {action : Action}
    (enough : EnoughPermits state) (keeps : KeepsPermits state action)
    (stepTo : InterprocessLock.step state action = some next) :
    EnoughPermits next := by
  cases transition_of_step stepTo with
  | construct idle =>
      intro count present
      have before := enough count present
      simp only [weight_append]
      omega
  | fail found constructing => exact enough.replace _ found rfl rfl rfl
  | destroy found held idle => exact enough.replace _ found rfl rfl rfl
  | createMutex found stage => exact enough.replace _ found rfl rfl rfl
  | waitMutex found stage available =>
      exact enough.replace _ found rfl rfl rfl
  | @createForWriter index lock found stage writer absent =>
      intro count present
      cases present
      have created := weight_set Lock.permits found
        { lock with stage := .held, permits := maxLocks }
      have included := le_weight Lock.permits found
      simp only [State.setLock]
      simp only at created
      omega
  | createForReader found stage reader absent =>
      intro count present
      cases present
      omega
  | openSemaphore found stage present =>
      exact enough.replace _ found rfl rfl rfl
  | @waitSemaphore index lock count found stage present =>
      intro rest restEq
      cases restEq
      have before := enough (count + 1) present
      have replaced := weight_set Lock.permits found lock.takePermit
      have taken : lock.takePermit.permits = lock.permits + 1 := rfl
      simp only [State.setLock]
      omega
  | release found stage present =>
      intro count countEq
      cases countEq
      omega
  | releaseRefused found stage present =>
      exact enough.replace _ found rfl rfl rfl
  | @close index lock found stage shared =>
      intro count present
      rcases keeps.2 index lock rfl found stage with
        last | ⟨before, counted, kept⟩
      · obtain ⟨other, member, isOpen⟩ := List.any_eq_true.mp shared
        rw [last other member] at isOpen
        cases isOpen
      · have same : before = count :=
          Option.some.inj (counted.symm.trans present)
        rw [← same]
        exact kept
  | closeLast found stage last =>
      intro count present
      cases present
  | releaseMutex found stage => exact enough.replace _ found rfl rfl rfl
  | closeMutex found stage => exact enough.replace _ found rfl rfl rfl

structure ProgressInvariant (state : State) : Prop where
  stages : StageInvariant state
  single : SingleBusy state
  mutex : MutexInvariant state
  enough : EnoughPermits state

theorem progressInvariant_initial : ProgressInvariant initial where
  stages := stageInvariant_initial
  single := nofun
  mutex := mutexInvariant_initial
  enough := nofun

/-- Without held locks and destructors, only a waiting writer has permits. -/
theorem waiting_of_permits {state : State} (stuck : Stuck state)
    (stages : StageInvariant state) (mutex : MutexInvariant state)
    {lock : Lock} (member : lock ∈ state.locks) (some : lock.permits ≠ 0) :
    lock.stage = .waitingSemaphore ∧ lock.isWriteLock = true := by
  have proper := stages.proper lock member
  have notHeld := stuck.notHeld lock member
  have notDestructing := stuck.notDestructing lock member
  have noFailure := mutex.noFailure lock member
  have waiting : lock.stage = .waitingSemaphore := by
    by_contra other
    apply some
    apply proper.closed
    cases stage : lock.stage <;> simp_all [Stage.semaphoreOpen,
      Stage.destructing]
  refine ⟨waiting, ?_⟩
  by_contra reader
  have below := proper.waiting waiting
  have one : lock.wanted = 1 := by simp [Lock.wanted, reader]
  omega

theorem ProgressInvariant.not_stuck {state : State}
    (invariant : ProgressInvariant state) : ¬ Stuck state := by
  intro stuck
  obtain ⟨waiter, member, waiting⟩ := stuck.waiting
  have present := invariant.stages.present waiter member
    (by rw [waiting]; rfl)
  obtain ⟨count, semaphore⟩ := Option.isSome_iff_exists.mp present
  have noPermits : count = 0 := by
    cases count with
    | zero => rfl
    | succ count =>
        obtain ⟨index, found⟩ := List.mem_iff_getElem?.mp member
        have blocked := stuck.blocked index waiter found waiting
        simp [InterprocessLock.step, found, call, waiting, semaphore]
          at blocked
  have enough := invariant.enough count semaphore
  have few : weight Lock.permits state.locks < maxLocks := by
    apply weight_lt_of_unique (by decide)
    · intro lock lockMember
      by_cases none : lock.permits = 0
      · rw [none]
        decide
      · have stage := waiting_of_permits stuck invariant.stages
          invariant.mutex lockMember none
        have below :=
          (invariant.stages.proper lock lockMember).waiting stage.1
        simpa [Lock.wanted, stage.2] using below
    · intro index other lock second found otherFound some otherSome
      have lockMember := List.mem_of_getElem? found
      have secondMember := List.mem_of_getElem? otherFound
      have first := waiting_of_permits stuck invariant.stages
        invariant.mutex lockMember some
      have last := waiting_of_permits stuck invariant.stages
        invariant.mutex secondMember otherSome
      have firstOwner := invariant.mutex.owner lock lockMember
        (by simp [Lock.ownsMutex, first])
      have lastOwner := invariant.mutex.owner second secondMember
        (by simp [Lock.ownsMutex, last])
      have sameThread : lock.thread = second.thread := by
        rw [firstOwner] at lastOwner
        exact Option.some.inj lastOwner
      exact invariant.single index other lock second found otherFound
        sameThread (by rw [first.1]; rfl) (by rw [last.1]; rfl)
  omega

/-- In every run without failures in which no closing of a handle costs a
permit, the lock is never stuck. -/
theorem not_stuck_of_keepsPermits {schedule : List Action} {final : State}
    (respects : Respects InterprocessLock.step KeepsPermits initial schedule)
    (runs : run InterprocessLock.step initial schedule = some final) :
    ¬ Stuck final := by
  have invariant : ProgressInvariant final :=
    invariant_of_respects
      (fun _ _ _ holds keeps stepTo =>
        ⟨holds.stages.step stepTo, holds.single.step stepTo,
          holds.mutex.step keeps.1 stepTo, holds.enough.step keeps stepTo⟩)
      progressInvariant_initial respects runs
  exact invariant.not_stuck

theorem keepsPermits_of_stage {state : State} {index : Nat} {lock : Lock}
    (found : state.locks[index]? = some lock)
    (stage : lock.stage ≠ .closingSemaphore) :
    KeepsPermits state (.call index) := by
  refine ⟨nofun, ?_⟩
  rintro other second same otherFound closing
  cases same
  rw [found] at otherFound
  cases otherFound
  exact (stage closing).elim

/-- A reader leaves before a writer arrives. -/
def readerThenWriter : List Action :=
  [.construct 0 false, .call 0, .call 0, .destroy 0, .call 0, .call 0,
    .construct 1 true, .call 1, .call 1, .call 1]

theorem not_stuck_readerThenWriter :
    ∃ final, run InterprocessLock.step initial readerThenWriter =
        some final ∧ ¬ Stuck final := by
  have respects : Respects InterprocessLock.step KeepsPermits initial
      readerThenWriter :=
    respects_cons ⟨nofun, nofun⟩ rfl <|
    respects_cons (keepsPermits_of_stage rfl nofun) rfl <|
    respects_cons (keepsPermits_of_stage rfl nofun) rfl <|
    respects_cons ⟨nofun, nofun⟩ rfl <|
    respects_cons (keepsPermits_of_stage rfl nofun) rfl <|
    respects_cons
      ⟨nofun, fun _ _ same found _ => by
        cases same
        cases found
        exact .inl (by decide)⟩ rfl <|
    respects_cons ⟨nofun, nofun⟩ rfl <|
    respects_cons (keepsPermits_of_stage rfl nofun) rfl <|
    respects_cons (keepsPermits_of_stage rfl nofun) rfl <|
    respects_cons (keepsPermits_of_stage rfl nofun) rfl trivial
  have reached : ∃ final,
      run InterprocessLock.step initial readerThenWriter = some final :=
    ⟨_, rfl⟩
  obtain ⟨final, runs⟩ := reached
  exact ⟨final, runs, not_stuck_of_keepsPermits respects runs⟩

/-- A reader leaves while a writer collects the permits: its release is
refused, and the writer waits for the last permit forever. -/
def lostPermit : List Action :=
  [.construct 0 false, .call 0, .call 0,
    .construct 1 true, .call 1, .call 1, .call 1] ++
  List.replicate 20 (.call 1) ++
  [.destroy 0, .call 0, .call 0] ++
  List.replicate 3 (.call 1)

theorem lostPermit_gets_stuck :
    ∃ final, run InterprocessLock.step initial lostPermit = some final ∧
      Stuck final := by
  refine ⟨⟨some 0, some 1, 1, [⟨0, false, .destroyed, 0⟩,
    ⟨1, true, .waitingSemaphore, 23⟩]⟩, by decide, ?_⟩
  refine ⟨by decide, by decide, by decide, ?_⟩
  intro index lock found waiting
  match index, found with
  | 0, found =>
      cases found
      cases waiting
  | 1, found => rfl
  | _ + 2, found => cases found

end InterprocessLock

end IISModuleJS
