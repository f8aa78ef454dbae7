import IISModuleJS.InterprocessLock

/-!
# When a write lock excludes all other locks

A lock that is held has its permits, and a writer has all of them, so the lock
is exclusive as long as there are never more permits than `IPCKV_MAX_LOCKS`.
The destructor of a reader puts this at risk: like that of a writer it
releases all permits, although it took only one.  The release is refused
unless the count is zero; if the count is zero while other locks hold the
remaining permits, permits are made up out of nothing.

This file proves mutual exclusion for all runs in which a release on a zero
count never meets another lock with permits, and gives a run in which it does
and a reader joins a writer.
-/

namespace IISModuleJS

namespace InterprocessLock

open ScheduledMachine ListWeight

/-- While a write lock is held, no other lock is held. -/
def MutualExclusion (state : State) : Prop :=
  ∀ (index other : Nat) (lock second : Lock),
    state.locks[index]? = some lock → state.locks[other]? = some second →
      index ≠ other → lock.isWriteLock = true → lock.stage = .held →
        second.stage ≠ .held

/-- The permits of a lock that has not entered its destructor. -/
def Lock.livePermits (lock : Lock) : Nat :=
  if lock.stage.destructing then 0 else lock.permits

/-- A destructor that calls `ReleaseSemaphore` on a zero count is alone: no
other lock is held or has taken permits in its constructor. -/
def ReleasesAlone (state : State) (action : Action) : Prop :=
  ∀ index lock, action = .call index →
    state.locks[index]? = some lock → lock.stage = .releasingSemaphore →
      state.semaphore = some 0 →
        ∀ other ∈ state.locks, other.livePermits = 0

/-- There are not more permits than `IPCKV_MAX_LOCKS`. -/
def WithinPermits (state : State) : Prop :=
  ∀ count, state.semaphore = some count →
    count + weight Lock.livePermits state.locks ≤ maxLocks

structure PermitBound (state : State) : Prop where
  stages : StageInvariant state
  bound : WithinPermits state

theorem permitBound_initial : PermitBound initial where
  stages := stageInvariant_initial
  bound := nofun

/-- Without a semaphore nobody has permits. -/
theorem StageInvariant.weight_of_absent {state : State}
    (stages : StageInvariant state) (absent : state.semaphore = none) :
    weight Lock.livePermits state.locks = 0 := by
  apply weight_eq_zero
  intro lock member
  unfold Lock.livePermits
  split
  · rfl
  · apply (stages.proper lock member).closed
    by_contra isOpen
    have present := stages.present lock member (by simpa using isOpen)
    simp [absent] at present

/-- A lock is replaced by one with no more permits. -/
theorem PermitBound.shrink {state next : State}
    (invariant : PermitBound state) {index : Nat} {lock : Lock}
    (changed : Lock) (found : state.locks[index]? = some lock)
    (locks : next.locks = state.locks.set index changed)
    (semaphore : next.semaphore = state.semaphore)
    (fewer : changed.livePermits ≤ lock.livePermits) :
    WithinPermits next := by
  intro count present
  rw [semaphore] at present
  have before := invariant.bound count present
  have replaced := weight_set Lock.livePermits found changed
  rw [locks]
  omega

theorem livePermits_start (thread : Nat) (isWriteLock : Bool) :
    (Lock.start thread isWriteLock).livePermits = 0 := by
  cases isWriteLock <;> rfl

theorem livePermits_of_constructing {lock : Lock}
    (constructing : lock.stage.constructing) :
    lock.livePermits = lock.permits := by
  unfold Lock.livePermits
  cases stage : lock.stage <;> simp_all [Stage.constructing,
    Stage.destructing]

theorem livePermits_setStage {lock : Lock} {stage : Stage}
    (before : lock.stage.constructing) (after : stage.constructing) :
    Lock.livePermits { lock with stage := stage } = lock.livePermits := by
  rw [livePermits_of_constructing before, livePermits_of_constructing after]

theorem livePermits_takePermit (lock : Lock) :
    lock.takePermit.livePermits = lock.permits + 1 := by
  unfold Lock.livePermits Lock.takePermit
  by_cases full : lock.permits + 1 = lock.wanted <;>
    simp [full, Stage.destructing]

theorem livePermits_closed (lock : Lock) : lock.closed.livePermits = 0 := by
  unfold Lock.livePermits
  split <;> rfl

/-- A step keeps the bound; only a release on a zero count needs the
condition. -/
theorem PermitBound.step {state next : State} {action : Action}
    (invariant : PermitBound state)
    (alone : ReleasesAlone state action)
    (stepTo : step state action = some next) : PermitBound next := by
  refine ⟨invariant.stages.step stepTo, ?_⟩
  cases transition_of_step stepTo with
  | @construct thread isWriteLock idle =>
      intro count present
      have before := invariant.bound count present
      simp only [weight_append, weight_cons, weight_nil,
        livePermits_start]
      omega
  | @fail index lock found constructing =>
      refine invariant.shrink _ found rfl rfl ?_
      rw [livePermits_of_constructing constructing]
      exact Nat.le_refl _
  | destroy found held idle =>
      exact invariant.shrink _ found rfl rfl (Nat.zero_le _)
  | @createMutex index lock found stage =>
      refine invariant.shrink _ found rfl rfl (Nat.le_of_eq ?_)
      exact livePermits_setStage (by rw [stage]; rfl) rfl
  | @waitMutex index lock found stage available =>
      refine invariant.shrink { lock with stage := .creatingSemaphore }
        found rfl rfl (Nat.le_of_eq ?_)
      exact livePermits_setStage (by rw [stage]; rfl) rfl
  | @createForWriter index lock found stage writer absent =>
      intro count present
      cases present
      have none := invariant.stages.weight_of_absent absent
      have replaced := weight_set Lock.livePermits found
        { lock with stage := .held, permits := maxLocks }
      have all : Lock.livePermits
          { lock with stage := .held, permits := maxLocks } = maxLocks :=
        rfl
      simp only [State.setLock]
      omega
  | @createForReader index lock found stage reader absent =>
      intro count present
      cases present
      have none := invariant.stages.weight_of_absent absent
      have replaced := weight_set Lock.livePermits found
        { lock with stage := .waitingSemaphore }
      have same : Lock.livePermits { lock with stage := .waitingSemaphore } =
          lock.livePermits :=
        livePermits_setStage (by rw [stage]; rfl) rfl
      simp only [State.setLock]
      omega
  | @openSemaphore index lock count found stage present =>
      refine invariant.shrink _ found rfl rfl (Nat.le_of_eq ?_)
      exact livePermits_setStage (by rw [stage]; rfl) rfl
  | @waitSemaphore index lock count found stage present =>
      intro rest restEq
      cases restEq
      have before := invariant.bound (count + 1) present
      have replaced := weight_set Lock.livePermits found lock.takePermit
      rw [livePermits_takePermit,
        livePermits_of_constructing (by rw [stage]; rfl)] at replaced
      simp only [State.setLock]
      omega
  | @release index lock found stage present =>
      intro count countEq
      cases countEq
      have none : weight Lock.livePermits state.locks = 0 :=
        weight_eq_zero (alone index lock rfl found stage present)
      have replaced := weight_set Lock.livePermits found
        { lock with stage := .closingSemaphore, permits := 0 }
      have released : Lock.livePermits
          { lock with stage := .closingSemaphore, permits := 0 } = 0 :=
        rfl
      simp only [State.setLock]
      omega
  | releaseRefused found stage present =>
      exact invariant.shrink _ found rfl rfl (Nat.zero_le _)
  | @close index lock found stage shared =>
      refine invariant.shrink _ found rfl rfl ?_
      rw [livePermits_closed]
      exact Nat.zero_le _
  | closeLast found stage last =>
      intro count present
      cases present
  | releaseMutex found stage =>
      exact invariant.shrink _ found rfl rfl (Nat.zero_le _)
  | @closeMutex index lock found stage =>
      refine invariant.shrink _ found rfl rfl ?_
      have proper :=
        invariant.stages.proper lock (List.mem_of_getElem? found)
      have none : lock.permits = 0 := proper.closed (by rw [stage]; rfl)
      simp [Lock.livePermits, none]

theorem Lock.Proper.livePermits_held {lock : Lock} (proper : lock.Proper)
    (held : lock.stage = .held) : lock.livePermits = lock.wanted := by
  rw [← proper.held held]
  simp [Lock.livePermits, held, Stage.destructing]

theorem PermitBound.mutualExclusion {state : State}
    (invariant : PermitBound state) : MutualExclusion state := by
  intro index other lock second found otherFound different writer held
    otherHeld
  have member := List.mem_of_getElem? found
  have present := invariant.stages.present lock member (by rw [held]; rfl)
  obtain ⟨count, semaphore⟩ := Option.isSome_iff_exists.mp present
  have bound := invariant.bound count semaphore
  have both :=
    add_le_weight Lock.livePermits found otherFound different
  rw [(invariant.stages.proper lock member).livePermits_held held,
    (invariant.stages.proper second
      (List.mem_of_getElem? otherFound)).livePermits_held otherHeld] at both
  have all : lock.wanted = maxLocks := by
    simp [Lock.wanted, writer]
  have some := second.wanted_pos
  omega

/-- In every run in which destructors release on a zero count only when no
other lock has permits, a write lock excludes all other locks. -/
theorem mutualExclusion_of_releasesAlone {schedule : List Action}
    {final : State}
    (respects : Respects InterprocessLock.step ReleasesAlone initial schedule)
    (runs : run InterprocessLock.step initial schedule = some final) :
    MutualExclusion final := by
  have invariant : PermitBound final :=
    invariant_of_respects
      (fun _ _ _ holds alone stepTo => holds.step alone stepTo)
      permitBound_initial respects runs
  exact invariant.mutualExclusion

/-- A writer, and after it a second one. -/
def writerThenWriter : List Action :=
  [.construct 0 true, .call 0, .call 0, .call 0, .destroy 0,
    .call 0, .call 0, .call 0, .call 0,
    .construct 1 true, .call 1, .call 1, .call 1]

theorem releasesAlone_of_stage {state : State} {index : Nat} {lock : Lock}
    (found : state.locks[index]? = some lock)
    (stage : lock.stage ≠ .releasingSemaphore) :
    ReleasesAlone state (.call index) := by
  rintro other second same otherFound releasing
  cases same
  rw [found] at otherFound
  cases otherFound
  exact (stage releasing).elim

theorem mutualExclusion_writerThenWriter :
    ∃ final, run InterprocessLock.step initial writerThenWriter =
        some final ∧
      (∃ lock ∈ final.locks, lock.isWriteLock = true ∧ lock.stage = .held) ∧
      MutualExclusion final := by
  have reached : ∃ final,
      run InterprocessLock.step initial writerThenWriter = some final ∧
        ∃ lock ∈ final.locks, lock.isWriteLock = true ∧ lock.stage = .held :=
    ⟨_, rfl, by decide⟩
  have respects : Respects InterprocessLock.step ReleasesAlone initial
      writerThenWriter :=
    respects_cons nofun rfl <|
    respects_cons (releasesAlone_of_stage rfl nofun) rfl <|
    respects_cons (releasesAlone_of_stage rfl nofun) rfl <|
    respects_cons (releasesAlone_of_stage rfl nofun) rfl <|
    respects_cons nofun rfl <|
    respects_cons (fun _ _ _ _ _ _ => by decide) rfl <|
    respects_cons (releasesAlone_of_stage rfl nofun) rfl <|
    respects_cons (releasesAlone_of_stage rfl nofun) rfl <|
    respects_cons (releasesAlone_of_stage rfl nofun) rfl <|
    respects_cons nofun rfl <|
    respects_cons (releasesAlone_of_stage rfl nofun) rfl <|
    respects_cons (releasesAlone_of_stage rfl nofun) rfl <|
    respects_cons (releasesAlone_of_stage rfl nofun) rfl trivial
  obtain ⟨final, runs, held⟩ := reached
  exact ⟨final, runs, held, mutualExclusion_of_releasesAlone respects runs⟩

/-- Two readers leave while a writer collects the permits: the release of the
first one is refused, that of the second one happens on a zero count and gives
back more permits than it had. -/
def overRelease : List Action :=
  [.construct 0 false, .call 0, .call 0,
    .construct 1 false, .call 1, .call 1,
    .construct 2 true, .call 2, .call 2, .call 2,
    .destroy 0, .call 0, .call 0] ++
  List.replicate 22 (.call 2) ++
  [.destroy 1, .call 1, .call 1] ++
  List.replicate 2 (.call 2) ++
  [.construct 3 false, .call 3, .call 3]

theorem overRelease_breaks_exclusion :
    ∃ final, run InterprocessLock.step initial overRelease = some final ∧
      ¬ MutualExclusion final := by
  refine ⟨_, rfl, fun exclusive => ?_⟩
  exact exclusive 2 3 ⟨2, true, .held, 24⟩ ⟨3, false, .held, 1⟩ rfl rfl
    (by decide) rfl rfl rfl

end InterprocessLock

end IISModuleJS
