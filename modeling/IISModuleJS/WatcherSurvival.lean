import IISModuleJS.ScriptWatcher

/-!
# The engine loop and deleted scripts

The scan asks for the last write time with an error code, so a script that is
gone is passed over.  The `execute_file` that follows a reset asks for the time
of `Main.js` with the form that throws.  Nothing catches that exception between
there and the end of the engine thread.

The loop survives every file history in which `Main.js` exists whenever this
question is asked, and no other.
-/

namespace IISModuleJS

namespace ScriptWatcher

open ScheduledMachine

variable {scriptPath : Path} {state next : State} {action : Action}

/-- If this step is the question of a reload for the time of `Main.js`, then
`Main.js` exists. -/
def FindsMain (scriptPath : Path) (state : State) (action : Action) : Prop :=
  action = .advance → state.owner = some .engineLoop →
    state.activations = [⟨scriptPath, .lastWriteTime⟩] →
      (state.files scriptPath).present = true

instance (scriptPath : Path) (state : State) (action : Action) :
    Decidable (FindsMain scriptPath state action) :=
  inferInstanceAs (Decidable (_ → _ → _ → _))

/-- The loop is in its rounds, and the lock has the owner that the activations
belong to. -/
structure Alive (scriptPath : Path) (state : State) : Prop where
  survives : state.phase ≠ .terminated
  unlocked : state.owner = none → state.activations = []
  reloading : state.owner = some .engineLoop →
    state.phase = .reloading ∧
      ∃ inner stage, state.activations = inner ++ [⟨scriptPath, stage⟩]
  inScan : ∀ index, state.phase = .scanning index →
    index ≤ state.loadedScripts.length
  saved : ∀ path, (state.files path).present = true →
    (state.files path).versions ≠ []

theorem alive_initial (scriptPath : Path) :
    Alive scriptPath (initial scriptPath) where
  survives := by simp [initial]
  unlocked := fun _ => rfl
  reloading := by simp [initial]
  inScan := by
    intro index scanning
    cases scanning
    exact Nat.zero_le _
  saved := by simp [initial, File.absent]

theorem current_eq_none (alive : Alive scriptPath state) (path : Path) :
    (state.files path).current = none ↔
      (state.files path).present = false := by
  unfold File.current
  cases present : (state.files path).present with
  | false => simp
  | true => simp [alive.saved path present]

/-- The innermost `execute_file` changes its stage. -/
theorem Alive.setStage (alive : Alive scriptPath state) {path : Path}
    {stage other : Stage} {outer : List Activation}
    (innermost : state.activations = ⟨path, stage⟩ :: outer) :
    Alive scriptPath (state.setStage path outer other) where
  survives := alive.survives
  unlocked := fun free =>
    (owner_ne_none alive.unlocked innermost free).elim
  reloading := by
    intro owns
    obtain ⟨phase, inner, mainStage, activations⟩ := alive.reloading owns
    refine ⟨phase, ?_⟩
    rw [innermost] at activations
    cases inner with
    | nil =>
        cases activations
        exact ⟨[], other, rfl⟩
    | cons first inner =>
        cases activations
        exact ⟨⟨path, other⟩ :: inner, mainStage, rfl⟩
  inScan := alive.inScan
  saved := alive.saved

/-- The innermost `execute_file` is left. -/
theorem Alive.leave (alive : Alive scriptPath state)
    {innermost : Activation} {outer : List Activation}
    (activations : state.activations = innermost :: outer) :
    Alive scriptPath (state.leave outer) := by
  unfold State.leave
  split
  next owner owns =>
    exact ⟨by simp, fun _ => rfl, by simp, by simp, alive.saved⟩
  next nested =>
    refine ⟨alive.survives, ?_, ?_, alive.inScan, alive.saved⟩
    · intro free
      exact (owner_ne_none alive.unlocked activations free).elim
    · intro owns
      obtain ⟨phase, inner, stage, all⟩ := alive.reloading owns
      refine ⟨phase, ?_⟩
      rw [activations] at all
      cases inner with
      | nil =>
          cases all
          exact (nested rfl owns).elim
      | cons first inner =>
          cases all
          exact ⟨inner, stage, rfl⟩

theorem phase_leave (state : State) (outer : List Activation)
    (survives : state.phase ≠ .terminated) :
    (state.leave outer).phase ≠ .terminated := by
  unfold State.leave
  split
  · simp
  · exact survives

theorem findsMain_of_ne (other : action ≠ .advance) :
    FindsMain scriptPath state action :=
  fun advances => (other advances).elim

theorem findsMain_of_stage {innermost : Activation}
    {outer : List Activation}
    (activations : state.activations = innermost :: outer)
    (other : innermost.stage ≠ .lastWriteTime) :
    FindsMain scriptPath state action := by
  intro _ _ asks
  rw [asks] at activations
  cases activations
  exact (other rfl).elim

/-- A step of a living loop ends it exactly if it misses `Main.js`. -/
theorem Alive.terminated_iff (alive : Alive scriptPath state)
    (transition : Transition scriptPath state action next) :
    next.phase = .terminated ↔ ¬ FindsMain scriptPath state action := by
  have goesOn (survives : next.phase ≠ .terminated)
      (finds : FindsMain scriptPath state action) :
      next.phase = .terminated ↔ ¬ FindsMain scriptPath state action :=
    ⟨fun ends => (survives ends).elim, fun misses => (misses finds).elim⟩
  cases transition with
  | save => exact goesOn alive.survives (findsMain_of_ne (by simp))
  | delete => exact goesOn alive.survives (findsMain_of_ne (by simp))
  | beginPass => exact goesOn (by simp) (findsMain_of_ne (by simp))
  | missing => exact goesOn (by simp) (findsMain_of_ne (by simp))
  | changed => exact goesOn (by simp) (findsMain_of_ne (by simp))
  | unchanged => exact goesOn (by simp) (findsMain_of_ne (by simp))
  | endPass => exact goesOn (by simp) (findsMain_of_ne (by simp))
  | reset => exact goesOn (by simp) (findsMain_of_ne (by simp))
  | executeMain => exact goesOn alive.survives (findsMain_of_ne (by simp))
  | enterCallback => exact goesOn alive.survives (findsMain_of_ne (by simp))
  | exitCallback => exact goesOn alive.survives (findsMain_of_ne (by simp))
  | load => exact goesOn alive.survives (findsMain_of_ne (by simp))
  | lastWriteTime path outer version innermost current =>
      apply goesOn alive.survives
      intro _ _ asks
      rw [asks] at innermost
      cases innermost
      by_contra missing
      rw [Bool.not_eq_true, ← current_eq_none alive, current] at missing
      cases missing
  | escapes path innermost owns missing =>
      refine ⟨fun _ finds => ?_, fun _ => rfl⟩
      obtain ⟨-, inner, stage, activations⟩ := alive.reloading owns
      rw [innermost] at activations
      obtain rfl : inner = [] := by
        cases inner with
        | nil => rfl
        | cons first inner => simp at activations
      cases activations
      have present := finds rfl owns innermost
      rw [current_eq_none alive, present] at missing
      cases missing
  | pushBack path outer time innermost =>
      exact goesOn alive.survives (findsMain_of_stage innermost (by simp))
  | openFile path outer time innermost =>
      exact goesOn alive.survives (findsMain_of_stage innermost (by simp))
  | readFile path outer time version older innermost =>
      exact goesOn alive.survives (findsMain_of_stage innermost (by simp))
  | executeString path outer time content innermost =>
      exact goesOn alive.survives (findsMain_of_stage innermost (by simp))
  | leaves _ innermost outer activations ends caught =>
      apply goesOn (phase_leave state outer alive.survives)
      intro _ owns asks
      rw [asks] at activations
      cases activations
      exact (caught rfl ⟨rfl, owns⟩).elim

/-- The loop goes on outside of a reload. -/
theorem Alive.moveOn (alive : Alive scriptPath state)
    (outside : state.phase ≠ .reloading) {phase : Phase} (pass : Pass)
    (survives : phase ≠ .terminated)
    (inScan : ∀ index, phase = .scanning index →
      index ≤ state.loadedScripts.length) :
    Alive scriptPath { state with phase := phase, pass := pass } where
  survives := survives
  unlocked := alive.unlocked
  reloading := fun owns => (outside (alive.reloading owns).1).elim
  inScan := inScan
  saved := alive.saved

theorem Alive.changeFile (alive : Alive scriptPath state) (path : Path)
    {file : File} (saved : file.present = true → file.versions ≠ []) :
    Alive scriptPath
      { state with files := Function.update state.files path file } := by
  refine { alive with saved := ?_ }
  intro other present
  by_cases same : other = path
  · subst same
    simp only [Function.update_self] at present ⊢
    exact saved present
  · simp only [Function.update_of_ne same] at present ⊢
    exact alive.saved other present

theorem Alive.step (alive : Alive scriptPath state)
    (transition : Transition scriptPath state action next)
    (survives : next.phase ≠ .terminated) : Alive scriptPath next := by
  cases transition with
  | save path time content fresh => exact alive.changeFile path (by simp)
  | delete path => exact alive.changeFile path (by simp)
  | beginPass watching =>
      exact alive.moveOn (by simp [watching]) _ (by simp) (by simp)
  | missing index path time scanning entry =>
      have inside := (List.getElem?_eq_some_iff.mp entry).1
      refine alive.moveOn (by simp [scanning]) _ (by simp) ?_
      intro other next
      cases next
      exact inside
  | changed index path time version scanning =>
      exact alive.moveOn (by simp [scanning]) _ (by simp) (by simp)
  | unchanged index path version scanning entry =>
      have inside := (List.getElem?_eq_some_iff.mp entry).1
      refine alive.moveOn (by simp [scanning]) _ (by simp) ?_
      intro other next
      cases next
      exact inside
  | endPass scanned =>
      exact alive.moveOn (by simp [scanned]) _ (by simp) (by simp)
  | reset resetting unlocked =>
      exact ⟨by simp, alive.unlocked, by simp [unlocked], by simp, alive.saved⟩
  | executeMain reloading unlocked =>
      exact ⟨alive.survives, by simp, fun _ => ⟨reloading, [], _, rfl⟩,
        alive.inScan, alive.saved⟩
  | enterCallback hasContext unlocked =>
      exact ⟨alive.survives, by simp, by simp, alive.inScan, alive.saved⟩
  | exitCallback owns ended =>
      exact ⟨alive.survives, fun _ => ended, by simp, alive.inScan,
        alive.saved⟩
  | load path canLoad =>
      refine ⟨alive.survives, ?_, ?_, alive.inScan, alive.saved⟩
      · intro free
        exact (owner_ne_none_of_canLoad alive.unlocked canLoad free).elim
      · intro owns
        obtain ⟨phase, inner, stage, activations⟩ := alive.reloading owns
        refine ⟨phase, ⟨path, .lastWriteTime⟩ :: inner, stage, ?_⟩
        rw [State.setStage, activations, List.cons_append]
  | lastWriteTime path outer version innermost => exact alive.setStage innermost
  | escapes => exact (survives rfl).elim
  | pushBack path outer time innermost =>
      refine { alive.setStage innermost with inScan := ?_ }
      intro index scanning
      have inside := alive.inScan index scanning
      rw [List.length_append]
      omega
  | openFile path outer time innermost => exact alive.setStage innermost
  | readFile path outer time version older innermost =>
      exact alive.setStage innermost
  | executeString path outer time content innermost =>
      exact { alive.setStage innermost with }
  | leaves _ innermost outer activations => exact alive.leave activations

/-- One guarded schedule after another, from a fixed `Main.js`. -/
abbrev Continues (scriptPath : Path) (state final : State) : Prop :=
  Reaches (step scriptPath) (FindsMain scriptPath) state final

theorem Alive.afterStep (alive : Alive scriptPath state)
    (finds : FindsMain scriptPath state action)
    (stepTo : ScriptWatcher.step scriptPath state action = some next) :
    Alive scriptPath next := by
  have transition := transition_of_step stepTo
  apply alive.step transition
  intro ends
  exact (alive.terminated_iff transition).mp ends finds

theorem Alive.continues (alive : Alive scriptPath state) {final : State}
    (continues : Continues scriptPath state final) :
    Alive scriptPath final := by
  obtain ⟨schedule, respects, runs⟩ := continues
  exact invariant_of_respects
    (fun _ _ _ alive finds stepTo => alive.afterStep finds stepTo)
    alive respects runs

theorem continues_step {final : State} (action : Action)
    (other : action ≠ .advance)
    (stepTo : step scriptPath state action = some next)
    (continues : Continues scriptPath next final) :
    Continues scriptPath state final :=
  reaches_step action (findsMain_of_ne other) stepTo continues

theorem continues_fail {innermost : Activation} {outer : List Activation}
    (activations : state.activations = innermost :: outer)
    (canFail : innermost.stage.canFail = true) :
    Continues scriptPath state (state.leave outer) := by
  refine continues_step .fail (by simp) ?_ (reaches_refl _)
  simp only [step, activations, canFail, if_true]

theorem continues_pushBack {path : Path} {time : Time}
    {outer : List Activation}
    (innermost : state.activations = ⟨path, .pushBack time⟩ :: outer) :
    ∃ between : State, between.phase = state.phase ∧ between.owner = state.owner ∧
      Continues scriptPath state (between.leave outer) := by
  refine ⟨{ state.setStage path outer (.openFile time) with
    loadedScripts := state.loadedScripts ++ [(path, time)] }, rfl, rfl, ?_⟩
  refine reaches_step .advance (findsMain_of_stage innermost (by simp)) ?_
    (continues_fail rfl rfl)
  simp only [step, innermost, State.advance]

theorem continues_lastWriteTime {path : Path} {version : Version}
    {outer : List Activation}
    (innermost : state.activations = ⟨path, .lastWriteTime⟩ :: outer)
    (present : (state.files path).present = true)
    (current : (state.files path).current = some version) :
    ∃ between : State, between.phase = state.phase ∧ between.owner = state.owner ∧
      Continues scriptPath state (between.leave outer) := by
  obtain ⟨between, phase, owner, continues⟩ :=
    @continues_pushBack scriptPath
      (state.setStage path outer (.pushBack version.time)) path version.time
      outer rfl
  refine ⟨between, phase, owner,
    reaches_step .advance ?_ ?_ continues⟩
  · intro _ _ asks
    rw [asks] at innermost
    cases innermost
    exact present
  · simp only [step, innermost, State.advance, current]

theorem exists_fresh (times : List Int) : ∃ time, time ∉ times := by
  have bounded : ∃ bound : Int, ∀ time ∈ times, time < bound := by
    induction times with
    | nil => exact ⟨0, by simp⟩
    | cons first times ih =>
        obtain ⟨bound, below⟩ := ih
        refine ⟨max bound (first + 1), ?_⟩
        rw [List.forall_mem_cons]
        refine ⟨by omega, fun time timeMem => ?_⟩
        have := below time timeMem
        omega
  obtain ⟨bound, below⟩ := bounded
  exact ⟨bound, fun boundMem => Int.lt_irrefl bound (below bound boundMem)⟩

/-- The innermost `execute_file` can come to its end.  If its file is gone, it
can be saved again before. -/
theorem exists_left {innermost : Activation} {outer : List Activation}
    (activations : state.activations = innermost :: outer) :
    ∃ between : State, between.phase = state.phase ∧ between.owner = state.owner ∧
      Continues scriptPath state (between.leave outer) := by
  obtain ⟨path, stage⟩ := innermost
  cases stage with
  | lastWriteTime =>
      obtain ⟨time, fresh⟩ := exists_fresh (state.files path).times
      obtain ⟨between, phase, owner, continues⟩ :=
        @continues_lastWriteTime scriptPath
          { state with
            files := Function.update state.files path
              ⟨⟨time, []⟩ :: (state.files path).versions, true⟩ }
          path ⟨time, []⟩ outer activations (by simp)
          (by simp [File.current])
      refine ⟨between, phase, owner,
        continues_step (.save path time []) (by simp) ?_ continues⟩
      exact if_neg fresh
  | pushBack time => exact continues_pushBack activations
  | openFile time => exact ⟨state, rfl, rfl, continues_fail activations rfl⟩
  | readFile time => exact ⟨state, rfl, rfl, continues_fail activations rfl⟩
  | executeString time content =>
      exact ⟨state, rfl, rfl, continues_fail activations rfl⟩
  | running =>
      refine ⟨state, rfl, rfl,
        continues_step .finish (by simp) ?_ (reaches_refl _)⟩
      simp only [step, activations, if_true]

/-- All calls of `execute_file` can come to their end: the engine thread then
watches, and a callback is back in its own script. -/
theorem exists_drained (alive : Alive scriptPath state) :
    ∃ final : State, Continues scriptPath state final ∧
      final.activations = [] ∧
      (state.owner = some .engineLoop → final.phase = .watching) ∧
      (state.owner = some .callback →
        final.owner = some .callback ∧ final.phase = state.phase) := by
  generalize stack : state.activations = activations
  induction activations generalizing state with
  | nil =>
      refine ⟨state, reaches_refl _, stack, ?_, fun owns => ⟨owns, rfl⟩⟩
      intro owns
      obtain ⟨-, inner, stage, nonempty⟩ := alive.reloading owns
      rw [stack] at nonempty
      simp at nonempty
  | cons innermost outer ih =>
      obtain ⟨between, phase, owner, leaves⟩ :=
        @exists_left scriptPath state innermost outer stack
      by_cases outermost : outer = [] ∧ state.owner = some .engineLoop
      · obtain ⟨rfl, owns⟩ := outermost
        rw [← owner] at owns
        refine ⟨between.leave [], leaves, ?_, fun _ => ?_, fun other => ?_⟩
        · simp [State.leave, owns]
        · simp [State.leave, owns]
        · rw [← owner, owns] at other
          cases other
      · have left : between.leave outer =
            { between with activations := outer } := by
          unfold State.leave
          split
          next owns => exact (outermost ⟨rfl, owner ▸ owns⟩).elim
          next => rfl
        rw [left] at leaves
        obtain ⟨final, drains, empty, watching, back⟩ :=
          ih (alive.continues leaves) rfl
        rw [← owner, ← phase]
        exact ⟨final, reaches_trans leaves drains, empty, watching, back⟩

theorem exists_unlocked (alive : Alive scriptPath state)
    (other : state.owner ≠ some .engineLoop) :
    ∃ final : State, Continues scriptPath state final ∧
      final.owner = none ∧ final.phase = state.phase := by
  cases owner : state.owner with
  | none => exact ⟨state, reaches_refl _, owner, rfl⟩
  | some holder =>
      cases holder with
      | engineLoop => exact (other owner).elim
      | callback =>
          obtain ⟨drained, drains, empty, -, back⟩ := exists_drained alive
          obtain ⟨owns, phase⟩ := back owner
          refine ⟨{ drained with owner := none },
            reaches_trans drains ?_, rfl, phase⟩
          refine continues_step .exitCallback (by simp) ?_ (reaches_refl _)
          exact if_pos ⟨owns, empty⟩

theorem exists_watching_of_reloading (alive : Alive scriptPath state)
    (reloading : state.phase = .reloading) :
    ∃ final : State, Continues scriptPath state final ∧
      final.phase = .watching := by
  by_cases owns : state.owner = some .engineLoop
  · obtain ⟨final, drains, -, watching, -⟩ := exists_drained alive
    exact ⟨final, drains, watching owns⟩
  · obtain ⟨unlocked, unlocks, free, phase⟩ := exists_unlocked alive owns
    have executes : Continues scriptPath unlocked
        { unlocked with
          owner := some .engineLoop
          activations := [⟨scriptPath, .lastWriteTime⟩] } := by
      refine continues_step .executeMain (by simp) ?_ (reaches_refl _)
      exact if_pos ⟨phase.trans reloading, free⟩
    have starts := reaches_trans unlocks executes
    obtain ⟨final, drains, -, watching, -⟩ :=
      exists_drained (alive.continues starts)
    exact ⟨final, reaches_trans starts drains, watching rfl⟩

theorem exists_watching_of_resetting (alive : Alive scriptPath state)
    (resetting : state.phase = .resetting) :
    ∃ final : State, Continues scriptPath state final ∧
      final.phase = .watching := by
  have other : state.owner ≠ some .engineLoop := by
    intro owns
    have reloading := (alive.reloading owns).1
    rw [resetting] at reloading
    cases reloading
  obtain ⟨unlocked, unlocks, free, phase⟩ := exists_unlocked alive other
  have resets : Continues scriptPath unlocked
      { unlocked with
        loadedScripts := [], executed := [], hasContext := true
        phase := .reloading } := by
    refine continues_step .reset (by simp) ?_ (reaches_refl _)
    exact if_pos ⟨phase.trans resetting, free⟩
  have starts := reaches_trans unlocks resets
  obtain ⟨final, reloads, watching⟩ :=
    exists_watching_of_reloading (alive.continues starts) rfl
  exact ⟨final, reaches_trans starts reloads, watching⟩

theorem exists_watching_of_scanning (alive : Alive scriptPath state)
    {index : Nat} (scanning : state.phase = .scanning index) :
    ∃ final : State, Continues scriptPath state final ∧
      final.phase = .watching := by
  generalize left : state.loadedScripts.length - index = remaining
  induction remaining generalizing state index with
  | zero =>
      have inside := alive.inScan index scanning
      have scanned : state.phase =
          .scanning state.loadedScripts.length := by
        rw [scanning]
        congr 1
        omega
      refine ⟨{ state with phase := .watching }, ?_, rfl⟩
      refine continues_step .endPass (by simp) ?_ (reaches_refl _)
      exact if_pos scanned
  | succ remaining ih =>
      have inside : index < state.loadedScripts.length := by omega
      obtain ⟨⟨path, time⟩, entry⟩ : ∃ entry,
          state.loadedScripts[index]? = some entry :=
        ⟨_, List.getElem?_eq_getElem inside⟩
      have inspects : step scriptPath state .inspect =
          some (state.inspect index path time) := by
        simp only [step, scanning, entry, Option.map_some]
      have goesOn : Continues scriptPath state
          (state.inspect index path time) :=
        continues_step .inspect (by simp) inspects (reaches_refl _)
      have nextAlive := alive.continues goesOn
      have nextPhase : (state.inspect index path time).phase = .resetting ∨
          ((state.inspect index path time).phase = .scanning (index + 1) ∧
            (state.inspect index path time).loadedScripts =
              state.loadedScripts) := by
        unfold State.inspect
        split
        · exact .inr ⟨rfl, rfl⟩
        · split
          · exact .inl rfl
          · exact .inr ⟨rfl, rfl⟩
      rcases nextPhase with resetting | ⟨nextScanning, sameScripts⟩
      · obtain ⟨final, reloads, watching⟩ :=
          exists_watching_of_resetting nextAlive resetting
        exact ⟨final, reaches_trans goesOn reloads, watching⟩
      · obtain ⟨final, scans, watching⟩ :=
          ih nextAlive nextScanning (by rw [sameScripts]; omega)
        exact ⟨final, reaches_trans goesOn scans, watching⟩

/-- A living loop can always go on to watch. -/
theorem Alive.exists_watching (alive : Alive scriptPath state) :
    ∃ final : State, Continues scriptPath state final ∧
      final.phase = .watching := by
  cases phase : state.phase with
  | scanning index => exact exists_watching_of_scanning alive phase
  | resetting => exact exists_watching_of_resetting alive phase
  | reloading => exact exists_watching_of_reloading alive phase
  | watching => exact ⟨state, reaches_refl _, phase⟩
  | terminated => exact (alive.survives phase).elim

/-- After every schedule in which the reloads find `Main.js` no exception has
left the loop, it can go on to watch, and the next step ends it exactly if that
step is a reload that does not find `Main.js`. -/
theorem loop_survives {schedule : List Action}
    (respects : Respects (step scriptPath) (FindsMain scriptPath)
      (initial scriptPath) schedule)
    (runs : run (step scriptPath) (initial scriptPath) schedule =
      some state) :
    state.phase ≠ .terminated ∧
      (∃ final : State, Continues scriptPath state final ∧
        final.phase = .watching) ∧
      ∀ action next, step scriptPath state action = some next →
        (next.phase = .terminated ↔ ¬ FindsMain scriptPath state action) := by
  have alive : Alive scriptPath state :=
    (alive_initial scriptPath).continues ⟨schedule, respects, runs⟩
  exact ⟨alive.survives, alive.exists_watching,
    fun action next stepTo => alive.terminated_iff (transition_of_step stepTo)⟩

/-- `Main.js`, and a script `lib.js` that it loads. -/
def mainPath : Path := [0x4D]

def libraryPath : Path := [0x6C]

/-- Both scripts are saved, the first scan loads them, and `lib.js` is saved
again. -/
def loadBoth : List Action :=
  [.save mainPath 1 [1], .save libraryPath 1 [2], .inspect, .reset,
    .executeMain, .advance, .advance, .advance, .advance, .advance,
    .load libraryPath, .advance, .advance, .advance, .advance, .advance,
    .finish, .finish, .save libraryPath 2 [3]]

/-- Then the next round reloads. -/
def reloadRound : List Action :=
  [.beginPass, .inspect, .inspect, .reset, .executeMain, .advance]

theorem loop_survives_reload :
    ∃ final, run (step mainPath) (initial mainPath)
        (loadBoth ++ reloadRound) = some final ∧
      final.phase ≠ .terminated := by
  have respects : Respects (step mainPath) (FindsMain mainPath)
      (initial mainPath) (loadBoth ++ reloadRound) := by
    decide
  exact ⟨_, rfl, (loop_survives respects rfl).1⟩

/-- Deleting `Main.js` before that round ends the process. -/
theorem reload_without_main_terminates :
    ∃ final, run (step mainPath) (initial mainPath)
        (loadBoth ++ [.delete mainPath] ++ reloadRound) = some final ∧
      final.phase = .terminated :=
  ⟨_, rfl, rfl⟩

end ScriptWatcher

end IISModuleJS
