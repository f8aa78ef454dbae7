import IISModuleJS.ScriptWatcher
import Mathlib.Data.List.Nodup

/-!
# What the scan notices

A script is recorded with the time that its file had before its text was read.
If a scan finds the recorded time unchanged, no version was added since the
question for the time, so the text that was read is the text of the file.

The second part follows the machine when files no longer change.  A reset
empties the list of loaded scripts, and every entry made after it is current;
so there is at most one more reset.

All this needs that the list stays as it is during a scan, which holds an
iterator into it without the engine lock.  A script that a callback adds
meanwhile takes that away.
-/

namespace IISModuleJS

namespace ScriptWatcher

open ScheduledMachine

variable {scriptPath : Path} {state next : State} {action : Action}

/-- The text belongs to the version with the given time or to a later one. -/
def ReadSince (versions : List Version) (time : Time) (content : Content) :
    Prop :=
  ∃ newer version older, versions = newer ++ version :: older ∧
    version.time = time ∧
      content ∈ (newer ++ [version]).map (·.content)

theorem ReadSince.grow {versions : List Version} {time : Time}
    {content : Content} (since : ReadSince versions time content)
    (more : List Version) : ReadSince (more ++ versions) time content := by
  obtain ⟨newer, version, older, rfl, timeEq, contentMem⟩ := since
  refine ⟨more ++ newer, version, older, by simp, timeEq, ?_⟩
  rw [List.append_assoc, List.map_append]
  exact List.mem_append_right _ contentMem

/-- The text that is read now is at least as new as a recorded time. -/
theorem readSince_newest {version : Version} {older : List Version}
    {time : Time} (known : time ∈ (version :: older).map (·.time)) :
    ReadSince (version :: older) time version.content := by
  obtain ⟨recorded, recordedMem, timeEq⟩ := List.mem_map.mp known
  obtain ⟨newer, rest, split⟩ := List.append_of_mem recordedMem
  refine ⟨newer, recorded, rest, split, timeEq, ?_⟩
  cases newer with
  | nil =>
      cases split
      simp
  | cons first newer =>
      cases split
      simp

/-- If the recorded time is still the newest one, the text is the newest
one. -/
theorem ReadSince.eq_newest {version : Version} {older : List Version}
    (distinct : ((version :: older).map (·.time)).Nodup)
    {content : Content}
    (since : ReadSince (version :: older) version.time content) :
    content = version.content := by
  obtain ⟨newer, recorded, rest, split, timeEq, contentMem⟩ := since
  cases newer with
  | nil =>
      cases split
      simpa using contentMem
  | cons first newer =>
      cases split
      rw [List.map_cons, List.nodup_cons] at distinct
      refine (distinct.1 ?_).elim
      rw [← timeEq]
      simp

/-- A time that an older part of the history knows is the newest one only if
nothing was added. -/
theorem eq_nil_of_newest {more versions older : List Version}
    {version : Version}
    (distinct : ((more ++ versions).map (·.time)).Nodup)
    (newest : more ++ versions = version :: older)
    (known : version.time ∈ versions.map (·.time)) : more = [] := by
  cases more with
  | nil => rfl
  | cons first more =>
      cases newest
      rw [List.cons_append, List.map_cons, List.nodup_cons] at distinct
      refine (distinct.1 ?_).elim
      rw [List.map_append]
      exact List.mem_append_right _ known

/-- What a call of `execute_file` has recorded at its stage. -/
def StageRecorded (state : State) (activation : Activation) : Prop :=
  match activation.stage with
  | .lastWriteTime | .running => True
  | .pushBack time => time ∈ (state.files activation.path).times
  | .openFile time | .readFile time =>
      (activation.path, time) ∈ state.loadedScripts ∧
        time ∈ (state.files activation.path).times
  | .executeString time content =>
      (activation.path, time) ∈ state.loadedScripts ∧
        ReadSince (state.files activation.path).versions time content

/-- Every executed script has an entry, and its text is at least as new as the
time of that entry. -/
structure Recorded (state : State) : Prop where
  distinct : ∀ path, (state.files path).times.Nodup
  unlocked : state.owner = none → state.activations = []
  empty : state.hasContext = false → state.executed = []
  started : state.owner ≠ none ∨ state.phase = .reloading →
    state.hasContext = true
  entries : state.hasContext = true →
    ∀ path time, (path, time) ∈ state.loadedScripts →
      time ∈ (state.files path).times
  stages : ∀ activation ∈ state.activations, StageRecorded state activation
  executed : ∀ execution ∈ state.executed,
    (execution.path, execution.time) ∈ state.loadedScripts ∧
      ReadSince (state.files execution.path).versions execution.time
        execution.content

/-- Files gain versions, and scripts are added to the list. -/
structure Extends (state next : State) : Prop where
  grown : ∀ path, ∃ more,
    (next.files path).versions = more ++ (state.files path).versions
  scripts : ∃ more, next.loadedScripts = state.loadedScripts ++ more

theorem Extends.times (extension : Extends state next) {path : Path}
    {time : Time} (known : time ∈ (state.files path).times) :
    time ∈ (next.files path).times := by
  obtain ⟨more, versions⟩ := extension.grown path
  rw [File.times, versions, List.map_append]
  exact List.mem_append_right _ known

theorem Extends.readSince (extension : Extends state next) {path : Path}
    {time : Time} {content : Content}
    (since : ReadSince (state.files path).versions time content) :
    ReadSince (next.files path).versions time content := by
  obtain ⟨more, versions⟩ := extension.grown path
  rw [versions]
  exact since.grow more

theorem Extends.entry (extension : Extends state next)
    {entry : Path × Time} (listed : entry ∈ state.loadedScripts) :
    entry ∈ next.loadedScripts := by
  obtain ⟨more, scripts⟩ := extension.scripts
  rw [scripts]
  exact List.mem_append_left _ listed

theorem Extends.stage (extension : Extends state next)
    {activation : Activation} (recorded : StageRecorded state activation) :
    StageRecorded next activation := by
  obtain ⟨path, stage⟩ := activation
  cases stage with
  | lastWriteTime => trivial
  | pushBack time => exact extension.times recorded
  | openFile time =>
      exact ⟨extension.entry recorded.1, extension.times recorded.2⟩
  | readFile time =>
      exact ⟨extension.entry recorded.1, extension.times recorded.2⟩
  | executeString time content =>
      exact ⟨extension.entry recorded.1, extension.readSince recorded.2⟩
  | running => trivial

theorem extends_of_same (files : next.files = state.files)
    (scripts : next.loadedScripts = state.loadedScripts) :
    Extends state next :=
  ⟨fun path => ⟨[], by rw [files]; rfl⟩, [], by rw [scripts]; simp⟩

theorem files_leave (state : State) (outer : List Activation) :
    (state.leave outer).files = state.files := by
  unfold State.leave
  split <;> rfl

theorem loadedScripts_leave (state : State) (outer : List Activation) :
    (state.leave outer).loadedScripts = state.loadedScripts := by
  unfold State.leave
  split <;> rfl

/-- Every step but a reset only adds. -/
theorem extends_of_transition
    (transition : Transition scriptPath state action next)
    (keeps : action ≠ .reset) : Extends state next := by
  cases transition with
  | save path time content fresh =>
      refine ⟨fun other => ?_, [], by simp⟩
      by_cases same : other = path
      · subst same
        exact ⟨[⟨time, content⟩], by simp⟩
      · exact ⟨[], by simp [Function.update_of_ne same]⟩
  | delete path =>
      refine ⟨fun other => ⟨[], ?_⟩, [], by simp⟩
      by_cases same : other = path
      · subst same
        simp
      · simp [Function.update_of_ne same]
  | beginPass => exact extends_of_same rfl rfl
  | missing => exact extends_of_same rfl rfl
  | changed => exact extends_of_same rfl rfl
  | unchanged => exact extends_of_same rfl rfl
  | endPass => exact extends_of_same rfl rfl
  | reset => exact (keeps rfl).elim
  | executeMain => exact extends_of_same rfl rfl
  | enterCallback => exact extends_of_same rfl rfl
  | exitCallback => exact extends_of_same rfl rfl
  | load => exact extends_of_same rfl rfl
  | lastWriteTime => exact extends_of_same rfl rfl
  | escapes => exact extends_of_same rfl rfl
  | pushBack path outer time => exact ⟨fun _ => ⟨[], rfl⟩, _, rfl⟩
  | openFile => exact extends_of_same rfl rfl
  | readFile => exact extends_of_same rfl rfl
  | executeString => exact extends_of_same rfl rfl
  | leaves _ innermost outer =>
      exact extends_of_same (files_leave state outer)
        (loadedScripts_leave state outer)

theorem recorded_initial (scriptPath : Path) :
    Recorded (initial scriptPath) where
  distinct := fun _ => List.nodup_nil
  unlocked := fun _ => rfl
  empty := fun _ => rfl
  started := by simp [initial]
  entries := by simp [initial]
  stages := by simp [initial]
  executed := by simp [initial]

/-- A step that leaves the list of scripts and the executions alone. -/
theorem Recorded.extend (recorded : Recorded state)
    (extension : Extends state next)
    (context : next.hasContext = state.hasContext)
    (scripts : next.loadedScripts = state.loadedScripts)
    (executed : next.executed = state.executed)
    (distinct : ∀ path, (next.files path).times.Nodup)
    (unlocked : next.owner = none → next.activations = [])
    (started : next.owner ≠ none ∨ next.phase = .reloading →
      next.hasContext = true)
    (stages : ∀ activation ∈ next.activations,
      StageRecorded next activation) : Recorded next where
  distinct := distinct
  unlocked := unlocked
  empty := by
    rw [context, executed]
    exact recorded.empty
  started := started
  entries := by
    rw [context, scripts]
    intro hasContext path time listed
    exact extension.times (recorded.entries hasContext path time listed)
  stages := stages
  executed := by
    rw [executed]
    intro execution executionMem
    obtain ⟨listed, since⟩ := recorded.executed execution executionMem
    exact ⟨extension.entry listed, extension.readSince since⟩

/-- A step of the loop outside of a reload. -/
theorem Recorded.moveOn (recorded : Recorded state)
    {phase : Phase} (pass : Pass) (outside : phase ≠ .reloading) :
    Recorded { state with phase := phase, pass := pass } := by
  refine recorded.extend (extends_of_same rfl rfl) rfl rfl rfl
    recorded.distinct recorded.unlocked ?_ ?_
  · rintro (owned | reloading)
    · exact recorded.started (.inl owned)
    · exact (outside reloading).elim
  · intro activation activationMem
    exact (@extends_of_same state _ rfl rfl).stage
      (recorded.stages activation activationMem)

theorem Recorded.changeFile (recorded : Recorded state) {path : Path}
    {file : File}
    (extension : Extends state
      { state with files := Function.update state.files path file })
    (distinct : file.times.Nodup) :
    Recorded { state with files := Function.update state.files path file } := by
  refine recorded.extend extension rfl rfl rfl ?_ recorded.unlocked
    recorded.started fun activation activationMem =>
      extension.stage (recorded.stages activation activationMem)
  intro other
  by_cases same : other = path
  · subst same
    simpa using distinct
  · simpa [Function.update_of_ne same] using recorded.distinct other

theorem mem_of_outer {innermost : Activation} {outer : List Activation}
    (activations : state.activations = innermost :: outer) :
    ∀ activation ∈ outer, activation ∈ state.activations := by
  intro activation outerMem
  rw [activations]
  exact List.mem_cons_of_mem _ outerMem

/-- The innermost `execute_file` changes its stage. -/
theorem Recorded.setStage (recorded : Recorded state) {path : Path}
    {stage other : Stage} {outer : List Activation}
    (innermost : state.activations = ⟨path, stage⟩ :: outer)
    (now : StageRecorded (state.setStage path outer other) ⟨path, other⟩) :
    Recorded (state.setStage path outer other) := by
  refine recorded.extend (extends_of_same rfl rfl) rfl rfl rfl
    recorded.distinct ?_ recorded.started ?_
  · intro unlocked
    exact (owner_ne_none recorded.unlocked innermost unlocked).elim
  · intro activation activationMem
    rcases List.mem_cons.mp activationMem with rfl | outerMem
    · exact now
    · apply (@extends_of_same state _ rfl rfl).stage
      exact recorded.stages activation
        (mem_of_outer innermost activation outerMem)

theorem Recorded.leave (recorded : Recorded state)
    {innermost : Activation} {outer : List Activation}
    (activations : state.activations = innermost :: outer) :
    Recorded (state.leave outer) := by
  have owned := owner_ne_none recorded.unlocked activations
  unfold State.leave
  split
  · exact recorded.extend (extends_of_same rfl rfl) rfl rfl rfl
      recorded.distinct (fun _ => rfl) (by simp) (by simp)
  · refine recorded.extend (extends_of_same rfl rfl) rfl rfl rfl
      recorded.distinct ?_ recorded.started ?_
    · intro unlocked
      exact (owned unlocked).elim
    · intro activation activationMem
      apply (@extends_of_same state _ rfl rfl).stage
      exact recorded.stages activation
        (mem_of_outer activations activation activationMem)

theorem versions_of_current {file : File} {version : Version}
    (current : file.current = some version) :
    ∃ older, file.versions = version :: older := by
  unfold File.current at current
  split at current
  · exact List.head?_eq_some_iff.mp current
  · cases current

theorem mem_times_of_current {file : File} {version : Version}
    (current : file.current = some version) : version.time ∈ file.times := by
  obtain ⟨older, versions⟩ := versions_of_current current
  simp [File.times, versions]

theorem Recorded.innermost (recorded : Recorded state)
    {innermost : Activation} {outer : List Activation}
    (activations : state.activations = innermost :: outer) :
    StageRecorded state innermost := by
  apply recorded.stages
  rw [activations]
  exact List.mem_cons_self

theorem Recorded.step (recorded : Recorded state)
    (transition : Transition scriptPath state action next) :
    Recorded next := by
  have extension := extends_of_transition transition
  cases transition with
  | save path time content fresh =>
      apply recorded.changeFile (extension (by simp))
      rw [File.times, List.map_cons, List.nodup_cons]
      exact ⟨fresh, recorded.distinct path⟩
  | delete path =>
      exact recorded.changeFile (extension (by simp)) (recorded.distinct path)
  | beginPass => exact recorded.moveOn _ (by simp)
  | missing => exact recorded.moveOn _ (by simp)
  | changed => exact recorded.moveOn _ (by simp)
  | unchanged => exact recorded.moveOn _ (by simp)
  | endPass => exact recorded.moveOn _ (by simp)
  | reset resetting unlocked =>
      have empty := recorded.unlocked unlocked
      exact ⟨recorded.distinct, recorded.unlocked, fun _ => rfl,
        fun _ => rfl, by simp, by simp [empty], by simp⟩
  | executeMain reloading unlocked =>
      refine recorded.extend (extension (by simp)) rfl rfl rfl
        recorded.distinct (by simp) ?_ ?_
      · intro _
        exact recorded.started (.inr reloading)
      · intro activation activationMem
        rw [List.mem_singleton.mp activationMem]
        trivial
  | enterCallback hasContext unlocked =>
      have empty := recorded.unlocked unlocked
      exact recorded.extend (extension (by simp)) rfl rfl rfl
        recorded.distinct (by simp) (fun _ => hasContext) (by simp [empty])
  | exitCallback owns ended =>
      exact recorded.extend (extension (by simp)) rfl rfl rfl
        recorded.distinct (fun _ => ended)
        (fun _ => recorded.started (.inl (by simp [owns]))) (by simp [ended])
  | load path canLoad =>
      refine recorded.extend (extension (by simp)) rfl rfl rfl
        recorded.distinct ?_ recorded.started ?_
      · intro free
        exact (owner_ne_none_of_canLoad recorded.unlocked canLoad free).elim
      · intro activation activationMem
        rcases List.mem_cons.mp activationMem with rfl | outerMem
        · trivial
        · exact (extension (by simp)).stage
            (recorded.stages activation outerMem)
  | lastWriteTime path outer version innermost current =>
      apply recorded.setStage innermost
      exact mem_times_of_current current
  | escapes =>
      exact recorded.extend (extension (by simp)) rfl rfl rfl
        recorded.distinct (fun _ => rfl) (by simp) (by simp)
  | pushBack path outer time innermost =>
      have known : time ∈ (state.files path).times :=
        recorded.innermost innermost
      have grown := extension (by simp)
      refine ⟨recorded.distinct, ?_, recorded.empty, recorded.started,
        ?_, ?_, ?_⟩
      · intro unlocked
        exact (owner_ne_none recorded.unlocked innermost unlocked).elim
      · intro hasContext other otherTime listed
        rcases List.mem_append.mp listed with old | new
        · exact recorded.entries hasContext other otherTime old
        · cases List.mem_singleton.mp new
          exact known
      · intro activation activationMem
        rcases List.mem_cons.mp activationMem with rfl | outerMem
        · exact ⟨List.mem_append_right _ List.mem_cons_self, known⟩
        · apply grown.stage
          exact recorded.stages activation
            (mem_of_outer innermost activation outerMem)
      · intro execution executionMem
        obtain ⟨listed, since⟩ := recorded.executed execution executionMem
        exact ⟨grown.entry listed, since⟩
  | openFile path outer time innermost =>
      apply recorded.setStage innermost
      exact recorded.innermost innermost
  | readFile path outer time version older innermost newest =>
      obtain ⟨listed, known⟩ := recorded.innermost innermost
      apply recorded.setStage innermost
      refine ⟨listed, ?_⟩
      rw [File.times, newest] at known
      have since := readSince_newest known
      rw [← newest] at since
      exact since
  | executeString path outer time content innermost =>
      obtain ⟨listed, since⟩ := recorded.innermost innermost
      have staged : Recorded (state.setStage path outer .running) :=
        recorded.setStage innermost trivial
      refine { staged with empty := ?_, executed := ?_ }
      · intro noContext
        have hasContext : state.hasContext = true :=
          recorded.started (.inl (owner_ne_none recorded.unlocked innermost))
        cases hasContext.symm.trans noContext
      · intro execution executionMem
        rcases List.mem_cons.mp executionMem with rfl | earlier
        · exact ⟨listed, since⟩
        · exact recorded.executed execution earlier
  | leaves _ innermost outer activations => exact recorded.leave activations

/-- The questions for a last write time are answered. -/
def statSucceeds (state : State) : Action → Bool
  | .inspect =>
      match state.phase with
      | .scanning index =>
          match state.loadedScripts[index]? with
          | some (path, _) => (state.files path).current.isSome
          | none => true
      | _ => true
  | .advance =>
      match state.activations with
      | ⟨path, .lastWriteTime⟩ :: _ => (state.files path).current.isSome
      | _ => true
  | _ => true

/-- What holds in a scan that has come to the given index without finding a
change: as far as the entries were there at its beginning, the files of the
inspected ones have not changed since then, and their recorded times were
current. -/
structure Inspected (state : State) (index : Nat) : Prop where
  grown : ∀ path, ∃ more,
    (state.files path).versions = more ++ (state.pass.files path).versions
  bound : state.pass.entries ≤ state.loadedScripts.length
  empty : state.hasContext = false → state.pass.executed = []
  entries : state.hasContext = true →
    ∀ position < state.pass.entries, ∀ path time,
      state.loadedScripts[position]? = some (path, time) →
        time ∈ (state.pass.files path).times
  executed : ∀ execution ∈ state.pass.executed,
    (∃ position < state.pass.entries,
      state.loadedScripts[position]? =
        some (execution.path, execution.time)) ∧
      ReadSince (state.pass.files execution.path).versions execution.time
        execution.content
  checked : state.hasContext = true →
    ∀ position < state.pass.entries, position < index → ∀ path time,
      state.loadedScripts[position]? = some (path, time) →
        ∃ version older,
          (state.pass.files path).versions = version :: older ∧
            version.time = time ∧
            ⟨position, path, version.content⟩ ∈ state.pass.inspected
  inspected : state.hasContext = true →
    ∀ inspection ∈ state.pass.inspected,
      inspection.index < state.pass.entries →
        ∃ version older,
          (state.pass.files inspection.path).versions = version :: older ∧
            version.content = inspection.content

theorem inspected_initial (scriptPath : Path) :
    Inspected (initial scriptPath) 0 where
  grown := fun _ => ⟨[], rfl⟩
  bound := Nat.le_refl _
  empty := fun _ => rfl
  entries := by simp [initial]
  executed := by simp [initial]
  checked := by simp [initial]
  inspected := by simp [initial]

/-- At the beginning of a scan nothing was inspected. -/
theorem Recorded.inspected (recorded : Recorded state) :
    Inspected { state with
      phase := .scanning 0
      pass := ⟨state.files, state.loadedScripts.length, state.executed,
        []⟩ } 0 where
  grown := fun _ => ⟨[], rfl⟩
  bound := Nat.le_refl _
  empty := recorded.empty
  entries := by
    intro hasContext position _ path time entry
    exact recorded.entries hasContext path time (List.mem_of_getElem? entry)
  executed := by
    intro execution executionMem
    obtain ⟨listed, since⟩ := recorded.executed execution executionMem
    obtain ⟨position, inside, entry⟩ := List.mem_iff_getElem.mp listed
    exact ⟨⟨position, inside, by rw [List.getElem?_eq_getElem inside, entry]⟩,
      since⟩
  checked := by simp
  inspected := by simp

theorem Extends.getElem? (extension : Extends state next) {position : Nat}
    (inside : position < state.loadedScripts.length) :
    next.loadedScripts[position]? = state.loadedScripts[position]? := by
  obtain ⟨more, scripts⟩ := extension.scripts
  rw [scripts, List.getElem?_append_left inside]

/-- Other threads add to the files and to the list. -/
theorem Inspected.extend {index : Nat} (inspected : Inspected state index)
    (extension : Extends state next) (pass : next.pass = state.pass)
    (context : next.hasContext = state.hasContext) :
    Inspected next index := by
  have entryAt {position : Nat} (early : position < state.pass.entries) :
      next.loadedScripts[position]? = state.loadedScripts[position]? :=
    extension.getElem? (Nat.lt_of_lt_of_le early inspected.bound)
  constructor
  · intro path
    obtain ⟨later, versions⟩ := extension.grown path
    obtain ⟨more, passVersions⟩ := inspected.grown path
    refine ⟨later ++ more, ?_⟩
    rw [versions, passVersions, pass, List.append_assoc]
  · obtain ⟨more, scripts⟩ := extension.scripts
    rw [pass, scripts, List.length_append]
    exact Nat.le_add_right_of_le inspected.bound
  · rw [context, pass]
    exact inspected.empty
  · rw [context, pass]
    intro hasContext position early path time entry
    rw [entryAt early] at entry
    exact inspected.entries hasContext position early path time entry
  · rw [pass]
    intro execution executionMem
    obtain ⟨⟨position, early, entry⟩, since⟩ :=
      inspected.executed execution executionMem
    exact ⟨⟨position, early, by rw [entryAt early, entry]⟩, since⟩
  · rw [context, pass]
    intro hasContext position early before path time entry
    rw [entryAt early] at entry
    exact inspected.checked hasContext position early before path time entry
  · rw [context, pass]
    exact inspected.inspected

/-- An entry that was there at the beginning of the scan and has its recorded
time now had it at the beginning, as the newest one. -/
theorem Inspected.versions {index : Nat} (inspected : Inspected state index)
    (recorded : Recorded state) (hasContext : state.hasContext = true)
    (early : index < state.pass.entries) {path : Path} {version : Version}
    (entry : state.loadedScripts[index]? = some (path, version.time))
    (current : (state.files path).current = some version) :
    ∃ older, (state.pass.files path).versions = version :: older := by
  have known := inspected.entries hasContext index early path version.time entry
  obtain ⟨more, grown⟩ := inspected.grown path
  obtain ⟨older, newest⟩ := versions_of_current current
  have distinct := recorded.distinct path
  rw [File.times, grown] at distinct
  rw [grown] at newest
  obtain rfl := eq_nil_of_newest distinct newest known
  exact ⟨older, newest⟩

theorem Inspected.unchanged {index : Nat} (inspected : Inspected state index)
    (recorded : Recorded state) {path : Path} {version : Version}
    (entry : state.loadedScripts[index]? = some (path, version.time))
    (current : (state.files path).current = some version) :
    Inspected { state with
      phase := .scanning (index + 1)
      pass := { state.pass with
        inspected := ⟨index, path, version.content⟩ ::
          state.pass.inspected } } (index + 1) := by
  refine ⟨inspected.grown, inspected.bound, inspected.empty,
    inspected.entries, inspected.executed, ?_, ?_⟩
  · intro hasContext position early before otherPath time otherEntry
    rcases Nat.lt_succ_iff_lt_or_eq.mp before with earlier | rfl
    · obtain ⟨old, older, versions, timeEq, inspectionMem⟩ :=
        inspected.checked hasContext position early earlier otherPath time
          otherEntry
      exact ⟨old, older, versions, timeEq,
        List.mem_cons_of_mem _ inspectionMem⟩
    · obtain ⟨rfl, rfl⟩ : path = otherPath ∧ version.time = time := by
        simpa using entry.symm.trans otherEntry
      obtain ⟨older, versions⟩ :=
        inspected.versions recorded hasContext early entry current
      exact ⟨version, older, versions, rfl, List.mem_cons_self⟩
  · intro hasContext inspection inspectionMem early
    rcases List.mem_cons.mp inspectionMem with rfl | earlier
    · obtain ⟨older, versions⟩ :=
        inspected.versions recorded hasContext early entry current
      exact ⟨version, older, versions, rfl⟩
    · exact inspected.inspected hasContext inspection earlier early

structure ScanInvariant (state : State) : Prop where
  recorded : Recorded state
  inspected : ∀ index, state.phase = .scanning index → Inspected state index

theorem scanInvariant_initial (scriptPath : Path) :
    ScanInvariant (initial scriptPath) where
  recorded := recorded_initial scriptPath
  inspected := by
    intro index scanning
    cases scanning
    exact inspected_initial scriptPath

theorem keeps_leave (state : State) (outer : List Activation) :
    (state.leave outer).pass = state.pass ∧
      (state.leave outer).hasContext = state.hasContext ∧
      ∀ index, (state.leave outer).phase = .scanning index →
        state.phase = .scanning index := by
  unfold State.leave
  split
  · exact ⟨rfl, rfl, by simp⟩
  · exact ⟨rfl, rfl, fun _ scanning => scanning⟩

theorem ScanInvariant.step (invariant : ScanInvariant state)
    (succeeds : statSucceeds state action = true)
    (transition : Transition scriptPath state action next) :
    ScanInvariant next := by
  refine ⟨invariant.recorded.step transition, ?_⟩
  have extension := extends_of_transition transition
  have keeps (keepsScripts : action ≠ .reset)
      (pass : next.pass = state.pass)
      (context : next.hasContext = state.hasContext)
      (phase : ∀ index, next.phase = .scanning index →
        state.phase = .scanning index) :
      ∀ index, next.phase = .scanning index → Inspected next index :=
    fun index scanning =>
      (invariant.inspected index (phase index scanning)).extend
        (extension keepsScripts) pass context
  cases transition with
  | save => exact keeps (by simp) rfl rfl fun _ scanning => scanning
  | delete => exact keeps (by simp) rfl rfl fun _ scanning => scanning
  | beginPass =>
      intro index scanning
      cases scanning
      exact invariant.recorded.inspected
  | missing index path time scanning entry missing =>
      simp [statSucceeds, scanning, entry, missing] at succeeds
  | changed => simp
  | unchanged index path version scanning entry current =>
      intro other otherScanning
      cases otherScanning
      exact (invariant.inspected index scanning).unchanged invariant.recorded
        entry current
  | endPass => simp
  | reset => simp
  | executeMain => exact keeps (by simp) rfl rfl fun _ scanning => scanning
  | enterCallback => exact keeps (by simp) rfl rfl fun _ scanning => scanning
  | exitCallback => exact keeps (by simp) rfl rfl fun _ scanning => scanning
  | load => exact keeps (by simp) rfl rfl fun _ scanning => scanning
  | lastWriteTime => exact keeps (by simp) rfl rfl fun _ scanning => scanning
  | escapes => simp
  | pushBack => exact keeps (by simp) rfl rfl fun _ scanning => scanning
  | openFile => exact keeps (by simp) rfl rfl fun _ scanning => scanning
  | readFile => exact keeps (by simp) rfl rfl fun _ scanning => scanning
  | executeString => exact keeps (by simp) rfl rfl fun _ scanning => scanning
  | leaves _ innermost outer activations ends =>
      obtain ⟨pass, context, phase⟩ := keeps_leave state outer
      apply keeps _ pass context phase
      rintro rfl
      simp at ends

/-- A script executed before the scan is inspected by it, and every inspection
of its file through an entry from before the scan saw the text that was
executed. -/
def SeesExecuted (state : State) (execution : Execution) : Prop :=
  (∃ inspection ∈ state.pass.inspected,
    inspection.index < state.pass.entries ∧
      inspection.path = execution.path) ∧
    ∀ inspection ∈ state.pass.inspected,
      inspection.index < state.pass.entries →
        inspection.path = execution.path →
          inspection.content = execution.content

theorem ScanInvariant.seesExecuted (invariant : ScanInvariant state)
    (scanned : state.phase = .scanning state.loadedScripts.length) :
    ∀ execution ∈ state.pass.executed, SeesExecuted state execution := by
  intro execution executionMem
  have inspected := invariant.inspected _ scanned
  have hasContext : state.hasContext = true := by
    by_contra noContext
    rw [Bool.not_eq_true] at noContext
    rw [inspected.empty noContext] at executionMem
    cases executionMem
  obtain ⟨⟨position, early, entry⟩, since⟩ :=
    inspected.executed execution executionMem
  have before : position < state.loadedScripts.length :=
    Nat.lt_of_lt_of_le early inspected.bound
  obtain ⟨version, older, versions, timeEq, inspectionMem⟩ :=
    inspected.checked hasContext position early before _ _ entry
  have executedText : execution.content = version.content := by
    obtain ⟨more, grown⟩ := inspected.grown execution.path
    have distinct := invariant.recorded.distinct execution.path
    rw [File.times, grown, List.map_append, versions] at distinct
    rw [versions, ← timeEq] at since
    exact since.eq_newest (List.nodup_append.mp distinct).2.1
  refine ⟨⟨_, inspectionMem, early, rfl⟩, ?_⟩
  intro inspection otherMem otherEarly samePath
  obtain ⟨newest, rest, otherVersions, contentEq⟩ :=
    inspected.inspected hasContext inspection otherMem otherEarly
  rw [samePath, versions] at otherVersions
  cases otherVersions
  rw [← contentEq, executedText]

/-- The action changes a file. -/
def Action.changesFiles : Action → Bool
  | .save _ _ _ | .delete _ => true
  | _ => false

/-- Everything recorded is current, and the scan has found no change. -/
structure Fresh (state : State) : Prop where
  scripts : ∀ path time, (path, time) ∈ state.loadedScripts →
    ∀ version, (state.files path).current = some version →
      time = version.time
  stages : ∀ path time, ⟨path, .pushBack time⟩ ∈ state.activations →
    ∀ version, (state.files path).current = some version →
      time = version.time
  scan : state.phase ≠ .resetting

theorem Fresh.setStage (fresh : Fresh state) {path : Path}
    {stage : Stage} {outer : List Activation}
    (kept : ∀ activation ∈ outer, activation ∈ state.activations)
    (current : ∀ time, stage = .pushBack time →
      ∀ version, (state.files path).current = some version →
        time = version.time) :
    Fresh (state.setStage path outer stage) := by
  refine ⟨fresh.scripts, ?_, fresh.scan⟩
  intro other time activationMem
  rcases List.mem_cons.mp activationMem with innermost | outerMem
  · cases innermost
    exact current time rfl
  · exact fresh.stages other time (kept _ outerMem)

theorem Fresh.leave (fresh : Fresh state) {outer : List Activation}
    (kept : ∀ activation ∈ outer, activation ∈ state.activations) :
    Fresh (state.leave outer) := by
  unfold State.leave
  split
  · exact ⟨fresh.scripts, by simp, by simp⟩
  · exact ⟨fresh.scripts,
      fun path time activationMem =>
        fresh.stages path time (kept _ activationMem),
      fresh.scan⟩

/-- As long as files do not change, a fresh state stays fresh, and it has no
reason to reset. -/
theorem Fresh.step (fresh : Fresh state)
    (quiet : action.changesFiles = false)
    (transition : Transition scriptPath state action next) :
    Fresh next ∧ action ≠ .reset := by
  cases transition with
  | save => cases quiet
  | delete => cases quiet
  | beginPass => exact ⟨⟨fresh.scripts, fresh.stages, by simp⟩, by simp⟩
  | missing => exact ⟨⟨fresh.scripts, fresh.stages, by simp⟩, by simp⟩
  | changed index path time version scanning entry current changed =>
      refine (changed ?_).elim
      exact fresh.scripts path time (List.mem_of_getElem? entry) version
        current
  | unchanged => exact ⟨⟨fresh.scripts, fresh.stages, by simp⟩, by simp⟩
  | endPass => exact ⟨⟨fresh.scripts, fresh.stages, by simp⟩, by simp⟩
  | reset resetting => exact (fresh.scan resetting).elim
  | executeMain =>
      exact ⟨⟨fresh.scripts, by simp, fresh.scan⟩, by simp⟩
  | enterCallback =>
      exact ⟨⟨fresh.scripts, fresh.stages, fresh.scan⟩, by simp⟩
  | exitCallback =>
      exact ⟨⟨fresh.scripts, fresh.stages, fresh.scan⟩, by simp⟩
  | load path =>
      exact ⟨fresh.setStage (fun _ mem => mem) (by simp), by simp⟩
  | lastWriteTime path outer version innermost current =>
      refine ⟨fresh.setStage (mem_of_outer innermost) ?_, by simp⟩
      rintro time ⟨⟩ other otherCurrent
      rw [current] at otherCurrent
      cases otherCurrent
      rfl
  | escapes => exact ⟨⟨fresh.scripts, by simp, by simp⟩, by simp⟩
  | pushBack path outer time innermost =>
      have staged : Fresh (state.setStage path outer (.openFile time)) :=
        fresh.setStage (mem_of_outer innermost) (by simp)
      refine ⟨⟨?_, staged.stages, staged.scan⟩, by simp⟩
      intro other otherTime listed
      rcases List.mem_append.mp listed with old | new
      · exact fresh.scripts other otherTime old
      · cases List.mem_singleton.mp new
        apply fresh.stages path time
        rw [innermost]
        exact List.mem_cons_self
  | openFile path outer time innermost =>
      exact ⟨fresh.setStage (mem_of_outer innermost) (by simp), by simp⟩
  | readFile path outer time version older innermost =>
      exact ⟨fresh.setStage (mem_of_outer innermost) (by simp), by simp⟩
  | executeString path outer time content innermost =>
      have staged : Fresh (state.setStage path outer .running) :=
        fresh.setStage (mem_of_outer innermost) (by simp)
      exact ⟨⟨staged.scripts, staged.stages, staged.scan⟩, by simp⟩
  | leaves _ innermost outer activations ends =>
      refine ⟨fresh.leave (mem_of_outer activations), ?_⟩
      rintro rfl
      simp at ends

theorem Fresh.run (fresh : Fresh state) {schedule : List Action}
    (quiet : ∀ action ∈ schedule, action.changesFiles = false)
    {final : State}
    (runs : ScheduledMachine.run (ScriptWatcher.step scriptPath) state schedule =
      some final) :
    Fresh final ∧ Action.reset ∉ schedule := by
  induction schedule generalizing state with
  | nil =>
      cases runs
      exact ⟨fresh, by simp⟩
  | cons action rest ih =>
      obtain ⟨next, stepTo, restRuns⟩ := run_cons_eq_some.mp runs
      rw [List.forall_mem_cons] at quiet
      obtain ⟨nextFresh, notReset⟩ :=
        fresh.step quiet.1 (transition_of_step stepTo)
      obtain ⟨finalFresh, noReset⟩ := ih nextFresh quiet.2 restRuns
      exact ⟨finalFresh, by simp [Ne.symm notReset, noReset]⟩

theorem Recorded.fresh_of_reset (recorded : Recorded state)
    (transition : Transition scriptPath state .reset next) : Fresh next := by
  cases transition with
  | reset resetting unlocked =>
      exact ⟨by simp, by simp [recorded.unlocked unlocked], by simp⟩
  | leaves _ innermost outer activations ends => simp at ends

/-- Without further changes there is at most one more reset, and after it no
scan finds a reason for another one. -/
theorem Recorded.resets_le_one (recorded : Recorded state)
    {schedule : List Action}
    (quiet : ∀ action ∈ schedule, action.changesFiles = false)
    {final : State}
    (runs : ScheduledMachine.run (ScriptWatcher.step scriptPath) state schedule =
      some final) :
    schedule.count .reset ≤ 1 ∧
      (.reset ∈ schedule → final.phase ≠ .resetting) := by
  induction schedule generalizing state with
  | nil => simp
  | cons action rest ih =>
      obtain ⟨next, stepTo, restRuns⟩ := run_cons_eq_some.mp runs
      have transition := transition_of_step stepTo
      rw [List.forall_mem_cons] at quiet
      by_cases resets : action = .reset
      · subst resets
        have fresh := recorded.fresh_of_reset transition
        obtain ⟨finalFresh, noReset⟩ := fresh.run quiet.2 restRuns
        rw [List.count_cons_self, List.count_eq_zero_of_not_mem noReset]
        exact ⟨Nat.le_refl 1, fun _ => finalFresh.scan⟩
      · obtain ⟨fewResets, noReason⟩ :=
          ih (recorded.step transition) quiet.2 restRuns
        rw [List.count_cons_of_ne resets]
        refine ⟨fewResets, fun resetMem => noReason ?_⟩
        rcases List.mem_cons.mp resetMem with first | later
        · exact (resets first.symm).elim
        · exact later

/-- The innermost `execute_file` is about to add its script to
`loaded_scripts`. -/
def State.pushes (state : State) : Action → Bool
  | .advance =>
      match state.activations with
      | ⟨_, .pushBack _⟩ :: _ => true
      | _ => false
  | _ => false

/-- A script is added during a scan. -/
def State.disturbs (state : State) (action : Action) : Bool :=
  match state.phase with
  | .scanning _ => state.pushes action
  | _ => false

/-- The scan holds an iterator into the vector `loaded_scripts` and does not
take the engine lock.  When a callback adds an entry meanwhile, two threads use
the vector at the same time and the entries may move, so that nothing is known
about the rest of the run. -/
inductive Shared
  | defined (state : State)
  | undefined

def sharedStep (scriptPath : Path) (shared : Shared) (action : Action) :
    Option Shared :=
  match shared with
  | .defined state =>
      (step scriptPath state action).map fun next =>
        if state.disturbs action then .undefined else .defined next
  | .undefined => some .undefined

/-- The questions of the loop for a last write time are answered. -/
def Answered (shared : Shared) (action : Action) : Prop :=
  match shared with
  | .defined state => statSucceeds state action = true
  | .undefined => True

/-- No script is added during a scan. -/
def Undisturbed (shared : Shared) (action : Action) : Prop :=
  match shared with
  | .defined state => state.disturbs action = false
  | .undefined => True

instance (shared : Shared) (action : Action) :
    Decidable (Answered shared action) :=
  match shared with
  | .defined _ => inferInstanceAs (Decidable (_ = true))
  | .undefined => .isTrue trivial

instance (shared : Shared) (action : Action) :
    Decidable (Undisturbed shared action) :=
  match shared with
  | .defined _ => inferInstanceAs (Decidable (_ = false))
  | .undefined => .isTrue trivial

/-- If the scan is at its end without a reload, it saw the text of every script
that was executed before it began; and if files do not change from now on, there
is at most one more reset, after which no scan finds a change. -/
def Noticed (scriptPath : Path) : Shared → Prop
  | .defined state =>
      (state.phase = .scanning state.loadedScripts.length →
        ∀ execution ∈ state.pass.executed, SeesExecuted state execution) ∧
      ∀ quiet final, (∀ action ∈ quiet, action.changesFiles = false) →
        Respects (sharedStep scriptPath) Undisturbed (.defined state) quiet →
          run (sharedStep scriptPath) (.defined state) quiet = some final →
            quiet.count .reset ≤ 1 ∧
              ∀ last, final = .defined last → .reset ∈ quiet →
                last.phase ≠ .resetting
  | .undefined => False

theorem sharedStep_of_undisturbed {action : Action} {reached : Shared}
    (undisturbed : Undisturbed (.defined state) action)
    (stepTo : sharedStep scriptPath (.defined state) action = some reached) :
    ∃ next, reached = .defined next ∧
      step scriptPath state action = some next := by
  obtain ⟨next, steps, same⟩ := Option.map_eq_some_iff.mp stepTo
  rw [if_neg (by rw [show state.disturbs action = false from undisturbed]; simp)]
    at same
  exact ⟨next, same.symm, steps⟩

/-- A run in which no scan is disturbed is one of the engine. -/
theorem run_of_undisturbed {schedule : List Action} {reached : Shared}
    (undisturbed : Respects (sharedStep scriptPath) Undisturbed
      (.defined state) schedule)
    (runs : run (sharedStep scriptPath) (.defined state) schedule =
      some reached) :
    ∃ final, reached = .defined final ∧
      run (step scriptPath) state schedule = some final := by
  induction schedule generalizing state with
  | nil =>
      cases runs
      exact ⟨state, rfl, rfl⟩
  | cons action rest ih =>
      obtain ⟨between, stepTo, restRuns⟩ := run_cons_eq_some.mp runs
      obtain ⟨next, rfl, steps⟩ :=
        sharedStep_of_undisturbed undisturbed.1 stepTo
      obtain ⟨final, same, finalRuns⟩ := ih (undisturbed.2 _ stepTo) restRuns
      exact ⟨final, same, run_cons_eq_some.mpr ⟨next, steps, finalRuns⟩⟩

/-- The invariant of the scan, as long as no scan was disturbed. -/
theorem scanInvariant_of_run {schedule : List Action} {reached : Shared}
    (answered : Respects (sharedStep scriptPath) Answered
      (.defined state) schedule)
    (undisturbed : Respects (sharedStep scriptPath) Undisturbed
      (.defined state) schedule)
    (invariant : ScanInvariant state)
    (runs : run (sharedStep scriptPath) (.defined state) schedule =
      some reached) :
    ∃ final, reached = .defined final ∧ ScanInvariant final := by
  induction schedule generalizing state with
  | nil =>
      cases runs
      exact ⟨state, rfl, invariant⟩
  | cons action rest ih =>
      obtain ⟨between, stepTo, restRuns⟩ := run_cons_eq_some.mp runs
      obtain ⟨next, rfl, steps⟩ :=
        sharedStep_of_undisturbed undisturbed.1 stepTo
      exact ih (answered.2 _ stepTo) (undisturbed.2 _ stepTo)
        (invariant.step answered.1 (transition_of_step steps)) restRuns

theorem ScanInvariant.noticed (invariant : ScanInvariant state) :
    Noticed scriptPath (.defined state) := by
  refine ⟨invariant.seesExecuted, ?_⟩
  intro quiet final noChange undisturbed quietRuns
  obtain ⟨last, rfl, lastRuns⟩ := run_of_undisturbed undisturbed quietRuns
  obtain ⟨few, settled⟩ := invariant.recorded.resets_le_one noChange lastRuns
  refine ⟨few, ?_⟩
  rintro other ⟨⟩
  exact settled

/-- In a run in which no script is added during a scan, the scans notice all
changes; and a step that adds one can be followed by anything. -/
theorem scan_notices_changes {schedule : List Action} {reached : Shared}
    (answered : Respects (sharedStep scriptPath) Answered
      (.defined (initial scriptPath)) schedule)
    (undisturbed : Respects (sharedStep scriptPath) Undisturbed
      (.defined (initial scriptPath)) schedule)
    (runs : run (sharedStep scriptPath) (.defined (initial scriptPath))
      schedule = some reached) :
    Noticed scriptPath reached ∧
      ∀ action next, ¬ Undisturbed reached action →
        sharedStep scriptPath reached action = some next →
          ¬ Noticed scriptPath next := by
  obtain ⟨state, rfl, invariant⟩ := scanInvariant_of_run answered undisturbed
    (scanInvariant_initial scriptPath) runs
  refine ⟨invariant.noticed, ?_⟩
  intro action next disturbed stepTo
  obtain ⟨after, -, rfl⟩ := Option.map_eq_some_iff.mp stepTo
  rw [if_pos (Bool.of_not_eq_false disturbed)]
  exact not_false

/-- `Main.js` is saved and loaded, and the next scan inspects it. -/
def loadAndScan : List Action :=
  [.save [0x4D] 1 [7], .inspect, .reset, .executeMain, .advance, .advance,
    .advance, .advance, .advance, .finish, .beginPass, .inspect]

theorem scan_notices_changes_loadAndScan :
    ∃ final, run (sharedStep [0x4D]) (.defined (initial [0x4D]))
        loadAndScan = some (.defined final) ∧
      final.phase = .scanning final.loadedScripts.length ∧
      SeesExecuted final ⟨[0x4D], 1, [7]⟩ := by
  have answered : Respects (sharedStep [0x4D]) Answered
      (.defined (initial [0x4D])) loadAndScan := by
    decide
  have undisturbed : Respects (sharedStep [0x4D]) Undisturbed
      (.defined (initial [0x4D])) loadAndScan := by
    decide
  exact ⟨_, rfl, rfl,
    (scan_notices_changes answered undisturbed rfl).1.1 rfl _
      List.mem_cons_self⟩

/-- `Main.js` is saved and loaded.  A callback begins to load a second script,
and the next scan has just come to its first entry when the script is added. -/
def loadDuringScan : List Action :=
  [.save [0x4D] 1 [7], .save [0x4C] 2 [8], .inspect, .reset, .executeMain,
    .advance, .advance, .advance, .advance, .advance, .finish, .enterCallback,
    .load [0x4C], .advance, .beginPass, .advance]

theorem load_during_scan_undefined :
    ∃ reached, Respects (sharedStep [0x4D]) Answered
        (.defined (initial [0x4D])) loadDuringScan ∧
      run (sharedStep [0x4D]) (.defined (initial [0x4D])) loadDuringScan =
        some reached ∧ ¬ Noticed [0x4D] reached := by
  have answered : Respects (sharedStep [0x4D]) Answered
      (.defined (initial [0x4D])) loadDuringScan := by
    decide
  exact ⟨.undefined, answered, rfl, not_false⟩

end ScriptWatcher

end IISModuleJS
