import IISModuleJS.FileContents
import IISModuleJS.KeyedFiles
import IISModuleJS.SandboxConfinement

/-!
# The `fs` API as a store of files

The five functions resolve their file names through one cache and then read and
change the files of a disk.  Over any run of calls the cache is invisible: a call
has its outcome and its changes as if it were the first one.  So scripts work on
a store whose keys are the resolved names.

A run whose names are safe to truncate changes no file outside the filesystem
directory, and nothing outside has an influence on it.
-/

namespace IISModuleJS

namespace FileStore

open WString RelativeFilePath FileSystemApi JsValue FileContents KeyedFiles
open SandboxConfinement (Confined TruncationSafe confined_resolvedPath_iff
  driveFolder poolFolder)

/-- What the operating system permits, and which paths are directories. -/
structure Volume where
  mayOpen : WString → OpenMode → Bool
  mayDelete : WString → Bool
  isDirectory : WString → Bool

section Api

variable (directory : WString) (volume : Volume)

/-- `CopyFileW` succeeds. -/
def canCopy (disk : Disk) (existing new : WString) (failIfExists : Bool) :
    Bool :=
  (disk existing).isSome && volume.mayOpen existing .readBinary &&
    volume.mayOpen new .writeBinary && existing != new &&
    !(failIfExists && (disk new).isSome)

/-- The calls of the operating system that return a flag. -/
def callFlag (disk : Disk) : OsCall → Bool × Disk
  | .copyFile existing new failIfExists =>
      if canCopy volume disk existing new failIfExists then
        (true, Function.update disk new (disk existing))
      else (false, disk)
  | .pathFileExists path =>
      ((disk path).isSome || volume.isDirectory path, disk)
  | .deleteFile path =>
      if (disk path).isSome && volume.mayDelete path then
        (true, Function.update disk path none)
      else (false, disk)
  | .openFile _ _ => (false, disk)

/-- A function that returns the flag of its call. -/
def returnFlag (state : State) :
    Except String (OsCall × PathCache) → Outcome × State
  | .error message => (.throws message, state)
  | .ok (osCall, cachedPaths) =>
      (.returns (.boolean (callFlag volume state.disk osCall).1),
        ⟨cachedPaths, (callFlag volume state.disk osCall).2⟩)

/-- `fs.copy`. -/
def copy (state : State) (args : List JsValue) : Outcome × State :=
  returnFlag volume state (fsCopy directory state.cachedPaths args)

/-- `fs.exists`. -/
def fileExists (state : State) (args : List JsValue) : Outcome × State :=
  returnFlag volume state (fsExists directory state.cachedPaths args)

/-- `fs.delete`. -/
def delete (state : State) (args : List JsValue) : Outcome × State :=
  returnFlag volume state (fsDelete directory state.cachedPaths args)

def perform (state : State) (call : FsCall) : Outcome × State :=
  match call.function with
  | .copy => copy directory volume state call.args
  | .fileExists => fileExists directory volume state call.args
  | .delete => delete directory volume state call.args
  | .write => write directory volume.mayOpen state call.args
  | .read => read directory volume.mayOpen state call.args

/-- A run of calls: their outcomes, and the state behind them. -/
def runCalls (state : State) : List FsCall → List Outcome × State
  | [] => ([], state)
  | call :: calls =>
      let (outcome, next) := perform directory volume state call
      let (outcomes, last) := runCalls next calls
      (outcome :: outcomes, last)

/-- The outcome of a call, and what it changes. -/
structure Effect where
  outcome : Outcome
  changes : List (Change WString UInt8)

/-- How a file is opened for writing. -/
def openChange (path : WString) : OpenMode → Change WString UInt8
  | .writeBinary => .empty path
  | _ => .append path []

/-- Writing to a file that can be opened. -/
def writeEffect (path : WString) (mode : OpenMode) (content : JsValue) :
    Effect :=
  match writtenBytes content with
  | none => ⟨.throws "invalid data type provided.", [openChange path mode]⟩
  | some bytes =>
      ⟨.returns .undefined, [openChange path mode, .append path bytes]⟩

/-- The effect of a call of the operating system, with the arguments of the
script. -/
def osEffect (disk : Disk) (args : List JsValue) : OsCall → Effect
  | .copyFile existing new failIfExists =>
      if canCopy volume disk existing new failIfExists then
        ⟨.returns (.boolean true), [.copy existing new]⟩
      else ⟨.returns (.boolean false), []⟩
  | .pathFileExists path =>
      ⟨.returns (.boolean ((disk path).isSome || volume.isDirectory path)), []⟩
  | .deleteFile path =>
      if (disk path).isSome && volume.mayDelete path then
        ⟨.returns (.boolean true), [.remove path]⟩
      else ⟨.returns (.boolean false), []⟩
  | .openFile path .readBinary =>
      match disk path with
      | some contents =>
          if volume.mayOpen path .readBinary then
            ⟨readContents contents (optionalFlag args 1), []⟩
          else ⟨.throws "unable to open file handle.", []⟩
      | none => ⟨.throws "unable to open file handle.", []⟩
  | .openFile path mode =>
      if volume.mayOpen path mode then
        writeEffect path mode (argument args 1)
      else ⟨.throws "unable to open file handle.", []⟩

/-- The effect of a call with resolved names. -/
def resolvedEffect (disk : Disk) (args : List JsValue) :
    Except String (OsCall × PathCache) → Effect
  | .error message => ⟨.throws message, []⟩
  | .ok (osCall, _) => osEffect volume disk args osCall

/-- The effect of a call on a store, without any cache. -/
def effect (disk : Disk) (call : FsCall) : Effect :=
  resolvedEffect volume disk call.args (call.invoke directory [])

/-- A run of effects. -/
def runEffects (disk : Disk) : List FsCall → List Outcome × Disk
  | [] => ([], disk)
  | call :: calls =>
      let performed := effect directory volume disk call
      let (outcomes, last) := runEffects (run disk performed.changes) calls
      (performed.outcome :: outcomes, last)

end Api

/-- A volume without directories that permits everything. -/
def openVolume : Volume where
  mayOpen _ _ := true
  mayDelete _ := true
  isDirectory _ := false

def letterExists : FsCall :=
  ⟨.fileExists, [.string [0x61]]⟩

def writeAndRead : List FsCall :=
  [⟨.write, [.string [0x61], .string [0x62]]⟩, ⟨.read, [.string [0x61]]⟩]

section Refinement

variable {directory : WString} {volume : Volume}

theorem cacheSound_nil (directory : WString) : CacheSound directory [] := by
  intro raw path found
  cases found

theorem withFileName_uncached {arity : Nat} {function : String}
    {call : WString → OsCall} {cachedPaths : PathCache}
    (sound : CacheSound directory cachedPaths) (args : List JsValue) :
    (withFileName arity function call directory cachedPaths args).map
        Prod.fst =
      (withFileName arity function call directory [] args).map Prod.fst := by
  unfold withFileName
  split
  next short => rfl
  next long =>
    split
    next fileName isString =>
      have fresh := getRelativeFilePath_path (cacheSound_nil directory) fileName
      have cached := getRelativeFilePath_path sound fileName
      simp only [Except.map, fresh, cached]
    next other => rfl

theorem fsCopy_uncached {cachedPaths : PathCache}
    (sound : CacheSound directory cachedPaths) (args : List JsValue) :
    (fsCopy directory cachedPaths args).map Prod.fst =
      (fsCopy directory [] args).map Prod.fst := by
  unfold fsCopy
  split
  next short => rfl
  next long =>
    split
    next existingFileName newFileName existingString newString =>
      have nilSound := cacheSound_nil directory
      have freshExisting := getRelativeFilePath_path nilSound existingFileName
      have freshNew := getRelativeFilePath_path
        (getRelativeFilePath_sound nilSound existingFileName) newFileName
      have cachedExisting := getRelativeFilePath_path sound existingFileName
      have cachedNew := getRelativeFilePath_path
        (getRelativeFilePath_sound sound existingFileName) newFileName
      simp only [Except.map, freshExisting, freshNew, cachedExisting, cachedNew]
    next other => rfl

/-- A call reaches the operating system as without the cache. -/
theorem invoke_uncached {cachedPaths : PathCache}
    (sound : CacheSound directory cachedPaths) (call : FsCall) :
    (call.invoke directory cachedPaths).map Prod.fst =
      (call.invoke directory []).map Prod.fst := by
  obtain ⟨function, args⟩ := call
  cases function with
  | copy => exact fsCopy_uncached sound args
  | fileExists => exact withFileName_uncached sound args
  | delete => exact withFileName_uncached sound args
  | write =>
      simp only [FsCall.invoke, fsWrite]
      exact withFileName_uncached sound args
  | read =>
      simp only [FsCall.invoke, fsRead]
      exact withFileName_uncached sound args

/-- A call is refused with and without the cache, or makes the same call of the
operating system. -/
theorem invoke_cases {cachedPaths : PathCache}
    (sound : CacheSound directory cachedPaths) (call : FsCall) :
    (∃ message, call.invoke directory cachedPaths = .error message ∧
        call.invoke directory [] = .error message) ∨
      ∃ osCall next fresh,
        call.invoke directory cachedPaths = .ok (osCall, next) ∧
        call.invoke directory [] = .ok (osCall, fresh) := by
  have same := invoke_uncached sound call
  cases cached : call.invoke directory cachedPaths with
  | error message =>
      cases fresh : call.invoke directory [] with
      | error other =>
          rw [cached, fresh] at same
          cases same
          exact .inl ⟨message, rfl, rfl⟩
      | ok pair =>
          rw [cached, fresh] at same
          cases same
  | ok pair =>
      obtain ⟨osCall, next⟩ := pair
      cases fresh : call.invoke directory [] with
      | error message =>
          rw [cached, fresh] at same
          cases same
      | ok other =>
          obtain ⟨freshCall, freshNext⟩ := other
          rw [cached, fresh] at same
          cases same
          exact .inr ⟨osCall, next, freshNext, rfl, rfl⟩

theorem effect_eq {cachedPaths : PathCache}
    (sound : CacheSound directory cachedPaths) (disk : Disk) (call : FsCall) :
    effect directory volume disk call =
      resolvedEffect volume disk call.args
        (call.invoke directory cachedPaths) := by
  rcases invoke_cases sound call with
    ⟨message, cached, fresh⟩ | ⟨osCall, next, freshNext, cached, fresh⟩
  · rw [effect, cached, fresh]
  · rw [effect, cached, fresh, resolvedEffect, resolvedEffect]

theorem withFileName_call {arity : Nat} {function : String}
    {call : WString → OsCall} {cachedPaths next : PathCache}
    {args : List JsValue} {osCall : OsCall}
    (returns : withFileName arity function call directory cachedPaths args =
      .ok (osCall, next)) :
    ∃ path, osCall = call path := by
  unfold withFileName at returns
  split at returns
  next short => cases returns
  next long =>
    split at returns
    next fileName isString =>
      cases returns
      exact ⟨_, rfl⟩
    next other => cases returns

theorem fsCopy_call {cachedPaths next : PathCache} {args : List JsValue}
    {osCall : OsCall}
    (returns : fsCopy directory cachedPaths args = .ok (osCall, next)) :
    ∃ existing new failIfExists,
      osCall = .copyFile existing new failIfExists := by
  unfold fsCopy at returns
  split at returns
  next short => cases returns
  next long =>
    split at returns
    next existingFileName newFileName existingString newString =>
      cases returns
      exact ⟨_, _, _, rfl⟩
    next other => cases returns

/-- A call has an effect: its outcome, its changes, and a sound cache. -/
structure Performs (directory : WString) (state : State) (effect : Effect)
    (result : Outcome × State) : Prop where
  outcome : result.1 = effect.outcome
  disk : result.2.disk = run state.disk effect.changes
  sound : CacheSound directory result.2.cachedPaths

theorem returnFlag_performs {state : State} (args : List JsValue)
    {osCall : OsCall} {next : PathCache} (sound : CacheSound directory next)
    (noOpen : ∀ path mode, osCall ≠ .openFile path mode) :
    Performs directory state (osEffect volume state.disk args osCall)
      (returnFlag volume state (.ok (osCall, next))) := by
  refine ⟨?_, ?_, sound⟩
  · cases osCall with
    | copyFile existing new failIfExists =>
        simp only [returnFlag, callFlag, osEffect]
        split <;> rfl
    | pathFileExists path => rfl
    | deleteFile path =>
        simp only [returnFlag, callFlag, osEffect]
        split <;> rfl
    | openFile path mode => exact absurd rfl (noOpen path mode)
  · cases osCall with
    | copyFile existing new failIfExists =>
        simp only [returnFlag, callFlag, osEffect]
        split <;> rfl
    | pathFileExists path => rfl
    | deleteFile path =>
        simp only [returnFlag, callFlag, osEffect]
        split <;> rfl
    | openFile path mode => exact absurd rfl (noOpen path mode)

theorem osEffect_copy (disk : Disk) (args : List JsValue)
    (existing new : WString) (failIfExists : Bool) :
    osEffect volume disk args (.copyFile existing new failIfExists) =
      if canCopy volume disk existing new failIfExists then
        ⟨.returns (.boolean true), [.copy existing new]⟩
      else ⟨.returns (.boolean false), []⟩ :=
  rfl

theorem osEffect_delete (disk : Disk) (args : List JsValue) (path : WString) :
    osEffect volume disk args (.deleteFile path) =
      if (disk path).isSome && volume.mayDelete path then
        ⟨.returns (.boolean true), [.remove path]⟩
      else ⟨.returns (.boolean false), []⟩ :=
  rfl

theorem osEffect_write (disk : Disk) (args : List JsValue) (path : WString) :
    osEffect volume disk args (.openFile path .writeBinary) =
      if volume.mayOpen path .writeBinary then
        writeEffect path .writeBinary (argument args 1)
      else ⟨.throws "unable to open file handle.", []⟩ :=
  rfl

theorem osEffect_append (disk : Disk) (args : List JsValue) (path : WString) :
    osEffect volume disk args (.openFile path .appendBinary) =
      if volume.mayOpen path .appendBinary then
        writeEffect path .appendBinary (argument args 1)
      else ⟨.throws "unable to open file handle.", []⟩ :=
  rfl

/-- Opening for writing and then writing. -/
theorem write_performs {state : State} {args : List JsValue} {path : WString}
    {mode : OpenMode} {next : PathCache} (writes : mode ≠ .readBinary)
    (sound : CacheSound directory next)
    (resolved : fsWrite directory state.cachedPaths args =
      .ok (.openFile path mode, next)) :
    Performs directory state
      (osEffect volume state.disk args (.openFile path mode))
      (write directory volume.mayOpen state args) := by
  have appendNil : (Change.append path []).apply state.disk =
      Function.update state.disk path (some ((state.disk path).getD [])) := by
    rw [Change.apply, Change.contents, List.append_nil]
    rfl
  cases mode with
  | readBinary => exact absurd rfl writes
  | writeBinary =>
      have opened : openFile volume.mayOpen state.disk
          (.openFile path .writeBinary) =
          if volume.mayOpen path .writeBinary then
            some (path, Function.update state.disk path (some []))
          else none := rfl
      rw [FileContents.write, resolved]
      dsimp only
      rw [opened, osEffect_write]
      cases volume.mayOpen path .writeBinary with
      | false => exact ⟨rfl, rfl, sound⟩
      | true =>
          rw [if_pos rfl, if_pos rfl, writeEffect]
          cases writtenBytes (argument args 1) with
          | none => exact ⟨rfl, rfl, sound⟩
          | some bytes => exact ⟨rfl, rfl, sound⟩
  | appendBinary =>
      have opened : openFile volume.mayOpen state.disk
          (.openFile path .appendBinary) =
          if volume.mayOpen path .appendBinary then
            some (path, Function.update state.disk path
              (some ((state.disk path).getD [])))
          else none := rfl
      rw [FileContents.write, resolved]
      dsimp only
      rw [opened, osEffect_append]
      cases volume.mayOpen path .appendBinary with
      | false => exact ⟨rfl, rfl, sound⟩
      | true =>
          rw [if_pos rfl, if_pos rfl, writeEffect]
          cases writtenBytes (argument args 1) with
          | none => exact ⟨rfl, appendNil.symm, sound⟩
          | some bytes =>
              refine ⟨rfl, ?_, sound⟩
              dsimp only
              rw [run_cons]
              exact congrArg (fun disk => (Change.append path bytes).apply disk)
                appendNil.symm

theorem read_performs {state : State} {args : List JsValue} {path : WString}
    {next : PathCache} (sound : CacheSound directory next)
    (resolved : fsRead directory state.cachedPaths args =
      .ok (.openFile path .readBinary, next)) :
    Performs directory state
      (osEffect volume state.disk args (.openFile path .readBinary))
      (read directory volume.mayOpen state args) := by
  rw [FileContents.read, resolved]
  dsimp only
  rw [openFile, osEffect]
  cases found : state.disk path with
  | none =>
      simp only [Option.map_none, ite_self]
      exact ⟨rfl, rfl, sound⟩
  | some contents =>
      cases volume.mayOpen path .readBinary with
      | false => exact ⟨rfl, rfl, sound⟩
      | true =>
          refine ⟨?_, rfl, sound⟩
          simp [found]

/-- A call is refused, asks the operating system for a flag, writes, or reads. -/
inductive PerformCase (directory : WString) (volume : Volume) (state : State)
    (call : FsCall) : Prop
  | refused (message : String)
      (resolved : call.invoke directory state.cachedPaths = .error message)
      (performs : perform directory volume state call =
        (.throws message, state))
  | flag (osCall : OsCall) (next : PathCache)
      (resolved : call.invoke directory state.cachedPaths =
        .ok (osCall, next))
      (noOpen : ∀ path mode, osCall ≠ .openFile path mode)
      (performs : perform directory volume state call =
        returnFlag volume state (.ok (osCall, next)))
  | writes (path : WString) (mode : OpenMode) (next : PathCache)
      (resolved : call.invoke directory state.cachedPaths =
        .ok (.openFile path mode, next))
      (toWrite : mode ≠ .readBinary)
      (written : fsWrite directory state.cachedPaths call.args =
        .ok (.openFile path mode, next))
      (performs : perform directory volume state call =
        write directory volume.mayOpen state call.args)
  | reads (path : WString) (next : PathCache)
      (resolved : call.invoke directory state.cachedPaths =
        .ok (.openFile path .readBinary, next))
      (read : fsRead directory state.cachedPaths call.args =
        .ok (.openFile path .readBinary, next))
      (performs : perform directory volume state call =
        FileContents.read directory volume.mayOpen state call.args)

theorem performCase_of_flag {state : State} {call : FsCall}
    (performs : perform directory volume state call =
      returnFlag volume state (call.invoke directory state.cachedPaths))
    (noOpen : ∀ osCall next,
      call.invoke directory state.cachedPaths = .ok (osCall, next) →
        ∀ path mode, osCall ≠ .openFile path mode) :
    PerformCase directory volume state call := by
  cases resolved : call.invoke directory state.cachedPaths with
  | error message =>
      rw [resolved] at performs
      exact .refused message resolved performs
  | ok pair =>
      rw [resolved] at performs
      exact .flag pair.1 pair.2 resolved (noOpen pair.1 pair.2 resolved)
        performs

theorem performCase (directory : WString) (volume : Volume) (state : State)
    (call : FsCall) : PerformCase directory volume state call := by
  obtain ⟨function, args⟩ := call
  cases function with
  | copy =>
      refine performCase_of_flag rfl fun osCall next resolved => ?_
      obtain ⟨existing, new, failIfExists, rfl⟩ := fsCopy_call resolved
      exact nofun
  | fileExists =>
      refine performCase_of_flag rfl fun osCall next resolved => ?_
      obtain ⟨path, rfl⟩ := withFileName_call resolved
      exact nofun
  | delete =>
      refine performCase_of_flag rfl fun osCall next resolved => ?_
      obtain ⟨path, rfl⟩ := withFileName_call resolved
      exact nofun
  | write =>
      cases resolved : fsWrite directory state.cachedPaths args with
      | error message =>
          refine .refused message resolved ?_
          rw [perform, FileContents.write, resolved]
      | ok pair =>
          obtain ⟨osCall, next⟩ := pair
          obtain ⟨path, rfl⟩ := withFileName_call resolved
          refine .writes path _ next resolved ?_ resolved rfl
          cases optionalFlag args 2 with
          | false => exact OpenMode.noConfusion
          | true => exact OpenMode.noConfusion
  | read =>
      cases resolved : fsRead directory state.cachedPaths args with
      | error message =>
          refine .refused message resolved ?_
          rw [perform, FileContents.read, resolved]
      | ok pair =>
          obtain ⟨osCall, next⟩ := pair
          obtain ⟨path, rfl⟩ := withFileName_call resolved
          exact .reads path next resolved resolved rfl

/-- Each call has the effect that it has without the cache. -/
theorem perform_performs {state : State}
    (sound : CacheSound directory state.cachedPaths) (call : FsCall) :
    Performs directory state (effect directory volume state.disk call)
      (perform directory volume state call) := by
  rw [effect_eq sound]
  cases performCase directory volume state call with
  | refused message resolved performs =>
      rw [resolved, performs]
      exact ⟨rfl, rfl, sound⟩
  | flag osCall next resolved noOpen performs =>
      rw [resolved, performs, resolvedEffect]
      exact returnFlag_performs call.args (invoke_resolved sound resolved).sound
        noOpen
  | writes path mode next resolved toWrite written performs =>
      rw [resolved, performs, resolvedEffect]
      exact write_performs toWrite (invoke_resolved sound resolved).sound
        written
  | reads path next resolved read performs =>
      rw [resolved, performs, resolvedEffect]
      exact read_performs (invoke_resolved sound resolved).sound read

/-- Over a run of calls the cache is invisible: the outcomes and the files are
those of the store. -/
theorem runCalls_eq_runEffects {state : State}
    (sound : CacheSound directory state.cachedPaths) (calls : List FsCall) :
    (runCalls directory volume state calls).1 =
        (runEffects directory volume state.disk calls).1 ∧
      (runCalls directory volume state calls).2.disk =
        (runEffects directory volume state.disk calls).2 := by
  induction calls generalizing state with
  | nil => exact ⟨rfl, rfl⟩
  | cons call calls ih =>
      obtain ⟨outcome, disk, nextSound⟩ :=
        @perform_performs directory volume state sound call
      obtain ⟨outcomes, last⟩ := ih nextSound
      rw [disk] at outcomes last
      rw [runCalls, runEffects]
      exact ⟨congrArg₂ List.cons outcome outcomes, last⟩

/-- The second call finds its name in the cache. -/
theorem runCalls_twice :
    (runCalls (fsDirectory driveFolder poolFolder) openVolume
        ⟨[], fun _ => none⟩ [letterExists, letterExists]).1 =
      (runEffects (fsDirectory driveFolder poolFolder) openVolume
        (fun _ => none) [letterExists, letterExists]).1 :=
  (runCalls_eq_runEffects (cacheSound_nil _) _).1

theorem osEffect_congr {first second : Disk} {osCall : OsCall}
    (agree : ∀ path ∈ osCall.paths, first path = second path)
    (args : List JsValue) :
    osEffect volume first args osCall = osEffect volume second args osCall := by
  cases osCall with
  | copyFile existing new failIfExists =>
      have existingSame := agree existing List.mem_cons_self
      have newSame := agree new (List.mem_cons_of_mem _ List.mem_cons_self)
      have same : canCopy volume first existing new failIfExists =
          canCopy volume second existing new failIfExists := by
        rw [canCopy, canCopy, existingSame, newSame]
      rw [osEffect_copy, osEffect_copy, same]
  | pathFileExists path =>
      rw [osEffect, osEffect, agree path List.mem_cons_self]
  | deleteFile path =>
      rw [osEffect_delete, osEffect_delete, agree path List.mem_cons_self]
  | openFile path mode =>
      cases mode with
      | readBinary =>
          rw [osEffect, osEffect, agree path List.mem_cons_self]
      | writeBinary => rw [osEffect_write, osEffect_write]
      | appendBinary => rw [osEffect_append, osEffect_append]

theorem changes_read (disk : Disk) (args : List JsValue) (path : WString) :
    (osEffect volume disk args (.openFile path .readBinary)).changes = [] := by
  rw [osEffect]
  cases disk path with
  | none => rfl
  | some contents =>
      cases volume.mayOpen path .readBinary with
      | false => rfl
      | true => rfl

theorem openChange_keys (path : WString) (mode : OpenMode) :
    (openChange path mode).keys = [path] := by
  cases mode <;> rfl

theorem writeEffect_keys {path : WString} {mode : OpenMode}
    {content : JsValue} :
    ∀ change ∈ (writeEffect path mode content).changes,
      ∀ key ∈ change.keys, key = path := by
  intro change member key keyMember
  have opening : change = openChange path mode ∨
      ∃ bytes, change = .append path bytes := by
    unfold writeEffect at member
    cases bytesEq : writtenBytes content with
    | none =>
        rw [bytesEq] at member
        exact .inl (List.mem_singleton.mp member)
    | some bytes =>
        rw [bytesEq] at member
        rcases List.mem_cons.mp member with opens | appends
        · exact .inl opens
        · exact .inr ⟨bytes, List.mem_singleton.mp appends⟩
  rcases opening with rfl | ⟨bytes, rfl⟩
  · rw [openChange_keys] at keyMember
    exact List.mem_singleton.mp keyMember
  · exact List.mem_singleton.mp keyMember

/-- A call changes and reads only the files of its paths. -/
theorem osEffect_keys {disk : Disk} {args : List JsValue} {osCall : OsCall} :
    ∀ change ∈ (osEffect volume disk args osCall).changes,
      ∀ key ∈ change.keys, key ∈ osCall.paths := by
  intro change member key keyMember
  cases osCall with
  | copyFile existing new failIfExists =>
      rw [osEffect_copy] at member
      split at member
      next copies =>
        rw [List.mem_singleton.mp member] at keyMember
        exact keyMember
      next refused => cases member
  | pathFileExists path => cases member
  | deleteFile path =>
      rw [osEffect_delete] at member
      split at member
      next deletes =>
        rw [List.mem_singleton.mp member] at keyMember
        exact keyMember
      next refused => cases member
  | openFile path mode =>
      have onlyPath : key = path := by
        cases mode with
        | readBinary =>
            rw [changes_read] at member
            cases member
        | writeBinary =>
            rw [osEffect_write] at member
            split at member
            next opens => exact writeEffect_keys change member key keyMember
            next refused => cases member
        | appendBinary =>
            rw [osEffect_append] at member
            split at member
            next opens => exact writeEffect_keys change member key keyMember
            next refused => cases member
      exact List.mem_singleton.mpr onlyPath

end Refinement

section Confinement

variable {knownFolder appPoolFolderName : TerminatedString} {volume : Volume}

/-- All file names of a call are safe to truncate. -/
def SafeCall (call : FsCall) : Prop :=
  ∀ name, .string name ∈ call.fileNameArguments → TruncationSafe name

theorem paths_confined {call : FsCall} (safe : SafeCall call)
    {osCall : OsCall} {next : PathCache}
    (resolved : call.invoke (fsDirectory knownFolder appPoolFolderName) [] =
      .ok (osCall, next)) :
    ∀ path ∈ osCall.paths,
      Confined (fsDirectory knownFolder appPoolFolderName) path := by
  obtain ⟨names, argumentsEq, pathsEq⟩ :=
    (invoke_resolved (cacheSound_nil _) resolved).paths
  intro path member
  rw [pathsEq] at member
  obtain ⟨name, nameMember, rfl⟩ := List.mem_map.mp member
  apply (confined_resolvedPath_iff knownFolder appPoolFolderName name).mpr
  apply safe name
  rw [argumentsEq]
  exact List.mem_map_of_mem nameMember

/-- A safe call reads and changes confined files only. -/
theorem effect_confined {call : FsCall} (safe : SafeCall call) (disk : Disk) :
    (∀ other : Disk, (∀ path,
        Confined (fsDirectory knownFolder appPoolFolderName) path →
          disk path = other path) →
      effect (fsDirectory knownFolder appPoolFolderName) volume disk call =
        effect (fsDirectory knownFolder appPoolFolderName) volume other
          call) ∧
    ∀ change ∈ (effect (fsDirectory knownFolder appPoolFolderName) volume disk
        call).changes, ∀ key ∈ change.keys,
      Confined (fsDirectory knownFolder appPoolFolderName) key := by
  unfold effect
  cases resolved : call.invoke (fsDirectory knownFolder appPoolFolderName)
      [] with
  | error message =>
      refine ⟨fun other agree => rfl, ?_⟩
      intro change member
      cases member
  | ok pair =>
      obtain ⟨osCall, next⟩ := pair
      have confined := paths_confined safe resolved
      refine ⟨?_, ?_⟩
      · intro other agree
        exact osEffect_congr (fun path member =>
          agree path (confined path member)) call.args
      · intro change member key keyMember
        exact confined key (osEffect_keys change member key keyMember)

theorem runEffects_confined {calls : List FsCall}
    (safe : ∀ call ∈ calls, SafeCall call) {first second : Disk}
    (agree : ∀ path,
      Confined (fsDirectory knownFolder appPoolFolderName) path →
        first path = second path) :
    (runEffects (fsDirectory knownFolder appPoolFolderName) volume first
        calls).1 =
      (runEffects (fsDirectory knownFolder appPoolFolderName) volume second
        calls).1 ∧
    (∀ path, Confined (fsDirectory knownFolder appPoolFolderName) path →
      (runEffects (fsDirectory knownFolder appPoolFolderName) volume first
          calls).2 path =
        (runEffects (fsDirectory knownFolder appPoolFolderName) volume second
          calls).2 path) ∧
    ∀ path, ¬ Confined (fsDirectory knownFolder appPoolFolderName) path →
      (runEffects (fsDirectory knownFolder appPoolFolderName) volume first
          calls).2 path = first path := by
  induction calls generalizing first second with
  | nil => exact ⟨rfl, agree, fun path outside => rfl⟩
  | cons call calls ih =>
      obtain ⟨same, within⟩ := @effect_confined knownFolder appPoolFolderName
        volume call (safe call List.mem_cons_self) first
      have effects := same second agree
      have nextAgree := run_congr within agree
      obtain ⟨outcomes, inside, outside⟩ := ih
        (fun other member => safe other (List.mem_cons_of_mem _ member))
        nextAgree
      rw [runEffects, runEffects, ← effects]
      refine ⟨congrArg (List.cons _) outcomes, inside, ?_⟩
      intro path isOutside
      dsimp only
      rw [outside path isOutside]
      apply run_of_forall_ne
      rintro change member rfl
      exact isOutside (within change member _ (target_mem_keys change))

/-- A run of calls whose file names are safe to truncate changes no file outside
the filesystem directory, and what is outside has no influence on its outcomes
and on what is inside. -/
theorem runCalls_confined {calls : List FsCall}
    (safe : ∀ call ∈ calls, SafeCall call) {first second : Disk}
    (agree : ∀ path,
      Confined (fsDirectory knownFolder appPoolFolderName) path →
        first path = second path) :
    (runCalls (fsDirectory knownFolder appPoolFolderName) volume ⟨[], first⟩
        calls).1 =
      (runCalls (fsDirectory knownFolder appPoolFolderName) volume
        ⟨[], second⟩ calls).1 ∧
    (∀ path, Confined (fsDirectory knownFolder appPoolFolderName) path →
      (runCalls (fsDirectory knownFolder appPoolFolderName) volume
          ⟨[], first⟩ calls).2.disk path =
        (runCalls (fsDirectory knownFolder appPoolFolderName) volume
          ⟨[], second⟩ calls).2.disk path) ∧
    ∀ path, ¬ Confined (fsDirectory knownFolder appPoolFolderName) path →
      (runCalls (fsDirectory knownFolder appPoolFolderName) volume
          ⟨[], first⟩ calls).2.disk path = first path := by
  obtain ⟨firstOutcomes, firstDisk⟩ := @runCalls_eq_runEffects
    (fsDirectory knownFolder appPoolFolderName) volume ⟨[], first⟩
    (cacheSound_nil _) calls
  obtain ⟨secondOutcomes, secondDisk⟩ := @runCalls_eq_runEffects
    (fsDirectory knownFolder appPoolFolderName) volume ⟨[], second⟩
    (cacheSound_nil _) calls
  rw [firstOutcomes, firstDisk, secondOutcomes, secondDisk]
  exact runEffects_confined safe agree

/-- Text is written to a file and read from it, whatever a file outside the
directory holds. -/
theorem runCalls_confined_letter :
    (runCalls (fsDirectory driveFolder poolFolder) openVolume
        ⟨[], fun _ => none⟩ writeAndRead).1 =
      (runCalls (fsDirectory driveFolder poolFolder) openVolume
        ⟨[], Function.update (fun _ => none) [0x62] (some [0x63])⟩
        writeAndRead).1 := by
  have safe : ∀ call ∈ writeAndRead, SafeCall call := by
    intro call member name nameMember
    have nameEq : name = [0x61] := by
      rcases List.mem_cons.mp member with rfl | rest
      · exact JsValue.string.inj (List.mem_singleton.mp nameMember)
      · rw [List.mem_singleton.mp rest] at nameMember
        exact JsValue.string.inj (List.mem_singleton.mp nameMember)
    rw [nameEq]
    unfold TruncationSafe
    decide
  refine (runCalls_confined safe ?_).1
  rintro path ⟨rest, rfl, -⟩
  have other : fsDirectory driveFolder poolFolder ++ rest ≠ [0x62] := by
    intro same
    have start : (fsDirectory driveFolder poolFolder).head? = some 0x43 := by
      decide
    have first := congrArg List.head? same
    rw [List.head?_append, start] at first
    cases first
  exact (Function.update_of_ne other (some [0x63])
    (fun _ : WString => (none : Option (List UInt8)))).symm

end Confinement

end FileStore

end IISModuleJS
