import IISModuleJS.JavaScriptValue
import IISModuleJS.RelativeFilePath

/-!
# The path arguments of the `fs` API

`fs.copy`, `fs.exists`, `fs.delete`, `fs.write` and `fs.read` check their
arguments, resolve each file name with `get_relative_file_path` and hand the
zero-terminated result to the operating system.  The resolved names are shared
through one static cache.

The file describes which strings reach the operating system after any history
of calls, and exactly which file names keep them inside the filesystem
directory.
-/

namespace IISModuleJS

namespace FileSystemApi

open WString SegmentStack RelativeFilePath JsValue

/-- A wide string that came from a zero-terminated one. -/
abbrev TerminatedString := { text : WString // (0 : WChar) ∉ text }

inductive OpenMode
  | readBinary
  | writeBinary
  | appendBinary
  deriving DecidableEq

/-- The operating-system calls that receive a resolved path, with the path as
the callee reads it. -/
inductive OsCall
  | copyFile (existing new : WString) (failIfExists : Bool)
  | pathFileExists (path : WString)
  | deleteFile (path : WString)
  | openFile (path : WString) (mode : OpenMode)
  deriving DecidableEq

def OsCall.paths : OsCall → List WString
  | .copyFile existing new _ => [existing, new]
  | .pathFileExists path => [path]
  | .deleteFile path => [path]
  | .openFile path _ => [path]

/-- The name `filesystem` of the directory that the scripts may use. -/
def filesystemName : WString :=
  [0x66, 0x69, 0x6C, 0x65, 0x73, 0x79, 0x73, 0x74, 0x65, 0x6D]

/-- `fs_directory`, which `load_and_watch` assigns once before it runs any
script: `get_path() / app_pool_folder_name / "filesystem"`. -/
def fsDirectory (knownFolder appPoolFolderName : TerminatedString) : WString :=
  pathAppend (pathAppend knownFolder appPoolFolderName) filesystemName

/-- The functions with one file name: check the number of arguments and the
type of the name, resolve it and make the call. -/
def withFileName (arity : Nat) (function : String)
    (call : WString → OsCall) (directory : WString) (cachedPaths : PathCache)
    (args : List JsValue) : Except String (OsCall × PathCache) :=
  if args.length < arity then
    .error ("invalid function signature for " ++ function)
  else
    match argument args 0 with
    | .string fileName =>
        let resolved := getRelativeFilePath directory cachedPaths fileName
        .ok (call (cString resolved.1), resolved.2)
    | _ => .error
        ("invalid first parameter, must be a string for " ++ function)

def fsExists (directory : WString) (cachedPaths : PathCache)
    (args : List JsValue) : Except String (OsCall × PathCache) :=
  withFileName 1 "fs.exists" .pathFileExists directory cachedPaths args

def fsDelete (directory : WString) (cachedPaths : PathCache)
    (args : List JsValue) : Except String (OsCall × PathCache) :=
  withFileName 1 "fs.delete" .deleteFile directory cachedPaths args

/-- `fs.write` as far as the opening of the file. -/
def fsWrite (directory : WString) (cachedPaths : PathCache)
    (args : List JsValue) : Except String (OsCall × PathCache) :=
  withFileName 2 "fs.write"
    (.openFile · (if optionalFlag args 2 then .appendBinary else .writeBinary))
    directory cachedPaths args

/-- `fs.read` as far as the opening of the file. -/
def fsRead (directory : WString) (cachedPaths : PathCache)
    (args : List JsValue) : Except String (OsCall × PathCache) :=
  withFileName 1 "fs.read" (.openFile · .readBinary) directory cachedPaths args

def fsCopy (directory : WString) (cachedPaths : PathCache)
    (args : List JsValue) : Except String (OsCall × PathCache) :=
  if args.length < 2 then
    .error "invalid function signature for fs.copy"
  else
    match argument args 0, argument args 1 with
    | .string existingFileName, .string newFileName =>
        let existing :=
          getRelativeFilePath directory cachedPaths existingFileName
        let new := getRelativeFilePath directory existing.2 newFileName
        let overwrite := optionalFlag args 2
        .ok (.copyFile (cString existing.1) (cString new.1) !overwrite, new.2)
    | _, _ => .error
        "invalid first two parameters, must be both a string for fs.copy"

inductive FsFunction
  | copy
  | fileExists
  | delete
  | write
  | read
  deriving DecidableEq

/-- A call of the `fs` API. -/
structure FsCall where
  function : FsFunction
  args : List JsValue

def FsCall.invoke (call : FsCall) (directory : WString)
    (cachedPaths : PathCache) : Except String (OsCall × PathCache) :=
  match call.function with
  | .copy => fsCopy directory cachedPaths call.args
  | .fileExists => fsExists directory cachedPaths call.args
  | .delete => fsDelete directory cachedPaths call.args
  | .write => fsWrite directory cachedPaths call.args
  | .read => fsRead directory cachedPaths call.args

/-- The arguments of a call that are file names. -/
def FsCall.fileNameArguments (call : FsCall) : List JsValue :=
  match call.function with
  | .copy => [argument call.args 0, argument call.args 1]
  | .fileExists | .delete | .write | .read => [argument call.args 0]

/-- The static cache after a history of calls.  A call that throws has not
resolved any name. -/
def cacheAfter (directory : WString) : List FsCall → PathCache
  | [] => []
  | call :: earlier =>
      match call.invoke directory (cacheAfter directory earlier) with
      | .ok (_, cachedPaths) => cachedPaths
      | .error _ => cacheAfter directory earlier

/-- The path that a name resolves to without the cache. -/
def resolvedPath (directory raw : WString) : WString :=
  pathAppend directory (normalize raw)

def CacheSound (directory : WString) (cachedPaths : PathCache) : Prop :=
  ∀ raw path, cachedPaths.lookup raw = some path →
    path = resolvedPath directory raw

theorem getRelativeFilePath_path {directory : WString}
    {cachedPaths : PathCache} (sound : CacheSound directory cachedPaths)
    (raw : WString) :
    (getRelativeFilePath directory cachedPaths raw).1 =
      resolvedPath directory raw := by
  unfold getRelativeFilePath
  split
  next path found => exact sound raw path found
  next => rfl

theorem getRelativeFilePath_sound {directory : WString}
    {cachedPaths : PathCache} (sound : CacheSound directory cachedPaths)
    (raw : WString) :
    CacheSound directory (getRelativeFilePath directory cachedPaths raw).2 := by
  unfold getRelativeFilePath
  split
  next => exact sound
  next =>
    intro other path found
    by_cases same : other = raw
    · subst same
      rw [List.lookup_cons_self] at found
      exact (Option.some.inj found).symm
    · rw [List.lookup_cons, beq_eq_false_iff_ne.mpr same] at found
      exact sound other path found

/-- A call that returns resolved every file name, and kept the cache sound. -/
structure Resolved (directory : WString) (arguments : List JsValue)
    (osCall : OsCall) (next : PathCache) : Prop where
  sound : CacheSound directory next
  paths : ∃ names : List WString, arguments = names.map JsValue.string ∧
    osCall.paths = names.map fun name => cString (resolvedPath directory name)

theorem withFileName_resolved {arity : Nat} {function : String}
    {call : WString → OsCall} (onePath : ∀ path, (call path).paths = [path])
    {directory : WString} {cachedPaths next : PathCache}
    (sound : CacheSound directory cachedPaths) {args : List JsValue}
    {osCall : OsCall}
    (returns : withFileName arity function call directory cachedPaths args =
      .ok (osCall, next)) :
    Resolved directory [argument args 0] osCall next := by
  unfold withFileName at returns
  split at returns
  · cases returns
  · split at returns
    next fileName isString =>
      cases returns
      refine ⟨getRelativeFilePath_sound sound fileName, [fileName], ?_, ?_⟩
      · rw [isString, List.map_singleton]
      · rw [onePath, getRelativeFilePath_path sound, List.map_singleton]
    next => cases returns

theorem fsCopy_resolved {directory : WString} {cachedPaths next : PathCache}
    (sound : CacheSound directory cachedPaths) {args : List JsValue}
    {osCall : OsCall}
    (returns : fsCopy directory cachedPaths args = .ok (osCall, next)) :
    Resolved directory [argument args 0, argument args 1] osCall next := by
  unfold fsCopy at returns
  split at returns
  · cases returns
  · split at returns
    next existingFileName newFileName existingString newString =>
      cases returns
      have existingSound := getRelativeFilePath_sound sound existingFileName
      refine ⟨getRelativeFilePath_sound existingSound newFileName,
        [existingFileName, newFileName], ?_, ?_⟩
      · rw [existingString, newString]
        rfl
      · rw [OsCall.paths, getRelativeFilePath_path sound,
          getRelativeFilePath_path existingSound]
        rfl
    next => cases returns

theorem invoke_resolved {directory : WString} {cachedPaths next : PathCache}
    (sound : CacheSound directory cachedPaths) {call : FsCall}
    {osCall : OsCall}
    (returns : call.invoke directory cachedPaths = .ok (osCall, next)) :
    Resolved directory call.fileNameArguments osCall next := by
  obtain ⟨function, args⟩ := call
  cases function with
  | copy => exact fsCopy_resolved sound returns
  | fileExists => exact withFileName_resolved (fun _ => rfl) sound returns
  | delete => exact withFileName_resolved (fun _ => rfl) sound returns
  | write =>
      simp only [FsCall.invoke, fsWrite] at returns
      exact withFileName_resolved (fun _ => rfl) sound returns
  | read =>
      simp only [FsCall.invoke, fsRead] at returns
      exact withFileName_resolved (fun _ => rfl) sound returns

/-- Whatever calls came before, the cache only holds resolved paths. -/
theorem cacheAfter_sound (directory : WString) (history : List FsCall) :
    CacheSound directory (cacheAfter directory history) := by
  induction history with
  | nil =>
      intro raw path found
      cases found
  | cons call earlier ih =>
      unfold cacheAfter
      split
      next returns => exact (invoke_resolved ih returns).sound
      next => exact ih

end FileSystemApi

end IISModuleJS
