import IISModuleJS.FileStore

/-!
# The `fs` API on the files of Windows

Windows takes many paths for one file, and it keeps a file open whose stream was
not closed.  So the five functions run here on any system of files, of which
little is known: what its calls do to one file if their paths lead to it, and
that all other calls leave it.

Then `fs.read` finds what the last overwriting `fs.write` and the appending ones
since have written, under whatever names.
-/

namespace IISModuleJS

namespace FileDrives

open WString RelativeFilePath FileSystemApi JsValue FileContents
open FileStore (Volume callFlag openVolume cacheSound_nil invoke_cases)
open SandboxConfinement (driveFolder poolFolder)

/-- The functions of Windows and of the C runtime that are called.  A world has
the files with their names, the open streams, and all else that answers depend
on.  `fread` is called for all bytes from the start to the end. -/
structure Drive (World Stream : Type) where
  copyFile : WString → WString → Bool → World → Bool × World
  pathFileExists : WString → World → Bool
  deleteFile : WString → World → Bool × World
  wfopen : WString → OpenMode → World → Option Stream × World
  fwrite : Stream → List UInt8 → World → World
  fread : Stream → World → List UInt8
  fclose : Stream → World → World

structure State (World : Type) where
  cachedPaths : PathCache
  world : World

variable {World Stream : Type}

section Api

variable (directory : WString) (drive : Drive World Stream)

/-- The part of `fs.write` behind the resolution of the name.  The stream stays
open if there is nothing to write. -/
def writeFile (path : WString) (mode : OpenMode) (content : JsValue)
    (world : World) : Outcome × World :=
  match drive.wfopen path mode world with
  | (none, after) => (.throws "unable to open file handle.", after)
  | (some stream, opened) =>
      match writtenBytes content with
      | none => (.throws "invalid data type provided.", opened)
      | some bytes =>
          (.returns .undefined,
            drive.fclose stream (drive.fwrite stream bytes opened))

/-- The part of `fs.read` behind the resolution of the name.  The stream stays
open if there is no memory for the bytes. -/
def readFile (path : WString) (asArray : Bool) (world : World) :
    Outcome × World :=
  match drive.wfopen path .readBinary world with
  | (none, after) => (.throws "unable to open file handle.", after)
  | (some stream, opened) =>
      match readContents (drive.fread stream opened) asArray with
      | .throws message => (.throws message, opened)
      | outcome => (outcome, drive.fclose stream opened)

/-- What each function does with the paths of its names. -/
def callSystem (args : List JsValue) : OsCall → World → Outcome × World
  | .copyFile existing new failIfExists, world =>
      let called := drive.copyFile existing new failIfExists world
      (.returns (.boolean called.1), called.2)
  | .pathFileExists path, world =>
      (.returns (.boolean (drive.pathFileExists path world)), world)
  | .deleteFile path, world =>
      let called := drive.deleteFile path world
      (.returns (.boolean called.1), called.2)
  | .openFile path .readBinary, world =>
      readFile drive path (optionalFlag args 1) world
  | .openFile path mode, world =>
      writeFile drive path mode (argument args 1) world

/-- A call of one of the functions. -/
def perform (state : State World) (call : FsCall) : Outcome × State World :=
  match call.invoke directory state.cachedPaths with
  | .error message => (.throws message, state)
  | .ok (osCall, cachedPaths) =>
      let called := callSystem drive call.args osCall state.world
      (called.1, ⟨cachedPaths, called.2⟩)

/-- Calls one after another: their outcomes, and the state behind them. -/
def runCalls (state : State World) : List FsCall → List Outcome × State World
  | [] => ([], state)
  | call :: calls =>
      let performed := perform directory drive state call
      let later := runCalls performed.2 calls
      (performed.1 :: later.1, later.2)

end Api

/-- What is documented about one file.  `leads` tells which paths lead to it, and
`contents` gives its bytes as long as it exists. -/
structure Documented (drive : Drive World Stream) (leads : WString → Bool)
    (contents : World → Option (List UInt8)) : Prop where
  copies : ∀ existing new failIfExists world, leads new = false →
    contents (drive.copyFile existing new failIfExists world).2 =
      contents world
  deletes : ∀ path world, leads path = false →
    contents (drive.deleteFile path world).2 = contents world
  opens : ∀ path mode world bytes, (leads path → mode ≠ .writeBinary) →
    contents world = some bytes →
      contents (drive.wfopen path mode world).2 = some bytes
  writesOther : ∀ path mode world stream opened bytes, leads path = false →
    drive.wfopen path mode world = (some stream, opened) →
      contents (drive.fclose stream (drive.fwrite stream bytes opened)) =
        contents opened
  overwrites : ∀ path world stream opened bytes, leads path →
    drive.wfopen path .writeBinary world = (some stream, opened) →
      contents (drive.fclose stream (drive.fwrite stream bytes opened)) =
        some bytes
  appends : ∀ path world stream opened old bytes, leads path →
    contents world = some old →
    drive.wfopen path .appendBinary world = (some stream, opened) →
      contents (drive.fclose stream (drive.fwrite stream bytes opened)) =
        some (old ++ bytes)
  reads : ∀ path world stream opened, leads path →
    drive.wfopen path .readBinary world = (some stream, opened) →
      contents world = some (drive.fread stream opened)
  closes : ∀ path world stream opened,
    drive.wfopen path .readBinary world = (some stream, opened) →
      contents (drive.fclose stream opened) = contents opened

/-- The drive of a store of files.  Paths with one key lead to the same file. -/
def storeDrive (volume : Volume) (key : WString → WString) :
    Drive Disk WString where
  copyFile existing new failIfExists disk :=
    callFlag volume disk (.copyFile (key existing) (key new) failIfExists)
  pathFileExists path disk :=
    (callFlag volume disk (.pathFileExists (key path))).1
  deleteFile path disk := callFlag volume disk (.deleteFile (key path))
  wfopen path mode disk :=
    match openFile volume.mayOpen disk (.openFile (key path) mode) with
    | none => (none, disk)
    | some (opened, changed) => (some opened, changed)
  fwrite stream bytes disk :=
    Function.update disk stream (some ((disk stream).getD [] ++ bytes))
  fread stream disk := (disk stream).getD []
  fclose _ disk := disk

/-- A disk on which a file was opened.  Reading needs the file, writing empties
it, and appending keeps what it has. -/
structure OpenedFile (mode : OpenMode) (disk : Disk) (file : WString)
    (opened : Disk) : Prop where
  others : ∀ other, other ≠ file → opened other = disk other
  reads : mode = .readBinary →
    opened file = disk file ∧ (disk file).isSome
  empties : mode = .writeBinary → opened file = some []
  keeps : mode = .appendBinary → opened file = some ((disk file).getD [])

/-- A store refuses to open a file, or opens the one with the key of the path. -/
theorem wfopen_storeDrive (volume : Volume) (key : WString → WString)
    (path : WString) (mode : OpenMode) (disk : Disk) :
    (storeDrive volume key).wfopen path mode disk = (none, disk) ∨
      ∃ opened,
        (storeDrive volume key).wfopen path mode disk =
          (some (key path), opened) ∧
        OpenedFile mode disk (key path) opened := by
  simp only [storeDrive, openFile]
  cases volume.mayOpen (key path) mode with
  | false => exact .inl rfl
  | true =>
      cases mode with
      | readBinary =>
          cases found : disk (key path) with
          | none => exact .inl rfl
          | some contents =>
              refine .inr ⟨disk, rfl, fun _ _ => rfl, fun _ => ⟨rfl, ?_⟩,
                OpenMode.noConfusion, OpenMode.noConfusion⟩
              rw [found]
              rfl
      | writeBinary =>
          exact .inr ⟨_, rfl, fun _ differs => Function.update_of_ne differs _ _,
            OpenMode.noConfusion, fun _ => Function.update_self _ _ _,
            OpenMode.noConfusion⟩
      | appendBinary =>
          exact .inr ⟨_, rfl, fun _ differs => Function.update_of_ne differs _ _,
            OpenMode.noConfusion, OpenMode.noConfusion,
            fun _ => Function.update_self _ _ _⟩

theorem opened_of_wfopen {volume : Volume} {key : WString → WString}
    {path : WString} {mode : OpenMode} {disk opened : Disk} {stream : WString}
    (opens : (storeDrive volume key).wfopen path mode disk =
      (some stream, opened)) :
    stream = key path ∧ OpenedFile mode disk (key path) opened := by
  rcases wfopen_storeDrive volume key path mode disk with
    refused | ⟨changed, result, openedFile⟩
  · rw [refused] at opens
    cases opens
  · rw [result] at opens
    cases opens
    exact ⟨rfl, openedFile⟩

theorem fwrite_storeDrive (volume : Volume) (key : WString → WString)
    (stream : WString) (bytes : List UInt8) (opened : Disk) :
    (storeDrive volume key).fwrite stream bytes opened stream =
      some ((opened stream).getD [] ++ bytes) :=
  Function.update_self _ _ _

/-- What a store does with a file, it does with the file of each key. -/
theorem storeDrive_documented (volume : Volume) (key : WString → WString)
    (file : WString) :
    Documented (storeDrive volume key) (fun path => key path == file)
      fun disk => disk file where
  copies := by
    intro existing new failIfExists disk other
    have differs : file ≠ key new := Ne.symm (beq_eq_false_iff_ne.mp other)
    simp only [storeDrive, callFlag]
    split
    · exact Function.update_of_ne differs _ _
    · rfl
  deletes := by
    intro path disk other
    have differs : file ≠ key path := Ne.symm (beq_eq_false_iff_ne.mp other)
    simp only [storeDrive, callFlag]
    split
    · exact Function.update_of_ne differs _ _
    · rfl
  opens := by
    intro path mode disk bytes keeps found
    rcases wfopen_storeDrive volume key path mode disk with
      refused | ⟨opened, result, openedFile⟩
    · rw [refused]
      exact found
    · rw [result]
      by_cases same : file = key path
      · subst same
        cases mode with
        | readBinary => exact (openedFile.reads rfl).1.trans found
        | writeBinary => exact absurd rfl (keeps (beq_self_eq_true _))
        | appendBinary =>
            have kept := openedFile.keeps rfl
            rw [found] at kept
            exact kept
      · exact (openedFile.others file same).trans found
  writesOther := by
    intro path mode disk stream opened bytes other opens
    have differs : file ≠ key path := Ne.symm (beq_eq_false_iff_ne.mp other)
    rw [← (opened_of_wfopen opens).1] at differs
    exact Function.update_of_ne differs _ _
  overwrites := by
    intro path disk stream opened bytes isFile opens
    obtain ⟨rfl, openedFile⟩ := opened_of_wfopen opens
    obtain rfl : key path = file := beq_iff_eq.mp isFile
    have written := fwrite_storeDrive volume key (key path) bytes opened
    rw [openedFile.empties rfl] at written
    exact written
  appends := by
    intro path disk stream opened old bytes isFile found opens
    obtain ⟨rfl, openedFile⟩ := opened_of_wfopen opens
    obtain rfl : key path = file := beq_iff_eq.mp isFile
    have written := fwrite_storeDrive volume key (key path) bytes opened
    rw [openedFile.keeps rfl, found] at written
    exact written
  reads := by
    intro path disk stream opened isFile opens
    obtain ⟨rfl, openedFile⟩ := opened_of_wfopen opens
    obtain rfl : key path = file := beq_iff_eq.mp isFile
    obtain ⟨same, isThere⟩ := openedFile.reads rfl
    obtain ⟨contents, found⟩ := Option.isSome_iff_exists.mp isThere
    have read : (storeDrive volume key).fread (key path) opened =
        (opened (key path)).getD [] := rfl
    rw [read, same, found]
    rfl
  closes := fun _ _ _ _ _ => rfl

/-- Windows folds the case of names; here that of the letters of ASCII. -/
def foldCase (path : WString) : WString :=
  path.map fun unit => if 0x41 ≤ unit ∧ unit ≤ 0x5A then unit + 0x20 else unit

/-- The store of files without other names is the drive on which `FileStore` runs
the functions. -/
theorem perform_storeDrive (directory : WString) (volume : Volume)
    (state : FileContents.State) (call : FsCall) :
    perform directory (storeDrive volume id)
        ⟨state.cachedPaths, state.disk⟩ call =
      ((FileStore.perform directory volume state call).1,
        ⟨(FileStore.perform directory volume state call).2.cachedPaths,
          (FileStore.perform directory volume state call).2.disk⟩) := by
  cases FileStore.performCase directory volume state call with
  | refused message resolved performs =>
      rw [performs, perform, resolved]
  | flag osCall next resolved noOpen performs =>
      rw [performs, perform, resolved]
      cases osCall with
      | copyFile existing new failIfExists => rfl
      | pathFileExists path => rfl
      | deleteFile path => rfl
      | openFile path mode => exact absurd rfl (noOpen path mode)
  | writes path mode next resolved toWrite written performs =>
      rw [performs, perform, resolved, FileContents.write, written]
      cases mode with
      | readBinary => exact absurd rfl toWrite
      | writeBinary =>
          simp only [callSystem, writeFile, storeDrive, id]
          cases openFile volume.mayOpen state.disk
              (.openFile path .writeBinary) with
          | none => rfl
          | some opened => cases writtenBytes (argument call.args 1) <;> rfl
      | appendBinary =>
          simp only [callSystem, writeFile, storeDrive, id]
          cases openFile volume.mayOpen state.disk
              (.openFile path .appendBinary) with
          | none => rfl
          | some opened => cases writtenBytes (argument call.args 1) <;> rfl
  | reads path next resolved read performs =>
      rw [performs, perform, resolved, FileContents.read, read]
      simp only [callSystem, readFile, storeDrive, id]
      cases openFile volume.mayOpen state.disk
          (.openFile path .readBinary) with
      | none => rfl
      | some opened =>
          dsimp only
          cases readContents ((opened.2 opened.1).getD [])
            (optionalFlag call.args 1) <;> rfl

/-- The path behind which a call of the system can change a file. -/
def changedFile : OsCall → Option WString
  | .copyFile _ new _ => some new
  | .pathFileExists _ => none
  | .deleteFile path => some path
  | .openFile _ .readBinary => none
  | .openFile path _ => some path

/-- If the call can change the file it opens it for appending. -/
def OnlyAppends (leads : WString → Bool) (osCall : OsCall) : Prop :=
  ∀ path, changedFile osCall = some path → leads path →
    osCall = .openFile path .appendBinary

/-- A call of a function that can change the file appends to it. -/
def AppendsAtMost (directory : WString) (leads : WString → Bool)
    (call : FsCall) : Prop :=
  ∀ osCall next, call.invoke directory [] = .ok (osCall, next) →
    OnlyAppends leads osCall

/-- What a call with some outcome has appended to the file. -/
def appendedBytes (leads : WString → Bool) (args : List JsValue)
    (outcome : Outcome) : OsCall → List UInt8
  | .openFile path .appendBinary =>
      if leads path ∧ outcome = .returns .undefined then
        (writtenBytes (argument args 1)).getD []
      else []
  | .openFile _ .readBinary => []
  | .openFile _ .writeBinary => []
  | .copyFile _ _ _ => []
  | .pathFileExists _ => []
  | .deleteFile _ => []

def appended (directory : WString) (leads : WString → Bool) (call : FsCall)
    (outcome : Outcome) : List UInt8 :=
  match call.invoke directory [] with
  | .error _ => []
  | .ok (osCall, _) => appendedBytes leads call.args outcome osCall

/-- What the calls of a run have appended, in order. -/
def logged (directory : WString) (leads : WString → Bool) :
    List FsCall → List Outcome → List UInt8
  | [], _ => []
  | _ :: _, [] => []
  | call :: calls, outcome :: outcomes =>
      appended directory leads call outcome ++
        logged directory leads calls outcomes

section Runs

variable {directory : WString} {drive : Drive World Stream}
  {leads : WString → Bool} {contents : World → Option (List UInt8)}

theorem Documented.contents_readFile (documented : Documented drive leads contents)
    {world : World} {bytes : List UInt8} (found : contents world = some bytes)
    (path : WString) (asArray : Bool) :
    contents (readFile drive path asArray world).2 = some bytes := by
  have opened := documented.opens path .readBinary world bytes
    (fun _ => OpenMode.noConfusion) found
  unfold readFile
  split
  next after refused =>
    rw [refused] at opened
    exact opened
  next stream after opens =>
    rw [opens] at opened
    split
    next message fails => exact opened
    next outcome reads =>
      exact (documented.closes path world stream after opens).trans opened

/-- `fs.read` throws, or gives the bytes of the file. -/
theorem Documented.readFile_own (documented : Documented drive leads contents)
    {world : World} {bytes : List UInt8} (found : contents world = some bytes)
    {path : WString} (isFile : leads path) (asArray : Bool) :
    (readFile drive path asArray world).1 =
        .throws "unable to open file handle." ∨
      (readFile drive path asArray world).1 = readContents bytes asArray := by
  unfold readFile
  split
  next after refused => exact .inl rfl
  next stream after opens =>
    have same := documented.reads path world stream after isFile opens
    rw [found] at same
    rw [← Option.some.inj same]
    right
    split
    next message fails => exact fails.symm
    next outcome reads => rfl

/-- `fs.write` under a name of another file. -/
theorem Documented.contents_writeFile_other
    (documented : Documented drive leads contents)
    {world : World} {bytes : List UInt8} (found : contents world = some bytes)
    {path : WString} (other : leads path = false) (mode : OpenMode)
    (content : JsValue) :
    contents (writeFile drive path mode content world).2 = some bytes := by
  have opened := documented.opens path mode world bytes
    (fun isFile => by rw [other] at isFile; cases isFile) found
  unfold writeFile
  split
  next after refused =>
    rw [refused] at opened
    exact opened
  next stream after opens =>
    rw [opens] at opened
    split
    next nothing => exact opened
    next written some =>
      rw [documented.writesOther path mode world stream after written other
        opens]
      exact opened

/-- An appending `fs.write` under a name of the file adds its bytes exactly if it
returns. -/
theorem Documented.contents_writeFile_append
    (documented : Documented drive leads contents)
    {world : World} {bytes : List UInt8} (found : contents world = some bytes)
    {path : WString} (isFile : leads path) (args : List JsValue) :
    contents (writeFile drive path .appendBinary (argument args 1) world).2 =
      some (bytes ++ appendedBytes leads args
        (writeFile drive path .appendBinary (argument args 1) world).1
        (.openFile path .appendBinary)) := by
  have opened := documented.opens path .appendBinary world bytes
    (fun _ => OpenMode.noConfusion) found
  rw [appendedBytes, writeFile]
  cases opens : drive.wfopen path .appendBinary world with
  | mk result after =>
      rw [opens] at opened
      cases result with
      | none =>
          rw [if_neg (by simp), List.append_nil]
          exact opened
      | some stream =>
          dsimp only
          cases written : writtenBytes (argument args 1) with
          | none =>
              rw [if_neg (by simp), List.append_nil]
              exact opened
          | some new =>
              rw [if_pos ⟨isFile, rfl⟩, Option.getD_some]
              exact documented.appends path world stream after bytes new isFile
                found opens

/-- One call of the system that at most appends to the file. -/
theorem Documented.contents_callSystem
    (documented : Documented drive leads contents)
    {world : World} {bytes : List UInt8} (found : contents world = some bytes)
    {osCall : OsCall} (appends : OnlyAppends leads osCall)
    (args : List JsValue) :
    contents (callSystem drive args osCall world).2 =
      some (bytes ++ appendedBytes leads args
        (callSystem drive args osCall world).1 osCall) := by
  cases osCall with
  | copyFile existing new failIfExists =>
      have other : leads new = false := by
        by_contra isFile
        cases appends new rfl (Bool.not_eq_false _ ▸ isFile)
      rw [appendedBytes, List.append_nil, ← found]
      exact documented.copies existing new failIfExists world other
  | pathFileExists path =>
      rw [appendedBytes, List.append_nil, ← found]
      rfl
  | deleteFile path =>
      have other : leads path = false := by
        by_contra isFile
        cases appends path rfl (Bool.not_eq_false _ ▸ isFile)
      rw [appendedBytes, List.append_nil, ← found]
      exact documented.deletes path world other
  | openFile path mode =>
      cases mode with
      | readBinary =>
          rw [appendedBytes, List.append_nil]
          exact documented.contents_readFile found path _
      | writeBinary =>
          have other : leads path = false := by
            by_contra isFile
            cases appends path rfl (Bool.not_eq_false _ ▸ isFile)
          rw [appendedBytes, List.append_nil]
          exact documented.contents_writeFile_other found other _ _
      | appendBinary =>
          cases isFile : leads path with
          | true => exact documented.contents_writeFile_append found isFile args
          | false =>
              rw [appendedBytes, isFile, if_neg (by simp), List.append_nil]
              exact documented.contents_writeFile_other found isFile _ _

/-- A call resolves its names as without the cache. -/
theorem perform_resolved {state : State World}
    (sound : CacheSound directory state.cachedPaths) (call : FsCall) :
    (∃ message, call.invoke directory [] = .error message ∧
        perform directory drive state call = (.throws message, state)) ∨
      ∃ osCall fresh cachedPaths,
        call.invoke directory [] = .ok (osCall, fresh) ∧
        CacheSound directory cachedPaths ∧
        perform directory drive state call =
          ((callSystem drive call.args osCall state.world).1,
            ⟨cachedPaths, (callSystem drive call.args osCall state.world).2⟩)
    := by
  rcases invoke_cases sound call with
    ⟨message, cached, fresh⟩ | ⟨osCall, next, freshNext, cached, fresh⟩
  · left
    rw [perform, cached]
    exact ⟨message, fresh, rfl⟩
  · right
    rw [perform, cached]
    exact ⟨osCall, freshNext, next, fresh,
      (invoke_resolved sound cached).sound, rfl⟩

theorem perform_sound {state : State World}
    (sound : CacheSound directory state.cachedPaths) (call : FsCall) :
    CacheSound directory (perform directory drive state call).2.cachedPaths := by
  rcases @perform_resolved _ _ directory drive state sound call with
    ⟨message, -, throws⟩ | ⟨osCall, fresh, cachedPaths, -, next, performs⟩
  · rw [throws]
    exact sound
  · rw [performs]
    exact next

theorem runCalls_sound {state : State World}
    (sound : CacheSound directory state.cachedPaths) (calls : List FsCall) :
    CacheSound directory
      (runCalls directory drive state calls).2.cachedPaths := by
  induction calls generalizing state with
  | nil => exact sound
  | cons call calls ih => exact ih (perform_sound sound call)

theorem Documented.contents_perform
    (documented : Documented drive leads contents) {state : State World}
    (sound : CacheSound directory state.cachedPaths) {bytes : List UInt8}
    (found : contents state.world = some bytes) {call : FsCall}
    (appends : AppendsAtMost directory leads call) :
    contents (perform directory drive state call).2.world =
      some (bytes ++ appended directory leads call
        (perform directory drive state call).1) := by
  rcases @perform_resolved _ _ directory drive state sound call with
    ⟨message, resolved, throws⟩ |
      ⟨osCall, fresh, cachedPaths, resolved, -, performs⟩
  · rw [throws, appended, resolved, List.append_nil]
    exact found
  · rw [performs, appended, resolved]
    exact documented.contents_callSystem found (appends osCall fresh resolved)
      call.args

/-- A run of calls that at most append to the file. -/
theorem Documented.contents_runCalls
    (documented : Documented drive leads contents) {state : State World}
    (sound : CacheSound directory state.cachedPaths) {bytes : List UInt8}
    (found : contents state.world = some bytes) {calls : List FsCall}
    (appends : ∀ call ∈ calls, AppendsAtMost directory leads call) :
    contents (runCalls directory drive state calls).2.world =
      some (bytes ++ logged directory leads calls
        (runCalls directory drive state calls).1) := by
  induction calls generalizing state bytes with
  | nil => rw [logged, List.append_nil, runCalls, found]
  | cons call calls ih =>
      have once := documented.contents_perform sound found
        (appends call List.mem_cons_self)
      have rest := ih (perform_sound sound call) once fun other member =>
        appends other (List.mem_cons_of_mem _ member)
      rw [runCalls, logged, ← List.append_assoc]
      exact rest

/-- An overwriting `fs.write` that returned. -/
theorem Documented.contents_of_write
    (documented : Documented drive leads contents)
    {state after : State World}
    (sound : CacheSound directory state.cachedPaths) {name : WString}
    {content : JsValue} {options : List JsValue} {bytes : List UInt8}
    (written : writtenBytes content = some bytes)
    (overwrites : optionalFlag (.string name :: content :: options) 2 = false)
    (isFile : leads (osPath directory name))
    (writes : perform directory drive state
        ⟨.write, .string name :: content :: options⟩ =
      (.returns .undefined, after)) :
    contents after.world = some bytes := by
  have resolved : (FsCall.mk .write (.string name :: content :: options)).invoke
      directory state.cachedPaths = _ :=
    @fsWrite_ok directory ⟨state.cachedPaths, fun _ => none⟩ sound name content
      options
  rw [overwrites, if_neg Bool.false_ne_true] at resolved
  rw [perform, resolved] at writes
  simp only [callSystem, writeFile] at writes
  have second : argument (.string name :: content :: options) 1 = content := rfl
  rw [second, written] at writes
  cases opens : drive.wfopen (osPath directory name) .writeBinary
      state.world with
  | mk result opened =>
      rw [opens] at writes
      cases result with
      | none => cases writes
      | some stream =>
          cases writes
          exact documented.overwrites _ state.world stream opened bytes isFile
            opens

/-- After an overwriting `fs.write` that returned, and a run of calls that change
the file only by appending to it, `fs.read` under any name of the file gives what
was written and what the run has appended, unless the file cannot be opened.  All
else may have happened before. -/
theorem read_of_write (documented : Documented drive leads contents)
    {earlier calls : List FsCall} {world : World}
    {start after final : State World} {outcomes : List Outcome}
    {name otherName : WString} {content : JsValue}
    {options rest : List JsValue} {bytes : List UInt8}
    (reached : (runCalls directory drive ⟨[], world⟩ earlier).2 = start)
    (written : writtenBytes content = some bytes)
    (overwrites : optionalFlag (.string name :: content :: options) 2 = false)
    (isFile : leads (osPath directory name))
    (writes : perform directory drive start
        ⟨.write, .string name :: content :: options⟩ =
      (.returns .undefined, after))
    (appends : ∀ call ∈ calls, AppendsAtMost directory leads call)
    (runs : runCalls directory drive after calls = (outcomes, final))
    (isSameFile : leads (osPath directory otherName)) :
    (perform directory drive final ⟨.read, .string otherName :: rest⟩).1 =
        .throws "unable to open file handle." ∨
      (perform directory drive final ⟨.read, .string otherName :: rest⟩).1 =
        readContents (bytes ++ logged directory leads calls outcomes)
          (optionalFlag (.string otherName :: rest) 1) := by
  have startSound : CacheSound directory start.cachedPaths :=
    reached ▸ runCalls_sound (cacheSound_nil directory) earlier
  have afterSound : CacheSound directory after.cachedPaths := by
    have kept := @perform_sound _ _ directory drive start startSound
      ⟨.write, .string name :: content :: options⟩
    rw [writes] at kept
    exact kept
  have filled := documented.contents_of_write startSound written overwrites
    isFile writes
  have found := documented.contents_runCalls afterSound filled appends
  have finalSound := @runCalls_sound _ _ directory drive after afterSound calls
  rw [runs] at found finalSound
  have resolved : (FsCall.mk .read (.string otherName :: rest)).invoke
      directory final.cachedPaths = _ :=
    @fsRead_ok directory ⟨final.cachedPaths, fun _ => none⟩ finalSound otherName
      rest
  rw [perform, resolved]
  exact documented.readFile_own found isSameFile _

end Runs

theorem osPath_letter {letter : WChar} {name : WString}
    (normalized : normalize [letter] = [letter])
    (same : cString (pathAppend (fsDirectory driveFolder poolFolder) [letter]) =
      name) :
    osPath (fsDirectory driveFolder poolFolder) [letter] = name := by
  rw [osPath, resolvedPath, normalized, same]

/-- A write fails and leaves its stream.  Then the file is written, appended to
with its name in upper case, and read with that name. -/
theorem read_of_write_letters :
    ∃ final,
      (runCalls (fsDirectory driveFolder poolFolder)
          (storeDrive openVolume foldCase) ⟨[], fun _ => none⟩
          [⟨.write, [.string [0x61], .number (.finite 1)]⟩,
            ⟨.write, [.string [0x61], .string [0x62]]⟩,
            ⟨.write, [.string [0x41], .string [0x63], .boolean true]⟩]).2 =
        final ∧
      ((perform (fsDirectory driveFolder poolFolder)
            (storeDrive openVolume foldCase) final
            ⟨.read, [.string [0x41]]⟩).1 =
          .throws "unable to open file handle." ∨
        (perform (fsDirectory driveFolder poolFolder)
            (storeDrive openVolume foldCase) final
            ⟨.read, [.string [0x41]]⟩).1 =
          .returns (.string [0x62, 0x63])) := by
  have lower : normalize [0x61] = [0x61] := by
    rw [normalize_eq_segmentsText]
    decide
  have upper : normalize [0x41] = [0x41] := by
    rw [normalize_eq_segmentsText]
    decide
  have same : foldCase (osPath (fsDirectory driveFolder poolFolder) [0x41]) =
      foldCase (osPath (fsDirectory driveFolder poolFolder) [0x61]) := by
    rw [osPath_letter lower rfl, osPath_letter upper rfl]
    decide
  have resolved := @fsWrite_ok (fsDirectory driveFolder poolFolder)
    ⟨[], fun _ => none⟩ (cacheSound_nil _) [0x41] (.string [0x63])
    [.boolean true]
  have flag : optionalFlag [.string [0x41], .string [0x63], .boolean true] 2 =
      true := rfl
  rw [flag, if_pos rfl] at resolved
  have isFile : (foldCase (osPath (fsDirectory driveFolder poolFolder) [0x41]) ==
      foldCase (osPath (fsDirectory driveFolder poolFolder) [0x61])) = true :=
    beq_iff_eq.mpr same
  have appends : ∀ call ∈
      [FsCall.mk .write [.string [0x41], .string [0x63], .boolean true]],
      AppendsAtMost (fsDirectory driveFolder poolFolder)
        (fun path => foldCase path ==
          foldCase (osPath (fsDirectory driveFolder poolFolder) [0x61]))
        call := by
    intro call member osCall next found path changed leads
    rw [List.mem_singleton.mp member] at found
    cases found
    cases changed
    rfl
  have documented := storeDrive_documented openVolume foldCase
    (foldCase (osPath (fsDirectory driveFolder poolFolder) [0x61]))
  have reads := @read_of_write _ _ _ _ _ _ documented
    [⟨.write, [.string [0x61], .number (.finite 1)]⟩] _ (fun _ => none) _ _ _ _
    [0x61] [0x41] (.string [0x62]) [] [] [0x62] rfl rfl rfl
    (beq_iff_eq.mpr rfl) rfl appends rfl isFile
  refine ⟨_, rfl, reads.imp id fun contents => contents.trans ?_⟩
  have uncached : (FsCall.mk .write
      [.string [0x41], .string [0x63], .boolean true]).invoke
        (fsDirectory driveFolder poolFolder) [] = _ := resolved
  rw [runCalls, logged, appended, uncached]
  dsimp only
  rw [appendedBytes, if_pos ⟨isFile, rfl⟩]
  decide

end FileDrives

end IISModuleJS
