import IISModuleJS.FileSystemApi
import IISModuleJS.TextEncoding
import Mathlib.Algebra.Ring.Nat
import Mathlib.Logic.Function.Basic

/-!
# What `fs.write` stores and `fs.read` returns

`fs.write` opens a file for writing or appending and stores a string as UTF-8
or the buffer of a `Uint8Array` as it is.  `fs.read` returns the bytes of the
file as a `Uint8Array`, or as an external one-byte string, in which every byte
is one character.

The two agree on arrays.  They agree on strings exactly if these are ASCII,
since only there UTF-8 and one byte for each character are the same.
-/

namespace IISModuleJS

namespace FileContents

open WString RelativeFilePath FileSystemApi JsValue TextEncoding

/-- The bytes of every file, by the path that the operating system reads. -/
abbrev Disk := WString → Option (List UInt8)

structure State where
  cachedPaths : PathCache
  disk : Disk

/-- How a call ends: it returns to the script, it throws, or V8 ends the
process. -/
inductive Outcome
  | returns (value : JsValue)
  | throws (message : String)
  | aborts
  deriving DecidableEq

/-- `String::kMaxLength` of the 64-bit build. -/
def stringMaxLength : Nat := 2 ^ 30 - 25

section Api

variable (directory : WString) (mayOpen : WString → OpenMode → Bool)

/-- `_wfopen` in binary mode: the path and the disk after the call, or nothing
if it returns a null pointer.  Reading needs a file, writing empties it, and
appending keeps what it has. -/
def openFile (disk : Disk) : OsCall → Option (WString × Disk)
  | .openFile path mode =>
      if mayOpen path mode then
        match mode with
        | .readBinary => (disk path).map fun _ => (path, disk)
        | .writeBinary => some (path, Function.update disk path (some []))
        | .appendBinary =>
            some (path, Function.update disk path
              (some ((disk path).getD [])))
      else
        none
  | _ => none

/-- The bytes that `fs.write` hands to `fwrite`. -/
def writtenBytes : JsValue → Option (List UInt8)
  | .string units => some (encodeUtf8 units)
  | .uint8Array view => some view.buffer
  | _ => none

/-- `fs.write`. -/
def write (state : State) (args : List JsValue) : Outcome × State :=
  match fsWrite directory state.cachedPaths args with
  | .error message => (.throws message, state)
  | .ok (osCall, cachedPaths) =>
      match openFile mayOpen state.disk osCall with
      | none =>
          (.throws "unable to open file handle.", ⟨cachedPaths, state.disk⟩)
      | some (path, disk) =>
          match writtenBytes (argument args 1) with
          | none => (.throws "invalid data type provided.", ⟨cachedPaths, disk⟩)
          | some bytes =>
              (.returns .undefined,
                ⟨cachedPaths,
                  Function.update disk path
                    (some ((disk path).getD [] ++ bytes))⟩)

/-- The view that covers a whole buffer. -/
def wholeBuffer (buffer : List UInt8) : Uint8Array :=
  ⟨buffer, 0, buffer.length, by omega⟩

/-- What `fs.read` makes of the contents of a file.  From `2 ^ 31` bytes on
`ftell` fails, and no buffer of the size that is then computed can be
allocated: `new` throws, and `ArrayBuffer::New` ends the process.  A string
above the limit of V8 ends it in `ToLocalChecked`. -/
def readContents (contents : List UInt8) (asArray : Bool) : Outcome :=
  if contents.length < 2 ^ 31 then
    if asArray then
      .returns (.uint8Array (wholeBuffer contents))
    else if contents.length ≤ stringMaxLength then
      .returns (.string (latin1 contents))
    else
      .aborts
  else if asArray then
    .aborts
  else
    .throws "bad allocation"

/-- `fs.read`. -/
def read (state : State) (args : List JsValue) : Outcome × State :=
  match fsRead directory state.cachedPaths args with
  | .error message => (.throws message, state)
  | .ok (osCall, cachedPaths) =>
      match openFile mayOpen state.disk osCall with
      | none =>
          (.throws "unable to open file handle.", ⟨cachedPaths, state.disk⟩)
      | some (path, disk) =>
          (readContents ((disk path).getD []) (optionalFlag args 1),
            ⟨cachedPaths, disk⟩)

end Api

/-- The bytes that a view shows. -/
def viewBytes (view : Uint8Array) : List UInt8 :=
  (view.buffer.drop view.byteOffset).take view.length

/-- The view covers its whole buffer. -/
def SpansBuffer (view : Uint8Array) : Prop :=
  view.byteOffset = 0 ∧ view.length = view.buffer.length

instance (view : Uint8Array) : Decidable (SpansBuffer view) :=
  inferInstanceAs (Decidable (_ ∧ _))

/-- The path that the operating system reads for a name. -/
def osPath (directory name : WString) : WString :=
  cString (resolvedPath directory name)

/-- The cache after a call that resolved a name. -/
def cachedAfter (directory : WString) (state : State) (name : WString) :
    PathCache :=
  (getRelativeFilePath directory state.cachedPaths name).2

section Calls

variable {directory : WString} {mayOpen : WString → OpenMode → Bool}
  {state : State} (sound : CacheSound directory state.cachedPaths)
  {name : WString}
  (opens : ∀ mode, mayOpen (osPath directory name) mode = true)

include sound

theorem fsWrite_ok (content : JsValue) (rest : List JsValue) :
    fsWrite directory state.cachedPaths (.string name :: content :: rest) =
      .ok (.openFile (osPath directory name)
        (if optionalFlag (.string name :: content :: rest) 2 then
          .appendBinary else .writeBinary),
        cachedAfter directory state name) := by
  rw [fsWrite, withFileName, if_neg (by simp)]
  simp only [argument, List.getD_cons_zero]
  rw [getRelativeFilePath_path sound]
  rfl

theorem fsRead_ok (rest : List JsValue) :
    fsRead directory state.cachedPaths (.string name :: rest) =
      .ok (.openFile (osPath directory name) .readBinary,
        cachedAfter directory state name) := by
  rw [fsRead, withFileName, if_neg (by simp)]
  simp only [argument, List.getD_cons_zero]
  rw [getRelativeFilePath_path sound]
  rfl

include opens

/-- A write that opens its file adds the bytes to what the open left. -/
theorem write_eq {content : JsValue} {bytes : List UInt8}
    (written : writtenBytes content = some bytes) (rest : List JsValue) :
    write directory mayOpen state (.string name :: content :: rest) =
      (.returns .undefined,
        ⟨cachedAfter directory state name,
          Function.update state.disk (osPath directory name)
            (some ((if optionalFlag (.string name :: content :: rest) 2 then
              (state.disk (osPath directory name)).getD [] else []) ++
                bytes))⟩) := by
  have second : argument (.string name :: content :: rest) 1 = content := rfl
  rw [write, fsWrite_ok sound]
  dsimp only
  cases appends : optionalFlag (.string name :: content :: rest) 2 with
  | true => simp [openFile, opens, second, written]
  | false => simp [openFile, opens, second, written]

/-- A read returns what it makes of the file's bytes. -/
theorem read_eq {contents : List UInt8}
    (stored : state.disk (osPath directory name) = some contents)
    (rest : List JsValue) :
    (read directory mayOpen state (.string name :: rest)).1 =
      readContents contents (optionalFlag (.string name :: rest) 1) := by
  have opened : openFile mayOpen state.disk
      (.openFile (osPath directory name) .readBinary) =
        some (osPath directory name, state.disk) := by
    simp [openFile, opens, stored]
  rw [read, fsRead_ok sound]
  dsimp only
  rw [opened]
  dsimp only
  rw [stored, Option.getD_some]

theorem sound_write (content : JsValue) {bytes : List UInt8}
    (written : writtenBytes content = some bytes) (rest : List JsValue) :
    CacheSound directory
      (write directory mayOpen state
        (.string name :: content :: rest)).2.cachedPaths := by
  rw [write_eq sound opens written]
  exact getRelativeFilePath_sound sound name

/-- Reading after one write. -/
theorem read_write {content : JsValue} {bytes : List UInt8}
    (written : writtenBytes content = some bytes) (rest : List JsValue) :
    (read directory mayOpen
        (write directory mayOpen state [.string name, content]).2
        (.string name :: rest)).1 =
      readContents bytes (optionalFlag (.string name :: rest) 1) := by
  have stored : (write directory mayOpen state
      [.string name, content]).2.disk (osPath directory name) =
        some bytes := by
    rw [write_eq sound opens written]
    simp [optionalFlag]
  exact read_eq (sound_write sound opens content written []) opens stored rest

/-- Reading after a write and an append. -/
theorem read_write_append {first second : JsValue}
    {firstBytes secondBytes : List UInt8}
    (firstWritten : writtenBytes first = some firstBytes)
    (secondWritten : writtenBytes second = some secondBytes)
    (rest : List JsValue) :
    (read directory mayOpen
        (write directory mayOpen
          (write directory mayOpen state [.string name, first]).2
          [.string name, second, .boolean true]).2
        (.string name :: rest)).1 =
      readContents (firstBytes ++ secondBytes)
        (optionalFlag (.string name :: rest) 1) := by
  have onceSound := sound_write sound opens first firstWritten []
  have twiceSound := sound_write onceSound opens second secondWritten
    [.boolean true]
  refine read_eq twiceSound opens ?_ rest
  rw [write_eq onceSound opens secondWritten,
    write_eq sound opens firstWritten]
  simp [optionalFlag, argument]

end Calls

theorem readContents_eq_string (contents : List UInt8) (text : WString) :
    readContents contents false = .returns (.string text) ↔
      latin1 contents = text ∧ text.length ≤ stringMaxLength := by
  have limit : stringMaxLength < 2 ^ 31 := by
    unfold stringMaxLength
    omega
  rw [readContents, if_neg Bool.false_ne_true, if_neg Bool.false_ne_true]
  constructor
  · intro equal
    split_ifs at equal with small short
    · obtain rfl : latin1 contents = text :=
        JsValue.string.inj (Outcome.returns.inj equal)
      exact ⟨rfl, by rw [length_latin1]; exact short⟩
  · rintro ⟨rfl, short⟩
    rw [length_latin1] at short
    rw [if_pos (Nat.lt_of_le_of_lt short limit), if_pos short]

theorem viewBytes_of_spansBuffer {view : Uint8Array}
    (spans : SpansBuffer view) : viewBytes view = view.buffer := by
  rw [viewBytes, spans.1, spans.2, List.drop_zero, List.take_length]

theorem viewBytes_wholeBuffer (buffer : List UInt8) :
    viewBytes (wholeBuffer buffer) = buffer :=
  viewBytes_of_spansBuffer ⟨rfl, rfl⟩

theorem readContents_shows (contents : List UInt8) :
    (∃ view, readContents contents true = .returns (.uint8Array view) ∧
      viewBytes view = contents) ↔ contents.length < 2 ^ 31 := by
  rw [readContents, if_pos rfl, if_pos rfl]
  constructor
  · rintro ⟨view, equal, -⟩
    by_contra large
    rw [if_neg large] at equal
    cases equal
  · intro small
    exact ⟨wholeBuffer contents, if_pos small,
      viewBytes_wholeBuffer contents⟩

/-- After any history of calls, in any state of the disk: a string is read
back exactly if it is ASCII, two strings exactly if both are and their
concatenation is not too long for V8, and an array that covers its buffer
always, since V8 has no larger ones. -/
theorem read_write_iff (directory : WString) (history : List FsCall)
    (disk : Disk) (mayOpen : WString → OpenMode → Bool) (name : WString)
    (opens : ∀ mode, mayOpen (osPath directory name) mode = true)
    (first second : WString) (view : Uint8Array)
    (spans : SpansBuffer view) :
    ((read directory mayOpen
        (write directory mayOpen ⟨cacheAfter directory history, disk⟩
          [.string name, .string first]).2
        [.string name]).1 = .returns (.string first) ↔
      IsAscii first ∧ first.length ≤ stringMaxLength) ∧
    ((read directory mayOpen
        (write directory mayOpen
          (write directory mayOpen ⟨cacheAfter directory history, disk⟩
            [.string name, .string first]).2
          [.string name, .string second, .boolean true]).2
        [.string name]).1 = .returns (.string (first ++ second)) ↔
      (IsAscii first ∧ IsAscii second) ∧
        (first ++ second).length ≤ stringMaxLength) ∧
    ((∃ result, (read directory mayOpen
        (write directory mayOpen ⟨cacheAfter directory history, disk⟩
          [.string name, .uint8Array view]).2
        [.string name, .boolean true]).1 = .returns (.uint8Array result) ∧
        viewBytes result = viewBytes view) ↔
      (viewBytes view).length < 2 ^ 31) := by
  have sound := cacheAfter_sound directory history
  refine ⟨?_, ?_, ?_⟩
  · rw [read_write sound opens rfl]
    have flag : optionalFlag [.string name] 1 = false := rfl
    rw [flag, readContents_eq_string, latin1_encodeUtf8_iff]
  · rw [read_write_append sound opens rfl rfl]
    have flag : optionalFlag [.string name] 1 = false := rfl
    rw [flag, readContents_eq_string, latin1_encodeUtf8_append_iff]
  · rw [read_write sound opens rfl]
    have flag : optionalFlag [.string name, .boolean true] 1 = true := rfl
    rw [flag, viewBytes_of_spansBuffer spans, readContents_shows]

theorem read_write_iff_ascii :
    (read [] (fun _ _ => true)
        (write [] (fun _ _ => true) ⟨[], fun _ => none⟩
          [.string [0x61], .string [0x62]]).2
        [.string [0x61]]).1 = .returns (.string [0x62]) :=
  (read_write_iff [] [] (fun _ => none) (fun _ _ => true) [0x61]
    (fun _ => rfl) [0x62] [] ⟨[], 0, 0, by decide⟩ (by decide)).1.mpr
      ⟨by simp [IsAscii], by simp [stringMaxLength]⟩

/-- `é` is written as two bytes and read back as two characters. -/
theorem read_write_latin :
    (read [] (fun _ _ => true)
        (write [] (fun _ _ => true) ⟨cacheAfter [] [], fun _ => none⟩
          [.string [0x61], .string [0xE9]]).2
        [.string [0x61]]).1 = .returns (.string [0xC3, 0xA9]) ∧
      WellFormed [0xE9] ∧
      (read [] (fun _ _ => true)
        (write [] (fun _ _ => true) ⟨cacheAfter [] [], fun _ => none⟩
          [.string [0x61], .string [0xE9]]).2
        [.string [0x61]]).1 ≠ .returns (.string [0xE9]) := by
  have result : (read [] (fun _ _ => true)
      (write [] (fun _ _ => true) ⟨cacheAfter [] [], fun _ => none⟩
        [.string [0x61], .string [0xE9]]).2
      [.string [0x61]]).1 = .returns (.string [0xC3, 0xA9]) := by
    rw [read_write (cacheAfter_sound [] []) (fun _ => rfl) rfl]
    decide
  refine ⟨result, by simp [WellFormed, IsHigh, IsLow], ?_⟩
  rw [result]
  decide

end FileContents

end IISModuleJS
