import IISModuleJS.FileContents

/-!
# The file handles of `fs.write`

`fs.write` opens its file before it looks at the content, and closes the handle
after it has written.  Opening for writing empties a file and both modes create
a missing one.  A content that is neither a string nor a `Uint8Array` is only
rejected then, so that the exception leaves an emptied file and an open handle
behind.  All other exceptions come before the file is opened.
-/

namespace IISModuleJS

namespace FileHandles

open WString RelativeFilePath FileSystemApi JsValue FileContents

/-- The open handles of the C runtime with their paths.  New ones differ from
all open ones. -/
structure HandleTable where
  opened : List (Nat × WString)
  next : Nat
  below : ∀ handle ∈ opened, handle.1 < next

namespace HandleTable

def empty : HandleTable :=
  ⟨[], 0, by simp⟩

/-- A successful `_wfopen`; the new handle is `table.next`. -/
def fopen (table : HandleTable) (path : WString) : HandleTable where
  opened := table.opened ++ [(table.next, path)]
  next := table.next + 1
  below := by
    intro handle member
    rcases List.mem_append.mp member with old | new
    · exact Nat.lt_succ_of_lt (table.below handle old)
    · rw [List.mem_singleton.mp new]
      exact Nat.lt_succ_self _

/-- `fclose`. -/
def fclose (table : HandleTable) (identity : Nat) : HandleTable where
  opened := table.opened.filter fun handle => handle.1 != identity
  next := table.next
  below := fun handle member => table.below handle (List.mem_filter.mp member).1

/-- Closing the handle that was opened last leaves the others. -/
theorem opened_fclose_fopen (table : HandleTable) (path : WString) :
    ((table.fopen path).fclose table.next).opened = table.opened := by
  simp only [fclose, fopen, List.filter_append]
  have last : [(table.next, path)].filter
      (fun handle => handle.1 != table.next) = [] := by
    simp
  rw [last, List.append_nil, List.filter_eq_self]
  intro handle member
  have older := table.below handle member
  exact bne_iff_ne.mpr (Nat.ne_of_lt older)

end HandleTable

section Api

variable (directory : WString) (mayOpen : WString → OpenMode → Bool)

/-- `fs.write` with the handle that it opens and closes. -/
def write (state : State) (table : HandleTable) (args : List JsValue) :
    Outcome × State × HandleTable :=
  match fsWrite directory state.cachedPaths args with
  | .error message => (.throws message, state, table)
  | .ok (osCall, cachedPaths) =>
      match openFile mayOpen state.disk osCall with
      | none =>
          (.throws "unable to open file handle.",
            ⟨cachedPaths, state.disk⟩, table)
      | some (path, disk) =>
          let opened := table.fopen path
          match writtenBytes (argument args 1) with
          | none =>
              (.throws "invalid data type provided.", ⟨cachedPaths, disk⟩,
                opened)
          | some bytes =>
              (.returns .undefined,
                ⟨cachedPaths,
                  Function.update disk path
                    (some ((disk path).getD [] ++ bytes))⟩,
                opened.fclose table.next)

/-- If a call throws, the contents of all files are those from before, and so
are the open handles. -/
def ThrowsCleanly (state : State) (table : HandleTable)
    (args : List JsValue) : Prop :=
  ∀ message after handles,
    write directory mayOpen state table args =
      (.throws message, after, handles) →
    after.disk = state.disk ∧ handles.opened = table.opened

/-- The file that the arguments name, as the operating system reads it. -/
def namedFile (state : State) (name : WString) : WString :=
  cString (getRelativeFilePath directory state.cachedPaths name).1

def openMode (args : List JsValue) : OpenMode :=
  if optionalFlag args 2 then .appendBinary else .writeBinary

/-- The call gets as far as a file that it can open, and has nothing to
write. -/
def OpensInVain (state : State) (args : List JsValue) : Prop :=
  2 ≤ args.length ∧
  (∃ name, argument args 0 = .string name ∧
    mayOpen (namedFile directory state name) (openMode args) = true) ∧
  (∀ units, argument args 1 ≠ .string units) ∧
  ∀ view, argument args 1 ≠ .uint8Array view

end Api

theorem writtenBytes_eq_none_iff (content : JsValue) :
    writtenBytes content = none ↔
      (∀ units, content ≠ .string units) ∧
        ∀ view, content ≠ .uint8Array view := by
  cases content <;> simp [writtenBytes]

section Calls

variable {directory : WString} {mayOpen : WString → OpenMode → Bool}
  {state : State} {table : HandleTable} {args : List JsValue}

/-- Without its handles the function is `FileContents.write`. -/
theorem write_forget :
    ((write directory mayOpen state table args).1,
      (write directory mayOpen state table args).2.1) =
        FileContents.write directory mayOpen state args := by
  rw [write, FileContents.write]
  cases fsWrite directory state.cachedPaths args with
  | error message => rfl
  | ok call =>
      obtain ⟨osCall, cachedPaths⟩ := call
      dsimp only
      cases openFile mayOpen state.disk osCall with
      | none => rfl
      | some opened =>
          obtain ⟨path, disk⟩ := opened
          dsimp only
          cases writtenBytes (argument args 1) with
          | none => rfl
          | some bytes => rfl

/-- The call of the operating system that the arguments lead to. -/
theorem fsWrite_named {name : WString} (enough : 2 ≤ args.length)
    (named : argument args 0 = .string name) :
    fsWrite directory state.cachedPaths args =
      .ok (.openFile (namedFile directory state name) (openMode args),
        (getRelativeFilePath directory state.cachedPaths name).2) := by
  rw [fsWrite, withFileName, if_neg (by omega), named]
  rfl

/-- Without two arguments or a name there is none. -/
theorem exists_of_fsWrite {osCall : OsCall} {cachedPaths : PathCache}
    (resolved : fsWrite directory state.cachedPaths args =
      .ok (osCall, cachedPaths)) :
    2 ≤ args.length ∧ ∃ name, argument args 0 = .string name ∧
      osCall = .openFile (namedFile directory state name) (openMode args) := by
  by_cases enough : 2 ≤ args.length
  · refine ⟨enough, ?_⟩
    cases first : argument args 0 with
    | string name =>
        rw [fsWrite_named enough first] at resolved
        cases resolved
        exact ⟨name, rfl, rfl⟩
    | _ =>
        rw [fsWrite, withFileName, if_neg (by omega), first] at resolved
        cases resolved
  · rw [fsWrite, withFileName, if_pos (by omega)] at resolved
    cases resolved

/-- Opening for writing or appending only depends on the permission. -/
theorem openFile_isSome (mayOpen : WString → OpenMode → Bool)
    (args : List JsValue) (disk : Disk) (path : WString) :
    (openFile mayOpen disk (.openFile path (openMode args))).isSome =
      mayOpen path (openMode args) := by
  unfold openMode
  cases optionalFlag args 2 with
  | true =>
      simp only [if_true, openFile]
      cases mayOpen path .appendBinary <;> rfl
  | false =>
      simp only [Bool.false_eq_true, if_false, openFile]
      cases mayOpen path .writeBinary <;> rfl

/-- A call that opens in vain throws with the file opened: what was in it is
gone if it was opened for writing, and the handle stays open. -/
theorem write_opensInVain
    (vain : OpensInVain directory mayOpen state args) :
    ∃ name after, argument args 0 = .string name ∧
      write directory mayOpen state table args =
        (.throws "invalid data type provided.", after,
          table.fopen (namedFile directory state name)) ∧
      after.disk (namedFile directory state name) =
        some (if optionalFlag args 2 then
          (state.disk (namedFile directory state name)).getD [] else []) := by
  obtain ⟨enough, ⟨name, named, allowed⟩, neither⟩ := vain
  have contentless := (writtenBytes_eq_none_iff _).mpr neither
  refine ⟨name, ?_⟩
  rw [write, fsWrite_named enough named]
  unfold openMode at allowed ⊢
  dsimp only
  cases appends : optionalFlag args 2 with
  | true =>
      rw [appends, if_pos rfl] at allowed
      simp only [if_true, openFile, allowed, contentless]
      exact ⟨_, named, rfl, by simp⟩
  | false =>
      rw [appends, if_neg Bool.false_ne_true] at allowed
      simp only [Bool.false_eq_true, if_false, openFile, if_true, allowed,
        contentless]
      exact ⟨_, named, rfl, by simp⟩

/-- How a call ends: it is rejected with nothing changed, it opens in vain, or it
returns with its handle closed. -/
inductive Ending (directory : WString) (mayOpen : WString → OpenMode → Bool)
    (state : State) (table : HandleTable) (args : List JsValue) :
    Outcome × State × HandleTable → Prop
  | rejected (message : String) (after : State)
      (useful : ¬ OpensInVain directory mayOpen state args)
      (unchanged : after.disk = state.disk) :
      Ending directory mayOpen state table args
        (.throws message, after, table)
  | vain (message : String) (after : State) (path : WString)
      (vain : OpensInVain directory mayOpen state args) :
      Ending directory mayOpen state table args
        (.throws message, after, table.fopen path)
  | returned (after : State) (handles : HandleTable)
      (useful : ¬ OpensInVain directory mayOpen state args)
      (closed : handles.opened = table.opened) :
      Ending directory mayOpen state table args
        (.returns .undefined, after, handles)

theorem write_ending (directory : WString)
    (mayOpen : WString → OpenMode → Bool) (state : State)
    (table : HandleTable) (args : List JsValue) :
    Ending directory mayOpen state table args
      (write directory mayOpen state table args) := by
  by_cases vain : OpensInVain directory mayOpen state args
  · obtain ⟨name, after, -, threw, -⟩ :=
      @write_opensInVain _ _ _ table _ vain
    rw [threw]
    exact .vain _ _ _ vain
  rw [write]
  cases resolved : fsWrite directory state.cachedPaths args with
  | error message => exact .rejected _ _ vain rfl
  | ok call =>
      obtain ⟨osCall, cachedPaths⟩ := call
      obtain ⟨enough, name, named, rfl⟩ := exists_of_fsWrite resolved
      have allowed := openFile_isSome mayOpen args state.disk
        (namedFile directory state name)
      dsimp only
      cases opened : openFile mayOpen state.disk
          (.openFile (namedFile directory state name) (openMode args)) with
      | none => exact .rejected _ _ vain rfl
      | some file =>
          rw [opened, Option.isSome_some] at allowed
          obtain ⟨path, disk⟩ := file
          dsimp only
          cases content : writtenBytes (argument args 1) with
          | none =>
              have neither := (writtenBytes_eq_none_iff _).mp content
              exact absurd ⟨enough, ⟨name, named, allowed.symm⟩, neither⟩ vain
          | some bytes =>
              exact .returned _ _ vain (table.opened_fclose_fopen path)

/-- An exception of `fs.write` leaves all files and handles as they were
exactly if the call does not open a file in vain. -/
theorem throwsCleanly_iff (directory : WString)
    (mayOpen : WString → OpenMode → Bool) (state : State)
    (table : HandleTable) (args : List JsValue) :
    ThrowsCleanly directory mayOpen state table args ↔
      ¬ OpensInVain directory mayOpen state args := by
  constructor
  · intro clean vain
    obtain ⟨name, after, -, threw, -⟩ :=
      @write_opensInVain _ _ _ table _ vain
    have same := (clean _ _ _ threw).2
    have longer := congrArg List.length same
    simp [HandleTable.fopen] at longer
  · intro useful message after handles threw
    have ending := write_ending directory mayOpen state table args
    rw [threw] at ending
    cases ending with
    | rejected _ _ _ unchanged => exact ⟨unchanged, rfl⟩
    | vain _ _ _ vain => exact absurd vain useful

end Calls

/-- Every file has three bytes. -/
def threeBytes : State :=
  ⟨[], fun _ => some [1, 2, 3]⟩

/-- A call that opens its file and writes to it, and one that is not allowed to
open it and throws. -/
theorem write_text_and_refused_clean :
    ThrowsCleanly [] (fun _ _ => true) threeBytes .empty
        [.string [0x61], .string [0x62]] ∧
      ThrowsCleanly [] (fun _ _ => false) threeBytes .empty
        [.string [0x61], .number (.finite 1)] := by
  constructor
  · apply (throwsCleanly_iff _ _ _ _ _).mpr
    rintro ⟨-, -, noText, -⟩
    exact noText [0x62] rfl
  · apply (throwsCleanly_iff _ _ _ _ _).mpr
    rintro ⟨-, ⟨name, named, opens⟩, -⟩
    cases opens

/-- `fs.write("a", 1)` throws, but the file is empty then and its handle is
still open. -/
theorem write_number_not_clean :
    let file := namedFile [] threeBytes [0x61]
    threeBytes.disk file = some [1, 2, 3] ∧
    (∃ after handles,
      write [] (fun _ _ => true) threeBytes .empty
          [.string [0x61], .number (.finite 1)] =
        (.throws "invalid data type provided.", after, handles) ∧
      after.disk file = some [] ∧ handles.opened = [(0, file)]) ∧
    ¬ ThrowsCleanly [] (fun _ _ => true) threeBytes .empty
      [.string [0x61], .number (.finite 1)] := by
  intro file
  have vain : OpensInVain [] (fun _ _ => true) threeBytes
      [.string [0x61], .number (.finite 1)] :=
    ⟨by decide, ⟨[0x61], rfl, rfl⟩, by simp [argument]⟩
  obtain ⟨name, after, named, threw, emptied⟩ :=
    @write_opensInVain _ _ _ .empty _ vain
  cases named
  refine ⟨rfl, ⟨after, _, threw, emptied, rfl⟩, ?_⟩
  intro clean
  have same := (clean _ _ _ threw).2
  cases same

end FileHandles

end IISModuleJS
