import IISModuleJS.FileContents

/-!
# File sizes

`fs.read` and `execute_file` ask `ftell` for the size of a file.  Its result is
a signed 32-bit number, which is -1 for a position that does not fit, and it is
converted to an unsigned 64-bit size.  `fs.read` allocates that many bytes;
`execute_file` one more, for a terminating zero behind the text.

For a file of `2 ^ 31` bytes or more the size is the largest there is.  Nothing
of that size can be allocated, but the sum in `execute_file` is zero.
-/

namespace IISModuleJS

namespace FileSizes

open FileContents TextEncoding

/-- `ftell` at the end of a file of some length. -/
def ftell (length : Nat) : Int32 :=
  if length < 2 ^ 31 then .ofNat length else -1

/-- A `long` as a `size_t`. -/
def toSizeT (value : Int32) : UInt64 :=
  value.toInt64.toUInt64

def fileSize (length : Nat) : UInt64 :=
  toSizeT (ftell length)

/-- `_HEAP_MAXREQ`, the most that the C runtime allocates. -/
def heapMaxReq : UInt64 := 0xFFFFFFFFFFFFFFE0

/-- What is done with memory: an allocation, a byte written at an index of it,
and the bytes that `fread` is asked for. -/
inductive Operation
  | allocate (bytes : UInt64)
  | store (index : UInt64)
  | fread (count : UInt64)
  deriving DecidableEq

/-- The operations of a call, and how it ends. -/
structure Performed (Result : Type) where
  operations : List Operation
  result : Result
  deriving DecidableEq

/-- The part of `fs.read` after the file was opened.  Where nothing can be
allocated `new` throws, and `ArrayBuffer::New` ends the process. -/
def readFile (contents : List UInt8) (asArray : Bool) : Performed Outcome :=
  let size := fileSize contents.length
  if size ≤ heapMaxReq then
    let data := contents.take size.toNat
    { operations := [.allocate size, .fread size]
      result :=
        if asArray then .returns (.uint8Array (wholeBuffer data))
        else if data.length ≤ stringMaxLength then
          .returns (.string (latin1 data))
        else .aborts }
  else
    { operations := []
      result := if asArray then .aborts else .throws "bad allocation" }

/-- How `execute_file` goes on: it executes the text in a buffer, it throws, or
it has written outside of the buffer. -/
inductive ScriptOutcome
  | executes (chars : List UInt8)
  | throws (message : String)
  | undefinedBehavior
  deriving DecidableEq

/-- The part of `execute_file` between the opening of the file and the execution
of its text.  `readFails` tells what `ferror` says. -/
def executeFile (contents : List UInt8) (readFails : Bool) :
    Performed ScriptOutcome :=
  let size := fileSize contents.length
  if heapMaxReq < size + 1 then
    { operations := [], result := .throws "bad allocation" }
  else if size + 1 ≤ size then
    { operations := [.allocate (size + 1), .store size]
      result := .undefinedBehavior }
  else
    { operations := [.allocate (size + 1), .store size, .fread size]
      result :=
        if readFails then
          .throws "failed to read the contents of the script file"
        else .executes (contents.take size.toNat ++ [0]) }

theorem toInt_ftell {length : Nat} (small : length < 2 ^ 31) :
    (ftell length).toInt = length := by
  rw [ftell, if_pos small]
  exact Int32.toInt_ofNat_of_lt small

/-- A length that fits keeps its value. -/
theorem toNat_fileSize {length : Nat} (small : length < 2 ^ 31) :
    (fileSize length).toNat = length := by
  have value := toInt_ftell small
  have nonnegative : 0 ≤ (ftell length).toInt64 := by
    rw [Int64.le_iff_toInt_le, Int32.toInt_toInt64, value]
    exact Int.natCast_nonneg length
  rw [fileSize, toSizeT, Int64.toNat_toUInt64_of_le nonnegative,
    Int32.toNatClampNeg_toInt64, Int32.toNatClampNeg, value,
    Int.toNat_natCast]

/-- Any other one becomes the largest size. -/
theorem fileSize_of_large {length : Nat} (large : 2 ^ 31 ≤ length) :
    fileSize length = 0xFFFFFFFFFFFFFFFF := by
  rw [fileSize, ftell, if_neg (Nat.not_lt_of_le large)]
  decide

theorem toNat_fileSize_add_one {length : Nat} (small : length < 2 ^ 31) :
    (fileSize length + 1).toNat = length + 1 := by
  rw [UInt64.toNat_add, toNat_fileSize small, UInt64.toNat_one]
  omega

theorem readFile_of_small {contents : List UInt8} (asArray : Bool)
    (small : contents.length < 2 ^ 31) :
    readFile contents asArray =
      { operations := [.allocate (fileSize contents.length),
          .fread (fileSize contents.length)]
        result :=
          if asArray then .returns (.uint8Array (wholeBuffer contents))
          else if contents.length ≤ stringMaxLength then
            .returns (.string (latin1 contents))
          else .aborts } := by
  have size := toNat_fileSize small
  have allocates : fileSize contents.length ≤ heapMaxReq := by
    rw [UInt64.le_iff_toNat_le, size]
    exact Nat.le_trans (Nat.le_of_lt small) (by decide)
  rw [readFile]
  simp only [if_pos allocates, size, List.take_length]

theorem readFile_of_large {contents : List UInt8} (asArray : Bool)
    (large : 2 ^ 31 ≤ contents.length) :
    readFile contents asArray =
      { operations := []
        result := if asArray then .aborts else .throws "bad allocation" } := by
  have refuses : ¬ (0xFFFFFFFFFFFFFFFF : UInt64) ≤ heapMaxReq := by decide
  rw [readFile, fileSize_of_large large]
  exact if_neg refuses

/-- The results are those of `fs.read`. -/
theorem result_readFile (contents : List UInt8) (asArray : Bool) :
    (readFile contents asArray).result = readContents contents asArray := by
  by_cases small : contents.length < 2 ^ 31
  · rw [readFile_of_small asArray small, readContents, if_pos small]
  · rw [readFile_of_large asArray (Nat.le_of_not_lt small), readContents,
      if_neg small]

theorem executeFile_of_small {contents : List UInt8} (readFails : Bool)
    (small : contents.length < 2 ^ 31) :
    executeFile contents readFails =
      { operations := [.allocate (fileSize contents.length + 1),
          .store (fileSize contents.length),
          .fread (fileSize contents.length)]
        result :=
          if readFails then
            .throws "failed to read the contents of the script file"
          else .executes (contents ++ [0]) } := by
  have size := toNat_fileSize small
  have sum := toNat_fileSize_add_one small
  have allocates : ¬ heapMaxReq < fileSize contents.length + 1 := by
    rw [UInt64.not_lt, UInt64.le_iff_toNat_le, sum]
    exact Nat.le_trans small (by decide)
  have inside : ¬ fileSize contents.length + 1 ≤ fileSize contents.length := by
    rw [UInt64.le_iff_toNat_le, sum, size]
    omega
  rw [executeFile]
  simp only [if_neg allocates, if_neg inside, size, List.take_length]

/-- For a large file the buffer is empty, and the terminating zero is written
in front of it. -/
theorem executeFile_of_large {contents : List UInt8} (readFails : Bool)
    (large : 2 ^ 31 ≤ contents.length) :
    executeFile contents readFails =
      { operations := [.allocate 0, .store 0xFFFFFFFFFFFFFFFF]
        result := .undefinedBehavior } := by
  rw [executeFile, fileSize_of_large large]
  rfl

/-- `fs.read` allocates exactly the length of the file and reads as much, or it
throws. -/
def ReadsExactly (contents : List UInt8) (asArray : Bool) : Prop :=
  (∃ size : UInt64, size.toNat = contents.length ∧
    (readFile contents asArray).operations =
      [.allocate size, .fread size]) ∨
  ∃ message, (readFile contents asArray).result = .throws message

/-- `execute_file` allocates exactly one byte more than the length of the file,
writes the zero at that length, and reads as much, or it throws. -/
def LoadsExactly (contents : List UInt8) (readFails : Bool) : Prop :=
  (∃ allocated size : UInt64, allocated.toNat = contents.length + 1 ∧
    size.toNat = contents.length ∧
    (executeFile contents readFails).operations =
      [.allocate allocated, .store size, .fread size]) ∨
  ∃ message, (executeFile contents readFails).result = .throws message

/-- Nothing happens to the size of a file in both functions. -/
structure SizesSurvive (contents : List UInt8) : Prop where
  converts : ((fileSize contents.length).toNat : Int) =
    (ftell contents.length).toInt
  adds : (fileSize contents.length + 1).toNat =
    (fileSize contents.length).toNat + 1
  reads : ∀ asArray, ReadsExactly contents asArray
  loads : ∀ readFails, LoadsExactly contents readFails

theorem readsExactly_iff (contents : List UInt8) (asArray : Bool) :
    ReadsExactly contents asArray ↔
      contents.length < 2 ^ 31 ∨ asArray = false := by
  by_cases small : contents.length < 2 ^ 31
  · refine iff_of_true (.inl ⟨_, toNat_fileSize small, ?_⟩) (.inl small)
    rw [readFile_of_small asArray small]
  · have large := Nat.le_of_not_lt small
    rw [ReadsExactly, readFile_of_large asArray large]
    cases asArray with
    | false => exact iff_of_true (.inr ⟨_, rfl⟩) (.inr rfl)
    | true =>
        refine iff_of_false ?_ ?_
        · rintro (⟨size, -, operations⟩ | ⟨message, throws⟩)
          · cases operations
          · cases throws
        · rintro (less | flag)
          · exact small less
          · cases flag

theorem loadsExactly_iff (contents : List UInt8) (readFails : Bool) :
    LoadsExactly contents readFails ↔ contents.length < 2 ^ 31 := by
  by_cases small : contents.length < 2 ^ 31
  · refine iff_of_true (.inl ⟨_, _, toNat_fileSize_add_one small,
      toNat_fileSize small, ?_⟩) small
    rw [executeFile_of_small readFails small]
  · have large := Nat.le_of_not_lt small
    rw [LoadsExactly, executeFile_of_large readFails large]
    refine iff_of_false ?_ small
    rintro (⟨allocated, size, -, -, operations⟩ | ⟨message, throws⟩)
    · cases operations
    · cases throws

/-- File sizes survive the arithmetic exactly below `2 ^ 31` bytes.  From there
on `fs.read` still throws if it is to return a string, but ends the process if
it is to return an array, and `execute_file` writes outside of an empty
buffer. -/
theorem sizesSurvive_iff (contents : List UInt8) :
    (SizesSurvive contents ↔ contents.length < 2 ^ 31) ∧
    (∀ asArray, ReadsExactly contents asArray ↔
      contents.length < 2 ^ 31 ∨ asArray = false) ∧
    ∀ readFails, LoadsExactly contents readFails ↔
      contents.length < 2 ^ 31 := by
  refine ⟨⟨?_, ?_⟩, readsExactly_iff contents, loadsExactly_iff contents⟩
  · intro survive
    exact (loadsExactly_iff contents false).mp (survive.loads false)
  · intro small
    refine ⟨?_, ?_, ?_, ?_⟩
    · rw [toNat_fileSize small, toInt_ftell small]
    · rw [toNat_fileSize_add_one small, toNat_fileSize small]
    · intro asArray
      exact (readsExactly_iff contents asArray).mpr (.inl small)
    · intro readFails
      exact (loadsExactly_iff contents readFails).mpr small

/-- A script of `2 ^ 31` bytes: nothing is allocated for it, and the zero is
written at the largest index; reading the file as an array ends the process. -/
theorem two_gibibytes_do_not_survive :
    let contents : List UInt8 := List.replicate (2 ^ 31) 97
    executeFile contents false =
      { operations := [.allocate 0, .store 0xFFFFFFFFFFFFFFFF]
        result := .undefinedBehavior } ∧
    readFile contents true = { operations := [], result := .aborts } ∧
    ¬ SizesSurvive contents := by
  intro contents
  have large : 2 ^ 31 ≤ contents.length :=
    Nat.le_of_eq List.length_replicate.symm
  refine ⟨executeFile_of_large false large, readFile_of_large true large, ?_⟩
  intro survive
  have small := (loadsExactly_iff contents false).mp (survive.loads false)
  exact absurd large (Nat.not_le_of_lt small)

end FileSizes

end IISModuleJS
