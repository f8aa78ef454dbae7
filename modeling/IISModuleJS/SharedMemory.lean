import Mathlib.Logic.Function.Basic
import Mathlib.Data.List.TakeWhile

/-!
# The shared memory of the interprocess store

The store keeps an info record and an array of data records in memory that
all processes map.  Every field exists twice; the buffer state of a record
tells which copy is in front, and only the other one is written before the
records are switched.

A process can stop between any two writes, so all writes are made explicit
and go to a single field or byte.  A buffer of bytes is a function of the
offset.
-/

namespace IISModuleJS

namespace SharedMemory

/-- `IPCKV_DATA_SIZE`. -/
def dataSize : Nat := 2048

/-- `IPCKV_KEY_SIZE`. -/
def keySize : Nat := 260

/-- `IPCKV_BIT_HIGH`. -/
def bitHigh : UInt8 := 1

/-- `IPC_KV_Data_State`. -/
inductive DataState
  | empty
  | deleted
  | occupied
  deriving DecidableEq

abbrev Bytes := Nat → UInt8

/-- The first bytes of a buffer. -/
def firstBytes (buffer : Bytes) (count : Nat) : List UInt8 :=
  (List.range count).map buffer

/-- The zero-terminated string in a buffer of a given size. -/
def cString (buffer : Bytes) (bound : Nat) : List UInt8 :=
  (firstBytes buffer bound).takeWhile (· ≠ 0)

/-- A buffer after bytes were copied to an offset. -/
def overlayFrom (start : Nat) (bytes : List UInt8) (buffer : Bytes) :
    Bytes :=
  fun offset =>
    if offset < start then buffer offset
    else bytes[offset - start]?.getD (buffer offset)

/-- A buffer after bytes were copied to its start. -/
def overlay (bytes : List UInt8) (buffer : Bytes) : Bytes :=
  fun offset => bytes[offset]?.getD (buffer offset)

/-- `IPC_KV_Data`. -/
structure DataRecord where
  state : Bool → DataState
  key : Bool → Bytes
  value : Bool → Bytes
  size : Bool → Nat
  bufferState : UInt8

/-- `IPC_KV_Info`. -/
structure InfoRecord where
  bufferState : UInt8
  capacity : Bool → Nat
  size : Bool → Nat
  resizeCount : Bool → Nat

structure Memory where
  info : InfoRecord
  data : Nat → DataRecord

/-- `InterlockedAnd8`: the value it returns and the value it stores. -/
def interlockedAnd8 (target mask : UInt8) : UInt8 × UInt8 :=
  (target, target &&& mask)

/-- `InterlockedXor8`: the value it returns and the value it stores. -/
def interlockedXor8 (target mask : UInt8) : UInt8 × UInt8 :=
  (target, target ^^^ mask)

/-- The buffer that the getters read. -/
def frontBuffer (bufferState : UInt8) : Bool :=
  (interlockedAnd8 bufferState bitHigh).1 != 0

/-- The buffer that the setters write. -/
def backBuffer (bufferState : UInt8) : Bool :=
  (interlockedAnd8 bufferState bitHigh).1 == 0

/-- A single write to a data record. -/
inductive DataWrite
  | state (buffer : Bool) (value : DataState)
  | key (buffer : Bool) (offset : Nat) (byte : UInt8)
  | value (buffer : Bool) (offset : Nat) (byte : UInt8)
  | size (buffer : Bool) (value : Nat)
  | bufferState (value : UInt8)
  deriving DecidableEq

/-- A single write to the info record. -/
inductive InfoWrite
  | capacity (buffer : Bool) (value : Nat)
  | size (buffer : Bool) (value : Nat)
  | resizeCount (buffer : Bool) (value : Nat)
  | bufferState (value : UInt8)
  deriving DecidableEq

namespace DataRecord

def write (record : DataRecord) : DataWrite → DataRecord
  | .state buffer value =>
      { record with state := Function.update record.state buffer value }
  | .key buffer offset byte =>
      { record with
        key := Function.update record.key buffer
          (Function.update (record.key buffer) offset byte) }
  | .value buffer offset byte =>
      { record with
        value := Function.update record.value buffer
          (Function.update (record.value buffer) offset byte) }
  | .size buffer value =>
      { record with size := Function.update record.size buffer value }
  | .bufferState value => { record with bufferState := value }

def writeAll (record : DataRecord) (writes : List DataWrite) : DataRecord :=
  writes.foldl write record

def front (record : DataRecord) : Bool :=
  frontBuffer record.bufferState

def back (record : DataRecord) : Bool :=
  backBuffer record.bufferState

/-- `getDataState`. -/
def getDataState (record : DataRecord) : DataState :=
  record.state record.front

/-- `getDataKey`, read as a string. -/
def getDataKey (record : DataRecord) : List UInt8 :=
  cString (record.key record.front) keySize

/-- `getDataSize`. -/
def getDataSize (record : DataRecord) : Nat :=
  record.size record.front

/-- `getData`. -/
def getData (record : DataRecord) : Bytes :=
  record.value record.front

@[simp]
theorem writeAll_nil (record : DataRecord) : record.writeAll [] = record :=
  rfl

@[simp]
theorem writeAll_cons (record : DataRecord) (first : DataWrite)
    (rest : List DataWrite) :
    record.writeAll (first :: rest) = (record.write first).writeAll rest :=
  rfl

@[simp]
theorem writeAll_append (record : DataRecord)
    (first second : List DataWrite) :
    record.writeAll (first ++ second) =
      (record.writeAll first).writeAll second :=
  List.foldl_append

end DataRecord

namespace InfoRecord

def write (record : InfoRecord) : InfoWrite → InfoRecord
  | .capacity buffer value =>
      { record with capacity := Function.update record.capacity buffer value }
  | .size buffer value =>
      { record with size := Function.update record.size buffer value }
  | .resizeCount buffer value =>
      { record with
        resizeCount := Function.update record.resizeCount buffer value }
  | .bufferState value => { record with bufferState := value }

def writeAll (record : InfoRecord) (writes : List InfoWrite) : InfoRecord :=
  writes.foldl write record

def front (record : InfoRecord) : Bool :=
  frontBuffer record.bufferState

def back (record : InfoRecord) : Bool :=
  backBuffer record.bufferState

/-- `getCapacity`. -/
def getCapacity (record : InfoRecord) : Nat :=
  record.capacity record.front

/-- `getSize`. -/
def getSize (record : InfoRecord) : Nat :=
  record.size record.front

/-- `getResizeCount`. -/
def getResizeCount (record : InfoRecord) : Nat :=
  record.resizeCount record.front

@[simp]
theorem writeAll_nil (record : InfoRecord) : record.writeAll [] = record :=
  rfl

@[simp]
theorem writeAll_cons (record : InfoRecord) (first : InfoWrite)
    (rest : List InfoWrite) :
    record.writeAll (first :: rest) = (record.write first).writeAll rest :=
  rfl

@[simp]
theorem writeAll_append (record : InfoRecord)
    (first second : List InfoWrite) :
    record.writeAll (first ++ second) =
      (record.writeAll first).writeAll second :=
  List.foldl_append

end InfoRecord

/-- The buffer states that a record ever has: it starts with zero, and only
its lowest bit is switched. -/
def ValidState (bufferState : UInt8) : Prop :=
  bufferState = 0 ∨ bufferState = 1

theorem ValidState.and_eq {bufferState : UInt8}
    (valid : ValidState bufferState) :
    (interlockedAnd8 bufferState bitHigh).2 = bufferState := by
  rcases valid with rfl | rfl <;> rfl

theorem ValidState.xor {bufferState : UInt8}
    (valid : ValidState bufferState) :
    ValidState (interlockedXor8 bufferState bitHigh).2 := by
  rcases valid with rfl | rfl
  · exact .inr rfl
  · exact .inl rfl

/-- Switching a record brings the back buffer to the front. -/
theorem ValidState.front_xor {bufferState : UInt8}
    (valid : ValidState bufferState) :
    frontBuffer (interlockedXor8 bufferState bitHigh).2 =
      backBuffer bufferState := by
  rcases valid with rfl | rfl <;> rfl

theorem frontBuffer_eq_not (bufferState : UInt8) :
    frontBuffer bufferState = !backBuffer bufferState := by
  simp [frontBuffer, backBuffer, bne]

theorem front_ne_back (bufferState : UInt8) :
    frontBuffer bufferState ≠ backBuffer bufferState := by
  rw [frontBuffer_eq_not]
  cases backBuffer bufferState <;> decide

/-- A data record as the store keeps it, in both buffers: sizes fit the value
buffer, and the last byte of the key buffer is zero, so that keys are
terminated. -/
structure DataRecord.WellFormed (record : DataRecord) : Prop where
  valid : ValidState record.bufferState
  sizeBound : ∀ buffer, record.size buffer ≤ dataSize
  terminated : ∀ buffer, record.key buffer (keySize - 1) = 0

/-- Replacing one slot keeps all slots well formed. -/
theorem DataRecord.WellFormed.update {memory : Nat → DataRecord}
    (wellFormed : ∀ slot, (memory slot).WellFormed) {index : Nat}
    {record : DataRecord} (formed : record.WellFormed) (slot : Nat) :
    (Function.update memory index record slot).WellFormed := by
  by_cases here : slot = index
  · subst slot
    rw [Function.update_self]
    exact formed
  · rw [Function.update_of_ne here]
    exact wellFormed slot

/-- A record in newly created memory. -/
def DataRecord.zero : DataRecord where
  state := fun _ => .empty
  key := fun _ _ => 0
  value := fun _ _ => 0
  size := fun _ => 0
  bufferState := 0

theorem DataRecord.wellFormed_zero : DataRecord.zero.WellFormed where
  valid := .inl rfl
  sizeBound := fun _ => Nat.zero_le _
  terminated := fun _ => rfl

def InfoRecord.zero : InfoRecord where
  bufferState := 0
  capacity := fun _ => 0
  size := fun _ => 0
  resizeCount := fun _ => 0

theorem overlayFrom_zero (bytes : List UInt8) (buffer : Bytes) :
    overlayFrom 0 bytes buffer = overlay bytes buffer := by
  funext offset
  simp [overlayFrom, overlay]

theorem overlayFrom_nil (start : Nat) (buffer : Bytes) :
    overlayFrom start [] buffer = buffer := by
  funext offset
  simp [overlayFrom]

theorem overlayFrom_cons (start : Nat) (byte : UInt8) (rest : List UInt8)
    (buffer : Bytes) :
    overlayFrom start (byte :: rest) buffer =
      overlayFrom (start + 1) rest
        (Function.update buffer start byte) := by
  funext offset
  rcases Nat.lt_trichotomy offset start with before | rfl | after
  · have different : offset ≠ start := by omega
    simp [overlayFrom, before, different, Nat.lt_succ_of_lt before]
  · simp [overlayFrom]
  · obtain ⟨more, rfl⟩ := Nat.exists_eq_add_of_lt after
    have position : start + more + 1 - start = more + 1 := by omega
    have tail : start + more + 1 - (start + 1) = more := by omega
    have different : start + more + 1 ≠ start := by omega
    have outside : ¬ start + more + 1 < start := by omega
    have beyond : ¬ start + more + 1 < start + 1 := by omega
    simp only [overlayFrom, outside, beyond, if_false, position, tail,
      List.getElem?_cons_succ, Function.update_of_ne different]

theorem length_firstBytes (buffer : Bytes) (count : Nat) :
    (firstBytes buffer count).length = count := by
  simp [firstBytes]

/-- Copied bytes can be read back. -/
theorem firstBytes_overlay (bytes : List UInt8) (buffer : Bytes) :
    firstBytes (overlay bytes buffer) bytes.length = bytes := by
  apply List.ext_getElem
  · exact length_firstBytes _ _
  · intro offset _ inside
    simp [firstBytes, overlay, inside]

/-- Reading more than was copied continues with the old bytes. -/
theorem firstBytes_overlay_of_le (bytes : List UInt8) (buffer : Bytes)
    {count : Nat} (le : bytes.length ≤ count) :
    ∃ rest, firstBytes (overlay bytes buffer) count = bytes ++ rest := by
  obtain ⟨more, rfl⟩ := Nat.exists_eq_add_of_le le
  have start := firstBytes_overlay bytes buffer
  refine ⟨(List.range more).map fun offset =>
    overlay bytes buffer (bytes.length + offset), ?_⟩
  simp only [firstBytes, List.range_add, List.map_append,
    List.map_map] at start ⊢
  rw [start]
  rfl

/-- Copying a string with its terminator. -/
theorem cString_overlay {string : List UInt8} (zeroFree : 0 ∉ string)
    (buffer : Bytes) {bound : Nat} (short : string.length < bound) :
    cString (overlay (string ++ [0]) buffer) bound = string := by
  obtain ⟨rest, bytes⟩ := firstBytes_overlay_of_le (string ++ [0]) buffer
    (show (string ++ [0]).length ≤ bound by
      simpa using Nat.succ_le_of_lt short)
  have nonzero : ∀ byte ∈ string, decide (byte ≠ 0) = true := by
    intro byte member
    simp only [decide_eq_true_eq]
    rintro rfl
    exact zeroFree member
  rw [cString, bytes, List.append_assoc,
    List.takeWhile_append_of_pos nonzero]
  simp

theorem zero_not_mem_cString (buffer : Bytes) (bound : Nat) :
    0 ∉ cString buffer bound := by
  intro member
  have nonzero := List.mem_takeWhile_imp member
  simp at nonzero

/-- A terminated string is shorter than its buffer. -/
theorem length_cString_lt {buffer : Bytes} {last bound : Nat}
    (terminated : buffer last = 0) (inside : last < bound) :
    (cString buffer bound).length < bound := by
  by_contra long
  have start : cString buffer bound <+: firstBytes buffer bound :=
    List.takeWhile_prefix _
  have whole : cString buffer bound = firstBytes buffer bound := by
    apply start.eq_of_length_le
    rw [length_firstBytes]
    exact Nat.le_of_not_lt long
  have member : (0 : UInt8) ∈ firstBytes buffer bound :=
    List.mem_map.mpr ⟨last, List.mem_range.mpr inside, terminated⟩
  rw [← whole] at member
  exact zero_not_mem_cString buffer bound member

end SharedMemory

end IISModuleJS
