import IISModuleJS.SharedMemory

/-!
# The controller of the interprocess store

`IPC_KV_Controller` changes the shared memory in transactions.  Setters write
the back buffer of a record and remember in flags which fields were set; a
commit carries over the fields that were not set, through the same setters,
and switches the record.

The setters and commits are given as the lists of writes they make, in the
order of the source, together with their effect on the members of the
controller.  Every read of a buffer state is an interlocked operation and
counts as a write.
-/

namespace IISModuleJS

namespace InterprocessController

open SharedMemory

/-- Copy bytes one by one. -/
def copyBytes {Write : Type} (write : Nat → UInt8 → Write) :
    Nat → List UInt8 → List Write
  | _, [] => []
  | offset, byte :: rest =>
      write offset byte :: copyBytes write (offset + 1) rest

/-- `m_data_transaction_flags`. -/
structure DataFlags where
  state : Bool
  key : Bool
  value : Bool
  size : Bool
  deriving DecidableEq

/-- `DataNone`. -/
def DataFlags.none : DataFlags :=
  ⟨false, false, false, false⟩

/-- `m_info_transaction_flags`. -/
structure InfoFlags where
  resizeCount : Bool
  capacity : Bool
  size : Bool
  deriving DecidableEq

/-- `InfoNone`. -/
def InfoFlags.none : InfoFlags :=
  ⟨false, false, false⟩

/-- The members of a controller.  The views are null until they are mapped. -/
structure Controller where
  infoMapped : Bool
  dataMapped : Bool
  hasStartedInfoTransaction : Bool
  infoTransactionFlags : InfoFlags
  hasStartedDataTransaction : Bool
  dataTransactionFlags : DataFlags
  deriving DecidableEq

/-- A new controller whose views are mapped. -/
def Controller.attached : Controller where
  infoMapped := true
  dataMapped := true
  hasStartedInfoTransaction := false
  infoTransactionFlags := .none
  hasStartedDataTransaction := false
  dataTransactionFlags := .none

section DataWrites

variable (record : DataRecord)

/-- Reading the buffer state of a data record. -/
def readBufferState : DataWrite :=
  .bufferState (interlockedAnd8 record.bufferState bitHigh).2

/-- The writes of `setDataSize`. -/
def setDataSizeWrites (size : Nat) : List DataWrite :=
  [readBufferState record, .size record.back size]

/-- The writes of `setDataState`. -/
def setDataStateWrites (state : DataState) : List DataWrite :=
  [readBufferState record, .state record.back state]

/-- The writes of `setData`, with the bytes that `memcpy_s` copies. -/
def setDataWrites (data : List UInt8) : List DataWrite :=
  readBufferState record ::
    (copyBytes (.value record.back) 0 data ++
      [.size record.back data.length])

/-- The writes of `setDataKey`: `strncpy_s` copies the string and a zero. -/
def setDataKeyWrites (key : List UInt8) : List DataWrite :=
  readBufferState record ::
    copyBytes (.key record.back) 0 (key ++ [0])

/-- Carry over the size. -/
def carrySize : List DataWrite :=
  readBufferState record :: setDataSizeWrites record record.getDataSize

/-- Carry over the state. -/
def carryState : List DataWrite :=
  readBufferState record :: setDataStateWrites record record.getDataState

/-- Carry over the value, with the size in front. -/
def carryValue : List DataWrite :=
  readBufferState record :: readBufferState record ::
    setDataWrites record (firstBytes record.getData record.getDataSize)

/-- Carry over the key. -/
def carryKey : List DataWrite :=
  readBufferState record :: readBufferState record ::
    setDataKeyWrites record record.getDataKey

end DataWrites

/-- Make some writes unless a flag is set. -/
def unlessFlag (flag : Bool) (writes : DataRecord → List DataWrite)
    (record : DataRecord) : List DataWrite :=
  if flag then [] else writes record

/-- The writes of `commitData` before the record is switched: the fields
without a flag are carried over, in this order. -/
def carryWrites (flags : DataFlags) (record : DataRecord) :
    List DataWrite :=
  let sized := unlessFlag flags.size carrySize record
  let afterSize := record.writeAll sized
  let stated := unlessFlag flags.state carryState afterSize
  let afterState := afterSize.writeAll stated
  let valued := unlessFlag flags.value carryValue afterState
  let afterValue := afterState.writeAll valued
  let keyed := unlessFlag flags.key carryKey afterValue
  sized ++ stated ++ valued ++ keyed

/-- The write that switches a data record. -/
def switchData (record : DataRecord) : DataWrite :=
  .bufferState (interlockedXor8 record.bufferState bitHigh).2

/-- The writes of `commitData`. -/
def commitDataWrites (flags : DataFlags) (record : DataRecord) :
    List DataWrite :=
  let carried := carryWrites flags record
  carried ++ [switchData (record.writeAll carried)]

section InfoWrites

variable (record : InfoRecord)

/-- Reading the buffer state of the info record. -/
def readInfoBufferState : InfoWrite :=
  .bufferState (interlockedAnd8 record.bufferState bitHigh).2

/-- The writes of `setResizeCount`. -/
def setResizeCountWrites (resizeCount : Nat) : List InfoWrite :=
  [readInfoBufferState record, .resizeCount record.back resizeCount]

/-- The writes of `setCapacity`. -/
def setCapacityWrites (capacity : Nat) : List InfoWrite :=
  [readInfoBufferState record, .capacity record.back capacity]

/-- The writes of `setSize`. -/
def setSizeWrites (size : Nat) : List InfoWrite :=
  [readInfoBufferState record, .size record.back size]

/-- Carry over the resize count. -/
def carryResizeCount : List InfoWrite :=
  readInfoBufferState record ::
    setResizeCountWrites record record.getResizeCount

/-- Carry over the capacity. -/
def carryCapacity : List InfoWrite :=
  readInfoBufferState record :: setCapacityWrites record record.getCapacity

/-- Carry over the size of the store. -/
def carryInfoSize : List InfoWrite :=
  readInfoBufferState record :: setSizeWrites record record.getSize

end InfoWrites

/-- The writes of `commitInfo` before the record is switched. -/
def carryInfoWrites (flags : InfoFlags) (record : InfoRecord) :
    List InfoWrite :=
  let resized := if flags.resizeCount then [] else carryResizeCount record
  let afterResize := record.writeAll resized
  let capacity := if flags.capacity then [] else carryCapacity afterResize
  let afterCapacity := afterResize.writeAll capacity
  let sized := if flags.size then [] else carryInfoSize afterCapacity
  resized ++ capacity ++ sized

/-- The write that switches the info record. -/
def switchInfo (record : InfoRecord) : InfoWrite :=
  .bufferState (interlockedXor8 record.bufferState bitHigh).2

/-- The writes of `commitInfo`. -/
def commitInfoWrites (flags : InfoFlags) (record : InfoRecord) :
    List InfoWrite :=
  let carried := carryInfoWrites flags record
  carried ++ [switchInfo (record.writeAll carried)]

/-- What a member function does when it does not throw: its writes to one
record, and the controller afterwards. -/
abbrev Effect (Write : Type) := Except String (List Write × Controller)

namespace Controller

variable (controller : Controller)

/-- `startDataTransaction`, which does not use its index. -/
def startDataTransaction (_index : Nat) : Effect DataWrite :=
  if !controller.dataMapped then
    .error "class is in an invalid state."
  else if controller.hasStartedDataTransaction then
    .error "a data transaction has already been started."
  else
    .ok ([],
      { controller with
        hasStartedDataTransaction := true
        dataTransactionFlags := .none })

/-- The data setters: their writes and the flags they set.  They do not ask
for a transaction. -/
def setField (writes : List DataWrite)
    (flag : DataFlags → DataFlags) : Effect DataWrite :=
  if !controller.dataMapped then
    .error "class is in an invalid state."
  else
    .ok (writes,
      { controller with
        dataTransactionFlags := flag controller.dataTransactionFlags })

/-- `setDataSize`. -/
def setDataSize (record : DataRecord) (size : Nat) : Effect DataWrite :=
  controller.setField (setDataSizeWrites record size)
    fun flags => { flags with size := true }

/-- `setDataState`. -/
def setDataState (record : DataRecord) (state : DataState) :
    Effect DataWrite :=
  controller.setField (setDataStateWrites record state)
    fun flags => { flags with state := true }

/-- `setData`. -/
def setData (record : DataRecord) (data : List UInt8) : Effect DataWrite :=
  controller.setField (setDataWrites record data)
    fun flags => { flags with value := true, size := true }

/-- `setDataKey`. -/
def setDataKey (record : DataRecord) (key : List UInt8) :
    Effect DataWrite :=
  controller.setField (setDataKeyWrites record key)
    fun flags => { flags with key := true }

/-- `commitData` on the record of its index.  The carried fields set their
flags too, so all flags are set at the end. -/
def commitData (record : DataRecord) : Effect DataWrite :=
  if !controller.dataMapped then
    .error "class is in an invalid state."
  else if !controller.hasStartedDataTransaction then
    .error "a data transaction has not been started."
  else
    .ok (commitDataWrites controller.dataTransactionFlags record,
      { controller with
        hasStartedDataTransaction := false
        dataTransactionFlags := ⟨true, true, true, true⟩ })

/-- `startInfoTransaction`. -/
def startInfoTransaction : Effect InfoWrite :=
  if !controller.infoMapped then
    .error "class is in an invalid state."
  else if controller.hasStartedInfoTransaction then
    .error "a info transaction has already been started."
  else
    .ok ([],
      { controller with
        hasStartedInfoTransaction := true
        infoTransactionFlags := .none })

/-- The info setters: their writes and the flag they set. -/
def setInfoField (writes : List InfoWrite)
    (flag : InfoFlags → InfoFlags) : Effect InfoWrite :=
  if !controller.infoMapped then
    .error "class is in an invalid state."
  else if !controller.hasStartedInfoTransaction then
    .error "a info transaction has not been started."
  else
    .ok (writes,
      { controller with
        infoTransactionFlags := flag controller.infoTransactionFlags })

/-- `setResizeCount`. -/
def setResizeCount (record : InfoRecord) (resizeCount : Nat) :
    Effect InfoWrite :=
  controller.setInfoField (setResizeCountWrites record resizeCount)
    fun flags => { flags with resizeCount := true }

/-- `setCapacity`. -/
def setCapacity (record : InfoRecord) (capacity : Nat) : Effect InfoWrite :=
  controller.setInfoField (setCapacityWrites record capacity)
    fun flags => { flags with capacity := true }

/-- `setSize`. -/
def setSize (record : InfoRecord) (size : Nat) : Effect InfoWrite :=
  controller.setInfoField (setSizeWrites record size)
    fun flags => { flags with size := true }

/-- `commitInfo`. -/
def commitInfo (record : InfoRecord) : Effect InfoWrite :=
  if !controller.infoMapped then
    .error "class is in an invalid state."
  else if !controller.hasStartedInfoTransaction then
    .error "a info transaction has not been started."
  else
    .ok (commitInfoWrites controller.infoTransactionFlags record,
      { controller with
        hasStartedInfoTransaction := false
        infoTransactionFlags := ⟨true, true, true⟩ })

end Controller

section RecordEffects

variable {record : DataRecord}

theorem write_readBufferState (valid : ValidState record.bufferState) :
    record.write (readBufferState record) = record := by
  simp [DataRecord.write, readBufferState, valid.and_eq]

theorem writeAll_copyValue (buffer : Bool) (offset : Nat)
    (bytes : List UInt8) (record : DataRecord) :
    record.writeAll (copyBytes (.value buffer) offset bytes) =
      { record with
        value := Function.update record.value buffer
          (overlayFrom offset bytes (record.value buffer)) } := by
  induction bytes generalizing offset record with
  | nil => simp [copyBytes, overlayFrom_nil]
  | cons byte rest ih =>
      simp only [copyBytes, DataRecord.writeAll_cons, ih, DataRecord.write,
        overlayFrom_cons, Function.update_self, Function.update_idem]

theorem writeAll_copyKey (buffer : Bool) (offset : Nat)
    (bytes : List UInt8) (record : DataRecord) :
    record.writeAll (copyBytes (.key buffer) offset bytes) =
      { record with
        key := Function.update record.key buffer
          (overlayFrom offset bytes (record.key buffer)) } := by
  induction bytes generalizing offset record with
  | nil => simp [copyBytes, overlayFrom_nil]
  | cons byte rest ih =>
      simp only [copyBytes, DataRecord.writeAll_cons, ih, DataRecord.write,
        overlayFrom_cons, Function.update_self, Function.update_idem]

variable (valid : ValidState record.bufferState)

include valid

theorem writeAll_setDataSize (size : Nat) :
    record.writeAll (setDataSizeWrites record size) =
      { record with size := Function.update record.size record.back size } := by
  simp only [setDataSizeWrites, DataRecord.writeAll_cons,
    write_readBufferState valid, DataRecord.writeAll_nil]
  rfl

theorem writeAll_setDataState (state : DataState) :
    record.writeAll (setDataStateWrites record state) =
      { record with
        state := Function.update record.state record.back state } := by
  simp only [setDataStateWrites, DataRecord.writeAll_cons,
    write_readBufferState valid, DataRecord.writeAll_nil]
  rfl

theorem writeAll_setData (data : List UInt8) :
    record.writeAll (setDataWrites record data) =
      { record with
        value := Function.update record.value record.back
          (overlay data (record.value record.back))
        size := Function.update record.size record.back data.length } := by
  simp only [setDataWrites, DataRecord.writeAll_cons,
    write_readBufferState valid, DataRecord.writeAll_append,
    writeAll_copyValue, overlayFrom_zero, DataRecord.writeAll_nil]
  rfl

theorem writeAll_setDataKey (key : List UInt8) :
    record.writeAll (setDataKeyWrites record key) =
      { record with
        key := Function.update record.key record.back
          (overlay (key ++ [0]) (record.key record.back)) } := by
  simp only [setDataKeyWrites, DataRecord.writeAll_cons,
    write_readBufferState valid, writeAll_copyKey, overlayFrom_zero]

/-- The size in the back buffer after it was carried over. -/
theorem writeAll_carrySize (flag : Bool) :
    record.writeAll (unlessFlag flag carrySize record) =
      { record with
        size := Function.update record.size record.back
          (if flag then record.size record.back
            else record.getDataSize) } := by
  cases flag with
  | true => simp [unlessFlag]
  | false =>
      simp only [unlessFlag, carrySize, Bool.false_eq_true, if_false,
        DataRecord.writeAll_cons, write_readBufferState valid,
        writeAll_setDataSize valid]

theorem writeAll_carryState (flag : Bool) :
    record.writeAll (unlessFlag flag carryState record) =
      { record with
        state := Function.update record.state record.back
          (if flag then record.state record.back
            else record.getDataState) } := by
  cases flag with
  | true => simp [unlessFlag]
  | false =>
      simp only [unlessFlag, carryState, Bool.false_eq_true, if_false,
        DataRecord.writeAll_cons, write_readBufferState valid,
        writeAll_setDataState valid]

/-- Carrying over the value also carries over the size. -/
theorem writeAll_carryValue (flag : Bool) :
    record.writeAll (unlessFlag flag carryValue record) =
      { record with
        value := Function.update record.value record.back
          (if flag then record.value record.back
            else overlay (firstBytes record.getData record.getDataSize)
              (record.value record.back))
        size := Function.update record.size record.back
          (if flag then record.size record.back
            else record.getDataSize) } := by
  cases flag with
  | true => simp [unlessFlag]
  | false =>
      simp only [unlessFlag, carryValue, Bool.false_eq_true, if_false,
        DataRecord.writeAll_cons, write_readBufferState valid,
        writeAll_setData valid, length_firstBytes]

theorem writeAll_carryKey (flag : Bool) :
    record.writeAll (unlessFlag flag carryKey record) =
      { record with
        key := Function.update record.key record.back
          (if flag then record.key record.back
            else overlay (record.getDataKey ++ [0])
              (record.key record.back)) } := by
  cases flag with
  | true => simp [unlessFlag]
  | false =>
      simp only [unlessFlag, carryKey, Bool.false_eq_true, if_false,
        DataRecord.writeAll_cons, write_readBufferState valid,
        writeAll_setDataKey valid]

end RecordEffects

/-- The record before it is switched by a commit. -/
def carried (flags : DataFlags) (record : DataRecord) : DataRecord where
  state := Function.update record.state record.back
    (if flags.state then record.state record.back else record.getDataState)
  key := Function.update record.key record.back
    (if flags.key then record.key record.back
      else overlay (record.getDataKey ++ [0]) (record.key record.back))
  value := Function.update record.value record.back
    (if flags.value then record.value record.back
      else overlay (firstBytes record.getData record.getDataSize)
        (record.value record.back))
  size := Function.update record.size record.back
    (if flags.value && flags.size then record.size record.back
      else record.getDataSize)
  bufferState := record.bufferState

/-- The four steps of a commit write the back buffer only, so that each of
them still finds the published fields in front. -/
theorem writeAll_carryWrites {record : DataRecord}
    (valid : ValidState record.bufferState) (flags : DataFlags) :
    record.writeAll (carryWrites flags record) = carried flags record := by
  have ne : frontBuffer record.bufferState ≠
      backBuffer record.bufferState := front_ne_back record.bufferState
  rw [carryWrites, DataRecord.writeAll_append, DataRecord.writeAll_append,
    DataRecord.writeAll_append, writeAll_carrySize valid,
    writeAll_carryState (by exact valid),
    writeAll_carryValue (by exact valid),
    writeAll_carryKey (by exact valid), carried]
  simp only [DataRecord.getDataSize, DataRecord.getDataState,
    DataRecord.getData, DataRecord.getDataKey, DataRecord.front,
    DataRecord.back, Function.update_self, Function.update_of_ne ne,
    Function.update_idem]
  cases flags.value <;> simp

/-- The record after a commit. -/
theorem writeAll_commitData {record : DataRecord}
    (valid : ValidState record.bufferState) (flags : DataFlags) :
    record.writeAll (commitDataWrites flags record) =
      { carried flags record with
        bufferState :=
          (interlockedXor8 record.bufferState bitHigh).2 } := by
  rw [commitDataWrites, DataRecord.writeAll_append,
    writeAll_carryWrites valid]
  rfl

section InfoEffects

variable {record : InfoRecord}

theorem write_readInfoBufferState (valid : ValidState record.bufferState) :
    record.write (readInfoBufferState record) = record := by
  simp [InfoRecord.write, readInfoBufferState, valid.and_eq]

variable (valid : ValidState record.bufferState)

include valid

theorem writeAll_setResizeCount (resizeCount : Nat) :
    record.writeAll (setResizeCountWrites record resizeCount) =
      { record with
        resizeCount := Function.update record.resizeCount record.back
          resizeCount } := by
  simp only [setResizeCountWrites, InfoRecord.writeAll_cons,
    write_readInfoBufferState valid, InfoRecord.writeAll_nil]
  rfl

theorem writeAll_setCapacity (capacity : Nat) :
    record.writeAll (setCapacityWrites record capacity) =
      { record with
        capacity := Function.update record.capacity record.back
          capacity } := by
  simp only [setCapacityWrites, InfoRecord.writeAll_cons,
    write_readInfoBufferState valid, InfoRecord.writeAll_nil]
  rfl

theorem writeAll_setSize (size : Nat) :
    record.writeAll (setSizeWrites record size) =
      { record with size := Function.update record.size record.back size } := by
  simp only [setSizeWrites, InfoRecord.writeAll_cons,
    write_readInfoBufferState valid, InfoRecord.writeAll_nil]
  rfl

theorem writeAll_carryResizeCount (flag : Bool) :
    record.writeAll (if flag then [] else carryResizeCount record) =
      { record with
        resizeCount := Function.update record.resizeCount record.back
          (if flag then record.resizeCount record.back
            else record.getResizeCount) } := by
  cases flag with
  | true => simp
  | false =>
      simp only [carryResizeCount, Bool.false_eq_true, if_false,
        InfoRecord.writeAll_cons, write_readInfoBufferState valid,
        writeAll_setResizeCount valid]

theorem writeAll_carryCapacity (flag : Bool) :
    record.writeAll (if flag then [] else carryCapacity record) =
      { record with
        capacity := Function.update record.capacity record.back
          (if flag then record.capacity record.back
            else record.getCapacity) } := by
  cases flag with
  | true => simp
  | false =>
      simp only [carryCapacity, Bool.false_eq_true, if_false,
        InfoRecord.writeAll_cons, write_readInfoBufferState valid,
        writeAll_setCapacity valid]

theorem writeAll_carryInfoSize (flag : Bool) :
    record.writeAll (if flag then [] else carryInfoSize record) =
      { record with
        size := Function.update record.size record.back
          (if flag then record.size record.back else record.getSize) } := by
  cases flag with
  | true => simp
  | false =>
      simp only [carryInfoSize, Bool.false_eq_true, if_false,
        InfoRecord.writeAll_cons, write_readInfoBufferState valid,
        writeAll_setSize valid]

end InfoEffects

/-- The info record before it is switched by a commit. -/
def carriedInfo (flags : InfoFlags) (record : InfoRecord) : InfoRecord where
  bufferState := record.bufferState
  capacity := Function.update record.capacity record.back
    (if flags.capacity then record.capacity record.back
      else record.getCapacity)
  size := Function.update record.size record.back
    (if flags.size then record.size record.back else record.getSize)
  resizeCount := Function.update record.resizeCount record.back
    (if flags.resizeCount then record.resizeCount record.back
      else record.getResizeCount)

theorem writeAll_carryInfoWrites {record : InfoRecord}
    (valid : ValidState record.bufferState) (flags : InfoFlags) :
    record.writeAll (carryInfoWrites flags record) =
      carriedInfo flags record := by
  rw [carryInfoWrites, InfoRecord.writeAll_append,
    InfoRecord.writeAll_append, writeAll_carryResizeCount valid,
    writeAll_carryCapacity (by exact valid),
    writeAll_carryInfoSize (by exact valid)]
  rfl

/-- The info record after a commit. -/
theorem writeAll_commitInfo {record : InfoRecord}
    (valid : ValidState record.bufferState) (flags : InfoFlags) :
    record.writeAll (commitInfoWrites flags record) =
      { carriedInfo flags record with
        bufferState :=
          (interlockedXor8 record.bufferState bitHigh).2 } := by
  rw [commitInfoWrites, InfoRecord.writeAll_append,
    writeAll_carryInfoWrites valid]
  rfl

end InterprocessController

end IISModuleJS
