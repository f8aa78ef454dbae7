import IISModuleJS.InterprocessController

/-!
# Writes that nobody sees

Before a record is switched, its writes go to the back buffer.  Such a write
changes nothing that a getter returns, and it keeps the record well formed,
whatever the back buffer held before.  Both facts are proved for a single
write, so that they hold at every moment of a setter or a commit and not only
at its end.
-/

namespace IISModuleJS

namespace InterprocessController

open SharedMemory

/-- A write to a data record that only changes its back buffer, within the
bounds of the store. -/
def DataHidden (bufferState : UInt8) : DataWrite → Prop
  | .state buffer _ => buffer = backBuffer bufferState
  | .key buffer offset byte =>
      buffer = backBuffer bufferState ∧ (offset = keySize - 1 → byte = 0)
  | .value buffer _ _ => buffer = backBuffer bufferState
  | .size buffer size => buffer = backBuffer bufferState ∧ size ≤ dataSize
  | .bufferState state => state = bufferState

/-- Two data records with the same buffer in front, and the same fields
there. -/
structure SameFront (first second : DataRecord) : Prop where
  bufferState : first.bufferState = second.bufferState
  state : first.getDataState = second.getDataState
  key : first.getDataKey = second.getDataKey
  size : first.getDataSize = second.getDataSize
  data : first.getData = second.getData

theorem SameFront.refl (record : DataRecord) : SameFront record record :=
  ⟨rfl, rfl, rfl, rfl, rfl⟩

theorem SameFront.trans {first second third : DataRecord}
    (left : SameFront first second) (right : SameFront second third) :
    SameFront first third where
  bufferState := left.bufferState.trans right.bufferState
  state := left.state.trans right.state
  key := left.key.trans right.key
  size := left.size.trans right.size
  data := left.data.trans right.data

/-- A hidden write is not seen by the getters. -/
theorem sameFront_write {record : DataRecord} {write : DataWrite}
    (hidden : DataHidden record.bufferState write) :
    SameFront (record.write write) record := by
  have ne : frontBuffer record.bufferState ≠
      backBuffer record.bufferState := front_ne_back record.bufferState
  cases write with
  | state buffer value =>
      obtain rfl : buffer = backBuffer record.bufferState := hidden
      exact ⟨rfl, Function.update_of_ne ne _ _, rfl, rfl, rfl⟩
  | key buffer offset byte =>
      obtain ⟨rfl, -⟩ := hidden
      refine ⟨rfl, rfl, ?_, rfl, rfl⟩
      exact congrArg (cString · keySize) (Function.update_of_ne ne _ _)
  | value buffer offset byte =>
      obtain rfl : buffer = backBuffer record.bufferState := hidden
      exact ⟨rfl, rfl, rfl, rfl, Function.update_of_ne ne _ _⟩
  | size buffer value =>
      obtain ⟨rfl, -⟩ := hidden
      exact ⟨rfl, rfl, rfl, Function.update_of_ne ne _ _, rfl⟩
  | bufferState value =>
      obtain rfl : value = record.bufferState := hidden
      exact SameFront.refl record

/-- A hidden write keeps a record well formed. -/
theorem wellFormed_write {record : DataRecord} {write : DataWrite}
    (wellFormed : record.WellFormed)
    (hidden : DataHidden record.bufferState write) :
    (record.write write).WellFormed := by
  cases write with
  | state buffer value =>
      exact ⟨wellFormed.valid, wellFormed.sizeBound, wellFormed.terminated⟩
  | key buffer offset byte =>
      refine ⟨wellFormed.valid, wellFormed.sizeBound, fun other => ?_⟩
      by_cases same : other = buffer
      · subst other
        simp only [DataRecord.write, Function.update_self]
        by_cases last : offset = keySize - 1
        · rw [last, Function.update_self]
          exact hidden.2 last
        · rw [Function.update_of_ne (Ne.symm last)]
          exact wellFormed.terminated buffer
      · simp only [DataRecord.write, Function.update_of_ne same]
        exact wellFormed.terminated other
  | value buffer offset byte =>
      exact ⟨wellFormed.valid, wellFormed.sizeBound, wellFormed.terminated⟩
  | size buffer value =>
      refine ⟨wellFormed.valid, fun other => ?_, wellFormed.terminated⟩
      by_cases same : other = buffer
      · subst other
        simp only [DataRecord.write, Function.update_self]
        exact hidden.2
      · simp only [DataRecord.write, Function.update_of_ne same]
        exact wellFormed.sizeBound other
  | bufferState value =>
      obtain rfl : value = record.bufferState := hidden
      exact wellFormed

/-- Hidden writes one after the other. -/
theorem writeAll_hidden {record : DataRecord} {writes : List DataWrite}
    (wellFormed : record.WellFormed)
    (hidden : ∀ write ∈ writes, DataHidden record.bufferState write) :
    (record.writeAll writes).WellFormed ∧
      SameFront (record.writeAll writes) record := by
  induction writes generalizing record with
  | nil => exact ⟨wellFormed, SameFront.refl record⟩
  | cons first rest ih =>
      have now := hidden first (by simp)
      have front := sameFront_write now
      rw [DataRecord.writeAll_cons]
      obtain ⟨formed, later⟩ := ih (wellFormed_write wellFormed now)
        (fun write member => by
          rw [front.bufferState]
          exact hidden write (by simp [member]))
      exact ⟨formed, later.trans front⟩

theorem mem_copyBytes {Write : Type} {make : Nat → UInt8 → Write}
    {start : Nat} {bytes : List UInt8} {write : Write}
    (member : write ∈ copyBytes make start bytes) :
    ∃ offset byte, bytes[offset]? = some byte ∧
      write = make (start + offset) byte := by
  induction bytes generalizing start with
  | nil => simp [copyBytes] at member
  | cons byte rest ih =>
      rcases List.mem_cons.mp member with rfl | later
      · exact ⟨0, byte, rfl, rfl⟩
      · obtain ⟨offset, other, found, rfl⟩ := ih later
        refine ⟨offset + 1, other, found, ?_⟩
        congr 1
        omega

section Data

variable {record : DataRecord}

theorem hidden_readBufferState (valid : ValidState record.bufferState) :
    DataHidden record.bufferState (readBufferState record) :=
  valid.and_eq

variable (valid : ValidState record.bufferState)

include valid

theorem hidden_setDataSize {size : Nat} (bound : size ≤ dataSize) :
    ∀ write ∈ setDataSizeWrites record size,
      DataHidden record.bufferState write := by
  intro write member
  simp only [setDataSizeWrites, List.mem_cons, List.not_mem_nil,
    or_false] at member
  rcases member with rfl | rfl
  · exact hidden_readBufferState valid
  · exact ⟨rfl, bound⟩

theorem hidden_setDataState (state : DataState) :
    ∀ write ∈ setDataStateWrites record state,
      DataHidden record.bufferState write := by
  intro write member
  simp only [setDataStateWrites, List.mem_cons, List.not_mem_nil,
    or_false] at member
  rcases member with rfl | rfl
  · exact hidden_readBufferState valid
  · exact rfl

theorem hidden_setData {data : List UInt8}
    (bound : data.length ≤ dataSize) :
    ∀ write ∈ setDataWrites record data,
      DataHidden record.bufferState write := by
  intro write member
  simp only [setDataWrites, List.mem_cons, List.mem_append,
    List.not_mem_nil, or_false] at member
  rcases member with rfl | copied | rfl
  · exact hidden_readBufferState valid
  · obtain ⟨offset, byte, -, rfl⟩ := mem_copyBytes copied
    exact rfl
  · exact ⟨rfl, bound⟩

/-- The last byte of a key buffer can only be reached by the zero at the end
of a key. -/
theorem hidden_setDataKey {key : List UInt8}
    (bound : key.length < keySize) :
    ∀ write ∈ setDataKeyWrites record key,
      DataHidden record.bufferState write := by
  intro write member
  rcases List.mem_cons.mp member with rfl | copied
  · exact hidden_readBufferState valid
  · obtain ⟨offset, byte, found, rfl⟩ := mem_copyBytes copied
    refine ⟨rfl, fun last => ?_⟩
    rw [Nat.zero_add] at last
    rcases Nat.lt_or_ge offset key.length with inside | outside
    · omega
    · rw [List.getElem?_append_right outside] at found
      exact (List.mem_singleton.mp (List.mem_of_getElem? found))

end Data

section Carry

variable {record : DataRecord} (wellFormed : record.WellFormed)

include wellFormed

theorem hidden_carrySize :
    ∀ write ∈ carrySize record, DataHidden record.bufferState write := by
  intro write member
  rcases List.mem_cons.mp member with rfl | later
  · exact hidden_readBufferState wellFormed.valid
  · exact hidden_setDataSize wellFormed.valid
      (wellFormed.sizeBound record.front) write later

theorem hidden_carryState :
    ∀ write ∈ carryState record, DataHidden record.bufferState write := by
  intro write member
  rcases List.mem_cons.mp member with rfl | later
  · exact hidden_readBufferState wellFormed.valid
  · exact hidden_setDataState wellFormed.valid record.getDataState
      write later

theorem hidden_carryValue :
    ∀ write ∈ carryValue record, DataHidden record.bufferState write := by
  have bound : (firstBytes record.getData record.getDataSize).length ≤
      dataSize := by
    rw [length_firstBytes]
    exact wellFormed.sizeBound record.front
  intro write member
  simp only [carryValue, List.mem_cons] at member
  rcases member with rfl | rfl | later
  · exact hidden_readBufferState wellFormed.valid
  · exact hidden_readBufferState wellFormed.valid
  · exact hidden_setData wellFormed.valid bound write later

theorem hidden_carryKey :
    ∀ write ∈ carryKey record, DataHidden record.bufferState write := by
  have bound : record.getDataKey.length < keySize :=
    length_cString_lt (wellFormed.terminated record.front) (by decide)
  intro write member
  simp only [carryKey, List.mem_cons] at member
  rcases member with rfl | rfl | later
  · exact hidden_readBufferState wellFormed.valid
  · exact hidden_readBufferState wellFormed.valid
  · exact hidden_setDataKey wellFormed.valid bound write later

end Carry

theorem hidden_unlessFlag {record : DataRecord} (flag : Bool)
    {writes : DataRecord → List DataWrite}
    (hidden : ∀ write ∈ writes record,
      DataHidden record.bufferState write) :
    ∀ write ∈ unlessFlag flag writes record,
      DataHidden record.bufferState write := by
  intro write member
  cases flag with
  | true => simp [unlessFlag] at member
  | false => exact hidden write member

/-- Everything a commit writes before it switches the record is hidden. -/
theorem hidden_carryWrites {record : DataRecord}
    (wellFormed : record.WellFormed) (flags : DataFlags) :
    ∀ write ∈ carryWrites flags record,
      DataHidden record.bufferState write := by
  have sized := hidden_unlessFlag flags.size
    (hidden_carrySize wellFormed)
  obtain ⟨formedSize, frontSize⟩ := writeAll_hidden wellFormed sized
  have stated := hidden_unlessFlag flags.state
    (hidden_carryState formedSize)
  obtain ⟨formedState, frontState⟩ := writeAll_hidden formedSize stated
  have valued := hidden_unlessFlag flags.value
    (hidden_carryValue formedState)
  obtain ⟨formedValue, frontValue⟩ := writeAll_hidden formedState valued
  have keyed := hidden_unlessFlag flags.key
    (hidden_carryKey formedValue)
  rw [frontValue.bufferState] at keyed
  rw [frontState.bufferState] at valued keyed
  rw [frontSize.bufferState] at stated valued keyed
  intro write member
  simp only [carryWrites, List.mem_append] at member
  rcases member with ((inSize | inState) | inValue) | inKey
  · exact sized write inSize
  · exact stated write inState
  · exact valued write inValue
  · exact keyed write inKey

/-- A commit keeps a record well formed. -/
theorem wellFormed_commitData {record : DataRecord}
    (wellFormed : record.WellFormed) (flags : DataFlags) :
    (record.writeAll (commitDataWrites flags record)).WellFormed := by
  obtain ⟨formed, front⟩ := writeAll_hidden wellFormed
    (hidden_carryWrites wellFormed flags)
  rw [commitDataWrites, DataRecord.writeAll_append]
  exact ⟨formed.valid.xor, formed.sizeBound, formed.terminated⟩

/-- A write to the info record that only changes its back buffer. -/
def InfoHidden (bufferState : UInt8) : InfoWrite → Prop
  | .capacity buffer _ => buffer = backBuffer bufferState
  | .size buffer _ => buffer = backBuffer bufferState
  | .resizeCount buffer _ => buffer = backBuffer bufferState
  | .bufferState state => state = bufferState

/-- Two info records with the same buffer in front, and the same fields
there. -/
structure SameInfoFront (first second : InfoRecord) : Prop where
  bufferState : first.bufferState = second.bufferState
  capacity : first.getCapacity = second.getCapacity
  size : first.getSize = second.getSize
  resizeCount : first.getResizeCount = second.getResizeCount

theorem sameInfoFront_write {record : InfoRecord} {write : InfoWrite}
    (hidden : InfoHidden record.bufferState write) :
    SameInfoFront (record.write write) record := by
  have ne : frontBuffer record.bufferState ≠
      backBuffer record.bufferState := front_ne_back record.bufferState
  cases write with
  | capacity buffer value =>
      obtain rfl : buffer = backBuffer record.bufferState := hidden
      exact ⟨rfl, Function.update_of_ne ne _ _, rfl, rfl⟩
  | size buffer value =>
      obtain rfl : buffer = backBuffer record.bufferState := hidden
      exact ⟨rfl, rfl, Function.update_of_ne ne _ _, rfl⟩
  | resizeCount buffer value =>
      obtain rfl : buffer = backBuffer record.bufferState := hidden
      exact ⟨rfl, rfl, rfl, Function.update_of_ne ne _ _⟩
  | bufferState value =>
      obtain rfl : value = record.bufferState := hidden
      exact ⟨rfl, rfl, rfl, rfl⟩

theorem hidden_readInfoBufferState {record : InfoRecord}
    (valid : ValidState record.bufferState) :
    InfoHidden record.bufferState (readInfoBufferState record) :=
  valid.and_eq

/-- The info setters read the buffer state and write one field. -/
theorem hidden_setInfo {record : InfoRecord}
    (valid : ValidState record.bufferState) {field : InfoWrite}
    (hidden : InfoHidden record.bufferState field) :
    ∀ write ∈ [readInfoBufferState record, field],
      InfoHidden record.bufferState write := by
  intro write member
  simp only [List.mem_cons, List.not_mem_nil, or_false] at member
  rcases member with rfl | rfl
  · exact hidden_readInfoBufferState valid
  · exact hidden

theorem hidden_carryInfo {record : InfoRecord}
    (valid : ValidState record.bufferState) (flag : Bool)
    {field : InfoWrite}
    (hidden : InfoHidden record.bufferState field) :
    ∀ write ∈ (if flag then [] else
        readInfoBufferState record :: [readInfoBufferState record, field]),
      InfoHidden record.bufferState write := by
  intro write member
  cases flag with
  | true => simp at member
  | false =>
      rcases List.mem_cons.mp member with rfl | later
      · exact hidden_readInfoBufferState valid
      · exact hidden_setInfo valid hidden write later

/-- Everything `commitInfo` writes before it switches the record is
hidden. -/
theorem hidden_carryInfoWrites {record : InfoRecord}
    (valid : ValidState record.bufferState) (flags : InfoFlags) :
    ∀ write ∈ carryInfoWrites flags record,
      InfoHidden record.bufferState write := by
  intro write member
  simp only [carryInfoWrites, List.mem_append,
    writeAll_carryResizeCount valid] at member
  rw [writeAll_carryCapacity (by exact valid)] at member
  rcases member with (resized | capacity) | sized
  · refine hidden_carryInfo valid flags.resizeCount ?_ write resized
    exact rfl
  · refine hidden_carryInfo (by exact valid) flags.capacity ?_ write
      capacity
    exact rfl
  · refine hidden_carryInfo (by exact valid) flags.size ?_ write sized
    exact rfl

end InterprocessController

end IISModuleJS
