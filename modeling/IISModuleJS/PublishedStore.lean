import IISModuleJS.DataTransactions

/-!
# The published store

Readers see the info record and the slots through the getters, so the store is
for them a record of three numbers and an array of slots.  A transaction means
a sequence of assignments to these.

The file connects this meaning with the buffers for a single transaction: all
writes of a transaction but its last one are hidden, and the last one makes
the assigned fields visible, together with the published ones, whatever was
left in the back buffer.
-/

namespace IISModuleJS

namespace InterprocessController

open SharedMemory

/-- What readers see of the info record. -/
structure PublishedInfo where
  capacity : Nat
  size : Nat
  resizeCount : Nat
  deriving DecidableEq

/-- What readers see of a slot. -/
structure PublishedSlot where
  state : DataState
  key : List UInt8
  size : Nat
  data : List UInt8
  deriving DecidableEq

structure PublishedStore where
  info : PublishedInfo
  slots : Nat → PublishedSlot

def publishedInfo (record : InfoRecord) : PublishedInfo where
  capacity := record.getCapacity
  size := record.getSize
  resizeCount := record.getResizeCount

/-- Of the value, readers see as many bytes as the size says. -/
def publishedSlot (record : DataRecord) : PublishedSlot where
  state := record.getDataState
  key := record.getDataKey
  size := record.getDataSize
  data := firstBytes record.getData record.getDataSize

def published (memory : Memory) : PublishedStore where
  info := publishedInfo memory.info
  slots := fun index => publishedSlot (memory.data index)

/-- A call of one of the info setters. -/
inductive InfoSetter
  | setResizeCount (resizeCount : Nat)
  | setCapacity (capacity : Nat)
  | setSize (size : Nat)
  deriving DecidableEq

namespace InfoSetter

/-- The member function that a setter calls. -/
def effect (controller : Controller) (record : InfoRecord) :
    InfoSetter → Effect InfoWrite
  | .setResizeCount resizeCount =>
      controller.setResizeCount record resizeCount
  | .setCapacity capacity => controller.setCapacity record capacity
  | .setSize size => controller.setSize record size

/-- The assignment that a setter means. -/
def assign (info : PublishedInfo) : InfoSetter → PublishedInfo
  | .setResizeCount resizeCount => { info with resizeCount := resizeCount }
  | .setCapacity capacity => { info with capacity := capacity }
  | .setSize size => { info with size := size }

end InfoSetter

/-- A data setter within the bounds of the store that does not set a size
without a value. -/
def WholeSetter :=
  { setter : Setter //
    setter.InBounds ∧ ∀ size, setter ≠ .setDataSize size }

/-- The assignment that a data setter means. -/
def Setter.assign (slot : PublishedSlot) : Setter → PublishedSlot
  | .setDataSize size => { slot with size := size }
  | .setDataState state => { slot with state := state }
  | .setData data => { slot with size := data.length, data := data }
  | .setDataKey key => { slot with key := key }

/-- A transaction on the info record or on a single slot. -/
inductive StoreTransaction
  | info (setters : List InfoSetter)
  | data (index : Nat) (setters : List WholeSetter)

/-- The meaning of a transaction, in terms of the published store only. -/
def StoreTransaction.publish (store : PublishedStore) :
    StoreTransaction → PublishedStore
  | .info setters =>
      { store with info := setters.foldl InfoSetter.assign store.info }
  | .data index setters =>
      { store with
        slots := Function.update store.slots index
          (setters.foldl (fun slot setter => setter.1.assign slot)
            (store.slots index)) }

/-- A call of a member function, on one record. -/
abbrev MemberCall (Record Write : Type) :=
  Controller → Record → Effect Write

/-- Member functions called one after the other: each finds the record and
the controller as the ones before left them. -/
def performAll {Record Write : Type}
    (writeAll : Record → List Write → Record) (controller : Controller)
    (record : Record) : List (MemberCall Record Write) → Effect Write
  | [] => .ok ([], controller)
  | call :: rest =>
      match call controller record with
      | .error message => .error message
      | .ok (writes, next) =>
          match performAll writeAll next (writeAll record writes) rest with
          | .error message => .error message
          | .ok (later, final) => .ok (writes ++ later, final)

/-- The calls of an info transaction. -/
def infoCalls (setters : List InfoSetter) :
    List (MemberCall InfoRecord InfoWrite) :=
  (fun controller _ => controller.startInfoTransaction) ::
    (setters.map (fun setter controller record =>
      setter.effect controller record) ++
    [fun controller record => controller.commitInfo record])

/-- The calls of a data transaction on one slot. -/
def dataCalls (index : Nat) (setters : List WholeSetter) :
    List (MemberCall DataRecord DataWrite) :=
  (fun controller _ => controller.startDataTransaction index) ::
    (setters.map (fun setter controller record =>
      setter.1.effect controller record) ++
    [fun controller record => controller.commitData record])

/-- A controller between two transactions. -/
structure Controller.Idle (controller : Controller) : Prop where
  infoMapped : controller.infoMapped = true
  dataMapped : controller.dataMapped = true
  noInfo : controller.hasStartedInfoTransaction = false
  noData : controller.hasStartedDataTransaction = false

theorem Controller.idle_attached : Controller.attached.Idle :=
  ⟨rfl, rfl, rfl, rfl⟩

theorem performAll_cons {Record Write : Type}
    {writeAll : Record → List Write → Record}
    {controller next final : Controller} {record : Record}
    {call : MemberCall Record Write}
    {rest : List (MemberCall Record Write)} {writes later : List Write}
    (returned : call controller record = .ok (writes, next))
    (continued : performAll writeAll next (writeAll record writes) rest =
      .ok (later, final)) :
    performAll writeAll controller record (call :: rest) =
      .ok (writes ++ later, final) := by
  simp only [performAll, returned, continued]

/-- The slot that a commit would publish: the fields with a flag come from the
back buffer, the others from the front. -/
structure Staged (flags : DataFlags) (record : DataRecord)
    (slot : PublishedSlot) : Prop where
  sized : flags.size = flags.value
  state : (if flags.state then record.state record.back
    else record.getDataState) = slot.state
  key : (if flags.key then cString (record.key record.back) keySize
    else record.getDataKey) = slot.key
  size : (if flags.value then record.size record.back
    else record.getDataSize) = slot.size
  data : firstBytes (if flags.value then record.value record.back
    else record.getData) slot.size = slot.data

theorem staged_start (record : DataRecord) :
    Staged .none record (publishedSlot record) :=
  ⟨rfl, rfl, rfl, rfl, rfl⟩

/-- A setter stages its assignment. -/
theorem Staged.set {flags : DataFlags} {record : DataRecord}
    {slot : PublishedSlot} (staged : Staged flags record slot)
    (wellFormed : record.WellFormed) (setter : WholeSetter) :
    Staged (setter.1.flag flags) (setter.1.stored record)
      (setter.1.assign slot) := by
  obtain ⟨setter, inBounds, whole⟩ := setter
  have front := (writeAll_hidden wellFormed
    (setter.hidden_writes wellFormed.valid inBounds)).2
  rw [setter.writeAll_writes wellFormed.valid] at front
  have state := setter.state_stored record
  have key := setter.key_stored record
  have value := setter.value_stored record
  have size := setter.size_stored record
  cases setter with
  | setDataSize given => exact absurd rfl (whole given)
  | setDataState given =>
      refine ⟨staged.sized, ?_, ?_, ?_, ?_⟩
      · rw [state]
        rfl
      · rw [key, front.key]
        exact staged.key
      · rw [size, front.size]
        exact staged.size
      · rw [value, front.data]
        exact staged.data
  | setData given =>
      refine ⟨rfl, ?_, ?_, ?_, ?_⟩
      · rw [state, front.state]
        exact staged.state
      · rw [key, front.key]
        exact staged.key
      · rw [size]
        rfl
      · rw [value]
        exact firstBytes_overlay given _
  | setDataKey given =>
      refine ⟨staged.sized, ?_, ?_, ?_, ?_⟩
      · rw [state, front.state]
        exact staged.state
      · rw [key]
        exact cString_overlay inBounds.1 _ inBounds.2
      · rw [size, front.size]
        exact staged.size
      · rw [value, front.data]
        exact staged.data

/-- A commit publishes the staged slot. -/
theorem Staged.commit {flags : DataFlags} {record : DataRecord}
    {slot : PublishedSlot} (staged : Staged flags record slot)
    (wellFormed : record.WellFormed) :
    publishedSlot (record.writeAll (commitDataWrites flags record)) =
      slot := by
  have size : (record.writeAll (commitDataWrites flags record)).getDataSize =
      slot.size := by
    rw [getDataSize_commitData wellFormed, staged.sized, Bool.and_self]
    exact staged.size
  have data : firstBytes
      (record.writeAll (commitDataWrites flags record)).getData slot.size =
      slot.data := by
    have stagedSize := staged.size
    have stagedData := staged.data
    rw [getData_commitData wellFormed]
    cases set : flags.value with
    | true => simpa [set] using stagedData
    | false =>
        rw [set] at stagedSize stagedData
        simp only [Bool.false_eq_true, if_false] at stagedSize stagedData ⊢
        rw [← stagedData, ← stagedSize]
        have carried := firstBytes_overlay
          (firstBytes record.getData record.getDataSize)
          (record.value record.back)
        rwa [length_firstBytes] at carried
  cases slot with
  | mk slotState slotKey slotSize slotData =>
      simp only [publishedSlot, PublishedSlot.mk.injEq]
      refine ⟨?_, ?_, size, ?_⟩
      · rw [getDataState_commitData wellFormed]
        exact staged.state
      · rw [getDataKey_commitData wellFormed]
        exact staged.key
      · rw [size]
        exact data

/-- The setters of a started data transaction and its commit.  Only the last
write can be seen, and it publishes the assignments of the setters. -/
theorem performAll_setters (setters : List WholeSetter)
    {controller : Controller} {record : DataRecord} {slot : PublishedSlot}
    (wellFormed : record.WellFormed)
    (mapped : controller.dataMapped = true)
    (started : controller.hasStartedDataTransaction = true)
    (staged : Staged controller.dataTransactionFlags record slot) :
    ∃ hidden last,
      performAll DataRecord.writeAll controller record
          (setters.map (fun setter controller record =>
            setter.1.effect controller record) ++
          [fun controller record => controller.commitData record]) =
        .ok (hidden ++ [last],
          { controller with
            hasStartedDataTransaction := false
            dataTransactionFlags := ⟨true, true, true, true⟩ }) ∧
      (∀ write ∈ hidden, DataHidden record.bufferState write) ∧
      (record.writeAll (hidden ++ [last])).WellFormed ∧
      publishedSlot (record.writeAll (hidden ++ [last])) =
        setters.foldl (fun slot setter => setter.1.assign slot) slot := by
  induction setters generalizing controller record slot with
  | nil =>
      refine ⟨carryWrites controller.dataTransactionFlags record, _, ?_,
        hidden_carryWrites wellFormed _,
        wellFormed_commitData wellFormed _, staged.commit wellFormed⟩
      simp [performAll, Controller.commitData, mapped, started,
        commitDataWrites]
  | cons setter rest ih =>
      have hidden := setter.1.hidden_writes wellFormed.valid setter.2.1
      obtain ⟨formed, front⟩ := writeAll_hidden wellFormed hidden
      have returned : setter.1.effect controller record =
          .ok (setter.1.writes record,
            { controller with
              dataTransactionFlags :=
                setter.1.flag controller.dataTransactionFlags }) := by
        simp [Setter.effect_eq, Controller.setField, mapped]
      have next := staged.set wellFormed setter
      rw [← setter.1.writeAll_writes wellFormed.valid] at next
      obtain ⟨later, last, continued, laterHidden, finalFormed, publishes⟩ :=
        @ih { controller with
            dataTransactionFlags :=
              setter.1.flag controller.dataTransactionFlags }
          (record.writeAll (setter.1.writes record)) _ formed mapped
          started next
      refine ⟨setter.1.writes record ++ later, last, ?_, ?_, ?_, ?_⟩
      · rw [List.append_assoc]
        exact performAll_cons returned continued
      · intro write member
        rcases List.mem_append.mp member with now | after
        · exact hidden write now
        · rw [← front.bufferState]
          exact laterHidden write after
      · rw [List.append_assoc, DataRecord.writeAll_append]
        exact finalFormed
      · rw [List.append_assoc, DataRecord.writeAll_append]
        exact publishes

/-- A whole data transaction of an idle controller. -/
theorem performAll_dataCalls (index : Nat) (setters : List WholeSetter)
    {controller : Controller} {record : DataRecord}
    (idle : controller.Idle) (wellFormed : record.WellFormed) :
    ∃ hidden last final,
      performAll DataRecord.writeAll controller record
          (dataCalls index setters) = .ok (hidden ++ [last], final) ∧
      final.Idle ∧
      (∀ write ∈ hidden, DataHidden record.bufferState write) ∧
      (record.writeAll (hidden ++ [last])).WellFormed ∧
      publishedSlot (record.writeAll (hidden ++ [last])) =
        setters.foldl (fun slot setter => setter.1.assign slot)
          (publishedSlot record) := by
  have returned : controller.startDataTransaction index =
      .ok ([],
        { controller with
          hasStartedDataTransaction := true
          dataTransactionFlags := .none }) := by
    simp [Controller.startDataTransaction, idle.dataMapped, idle.noData]
  obtain ⟨hidden, last, continued, allHidden, formed, publishes⟩ :=
    @performAll_setters setters
      { controller with
        hasStartedDataTransaction := true
        dataTransactionFlags := .none }
      record _ wellFormed idle.dataMapped rfl (staged_start record)
  have performed : performAll DataRecord.writeAll controller record
      (dataCalls index setters) = .ok ([] ++ (hidden ++ [last]), _) :=
    performAll_cons returned continued
  refine ⟨hidden, last, _, performed, ?_, allHidden, formed, publishes⟩
  exact ⟨idle.infoMapped, idle.dataMapped, idle.noInfo, rfl⟩

/-- The info record that a commit would publish. -/
structure StagedInfo (flags : InfoFlags) (record : InfoRecord)
    (info : PublishedInfo) : Prop where
  capacity : (if flags.capacity then record.capacity record.back
    else record.getCapacity) = info.capacity
  size : (if flags.size then record.size record.back
    else record.getSize) = info.size
  resizeCount : (if flags.resizeCount then record.resizeCount record.back
    else record.getResizeCount) = info.resizeCount

theorem stagedInfo_start (record : InfoRecord) :
    StagedInfo .none record (publishedInfo record) :=
  ⟨rfl, rfl, rfl⟩

theorem StagedInfo.commit {flags : InfoFlags} {record : InfoRecord}
    {info : PublishedInfo} (staged : StagedInfo flags record info)
    (valid : ValidState record.bufferState) :
    publishedInfo (record.writeAll (commitInfoWrites flags record)) =
      info := by
  have front : frontBuffer (interlockedXor8 record.bufferState bitHigh).2 =
      record.back := valid.front_xor
  rw [writeAll_commitInfo valid]
  cases info with
  | mk capacity size resizeCount =>
      simp only [publishedInfo, InfoRecord.getCapacity,
        InfoRecord.getSize, InfoRecord.getResizeCount, InfoRecord.front,
        front, carriedInfo, Function.update_self, PublishedInfo.mk.injEq]
      exact ⟨staged.capacity, staged.size, staged.resizeCount⟩

namespace InfoSetter

def flag (flags : InfoFlags) : InfoSetter → InfoFlags
  | .setResizeCount _ => { flags with resizeCount := true }
  | .setCapacity _ => { flags with capacity := true }
  | .setSize _ => { flags with size := true }

/-- The field that a setter writes after it has read the buffer state. -/
def field (record : InfoRecord) : InfoSetter → InfoWrite
  | .setResizeCount resizeCount => .resizeCount record.back resizeCount
  | .setCapacity capacity => .capacity record.back capacity
  | .setSize size => .size record.back size

theorem effect_eq (setter : InfoSetter) (controller : Controller)
    (record : InfoRecord) :
    setter.effect controller record =
      controller.setInfoField
        [readInfoBufferState record, setter.field record]
        (fun flags => setter.flag flags) := by
  cases setter <;> rfl

theorem hidden_field (setter : InfoSetter) (record : InfoRecord) :
    InfoHidden record.bufferState (setter.field record) := by
  cases setter <;> exact rfl

theorem writeAll_field {record : InfoRecord}
    (valid : ValidState record.bufferState) (setter : InfoSetter) :
    record.writeAll [readInfoBufferState record, setter.field record] =
      record.write (setter.field record) := by
  simp only [InfoRecord.writeAll_cons, write_readInfoBufferState valid,
    InfoRecord.writeAll_nil]

end InfoSetter

theorem StagedInfo.set {flags : InfoFlags} {record : InfoRecord}
    {info : PublishedInfo} (staged : StagedInfo flags record info)
    (setter : InfoSetter) :
    StagedInfo (setter.flag flags) (record.write (setter.field record))
      (setter.assign info) := by
  have front := sameInfoFront_write (setter.hidden_field record)
  cases setter with
  | setResizeCount given =>
      refine ⟨?_, ?_, Function.update_self _ _ _⟩
      · rw [front.capacity]
        exact staged.capacity
      · rw [front.size]
        exact staged.size
  | setCapacity given =>
      refine ⟨Function.update_self _ _ _, ?_, ?_⟩
      · rw [front.size]
        exact staged.size
      · rw [front.resizeCount]
        exact staged.resizeCount
  | setSize given =>
      refine ⟨?_, Function.update_self _ _ _, ?_⟩
      · rw [front.capacity]
        exact staged.capacity
      · rw [front.resizeCount]
        exact staged.resizeCount

/-- The setters of a started info transaction and its commit. -/
theorem performAll_infoSetters (setters : List InfoSetter)
    {controller : Controller} {record : InfoRecord} {info : PublishedInfo}
    (valid : ValidState record.bufferState)
    (mapped : controller.infoMapped = true)
    (started : controller.hasStartedInfoTransaction = true)
    (staged : StagedInfo controller.infoTransactionFlags record info) :
    ∃ hidden last,
      performAll InfoRecord.writeAll controller record
          (setters.map (fun setter controller record =>
            setter.effect controller record) ++
          [fun controller record => controller.commitInfo record]) =
        .ok (hidden ++ [last],
          { controller with
            hasStartedInfoTransaction := false
            infoTransactionFlags := ⟨true, true, true⟩ }) ∧
      (∀ write ∈ hidden, InfoHidden record.bufferState write) ∧
      ValidState (record.writeAll (hidden ++ [last])).bufferState ∧
      publishedInfo (record.writeAll (hidden ++ [last])) =
        setters.foldl InfoSetter.assign info := by
  induction setters generalizing controller record info with
  | nil =>
      refine ⟨carryInfoWrites controller.infoTransactionFlags record, _, ?_,
        hidden_carryInfoWrites valid _, ?_, staged.commit valid⟩
      · simp [performAll, Controller.commitInfo, mapped, started,
          commitInfoWrites]
      · change ValidState (record.writeAll
          (commitInfoWrites controller.infoTransactionFlags
            record)).bufferState
        rw [writeAll_commitInfo valid]
        exact valid.xor
  | cons setter rest ih =>
      have hidden := hidden_setInfo valid (setter.hidden_field record)
      have front := sameInfoFront_write (setter.hidden_field record)
      have returned : setter.effect controller record =
          .ok ([readInfoBufferState record, setter.field record],
            { controller with
              infoTransactionFlags :=
                setter.flag controller.infoTransactionFlags }) := by
        simp [InfoSetter.effect_eq, Controller.setInfoField, mapped,
          started]
      obtain ⟨later, last, continued, laterHidden, finalValid, publishes⟩ :=
        @ih { controller with
            infoTransactionFlags :=
              setter.flag controller.infoTransactionFlags }
          (record.write (setter.field record)) _
          (front.bufferState ▸ valid) mapped started (staged.set setter)
      rw [← setter.writeAll_field valid] at continued finalValid publishes
      refine ⟨[readInfoBufferState record, setter.field record] ++ later,
        last, ?_, ?_, ?_, ?_⟩
      · rw [List.append_assoc]
        exact performAll_cons returned continued
      · intro write member
        rcases List.mem_append.mp member with now | after
        · exact hidden write now
        · rw [← front.bufferState]
          exact laterHidden write after
      · rw [List.append_assoc, InfoRecord.writeAll_append]
        exact finalValid
      · rw [List.append_assoc, InfoRecord.writeAll_append]
        exact publishes

/-- A whole info transaction of an idle controller. -/
theorem performAll_infoCalls (setters : List InfoSetter)
    {controller : Controller} {record : InfoRecord}
    (idle : controller.Idle) (valid : ValidState record.bufferState) :
    ∃ hidden last final,
      performAll InfoRecord.writeAll controller record
          (infoCalls setters) = .ok (hidden ++ [last], final) ∧
      final.Idle ∧
      (∀ write ∈ hidden, InfoHidden record.bufferState write) ∧
      ValidState (record.writeAll (hidden ++ [last])).bufferState ∧
      publishedInfo (record.writeAll (hidden ++ [last])) =
        setters.foldl InfoSetter.assign (publishedInfo record) := by
  have returned : controller.startInfoTransaction =
      .ok ([],
        { controller with
          hasStartedInfoTransaction := true
          infoTransactionFlags := .none }) := by
    simp [Controller.startInfoTransaction, idle.infoMapped, idle.noInfo]
  obtain ⟨hidden, last, continued, allHidden, finalValid, publishes⟩ :=
    @performAll_infoSetters setters
      { controller with
        hasStartedInfoTransaction := true
        infoTransactionFlags := .none }
      record _ valid idle.infoMapped rfl (stagedInfo_start record)
  have performed : performAll InfoRecord.writeAll controller record
      (infoCalls setters) = .ok ([] ++ (hidden ++ [last]), _) :=
    performAll_cons returned continued
  refine ⟨hidden, last, _, performed, ?_, allHidden, finalValid, publishes⟩
  exact ⟨idle.infoMapped, idle.dataMapped, rfl, idle.noData⟩

end InterprocessController

end IISModuleJS
