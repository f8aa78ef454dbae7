import IISModuleJS.HiddenWrites

/-!
# What a data transaction publishes

A controller has one word of flags for the transaction it has started,
whatever the slots are that its setters name.  This file follows arbitrary
sequences of calls on one controller, remembers with every started
transaction its slot and the setters called since, and determines exactly
which commits publish what was set for their slot.
-/

namespace IISModuleJS

namespace InterprocessController

open SharedMemory

/-- A call of one of the data setters. -/
inductive Setter
  | setDataSize (size : Nat)
  | setDataState (state : DataState)
  | setData (data : List UInt8)
  | setDataKey (key : List UInt8)
  deriving DecidableEq

namespace Setter

/-- The arguments that the setters may get. -/
def InBounds : Setter → Prop
  | .setDataSize size => size ≤ dataSize
  | .setDataState _ => True
  | .setData data => data.length ≤ dataSize
  | .setDataKey key => 0 ∉ key ∧ key.length < keySize

instance : DecidablePred InBounds
  | .setDataSize size => inferInstanceAs (Decidable (size ≤ dataSize))
  | .setDataState _ => inferInstanceAs (Decidable True)
  | .setData data => inferInstanceAs (Decidable (data.length ≤ dataSize))
  | .setDataKey key =>
      inferInstanceAs (Decidable (0 ∉ key ∧ key.length < keySize))

/-- The member function that a setter calls. -/
def effect (controller : Controller) (record : DataRecord) :
    Setter → Effect DataWrite
  | .setDataSize size => controller.setDataSize record size
  | .setDataState state => controller.setDataState record state
  | .setData data => controller.setData record data
  | .setDataKey key => controller.setDataKey record key

def givenState : Setter → Option DataState
  | .setDataState state => some state
  | _ => none

def givenKey : Setter → Option (List UInt8)
  | .setDataKey key => some key
  | _ => none

def givenData : Setter → Option (List UInt8)
  | .setData data => some data
  | _ => none

/-- The size that a setter gives, which `setData` does too. -/
def givenSize : Setter → Option Nat
  | .setDataSize size => some size
  | .setData data => some data.length
  | _ => none

def flag (setter : Setter) (flags : DataFlags) : DataFlags where
  state := setter.givenState.isSome || flags.state
  key := setter.givenKey.isSome || flags.key
  value := setter.givenData.isSome || flags.value
  size := setter.givenSize.isSome || flags.size

def writes (record : DataRecord) : Setter → List DataWrite
  | .setDataSize size => setDataSizeWrites record size
  | .setDataState state => setDataStateWrites record state
  | .setData data => setDataWrites record data
  | .setDataKey key => setDataKeyWrites record key

/-- A record after a setter. -/
def stored (setter : Setter) (record : DataRecord) : DataRecord where
  state := Function.update record.state record.back
    (setter.givenState.getD (record.state record.back))
  key := Function.update record.key record.back
    ((setter.givenKey.map fun key =>
      overlay (key ++ [0]) (record.key record.back)).getD
        (record.key record.back))
  value := Function.update record.value record.back
    ((setter.givenData.map fun data =>
      overlay data (record.value record.back)).getD
        (record.value record.back))
  size := Function.update record.size record.back
    (setter.givenSize.getD (record.size record.back))
  bufferState := record.bufferState

theorem effect_eq (setter : Setter) (controller : Controller)
    (record : DataRecord) :
    setter.effect controller record =
      controller.setField (setter.writes record) setter.flag := by
  cases setter <;> rfl

theorem writeAll_writes {record : DataRecord}
    (valid : ValidState record.bufferState) (setter : Setter) :
    record.writeAll (setter.writes record) = setter.stored record := by
  cases setter with
  | setDataSize size =>
      rw [writes, writeAll_setDataSize valid]
      simp [stored, givenState, givenKey, givenData, givenSize]
  | setDataState state =>
      rw [writes, writeAll_setDataState valid]
      simp [stored, givenState, givenKey, givenData, givenSize]
  | setData data =>
      rw [writes, writeAll_setData valid]
      simp [stored, givenState, givenKey, givenData, givenSize]
  | setDataKey key =>
      rw [writes, writeAll_setDataKey valid]
      simp [stored, givenState, givenKey, givenData, givenSize]

section Stored

variable (setter : Setter) (record : DataRecord)

theorem state_stored :
    (setter.stored record).state (setter.stored record).back =
      setter.givenState.getD (record.state record.back) :=
  Function.update_self _ _ _

theorem key_stored :
    (setter.stored record).key (setter.stored record).back =
      (setter.givenKey.map fun key =>
        overlay (key ++ [0]) (record.key record.back)).getD
          (record.key record.back) :=
  Function.update_self _ _ _

theorem value_stored :
    (setter.stored record).value (setter.stored record).back =
      (setter.givenData.map fun data =>
        overlay data (record.value record.back)).getD
          (record.value record.back) :=
  Function.update_self _ _ _

theorem size_stored :
    (setter.stored record).size (setter.stored record).back =
      setter.givenSize.getD (record.size record.back) :=
  Function.update_self _ _ _

end Stored

theorem inBounds_givenKey {setter : Setter} (inBounds : setter.InBounds)
    {key : List UInt8} (given : setter.givenKey = some key) :
    0 ∉ key ∧ key.length < keySize := by
  cases setter with
  | setDataKey other =>
      obtain rfl : other = key := by simpa [givenKey] using given
      exact inBounds
  | _ => simp [givenKey] at given

/-- A setter only makes hidden writes. -/
theorem hidden_writes {record : DataRecord}
    (valid : ValidState record.bufferState) {setter : Setter}
    (inBounds : setter.InBounds) :
    ∀ write ∈ setter.writes record,
      DataHidden record.bufferState write := by
  cases setter with
  | setDataSize size => exact hidden_setDataSize valid inBounds
  | setDataState state => exact hidden_setDataState valid state
  | setData data => exact hidden_setData valid inBounds
  | setDataKey key => exact hidden_setDataKey valid inBounds.2

end Setter

/-- The calls of the data part of a controller that change something. -/
inductive Call
  | startDataTransaction (index : Nat)
  | set (index : Nat) (setter : Setter)
  | commitData (index : Nat)
  deriving DecidableEq

def Call.InBounds : Call → Prop
  | .set _ setter => setter.InBounds
  | _ => True

def Call.index : Call → Nat
  | .startDataTransaction index => index
  | .set index _ => index
  | .commitData index => index

/-- The member function that is called, on the record of its index. -/
def Call.effect (controller : Controller) (record : DataRecord) :
    Call → Effect DataWrite
  | .startDataTransaction index => controller.startDataTransaction index
  | .set _ setter => setter.effect controller record
  | .commitData _ => controller.commitData record

/-- A transaction that was started for a slot, with the setters that returned
since, the latest one first. -/
structure Transaction where
  index : Nat
  setters : List (Nat × Setter)
  deriving DecidableEq

/-- The open transaction after a call that returned. -/
def Call.opened (transaction : Option Transaction) :
    Call → Option Transaction
  | .startDataTransaction index => some ⟨index, []⟩
  | .set index setter =>
      transaction.map fun opened =>
        { opened with setters := (index, setter) :: opened.setters }
  | .commitData _ => none

/-- A controller and the records it works on. -/
structure Session where
  memory : Nat → DataRecord
  controller : Controller
  transaction : Option Transaction

namespace Session

/-- A call, which either throws or leads to another session. -/
def call (session : Session) (call : Call) : Except String Session :=
  match call.effect session.controller (session.memory call.index) with
  | .error message => .error message
  | .ok (writes, controller) =>
      .ok
        { memory := Function.update session.memory call.index
            ((session.memory call.index).writeAll writes)
          controller := controller
          transaction := call.opened session.transaction }

/-- The session after a call, whether or not it throws. -/
def after (session : Session) (call : Call) : Session :=
  match session.call call with
  | .error _ => session
  | .ok next => next

def run (session : Session) (calls : List Call) : Session :=
  calls.foldl after session

end Session

namespace Transaction

/-- The last value that the setters of a slot gave. -/
def last {Value : Type} (transaction : Transaction)
    (given : Setter → Option Value) (index : Nat) : Option Value :=
  transaction.setters.findSome? fun entry =>
    if entry.1 = index then given entry.2 else none

/-- Whether some setter, of whatever slot, gave a value. -/
def sets {Value : Type} (transaction : Transaction)
    (given : Setter → Option Value) : Bool :=
  transaction.setters.any fun entry => (given entry.2).isSome

/-- The flags that the setters leave. -/
def flags (transaction : Transaction) : DataFlags where
  state := transaction.sets Setter.givenState
  key := transaction.sets Setter.givenKey
  value := transaction.sets Setter.givenData
  size := transaction.sets Setter.givenSize

end Transaction

/-- The getters of a slot return, field by field, what a transaction set last
for it, or else what they returned before. -/
structure Shows (transaction : Transaction) (index : Nat)
    (before after : DataRecord) : Prop where
  state : after.getDataState =
    (transaction.last Setter.givenState index).getD before.getDataState
  key : after.getDataKey =
    (transaction.last Setter.givenKey index).getD before.getDataKey
  size : after.getDataSize =
    (transaction.last Setter.givenSize index).getD before.getDataSize
  data : ∀ data,
    (transaction.last Setter.givenData index).getD
      (firstBytes before.getData before.getDataSize) = data →
    firstBytes after.getData data.length = data

/-- A commit publishes exactly what was set, or throws when its transaction
was not started for its slot. -/
def PublishesExactly (session : Session) (index : Nat) : Prop :=
  match session.call (.commitData index) with
  | .error _ =>
      (∀ transaction, session.transaction = some transaction →
        transaction.index ≠ index) ∧
      session.after (.commitData index) = session
  | .ok next =>
      ∃ transaction, session.transaction = some transaction ∧
        transaction.index = index ∧
        Shows transaction index (session.memory index)
          (next.memory index) ∧
        ∀ other, other ≠ index →
          SameFront (next.memory other) (session.memory other)

/-- The commits that go right.  The transaction was started for the slot; a
field that was set for some slot was also set for this one, unless the back
buffer happens to hold what is published; and a size is not given without a
value, unless it is the published one. -/
structure Covers (transaction : Transaction) (index : Nat)
    (record : DataRecord) : Prop where
  started : transaction.index = index
  state : transaction.sets Setter.givenState →
    transaction.last Setter.givenState index = none →
    record.state record.back = record.getDataState
  key : transaction.sets Setter.givenKey →
    transaction.last Setter.givenKey index = none →
    cString (record.key record.back) keySize = record.getDataKey
  data : transaction.sets Setter.givenData →
    transaction.last Setter.givenData index = none →
    firstBytes (record.value record.back) record.getDataSize =
      firstBytes record.getData record.getDataSize
  size : transaction.sets Setter.givenData →
    transaction.last Setter.givenSize index = none →
    record.size record.back = record.getDataSize
  resized : ¬ transaction.sets Setter.givenData →
    ∀ size, transaction.last Setter.givenSize index = some size →
      size = record.getDataSize

namespace Transaction

variable {Value : Type} (given : Setter → Option Value)
  (transaction : Transaction)

theorem last_set (index : Nat) (setter : Setter) (slot : Nat) :
    last { transaction with
        setters := (index, setter) :: transaction.setters } given slot =
      if index = slot then
        (given setter).or (transaction.last given slot)
      else transaction.last given slot := by
  by_cases same : index = slot
  · cases found : given setter <;>
      simp [last, same, found]
  · simp [last, same]

theorem sets_of_last {given : Setter → Option Value}
    {transaction : Transaction} {index : Nat} {value : Value}
    (found : transaction.last given index = some value) :
    transaction.sets given = true := by
  obtain ⟨entry, member, gives⟩ := List.exists_of_findSome?_eq_some found
  refine List.any_eq_true.mpr ⟨entry, member, ?_⟩
  split at gives
  · simp [gives]
  · simp at gives

/-- `setData` also gives a size. -/
theorem sets_size_of_data
    (data : transaction.sets Setter.givenData = true) :
    transaction.sets Setter.givenSize = true := by
  obtain ⟨⟨index, setter⟩, member, gives⟩ := List.any_eq_true.mp data
  refine List.any_eq_true.mpr ⟨(index, setter), member, ?_⟩
  cases setter with
  | setDataSize size => rfl
  | setDataState state => simp [Setter.givenData] at gives
  | setData data => rfl
  | setDataKey key => simp [Setter.givenData] at gives

end Transaction

/-- The back buffer of a slot holds what a transaction set last for it. -/
structure Holds (transaction : Transaction) (index : Nat)
    (record : DataRecord) : Prop where
  state : ∀ state, transaction.last Setter.givenState index = some state →
    record.state record.back = state
  key : ∀ key, transaction.last Setter.givenKey index = some key →
    cString (record.key record.back) keySize = key
  size : ∀ size, transaction.last Setter.givenSize index = some size →
    record.size record.back = size
  data : ∀ data, transaction.last Setter.givenData index = some data →
    firstBytes (record.value record.back) data.length = data

theorem holds_start (index slot : Nat) (record : DataRecord) :
    Holds ⟨index, []⟩ slot record where
  state := by simp [Transaction.last]
  key := by simp [Transaction.last]
  size := by simp [Transaction.last]
  data := by simp [Transaction.last]

/-- A setter of the slot keeps the back buffer up to date. -/
theorem Holds.set {transaction : Transaction} {index : Nat}
    {record : DataRecord} (holds : Holds transaction index record)
    {setter : Setter} (inBounds : setter.InBounds) :
    Holds { transaction with
        setters := (index, setter) :: transaction.setters } index
      (setter.stored record) := by
  constructor
  · intro state found
    rw [Transaction.last_set, if_pos rfl] at found
    rw [Setter.state_stored]
    cases given : setter.givenState with
    | none => exact holds.state state (by simpa [given] using found)
    | some value => simpa [given] using found
  · intro key found
    rw [Transaction.last_set, if_pos rfl] at found
    rw [Setter.key_stored]
    cases given : setter.givenKey with
    | none => exact holds.key key (by simpa [given] using found)
    | some value =>
        obtain rfl : value = key := by simpa [given] using found
        obtain ⟨zeroFree, short⟩ := Setter.inBounds_givenKey inBounds given
        exact cString_overlay zeroFree _ short
  · intro size found
    rw [Transaction.last_set, if_pos rfl] at found
    rw [Setter.size_stored]
    cases given : setter.givenSize with
    | none => exact holds.size size (by simpa [given] using found)
    | some value => simpa [given] using found
  · intro data found
    rw [Transaction.last_set, if_pos rfl] at found
    rw [Setter.value_stored]
    cases given : setter.givenData with
    | none => exact holds.data data (by simpa [given] using found)
    | some value =>
        obtain rfl : value = data := by simpa [given] using found
        exact firstBytes_overlay value _

/-- A setter of another slot does not matter. -/
theorem Holds.set_other {transaction : Transaction} {index slot : Nat}
    {record : DataRecord} (holds : Holds transaction slot record)
    (different : index ≠ slot) (setter : Setter) :
    Holds { transaction with
        setters := (index, setter) :: transaction.setters } slot
      record := by
  have last : ∀ {Value : Type} (given : Setter → Option Value),
      Transaction.last { transaction with
        setters := (index, setter) :: transaction.setters } given slot =
        transaction.last given slot := by
    intro Value given
    rw [Transaction.last_set, if_neg different]
  constructor
  · simpa only [last] using holds.state
  · simpa only [last] using holds.key
  · simpa only [last] using holds.size
  · simpa only [last] using holds.data

section Calls

variable {session next : Session} {index : Nat}

theorem call_startDataTransaction
    (returned : session.call (.startDataTransaction index) = .ok next) :
    session.controller.dataMapped = true ∧
      next =
        { memory := session.memory
          controller :=
            { session.controller with
              hasStartedDataTransaction := true
              dataTransactionFlags := .none }
          transaction := some ⟨index, []⟩ } := by
  cases mapped : session.controller.dataMapped <;>
    cases started : session.controller.hasStartedDataTransaction <;>
    simp [Session.call, Call.effect, Controller.startDataTransaction,
      mapped, started] at returned
  refine ⟨rfl, ?_⟩
  simp [← returned, Call.opened, mapped]

theorem call_set {setter : Setter}
    (returned : session.call (.set index setter) = .ok next) :
    next =
      { memory := Function.update session.memory index
          ((session.memory index).writeAll
            (setter.writes (session.memory index)))
        controller :=
          { session.controller with
            dataTransactionFlags :=
              setter.flag session.controller.dataTransactionFlags }
        transaction := session.transaction.map fun opened =>
          { opened with setters := (index, setter) :: opened.setters } } := by
  cases mapped : session.controller.dataMapped <;>
    simp [Session.call, Call.effect, Setter.effect_eq, Call.index,
      Controller.setField, mapped] at returned
  simp [← returned, Call.opened, mapped]

/-- `commitData` throws unless a transaction was started, for whatever
slot. -/
theorem call_commitData
    (mapped : session.controller.dataMapped = true)
    (started : session.controller.hasStartedDataTransaction = true) :
    session.call (.commitData index) =
      .ok
        { memory := Function.update session.memory index
            ((session.memory index).writeAll
              (commitDataWrites session.controller.dataTransactionFlags
                (session.memory index)))
          controller :=
            { session.controller with
              hasStartedDataTransaction := false
              dataTransactionFlags := ⟨true, true, true, true⟩ }
          transaction := none } := by
  simp [Session.call, Call.effect, Controller.commitData, mapped, started,
    Call.index, Call.opened]

theorem call_commitData_error
    (started : session.controller.hasStartedDataTransaction = false) :
    ∃ message, session.call (.commitData index) = .error message := by
  cases mapped : session.controller.dataMapped <;>
    simp [Session.call, Call.effect, Controller.commitData, mapped, started]

end Calls

/-- What holds in every session. -/
structure SessionInvariant (session : Session) : Prop where
  wellFormed : ∀ slot, (session.memory slot).WellFormed
  started : session.controller.hasStartedDataTransaction =
    session.transaction.isSome
  mapped : session.transaction.isSome → session.controller.dataMapped
  flags : ∀ transaction, session.transaction = some transaction →
    session.controller.dataTransactionFlags = transaction.flags
  holds : ∀ transaction, session.transaction = some transaction →
    ∀ slot, Holds transaction slot (session.memory slot)

theorem sessionInvariant_initial {memory : Nat → DataRecord}
    {controller : Controller}
    (wellFormed : ∀ slot, (memory slot).WellFormed)
    (idle : controller.hasStartedDataTransaction = false) :
    SessionInvariant ⟨memory, controller, none⟩ where
  wellFormed := wellFormed
  started := idle
  mapped := by simp
  flags := by simp
  holds := by simp

namespace SessionInvariant

variable {session next : Session} (invariant : SessionInvariant session)

include invariant

theorem startDataTransaction {index : Nat}
    (returned : session.call (.startDataTransaction index) = .ok next) :
    SessionInvariant next := by
  obtain ⟨mapped, rfl⟩ := call_startDataTransaction returned
  constructor
  · exact invariant.wellFormed
  · rfl
  · exact fun _ => mapped
  · rintro transaction ⟨⟩
    rfl
  · rintro transaction ⟨⟩ slot
    exact holds_start index slot _

theorem set {index : Nat} {setter : Setter} (inBounds : setter.InBounds)
    (returned : session.call (.set index setter) = .ok next) :
    SessionInvariant next := by
  obtain rfl := call_set returned
  have formed := invariant.wellFormed index
  have hidden := setter.hidden_writes formed.valid inBounds
  constructor
  · exact DataRecord.WellFormed.update invariant.wellFormed
      (writeAll_hidden formed hidden).1
  · simpa using invariant.started
  · simpa using invariant.mapped
  · intro transaction found
    obtain ⟨opened, before, rfl⟩ := Option.map_eq_some_iff.mp found
    change setter.flag session.controller.dataTransactionFlags = _
    rw [invariant.flags opened before]
    rfl
  · intro transaction found slot
    obtain ⟨opened, before, rfl⟩ := Option.map_eq_some_iff.mp found
    have holds := invariant.holds opened before slot
    by_cases same : slot = index
    · subst slot
      simp only [Function.update_self]
      rw [setter.writeAll_writes formed.valid]
      exact holds.set inBounds
    · simp only [Function.update_of_ne same]
      exact holds.set_other (Ne.symm same) setter

theorem commitData {index : Nat}
    (returned : session.call (.commitData index) = .ok next) :
    SessionInvariant next := by
  cases started : session.controller.hasStartedDataTransaction with
  | false =>
      obtain ⟨message, throws⟩ := call_commitData_error started
      rw [throws] at returned
      cases returned
  | true =>
      have mapped := invariant.mapped (invariant.started ▸ started)
      rw [call_commitData mapped started] at returned
      cases returned
      constructor
      · exact DataRecord.WellFormed.update invariant.wellFormed
          (wellFormed_commitData (invariant.wellFormed index) _)
      · rfl
      · simp
      · simp
      · simp

/-- Every call keeps the invariant, whether it returns or throws. -/
theorem after {call : Call} (inBounds : call.InBounds) :
    SessionInvariant (session.after call) := by
  unfold Session.after
  split
  case h_1 => exact invariant
  case h_2 next returned =>
    cases call with
    | startDataTransaction index =>
        exact invariant.startDataTransaction returned
    | set index setter => exact invariant.set inBounds returned
    | commitData index => exact invariant.commitData returned

theorem run {calls : List Call} (inBounds : ∀ call ∈ calls, call.InBounds) :
    SessionInvariant (session.run calls) := by
  induction calls generalizing session with
  | nil => exact invariant
  | cons call rest ih =>
      exact ih (invariant.after (inBounds call (by simp)))
        (fun other member => inBounds other (by simp [member]))

end SessionInvariant

section Committed

variable {record : DataRecord} (wellFormed : record.WellFormed)
  (flags : DataFlags)

include wellFormed

theorem front_commitData :
    (record.writeAll (commitDataWrites flags record)).front =
      record.back := by
  rw [writeAll_commitData wellFormed.valid]
  exact wellFormed.valid.front_xor

theorem getDataState_commitData :
    (record.writeAll (commitDataWrites flags record)).getDataState =
      if flags.state then record.state record.back
        else record.getDataState := by
  rw [DataRecord.getDataState, front_commitData wellFormed,
    writeAll_commitData wellFormed.valid]
  exact Function.update_self _ _ _

/-- A key that is carried over is terminated, so it is read back whole. -/
theorem getDataKey_commitData :
    (record.writeAll (commitDataWrites flags record)).getDataKey =
      if flags.key then cString (record.key record.back) keySize
        else record.getDataKey := by
  rw [DataRecord.getDataKey, front_commitData wellFormed,
    writeAll_commitData wellFormed.valid]
  change cString (Function.update record.key record.back _ record.back)
    keySize = _
  rw [Function.update_self]
  cases flags.key with
  | true => rfl
  | false =>
      exact cString_overlay (zero_not_mem_cString _ _) _
        (length_cString_lt (wellFormed.terminated record.front) (by decide))

theorem getDataSize_commitData :
    (record.writeAll (commitDataWrites flags record)).getDataSize =
      if flags.value && flags.size then record.size record.back
        else record.getDataSize := by
  rw [DataRecord.getDataSize, front_commitData wellFormed,
    writeAll_commitData wellFormed.valid]
  exact Function.update_self _ _ _

theorem getData_commitData :
    (record.writeAll (commitDataWrites flags record)).getData =
      if flags.value then record.value record.back
        else overlay (firstBytes record.getData record.getDataSize)
          (record.value record.back) := by
  rw [DataRecord.getData, front_commitData wellFormed,
    writeAll_commitData wellFormed.valid]
  exact Function.update_self _ _ _

end Committed

/-- A field is either published from the back buffer or kept.  It comes out as
the last value set, unless the back buffer is published without one. -/
theorem field_eq_last_iff {Value : Type} {sets : Bool}
    {last : Option Value} {back front : Value}
    (held : ∀ value, last = some value → sets = true ∧ back = value) :
    (if sets then back else front) = last.getD front ↔
      (sets = true → last = none → back = front) := by
  cases last with
  | none => cases sets <;> simp
  | some value =>
      obtain ⟨set, rfl⟩ := held value rfl
      simp [set]

section Publication

variable {transaction : Transaction} {index : Nat} {record : DataRecord}
  (holds : Holds transaction index record)

include holds

theorem size_eq_last_iff :
    ((if transaction.flags.value && transaction.flags.size then
        record.size record.back else record.getDataSize) =
      (transaction.last Setter.givenSize index).getD record.getDataSize) ↔
      (transaction.sets Setter.givenData →
        transaction.last Setter.givenSize index = none →
        record.size record.back = record.getDataSize) ∧
      (¬ transaction.sets Setter.givenData →
        ∀ size, transaction.last Setter.givenSize index = some size →
          size = record.getDataSize) := by
  cases set : transaction.sets Setter.givenData with
  | true =>
      have sized := transaction.sets_size_of_data set
      simp only [Transaction.flags, set, sized, Bool.and_self, not_true,
        false_implies, and_true, true_implies, if_true]
      have field := @field_eq_last_iff Nat true
        (transaction.last Setter.givenSize index)
        (record.size record.back) record.getDataSize
        (fun size found => ⟨rfl, holds.size size found⟩)
      simpa using field
  | false =>
      cases found : transaction.last Setter.givenSize index with
      | none => simp [Transaction.flags, set]
      | some size => simp [Transaction.flags, set, eq_comm]

theorem data_eq_last_iff :
    (∀ data,
      (transaction.last Setter.givenData index).getD
        (firstBytes record.getData record.getDataSize) = data →
      firstBytes
        (if transaction.flags.value then record.value record.back
          else overlay (firstBytes record.getData record.getDataSize)
            (record.value record.back)) data.length = data) ↔
      (transaction.sets Setter.givenData →
        transaction.last Setter.givenData index = none →
        firstBytes (record.value record.back) record.getDataSize =
          firstBytes record.getData record.getDataSize) := by
  cases found : transaction.last Setter.givenData index with
  | none =>
      cases set : transaction.sets Setter.givenData with
      | true =>
          simp [Transaction.flags, set, length_firstBytes]
      | false =>
          have carried := firstBytes_overlay
            (firstBytes record.getData record.getDataSize)
            (record.value record.back)
          simpa [Transaction.flags, set] using carried
  | some data =>
      have set := Transaction.sets_of_last found
      simpa [Transaction.flags, set] using holds.data data found

/-- A commit shows what was set exactly when it is covered. -/
theorem shows_commitData_iff (wellFormed : record.WellFormed)
    (started : transaction.index = index) :
    Shows transaction index record
        (record.writeAll (commitDataWrites transaction.flags record)) ↔
      Covers transaction index record := by
  have state := @field_eq_last_iff _ transaction.flags.state
    (transaction.last Setter.givenState index)
    (record.state record.back) record.getDataState
    (fun value found =>
      ⟨Transaction.sets_of_last found, holds.state value found⟩)
  have key := @field_eq_last_iff _ transaction.flags.key
    (transaction.last Setter.givenKey index)
    (cString (record.key record.back) keySize) record.getDataKey
    (fun value found =>
      ⟨Transaction.sets_of_last found, holds.key value found⟩)
  rw [← getDataState_commitData wellFormed] at state
  rw [← getDataKey_commitData wellFormed] at key
  have size := size_eq_last_iff holds
  have data := data_eq_last_iff holds
  rw [← getDataSize_commitData wellFormed] at size
  rw [← getData_commitData wellFormed] at data
  constructor
  · intro shows
    obtain ⟨sized, resized⟩ := size.mp shows.size
    exact ⟨started, state.mp shows.state, key.mp shows.key,
      data.mp shows.data, sized, resized⟩
  · intro covers
    exact ⟨state.mpr covers.state, key.mpr covers.key,
      size.mpr ⟨covers.size, covers.resized⟩, data.mpr covers.data⟩

end Publication

theorem SessionInvariant.publishesExactly_iff {session : Session}
    (invariant : SessionInvariant session) (index : Nat) :
    PublishesExactly session index ↔
      ∀ transaction, session.transaction = some transaction →
        Covers transaction index (session.memory index) := by
  have started := invariant.started
  cases opened : session.transaction with
  | none =>
      rw [opened] at started
      obtain ⟨message, throws⟩ :=
        @call_commitData_error session index started
      simp [PublishesExactly, Session.after, throws, opened]
  | some transaction =>
      rw [opened] at started
      have mapped := invariant.mapped (by simp [opened])
      have returned := @call_commitData session index mapped started
      rw [invariant.flags transaction opened] at returned
      have shows := shows_commitData_iff
        (invariant.holds transaction opened index)
        (invariant.wellFormed index)
      have others : ∀ other, other ≠ index → SameFront
          (Function.update session.memory index
            ((session.memory index).writeAll
              (commitDataWrites transaction.flags (session.memory index)))
            other)
          (session.memory other) := by
        intro other different
        rw [Function.update_of_ne different]
        exact SameFront.refl _
      simp only [PublishesExactly, returned, opened, Option.some.injEq,
        exists_eq_left', forall_eq', Function.update_self]
      constructor
      · rintro ⟨same, published, -⟩
        exact (shows same).mp published
      · intro covers
        exact ⟨covers.started, (shows covers.started).mpr covers, others⟩

/-- In every sequence of calls on a controller, a commit publishes exactly
what was set if and only if no transaction is open, so that it throws, or the
open one covers its slot. -/
theorem publishesExactly_run_iff {memory : Nat → DataRecord}
    {controller : Controller}
    (wellFormed : ∀ slot, (memory slot).WellFormed)
    (idle : controller.hasStartedDataTransaction = false)
    {calls : List Call} (inBounds : ∀ call ∈ calls, call.InBounds)
    (index : Nat) :
    PublishesExactly (Session.run ⟨memory, controller, none⟩ calls) index ↔
      ∀ transaction,
        (Session.run ⟨memory, controller, none⟩ calls).transaction =
          some transaction →
        Covers transaction index
          ((Session.run ⟨memory, controller, none⟩ calls).memory index) :=
  ((sessionInvariant_initial wellFormed idle).run
    inBounds).publishesExactly_iff index

theorem publishesExactly_insert :
    PublishesExactly
      (Session.run ⟨fun _ => .zero, .attached, none⟩
        [.startDataTransaction 3, .set 3 (.setDataState .occupied),
          .set 3 (.setDataKey [107]), .set 3 (.setData [1, 2])]) 3 := by
  refine (publishesExactly_run_iff (fun _ => DataRecord.wellFormed_zero)
    rfl ?_ 3).mpr ?_
  · intro call member
    simp only [List.mem_cons, List.not_mem_nil, or_false] at member
    rcases member with rfl | rfl | rfl | rfl
    · trivial
    · trivial
    · exact (by decide : Setter.InBounds (.setDataKey [107]))
    · exact (by decide : Setter.InBounds (.setData [1, 2]))
  · rintro transaction ⟨⟩
    constructor
    · rfl
    · rintro - ⟨⟩
    · rintro - ⟨⟩
    · rintro - ⟨⟩
    · rintro - ⟨⟩
    · exact fun unset => absurd rfl unset

/-- A size that is set alone is lost: the value is carried over after it,
together with the old size. -/
theorem setDataSize_not_published :
    ¬ PublishesExactly
      (Session.run ⟨fun _ => .zero, .attached, none⟩
        [.startDataTransaction 0, .set 0 (.setDataSize 5)]) 0 := by
  rintro ⟨transaction, opened, -, shows, -⟩
  cases opened
  exact absurd shows.size (by decide)

end InterprocessController

end IISModuleJS
