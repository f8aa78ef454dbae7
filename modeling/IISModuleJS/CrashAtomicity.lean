import IISModuleJS.PublishedStore
import IISModuleJS.ScheduledMachine

/-!
# Crash atomicity of the double buffer

Any number of processes attach controllers to the shared memory and execute
transactions on it, one at a time.  A process can stop between any two of its
writes; its controller and the transaction in progress are then gone, while
the buffers stay as they are and other controllers go on with them.

At every moment of every such run the readers see the transactions that were
completed, and nothing else.
-/

namespace IISModuleJS

namespace InterprocessController

open SharedMemory

/-- A write to the shared memory. -/
inductive MemoryWrite
  | info (write : InfoWrite)
  | data (index : Nat) (write : DataWrite)
  deriving DecidableEq

def writeMemory (memory : Memory) : MemoryWrite → Memory
  | .info write => { memory with info := memory.info.write write }
  | .data index write =>
      { memory with
        data := Function.update memory.data index
          ((memory.data index).write write) }

def writeAllMemory (memory : Memory) (writes : List MemoryWrite) : Memory :=
  writes.foldl writeMemory memory

/-- The writes that a controller makes for a transaction. -/
def StoreTransaction.perform (controller : Controller) (memory : Memory) :
    StoreTransaction → Effect MemoryWrite
  | .info setters =>
      match performAll InfoRecord.writeAll controller memory.info
          (infoCalls setters) with
      | .error message => .error message
      | .ok (writes, final) => .ok (writes.map .info, final)
  | .data index setters =>
      match performAll DataRecord.writeAll controller (memory.data index)
          (dataCalls index setters) with
      | .error message => .error message
      | .ok (writes, final) => .ok (writes.map (.data index), final)

/-- A transaction in progress: the writes it has yet to make, and the
controller it will leave. -/
structure Progress where
  process : Nat
  transaction : StoreTransaction
  pending : List MemoryWrite
  controller : Controller

/-- The shared memory, the controllers of the running processes, and the
transactions whose last write was made. -/
structure World where
  memory : Memory
  controllers : Nat → Option Controller
  progress : Option Progress
  completed : List StoreTransaction

/-- The world before any process has started. -/
def World.initial (memory : Memory) : World where
  memory := memory
  controllers := fun _ => none
  progress := none
  completed := []

inductive WorldAction
  | attach (process : Nat)
  | begin (process : Nat) (transaction : StoreTransaction)
  | write
  | stop (process : Nat)

/-- The next write of the transaction in progress.  With the last one the
transaction is completed. -/
def World.write (world : World) (progress : Progress) : Option World :=
  match progress.pending with
  | [] => none
  | [last] =>
      some
        { memory := writeMemory world.memory last
          controllers := Function.update world.controllers
            progress.process (some progress.controller)
          progress := none
          completed := world.completed ++ [progress.transaction] }
  | first :: second :: rest =>
      some
        { world with
          memory := writeMemory world.memory first
          progress := some { progress with pending := second :: rest } }

/-- A process stops, together with the transaction it has in progress. -/
def World.stop (world : World) (process : Nat) : World :=
  { world with
    controllers := Function.update world.controllers process none
    progress := world.progress.filter fun progress =>
      progress.process != process }

def World.step (world : World) : WorldAction → Option World
  | .attach process =>
      if (world.controllers process).isSome then none
      else
        some
          { world with
            controllers := Function.update world.controllers process
              (some .attached) }
  | .begin process transaction =>
      match world.progress, world.controllers process with
      | none, some controller =>
          match transaction.perform controller world.memory with
          | .error _ => none
          | .ok (writes, final) =>
              some
                { world with
                  progress := some ⟨process, transaction, writes, final⟩ }
      | _, _ => none
  | .write => world.progress.bind world.write
  | .stop process => some (world.stop process)

/-- A memory as the store keeps it. -/
structure WellFormedMemory (memory : Memory) : Prop where
  info : ValidState memory.info.bufferState
  data : ∀ index, (memory.data index).WellFormed

/-- A write that readers do not see. -/
def Hidden (memory : Memory) : MemoryWrite → Prop
  | .info write => InfoHidden memory.info.bufferState write
  | .data index write => DataHidden (memory.data index).bufferState write

theorem publishedInfo_of_same {first second : InfoRecord}
    (same : SameInfoFront first second) :
    publishedInfo first = publishedInfo second := by
  simp only [publishedInfo, same.capacity, same.size, same.resizeCount]

theorem publishedSlot_of_same {first second : DataRecord}
    (same : SameFront first second) :
    publishedSlot first = publishedSlot second := by
  simp only [publishedSlot, same.state, same.key, same.size, same.data]

/-- Replacing one record replaces one slot. -/
theorem published_update (memory : Memory) (index : Nat)
    (record : DataRecord) :
    published
        { memory with data := Function.update memory.data index record } =
      { published memory with
        slots := Function.update (published memory).slots index
          (publishedSlot record) } :=
  congrArg (PublishedStore.mk _)
    (Function.comp_update publishedSlot memory.data index record)

/-- A hidden write keeps the memory well formed, is not seen, and leaves
hidden what was hidden. -/
theorem writeMemory_hidden {memory : Memory} {write : MemoryWrite}
    (wellFormed : WellFormedMemory memory) (hidden : Hidden memory write) :
    WellFormedMemory (writeMemory memory write) ∧
      published (writeMemory memory write) = published memory ∧
      ∀ other, Hidden memory other →
        Hidden (writeMemory memory write) other := by
  cases write with
  | info write =>
      have same := sameInfoFront_write hidden
      refine ⟨⟨?_, wellFormed.data⟩, ?_, ?_⟩
      · change ValidState (memory.info.write write).bufferState
        rw [same.bufferState]
        exact wellFormed.info
      · simp only [published, writeMemory, publishedInfo_of_same same]
      · intro other otherHidden
        cases other with
        | info other =>
            change InfoHidden (memory.info.write write).bufferState other
            rw [same.bufferState]
            exact otherHidden
        | data index other => exact otherHidden
  | data index write =>
      have same := sameFront_write hidden
      refine ⟨⟨wellFormed.info, ?_⟩, ?_, ?_⟩
      · exact DataRecord.WellFormed.update wellFormed.data
          (wellFormed_write (wellFormed.data index) hidden)
      · rw [writeMemory, published_update, publishedSlot_of_same same]
        exact congrArg (PublishedStore.mk _) (Function.update_eq_self _ _)
      · intro other otherHidden
        cases other with
        | info other => exact otherHidden
        | data slot other =>
            by_cases here : slot = index
            · subst slot
              simp only [Hidden, writeMemory, Function.update_self]
              rw [same.bufferState]
              exact otherHidden
            · simp only [Hidden, writeMemory, Function.update_of_ne here]
              exact otherHidden

theorem writeAllMemory_info (memory : Memory) (writes : List InfoWrite) :
    writeAllMemory memory (writes.map .info) =
      { memory with info := memory.info.writeAll writes } := by
  induction writes generalizing memory with
  | nil => rfl
  | cons write rest ih =>
      change writeAllMemory (writeMemory memory (.info write)) _ = _
      rw [ih]
      rfl

theorem writeAllMemory_data (memory : Memory) (index : Nat)
    (writes : List DataWrite) :
    writeAllMemory memory (writes.map (.data index)) =
      { memory with
        data := Function.update memory.data index
          ((memory.data index).writeAll writes) } := by
  induction writes generalizing memory with
  | nil => simp [writeAllMemory]
  | cons write rest ih =>
      change writeAllMemory (writeMemory memory (.data index write)) _ = _
      rw [ih]
      simp [writeMemory]

/-- The pending writes of a transaction are hidden up to the last one, and
all together publish what the transaction means. -/
def Promises (memory : Memory) (transaction : StoreTransaction)
    (pending : List MemoryWrite) : Prop :=
  ∃ hidden last, pending = hidden ++ [last] ∧
    (∀ write ∈ hidden, Hidden memory write) ∧
    WellFormedMemory (writeAllMemory memory pending) ∧
    published (writeAllMemory memory pending) =
      transaction.publish (published memory)

/-- An idle controller can execute every transaction. -/
theorem perform_promises {controller : Controller} {memory : Memory}
    (idle : controller.Idle) (wellFormed : WellFormedMemory memory)
    (transaction : StoreTransaction) :
    ∃ writes final,
      transaction.perform controller memory = .ok (writes, final) ∧
      final.Idle ∧ Promises memory transaction writes := by
  cases transaction with
  | info setters =>
      obtain ⟨hidden, last, final, performed, finalIdle, allHidden, valid,
        publishes⟩ := performAll_infoCalls setters idle wellFormed.info
      refine ⟨(hidden ++ [last]).map .info, final, ?_, finalIdle,
        hidden.map .info, .info last, by simp, ?_, ?_, ?_⟩
      · simp only [StoreTransaction.perform, performed]
      · intro write member
        obtain ⟨inner, innerMember, rfl⟩ := List.mem_map.mp member
        exact allHidden inner innerMember
      · rw [writeAllMemory_info]
        exact ⟨valid, wellFormed.data⟩
      · rw [writeAllMemory_info]
        simp only [published, publishes, StoreTransaction.publish]
  | data index setters =>
      obtain ⟨hidden, last, final, performed, finalIdle, allHidden, formed,
        publishes⟩ := performAll_dataCalls index setters idle
          (wellFormed.data index)
      refine ⟨(hidden ++ [last]).map (.data index), final, ?_, finalIdle,
        hidden.map (.data index), .data index last, by simp, ?_, ?_, ?_⟩
      · simp only [StoreTransaction.perform, performed]
      · intro write member
        obtain ⟨inner, innerMember, rfl⟩ := List.mem_map.mp member
        exact allHidden inner innerMember
      · rw [writeAllMemory_data]
        exact ⟨wellFormed.info,
          DataRecord.WellFormed.update wellFormed.data formed⟩
      · rw [writeAllMemory_data, published_update, publishes]
        rfl

/-- What a write of a transaction in progress can do. -/
theorem write_cases {world next : World} {progress : Progress}
    (stepTo : world.write progress = some next) :
    (∃ last, progress.pending = [last] ∧
      next =
        { memory := writeMemory world.memory last
          controllers := Function.update world.controllers
            progress.process (some progress.controller)
          progress := none
          completed := world.completed ++ [progress.transaction] }) ∨
    ∃ first rest, progress.pending = first :: rest ∧ rest ≠ [] ∧
      next =
        { world with
          memory := writeMemory world.memory first
          progress := some { progress with pending := rest } } := by
  unfold World.write at stepTo
  split at stepTo
  case h_1 => cases stepTo
  case h_2 last pending =>
    cases stepTo
    exact .inl ⟨last, pending, rfl⟩
  case h_3 first second rest pending =>
    cases stepTo
    exact .inr ⟨first, second :: rest, pending, by simp, rfl⟩

/-- After a hidden write a transaction still keeps its promise. -/
theorem Promises.advance {memory : Memory}
    {transaction : StoreTransaction} {first : MemoryWrite}
    {rest : List MemoryWrite}
    (promises : Promises memory transaction (first :: rest))
    (more : rest ≠ []) (wellFormed : WellFormedMemory memory) :
    Hidden memory first ∧
      Promises (writeMemory memory first) transaction rest := by
  obtain ⟨hidden, last, pending, allHidden, formed, publishes⟩ := promises
  cases hidden with
  | nil =>
      cases pending
      exact absurd rfl more
  | cons head others =>
      cases pending
      have now := allHidden first (by simp)
      obtain ⟨-, seen, stays⟩ := writeMemory_hidden wellFormed now
      refine ⟨now, others, last, rfl, ?_, formed, ?_⟩
      · intro write member
        exact stays write (allHidden write (by simp [member]))
      · rw [seen]
        exact publishes

/-- What holds in every world: readers see the completed transactions. -/
structure WorldInvariant (start : PublishedStore) (world : World) :
    Prop where
  wellFormed : WellFormedMemory world.memory
  idle : ∀ process controller,
    world.controllers process = some controller → controller.Idle
  shows : published world.memory =
    world.completed.foldl StoreTransaction.publish start
  progress : ∀ progress, world.progress = some progress →
    progress.controller.Idle ∧
      Promises world.memory progress.transaction progress.pending

theorem worldInvariant_initial {memory : Memory}
    (wellFormed : WellFormedMemory memory) :
    WorldInvariant (published memory) (.initial memory) where
  wellFormed := wellFormed
  idle := by simp [World.initial]
  shows := rfl
  progress := by simp [World.initial]

/-- Controllers stay idle when one of them is replaced. -/
theorem idle_update {controllers : Nat → Option Controller}
    (idle : ∀ process controller,
      controllers process = some controller → controller.Idle)
    {replaced : Nat} {replacement : Option Controller}
    (replacementIdle : ∀ controller, replacement = some controller →
      controller.Idle) :
    ∀ process controller,
      Function.update controllers replaced replacement process =
        some controller → controller.Idle := by
  intro process controller found
  by_cases here : process = replaced
  · subst process
    rw [Function.update_self] at found
    exact replacementIdle controller found
  · rw [Function.update_of_ne here] at found
    exact idle process controller found

namespace WorldInvariant

variable {start : PublishedStore} {world next : World}
  (invariant : WorldInvariant start world)

include invariant

theorem write {progress : Progress}
    (found : world.progress = some progress)
    (stepTo : world.write progress = some next) :
    WorldInvariant start next := by
  obtain ⟨finalIdle, promises⟩ := invariant.progress progress found
  rcases write_cases stepTo with
    ⟨last, pending, rfl⟩ | ⟨first, rest, pending, more, rfl⟩
  · rw [pending] at promises
    obtain ⟨-, -, -, -, formed, publishes⟩ := promises
    constructor
    · exact formed
    · refine idle_update invariant.idle ?_
      rintro controller ⟨⟩
      exact finalIdle
    · rw [List.foldl_append, ← invariant.shows]
      exact publishes
    · simp
  · rw [pending] at promises
    obtain ⟨hidden, later⟩ := promises.advance more invariant.wellFormed
    obtain ⟨formed, seen, -⟩ :=
      writeMemory_hidden invariant.wellFormed hidden
    constructor
    · exact formed
    · exact invariant.idle
    · exact seen.trans invariant.shows
    · rintro _ ⟨⟩
      exact ⟨finalIdle, later⟩

theorem begin {process : Nat} {transaction : StoreTransaction}
    (stepTo : world.step (.begin process transaction) = some next) :
    WorldInvariant start next := by
  simp only [World.step] at stepTo
  split at stepTo
  case h_1 controller _ found =>
    obtain ⟨writes, final, performed, finalIdle, promises⟩ :=
      perform_promises (invariant.idle process controller found)
        invariant.wellFormed transaction
    rw [performed] at stepTo
    cases stepTo
    refine ⟨invariant.wellFormed, invariant.idle, invariant.shows, ?_⟩
    rintro _ ⟨⟩
    exact ⟨finalIdle, promises⟩
  case h_2 => cases stepTo

/-- The last write of a transaction publishes what the transaction means for
the published store, and no leftovers of the back buffers. -/
theorem publishes {progress : Progress}
    (found : world.progress = some progress)
    (stepTo : world.write progress = some next)
    (done : next.progress = none) :
    published next.memory =
      progress.transaction.publish (published world.memory) := by
  obtain ⟨-, promises⟩ := invariant.progress progress found
  rcases write_cases stepTo with
    ⟨last, pending, rfl⟩ | ⟨first, rest, -, -, rfl⟩
  · rw [pending] at promises
    obtain ⟨-, -, -, -, -, publishes⟩ := promises
    exact publishes
  · cases done

/-- No transaction of an attached controller throws. -/
theorem begins {process : Nat} {controller : Controller}
    (free : world.progress = none)
    (found : world.controllers process = some controller)
    (transaction : StoreTransaction) :
    (world.step (.begin process transaction)).isSome = true := by
  obtain ⟨writes, final, performed, -, -⟩ :=
    perform_promises (invariant.idle process controller found)
      invariant.wellFormed transaction
  simp [World.step, free, found, performed]

theorem step {action : WorldAction}
    (stepTo : world.step action = some next) :
    WorldInvariant start next := by
  cases action with
  | attach process =>
      simp only [World.step] at stepTo
      split at stepTo
      · cases stepTo
      · cases stepTo
        refine ⟨invariant.wellFormed, ?_, invariant.shows,
          invariant.progress⟩
        refine idle_update invariant.idle ?_
        rintro controller ⟨⟩
        exact Controller.idle_attached
  | begin process transaction => exact invariant.begin stepTo
  | write =>
      obtain ⟨progress, found, writes⟩ := Option.bind_eq_some_iff.mp stepTo
      exact invariant.write found writes
  | stop process =>
      cases stepTo
      refine ⟨invariant.wellFormed, ?_, invariant.shows, ?_⟩
      · exact idle_update invariant.idle (by simp)
      · intro progress found
        exact invariant.progress progress (Option.filter_eq_some_iff.mp
          found).1

end WorldInvariant

/-- In every world that is reached from a well-formed memory, with a
transaction in progress or not, the getters return what the completed
transactions mean in their order; the abandoned ones left nothing.  What a
commit publishes is determined by the published store and its own setters,
and every attached controller can execute every transaction. -/
theorem crashAtomicity {memory : Memory}
    (wellFormed : WellFormedMemory memory) {schedule : List WorldAction}
    {world : World}
    (runs : ScheduledMachine.run World.step (.initial memory) schedule =
      some world) :
    published world.memory =
        world.completed.foldl StoreTransaction.publish (published memory) ∧
      (∀ progress next, world.progress = some progress →
        world.write progress = some next → next.progress = none →
          published next.memory =
            progress.transaction.publish (published world.memory)) ∧
      ∀ process controller transaction, world.progress = none →
        world.controllers process = some controller →
          (world.step (.begin process transaction)).isSome = true := by
  have invariant : WorldInvariant (published memory) world :=
    ScheduledMachine.invariant_of_run
      (fun _ _ _ invariant stepTo => invariant.step stepTo)
      (worldInvariant_initial wellFormed) runs
  refine ⟨invariant.shows, ?_, ?_⟩
  · intro progress next found stepTo done
    exact invariant.publishes found stepTo done
  · intro process controller transaction free found
    exact invariant.begins free found transaction

/-- A process stops in the middle of a transaction, and another one takes
over. -/
def takeover : List WorldAction :=
  [.attach 0,
    .begin 0 (.data 7
      [⟨.setData [1, 2], by decide, by simp⟩,
        ⟨.setDataKey [107], by decide, by simp⟩]),
    .write, .write, .write, .stop 0, .attach 1,
    .begin 1 (.data 7 [⟨.setDataState .occupied, by decide, by simp⟩])] ++
    List.replicate 14 .write

theorem crashAtomicity_takeover :
    ∃ world,
      ScheduledMachine.run World.step
        (.initial ⟨.zero, fun _ => .zero⟩) takeover = some world ∧
      (published world.memory).slots 7 = ⟨.occupied, [], 0, []⟩ := by
  refine ⟨_, rfl, ?_⟩
  rw [(@crashAtomicity ⟨.zero, fun _ => .zero⟩
    ⟨.inl rfl, fun _ => DataRecord.wellFormed_zero⟩ takeover _ rfl).1]
  rfl

end InterprocessController

end IISModuleJS
