import IISModuleJS.ByteRanges
import IISModuleJS.FueledLoop
import IISModuleJS.JavaScriptValue
import IISModuleJS.TextEncoding
import Mathlib.Algebra.Ring.Nat
import Mathlib.Logic.Function.Iterate

/-!
# `response.write` and its chunks

`response.write` takes the bytes of a string or of a `Uint8Array`, sets the
headers for the type and the encoding of the content, and hands the bytes to
IIS in chunks of at most 65535 bytes.  The loop over the chunks keeps an
offset, a length and a flag in unsigned 32-bit variables.  They are computed
once before the loop and again after every chunk, and the two formulas for the
flag are not the same: the first one says that data follows the chunk that is
about to be written, the second one only that this chunk is not empty.
-/

namespace IISModuleJS

namespace ResponseWrite

open JsValue TextEncoding FueledLoop ByteRanges

/-- The macro `pmax` at type `unsigned long`. -/
def pmax (a b : UInt32) : UInt32 :=
  if b < a then a else b

/-- The macro `pmin` at type `unsigned long`. -/
def pmin (a b : UInt32) : UInt32 :=
  if a < b then a else b

/-- `MAX_BYTES`, the most that one `HTTP_DATA_CHUNK` takes. -/
def maxBytes : UInt32 := 65535

/-- `buffer_offset`, `bytes_to_write` and `has_more_data`. -/
structure Counters where
  bufferOffset : UInt32
  bytesToWrite : UInt32
  hasMoreData : Bool
  deriving DecidableEq

/-- The values before the loop. -/
def firstCounters (bufferSize : UInt32) : Counters :=
  let bytesToWrite := pmin (pmax (bufferSize - 0) 0) maxBytes
  { bufferOffset := 0
    bytesToWrite := bytesToWrite
    hasMoreData := decide (0 < bufferSize - bytesToWrite) }

/-- The values after a chunk has been written. -/
def nextCounters (bufferSize : UInt32) (counters : Counters) : Counters :=
  let bufferOffset := counters.bufferOffset + counters.bytesToWrite
  { bufferOffset := bufferOffset
    bytesToWrite := pmin (pmax (bufferSize - bufferOffset) 0) maxBytes
    hasMoreData := decide (0 < bufferSize - bufferOffset) }

/-- What a call of `WriteEntityChunks` passes to IIS: where the chunk begins in
the buffer, `FromMemory.BufferLength` and `fMoreData`. -/
structure ChunkCall where
  offset : UInt32
  bufferLength : UInt16
  moreData : Bool
  deriving DecidableEq

/-- The call of a round; the length is cast to `USHORT`. -/
def chunkCall (counters : Counters) : ChunkCall where
  offset := counters.bufferOffset
  bufferLength := counters.bytesToWrite.toUInt16
  moreData := counters.hasMoreData

/-- The loop between two rounds: its variables and the calls that IIS has
accepted. -/
structure LoopState where
  counters : Counters
  delivered : List ChunkCall
  deriving DecidableEq

/-- The exception of a call that failed, and what was delivered before it. -/
structure Failed where
  message : String
  delivered : List ChunkCall
  deriving DecidableEq

/-- The body of the loop.  `succeeded` tells of each call, in order, whether
`WriteEntityChunks` succeeds. -/
def round (bufferSize : UInt32) (succeeded : Nat → Bool) (state : LoopState) :
    Except Failed LoopState :=
  if succeeded state.delivered.length then
    .ok ⟨nextCounters bufferSize state.counters,
      state.delivered ++ [chunkCall state.counters]⟩
  else
    .error ⟨"failed to write", state.delivered⟩

/-- The `do` loop of `response.write`, with a bound on its rounds. -/
def writeChunks (bufferSize : UInt32) (succeeded : Nat → Bool) (fuel : Nat) :
    Option (Except Failed LoopState) :=
  doWhile (round bufferSize succeeded) (fun state => state.counters.hasMoreData)
    fuel ⟨firstCounters bufferSize, []⟩

/-- The headers that `response.write` sets, with `SetHeader(..., TRUE)`. -/
inductive Header
  | contentType
  | contentEncoding
  deriving DecidableEq

/-- What a call has done with the response of IIS. -/
structure Written where
  headers : List (Header × List UInt8)
  chunks : List (List UInt8)
  deriving DecidableEq

/-- `Utf8ValueScoped` and `ArrayBufferScoped` over the first argument.  The
pointer of the first is only set for a string; `pointerIsNull` tells what the
memory held before.  The second one takes the contents of the buffer. -/
def selectBuffer (pointerIsNull : Bool) (body : JsValue) :
    Except CallEnding (List UInt8) :=
  match body with
  | .string units => .ok (encodeUtf8 units)
  | .uint8Array view =>
      if pointerIsNull then .ok view.buffer else .error .undefinedBehavior
  | _ =>
      if pointerIsNull then
        .error (.throws "invalid first argument type for write")
      else .error .undefinedBehavior

/-- The bytes that IIS takes as the value of a header; its length is passed as
a `USHORT`. -/
def headerValue (bytes : List UInt8) : List UInt8 :=
  bytes.take bytes.length.toUInt16.toNat

/-- The calls of `SetHeader`. -/
def setHeaders (args : List JsValue) : List (Header × List UInt8) :=
  let contentType :=
    match argument args 1 with
    | .string mimeType => headerValue (encodeUtf8 mimeType)
    | _ => "text/html".toList.map fun c => c.toNat.toUInt8
  match argument args 2 with
  | .string contentEncoding =>
      [(.contentType, contentType),
        (.contentEncoding, headerValue (encodeUtf8 contentEncoding))]
  | _ => [(.contentType, contentType)]

/-- The bytes of a chunk. -/
def chunkBytes (buffer : List UInt8) (call : ChunkCall) : List UInt8 :=
  slice buffer call.offset.toNat call.bufferLength.toNat

/-- `response.write`.  `attached` tells whether the object still belongs to a
request, `succeeded` what IIS answers to each chunk. -/
def write (attached pointerIsNull : Bool) (succeeded : Nat → Bool) (fuel : Nat)
    (args : List JsValue) : Option (CallEnding × Written) :=
  if !attached then
    some (.throws "invalid p_http_response for write", ⟨[], []⟩)
  else if args.length < 1 then
    some (.throws "invalid signature for write", ⟨[], []⟩)
  else
    match selectBuffer pointerIsNull (argument args 0) with
    | .error ending => some (ending, ⟨[], []⟩)
    | .ok buffer =>
        match writeChunks buffer.length.toUInt32 succeeded fuel with
        | none => none
        | some (.ok state) =>
            some (.returns .undefined,
              ⟨setHeaders args, state.delivered.map (chunkBytes buffer)⟩)
        | some (.error failed) =>
            some (.throws failed.message,
              ⟨setHeaders args, failed.delivered.map (chunkBytes buffer)⟩)

/-- The variables after a number of rounds. -/
def countersAfter (bufferSize : UInt32) (rounds : Nat) : Counters :=
  (nextCounters bufferSize)^[rounds] (firstCounters bufferSize)

/-- The number of chunks: one for every 65535 bytes begun, and one for an empty
body. -/
def chunkCount (length : Nat) : Nat :=
  max 1 ((length + 65534) / 65535)

/-- The calls of the loop if none of them fails. -/
def chunkCalls (bufferSize : UInt32) : List ChunkCall :=
  (List.range (chunkCount bufferSize.toNat)).map fun index =>
    chunkCall (countersAfter bufferSize index)

theorem toNat_bytesToWrite (rest : UInt32) :
    (pmin (pmax rest 0) maxBytes).toNat = min rest.toNat 65535 := by
  have unchanged : pmax rest 0 = rest := by
    unfold pmax
    split
    · rfl
    · next notPositive =>
        have zero : rest.toNat = 0 := by
          rw [UInt32.lt_iff_toNat_lt] at notPositive
          simpa using notPositive
        exact (UInt32.toNat_inj.mp zero).symm
  rw [unchanged]
  unfold pmin
  split
  · next below =>
      rw [UInt32.lt_iff_toNat_lt] at below
      have bound : maxBytes.toNat = 65535 := rfl
      omega
  · next notBelow =>
      rw [UInt32.lt_iff_toNat_lt] at notBelow
      have bound : maxBytes.toNat = 65535 := rfl
      omega

theorem positive_iff (rest : UInt32) : 0 < rest ↔ 0 < rest.toNat := by
  rw [UInt32.lt_iff_toNat_lt]
  rfl

/-- The variables stay inside the buffer, so that neither of the subtractions
from `buffer_size` nor the addition to `buffer_offset` wraps around. -/
structure Counters.InRange (bufferSize : UInt32) (counters : Counters) :
    Prop where
  offset_le : counters.bufferOffset ≤ bufferSize
  rest_eq : (bufferSize - counters.bufferOffset).toNat =
    bufferSize.toNat - counters.bufferOffset.toNat
  afterChunk_eq : (bufferSize - counters.bytesToWrite).toNat =
    bufferSize.toNat - counters.bytesToWrite.toNat
  end_le : counters.bufferOffset.toNat + counters.bytesToWrite.toNat ≤
    bufferSize.toNat
  next_eq : (counters.bufferOffset + counters.bytesToWrite).toNat =
    counters.bufferOffset.toNat + counters.bytesToWrite.toNat

/-- The values of the variables in the loop: a chunk of what is left from the
offset on. -/
structure Counters.At (bufferSize : UInt32) (rounds : Nat)
    (counters : Counters) : Prop where
  offset_eq : counters.bufferOffset.toNat =
    min bufferSize.toNat (65535 * rounds)
  length_eq : counters.bytesToWrite.toNat =
    min (bufferSize.toNat - 65535 * rounds) 65535

theorem Counters.At.inRange {bufferSize : UInt32} {rounds : Nat}
    {counters : Counters} (atRound : counters.At bufferSize rounds) :
    counters.InRange bufferSize := by
  have offset := atRound.offset_eq
  have length := atRound.length_eq
  have bound := bufferSize.toNat_lt
  have offset_le : counters.bufferOffset ≤ bufferSize := by
    rw [UInt32.le_iff_toNat_le]
    omega
  have length_le : counters.bytesToWrite ≤ bufferSize := by
    rw [UInt32.le_iff_toNat_le]
    omega
  refine ⟨offset_le, UInt32.toNat_sub_of_le _ _ offset_le,
    UInt32.toNat_sub_of_le _ _ length_le, by omega, ?_⟩
  rw [UInt32.toNat_add]
  omega

theorem firstCounters_at (bufferSize : UInt32) :
    (firstCounters bufferSize).At bufferSize 0 := by
  refine ⟨by simp [firstCounters], ?_⟩
  simp only [firstCounters]
  rw [toNat_bytesToWrite]
  simp

theorem nextCounters_at {bufferSize : UInt32} {rounds : Nat}
    {counters : Counters} (atRound : counters.At bufferSize rounds) :
    (nextCounters bufferSize counters).At bufferSize (rounds + 1) := by
  have offset := atRound.offset_eq
  have length := atRound.length_eq
  have next_offset :
      (counters.bufferOffset + counters.bytesToWrite).toNat =
        min bufferSize.toNat (65535 * (rounds + 1)) := by
    rw [atRound.inRange.next_eq]
    omega
  have next_le :
      counters.bufferOffset + counters.bytesToWrite ≤ bufferSize := by
    rw [UInt32.le_iff_toNat_le]
    omega
  refine ⟨next_offset, ?_⟩
  simp only [nextCounters]
  rw [toNat_bytesToWrite, UInt32.toNat_sub_of_le _ _ next_le]
  omega

theorem countersAfter_succ (bufferSize : UInt32) (rounds : Nat) :
    countersAfter bufferSize (rounds + 1) =
      nextCounters bufferSize (countersAfter bufferSize rounds) :=
  Function.iterate_succ_apply' _ _ _

theorem countersAfter_at (bufferSize : UInt32) (rounds : Nat) :
    (countersAfter bufferSize rounds).At bufferSize rounds := by
  induction rounds with
  | zero => exact firstCounters_at bufferSize
  | succ rounds ih =>
      rw [countersAfter_succ]
      exact nextCounters_at ih

/-- Before the first chunk the flag tells whether data remains after it. -/
theorem hasMoreData_first (bufferSize : UInt32) :
    (countersAfter bufferSize 0).hasMoreData =
      decide (65535 < bufferSize.toNat) := by
  have atRound := countersAfter_at bufferSize 0
  have length := atRound.length_eq
  have after := atRound.inRange.afterChunk_eq
  have flag : (countersAfter bufferSize 0).hasMoreData =
      decide (0 < bufferSize - (countersAfter bufferSize 0).bytesToWrite) := rfl
  rw [flag, decide_eq_decide, positive_iff, after]
  omega

/-- Before every later chunk it tells whether data remains with this chunk. -/
theorem hasMoreData_later (bufferSize : UInt32) (rounds : Nat) :
    (countersAfter bufferSize (rounds + 1)).hasMoreData =
      decide (65535 * (rounds + 1) < bufferSize.toNat) := by
  have atRound := countersAfter_at bufferSize (rounds + 1)
  have offset := atRound.offset_eq
  have rest := atRound.inRange.rest_eq
  have flag : (countersAfter bufferSize (rounds + 1)).hasMoreData =
      decide (0 < bufferSize -
        (countersAfter bufferSize (rounds + 1)).bufferOffset) := by
    rw [countersAfter_succ]
    rfl
  rw [flag, decide_eq_decide, positive_iff, rest]
  omega

/-- The loop goes on as long as there are chunks. -/
theorem goesOn_iff (bufferSize : UInt32) (rounds : Nat) :
    (countersAfter bufferSize (rounds + 1)).hasMoreData = true ↔
      rounds + 1 < chunkCount bufferSize.toNat := by
  rw [hasMoreData_later, decide_eq_true_eq, chunkCount]
  omega

theorem chunkCount_pos (length : Nat) : 0 < chunkCount length := by
  unfold chunkCount
  omega

theorem length_chunkCalls (bufferSize : UInt32) :
    (chunkCalls bufferSize).length = chunkCount bufferSize.toNat := by
  simp [chunkCalls]

theorem take_chunkCalls {bufferSize : UInt32} {count : Nat}
    (within : count ≤ chunkCount bufferSize.toNat) :
    (chunkCalls bufferSize).take count =
      (List.range count).map fun index =>
        chunkCall (countersAfter bufferSize index) := by
  rw [chunkCalls, ← List.map_take, List.take_range, Nat.min_eq_left within]

/-- The offset and the length of a call. -/
def ChunkCall.span (call : ChunkCall) : Nat × Nat :=
  (call.offset.toNat, call.bufferLength.toNat)

/-- The cast of the length to `USHORT` loses nothing. -/
theorem bufferLength_chunkCall (bufferSize : UInt32) (index : Nat) :
    (chunkCall (countersAfter bufferSize index)).bufferLength.toNat =
      (countersAfter bufferSize index).bytesToWrite.toNat := by
  have length := (countersAfter_at bufferSize index).length_eq
  simp only [chunkCall, UInt32.toNat_toUInt16]
  omega

theorem span_chunkCall (bufferSize : UInt32) (index : Nat) :
    (chunkCall (countersAfter bufferSize index)).span =
      (min bufferSize.toNat (65535 * index),
        min (bufferSize.toNat - 65535 * index) 65535) := by
  have atRound := countersAfter_at bufferSize index
  rw [ChunkCall.span, bufferLength_chunkCall, atRound.length_eq,
    ← atRound.offset_eq]
  rfl

/-- The first calls tile the buffer up to the offset of the next one. -/
theorem tiles_firstCalls (bufferSize : UInt32) (count : Nat) :
    Tiles (min bufferSize.toNat (65535 * count)) 0
      ((List.range count).map fun index =>
        (chunkCall (countersAfter bufferSize index)).span) := by
  induction count with
  | zero => simp [Tiles]
  | succ count ih =>
      have longer := tiles_concat ih
        (min (bufferSize.toNat - 65535 * count) 65535)
      rw [List.range_succ, List.map_append, List.map_singleton, span_chunkCall]
      have stop : min bufferSize.toNat (65535 * (count + 1)) =
          min bufferSize.toNat (65535 * count) +
            min (bufferSize.toNat - 65535 * count) 65535 := by
        omega
      rw [stop]
      exact longer

theorem tiles_chunkCalls (bufferSize : UInt32) :
    Tiles bufferSize.toNat 0 ((chunkCalls bufferSize).map ChunkCall.span) := by
  have tiled := tiles_firstCalls bufferSize (chunkCount bufferSize.toNat)
  have whole : min bufferSize.toNat (65535 * chunkCount bufferSize.toNat) =
      bufferSize.toNat := by
    unfold chunkCount
    omega
  rw [whole] at tiled
  rw [chunkCalls, List.map_map]
  exact tiled

/-- The chunks put together are the buffer. -/
theorem flatten_chunkBytes {buffer : List UInt8}
    (small : buffer.length < 2 ^ 32) :
    ((chunkCalls buffer.length.toUInt32).map (chunkBytes buffer)).flatten =
      buffer := by
  have size : buffer.length.toUInt32.toNat = buffer.length :=
    UInt32.toNat_ofNat_of_lt' small
  have whole := (tiles_chunkCalls buffer.length.toUInt32).flatten_slices buffer
  rw [List.map_map, size, Nat.sub_zero, slice_whole] at whole
  exact whole

/-- The loop before the round of an index. -/
def stateAt (bufferSize : UInt32) (rounds : Nat) : LoopState :=
  ⟨countersAfter bufferSize rounds,
    (List.range rounds).map fun index =>
      chunkCall (countersAfter bufferSize index)⟩

@[simp] theorem length_delivered_stateAt (bufferSize : UInt32) (rounds : Nat) :
    (stateAt bufferSize rounds).delivered.length = rounds := by
  simp [stateAt]

theorem round_stateAt {bufferSize : UInt32} {succeeded : Nat → Bool}
    {rounds : Nat} (success : succeeded rounds = true) :
    round bufferSize succeeded (stateAt bufferSize rounds) =
      .ok (stateAt bufferSize (rounds + 1)) := by
  rw [round, length_delivered_stateAt, if_pos success]
  simp only [stateAt]
  rw [countersAfter_succ, List.range_succ, List.map_append, List.map_singleton]

theorem round_stateAt_failed {bufferSize : UInt32} {succeeded : Nat → Bool}
    {rounds : Nat} (failure : succeeded rounds = false) :
    round bufferSize succeeded (stateAt bufferSize rounds) =
      .error ⟨"failed to write", (stateAt bufferSize rounds).delivered⟩ := by
  rw [round, length_delivered_stateAt, if_neg (by simp [failure])]

/-- How the loop ends: all calls succeeded and were made, or the first that
failed ended it. -/
def Ended (bufferSize : UInt32) (succeeded : Nat → Bool) :
    Except Failed LoopState → Prop
  | .ok state =>
      (∀ index < chunkCount bufferSize.toNat, succeeded index = true) ∧
        state = stateAt bufferSize (chunkCount bufferSize.toNat)
  | .error failed =>
      ∃ count < chunkCount bufferSize.toNat,
        (∀ index < count, succeeded index = true) ∧
        succeeded count = false ∧
        failed = ⟨"failed to write", (stateAt bufferSize count).delivered⟩

/-- The invariant of the loop: some calls were made, all of them succeeded, and
there is another one to make. -/
def Underway (bufferSize : UInt32) (succeeded : Nat → Bool)
    (state : LoopState) : Prop :=
  ∃ rounds < chunkCount bufferSize.toNat,
    (∀ index < rounds, succeeded index = true) ∧
    state = stateAt bufferSize rounds

theorem round_underway {bufferSize : UInt32} {succeeded : Nat → Bool}
    {state : LoopState} (underway : Underway bufferSize succeeded state) :
    Round (round bufferSize succeeded) (fun state => state.counters.hasMoreData)
      (Underway bufferSize succeeded)
      (fun state => chunkCount bufferSize.toNat - 1 - state.delivered.length)
      (Ended bufferSize succeeded) state := by
  obtain ⟨rounds, within, earlier, rfl⟩ := underway
  cases now : succeeded rounds with
  | false =>
      exact .fails _ (round_stateAt_failed now)
        ⟨rounds, within, earlier, now, rfl⟩
  | true =>
      have upTo : ∀ index < rounds + 1, succeeded index = true := by
        intro index below
        by_cases last : index = rounds
        · rw [last]
          exact now
        · exact earlier index (by omega)
      have more := goesOn_iff bufferSize rounds
      by_cases further : rounds + 1 < chunkCount bufferSize.toNat
      · refine .continues _ (round_stateAt now) (more.mpr further)
          ⟨rounds + 1, further, upTo, rfl⟩ ?_
        simp only [length_delivered_stateAt]
        omega
      · have all : rounds + 1 = chunkCount bufferSize.toNat := by omega
        refine .leaves _ (round_stateAt now) ?_ ⟨all ▸ upTo, by rw [all]⟩
        rw [← Bool.not_eq_true]
        exact fun goesOn => further (more.mp goesOn)

/-- The loop terminates, after all calls or with the first that fails. -/
theorem writeChunks_ended (bufferSize : UInt32) (succeeded : Nat → Bool)
    {fuel : Nat} (enough : chunkCount bufferSize.toNat ≤ fuel) :
    ∃ final, writeChunks bufferSize succeeded fuel = some final ∧
      Ended bufferSize succeeded final := by
  have positive := chunkCount_pos bufferSize.toNat
  have starts : Underway bufferSize succeeded
      ⟨firstCounters bufferSize, []⟩ :=
    ⟨0, positive, fun _ below => absurd below (by omega), rfl⟩
  refine doWhile_total (fun _ underway => round_underway underway) starts ?_
  simp only [List.length_nil]
  omega

theorem writeChunks_ok {bufferSize : UInt32} {succeeded : Nat → Bool}
    {fuel : Nat} (enough : chunkCount bufferSize.toNat ≤ fuel)
    (all : ∀ index < chunkCount bufferSize.toNat, succeeded index = true) :
    writeChunks bufferSize succeeded fuel =
      some (.ok (stateAt bufferSize (chunkCount bufferSize.toNat))) := by
  obtain ⟨final, run, ended⟩ := writeChunks_ended bufferSize succeeded enough
  cases final with
  | ok state => rw [run, ended.2]
  | error failed =>
      obtain ⟨count, within, -, failure, -⟩ := ended
      rw [all count within] at failure
      contradiction

theorem writeChunks_error {bufferSize : UInt32} {succeeded : Nat → Bool}
    {fuel count : Nat} (enough : chunkCount bufferSize.toNat ≤ fuel)
    (within : count < chunkCount bufferSize.toNat)
    (earlier : ∀ index < count, succeeded index = true)
    (failure : succeeded count = false) :
    writeChunks bufferSize succeeded fuel =
      some (.error
        ⟨"failed to write", (chunkCalls bufferSize).take count⟩) := by
  obtain ⟨final, run, ended⟩ := writeChunks_ended bufferSize succeeded enough
  cases final with
  | ok state =>
      rw [ended.1 count within] at failure
      contradiction
  | error failed =>
      obtain ⟨other, -, otherEarlier, otherFailure, rfl⟩ := ended
      have same : other = count := by
        rcases Nat.lt_trichotomy other count with before | same | after
        · rw [earlier other before] at otherFailure
          contradiction
        · exact same
        · rw [otherEarlier count after] at failure
          contradiction
      rw [run, same, take_chunkCalls (Nat.le_of_lt within)]
      rfl

/-- Once a body is selected, a call sets the headers and does what the loop
does. -/
theorem write_selected {pointerIsNull : Bool} {args : List JsValue}
    {buffer : List UInt8}
    (selected : selectBuffer pointerIsNull (argument args 0) = .ok buffer)
    (succeeded : Nat → Bool) (fuel : Nat) :
    write true pointerIsNull succeeded fuel args =
      (writeChunks buffer.length.toUInt32 succeeded fuel).map fun ended =>
        match ended with
        | .ok state =>
            (.returns .undefined,
              ⟨setHeaders args, state.delivered.map (chunkBytes buffer)⟩)
        | .error failed =>
            (.throws failed.message,
              ⟨setHeaders args, failed.delivered.map (chunkBytes buffer)⟩) := by
  have given : ¬ args.length < 1 := by
    intro none
    have empty : args = [] := List.eq_nil_of_length_eq_zero (by omega)
    rw [empty] at selected
    cases pointerIsNull with
    | false => cases selected
    | true => cases selected
  rw [write, if_neg (by simp), if_neg given, selected]
  dsimp only
  cases writeChunks buffer.length.toUInt32 succeeded fuel with
  | none => rfl
  | some ended =>
      cases ended with
      | ok state => rfl
      | error failed => rfl

/-- A call whose chunks all succeed hands the whole buffer to IIS. -/
theorem write_returns {pointerIsNull : Bool} {args : List JsValue}
    {buffer : List UInt8}
    (selected : selectBuffer pointerIsNull (argument args 0) = .ok buffer)
    {succeeded : Nat → Bool} {fuel : Nat}
    (enough : chunkCount buffer.length.toUInt32.toNat ≤ fuel)
    (all : ∀ index < chunkCount buffer.length.toUInt32.toNat,
      succeeded index = true) :
    write true pointerIsNull succeeded fuel args =
      some (.returns .undefined, ⟨setHeaders args,
        (chunkCalls buffer.length.toUInt32).map (chunkBytes buffer)⟩) := by
  rw [write_selected selected, writeChunks_ok enough all]
  rfl

/-- The calls cover a body of some length: they are consecutive from offset
zero to its end, and there are as many as chunks of 65535 bytes need. -/
structure Lossless (length : Nat) (calls : List ChunkCall) : Prop where
  tiles : Tiles length 0 (calls.map ChunkCall.span)
  count : calls.length = max 1 ((length + 65534) / 65535)

/-- The chunking of `response.write` is lossless.  For every buffer of less
than `2 ^ 32` bytes that the arguments select, the variables stay in range in
every round and the cast of the length changes nothing.  If all calls succeed
the loop ends, and its calls cover the buffer once and in order.  If a call
fails, the ones before it have been delivered and the script gets an
exception. -/
theorem write_lossless {pointerIsNull : Bool} {args : List JsValue}
    {buffer : List UInt8}
    (selected : selectBuffer pointerIsNull (argument args 0) = .ok buffer)
    (small : buffer.length < 2 ^ 32) (succeeded : Nat → Bool) (fuel : Nat)
    (enough : chunkCount buffer.length ≤ fuel) :
    let size := buffer.length.toUInt32
    Lossless buffer.length (chunkCalls size) ∧
    (∀ rounds, (countersAfter size rounds).InRange size ∧
      (countersAfter size rounds).bytesToWrite.toNat ≤ 65535 ∧
      (chunkCall (countersAfter size rounds)).bufferLength.toNat =
        (countersAfter size rounds).bytesToWrite.toNat) ∧
    ((∀ index < chunkCount buffer.length, succeeded index = true) →
      writeChunks size succeeded fuel =
        some (.ok ⟨countersAfter size (chunkCount buffer.length),
          chunkCalls size⟩) ∧
      write true pointerIsNull succeeded fuel args =
        some (.returns .undefined,
          ⟨setHeaders args, (chunkCalls size).map (chunkBytes buffer)⟩) ∧
      ((chunkCalls size).map (chunkBytes buffer)).flatten = buffer) ∧
    ∀ count < chunkCount buffer.length,
      (∀ index < count, succeeded index = true) →
      succeeded count = false →
      writeChunks size succeeded fuel =
        some (.error ⟨"failed to write", (chunkCalls size).take count⟩) ∧
      write true pointerIsNull succeeded fuel args =
        some (.throws "failed to write",
          ⟨setHeaders args,
            ((chunkCalls size).take count).map (chunkBytes buffer)⟩) := by
  intro size
  have sizeNat : size.toNat = buffer.length := UInt32.toNat_ofNat_of_lt' small
  rw [← sizeNat] at enough
  refine ⟨⟨?_, ?_⟩, ?_, ?_, ?_⟩
  · rw [← sizeNat]
    exact tiles_chunkCalls size
  · rw [length_chunkCalls, sizeNat]
    rfl
  · intro rounds
    have atRound := countersAfter_at size rounds
    have length := atRound.length_eq
    exact ⟨atRound.inRange, by omega, bufferLength_chunkCall size rounds⟩
  · intro all
    rw [← sizeNat] at all ⊢
    exact ⟨writeChunks_ok enough all, write_returns selected enough all,
      flatten_chunkBytes small⟩
  · intro count within earlier failure
    rw [← sizeNat] at within
    have run := writeChunks_error enough within earlier failure
    refine ⟨run, ?_⟩
    rw [write_selected selected, run]
    rfl

/-- An array of 65536 bytes goes out in two chunks.  If IIS refuses the second
one, the first has been delivered. -/
theorem write_lossless_65536 :
    let buffer := List.replicate 65536 0
    let body := JsValue.uint8Array
      ⟨buffer, 0, 65536, by rw [List.length_replicate]⟩
    ((chunkCalls buffer.length.toUInt32).map (chunkBytes buffer)).flatten =
        buffer ∧
      write true true (fun index => index == 0) 2 [body] =
        some (.throws "failed to write",
          ⟨setHeaders [body],
            ((chunkCalls buffer.length.toUInt32).take 1).map
              (chunkBytes buffer)⟩) := by
  intro buffer body
  have small : buffer.length < 2 ^ 32 := by
    rw [List.length_replicate]
    decide
  have chunks : chunkCount buffer.length = 2 := by
    rw [List.length_replicate]
    decide
  have accepted := @write_lossless true [body] buffer rfl small (fun _ => true) 2
    (Nat.le_of_eq chunks)
  have refused := @write_lossless true [body] buffer rfl small
    (fun index => index == 0) 2 (Nat.le_of_eq chunks)
  constructor
  · exact (accepted.2.2.1 fun _ _ => rfl).2.2
  · refine (refused.2.2.2 1 (chunks ▸ Nat.lt_succ_self 1) ?_ rfl).2
    intro index first
    rw [Nat.lt_one_iff.mp first]
    rfl

/-- The flag is true on every call but the last, which is to say as long as
bytes of the body remain after the chunk that is passed. -/
structure FlagsRight (length : Nat) (calls : List ChunkCall) : Prop where
  position : ∀ index (within : index < calls.length),
    (calls.get ⟨index, within⟩).moreData = true ↔ index + 1 < calls.length
  remains : ∀ call ∈ calls,
    call.moreData = true ↔ call.span.1 + call.span.2 < length

theorem get_chunkCalls {bufferSize : UInt32} {index : Nat}
    (within : index < (chunkCalls bufferSize).length) :
    (chunkCalls bufferSize).get ⟨index, within⟩ =
      chunkCall (countersAfter bufferSize index) := by
  simp [chunkCalls]

/-- A body that fits into one chunk is sent with the flag off. -/
theorem flagsRight_of_le {bufferSize : UInt32}
    (fits : bufferSize.toNat ≤ 65535) :
    FlagsRight bufferSize.toNat (chunkCalls bufferSize) := by
  have one : chunkCount bufferSize.toNat = 1 := by
    unfold chunkCount
    omega
  have flag : (chunkCall (countersAfter bufferSize 0)).moreData = false := by
    have first := hasMoreData_first bufferSize
    rw [decide_eq_false (by omega)] at first
    exact first
  have length : (chunkCalls bufferSize).length = 1 := by
    rw [length_chunkCalls, one]
  refine ⟨?_, ?_⟩
  · intro index within
    have zero : index = 0 := by omega
    subst zero
    rw [get_chunkCalls within, flag, length]
    simp
  · intro call member
    have only : call = chunkCall (countersAfter bufferSize 0) := by
      rw [chunkCalls, one] at member
      simpa using member
    rw [only, flag, span_chunkCall]
    simp only [Bool.false_eq_true, false_iff]
    omega

/-- The last chunk of a longer body is sent with the flag on. -/
theorem moreData_last {bufferSize : UInt32}
    (longer : 65535 < bufferSize.toNat) :
    (chunkCall (countersAfter bufferSize
      (chunkCount bufferSize.toNat - 1))).moreData = true := by
  obtain ⟨rounds, atLast⟩ : ∃ rounds,
      chunkCount bufferSize.toNat - 1 = rounds + 1 := by
    refine ⟨chunkCount bufferSize.toNat - 2, ?_⟩
    unfold chunkCount
    omega
  have begun : 65535 * (rounds + 1) < bufferSize.toNat := by
    rw [← atLast, chunkCount]
    omega
  have flag := hasMoreData_later bufferSize rounds
  rw [decide_eq_true begun] at flag
  rw [atLast]
  exact flag

theorem flagsRight_iff (bufferSize : UInt32) :
    FlagsRight bufferSize.toNat (chunkCalls bufferSize) ↔
      bufferSize.toNat ≤ 65535 := by
  constructor
  · intro right
    by_contra longer
    have positive := chunkCount_pos bufferSize.toNat
    have length := length_chunkCalls bufferSize
    have within : chunkCount bufferSize.toNat - 1 <
        (chunkCalls bufferSize).length := by
      omega
    have flag := moreData_last (Nat.lt_of_not_le longer)
    rw [← get_chunkCalls within, right.position] at flag
    omega
  · exact flagsRight_of_le

/-- The flag is right in a call of `response.write` exactly if one chunk holds
the body.  Every longer body is sent with the flag on in the last chunk, since
the formula inside the loop leaves out the chunk that is about to be
written. -/
theorem write_flagsRight_iff {pointerIsNull : Bool} {args : List JsValue}
    {buffer : List UInt8}
    (selected : selectBuffer pointerIsNull (argument args 0) = .ok buffer)
    (small : buffer.length < 2 ^ 32) {succeeded : Nat → Bool} {fuel : Nat}
    (enough : chunkCount buffer.length ≤ fuel)
    (all : ∀ index < chunkCount buffer.length, succeeded index = true) :
    ∃ final,
      writeChunks buffer.length.toUInt32 succeeded fuel = some (.ok final) ∧
      write true pointerIsNull succeeded fuel args =
        some (.returns .undefined,
          ⟨setHeaders args, final.delivered.map (chunkBytes buffer)⟩) ∧
      (FlagsRight buffer.length final.delivered ↔ buffer.length ≤ 65535) := by
  have size : buffer.length.toUInt32.toNat = buffer.length :=
    UInt32.toNat_ofNat_of_lt' small
  have right := flagsRight_iff buffer.length.toUInt32
  rw [size] at right
  rw [← size] at enough all
  exact ⟨_, writeChunks_ok enough all, write_returns selected enough all, right⟩

/-- The flag of the only chunk of three bytes is off. -/
theorem write_flagsRight_three :
    ∃ final, writeChunks 3 (fun _ => true) 1 = some (.ok final) ∧
      FlagsRight 3 final.delivered := by
  obtain ⟨final, run, -, right⟩ :=
    @write_flagsRight_iff true [.string [97, 98, 99]] [97, 98, 99] rfl
      (by decide) (fun _ => true) 1 (by decide) (fun _ _ => rfl)
  exact ⟨final, run, right.mpr (by decide)⟩

/-- A body of 65536 bytes goes out in two chunks, and the flag is on in the
second one as well. -/
theorem write_flags_wrong_65536 :
    let body := JsValue.uint8Array
      ⟨List.replicate 65536 0, 0, 65536, by rw [List.length_replicate]⟩
    ∃ buffer final, selectBuffer true (argument [body] 0) = .ok buffer ∧
      writeChunks buffer.length.toUInt32 (fun _ => true) 2 = some (.ok final) ∧
      final.delivered = [⟨0, 65535, true⟩, ⟨65535, 1, true⟩] ∧
      ¬ FlagsRight buffer.length final.delivered := by
  intro body
  refine ⟨List.replicate 65536 0,
    ⟨⟨65536, 0, false⟩, [⟨0, 65535, true⟩, ⟨65535, 1, true⟩]⟩, rfl, ?_, rfl, ?_⟩
  · rw [List.length_replicate]
    decide
  · intro right
    have last := (right.position 1 (by decide)).mp (by decide)
    exact absurd last (by decide)

end ResponseWrite

end IISModuleJS
