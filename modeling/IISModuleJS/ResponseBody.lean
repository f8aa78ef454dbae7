import IISModuleJS.ByteRanges
import IISModuleJS.ViewArguments

/-!
# `response.read` and the chunks of a response

IIS keeps the body of a response as a list of chunks, of which only some are in
memory.  `response.read` adds up the lengths of these, allocates a buffer of
that size, and copies them into it one after another.  The buffer is that of an
`ArrayBuffer` or of an external one-byte string.

The copies always fill the buffer exactly.  V8 then limits what can be
returned: strings are shorter than arrays, and for these the function checks
that it got one.
-/

namespace IISModuleJS

namespace ResponseBody

open JsValue TextEncoding ByteRanges FileContents ViewArguments

/-- `HTTP_DATA_CHUNK`; `FromMemory.BufferLength` is an unsigned 32-bit
number. -/
inductive DataChunk
  | fromMemory (buffer : List UInt8) (fits : buffer.length < 2 ^ 32)
  | fromFileHandle
  | fromFragmentCache
  | fromFragmentCacheEx
  deriving DecidableEq

/-- `EntityChunkCount` and `pEntityChunks` of a raw response; the count is an
unsigned 16-bit number. -/
structure RawResponse where
  entityChunks : List DataChunk
  fits : entityChunks.length < 2 ^ 16

/-- The first pass: the lengths of the chunks in memory. -/
def totalSize (chunks : List DataChunk) (size : UInt64) : UInt64 :=
  match chunks with
  | [] => size
  | .fromMemory buffer _ :: rest =>
      totalSize rest (size + buffer.length.toUInt64)
  | _ :: rest => totalSize rest size

/-- The second pass, which is the same for both forms: copy the chunks in
memory that are not empty, each behind the one before it. -/
def copyChunks (chunks : List DataChunk) (offset : UInt64)
    (data : List UInt8) : Option (List UInt8) :=
  match chunks with
  | [] => some data
  | .fromMemory buffer _ :: rest =>
      if buffer.length = 0 then copyChunks rest offset data
      else
        match overwrite data offset.toNat buffer with
        | none => none
        | some data =>
            copyChunks rest (offset + buffer.length.toUInt64) data
  | _ :: rest => copyChunks rest offset data

/-- `from_v8<bool>(isolate, args[0], false)`. -/
def asArray (args : List JsValue) : Bool :=
  argument args 0 == .boolean true

/-- The array form.  A buffer is too long for `Uint8Array::New` from `2 ^ 31`
bytes on. -/
def arrayOf (data : List UInt8) : CallEnding :=
  if data.length ≤ typedArrayMaxLength then
    .returns (.uint8Array (wholeBuffer data))
  else .aborts

/-- The string form.  `NewExternalOneByte` gives an empty handle for data that
is longer than any string. -/
def stringOf (data : List UInt8) : CallEnding :=
  if data.length ≤ stringMaxLength then .returns (.string (latin1 data))
  else .throws "failed to obtain string"

/-- What a new buffer of some size holds. -/
abbrev Fresh :=
  (size : Nat) → { data : List UInt8 // data.length = size }

/-- `response.read`. -/
def read (attached : Bool) (fresh : Fresh) (raw : RawResponse)
    (args : List JsValue) : CallEnding :=
  if !attached then .throws "invalid p_http_response for read"
  else if raw.entityChunks.length.toUInt16 = 0 then .returns .null
  else
    let size := totalSize raw.entityChunks 0
    if size = 0 then .returns .null
    else
      match copyChunks raw.entityChunks 0 (fresh size.toNat).val with
      | none => .undefinedBehavior
      | some data => if asArray args then arrayOf data else stringOf data

/-- The bytes of a response that are in memory, in order. -/
def memoryBytes : List DataChunk → List UInt8
  | [] => []
  | .fromMemory buffer _ :: rest => buffer ++ memoryBytes rest
  | _ :: rest => memoryBytes rest

theorem length_memoryBytes_lt (chunks : List DataChunk) :
    (memoryBytes chunks).length ≤ chunks.length * 2 ^ 32 := by
  induction chunks with
  | nil => simp [memoryBytes]
  | cons chunk rest ih =>
      rw [List.length_cons, Nat.succ_mul]
      cases chunk with
      | fromMemory buffer fits =>
          rw [memoryBytes, List.length_append, Nat.add_comm]
          exact Nat.add_le_add ih (Nat.le_of_lt fits)
      | _ => exact Nat.le_trans ih (Nat.le_add_right _ _)

theorem toNat_add_length {size : UInt64} {length : Nat}
    (small : size.toNat + length < 2 ^ 64) :
    (size + length.toUInt64).toNat = size.toNat + length := by
  have range : UInt64.size = 2 ^ 64 := by decide
  have lengthNat : length.toUInt64.toNat = length :=
    UInt64.toNat_ofNat_of_lt' (by omega)
  rw [UInt64.toNat_add, lengthNat]
  omega

/-- The first pass counts the bytes in memory, if they can be counted. -/
theorem toNat_totalSize {chunks : List DataChunk} {size : UInt64}
    (small : size.toNat + (memoryBytes chunks).length < 2 ^ 64) :
    (totalSize chunks size).toNat =
      size.toNat + (memoryBytes chunks).length := by
  induction chunks generalizing size with
  | nil => rfl
  | cons chunk rest ih =>
      cases chunk with
      | fromMemory buffer fits =>
          rw [memoryBytes, List.length_append] at small ⊢
          have next := @toNat_add_length size buffer.length (by omega)
          rw [totalSize, ih (by omega), next]
          omega
      | _ => exact ih small

/-- The second pass fills the buffer from the offset on with the bytes in
memory; no copy leaves it. -/
theorem copyChunks_eq {chunks : List DataChunk} {offset : UInt64}
    {filled free : List UInt8} (reached : offset.toNat = filled.length)
    (fits : (memoryBytes chunks).length ≤ free.length)
    (small : filled.length + (memoryBytes chunks).length < 2 ^ 64) :
    copyChunks chunks offset (filled ++ free) =
      some (filled ++ memoryBytes chunks ++
        free.drop (memoryBytes chunks).length) := by
  induction chunks generalizing offset filled free with
  | nil => simp [copyChunks, memoryBytes]
  | cons chunk rest ih =>
      cases chunk with
      | fromMemory buffer bound =>
          rw [memoryBytes, List.length_append] at fits small
          by_cases nothing : buffer.length = 0
          · have empty : buffer = [] := List.length_eq_zero_iff.mp nothing
            subst empty
            exact ih reached (by simpa using fits) (by simpa using small)
          · have next := @toNat_add_length offset buffer.length (by omega)
            rw [copyChunks, if_neg nothing, reached,
              overwrite_filled (by omega)]
            dsimp only
            rw [ih (by rw [next, reached, List.length_append])
              (by rw [List.length_drop]; omega)
              (by rw [List.length_append]; omega)]
            simp [memoryBytes, List.drop_drop]
      | _ => exact ih reached fits small

theorem RawResponse.length_lt (raw : RawResponse) :
    (memoryBytes raw.entityChunks).length < 2 ^ 64 := by
  have bytes := length_memoryBytes_lt raw.entityChunks
  have count := raw.fits
  omega

theorem RawResponse.toNat_totalSize (raw : RawResponse) :
    (totalSize raw.entityChunks 0).toNat =
      (memoryBytes raw.entityChunks).length := by
  have counted := @ResponseBody.toNat_totalSize raw.entityChunks 0 (by
    simpa using raw.length_lt)
  simpa using counted

/-- Both forms fill a buffer of the computed size with the bytes in memory. -/
theorem RawResponse.copyChunks_eq (raw : RawResponse) {data : List UInt8}
    (sized : data.length = (totalSize raw.entityChunks 0).toNat) :
    copyChunks raw.entityChunks 0 data =
      some (memoryBytes raw.entityChunks) := by
  rw [raw.toNat_totalSize] at sized
  have copied := @ResponseBody.copyChunks_eq raw.entityChunks 0 [] data rfl
    (by omega) (by simpa using raw.length_lt)
  rw [List.nil_append, List.nil_append, ← sized, List.drop_length,
    List.append_nil] at copied
  exact copied

theorem RawResponse.count_eq_zero_iff (raw : RawResponse) :
    raw.entityChunks.length.toUInt16 = 0 ↔ raw.entityChunks = [] := by
  have size : raw.entityChunks.length.toUInt16.toNat =
      raw.entityChunks.length :=
    UInt16.toNat_ofNat_of_lt' raw.fits
  rw [← UInt16.toNat_inj, size]
  exact List.length_eq_zero_iff

/-- A call returns null if nothing is in memory, and otherwise one of the two
forms of what is. -/
theorem read_eq (fresh : Fresh) (raw : RawResponse) (args : List JsValue) :
    read true fresh raw args =
      if memoryBytes raw.entityChunks = [] then .returns .null
      else if asArray args then arrayOf (memoryBytes raw.entityChunks)
      else stringOf (memoryBytes raw.entityChunks) := by
  rw [read, if_neg (by simp)]
  by_cases chunkless : raw.entityChunks = []
  · rw [if_pos (raw.count_eq_zero_iff.mpr chunkless), chunkless]
    rfl
  · rw [if_neg fun zero => chunkless (raw.count_eq_zero_iff.mp zero)]
    have size_eq_zero : totalSize raw.entityChunks 0 = 0 ↔
        memoryBytes raw.entityChunks = [] := by
      rw [← UInt64.toNat_inj, raw.toNat_totalSize]
      exact List.length_eq_zero_iff
    by_cases nothing : memoryBytes raw.entityChunks = []
    · rw [if_pos nothing]
      exact if_pos (size_eq_zero.mpr nothing)
    · have size := fun zero => nothing (size_eq_zero.mp zero)
      dsimp only
      rw [if_neg nothing, if_neg size, raw.copyChunks_eq (fresh _).property]

/-- The array form returns an array of the bytes in memory. -/
theorem read_array {fresh : Fresh} {raw : RawResponse} {args : List JsValue}
    (array : asArray args = true)
    (present : memoryBytes raw.entityChunks ≠ [])
    (fits : (memoryBytes raw.entityChunks).length ≤ typedArrayMaxLength) :
    read true fresh raw args =
      .returns (.uint8Array (wholeBuffer (memoryBytes raw.entityChunks))) := by
  rw [read_eq, if_neg present, if_pos array, arrayOf, if_pos fits]

/-- The string form returns a string of the same bytes. -/
theorem read_string {fresh : Fresh} {raw : RawResponse} {args : List JsValue}
    (string : asArray args = false)
    (present : memoryBytes raw.entityChunks ≠ [])
    (fits : (memoryBytes raw.entityChunks).length ≤ stringMaxLength) :
    read true fresh raw args =
      .returns (.string (latin1 (memoryBytes raw.entityChunks))) := by
  rw [read_eq, if_neg present, string, if_neg Bool.false_ne_true, stringOf,
    if_pos fits]

/-- It throws if there is no string of that length. -/
theorem read_string_throws {fresh : Fresh} {raw : RawResponse}
    {args : List JsValue} (string : asArray args = false)
    (long : stringMaxLength < (memoryBytes raw.entityChunks).length) :
    read true fresh raw args = .throws "failed to obtain string" := by
  have present : memoryBytes raw.entityChunks ≠ [] :=
    List.length_pos_iff.mp (by omega)
  rw [read_eq, if_neg present, string, if_neg Bool.false_ne_true, stringOf,
    if_neg (Nat.not_le_of_lt long)]

/-- Null is returned exactly if nothing is in memory. -/
theorem read_eq_null_iff (fresh : Fresh) (raw : RawResponse)
    (args : List JsValue) :
    read true fresh raw args = .returns .null ↔
      memoryBytes raw.entityChunks = [] := by
  rw [read_eq]
  by_cases nothing : memoryBytes raw.entityChunks = []
  · rw [if_pos nothing]
    exact iff_of_true rfl nothing
  · rw [if_neg nothing]
    unfold arrayOf stringOf
    split_ifs <;> simp [nothing]

/-- `response.read` and the in-memory body.  The total does not overflow, and
in both forms all copies stay inside a buffer of that size and fill it exactly
with the chunks in memory, in order.  Both forms return null if nothing is in
memory.  Otherwise the array form returns an array of these bytes, as long as
V8 has arrays of that length, and the string form a string of them, as long as
V8 has strings of that length; for longer ones it throws. -/
theorem read_forms_agree (fresh : Fresh) (raw : RawResponse)
    (args : List JsValue) :
    let bytes := memoryBytes raw.entityChunks
    (totalSize raw.entityChunks 0).toNat = bytes.length ∧
    (∀ data : List UInt8,
      data.length = (totalSize raw.entityChunks 0).toNat →
        copyChunks raw.entityChunks 0 data = some bytes) ∧
    (read true fresh raw args = .returns .null ↔ bytes = []) ∧
    (bytes ≠ [] → asArray args = true → bytes.length ≤ typedArrayMaxLength →
      ∃ view, read true fresh raw args = .returns (.uint8Array view) ∧
        viewBytes view = bytes) ∧
    (bytes ≠ [] → asArray args = false → bytes.length ≤ stringMaxLength →
      read true fresh raw args = .returns (.string (latin1 bytes))) ∧
    (asArray args = false → stringMaxLength < bytes.length →
      read true fresh raw args = .throws "failed to obtain string") := by
  intro bytes
  refine ⟨raw.toNat_totalSize, fun data sized => raw.copyChunks_eq sized,
    read_eq_null_iff fresh raw args, ?_, ?_, ?_⟩
  · intro present array fits
    exact ⟨wholeBuffer bytes, read_array array present fits,
      viewBytes_wholeBuffer bytes⟩
  · intro present string fits
    exact read_string string present fits
  · intro string long
    exact read_string_throws string long

/-- A buffer that the allocator has cleared. -/
def cleared : Fresh :=
  fun size => ⟨List.replicate size 0, List.length_replicate⟩

/-- Two chunks in memory with a chunk of a file and an empty one between. -/
def mixedResponse : RawResponse :=
  ⟨[.fromMemory [1, 2] (by decide), .fromFileHandle,
    .fromMemory [] (by decide), .fromMemory [3] (by decide)], by decide⟩

theorem read_forms_agree_mixed :
    read true cleared mixedResponse [] = .returns (.string [1, 2, 3]) ∧
    ∃ view, read true cleared mixedResponse [.boolean true] =
      .returns (.uint8Array view) ∧ viewBytes view = [1, 2, 3] := by
  have length : (memoryBytes mixedResponse.entityChunks).length = 3 := rfl
  refine ⟨?_, ?_⟩
  · exact (read_forms_agree cleared mixedResponse []).2.2.2.2.1 (by decide) rfl
      (by unfold stringMaxLength; omega)
  · exact (read_forms_agree cleared mixedResponse [.boolean true]).2.2.2.1
      (by decide) rfl (by unfold typedArrayMaxLength; omega)

/-- For a body of one gibibyte the two forms differ: one returns an array and
the other throws. -/
theorem read_forms_differ_gibibyte :
    ∃ raw : RawResponse,
      (memoryBytes raw.entityChunks).length = 2 ^ 30 ∧
      (∃ view, read true cleared raw [.boolean true] =
        .returns (.uint8Array view)) ∧
      read true cleared raw [] = .throws "failed to obtain string" := by
  obtain ⟨body, length⟩ : ∃ body : List UInt8, body.length = 2 ^ 30 :=
    ⟨List.replicate (2 ^ 30) 97, List.length_replicate⟩
  have fits : body.length < 2 ^ 32 := by omega
  have one : [DataChunk.fromMemory body fits].length < 2 ^ 16 := by
    rw [List.length_singleton]
    omega
  obtain ⟨raw, chunks⟩ : ∃ raw : RawResponse,
      raw.entityChunks = [.fromMemory body fits] := ⟨⟨_, one⟩, rfl⟩
  have size : (memoryBytes raw.entityChunks).length = 2 ^ 30 := by
    rw [chunks, memoryBytes, memoryBytes, List.append_nil, length]
  refine ⟨raw, size, ⟨_, read_array rfl ?_ ?_⟩, read_string_throws rfl ?_⟩
  · exact List.length_pos_iff.mp (by omega)
  · unfold typedArrayMaxLength
    omega
  · unfold stringMaxLength
    omega

end ResponseBody

end IISModuleJS
