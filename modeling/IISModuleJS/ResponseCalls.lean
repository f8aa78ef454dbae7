import IISModuleJS.ResponseBody
import IISModuleJS.ResponseWrite

/-!
# Calls on one response

The script of a request writes, clears and reads the body of its response in any
order.  `response.write` hands IIS one chunk after the other and throws at the
first that IIS refuses; `response.read` looks at all chunks that IIS has by
then, and `response.clear` removes them.

Put together the three behave like functions on one sequence of bytes.  How the
chunks were cut is not seen, and a call that fails leaves a beginning of its
buffer behind.
-/

namespace IISModuleJS

namespace ResponseCalls

open JsValue TextEncoding ByteRanges ResponseBody ResponseWrite
open FileContents (stringMaxLength)

/-- A call with its arguments, and with what the code does not decide: the
memory of the pointer that `write` does not set, which chunks IIS accepts, and
what a new buffer holds. -/
inductive Call
  | clear
  | write (pointerIsNull : Bool) (answers : Nat → Bool) (args : List JsValue)
  | read (fresh : Fresh) (args : List JsValue)

/-- Whether `WriteEntityChunks` succeeds for a chunk of a call.  It needs a
place in `EntityChunkCount`. -/
def accepts (raw : RawResponse) (answers : Nat → Bool) (index : Nat) : Bool :=
  answers index && decide (raw.entityChunks.length + index + 1 < 2 ^ 16)

/-- The response with one more chunk in memory. -/
def insertChunk (raw : RawResponse) (bytes : List UInt8) :
    Option RawResponse :=
  if fits : bytes.length < 2 ^ 32 ∧ raw.entityChunks.length + 1 < 2 ^ 16 then
    some
      { entityChunks := raw.entityChunks ++ [.fromMemory bytes fits.1]
        fits := by
          rw [List.length_append]
          exact fits.2 }
  else none

/-- The response after `Clear`. -/
def emptyResponse : RawResponse where
  entityChunks := []
  fits := by decide

/-- One call on the response of a request in progress.  The chunks of `write`
that were accepted stay, also if it throws. -/
def perform (fuel : Nat) (raw : RawResponse) :
    Call → Option (CallEnding × RawResponse)
  | .clear => some (.returns .undefined, emptyResponse)
  | .write pointerIsNull answers args =>
      (write true pointerIsNull (accepts raw answers) fuel args).bind
        fun called =>
          (called.2.chunks.foldlM insertChunk raw).map fun next =>
            (called.1, next)
  | .read fresh args => some (read true fresh raw args, raw)

/-- Calls one after another, as long as the process goes on. -/
def runCalls (fuel : Nat) :
    RawResponse → List Call → Option (List CallEnding × RawResponse)
  | raw, [] => some ([], raw)
  | raw, call :: rest =>
      match perform fuel raw call with
      | none => none
      | some (ending, next) =>
          if ending.goesOn then
            (runCalls fuel next rest).map fun later =>
              (ending :: later.1, later.2)
          else some ([ending], next)

/-- The bytes in memory, and the number of chunks, which only counts towards the
limit of IIS. -/
structure Body where
  bytes : List UInt8
  chunks : Nat
  deriving DecidableEq

/-- The body that a response of IIS holds. -/
def bodyOf (raw : RawResponse) : Body where
  bytes := memoryBytes raw.entityChunks
  chunks := raw.entityChunks.length

/-- How many calls succeed before the first that does not. -/
def accepted (succeeded : Nat → Bool) : Nat → Nat
  | 0 => 0
  | count + 1 =>
      if accepted succeeded count = count ∧ succeeded count = true then
        count + 1
      else accepted succeeded count

/-- The value of the body for a script. -/
def valueOf (args : List JsValue) (bytes : List UInt8) : CallEnding :=
  if bytes = [] then .returns .null
  else if asArray args then arrayOf bytes
  else stringOf bytes

/-- How many chunks of a buffer IIS accepts. -/
def Body.taken (body : Body) (answers : Nat → Bool) (buffer : List UInt8) :
    Nat :=
  accepted
    (fun index => answers index && decide (body.chunks + index + 1 < 2 ^ 16))
    (chunkCount buffer.length)

/-- A call of `write` with a selected buffer appends it, or what 65535 bytes for
each accepted chunk take of it. -/
def Body.write (body : Body) (answers : Nat → Bool) (buffer : List UInt8) :
    CallEnding × Body :=
  let count := body.taken answers buffer
  (if count = chunkCount buffer.length then .returns .undefined
    else .throws "failed to write",
    { bytes := body.bytes ++ buffer.take (65535 * count)
      chunks := body.chunks + count })

def Body.perform (body : Body) : Call → CallEnding × Body
  | .clear => (.returns .undefined, ⟨[], 0⟩)
  | .write pointerIsNull answers args =>
      if args.length < 1 then (.throws "invalid signature for write", body)
      else
        match selectBuffer pointerIsNull (argument args 0) with
        | .error ending => (ending, body)
        | .ok buffer => body.write answers buffer
  | .read _ args => (valueOf args body.bytes, body)

def Body.runCalls : Body → List Call → List CallEnding × Body
  | body, [] => ([], body)
  | body, call :: rest =>
      let called := body.perform call
      if called.1.goesOn then
        let later := Body.runCalls called.2 rest
        (called.1 :: later.1, later.2)
      else ([called.1], called.2)

theorem accepted_le (succeeded : Nat → Bool) (count : Nat) :
    accepted succeeded count ≤ count := by
  induction count with
  | zero => exact Nat.le_refl 0
  | succ count ih =>
      rw [accepted]
      split
      · exact Nat.le_refl _
      · exact Nat.le_succ_of_le ih

theorem succeeded_of_lt_accepted {succeeded : Nat → Bool} {count index : Nat}
    (below : index < accepted succeeded count) : succeeded index = true := by
  induction count with
  | zero => exact absurd below (Nat.not_lt_zero index)
  | succ count ih =>
      rw [accepted] at below
      split at below
      next all =>
        by_cases last : index = count
        · rw [last]
          exact all.2
        · apply ih
          omega
      next => exact ih below

theorem failed_at_accepted {succeeded : Nat → Bool} {count : Nat}
    (fewer : accepted succeeded count < count) :
    succeeded (accepted succeeded count) = false := by
  induction count with
  | zero => exact absurd fewer (Nat.not_lt_zero _)
  | succ count ih =>
      rw [accepted] at fewer ⊢
      split at fewer
      next => exact absurd fewer (Nat.lt_irrefl _)
      next notAll =>
        rw [if_neg notAll]
        have bound := accepted_le succeeded count
        by_cases before : accepted succeeded count = count
        · rw [before, ← Bool.not_eq_true]
          exact fun success => notAll ⟨before, success⟩
        · apply ih
          omega

theorem accepted_eq_of_all {succeeded : Nat → Bool} {count : Nat}
    (all : ∀ index < count, succeeded index = true) :
    accepted succeeded count = count := by
  by_contra different
  have bound := accepted_le succeeded count
  have fewer : accepted succeeded count < count := by omega
  have failed := failed_at_accepted fewer
  rw [all _ fewer] at failed
  cases failed

/-- The loop of `write` delivers the chunks that IIS accepts. -/
theorem writeChunks_eq {bufferSize : UInt32} {succeeded : Nat → Bool}
    {fuel : Nat} (enough : chunkCount bufferSize.toNat ≤ fuel) :
    writeChunks bufferSize succeeded fuel =
      some
        (if accepted succeeded (chunkCount bufferSize.toNat) =
            chunkCount bufferSize.toNat then
          .ok (stateAt bufferSize (chunkCount bufferSize.toNat))
        else
          .error ⟨"failed to write", (chunkCalls bufferSize).take
            (accepted succeeded (chunkCount bufferSize.toNat))⟩) := by
  split
  next all =>
    apply writeChunks_ok enough
    intro index below
    exact succeeded_of_lt_accepted (all.symm ▸ below)
  next notAll =>
    have bound := accepted_le succeeded (chunkCount bufferSize.toNat)
    have fewer : accepted succeeded (chunkCount bufferSize.toNat) <
        chunkCount bufferSize.toNat := by
      omega
    exact writeChunks_error enough fewer
      (fun _ below => succeeded_of_lt_accepted below)
      (failed_at_accepted fewer)

/-- The first chunks put together are the beginning of the buffer. -/
theorem flatten_firstChunks {buffer : List UInt8}
    (small : buffer.length < 2 ^ 32) {count : Nat}
    (within : count ≤ chunkCount buffer.length) :
    (((chunkCalls buffer.length.toUInt32).take count).map
      (chunkBytes buffer)).flatten = buffer.take (65535 * count) := by
  have size : buffer.length.toUInt32.toNat = buffer.length :=
    UInt32.toNat_ofNat_of_lt' small
  have tiled := tiles_firstCalls buffer.length.toUInt32 count
  have pieces := tiled.flatten_slices buffer
  rw [List.map_map, size, Nat.sub_zero] at pieces
  rw [take_chunkCalls (by rw [size]; exact within), List.map_map]
  calc
    _ = slice buffer 0 (min buffer.length (65535 * count)) := pieces
    _ = buffer.take (65535 * count) := by
      rw [slice, List.drop_zero, List.take_eq_take_iff]
      omega

theorem memoryBytes_append (first second : List DataChunk) :
    memoryBytes (first ++ second) =
      memoryBytes first ++ memoryBytes second := by
  induction first with
  | nil => rfl
  | cons chunk rest ih =>
      cases chunk with
      | fromMemory buffer fits =>
          rw [List.cons_append, memoryBytes, memoryBytes, ih,
            List.append_assoc]
      | _ => exact ih

/-- Chunks that IIS can count are all inserted. -/
theorem foldlM_insertChunk {chunks : List (List UInt8)}
    (small : ∀ chunk ∈ chunks, chunk.length < 2 ^ 32) {raw : RawResponse}
    (room : raw.entityChunks.length + chunks.length < 2 ^ 16) :
    ∃ next, chunks.foldlM insertChunk raw = some next ∧
      bodyOf next = ⟨memoryBytes raw.entityChunks ++ chunks.flatten,
        raw.entityChunks.length + chunks.length⟩ := by
  induction chunks generalizing raw with
  | nil => exact ⟨raw, rfl, by simp [bodyOf]⟩
  | cons chunk rest ih =>
      rw [List.length_cons] at room
      have fits : chunk.length < 2 ^ 32 ∧
          raw.entityChunks.length + 1 < 2 ^ 16 :=
        ⟨small chunk List.mem_cons_self, by omega⟩
      obtain ⟨inserted, inserts, entityChunks⟩ : ∃ inserted,
          insertChunk raw chunk = some inserted ∧
            inserted.entityChunks =
              raw.entityChunks ++ [.fromMemory chunk fits.1] :=
        ⟨_, dif_pos fits, rfl⟩
      have length : inserted.entityChunks.length =
          raw.entityChunks.length + 1 := by
        rw [entityChunks, List.length_append, List.length_singleton]
      obtain ⟨next, others, body⟩ := ih
        (fun other member => small other (List.mem_cons_of_mem _ member))
        (by omega : inserted.entityChunks.length + rest.length < 2 ^ 16)
      refine ⟨next, ?_, ?_⟩
      · rw [List.foldlM_cons, inserts]
        exact others
      · rw [body, length, entityChunks, memoryBytes_append]
        simp [memoryBytes]
        omega

theorem length_chunkBytes_lt (buffer : List UInt8) (call : ChunkCall) :
    (chunkBytes buffer call).length < 2 ^ 16 := by
  have bound := call.bufferLength.toNat_lt
  rw [chunkBytes, slice, List.length_take]
  omega

/-- The accepted chunks find their place. -/
theorem length_add_accepted_lt (raw : RawResponse) (answers : Nat → Bool)
    (count : Nat) :
    raw.entityChunks.length + accepted (accepts raw answers) count <
      2 ^ 16 := by
  by_cases none : accepted (accepts raw answers) count = 0
  · rw [none]
    exact raw.fits
  · have last : accepts raw answers
        (accepted (accepts raw answers) count - 1) = true :=
      @succeeded_of_lt_accepted _ count _ (by omega)
    rw [accepts, Bool.and_eq_true, decide_eq_true_eq] at last
    omega

/-- No buffer of a call is too long for the loop of `write`; no text of V8 is
that long. -/
def Call.Sized : Call → Prop
  | .write pointerIsNull _ args =>
      ∀ buffer, selectBuffer pointerIsNull (argument args 0) = .ok buffer →
        buffer.length < 2 ^ 32
  | _ => True

theorem chunkCount_le {length : Nat} (small : length < 2 ^ 32) :
    chunkCount length ≤ 65537 := by
  unfold chunkCount
  omega

/-- How a call of `write` ends and which chunks it has inserted. -/
theorem write_eq {fuel : Nat} (enough : 65537 ≤ fuel) {pointerIsNull : Bool}
    {succeeded : Nat → Bool} {args : List JsValue} {buffer : List UInt8}
    (selected : selectBuffer pointerIsNull (argument args 0) = .ok buffer)
    (small : buffer.length < 2 ^ 32) :
    write true pointerIsNull succeeded fuel args =
      some
        (if accepted succeeded (chunkCount buffer.length) =
            chunkCount buffer.length then .returns .undefined
          else .throws "failed to write",
          ⟨setHeaders args, ((chunkCalls buffer.length.toUInt32).take
            (accepted succeeded (chunkCount buffer.length))).map
              (chunkBytes buffer)⟩) := by
  have size : buffer.length.toUInt32.toNat = buffer.length :=
    UInt32.toNat_ofNat_of_lt' small
  have bound := chunkCount_le small
  rw [write_selected selected,
    writeChunks_eq (by rw [size]; exact Nat.le_trans bound enough), size]
  by_cases all : accepted succeeded (chunkCount buffer.length) =
      chunkCount buffer.length
  · have whole : (chunkCalls buffer.length.toUInt32).take
        (chunkCount buffer.length) = chunkCalls buffer.length.toUInt32 := by
      apply List.take_of_length_le
      rw [length_chunkCalls, size]
    rw [if_pos all, if_pos all, all, whole, chunkCalls, size]
    rfl
  · rw [if_neg all, if_neg all]
    rfl

/-- Every call on a response is the same call on its bytes. -/
theorem perform_eq {fuel : Nat} (enough : 65537 ≤ fuel) (raw : RawResponse)
    {call : Call} (sized : call.Sized) :
    ∃ next,
      perform fuel raw call = some (((bodyOf raw).perform call).1, next) ∧
        bodyOf next = ((bodyOf raw).perform call).2 := by
  cases call with
  | clear => exact ⟨emptyResponse, rfl, rfl⟩
  | read fresh args =>
      refine ⟨raw, ?_, rfl⟩
      rw [perform, read_eq]
      rfl
  | write pointerIsNull answers args =>
      by_cases missing : args.length < 1
      · refine ⟨raw, ?_, ?_⟩
        · rw [perform, ResponseWrite.write, if_neg (by simp), if_pos missing,
            Body.perform, if_pos missing]
          rfl
        · rw [Body.perform, if_pos missing]
      · rw [Body.perform, if_neg missing]
        cases selected : selectBuffer pointerIsNull (argument args 0) with
        | error ending =>
            refine ⟨raw, ?_, rfl⟩
            rw [perform, ResponseWrite.write, if_neg (by simp),
              if_neg missing, selected]
            rfl
        | ok buffer =>
            have small := sized buffer selected
            have within := accepted_le (accepts raw answers)
              (chunkCount buffer.length)
            have room := length_add_accepted_lt raw answers
              (chunkCount buffer.length)
            have size : buffer.length.toUInt32.toNat = buffer.length :=
              UInt32.toNat_ofNat_of_lt' small
            have count : (((chunkCalls buffer.length.toUInt32).take
                (accepted (accepts raw answers)
                  (chunkCount buffer.length))).map
                    (chunkBytes buffer)).length =
                accepted (accepts raw answers) (chunkCount buffer.length) := by
              rw [List.length_map, List.length_take, length_chunkCalls, size,
                Nat.min_eq_left within]
            obtain ⟨next, inserts, body⟩ := @foldlM_insertChunk
              (((chunkCalls buffer.length.toUInt32).take
                (accepted (accepts raw answers)
                  (chunkCount buffer.length))).map (chunkBytes buffer))
              (by
                intro chunk member
                obtain ⟨call, -, rfl⟩ := List.mem_map.mp member
                have bound := length_chunkBytes_lt buffer call
                omega)
              raw (by rw [count]; exact room)
            rw [count, flatten_firstChunks small within] at body
            refine ⟨next, ?_, body⟩
            rw [perform, write_eq enough selected small, Option.bind_some,
              inserts]
            rfl

/-- A script that writes, clears and reads the body of a response gets the same
answers and exceptions as from a sequence of bytes, whatever IIS refuses, and
leaves the same bytes. -/
theorem runCalls_eq_body {fuel : Nat} (enough : 65537 ≤ fuel)
    {calls : List Call} (sized : ∀ call ∈ calls, call.Sized)
    (raw : RawResponse) :
    ∃ next,
      runCalls fuel raw calls =
          some (((bodyOf raw).runCalls calls).1, next) ∧
        bodyOf next = ((bodyOf raw).runCalls calls).2 := by
  induction calls generalizing raw with
  | nil => exact ⟨raw, rfl, rfl⟩
  | cons call rest ih =>
      obtain ⟨next, performs, body⟩ :=
        perform_eq enough raw (sized call List.mem_cons_self)
      rw [runCalls, performs, Body.runCalls]
      dsimp only
      cases goesOn : ((bodyOf raw).perform call).1.goesOn with
      | false => exact ⟨next, rfl, body⟩
      | true =>
          obtain ⟨final, others, last⟩ := ih
            (fun other member => sized other (List.mem_cons_of_mem _ member))
            next
          refine ⟨final, ?_, ?_⟩
          · rw [if_pos rfl, if_pos rfl, others, body]
            rfl
          · rw [if_pos rfl, last, body]

theorem runCalls_eq_body_refused :
    ∃ next,
      runCalls 65537 emptyResponse
          [.write true (fun _ => false) [.string [65]], .read cleared []] =
        some ([.throws "failed to write", .returns .null], next) := by
  have sized : ∀ call ∈ [Call.write true (fun _ => false) [.string [65]],
      .read cleared []], call.Sized := by
    intro call member
    rw [List.mem_cons, List.mem_singleton] at member
    rcases member with rfl | rfl
    · intro buffer selected
      cases selected
      decide
    · trivial
  obtain ⟨next, ran, -⟩ := runCalls_eq_body (Nat.le_refl _) sized emptyResponse
  have endings : ((bodyOf emptyResponse).runCalls
      [.write true (fun _ => false) [.string [65]], .read cleared []]).1 =
      [.throws "failed to write", .returns .null] := by
    decide
  rw [endings] at ran
  exact ⟨next, ran⟩

/-- A call of `write` with a text, all of which IIS accepts while it can count
the chunks. -/
def writeText (pointerIsNull : Bool) (text : WString × List JsValue) : Call :=
  .write pointerIsNull (fun _ => true) (.string text.1 :: text.2)

/-- The bytes of texts in a row. -/
def textBytes (texts : List (WString × List JsValue)) : List UInt8 :=
  (texts.map fun text => encodeUtf8 text.1).flatten

/-- The number of chunks that the texts take. -/
def textChunks (texts : List (WString × List JsValue)) : Nat :=
  (texts.map fun text => chunkCount (encodeUtf8 text.1).length).sum

theorem Body.write_all {body : Body} {buffer : List UInt8}
    (room : body.chunks + chunkCount buffer.length < 2 ^ 16) :
    body.write (fun _ => true) buffer =
      (.returns .undefined, ⟨body.bytes ++ buffer,
        body.chunks + chunkCount buffer.length⟩) := by
  have all : body.taken (fun _ => true) buffer = chunkCount buffer.length := by
    apply accepted_eq_of_all
    intro index below
    rw [Bool.true_and, decide_eq_true_eq]
    omega
  have whole : buffer.take (65535 * chunkCount buffer.length) = buffer := by
    apply List.take_of_length_le
    unfold chunkCount
    omega
  rw [Body.write, all, if_pos rfl, whole]

theorem Body.runCalls_cons {body next : Body} {call : Call}
    {ending : CallEnding} (performed : body.perform call = (ending, next))
    (goesOn : ending.goesOn = true) (rest : List Call) :
    body.runCalls (call :: rest) =
      (ending :: (next.runCalls rest).1, (next.runCalls rest).2) := by
  rw [Body.runCalls, performed]
  exact if_pos goesOn

theorem Body.endings_texts {pointerIsNull : Bool}
    {texts : List (WString × List JsValue)} {body : Body}
    (room : body.chunks + textChunks texts < 2 ^ 16) (fresh : Fresh)
    (args : List JsValue) :
    (body.runCalls (texts.map (writeText pointerIsNull) ++
        [.read fresh args])).1 =
      List.replicate texts.length (.returns .undefined) ++
        [valueOf args (body.bytes ++ textBytes texts)] := by
  induction texts generalizing body with
  | nil =>
      have performed : body.perform (.read fresh args) =
          (valueOf args body.bytes, body) := rfl
      rw [List.map_nil, List.nil_append, Body.runCalls, performed,
        textBytes, List.map_nil, List.flatten_nil, List.append_nil]
      split <;> rfl
  | cons text rest ih =>
      rw [textChunks, List.map_cons, List.sum_cons] at room
      have performed : body.perform (writeText pointerIsNull text) =
          (.returns .undefined, ⟨body.bytes ++ encodeUtf8 text.1,
            body.chunks + chunkCount (encodeUtf8 text.1).length⟩) :=
        Body.write_all (by omega)
      have others := @ih ⟨body.bytes ++ encodeUtf8 text.1,
        body.chunks + chunkCount (encodeUtf8 text.1).length⟩ (by
          dsimp only [textChunks]
          omega)
      rw [List.map_cons, List.cons_append,
        Body.runCalls_cons performed rfl, others, List.length_cons,
        List.replicate_succ, textBytes, textBytes, List.map_cons,
        List.flatten_cons, List.append_assoc, List.cons_append]

theorem length_le_textBytes (texts : List (WString × List JsValue)) :
    (texts.map Prod.fst).flatten.length ≤ (textBytes texts).length := by
  induction texts with
  | nil => exact Nat.le_refl _
  | cons text rest ih =>
      have first := length_le_encodeUtf8 text.1
      rw [textBytes] at ih ⊢
      rw [List.map_cons, List.map_cons, List.flatten_cons, List.flatten_cons,
        List.length_append, List.length_append]
      omega

theorem isAscii_of_length_textBytes {texts : List (WString × List JsValue)}
    (same : (textBytes texts).length =
      (texts.map Prod.fst).flatten.length) :
    ∀ text ∈ texts, IsAscii text.1 := by
  induction texts with
  | nil =>
      intro text member
      cases member
  | cons text rest ih =>
      have first := length_le_encodeUtf8 text.1
      have others := length_le_textBytes rest
      rw [textBytes] at ih others same
      rw [List.map_cons, List.map_cons, List.flatten_cons, List.flatten_cons,
        List.length_append, List.length_append] at same
      rw [List.forall_mem_cons]
      constructor
      · apply isAscii_of_length_encodeUtf8
        omega
      · apply ih
        omega

/-- UTF-8 texts in a row, read as Latin-1, are the texts exactly if all of them
are ASCII. -/
theorem latin1_textBytes_iff (texts : List (WString × List JsValue)) :
    latin1 (textBytes texts) = (texts.map Prod.fst).flatten ↔
      ∀ text ∈ texts, IsAscii text.1 := by
  constructor
  · intro equal
    have lengths := congrArg List.length equal
    rw [length_latin1] at lengths
    exact isAscii_of_length_textBytes lengths
  · intro ascii
    induction texts with
    | nil => rfl
    | cons text rest ih =>
        rw [List.forall_mem_cons] at ascii
        rw [textBytes, List.map_cons, List.flatten_cons, latin1_append,
          latin1_encodeUtf8_of_isAscii ascii.1, List.map_cons,
          List.flatten_cons, ← ih ascii.2]
        rfl

theorem textBytes_eq_nil {texts : List (WString × List JsValue)} :
    textBytes texts = [] ↔ ∀ text ∈ texts, text.1 = [] := by
  rw [textBytes, List.flatten_eq_nil_iff, List.forall_mem_map]
  exact forall₂_congr fun text _ => encodeUtf8_eq_nil

theorem valueOf_string {bytes : List UInt8} (present : bytes ≠ [])
    (fits : bytes.length ≤ stringMaxLength) :
    valueOf [] bytes = .returns (.string (latin1 bytes)) := by
  have string : asArray [] = false := rfl
  rw [valueOf, if_neg present, string, if_neg Bool.false_ne_true, stringOf,
    if_pos fits]

/-- The limits within which a text comes back: IIS can count the chunks, and V8
has strings of that length. -/
structure Readable (texts : List (WString × List JsValue)) : Prop where
  chunks : textChunks texts < 2 ^ 16
  length : (textBytes texts).length ≤ stringMaxLength

/-- Texts written to a response that was cleared, with any further arguments,
and then read without an argument.  The script gets null if all texts are empty,
and otherwise a string with one unit for each octet of UTF-8: it is what was
written exactly if all texts are ASCII. -/
theorem runCalls_texts {fuel : Nat} (enough : 65537 ≤ fuel) (raw : RawResponse)
    (pointerIsNull : Bool) {texts : List (WString × List JsValue)}
    (readable : Readable texts) (fresh : Fresh) :
    ∃ value next,
      runCalls fuel raw
          (.clear :: texts.map (writeText pointerIsNull) ++
            [.read fresh []]) =
        some (List.replicate (texts.length + 1) (.returns .undefined) ++
          [value], next) ∧
      (value = .returns .null ↔ ∀ text ∈ texts, text.1 = []) ∧
      ((∃ text ∈ texts, text.1 ≠ []) →
        value = .returns (.string (latin1 (textBytes texts))) ∧
        (value = .returns (.string (texts.map Prod.fst).flatten) ↔
          ∀ text ∈ texts, IsAscii text.1)) := by
  obtain ⟨chunks, length⟩ := readable
  have sized : ∀ call ∈ Call.clear :: texts.map (writeText pointerIsNull) ++
      [.read fresh []], call.Sized := by
    intro call member
    rw [List.cons_append, List.mem_cons, List.mem_append, List.mem_map,
      List.mem_singleton] at member
    rcases member with rfl | ⟨text, textMember, rfl⟩ | rfl
    · trivial
    · intro buffer selected
      cases selected
      have part : (encodeUtf8 text.1).Sublist (textBytes texts) :=
        List.sublist_flatten_of_mem (List.mem_map_of_mem textMember)
      have shorter := part.length_le
      unfold stringMaxLength at length
      omega
    · trivial
  obtain ⟨next, ran, -⟩ := runCalls_eq_body enough sized raw
  have cleared : (bodyOf raw).perform .clear =
      (.returns .undefined, ⟨[], 0⟩) := rfl
  have written := @Body.endings_texts pointerIsNull texts ⟨[], 0⟩
    (by rw [Nat.zero_add]; exact chunks) fresh []
  rw [List.cons_append, Body.runCalls_cons cleared rfl, written] at ran
  refine ⟨valueOf [] (textBytes texts), next, ran, ?_, ?_⟩
  · rw [← textBytes_eq_nil]
    by_cases nothing : textBytes texts = []
    · rw [valueOf, if_pos nothing]
      exact iff_of_true rfl nothing
    · have string := valueOf_string nothing length
      rw [string]
      exact iff_of_false (by simp) nothing
  · rintro ⟨text, member, present⟩
    have something : textBytes texts ≠ [] := by
      intro nothing
      exact present (textBytes_eq_nil.mp nothing text member)
    have string := valueOf_string something length
    refine ⟨string, ?_⟩
    rw [string, ← latin1_textBytes_iff]
    constructor
    · intro same
      injection same with same
      injection same
    · intro same
      rw [same]

theorem runCalls_texts_letters :
    ∃ next,
      runCalls 65537 emptyResponse
          [.clear, writeText false ([65, 66], []), writeText false ([], []),
            .read cleared []] =
        some ([.returns .undefined, .returns .undefined, .returns .undefined,
          .returns (.string [65, 66])], next) := by
  obtain ⟨value, next, ran, -, string⟩ := @runCalls_texts 65537 (Nat.le_refl _)
    emptyResponse false [([65, 66], []), ([], [])]
    ⟨by decide, by unfold stringMaxLength; decide⟩ cleared
  obtain ⟨-, same⟩ := string ⟨([65, 66], []), by simp, by simp⟩
  have isText : value = .returns (.string [65, 66]) :=
    same.mpr (by decide)
  subst isText
  exact ⟨next, ran⟩

end ResponseCalls

end IISModuleJS
