import IISModuleJS.ByteRanges
import IISModuleJS.FueledLoop
import IISModuleJS.PromiseOutcomes
import IISModuleJS.RequestBody
import IISModuleJS.StreamingCalls
import IISModuleJS.ViewArguments

/-!
# The gzip coders

`gzip::compress` and `gzip::decompress` hand their whole input to zlib and then
call it in a loop, each time with room for some more bytes behind those that it
has already written.  The loop ends with the first call that leaves room.

zlib is a parameter, with its streaming contract as a hypothesis: how the room is
divided into calls does not matter.  For level zero `deflate` does not keep it,
since it cuts stored blocks to the room that there is.

The file shows what the two loops make of that: that they collect all of a
stream, when they refuse, that a call for an empty input never ends, and for
which strings `gzip.decompress` undoes `gzip.compress` in a script.
-/

namespace IISModuleJS

namespace GzipStreams

open AsyncWorkers ByteRanges EffectProgram FueledLoop JsValue PromiseOutcomes
open StreamingCalls TextEncoding

/-- What `inflate` returns; `Z_OK` and `Z_BUF_ERROR` are treated alike.  The text
of an error may be missing. -/
inductive InflateCode
  | goesOn
  | streamEnd
  | fails (message : Option String)
  deriving DecidableEq

/-- All that `inflate` makes of an input, and what it returns at the end of
that; it still wants to go on when the input is cut off. -/
structure Inflated where
  output : Bytes
  ending : InflateCode
  deriving DecidableEq

/-- What a call may return when there was so much room in all.  Without a byte
left `inflate` may or may not look at what comes after the output. -/
def Inflated.Reports (inflated : Inflated) (room : Nat) (code : InflateCode) :
    Prop :=
  room ≤ inflated.output.length ∧ code = .goesOn ∨
    inflated.output.length ≤ room ∧ code = inflated.ending

/-- The coders of zlib: whether a stream can be initialised, the stream for an
input, and a call with `Z_FINISH` and some room. -/
structure Zlib where
  Deflate : Type
  deflateInit2 : Int → Bool
  deflateStart : Int → Bytes → Deflate
  deflate : Call Deflate UInt8
  Inflate : Type
  inflateInit2 : Bool
  inflateStart : Bytes → Inflate
  inflate : Inflate → Nat → Bytes × InflateCode × Inflate

namespace Zlib

/-- What a single call of `deflate` makes of an input, with all the room that a
call can have. -/
def deflated (zlib : Zlib) (level : Int) (data : Bytes) : Bytes :=
  (zlib.deflate (zlib.deflateStart level data) (2 ^ 32 - 1)).1

/-- A call of `inflate` without its code. -/
def inflateBytes (zlib : Zlib) : Call zlib.Inflate UInt8 :=
  fun stream room =>
    ((zlib.inflate stream room).1, (zlib.inflate stream room).2.2)

/-- The contract of `deflate`: how the room is divided into calls does not
matter. -/
def DeflatesInCalls (zlib : Zlib) (level : Int) (data : Bytes) : Prop :=
  Delivers zlib.deflate (zlib.deflateStart level data)
    (zlib.deflated level data)

/-- The contract of `inflate`. -/
structure InflatesInCalls (zlib : Zlib) (data : Bytes) (inflated : Inflated) :
    Prop where
  bytes : Delivers zlib.inflateBytes (zlib.inflateStart data) inflated.output
  code : ∀ rooms room,
    inflated.Reports (rooms.sum + room)
      (zlib.inflate (after zlib.inflateBytes (zlib.inflateStart data) rooms)
        room).2.1

end Zlib

/-- A sample of zlib on the streams of nothing and of one letter; other data
are only marked. -/
def sampleDeflated (data : Bytes) : Bytes :=
  if data = [0x61] then streamOfLetter
  else if data = [] then streamOfNothing
  else 0 :: data

def sampleInflated (data : Bytes) : Inflated :=
  if data = streamOfLetter then ⟨[0x61], .streamEnd⟩
  else if data = streamOfNothing then ⟨[], .streamEnd⟩
  else if data = streamOfLetter.dropLast then ⟨[0x61], .goesOn⟩
  else
    match data with
    | [] => ⟨[], .goesOn⟩
    | 0 :: rest => ⟨rest, .streamEnd⟩
    | _ => ⟨[], .fails (some "incorrect header check")⟩

def sampleZlib : Zlib where
  Deflate := Bytes
  deflateInit2 level := decide (-1 ≤ level) && decide (level ≤ 9)
  deflateStart _ data := sampleDeflated data
  deflate stream room := (stream.take room, stream.drop room)
  Inflate := Inflated
  inflateInit2 := true
  inflateStart := sampleInflated
  inflate stream room :=
    (stream.output.take room,
      if room < stream.output.length then .goesOn else stream.ending,
      ⟨stream.output.drop room, stream.ending⟩)

/-- A stream after a call, the output with its size as the loop counts it, and
the room that the call left. -/
structure Delivery (Stream : Type) where
  stream : Stream
  output : Bytes
  size : Nat
  availOut : UInt32

/-- The loops start with an empty output. -/
def Delivery.start {Stream : Type} (stream : Stream) : Delivery Stream :=
  ⟨stream, [], 0, 0⟩

/-- Put what a call delivers into some output, behind the bytes written
before. -/
def Delivery.write {Stream : Type} (state : Delivery Stream) (output : Bytes)
    (room : Nat) (delivered : Bytes × Stream) : Option (Delivery Stream) :=
  let availOut := room.toUInt32 - delivered.1.length.toUInt32
  (overwrite output state.size delivered.1).map fun output =>
    { stream := delivered.2
      output := output
      size := state.size + (room - availOut.toNat)
      availOut := availOut }

/-- `std::string::resize`. -/
def resize (output : Bytes) (size : Nat) : Bytes :=
  output.take size ++ List.replicate (size - output.length) 0

/-- How a coder fails: it throws, or a string is made from a null pointer. -/
inductive Failure
  | throws (what : String)
  | undefinedBehavior
  deriving DecidableEq

/-- `max_` of a `Compressor`. -/
def compressorMax : Nat := 2000000000

/-- `max_` of a `Decompressor`. -/
def decompressorMax : Nat := 1000000000

/-- The body of the loop in `Compressor::compress`. -/
def compressRound (zlib : Zlib) (size : Nat) (state : Delivery zlib.Deflate) :
    Except Failure (Delivery zlib.Deflate) :=
  let increase := size / 2 + 1024
  let output :=
    if state.output.length < state.size + increase then
      resize state.output (state.size + increase)
    else state.output
  match state.write output increase
      (zlib.deflate state.stream increase.toUInt32.toNat) with
  | none => .error .undefinedBehavior
  | some next => .ok next

/-- `gzip::compress`, with a bound on the rounds of its loop. -/
def compress (zlib : Zlib) (fuel : Nat) (level : Int) (data : Bytes) :
    Option (Except Failure Bytes) :=
  if compressorMax < data.length then
    some (.error (.throws
      "size may use more memory than intended when decompressing"))
  else if !zlib.deflateInit2 level then
    some (.error (.throws "deflate init failed"))
  else
    let stream :=
      zlib.deflateStart level (data.take data.length.toUInt32.toNat)
    (doWhile (compressRound zlib data.length)
      (fun state => state.availOut == 0) fuel (.start stream)).map fun result =>
        result.map fun state => resize state.output state.size

/-- The body of the loop in `Decompressor::decompress`. -/
def decompressRound (zlib : Zlib) (size : Nat)
    (state : Delivery zlib.Inflate) :
    Except Failure (Delivery zlib.Inflate) :=
  let resizeTo := state.size + 2 * size
  if decompressorMax < resizeTo then
    .error (.throws ("size of output string will use more memory then " ++
      "intended when decompressing"))
  else
    let room := (2 * size).toUInt32.toNat
    match state.write (resize state.output resizeTo) (2 * size)
        (zlib.inflateBytes state.stream room) with
    | none => .error .undefinedBehavior
    | some next =>
        match (zlib.inflate state.stream room).2.1 with
        | .fails none => .error .undefinedBehavior
        | .fails (some message) => .error (.throws message)
        | _ => .ok next

/-- `gzip::decompress`, with a bound on the rounds of its loop. -/
def decompress (zlib : Zlib) (fuel : Nat) (data : Bytes) :
    Option (Except Failure Bytes) :=
  if !zlib.inflateInit2 then some (.error (.throws "inflate init failed"))
  else if decompressorMax < data.length ∨
      decompressorMax < data.length * 2 then
    some (.error (.throws
      "size may use more memory than intended when decompressing"))
  else
    let stream := zlib.inflateStart (data.take data.length.toUInt32.toNat)
    (doWhile (decompressRound zlib data.length)
      (fun state => state.availOut == 0) fuel (.start stream)).map
        fun result => result.map fun state => resize state.output state.size

/-- The stream stands behind the bytes written so far, which are those of a
whole one. -/
structure Writes {Stream : Type} (call : Call Stream UInt8) (start : Stream)
    (whole : Bytes) (state : Delivery Stream) : Prop where
  reached : Reached call start whole state.stream state.size
  inside : state.size ≤ state.output.length
  written : state.output.take state.size = whole.take state.size

theorem writes_start {Stream : Type} (call : Call Stream UInt8)
    (start : Stream) (whole : Bytes) :
    Writes call start whole (.start start) :=
  ⟨reached_start call start whole, Nat.le_refl _, rfl⟩

theorem length_resize (output : Bytes) (size : Nat) :
    (resize output size).length = size := by
  rw [resize, List.length_append, List.length_take, List.length_replicate]
  omega

/-- An output that is made longer keeps what it has. -/
theorem take_resize {output : Bytes} {kept size : Nat}
    (inside : kept ≤ output.length) (longer : kept ≤ size) :
    (resize output size).take kept = output.take kept := by
  rw [resize, List.take_append_of_le_length (by
    rw [List.length_take]
    omega), List.take_take, Nat.min_eq_left longer]

theorem toNat_toUInt32 {size : Nat} (small : size < 2 ^ 32) :
    size.toUInt32.toNat = size :=
  UInt32.toNat_ofNat_of_lt' small

/-- What a call with enough room in the output does. -/
structure Called {Stream : Type} (call : Call Stream UInt8) (start : Stream)
    (whole : Bytes) (state next : Delivery Stream) (room : Nat) : Prop where
  writes : Writes call start whole next
  size : next.size = min (state.size + room) whole.length
  full : (next.availOut == 0) = decide (state.size + room ≤ whole.length)

/-- A call stays inside of its output, and goes on with the stream. -/
theorem called_of_room {Stream : Type} {call : Call Stream UInt8}
    {start : Stream} {whole : Bytes} (delivers : Delivers call start whole)
    {state : Delivery Stream} (writes : Writes call start whole state)
    {output : Bytes} {room : Nat} (small : room < 2 ^ 32)
    (fits : state.size + room ≤ output.length)
    (keeps : output.take state.size = state.output.take state.size) :
    ∃ next,
      state.write output room (call state.stream room.toUInt32.toNat) =
        some next ∧ Called call start whole state next room := by
  have inside := writes.reached.size_le
  rw [toNat_toUInt32 small]
  obtain ⟨bytes, bytesEq⟩ :
      ∃ bytes, (whole.drop state.size).take room = bytes := ⟨_, rfl⟩
  have delivered := writes.reached.delivered delivers room
  rw [bytesEq] at delivered
  have count : bytes.length = min room (whole.length - state.size) := by
    rw [← bytesEq, List.length_take, List.length_drop]
  have left : (room.toUInt32 - bytes.length.toUInt32).toNat =
      room - bytes.length := by
    have roomNat := toNat_toUInt32 small
    have countNat : bytes.length.toUInt32.toNat = bytes.length :=
      toNat_toUInt32 (by omega)
    rw [UInt32.toNat_sub_of_le _ _ (by
      rw [UInt32.le_iff_toNat_le, roomNat, countNat]
      omega), roomNat, countNat]
  have filled : (output.take state.size).length = state.size := by
    rw [List.length_take]
    omega
  have written := @overwrite_filled _ (output.take state.size)
    (output.drop state.size) bytes (by
      rw [List.length_drop]
      omega)
  rw [List.take_append_drop, filled] at written
  have sizeEq : state.size + (room - (room - bytes.length)) =
      state.size + bytes.length := by
    omega
  have calls : state.write output room (call state.stream room) = some
      { stream := (call state.stream room).2
        output := output.take state.size ++ bytes ++
          (output.drop state.size).drop bytes.length
        size := state.size + bytes.length
        availOut := room.toUInt32 - bytes.length.toUInt32 } := by
    rw [Delivery.write, delivered, written, left, sizeEq]
    rfl
  have ends : state.size + bytes.length =
      min (state.size + room) whole.length := by
    omega
  refine ⟨_, calls, ⟨?_, ?_, ?_⟩, ends, ?_⟩
  · have reached := writes.reached.next room
    rw [← ends] at reached
    exact reached
  · simp only [List.length_append, List.length_drop, filled]
    omega
  · have prefixLength : (output.take state.size ++ bytes).length =
        state.size + bytes.length := by
      rw [List.length_append, filled]
    have front := @List.take_left _ (output.take state.size ++ bytes)
      ((output.drop state.size).drop bytes.length)
    rw [prefixLength] at front
    have piece : bytes = (whole.drop state.size).take bytes.length := by
      apply List.prefix_iff_eq_take.mp
      rw [← bytesEq]
      exact List.take_prefix _ _
    simp only
    rw [front, keeps, writes.written, List.take_add, ← piece]
  · rw [Bool.eq_iff_iff, beq_iff_eq, decide_eq_true_eq, ← UInt32.toNat_inj,
      left, UInt32.toNat_zero]
    omega

/-- After a call that left room the output is the stream. -/
theorem Called.collected {Stream : Type} {call : Call Stream UInt8}
    {start : Stream} {whole : Bytes} {state next : Delivery Stream}
    {room : Nat} (called : Called call start whole state next room)
    (left : whole.length < state.size + room) :
    resize next.output next.size = whole := by
  have all : next.size = whole.length := by
    rw [called.size]
    omega
  rw [resize, called.writes.written,
    Nat.sub_eq_zero_of_le called.writes.inside, all, List.take_length]
  exact List.append_nil whole

theorem compressRound_called {zlib : Zlib} {start : zlib.Deflate}
    {whole : Bytes} (delivers : Delivers zlib.deflate start whole)
    {state : Delivery zlib.Deflate}
    (writes : Writes zlib.deflate start whole state) {size : Nat}
    (small : size ≤ compressorMax) :
    ∃ next, compressRound zlib size state = .ok next ∧
      Called zlib.deflate start whole state next (size / 2 + 1024) := by
  have roomSmall : size / 2 + 1024 < 2 ^ 32 := by
    unfold compressorMax at small
    omega
  unfold compressRound
  generalize size / 2 + 1024 = room at roomSmall ⊢
  dsimp only
  by_cases grows : state.output.length < state.size + room
  · obtain ⟨next, calls, called⟩ := called_of_room delivers writes roomSmall
      (Nat.le_of_eq (length_resize state.output _).symm)
      (take_resize writes.inside (Nat.le_add_right state.size room))
    rw [if_pos grows, calls]
    exact ⟨next, rfl, called⟩
  · obtain ⟨next, calls, called⟩ := called_of_room delivers writes roomSmall
      (Nat.le_of_not_lt grows) rfl
    rw [if_neg grows, calls]
    exact ⟨next, rfl, called⟩

/-- A loop is left with some output. -/
def Collects {Stream : Type} (output : Bytes)
    (final : Except Failure (Delivery Stream)) : Prop :=
  ∃ state, final = .ok state ∧ resize state.output state.size = output

/-- A round of `Compressor::compress`. -/
theorem compress_round {zlib : Zlib} {start : zlib.Deflate} {whole : Bytes}
    (delivers : Delivers zlib.deflate start whole) {size : Nat}
    (small : size ≤ compressorMax) (state : Delivery zlib.Deflate)
    (writes : Writes zlib.deflate start whole state) :
    Round (compressRound zlib size) (fun state => state.availOut == 0)
      (Writes zlib.deflate start whole)
      (fun state => whole.length - state.size) (Collects whole) state := by
  obtain ⟨next, done, called⟩ := compressRound_called delivers writes small
  have reached := called.size
  by_cases full : state.size + (size / 2 + 1024) ≤ whole.length
  · refine .continues next done ?_ called.writes ?_
    · rw [called.full, decide_eq_true full]
    · omega
  · refine .leaves next done ?_
      ⟨next, rfl, called.collected (Nat.lt_of_not_le full)⟩
    rw [called.full, decide_eq_false full]

theorem map_doWhile_mono {Stream : Type}
    {round : Delivery Stream → Except Failure (Delivery Stream)}
    {goesOn : Delivery Stream → Bool} {state : Delivery Stream}
    {fuel more : Nat}
    {finish : Except Failure (Delivery Stream) → Except Failure Bytes}
    {result : Except Failure Bytes}
    (ends : (doWhile round goesOn fuel state).map finish = some result)
    (enough : fuel ≤ more) :
    (doWhile round goesOn more state).map finish = some result := by
  obtain ⟨final, loops, rfl⟩ := Option.map_eq_some_iff.mp ends
  exact Option.map_eq_some_iff.mpr ⟨final, doWhile_mono loops enough, rfl⟩

theorem compress_mono {zlib : Zlib} {level : Int} {data : Bytes}
    {fuel more : Nat} {result : Except Failure Bytes}
    (ends : compress zlib fuel level data = some result)
    (enough : fuel ≤ more) :
    compress zlib more level data = some result := by
  unfold compress at ends ⊢
  by_cases large : compressorMax < data.length
  · rw [if_pos large] at ends ⊢
    exact ends
  · rw [if_neg large] at ends ⊢
    by_cases uninitialised : (!zlib.deflateInit2 level) = true
    · rw [if_pos uninitialised] at ends ⊢
      exact ends
    · rw [if_neg uninitialised] at ends ⊢
      exact map_doWhile_mono ends enough

/-- The loop of `Compressor::compress` ends and collects the whole stream. -/
theorem compress_loop {zlib : Zlib} {start : zlib.Deflate} {whole : Bytes}
    (delivers : Delivers zlib.deflate start whole) {size : Nat}
    (small : size ≤ compressorMax) {fuel : Nat}
    (enough : whole.length < fuel) :
    ∃ final, doWhile (compressRound zlib size)
        (fun state => state.availOut == 0) fuel (.start start) = some final ∧
      Collects whole final :=
  doWhile_total (compress_round delivers small)
    (writes_start zlib.deflate start whole)
    (Nat.lt_of_le_of_lt (Nat.sub_le _ _) enough)

/-- `gzip::compress` returns what a single call of `deflate` with all the room
there is would make of the input, or refuses it. -/
theorem compress_of_calls {zlib : Zlib} {level : Int} {data : Bytes}
    (calls : data.length ≤ compressorMax → zlib.DeflatesInCalls level data)
    {fuel : Nat}
    (enough : (zlib.deflated level data).length < fuel) :
    compress zlib fuel level data =
      some (if compressorMax < data.length then
          .error (.throws
            "size may use more memory than intended when decompressing")
        else if zlib.deflateInit2 level = false then
          .error (.throws "deflate init failed")
        else .ok (zlib.deflated level data)) := by
  rw [compress]
  split
  next large => rfl
  next small =>
    have bound := Nat.le_of_not_lt small
    have sizeNat : data.length.toUInt32.toNat = data.length :=
      toNat_toUInt32 (by
        unfold compressorMax at bound
        omega)
    cases zlib.deflateInit2 level with
    | false => rfl
    | true =>
        obtain ⟨final, ends, state, rfl, collected⟩ :=
          compress_loop (calls bound) bound enough
        rw [sizeNat, List.take_length]
        dsimp only
        rw [Bool.not_true, if_neg Bool.false_ne_true, ends]
        simp [Except.map, collected]

/-- The loop with the growing output agrees with a single call of `deflate`, for
any room that is large enough for it. -/
theorem compress_eq {zlib : Zlib} {level : Int} {data : Bytes}
    (calls : data.length ≤ compressorMax → zlib.DeflatesInCalls level data)
    {room fuel : Nat}
    (large : (zlib.deflated level data).length ≤ room)
    (enough : (zlib.deflated level data).length < fuel) :
    compress zlib fuel level data =
      some (if compressorMax < data.length then
          .error (.throws
            "size may use more memory than intended when decompressing")
        else if zlib.deflateInit2 level = false then
          .error (.throws "deflate init failed")
        else .ok (zlib.deflate (zlib.deflateStart level data) room).1) := by
  rw [compress_of_calls calls enough]
  by_cases long : compressorMax < data.length
  · rw [if_pos long, if_pos long]
  · have single := calls (Nat.le_of_not_lt long) [] room
    rw [List.sum_nil, List.drop_zero, List.take_of_length_le large] at single
    have same : (zlib.deflate (zlib.deflateStart level data) room).1 =
        zlib.deflated level data := single
    rw [same]

theorem sampleZlib_calls (level : Int) (data : Bytes)
    (short : (sampleDeflated data).length < 2 ^ 32) :
    sampleZlib.deflated level data = sampleDeflated data ∧
      sampleZlib.DeflatesInCalls level data := by
  have single : sampleZlib.deflated level data = sampleDeflated data :=
    List.take_of_length_le (Nat.le_of_lt_succ short)
  refine ⟨single, ?_⟩
  rw [Zlib.DeflatesInCalls, single]
  exact delivers_take_drop (sampleDeflated data)

theorem compress_letter :
    compress sampleZlib 22 9 [0x61] = some (.ok streamOfLetter) := by
  obtain ⟨single, calls⟩ := sampleZlib_calls 9 [0x61] (by decide)
  rw [compress_eq (fun _ => calls) (by
    rw [single]
    decide : (sampleZlib.deflated 9 [0x61]).length ≤ 21) (by
    rw [single]
    decide)]
  decide

/-- Rooms of some size for a whole output and a byte more fit into the limit. -/
def FitsIn (limit room : Nat) (output : Bytes) : Prop :=
  (output.length / room + 1) * room ≤ limit

instance (limit room : Nat) (output : Bytes) :
    Decidable (FitsIn limit room output) :=
  inferInstanceAs (Decidable (_ ≤ _))

/-- When the last room has bytes left, all rooms fit if this one does. -/
theorem fitsIn_of_last {limit room size : Nat} {output : Bytes}
    (inside : size ≤ output.length) (divides : room ∣ size)
    (last : output.length < size + room) (fits : size + room ≤ limit) :
    FitsIn limit room output := by
  obtain ⟨rooms, rfl⟩ := divides
  have count : output.length / room = rooms := by
    apply Nat.div_eq_of_lt_le
    · rw [Nat.mul_comm]
      exact inside
    · rw [Nat.add_one_mul, Nat.mul_comm]
      exact last
  rw [FitsIn, count, Nat.add_one_mul, Nat.mul_comm]
  exact fits

/-- A room that does not fit is needed if something came before it. -/
theorem not_fitsIn_of_room {limit room size : Nat} {output : Bytes}
    (inside : size ≤ output.length) (divides : room ∣ size)
    (positive : 0 < room) (exceeds : limit < size + room) :
    ¬ FitsIn limit room output := by
  obtain ⟨rooms, rfl⟩ := divides
  have count : rooms ≤ output.length / room :=
    (Nat.le_div_iff_mul_le positive).mpr (by rwa [Nat.mul_comm])
  have more := Nat.mul_le_mul_right room (Nat.add_le_add_right count 1)
  rw [Nat.add_one_mul, Nat.mul_comm rooms] at more
  unfold FitsIn
  omega

/-- The stream does not end with an error. -/
def Inflated.Usable (inflated : Inflated) : Prop :=
  ∀ message, inflated.ending ≠ .fails message

/-- The loop of `Decompressor::decompress` is left with the output of a usable
stream that fits, or fails because it is not usable or does not fit. -/
inductive Decompresses {Stream : Type} (inflated : Inflated) (room : Nat) :
    Except Failure (Delivery Stream) → Prop
  | returns (state : Delivery Stream)
      (collected : resize state.output state.size = inflated.output)
      (usable : inflated.Usable)
      (fits : FitsIn decompressorMax room inflated.output) :
      Decompresses inflated room (.ok state)
  | refuses (what : String)
      (large : ¬ FitsIn decompressorMax room inflated.output) :
      Decompresses inflated room (.error (.throws what))
  | fails (what : String) (ending : inflated.ending = .fails (some what)) :
      Decompresses inflated room (.error (.throws what))
  | undefined (ending : inflated.ending = .fails none) :
      Decompresses inflated room (.error .undefinedBehavior)

section Decompression

variable {zlib : Zlib} {data : Bytes} {inflated : Inflated}

/-- The output is made of whole rooms, as far as it goes. -/
def InRooms (zlib : Zlib) (data : Bytes) (inflated : Inflated) (room : Nat)
    (state : Delivery zlib.Inflate) : Prop :=
  Writes zlib.inflateBytes (zlib.inflateStart data) inflated.output state ∧
    room ∣ state.size

/-- What `inflate` returns in a call. -/
theorem code_of_reached (calls : zlib.InflatesInCalls data inflated)
    {stream : zlib.Inflate} {size : Nat}
    (reached : Reached zlib.inflateBytes (zlib.inflateStart data)
      inflated.output stream size) (room : Nat) :
    inflated.Reports (size + room) (zlib.inflate stream room).2.1 := by
  obtain ⟨rooms, rfl, rfl⟩ := reached
  rcases calls.code rooms room with ⟨before, goesOn⟩ | ⟨behind, ended⟩
  · exact .inl ⟨by omega, goesOn⟩
  · exact .inr ⟨by omega, ended⟩

/-- A call that does not report an error. -/
theorem decompress_round_of_ok {size : Nat} (positive : 0 < size)
    {state next : Delivery zlib.Inflate}
    (rooms : InRooms zlib data inflated (2 * size) state)
    (called : Called zlib.inflateBytes (zlib.inflateStart data)
      inflated.output state next (2 * size))
    (fits : state.size + 2 * size ≤ decompressorMax)
    (usable : inflated.output.length < state.size + 2 * size →
      inflated.Usable)
    (done : decompressRound zlib size state = .ok next) :
    Round (decompressRound zlib size) (fun state => state.availOut == 0)
      (InRooms zlib data inflated (2 * size))
      (fun state => inflated.output.length - state.size)
      (Decompresses inflated (2 * size)) state := by
  obtain ⟨writes, divides⟩ := rooms
  have reached := called.size
  by_cases full : state.size + 2 * size ≤ inflated.output.length
  · rw [Nat.min_eq_left full] at reached
    refine .continues next done ?_ ⟨called.writes, ?_⟩ ?_
    · rw [called.full, decide_eq_true full]
    · rw [reached]
      exact Nat.dvd_add divides (Nat.dvd_refl _)
    · omega
  · have last := Nat.lt_of_not_le full
    refine .leaves next done ?_ (.returns next (called.collected last)
      (usable last) (fitsIn_of_last writes.reached.size_le divides last fits))
    rw [called.full, decide_eq_false full]

/-- A round of `Decompressor::decompress`. -/
theorem decompress_round (calls : zlib.InflatesInCalls data inflated)
    {size : Nat} (positive : 0 < size) (small : 2 * size ≤ decompressorMax)
    (state : Delivery zlib.Inflate)
    (rooms : InRooms zlib data inflated (2 * size) state) :
    Round (decompressRound zlib size) (fun state => state.availOut == 0)
      (InRooms zlib data inflated (2 * size))
      (fun state => inflated.output.length - state.size)
      (Decompresses inflated (2 * size)) state := by
  have roomSmall : 2 * size < 2 ^ 32 := by
    unfold decompressorMax at small
    omega
  have writes := rooms.1
  by_cases exceeds : decompressorMax < state.size + 2 * size
  · exact .fails _ (by rw [decompressRound, if_pos exceeds])
      (.refuses _ (not_fitsIn_of_room writes.reached.size_le rooms.2
        (by omega) exceeds))
  · have fits := Nat.le_of_not_lt exceeds
    obtain ⟨next, written, called⟩ := called_of_room calls.bytes writes
      roomSmall (Nat.le_of_eq (length_resize state.output _).symm)
      (take_resize writes.inside (Nat.le_add_right state.size _))
    have round : decompressRound zlib size state =
        match (zlib.inflate state.stream (2 * size)).2.1 with
        | .fails none => .error .undefinedBehavior
        | .fails (some message) => .error (.throws message)
        | _ => .ok next := by
      rw [decompressRound, if_neg exceeds]
      dsimp only
      rw [written, toNat_toUInt32 roomSmall]
    rcases code_of_reached calls writes.reached (2 * size) with
      ⟨before, goesOn⟩ | ⟨-, ended⟩
    · rw [goesOn] at round
      exact decompress_round_of_ok positive rooms called fits
        (fun last => absurd last (Nat.not_lt.mpr before)) round
    · rw [ended] at round
      cases ending : inflated.ending with
      | goesOn =>
          rw [ending] at round
          refine decompress_round_of_ok positive rooms called fits ?_ round
          intro last message failed
          rw [ending] at failed
          cases failed
      | streamEnd =>
          rw [ending] at round
          refine decompress_round_of_ok positive rooms called fits ?_ round
          intro last message failed
          rw [ending] at failed
          cases failed
      | fails message =>
          rw [ending] at round
          cases message with
          | none => exact .fails _ round (.undefined ending)
          | some what => exact .fails _ round (.fails what ending)

theorem decompress_loop (calls : zlib.InflatesInCalls data inflated)
    {size : Nat} (positive : 0 < size) (small : 2 * size ≤ decompressorMax)
    {fuel : Nat} (enough : inflated.output.length < fuel) :
    ∃ final, doWhile (decompressRound zlib size)
        (fun state => state.availOut == 0) fuel
          (.start (zlib.inflateStart data)) = some final ∧
      Decompresses inflated (2 * size) final :=
  doWhile_total (decompress_round calls positive small)
    ⟨writes_start zlib.inflateBytes (zlib.inflateStart data) inflated.output,
      Nat.dvd_zero _⟩
    (Nat.lt_of_le_of_lt (Nat.sub_le _ _) enough)

end Decompression

/-- `deflateBound`, for the default window and memory level and the gzip
wrapper. -/
def deflateBound (size : Nat) : Nat :=
  size + size / 4096 + size / 16384 + size / 33554432 + 25

/-- The documented behaviour of `inflate`: it keeps its contract, and an empty
input is one that is cut off. -/
structure Zlib.InflateDocumented (zlib : Zlib) (inflated : Bytes → Inflated) :
    Prop where
  inflates : ∀ data, 2 * data.length ≤ decompressorMax →
    zlib.InflatesInCalls data (inflated data)
  empty : inflated [] = ⟨[], .goesOn⟩

/-- The documented behaviour of zlib: also `deflate` keeps its contract, other
than for level zero; a compressed input has a header and is not much longer than
it was, and `inflate` undoes `deflate`. -/
structure Zlib.Documented (zlib : Zlib) (inflated : Bytes → Inflated) : Prop
    extends zlib.InflateDocumented inflated where
  deflates : ∀ level data, level ≠ 0 → zlib.deflateInit2 level = true →
    data.length ≤ compressorMax → zlib.DeflatesInCalls level data
  header : ∀ level data, level ≠ 0 → zlib.deflateInit2 level = true →
    data.length ≤ compressorMax → zlib.deflated level data ≠ []
  bounded : ∀ level data, level ≠ 0 → zlib.deflateInit2 level = true →
    data.length ≤ compressorMax →
      (zlib.deflated level data).length ≤ deflateBound data.length
  lossless : ∀ level data, level ≠ 0 → zlib.deflateInit2 level = true →
    data.length ≤ compressorMax →
      inflated (zlib.deflated level data) = ⟨data, .streamEnd⟩

/-- The decompressor can be initialised, and takes an input and its output for
small enough. -/
def Zlib.Admits (zlib : Zlib) (inflated : Bytes → Inflated) (data : Bytes) :
    Prop :=
  zlib.inflateInit2 = true ∧ 2 * data.length ≤ decompressorMax ∧
    FitsIn decompressorMax (2 * data.length) (inflated data).output

instance (zlib : Zlib) (inflated : Bytes → Inflated) (data : Bytes) :
    Decidable (zlib.Admits inflated data) :=
  inferInstanceAs (Decidable (_ ∧ _ ∧ _))

/-- How a call for an input ends: it returns the output of a stream that is
usable and admitted, and fails for every other one. -/
structure DecompressesTo (zlib : Zlib) (inflated : Bytes → Inflated)
    (data : Bytes) (result : Except Failure Bytes) : Prop where
  returns : ∀ output, result = .ok output ↔
    zlib.Admits inflated data ∧ (inflated data).Usable ∧
      output = (inflated data).output
  undefined : result = .error .undefinedBehavior →
    (inflated data).ending = .fails none

section Decompress

variable {zlib : Zlib} {inflated : Bytes → Inflated} {data : Bytes}

/-- A call that throws before the loop. -/
theorem decompressesTo_of_not_admits (refused : ¬ zlib.Admits inflated data)
    (what : String) :
    DecompressesTo zlib inflated data (.error (.throws what)) where
  returns := by
    intro output
    refine iff_of_false nofun ?_
    rintro ⟨admits, -, -⟩
    exact refused admits
  undefined := nofun

/-- The end of the loop as the end of the call. -/
theorem decompressesTo_of_loop (initialised : zlib.inflateInit2 = true)
    (small : 2 * data.length ≤ decompressorMax)
    {final : Except Failure (Delivery zlib.Inflate)}
    (ends : Decompresses (inflated data) (2 * data.length) final) :
    DecompressesTo zlib inflated data
      (final.map fun state => resize state.output state.size) := by
  cases ends with
  | returns state collected usable fits =>
      refine ⟨?_, nofun⟩
      intro output
      rw [Except.map, collected, Except.ok.injEq]
      constructor
      · intro same
        exact ⟨⟨initialised, small, fits⟩, usable, same.symm⟩
      · rintro ⟨-, -, same⟩
        exact same.symm
  | refuses what large =>
      exact decompressesTo_of_not_admits
        (fun admits => large admits.2.2) what
  | fails what ending =>
      refine ⟨?_, nofun⟩
      intro output
      refine iff_of_false nofun ?_
      rintro ⟨-, usable, -⟩
      exact usable _ ending
  | undefined ending =>
      refine ⟨?_, fun _ => ending⟩
      intro output
      refine iff_of_false nofun ?_
      rintro ⟨-, usable, -⟩
      exact usable _ ending

theorem decompress_of_nonempty (documented : zlib.InflateDocumented inflated)
    (nonempty : data ≠ []) {fuel : Nat}
    (enough : (inflated data).output.length < fuel) :
    ∃ result, decompress zlib fuel data = some result ∧
      DecompressesTo zlib inflated data result := by
  have positive := List.length_pos_of_ne_nil nonempty
  cases initialised : zlib.inflateInit2 with
  | false =>
      refine ⟨_, by rw [decompress, initialised]; rfl,
        decompressesTo_of_not_admits ?_ _⟩
      rintro ⟨initialised', -, -⟩
      rw [initialised] at initialised'
      cases initialised'
  | true =>
      by_cases large : decompressorMax < data.length ∨
          decompressorMax < data.length * 2
      · refine ⟨_, by rw [decompress, initialised, Bool.not_true,
          if_neg Bool.false_ne_true, if_pos large],
          decompressesTo_of_not_admits ?_ _⟩
        rintro ⟨-, small, -⟩
        omega
      · have small : 2 * data.length ≤ decompressorMax := by omega
        have sizeNat : data.length.toUInt32.toNat = data.length :=
          toNat_toUInt32 (by
            unfold decompressorMax at small
            omega)
        obtain ⟨final, ends, decompresses⟩ :=
          decompress_loop (documented.inflates data small) positive small
            enough
        refine ⟨_, ?_, decompressesTo_of_loop initialised small decompresses⟩
        rw [decompress, initialised, Bool.not_true,
          if_neg Bool.false_ne_true, if_neg large, sizeNat, List.take_length]
        dsimp only
        rw [ends]
        rfl

/-- A call for an empty input does not end: no round has any room. -/
theorem decompress_nil (documented : zlib.InflateDocumented inflated)
    (initialised : zlib.inflateInit2 = true) (fuel : Nat) :
    decompress zlib fuel [] = none := by
  have calls := documented.inflates [] (Nat.zero_le _)
  rw [documented.empty] at calls
  have endless := @doWhile_eq_none _ _ (decompressRound zlib 0)
    (fun state => state.availOut == 0)
    (fun state => Reached zlib.inflateBytes (zlib.inflateStart []) []
      state.stream 0 ∧ state.output = [] ∧ state.size = 0)
    (by
      rintro ⟨stream, output, size, availOut⟩ ⟨reached, rfl, rfl⟩
      have bytes := reached.delivered calls.bytes 0
      have code : (zlib.inflate stream 0).2.1 = .goesOn := by
        rcases code_of_reached calls reached 0 with ⟨-, code⟩ | ⟨-, code⟩
        · exact code
        · exact code
      refine ⟨⟨(zlib.inflateBytes stream 0).2, [], 0, 0⟩, ?_, rfl,
        reached.next 0, rfl, rfl⟩
      rw [decompressRound,
        if_neg (by decide : ¬ decompressorMax < 0 + 2 * 0)]
      have room : (2 * 0).toUInt32.toNat = 0 := rfl
      dsimp only
      rw [room, code, Delivery.write, bytes]
      rfl) (.start (zlib.inflateStart []))
    ⟨reached_start _ _ _, rfl, rfl⟩ fuel
  rw [decompress, initialised]
  simp only [List.length_nil, List.take_nil]
  rw [if_neg (by decide), if_neg (by decide)]
  exact congrArg _ endless

theorem decompress_mono {fuel more : Nat} {result : Except Failure Bytes}
    (ends : decompress zlib fuel data = some result) (enough : fuel ≤ more) :
    decompress zlib more data = some result := by
  unfold decompress at ends ⊢
  by_cases uninitialised : (!zlib.inflateInit2) = true
  · rw [if_pos uninitialised] at ends ⊢
    exact ends
  · rw [if_neg uninitialised] at ends ⊢
    by_cases large : decompressorMax < data.length ∨
        decompressorMax < data.length * 2
    · rw [if_pos large] at ends ⊢
      exact ends
    · rw [if_neg large] at ends ⊢
      exact map_doWhile_mono ends enough

/-- How `gzip::decompress` ends.  For an empty input it does not, once `inflate`
is initialised.  For any other one it returns the whole output of `inflate`
exactly if it takes input and output for small enough and `inflate` reports no
error, so also for a stream that is cut off; otherwise it throws, or makes a
string of a null pointer if the error has no text. -/
theorem decompress_spec (documented : zlib.InflateDocumented inflated)
    (data : Bytes) :
    (data = [] → zlib.inflateInit2 = true →
      ∀ fuel, decompress zlib fuel data = none) ∧
    (data ≠ [] → ∃ result, DecompressesTo zlib inflated data result ∧
      ∀ fuel, (inflated data).output.length < fuel →
        decompress zlib fuel data = some result) := by
  constructor
  · rintro rfl initialised fuel
    exact decompress_nil documented initialised fuel
  · intro nonempty
    obtain ⟨result, ends, decompresses⟩ :=
      decompress_of_nonempty documented nonempty (Nat.lt_succ_self _)
    refine ⟨result, decompresses, fun fuel enough => ?_⟩
    exact decompress_mono ends enough

end Decompress

/-- `IsInt32`. -/
def isInt32 : JsNumber → Bool
  | .finite value =>
      value.den == 1 && decide (-2147483648 ≤ value.num) &&
        decide (value.num ≤ 2147483647)
  | .infinite _ => false
  | .nan => false

/-- The level that `gzip.compress` passes on: that of the second argument, kept
between zero and nine, or `Z_DEFAULT_COMPRESSION`. -/
def compressionLevel (args : List JsValue) : Int :=
  match argument args 1 with
  | .number value =>
      if isInt32 value then max 0 (min value.int32Value 9) else -1
  | _ => -1

/-- The argument checks of `gzip.compress`, and the operation that its worker
performs. -/
def gzipCompress (args : List JsValue) : Except String Operation :=
  if args.length < 1 then
    .error "invalid function signature for gzip.compress"
  else
    match argument args 0 with
    | .string units =>
        .ok (.gzipCompress (encodeUtf8 units) (compressionLevel args))
    | _ =>
        .error "invalid first parameter, must be a string for gzip.compress"

/-- The worker sees the value that a coder returns, or the exception that it
throws. -/
def Reported : Except Failure Bytes → Except String Bytes → Prop
  | .ok output, answered => answered = .ok output
  | .error (.throws what), answered => answered = .error what
  | .error .undefinedBehavior, _ => True

/-- The answers of the gzip library are those of its coders. -/
structure Agrees (zlib : Zlib) (answer : Answers) : Prop where
  compress : ∀ string level fuel result,
    compress zlib fuel level string = some result →
      Reported result (answer (.library (.gzipCompress string level)))
  decompress : ∀ buffer fuel result,
    decompress zlib fuel buffer = some result →
      Reported result (answer (.library (.gzipDecompress buffer)))

/-- A conversion to a string, with its `ToLocalChecked`. -/
def stringEnding : RequestBody.NewString → CallEnding
  | .decodes bytes => .returns (.string (decodeUtf8 bytes))
  | .empty => .aborts
  | .overrun => .undefinedBehavior

/-- What `await` makes of a promise of the gzip module.  V8 ends the process
when an array or a string is too long. -/
def awaited : Settlement → Option CallEnding
  | .resolve (.uint8Array content) =>
      if content.length ≤ ViewArguments.typedArrayMaxLength then
        some (.returns (.uint8Array (FileContents.wholeBuffer content)))
      else some .aborts
  | .resolve (.text content) =>
      some (stringEnding (RequestBody.toV8 content))
  | .resolve _ => none
  | .reject message => some (.throws message)

/-- A call of the gzip module that a script awaits. -/
def awaitCall (answer : Answers) :
    Except String Operation → Option CallEnding
  | .error message => some (.throws message)
  | .ok operation =>
      (settlement? (operation.worker.trace answer)).bind awaited

/-- `await gzip.decompress(await gzip.compress(...args))`. -/
def compressAndBack (answer : Answers) (args : List JsValue) :
    Option CallEnding :=
  match awaitCall answer (gzipCompress args) with
  | some (.returns compressed) =>
      awaitCall answer (ViewArguments.decompress [compressed])
  | ending => ending

/-- How the script ends for a text. -/
def backEnding (zlib : Zlib) (inflated : Bytes → Inflated) (level : Int)
    (text : WString) : CallEnding :=
  if compressorMax < (encodeUtf8 text).length ∨
      zlib.deflateInit2 level = false then
    .throws "failed to compress using gzip."
  else if text ≠ [] ∧
      zlib.Admits inflated (zlib.deflated level (encodeUtf8 text)) then
    .returns (.string text)
  else .throws "failed to decompress using gzip."

theorem gzipSettlement_error (what : String) (payload : Bytes → Payload)
    (message : String) :
    gzipSettlement (.error what) payload message = .reject message :=
  rfl

theorem gzipSettlement_nil (payload : Bytes → Payload) (message : String) :
    gzipSettlement (.ok []) payload message = .reject message :=
  rfl

theorem awaited_uint8Array {content : Bytes}
    (short : content.length ≤ ViewArguments.typedArrayMaxLength) :
    awaited (.resolve (.uint8Array content)) =
      some (.returns (.uint8Array (FileContents.wholeBuffer content))) :=
  if_pos short

theorem awaited_text {content : Bytes}
    (short : RequestBody.toV8 content = .decodes content) :
    awaited (.resolve (.text content)) =
      some (.returns (.string (decodeUtf8 content))) :=
  congrArg (some ∘ stringEnding) short

/-- The promise of `gzip.compress`. -/
theorem awaitCall_compress {answer : Answers} {text : WString}
    (rest : List JsValue) {outcome : Except String Bytes}
    (answered : answer (.library (.gzipCompress (encodeUtf8 text)
      (compressionLevel (.string text :: rest)))) = outcome) :
    awaitCall answer (gzipCompress (.string text :: rest)) =
      awaited (gzipSettlement outcome .uint8Array
        "failed to compress using gzip.") := by
  have settled : settlement? ((ReportedCall.gzipCompress (encodeUtf8 text)
      (compressionLevel (.string text :: rest))).trace answer) =
      some (gzipSettlement outcome .uint8Array
        "failed to compress using gzip.") := by
    rw [trace_gzipCompress, settlement_finishing, answered]
  have accepted : gzipCompress (.string text :: rest) =
      .ok (.gzipCompress (encodeUtf8 text)
        (compressionLevel (.string text :: rest))) := rfl
  rw [accepted, awaitCall]
  exact congrArg (Option.bind · awaited) settled

/-- The promise of `gzip.decompress`. -/
theorem awaitCall_decompress {answer : Answers} (content : Bytes)
    {outcome : Except String Bytes}
    (answered : answer (.library (.gzipDecompress content)) = outcome) :
    awaitCall answer
        (ViewArguments.decompress
          [.uint8Array (FileContents.wholeBuffer content)]) =
      awaited (gzipSettlement outcome .text
        "failed to decompress using gzip.") := by
  have settled : settlement?
      ((ReportedCall.gzipDecompress content).trace answer) =
      some (gzipSettlement outcome .text
        "failed to decompress using gzip.") := by
    rw [trace_gzipDecompress, settlement_finishing, answered]
  have accepted : ViewArguments.decompress
      [.uint8Array (FileContents.wholeBuffer content)] =
      .ok (.gzipDecompress content) := rfl
  rw [accepted, awaitCall]
  exact congrArg (Option.bind · awaited) settled

/-- An output of the decompressor is not too long for a string. -/
theorem toV8_of_fitsIn {room : Nat} {output : Bytes} (positive : 0 < room)
    (fits : FitsIn decompressorMax room output) :
    RequestBody.toV8 output = .decodes output := by
  have length : output.length ≤ decompressorMax := by
    apply Nat.le_trans _ fits
    rw [Nat.add_one_mul]
    have division := Nat.div_add_mod' output.length room
    have remainder := Nat.mod_lt output.length positive
    omega
  unfold decompressorMax at length
  apply (RequestBody.toV8_eq_decodes_iff (by omega)).mpr
  unfold FileContents.stringMaxLength
  omega

/-- A compressed array is not too long for V8. -/
theorem deflateBound_le {size : Nat} (small : size ≤ compressorMax) :
    deflateBound size ≤ ViewArguments.typedArrayMaxLength := by
  unfold compressorMax at small
  unfold deflateBound ViewArguments.typedArrayMaxLength
  omega

/-- The second half of the script, for a text that was compressed. -/
theorem awaitCall_compressed {zlib : Zlib} {inflated : Bytes → Inflated}
    (documented : zlib.Documented inflated) {answer : Answers}
    (agrees : Agrees zlib answer) {text : WString}
    (wellFormed : WellFormed text) {level : Int} (deflates : level ≠ 0)
    (small : (encodeUtf8 text).length ≤ compressorMax)
    (initialised : zlib.deflateInit2 level = true) :
    awaitCall answer
        (ViewArguments.decompress [.uint8Array (FileContents.wholeBuffer
          (zlib.deflated level (encodeUtf8 text)))]) =
      some (if text ≠ [] ∧
          zlib.Admits inflated (zlib.deflated level (encodeUtf8 text)) then
        .returns (.string text)
      else .throws "failed to decompress using gzip.") := by
  have lossless :=
    documented.lossless level (encodeUtf8 text) deflates initialised small
  have header :=
    documented.header level (encodeUtf8 text) deflates initialised small
  obtain ⟨result, ends, decompresses⟩ :=
    decompress_of_nonempty documented.toInflateDocumented header
      (Nat.lt_succ_self _)
  have reported := agrees.decompress _ _ _ ends
  rw [awaitCall_decompress _ rfl]
  have usable : (inflated
      (zlib.deflated level (encodeUtf8 text))).Usable := by
    rw [lossless]
    exact nofun
  have returns := decompresses.returns (encodeUtf8 text)
  rw [lossless] at returns
  cases result with
  | ok output =>
      have output_eq := (decompresses.returns output).mp rfl
      have same : output = encodeUtf8 text := by
        rw [output_eq.2.2, lossless]
      rw [reported, same]
      by_cases empty : text = []
      · rw [if_neg (fun holds => holds.1 empty), empty, encodeUtf8_nil,
          gzipSettlement_nil]
        rfl
      · have nonempty : encodeUtf8 text ≠ [] := by
          rwa [ne_eq, encodeUtf8_eq_nil]
        have positive := List.length_pos_of_ne_nil header
        have fits := output_eq.1.2.2
        rw [lossless] at fits
        rw [if_pos ⟨empty, output_eq.1⟩, gzipSettlement_ok nonempty,
          awaited_text (toV8_of_fitsIn (by omega) fits),
          decodeUtf8_encodeUtf8 wellFormed]
  | error failure =>
      have refused : ¬ zlib.Admits inflated
          (zlib.deflated level (encodeUtf8 text)) := by
        intro admits
        cases (decompresses.returns (encodeUtf8 text)).mpr
          ⟨admits, usable, by rw [lossless]⟩
      rw [if_neg (fun holds => refused holds.2)]
      cases failure with
      | throws what =>
          rw [reported, gzipSettlement_error]
          rfl
      | undefinedBehavior =>
          have ending := decompresses.undefined rfl
          rw [lossless] at ending
          cases ending

/-- A script that compresses a well-formed string, with a level other than zero,
and decompresses the result gets the string back exactly if the string is not
empty, not longer than the compressor accepts, and short enough, compressed as
well as whole, for the decompressor; otherwise it catches one of the two error
messages. -/
theorem compressAndBack_eq {zlib : Zlib} {inflated : Bytes → Inflated}
    (documented : zlib.Documented inflated) {answer : Answers}
    (agrees : Agrees zlib answer) {text : WString}
    (wellFormed : WellFormed text) (rest : List JsValue)
    (deflates : compressionLevel (.string text :: rest) ≠ 0) :
    compressAndBack answer (.string text :: rest) =
      some (backEnding zlib inflated
        (compressionLevel (.string text :: rest)) text) := by
  rw [compressAndBack, awaitCall_compress rest rfl]
  generalize compressionLevel (.string text :: rest) = level at deflates ⊢
  rw [backEnding]
  by_cases large : compressorMax < (encodeUtf8 text).length
  · have reported := agrees.compress (encodeUtf8 text) level _ _
      (compress_of_calls (fun small => absurd large (Nat.not_lt.mpr small))
        (Nat.lt_succ_self _))
    rw [if_pos large] at reported
    rw [if_pos (.inl large), reported, gzipSettlement_error]
    rfl
  · have small := Nat.le_of_not_lt large
    cases initialised : zlib.deflateInit2 level with
    | false =>
        have refused : compress zlib 0 level (encodeUtf8 text) =
            some (.error (.throws "deflate init failed")) := by
          rw [compress, if_neg large, initialised]
          rfl
        have reported := agrees.compress (encodeUtf8 text) level _ _ refused
        rw [if_pos (.inr rfl), reported, gzipSettlement_error]
        rfl
    | true =>
        have compressed := compress_of_calls
          (documented.deflates level (encodeUtf8 text) deflates initialised)
          (Nat.lt_succ_self _)
        have started : ¬ zlib.deflateInit2 level = false := by
          rw [initialised]
          exact nofun
        have goesOn : ¬ (compressorMax < (encodeUtf8 text).length ∨
            true = false) := by
          rintro (exceeds | failed)
          · exact large exceeds
          · cases failed
        rw [if_neg large, if_neg started] at compressed
        have reported := agrees.compress (encodeUtf8 text) level _ _ compressed
        have short := Nat.le_trans (documented.bounded level (encodeUtf8 text)
          deflates initialised small) (deflateBound_le small)
        rw [reported, gzipSettlement_ok (documented.header level
          (encodeUtf8 text) deflates initialised small),
          awaited_uint8Array short]
        dsimp only
        rw [awaitCall_compressed documented agrees wellFormed deflates small
          initialised, if_neg goesOn]

/-- The answers that the coders give; the other calls answer as in the
sample. -/
def coderAnswers (zlib : Zlib) (inflated : Bytes → Inflated) : Answers
  | .library (.gzipCompress bytes level) =>
      answered
        (compress zlib ((zlib.deflated level bytes).length + 1) level bytes)
  | .library (.gzipDecompress buffer) =>
      answered
        (decompress zlib ((inflated buffer).output.length + 1) buffer)
  | effect => sampleAnswers effect
where
  answered : Option (Except Failure Bytes) → Except String Bytes
    | some (.ok output) => .ok output
    | some (.error (.throws what)) => .error what
    | some (.error .undefinedBehavior) => .error ""
    | none => .error ""

theorem reported_answered (result : Except Failure Bytes) :
    Reported result (coderAnswers.answered (some result)) := by
  cases result with
  | ok output => rfl
  | error failure =>
      cases failure with
      | throws what => rfl
      | undefinedBehavior => trivial

/-- Two bounds on the rounds that are both enough give the same result. -/
theorem eq_of_mono {run : Nat → Option (Except Failure Bytes)}
    (mono : ∀ {fuel more result}, run fuel = some result → fuel ≤ more →
      run more = some result)
    {first second : Nat} {result other : Except Failure Bytes}
    (ends : run first = some result) (endsToo : run second = some other) :
    run second = some result := by
  have later := mono ends (Nat.le_max_left first second)
  have laterToo := mono endsToo (Nat.le_max_right first second)
  rw [endsToo, ← laterToo, later]

theorem agrees_coderAnswers {zlib : Zlib} {inflated : Bytes → Inflated}
    (documented : zlib.InflateDocumented inflated)
    (calls : ∀ level data, data.length ≤ compressorMax →
      zlib.DeflatesInCalls level data) :
    Agrees zlib (coderAnswers zlib inflated) where
  compress := by
    intro bytes level fuel result ends
    have same := eq_of_mono compress_mono ends
      (compress_of_calls (calls level bytes) (Nat.lt_succ_self _))
    have reported := reported_answered result
    rw [← same] at reported
    exact reported
  decompress := by
    intro buffer fuel result ends
    have same : decompress zlib ((inflated buffer).output.length + 1)
        buffer = some result := by
      by_cases nonempty : buffer = []
      · cases initialised : zlib.inflateInit2 with
        | false =>
            rw [decompress, initialised] at ends ⊢
            exact ends
        | true =>
            rw [nonempty, decompress_nil documented initialised] at ends
            cases ends
      · obtain ⟨other, endsToo, -⟩ :=
          decompress_of_nonempty documented nonempty (Nat.lt_succ_self _)
        exact eq_of_mono decompress_mono ends endsToo
    have reported := reported_answered result
    rw [← same] at reported
    exact reported

theorem length_sampleDeflated_le (data : Bytes) :
    (sampleDeflated data).length ≤ deflateBound data.length := by
  unfold sampleDeflated deflateBound
  split_ifs with letter nothing
  · rw [letter]
    decide
  · rw [nothing]
    decide
  · rw [List.length_cons]
    omega

theorem sampleZlib_small (level : Int) (data : Bytes)
    (small : data.length ≤ compressorMax) :
    sampleZlib.deflated level data = sampleDeflated data ∧
      sampleZlib.DeflatesInCalls level data := by
  apply sampleZlib_calls
  apply Nat.lt_of_le_of_lt (length_sampleDeflated_le data)
  unfold compressorMax at small
  unfold deflateBound
  omega

theorem sampleInflated_sampleDeflated (data : Bytes) :
    sampleInflated (sampleDeflated data) = ⟨data, .streamEnd⟩ := by
  unfold sampleDeflated
  split_ifs with letter nothing
  · rw [letter]
    rfl
  · rw [nothing]
    rfl
  · rfl

theorem sampleZlib_inflates :
    sampleZlib.InflateDocumented sampleInflated where
  inflates := by
    intro data _
    have rest (rooms : List Nat) (inflated : Inflated) :
        after sampleZlib.inflateBytes inflated rooms =
          ⟨inflated.output.drop rooms.sum, inflated.ending⟩ := by
      induction rooms generalizing inflated with
      | nil => rfl
      | cons room rooms ih =>
          rw [List.sum_cons, ← List.drop_drop]
          exact ih ⟨inflated.output.drop room, inflated.ending⟩
    have stands (rooms : List Nat) :
        after sampleZlib.inflateBytes (sampleZlib.inflateStart data) rooms =
          (⟨(sampleInflated data).output.drop rooms.sum,
            (sampleInflated data).ending⟩ : Inflated) :=
      rest rooms (sampleInflated data)
    constructor
    · intro rooms room
      rw [stands]
      rfl
    · intro rooms room
      rw [stands]
      change Inflated.Reports _ _ (if room < List.length _ then _ else _)
      rw [List.length_drop]
      by_cases more : room < (sampleInflated data).output.length - rooms.sum
      · rw [if_pos more]
        exact .inl ⟨by omega, rfl⟩
      · rw [if_neg more]
        exact .inr ⟨by omega, rfl⟩
  empty := rfl

theorem sampleZlib_documented : sampleZlib.Documented sampleInflated where
  toInflateDocumented := sampleZlib_inflates
  deflates := by
    intro level data _ _ small
    exact (sampleZlib_small level data small).2
  header := by
    intro level data _ _ small
    rw [(sampleZlib_small level data small).1, sampleDeflated]
    split_ifs
    · decide
    · decide
    · exact List.cons_ne_nil _ _
  bounded := by
    intro level data _ _ small
    rw [(sampleZlib_small level data small).1]
    exact length_sampleDeflated_le data
  lossless := by
    intro level data _ _ small
    rw [(sampleZlib_small level data small).1,
      sampleInflated_sampleDeflated]

/-- The stream of a letter without its last byte is taken for a whole one. -/
theorem decompress_spec_letter :
    decompress sampleZlib 2 streamOfLetter.dropLast = some (.ok [0x61]) ∧
      decompress sampleZlib 2 [] = none := by
  have spec := decompress_spec sampleZlib_inflates
  obtain ⟨result, decompresses, ends⟩ :=
    (spec streamOfLetter.dropLast).2 (by decide)
  have usable : (sampleInflated streamOfLetter.dropLast).Usable := by
    intro message failed
    have ending :
        (sampleInflated streamOfLetter.dropLast).ending = .goesOn :=
      rfl
    rw [ending] at failed
    cases failed
  have returned : result = .ok [0x61] :=
    (decompresses.returns [0x61]).mpr ⟨by decide, usable, rfl⟩
  refine ⟨?_, (spec []).1 rfl rfl 2⟩
  rw [← returned]
  exact ends 2 (by decide)

/-- A letter comes back. -/
theorem compressAndBack_letter :
    compressAndBack (coderAnswers sampleZlib sampleInflated)
        [.string [0x61], .number (.finite 12)] =
      some (.returns (.string [0x61])) := by
  have wellFormed : WellFormed [0x61] := by
    simp [WellFormed, IsHigh, IsLow]
  rw [compressAndBack_eq sampleZlib_documented
    (agrees_coderAnswers sampleZlib_inflates
      fun level data small => (sampleZlib_small level data small).2)
    wellFormed _ (by decide)]
  decide

end GzipStreams

end IISModuleJS
