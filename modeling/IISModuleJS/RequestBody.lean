import IISModuleJS.FileContents
import IISModuleJS.FueledLoop

/-!
# `request.read` and the entity body

`request.read` takes the body of a request out of IIS in pieces of at most 4096
bytes, until IIS reports that nothing remains, and converts the bytes to a
string.  If its argument is `true` it puts the bytes back.

How IIS cuts the body is not known, and the loop only looks at the number of
bytes that remain.  The conversion works on bodies up to the longest string of
V8; the argument is looked at when the body is already gone.
-/

namespace IISModuleJS

namespace RequestBody

open JsValue TextEncoding FueledLoop FileContents

/-- `typeof value`. -/
def typeOf : JsValue → String
  | .undefined => "undefined"
  | .null => "object"
  | .boolean _ => "boolean"
  | .number _ => "number"
  | .string _ => "string"
  | .uint8Array _ => "object"
  | .function _ => "function"
  | .promise _ => "object"
  | .object _ => "object"

/-- `from_v8<bool>` without a default. -/
def fromV8Bool : JsValue → Except String Bool
  | .boolean value => .ok value
  | value => .error ("expected Boolean, typeof=" ++ typeOf value)

/-- What IIS answers to the calls for a request, by the number of calls before:
how many bytes it would like to deliver, if it delivers any, and whether memory
is allocated and a body inserted. -/
structure Iis where
  readEntityBody : Nat → Option Nat
  allocateRequestMemory : Nat → Bool
  insertEntityBody : Nat → Bool

/-- All calls succeed. -/
structure Iis.Succeeds (iis : Iis) : Prop where
  reads : ∀ call, (iis.readEntityBody call).isSome
  allocates : ∀ call, iis.allocateRequestMemory call = true
  inserts : ∀ call, iis.insertEntityBody call = true

/-- The body that remains of a request, and the number of calls to IIS. -/
structure Request where
  remaining : List UInt8
  calls : Nat
  deriving DecidableEq

/-- `GetRemainingEntityBytes`. -/
def Request.remainingBytes (request : Request) : UInt32 :=
  request.remaining.length.toUInt32

/-- `BUFFER_SIZE`. -/
def bufferSize : Nat := 4096

/-- The number of bytes that a successful `ReadEntityBody` delivers: at least
one, and no more than the buffer takes and than remain. -/
def delivered (wanted remaining : Nat) : Nat :=
  max 1 (min wanted (min bufferSize remaining))

/-- The state of the loop: the request, `bytes` and `remaining_bytes`. -/
structure Collected where
  request : Request
  bytes : List UInt8
  remainingBytes : UInt32
  deriving DecidableEq

/-- The body of the loop. -/
def round (iis : Iis) (state : Collected) :
    Except (String × Request) Collected :=
  let request := state.request
  match iis.readEntityBody request.calls with
  | none =>
      .error ("failed to read entity body",
        { request with calls := request.calls + 1 })
  | some wanted =>
      let count := delivered wanted request.remaining.length
      let next : Request := ⟨request.remaining.drop count, request.calls + 1⟩
      .ok ⟨next, state.bytes ++ request.remaining.take count,
        next.remainingBytes⟩

/-- The loop of `request.read`, with a bound on its rounds. -/
def collect (iis : Iis) (fuel : Nat) (request : Request) :
    Option (Except (String × Request) Collected) :=
  whileDo (fun state => state.remainingBytes != 0) (round iis) fuel
    ⟨request, [], request.remainingBytes⟩

/-- What `String::NewFromUtf8` makes of its data: the bytes that it decodes, an
empty handle, or a read past the end of the data. -/
inductive NewString
  | decodes (bytes : List UInt8)
  | empty
  | overrun
  deriving DecidableEq

/-- `String::NewFromUtf8`.  A negative length asks for the data up to the first
null byte. -/
def newFromUtf8 (data : List UInt8) (length : Int) : NewString :=
  if 0 ≤ length then
    if length ≤ stringMaxLength then .decodes (data.take length.toNat)
    else .empty
  else if 0 ∈ data then
    let text := data.takeWhile (· ≠ 0)
    if text.length ≤ stringMaxLength then .decodes text else .empty
  else .overrun

/-- `static_cast<int>`. -/
def toInt (size : Nat) : Int :=
  (size : Int).bmod (2 ^ 32)

/-- `v8pp::to_v8(isolate, bytes.data(), bytes.size())`, up to the
`ToLocalChecked`. -/
def toV8 (bytes : List UInt8) : NewString :=
  newFromUtf8 bytes (toInt bytes.length)

/-- The part of `request.read` after the conversion. -/
def rewriteBody (iis : Iis) (args : List JsValue) (bytes : List UInt8)
    (value : JsValue) (request : Request) : CallEnding × Request :=
  if args.length < 1 then (.returns value, request)
  else
    match fromV8Bool (argument args 0) with
    | .error message => (.throws message, request)
    | .ok false => (.returns value, request)
    | .ok true =>
        if !iis.allocateRequestMemory request.calls then
          (.throws "invalid allocation pointer for read.",
            { request with calls := request.calls + 1 })
        else if !iis.insertEntityBody (request.calls + 1) then
          (.throws "failed to rewrite",
            { request with calls := request.calls + 2 })
        else (.returns value, ⟨bytes, request.calls + 2⟩)

/-- The part of `request.read` after `NewFromUtf8`.  `ToLocalChecked` ends the
process on an empty handle. -/
def convertBody (iis : Iis) (args : List JsValue) (bytes : List UInt8)
    (request : Request) : NewString → CallEnding × Request
  | .decodes text =>
      rewriteBody iis args bytes (.string (decodeUtf8 text)) request
  | .empty => (.aborts, request)
  | .overrun => (.undefinedBehavior, request)

/-- `request.read`. -/
def read (iis : Iis) (attached : Bool) (fuel : Nat) (request : Request)
    (args : List JsValue) : Option (CallEnding × Request) :=
  if !attached then
    some (.throws "invalid p_http_request for read", request)
  else if request.remainingBytes = 0 then
    some (.returns .null, request)
  else
    match collect iis fuel request with
    | none => none
    | some (.error (message, after)) => some (.throws message, after)
    | some (.ok state) =>
        some (convertBody iis args state.bytes state.request
          (toV8 state.bytes))

/-- Calls of `request.read` one after another, with their arguments. -/
def reads (iis : Iis) (fuel : Nat) :
    Request → List (List JsValue) → Option (List CallEnding × Request)
  | request, [] => some ([], request)
  | request, args :: rest =>
      match read iis true fuel request args with
      | none => none
      | some (ending, after) =>
          if ending.goesOn then
            (reads iis fuel after rest).map fun later =>
              (ending :: later.1, later.2)
          else some ([ending], after)

theorem remainingBytes_eq_zero_iff {request : Request}
    (small : request.remaining.length < 2 ^ 32) :
    request.remainingBytes = 0 ↔ request.remaining = [] := by
  have size : request.remainingBytes.toNat = request.remaining.length :=
    UInt32.toNat_ofNat_of_lt' small
  rw [← UInt32.toNat_inj, size]
  exact List.length_eq_zero_iff

/-- The invariant of the loop: what was collected and what remains are the body
together, and something remains. -/
structure Underway (body : List UInt8) (state : Collected) : Prop where
  whole : state.bytes ++ state.request.remaining = body
  remains : state.request.remaining ≠ []

/-- The end of the loop: the body is collected and nothing remains. -/
def CollectedAll (body : List UInt8) :
    Except (String × Request) Collected → Prop
  | .ok state =>
      state.bytes = body ∧ state.request.remaining = []
  | .error _ => False

theorem length_drop_delivered (wanted : Nat) {remaining : List UInt8}
    (remains : remaining ≠ []) :
    (remaining.drop (delivered wanted remaining.length)).length <
      remaining.length := by
  have positive := List.length_pos_iff.mpr remains
  rw [List.length_drop, delivered]
  omega

theorem round_underway {iis : Iis} (succeeds : iis.Succeeds)
    {body : List UInt8} (small : body.length < 2 ^ 32) {state : Collected}
    (underway : Underway body state) :
    Round (round iis) (fun state => state.remainingBytes != 0) (Underway body)
      (fun state => state.request.remaining.length) (CollectedAll body)
      state := by
  obtain ⟨wanted, answer⟩ :=
    Option.isSome_iff_exists.mp (succeeds.reads state.request.calls)
  have closer := length_drop_delivered wanted underway.remains
  have whole : state.bytes ++
      state.request.remaining.take
        (delivered wanted state.request.remaining.length) ++
      state.request.remaining.drop
        (delivered wanted state.request.remaining.length) = body := by
    rw [List.append_assoc, List.take_append_drop, underway.whole]
  have rest : (state.request.remaining.drop
      (delivered wanted state.request.remaining.length)).length < 2 ^ 32 := by
    have total := congrArg List.length whole
    rw [List.length_append] at total
    omega
  have done : round iis state = .ok
      ⟨⟨state.request.remaining.drop
          (delivered wanted state.request.remaining.length),
          state.request.calls + 1⟩,
        state.bytes ++ state.request.remaining.take
          (delivered wanted state.request.remaining.length),
        (⟨state.request.remaining.drop
          (delivered wanted state.request.remaining.length),
          state.request.calls + 1⟩ : Request).remainingBytes⟩ := by
    simp only [round, answer]
  by_cases last : state.request.remaining.drop
      (delivered wanted state.request.remaining.length) = []
  · refine .leaves _ done ?_ ⟨?_, last⟩
    · simpa using (remainingBytes_eq_zero_iff rest).mpr last
    · rw [last, List.append_nil] at whole
      exact whole
  · refine .continues _ done ?_ ⟨whole, last⟩ closer
    simpa using fun zero => last ((remainingBytes_eq_zero_iff rest).mp zero)

/-- For every way of cutting the body, the loop terminates with the bytes of
the body in order. -/
theorem collect_eq {iis : Iis} (succeeds : iis.Succeeds) {body : List UInt8}
    (small : body.length < 2 ^ 32) (calls : Nat) {fuel : Nat}
    (enough : body.length < fuel) :
    ∃ later remainingBytes, collect iis fuel ⟨body, calls⟩ =
      some (.ok ⟨⟨[], later⟩, body, remainingBytes⟩) := by
  obtain ⟨final, run, collected⟩ :=
    @whileDo_total _ _ (round iis) (fun state => state.remainingBytes != 0)
      (Underway body) (fun state => state.request.remaining.length)
      (CollectedAll body) (fun _ => round_underway succeeds small) fuel
      ⟨⟨body, calls⟩, [], (⟨body, calls⟩ : Request).remainingBytes⟩
      (fun more => ⟨rfl, fun none => by
        simp [(remainingBytes_eq_zero_iff small).mpr none] at more⟩)
      (fun done => by
        have none : body = [] :=
          (@remainingBytes_eq_zero_iff ⟨body, calls⟩ small).mp
            (by simpa using done)
        exact ⟨none.symm, none⟩)
      enough
  cases final with
  | error failure => exact absurd collected id
  | ok state =>
      obtain ⟨⟨remaining, later⟩, bytes, remainingBytes⟩ := state
      obtain ⟨rfl, rfl⟩ := collected
      exact ⟨later, remainingBytes, run⟩

theorem read_detached {iis : Iis} {fuel : Nat} (request : Request)
    (args : List JsValue) :
    read iis false fuel request args =
      some (.throws "invalid p_http_request for read", request) :=
  rfl

theorem read_empty {iis : Iis} {fuel calls : Nat} (args : List JsValue) :
    read iis true fuel ⟨[], calls⟩ args = some (.returns .null, ⟨[], calls⟩) :=
  rfl

/-- A call that finds a body converts all of it. -/
theorem read_body {iis : Iis} (succeeds : iis.Succeeds) {body : List UInt8}
    (small : body.length < 2 ^ 32) (remains : body ≠ []) (calls : Nat)
    {fuel : Nat} (enough : body.length < fuel) (args : List JsValue) :
    ∃ later, read iis true fuel ⟨body, calls⟩ args =
      some (convertBody iis args body ⟨[], later⟩ (toV8 body)) := by
  obtain ⟨later, remainingBytes, run⟩ := collect_eq succeeds small calls enough
  have more : ¬ (⟨body, calls⟩ : Request).remainingBytes = 0 :=
    fun zero => remains ((remainingBytes_eq_zero_iff small).mp zero)
  refine ⟨later, ?_⟩
  rw [read, if_neg (by simp), if_neg more, run]

theorem toInt_of_lt {size : Nat} (small : size < 2 ^ 31) :
    toInt size = size := by
  unfold toInt Int.bmod
  dsimp only
  split <;> omega

theorem toInt_neg {size : Nat} (large : 2 ^ 31 ≤ size)
    (small : size < 2 ^ 32) : toInt size < 0 := by
  unfold toInt Int.bmod
  dsimp only
  split <;> omega

/-- The conversion decodes the whole body exactly up to the longest string. -/
theorem toV8_eq_decodes_iff {body : List UInt8}
    (small : body.length < 2 ^ 32) :
    toV8 body = .decodes body ↔ body.length ≤ stringMaxLength := by
  have limit : stringMaxLength < 2 ^ 31 := by
    unfold stringMaxLength
    omega
  by_cases positive : body.length < 2 ^ 31
  · rw [toV8, toInt_of_lt positive, newFromUtf8, if_pos (by omega)]
    by_cases fits : body.length ≤ stringMaxLength
    · rw [if_pos (by exact_mod_cast fits)]
      simp [fits]
    · rw [if_neg (by exact_mod_cast fits)]
      simp [fits]
  · have negative := toInt_neg (Nat.le_of_not_lt positive) small
    rw [toV8, newFromUtf8, if_neg (by omega)]
    constructor
    · intro same
      dsimp only at same
      split_ifs at same with terminated short
      have equal := NewString.decodes.inj same
      rw [equal] at short
      exact short
    · intro fits
      omega

theorem length_lt_of_fits {body : List UInt8}
    (fits : body.length ≤ stringMaxLength) : body.length < 2 ^ 32 := by
  unfold stringMaxLength at fits
  omega

/-- The value of a body: nothing is left to read of an empty one. -/
def bodyValue (body : List UInt8) : JsValue :=
  if body = [] then .null else .string (decodeUtf8 body)

/-- `read()` of a body that a string can hold returns it and leaves nothing. -/
theorem read_plain {iis : Iis} (succeeds : iis.Succeeds) {body : List UInt8}
    (fits : body.length ≤ stringMaxLength) (calls : Nat) {fuel : Nat}
    (enough : body.length < fuel) :
    ∃ later, read iis true fuel ⟨body, calls⟩ [] =
      some (.returns (bodyValue body), ⟨[], later⟩) := by
  have small := length_lt_of_fits fits
  have converted := (toV8_eq_decodes_iff small).mpr fits
  rcases eq_or_ne body [] with rfl | remains
  · exact ⟨calls, rfl⟩
  · obtain ⟨later, run⟩ := read_body succeeds small remains calls enough []
    refine ⟨later, ?_⟩
    rw [run, converted, convertBody, bodyValue, if_neg remains]
    rfl

/-- `read(true)` returns it as well and puts it back. -/
theorem read_rewrite {iis : Iis} (succeeds : iis.Succeeds) {body : List UInt8}
    (fits : body.length ≤ stringMaxLength) (calls : Nat) {fuel : Nat}
    (enough : body.length < fuel) :
    ∃ later, read iis true fuel ⟨body, calls⟩ [.boolean true] =
      some (.returns (bodyValue body), ⟨body, later⟩) := by
  have small := length_lt_of_fits fits
  have converted := (toV8_eq_decodes_iff small).mpr fits
  rcases eq_or_ne body [] with rfl | remains
  · exact ⟨calls, rfl⟩
  · obtain ⟨later, run⟩ :=
      read_body succeeds small remains calls enough [.boolean true]
    refine ⟨later + 2, ?_⟩
    rw [run, converted, convertBody, bodyValue, if_neg remains]
    simp [rewriteBody, fromV8Bool, argument, succeeds.allocates,
      succeeds.inserts]

theorem reads_cons {iis : Iis} {fuel : Nat} {request after final : Request}
    {args : List JsValue} {value : JsValue} {rest : List (List JsValue)}
    {later : List CallEnding}
    (first : read iis true fuel request args = some (.returns value, after))
    (others : reads iis fuel after rest = some (later, final)) :
    reads iis fuel request (args :: rest) =
      some (.returns value :: later, final) := by
  rw [reads, first]
  simp only [CallEnding.goesOn, if_true, others, Option.map_some]

/-- After any number of `read(true)` calls, `read()` returns the body once
more, and then nothing is left. -/
theorem reads_restore {iis : Iis} (succeeds : iis.Succeeds)
    {body : List UInt8} (fits : body.length ≤ stringMaxLength) (calls : Nat)
    {fuel : Nat} (enough : body.length < fuel) (rewrites : Nat) :
    ∃ final, reads iis fuel ⟨body, calls⟩
        (List.replicate rewrites [.boolean true] ++ [[], []]) =
      some (List.replicate rewrites (.returns (bodyValue body)) ++
        [.returns (bodyValue body), .returns .null], final) := by
  induction rewrites generalizing calls with
  | zero =>
      obtain ⟨later, first⟩ := read_plain succeeds fits calls enough
      exact ⟨⟨[], later⟩, reads_cons first (reads_cons (read_empty []) rfl)⟩
  | succ rewrites ih =>
      obtain ⟨later, first⟩ := read_rewrite succeeds fits calls enough
      obtain ⟨final, others⟩ := ih later
      exact ⟨final, reads_cons first others⟩

/-- What `request.read` is to do with a body: collect all of it however IIS
cuts it, convert exactly the collected bytes, and restore the body. -/
structure ReadsAndRestores (body : List UInt8) : Prop where
  collects : ∀ (iis : Iis), iis.Succeeds → ∀ calls fuel, body.length < fuel →
    ∃ later remainingBytes, collect iis fuel ⟨body, calls⟩ =
      some (.ok ⟨⟨[], later⟩, body, remainingBytes⟩)
  converts : toV8 body = .decodes body
  restores : ∀ (iis : Iis), iis.Succeeds → ∀ calls fuel, body.length < fuel →
    ∀ rewrites, ∃ final, reads iis fuel ⟨body, calls⟩
        (List.replicate rewrites [.boolean true] ++ [[], []]) =
      some (List.replicate rewrites (.returns (bodyValue body)) ++
        [.returns (bodyValue body), .returns .null], final)

/-- `request.read` reads and restores a body exactly if V8 has strings of its
length. -/
theorem readsAndRestores_iff {body : List UInt8}
    (small : body.length < 2 ^ 32) :
    ReadsAndRestores body ↔ body.length ≤ stringMaxLength := by
  constructor
  · intro restores
    exact (toV8_eq_decodes_iff small).mp restores.converts
  · intro fits
    refine ⟨?_, (toV8_eq_decodes_iff small).mpr fits, ?_⟩
    · intro iis succeeds calls fuel enough
      exact collect_eq succeeds small calls enough
    · intro iis succeeds calls fuel enough rewrites
      exact reads_restore succeeds fits calls enough rewrites

theorem readsAndRestores_three : ReadsAndRestores [97, 98, 99] :=
  (readsAndRestores_iff (by decide)).mpr (by simp [stringMaxLength])

/-- A body that is too long for a string but not for an `int` ends the
process. -/
theorem toV8_eq_empty {body : List UInt8} (long : stringMaxLength < body.length)
    (small : body.length < 2 ^ 31) : toV8 body = .empty := by
  rw [toV8, toInt_of_lt small, newFromUtf8, if_pos (by omega),
    if_neg (by omega)]

/-- IIS delivers one byte at a time, and all calls succeed. -/
def bytewise : Iis :=
  ⟨fun _ => some 1, fun _ => true, fun _ => true⟩

theorem bytewise_succeeds : bytewise.Succeeds :=
  ⟨fun _ => rfl, fun _ => rfl, fun _ => rfl⟩

/-- A request with a body of one gibibyte ends the process. -/
theorem read_aborts_gibibyte :
    let body : List UInt8 := List.replicate (2 ^ 30) 97
    (∃ later, read bytewise true (2 ^ 30 + 1) ⟨body, 0⟩ [] =
      some (.aborts, ⟨[], later⟩)) ∧
    ¬ ReadsAndRestores body := by
  intro body
  have length : body.length = 2 ^ 30 := List.length_replicate
  have long : stringMaxLength < body.length := by
    rw [length, stringMaxLength]
    omega
  have small : body.length < 2 ^ 31 := by
    rw [length]
    omega
  have conversion := toV8_eq_empty long small
  refine ⟨?_, ?_⟩
  · have remains : body ≠ [] := List.length_pos_iff.mp (by omega)
    obtain ⟨later, run⟩ := @read_body _ bytewise_succeeds body (by omega)
      remains 0 (2 ^ 30 + 1) (by omega) []
    exact ⟨later, by rw [run, conversion, convertBody]⟩
  · intro restores
    have converts := restores.converts
    rw [conversion] at converts
    cases converts

/-- If a call throws, what remains of the body is what remained before. -/
def KeepsBody (iis : Iis) (attached : Bool) (fuel : Nat) (request : Request)
    (args : List JsValue) : Prop :=
  ∀ message after, read iis attached fuel request args =
    some (.throws message, after) → after.remaining = request.remaining

/-- The condition under which nothing can be thrown once the body is gone: the
argument is one that converts, or the process does not get that far. -/
def SafeArgument (request : Request) (args : List JsValue) : Prop :=
  request.remaining = [] ∨ args = [] ∨
    (∃ flag, argument args 0 = .boolean flag) ∨
    ∀ text, toV8 request.remaining ≠ .decodes text

/-- With an argument that is a boolean, or none, nothing is thrown after the
conversion. -/
theorem rewriteBody_returns {iis : Iis} (succeeds : iis.Succeeds)
    {args : List JsValue} (bytes : List UInt8) (value : JsValue)
    (request : Request)
    (converts : args = [] ∨ ∃ flag, argument args 0 = .boolean flag) :
    ∃ after, rewriteBody iis args bytes value request =
      (.returns value, after) := by
  by_cases given : args.length < 1
  · exact ⟨request, by rw [rewriteBody, if_pos given]⟩
  · rcases converts with rfl | ⟨flag, boolean⟩
    · exact absurd (Nat.zero_lt_one) given
    · rw [rewriteBody, if_neg given, boolean]
      cases flag with
      | false => exact ⟨request, rfl⟩
      | true =>
          refine ⟨⟨bytes, request.calls + 2⟩, ?_⟩
          simp [fromV8Bool, succeeds.allocates, succeeds.inserts]

/-- With any other argument the call throws, and the body stays consumed. -/
theorem rewriteBody_throws {iis : Iis} {args : List JsValue}
    (bytes : List UInt8) (value : JsValue) (request : Request)
    (given : args ≠ []) (other : ∀ flag, argument args 0 ≠ .boolean flag) :
    rewriteBody iis args bytes value request =
      (.throws ("expected Boolean, typeof=" ++ typeOf (argument args 0)),
        request) := by
  have positive := List.length_pos_iff.mpr given
  have converted : fromV8Bool (argument args 0) =
      .error ("expected Boolean, typeof=" ++ typeOf (argument args 0)) := by
    cases first : argument args 0 with
    | boolean flag => exact absurd first (other flag)
    | _ => rfl
  rw [rewriteBody, if_neg (by omega), converted]

/-- The conversion throws nothing if the argument is a boolean, or none, or
there is nothing to decode. -/
theorem convertBody_not_throws {iis : Iis} (succeeds : iis.Succeeds)
    {args : List JsValue} (bytes : List UInt8) (request : Request)
    {string : NewString}
    (safe : args = [] ∨ (∃ flag, argument args 0 = .boolean flag) ∨
      ∀ text, string ≠ .decodes text)
    (message : String) (after : Request) :
    convertBody iis args bytes request string ≠ (.throws message, after) := by
  intro threw
  cases string with
  | decodes text =>
      have converts : args = [] ∨ ∃ flag, argument args 0 = .boolean flag := by
        rcases safe with empty | boolean | never
        · exact .inl empty
        · exact .inr boolean
        · exact absurd rfl (never text)
      obtain ⟨final, returned⟩ := rewriteBody_returns succeeds bytes
        (.string (decodeUtf8 text)) request converts
      rw [convertBody, returned] at threw
      cases threw
  | empty => cases threw
  | overrun => cases threw

/-- A call that throws keeps the body exactly in these cases: the object
belongs to no request, nothing remains, no argument is given, the argument is a
boolean, or the conversion before it ends the process. -/
theorem keepsBody_iff {iis : Iis} (succeeds : iis.Succeeds) (attached : Bool)
    {request : Request} (small : request.remaining.length < 2 ^ 32)
    {fuel : Nat} (enough : request.remaining.length < fuel)
    (args : List JsValue) :
    KeepsBody iis attached fuel request args ↔
      attached = false ∨ SafeArgument request args := by
  obtain ⟨body, calls⟩ := request
  cases attached with
  | false =>
      refine ⟨fun _ => .inl rfl, fun _ message after threw => ?_⟩
      rw [read_detached] at threw
      cases threw
      rfl
  | true =>
      by_cases none : body = []
      · refine ⟨fun _ => .inr (.inl none), fun _ message after threw => ?_⟩
        rw [none, read_empty] at threw
        cases threw
      obtain ⟨later, run⟩ := read_body succeeds small none calls enough args
      constructor
      · intro keeps
        by_contra outside
        simp only [Bool.true_eq_false, SafeArgument, false_or, not_or,
          not_exists, not_forall, not_not] at outside
        obtain ⟨-, given, other, text, decodes⟩ := outside
        rw [decodes, convertBody, rewriteBody_throws body _ _ given other]
          at run
        exact none (keeps _ _ run).symm
      · intro condition message after threw
        rw [run] at threw
        rcases condition with detached | gone | converts
        · cases detached
        · exact absurd gone none
        · exact absurd (Option.some.inj threw)
            (convertBody_not_throws succeeds body ⟨[], later⟩ converts
              message after)

/-- `read(true)` does not lose a body of three bytes. -/
theorem keepsBody_true :
    KeepsBody bytewise true 4 ⟨[97, 98, 99], 0⟩ [.boolean true] :=
  (keepsBody_iff bytewise_succeeds true (by decide) (by decide) _).mpr
    (.inr (.inr (.inr (.inl ⟨true, rfl⟩))))

/-- `read(1)` throws and loses it. -/
theorem read_loses_body :
    read bytewise true 4 ⟨[97, 98, 99], 0⟩ [.number (.finite 1)] =
      some (.throws "expected Boolean, typeof=number", ⟨[], 3⟩) ∧
    ¬ KeepsBody bytewise true 4 ⟨[97, 98, 99], 0⟩ [.number (.finite 1)] := by
  have run : read bytewise true 4 ⟨[97, 98, 99], 0⟩ [.number (.finite 1)] =
      some (.throws "expected Boolean, typeof=number", ⟨[], 3⟩) := by
    decide
  refine ⟨run, fun keeps => ?_⟩
  have same := keeps _ _ run
  cases same

end RequestBody

end IISModuleJS
