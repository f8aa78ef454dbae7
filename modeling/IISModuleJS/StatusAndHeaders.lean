import IISModuleJS.RequestBody
import IISModuleJS.ResponseWrite

/-!
# The status and the headers of a response

IIS takes the status code and the length of a header value as unsigned 16-bit
numbers.  The functions of the API pass a 32-bit integer or a 64-bit length,
which the call converts without a check.  `response.write` cuts its body for a
length of 16 bits, but not the values of the headers that it sets.
-/

namespace IISModuleJS

namespace StatusAndHeaders

open JsValue TextEncoding
open RequestBody (typeOf)
open ResponseWrite (Header selectBuffer setHeaders chunkCount)

/-- `from_v8<int>` without a default. -/
def fromV8Int : JsValue → Except String Int
  | .number value => .ok value.int32Value
  | value => .error ("expected Number, typeof=" ++ typeOf value)

/-- `from_v8<std::string>`, and `from_v8<const char*>`. -/
def fromV8String : JsValue → Except String (List UInt8)
  | .string units => .ok (encodeUtf8 units)
  | value => .error ("expected String, typeof=" ++ typeOf value)

/-- `from_v8<bool>` with a default. -/
def fromV8BoolOr (default : Bool) : JsValue → Bool
  | .boolean value => value
  | _ => default

/-- A string that IIS takes as a pointer. -/
def cText (bytes : List UInt8) : List UInt8 :=
  bytes.takeWhile (· ≠ 0)

/-- What `SetStatus` gets. -/
structure StatusCall where
  statusCode : UInt16
  reason : List UInt8
  deriving DecidableEq

/-- `response.setStatus`.  The result of the call of IIS is an argument. -/
def setStatus (attached succeeds : Bool) (args : List JsValue) :
    CallEnding × Option StatusCall :=
  if !attached then
    (.throws "invalid p_http_response for setStatus", none)
  else if args.length < 2 then
    (.throws "invalid signature for setStatus", none)
  else
    match fromV8Int (argument args 0) with
    | .error message => (.throws message, none)
    | .ok statusCode =>
        match fromV8String (argument args 1) with
        | .error message => (.throws message, none)
        | .ok statusMessage =>
            (if succeeds then .returns .undefined
              else .throws "failed to setStatus",
              some ⟨.ofInt statusCode, cText statusMessage⟩)

/-- What `SetHeader` gets. -/
structure HeaderCall where
  headerName : List UInt8
  value : List UInt8
  valueLength : UInt16
  replace : Bool
  deriving DecidableEq

/-- `setHeader` of both objects, which differ in one message. -/
def setHeader (missing : String) (attached succeeds : Bool)
    (args : List JsValue) : CallEnding × Option HeaderCall :=
  if !attached then (.throws missing, none)
  else if args.length < 2 then
    (.throws "invalid signature for setHeader", none)
  else
    match fromV8String (argument args 0) with
    | .error message => (.throws message, none)
    | .ok headerName =>
        match fromV8String (argument args 1) with
        | .error message => (.throws message, none)
        | .ok value =>
            (if succeeds then .returns .undefined
              else .throws "failed to set header",
              some
                { headerName := cText headerName
                  value := value
                  valueLength := value.length.toUInt16
                  replace := fromV8BoolOr true (argument args 2) })

/-- `response.setHeader`. -/
def responseSetHeader : Bool → Bool → List JsValue →
    CallEnding × Option HeaderCall :=
  setHeader "invalid p_http_response for setHeader"

/-- `request.setHeader`. -/
def requestSetHeader : Bool → Bool → List JsValue →
    CallEnding × Option HeaderCall :=
  setHeader "invalid p_http_request for setHeader"

/-- What `SetHeader` gets from `response.write`. -/
structure ContentHeaderCall where
  header : Header
  value : List UInt8
  valueLength : UInt16
  deriving DecidableEq

def contentHeaderCall (header : Header) (value : List UInt8) :
    ContentHeaderCall :=
  ⟨header, value, value.length.toUInt16⟩

/-- The type of the content; HTML unless the argument is a string. -/
def contentType : JsValue → List UInt8
  | .string mimeType => encodeUtf8 mimeType
  | _ => "text/html".toList.map fun c => c.toNat.toUInt8

/-- The calls for the type and the encoding of the content. -/
def contentHeaderCalls (args : List JsValue) : List ContentHeaderCall :=
  match argument args 2 with
  | .string contentEncoding =>
      [contentHeaderCall .contentType (contentType (argument args 1)),
        contentHeaderCall .contentEncoding (encodeUtf8 contentEncoding)]
  | _ => [contentHeaderCall .contentType (contentType (argument args 1))]

/-- The calls that `response.write` makes before it writes; without a body
there are none. -/
def writeHeaderCalls (attached pointerIsNull : Bool) (args : List JsValue) :
    List ContentHeaderCall :=
  if !attached then []
  else if args.length < 1 then []
  else
    match selectBuffer pointerIsNull (argument args 0) with
    | .error _ => []
    | .ok _ => contentHeaderCalls args

/-- The header that IIS takes from a call. -/
def ContentHeaderCall.received (call : ContentHeaderCall) :
    Header × List UInt8 :=
  (call.header, call.value.take call.valueLength.toNat)

theorem setHeaders_eq (args : List JsValue) :
    setHeaders args =
      (contentHeaderCalls args).map ContentHeaderCall.received := by
  unfold setHeaders contentHeaderCalls
  cases argument args 1 <;> cases argument args 2 <;> rfl

/-- The headers of `response.write` are those of its calls. -/
theorem headers_of_write {attached pointerIsNull : Bool}
    {succeeded : Nat → Bool} {fuel : Nat} {args : List JsValue}
    {ending : CallEnding} {written : ResponseWrite.Written}
    (writes : ResponseWrite.write attached pointerIsNull succeeded fuel args =
      some (ending, written)) :
    written.headers = (writeHeaderCalls attached pointerIsNull args).map
      ContentHeaderCall.received := by
  unfold ResponseWrite.write at writes
  unfold writeHeaderCalls
  split at writes
  next detached =>
    cases writes
    rw [if_pos detached]
    rfl
  next isAttached =>
    rw [if_neg isAttached]
    split at writes
    next bare =>
      cases writes
      rw [if_pos bare]
      rfl
    next given =>
      rw [if_neg given]
      cases selected : selectBuffer pointerIsNull (argument args 0) with
      | error failure =>
          rw [selected] at writes
          cases writes
          rfl
      | ok buffer =>
          rw [selected] at writes
          dsimp only at writes ⊢
          rw [← setHeaders_eq]
          split at writes
          next => cases writes
          next =>
            cases writes
            rfl
          next =>
            cases writes
            rfl

theorem toNat_ofInt_eq_iff (value : Int) :
    ((UInt16.ofInt value).toNat : Int) = value ↔
      0 ≤ value ∧ value < 65536 := by
  have reduced : (UInt16.ofInt value).toNat = (value % 2 ^ 16).toNat := by
    rw [UInt16.ofInt, UInt16.toNat_ofNat']
    omega
  rw [reduced]
  omega

theorem toNat_toUInt16_eq_iff (length : Nat) :
    length.toUInt16.toNat = length ↔ length < 2 ^ 16 := by
  rw [Nat.toUInt16_eq, UInt16.toNat_ofNat']
  omega

theorem contentHeaderCall_exact_iff (header : Header) (value : List UInt8) :
    (contentHeaderCall header value).valueLength.toNat =
      (contentHeaderCall header value).value.length ↔
        value.length < 2 ^ 16 :=
  toNat_toUInt16_eq_iff value.length

/-- An argument that is there is within the length of the list. -/
theorem lt_length_of_argument {args : List JsValue} {index : Nat}
    (given : argument args index ≠ .undefined) : index < args.length := by
  by_contra beyond
  have missing : args[index]? = none :=
    List.getElem?_eq_none (Nat.le_of_not_lt beyond)
  simp [argument, List.getD, missing] at given

/-- The UTF-8 bytes of a string. -/
def utf8 : JsValue → List UInt8
  | .string units => encodeUtf8 units
  | _ => []

/-- A call of `response.setStatus` throws, or IIS gets the integer of the
script. -/
def StatusExact (args : List JsValue) : Prop :=
  ∀ attached succeeds,
    (∃ message, (setStatus attached succeeds args).1 = .throws message) ∨
    ∃ call, (setStatus attached succeeds args).2 = some call ∧
      (call.statusCode.toNat : Int) = (argument args 0).intOrZero

/-- A call that sets a header throws, or IIS gets the length of the script's
string. -/
def HeaderExact (function : Bool → Bool → List JsValue →
    CallEnding × Option HeaderCall) (args : List JsValue) : Prop :=
  ∀ attached succeeds,
    (∃ message, (function attached succeeds args).1 = .throws message) ∨
    ∃ call, (function attached succeeds args).2 = some call ∧
      call.valueLength.toNat = (utf8 (argument args 1)).length

/-- A call of `response.write` throws, or IIS gets the lengths of the values of
all headers. -/
def WriteExact (pointerIsNull : Bool) (args : List JsValue) : Prop :=
  ∀ attached succeeded fuel ending written,
    ResponseWrite.write attached pointerIsNull succeeded fuel args =
        some (ending, written) →
      (∃ message, ending = .throws message) ∨
      ∀ call ∈ writeHeaderCalls attached pointerIsNull args,
        call.valueLength.toNat = call.value.length

/-- A status code that fits, if there is one. -/
def StatusFits (args : List JsValue) : Prop :=
  ∀ status message, argument args 0 = .number status →
    argument args 1 = .string message →
      0 ≤ status.int32Value ∧ status.int32Value < 65536

/-- The value of a header that fits, if there is one. -/
def ValueFits (args : List JsValue) : Prop :=
  ∀ headerName value, argument args 0 = .string headerName →
    argument args 1 = .string value → (encodeUtf8 value).length < 2 ^ 16

/-- A type and an encoding of the content that fit, if there is a body. -/
def ContentFits (pointerIsNull : Bool) (args : List JsValue) : Prop :=
  ∀ body, selectBuffer pointerIsNull (argument args 0) = .ok body →
    (∀ mimeType, argument args 1 = .string mimeType →
      (encodeUtf8 mimeType).length < 2 ^ 16) ∧
    ∀ contentEncoding, argument args 2 = .string contentEncoding →
      (encodeUtf8 contentEncoding).length < 2 ^ 16

/-- A call with a number and a string gets to IIS. -/
theorem setStatus_eq {args : List JsValue} {status : JsNumber}
    {message : WString} (first : argument args 0 = .number status)
    (second : argument args 1 = .string message) (succeeds : Bool) :
    setStatus true succeeds args =
      (if succeeds then .returns .undefined
        else .throws "failed to setStatus",
        some ⟨.ofInt status.int32Value, cText (encodeUtf8 message)⟩) := by
  have given : 1 < args.length :=
    lt_length_of_argument (by simp [second])
  rw [setStatus, if_neg (by simp), if_neg (by omega), first, second]
  rfl

theorem fromV8Int_cases (value : JsValue) :
    (∃ message, fromV8Int value = .error message) ∨
      ∃ status, value = .number status := by
  cases value with
  | number status => exact .inr ⟨status, rfl⟩
  | _ => exact .inl ⟨_, rfl⟩

theorem fromV8String_cases (value : JsValue) :
    (∃ message, fromV8String value = .error message) ∨
      ∃ units, value = .string units := by
  cases value with
  | string units => exact .inr ⟨units, rfl⟩
  | _ => exact .inl ⟨_, rfl⟩

/-- Every other call throws. -/
theorem setStatus_throws_or (attached succeeds : Bool) (args : List JsValue) :
    (∃ message, (setStatus attached succeeds args).1 = .throws message) ∨
      attached = true ∧ ∃ status message,
        argument args 0 = .number status ∧
          argument args 1 = .string message := by
  cases attached with
  | false => exact .inl ⟨_, rfl⟩
  | true =>
      by_cases few : args.length < 2
      · refine .inl ⟨"invalid signature for setStatus", ?_⟩
        rw [setStatus, if_neg (by simp), if_pos few]
      · rw [setStatus, if_neg (by simp), if_neg few]
        rcases fromV8Int_cases (argument args 0) with
          ⟨message, rejected⟩ | ⟨status, first⟩
        · rw [rejected]
          exact .inl ⟨_, rfl⟩
        · rcases fromV8String_cases (argument args 1) with
            ⟨message, rejected⟩ | ⟨units, second⟩
          · rw [first, rejected]
            exact .inl ⟨_, rfl⟩
          · exact .inr ⟨rfl, status, units, first, second⟩

theorem statusExact_iff (args : List JsValue) :
    StatusExact args ↔ StatusFits args := by
  constructor
  · intro exactly status message first second
    have called := setStatus_eq first second true
    rcases exactly true true with ⟨text, throws⟩ | ⟨call, made, same⟩
    · rw [called] at throws
      cases throws
    · rw [called] at made
      cases made
      rw [first] at same
      exact (toNat_ofInt_eq_iff _).mp same
  · intro fits attached succeeds
    rcases setStatus_throws_or attached succeeds args with
      throws | ⟨rfl, status, message, first, second⟩
    · exact .inl throws
    · refine .inr ⟨_, by rw [setStatus_eq first second succeeds], ?_⟩
      rw [first]
      exact (toNat_ofInt_eq_iff _).mpr (fits status message first second)

/-- A call with two strings gets to IIS. -/
theorem setHeader_eq {args : List JsValue} {headerName value : WString}
    (first : argument args 0 = .string headerName)
    (second : argument args 1 = .string value) (missing : String)
    (succeeds : Bool) :
    setHeader missing true succeeds args =
      (if succeeds then .returns .undefined
        else .throws "failed to set header",
        some
          { headerName := cText (encodeUtf8 headerName)
            value := encodeUtf8 value
            valueLength := (encodeUtf8 value).length.toUInt16
            replace := fromV8BoolOr true (argument args 2) }) := by
  have given : 1 < args.length :=
    lt_length_of_argument (by simp [second])
  rw [setHeader, if_neg (by simp), if_neg (by omega), first, second]
  rfl

/-- Every other call throws. -/
theorem setHeader_throws_or (missing : String) (attached succeeds : Bool)
    (args : List JsValue) :
    (∃ message,
      (setHeader missing attached succeeds args).1 = .throws message) ∨
      attached = true ∧ ∃ headerName value,
        argument args 0 = .string headerName ∧
          argument args 1 = .string value := by
  cases attached with
  | false => exact .inl ⟨_, rfl⟩
  | true =>
      by_cases few : args.length < 2
      · refine .inl ⟨"invalid signature for setHeader", ?_⟩
        rw [setHeader, if_neg (by simp), if_pos few]
      · rw [setHeader, if_neg (by simp), if_neg few]
        rcases fromV8String_cases (argument args 0) with
          ⟨message, rejected⟩ | ⟨headerName, first⟩
        · rw [rejected]
          exact .inl ⟨_, rfl⟩
        · rcases fromV8String_cases (argument args 1) with
            ⟨message, rejected⟩ | ⟨value, second⟩
          · rw [first, rejected]
            exact .inl ⟨_, rfl⟩
          · exact .inr ⟨rfl, headerName, value, first, second⟩

theorem headerExact_iff (missing : String) (args : List JsValue) :
    HeaderExact (setHeader missing) args ↔ ValueFits args := by
  constructor
  · intro exactly headerName value first second
    have called := setHeader_eq first second missing true
    rcases exactly true true with ⟨text, throws⟩ | ⟨call, made, same⟩
    · rw [called] at throws
      cases throws
    · rw [called] at made
      cases made
      rw [second] at same
      exact (toNat_toUInt16_eq_iff _).mp same
  · intro fits attached succeeds
    rcases setHeader_throws_or missing attached succeeds args with
      throws | ⟨rfl, headerName, value, first, second⟩
    · exact .inl throws
    · refine .inr ⟨_, by rw [setHeader_eq first second missing succeeds], ?_⟩
      rw [second]
      exact (toNat_toUInt16_eq_iff _).mpr
        (fits headerName value first second)

/-- The default type is short. -/
theorem length_contentType_lt_iff (value : JsValue) :
    (contentType value).length < 2 ^ 16 ↔
      ∀ mimeType, value = .string mimeType →
        (encodeUtf8 mimeType).length < 2 ^ 16 := by
  cases value with
  | string units => simp [contentType]
  | _ => exact iff_of_true (by simp [contentType]) (by simp)

/-- The lengths of all headers are exact if those of the two arguments fit. -/
theorem contentHeaderCalls_exact_iff (args : List JsValue) :
    (∀ call ∈ contentHeaderCalls args,
      call.valueLength.toNat = call.value.length) ↔
    (∀ mimeType, argument args 1 = .string mimeType →
      (encodeUtf8 mimeType).length < 2 ^ 16) ∧
    ∀ contentEncoding, argument args 2 = .string contentEncoding →
      (encodeUtf8 contentEncoding).length < 2 ^ 16 := by
  rw [← length_contentType_lt_iff, contentHeaderCalls]
  cases argument args 2 <;> simp [contentHeaderCall_exact_iff]

/-- If all chunks are written, the call returns. -/
theorem write_returns {pointerIsNull : Bool} {args : List JsValue}
    {body : List UInt8}
    (selected : selectBuffer pointerIsNull (argument args 0) = .ok body) :
    ∃ written, ResponseWrite.write true pointerIsNull (fun _ => true)
      (chunkCount body.length.toUInt32.toNat) args =
        some (.returns .undefined, written) :=
  ⟨_, ResponseWrite.write_returns selected (Nat.le_refl _)
    fun _ _ => rfl⟩

theorem writeExact_iff (pointerIsNull : Bool) (args : List JsValue) :
    WriteExact pointerIsNull args ↔ ContentFits pointerIsNull args := by
  constructor
  · intro exactly body selected
    obtain ⟨written, writes⟩ := write_returns selected
    rcases exactly _ _ _ _ _ writes with ⟨message, throws⟩ | same
    · cases throws
    · have given : ¬ args.length < 1 := by
        intro none
        have empty : args = [] := List.eq_nil_of_length_eq_zero (by omega)
        rw [empty] at selected
        cases pointerIsNull <;> cases selected
      rw [writeHeaderCalls, if_neg (by simp), if_neg given, selected] at same
      exact (contentHeaderCalls_exact_iff args).mp same
  · intro fits attached succeeded fuel ending written writes
    refine .inr ?_
    unfold writeHeaderCalls
    split
    · simp
    · split
      · simp
      · cases selected : selectBuffer pointerIsNull (argument args 0) with
        | error failure => simp
        | ok body =>
            exact (contentHeaderCalls_exact_iff args).mpr
              (fits body selected)

/-- The numbers of 16 bits that IIS gets.  A call of `response.setStatus` throws
or passes the integer of the script in all cases exactly if that is a number of
16 bits.  A call that sets a header, and a call of `response.write` for its type
and its encoding, throws or passes the length of the script's string in all
cases exactly if that has less than `2 ^ 16` bytes. -/
theorem shorts_exact_iff (pointerIsNull : Bool) (args : List JsValue) :
    (StatusExact args ↔ StatusFits args) ∧
    (HeaderExact responseSetHeader args ↔ ValueFits args) ∧
    (HeaderExact requestSetHeader args ↔ ValueFits args) ∧
    (WriteExact pointerIsNull args ↔ ContentFits pointerIsNull args) :=
  ⟨statusExact_iff args, headerExact_iff _ args, headerExact_iff _ args,
    writeExact_iff pointerIsNull args⟩

/-- The status 65736 arrives as 200. -/
theorem status_65736_not_exact :
    let args : List JsValue :=
      [.number (.finite 65736), .string [0x4F, 0x4B]]
    setStatus true true args =
      (.returns .undefined, some ⟨200, [0x4F, 0x4B]⟩) ∧
    (argument args 0).intOrZero = 65736 ∧ ¬ StatusExact args := by
  intro args
  refine ⟨by decide, by decide, ?_⟩
  intro exactly
  have fits := (statusExact_iff args).mp exactly _ _ rfl rfl
  exact absurd fits (by decide)

end StatusAndHeaders

end IISModuleJS
