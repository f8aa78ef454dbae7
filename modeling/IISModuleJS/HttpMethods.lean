import IISModuleJS.EffectProgram
import IISModuleJS.RequestBody
import IISModuleJS.RequestObjects
import IISModuleJS.ResponseBody
import IISModuleJS.ResponseWrite
import IISModuleJS.StatusAndHeaders

/-!
# The methods of the response and request objects

Most methods convert their arguments, make at most one call of IIS, and turn the
answer into a value or an exception.  Only `response.write` and `request.read`
have loops, and can throw when calls before have changed something.  This file
has all methods as programs over the calls.
-/

namespace IISModuleJS

namespace HttpMethods

open JsValue TextEncoding EffectProgram CallbackEngine
open RequestBody (fromV8Bool)
open ResponseBody (Fresh RawResponse)
open ResponseWrite (Header Counters Written selectBuffer setHeaders
  firstCounters nextCounters chunkCall chunkBytes)
open StatusAndHeaders (fromV8Int fromV8String fromV8BoolOr cText StatusCall
  HeaderCall)

/-- `HTTP_COOKED_URL`: the text behind `pFullUrl`, where the other pointers
point in it, and the lengths in bytes. -/
structure CookedUrl where
  text : WString
  host : Nat
  absPath : Nat
  queryString : Nat
  fullUrlLength : UInt16
  hostLength : UInt16
  absPathLength : UInt16
  queryStringLength : UInt16

/-- A `SOCKADDR`, with what `InetNtopA` makes of it. -/
inductive SocketAddress
  | inet (text : List UInt8)
  | inet6 (text : List UInt8)
  | other

/-- A call on `IHttpResponse` or `IHttpRequest`, with what it receives.  A string
without a length ends at its first null byte. -/
inductive IisCall
  | clear
  | clearHeaders
  | closeConnection
  | disableBuffering
  | setNeedDisconnect
  | resetConnection
  | getKernelCacheEnabled
  | getStatus
  | setStatus (call : StatusCall)
  | redirect (url : List UInt8) (resetStatusCode includeParameters : Bool)
  | setErrorDescription (description : WString) (length : UInt32)
      (shouldHtmlEncode : Bool)
  | disableKernelCache (reason : UInt32)
  | deleteHeader (headerName : List UInt8)
  | getHeader (headerName : List UInt8)
  | setHeader (call : HeaderCall)
  | setUrl (url : List UInt8) (length : UInt32) (resetQueryString : Bool)
  | getHttpMethod
  | getRawHttpRequest
  | getLocalAddress
  | getRemoteAddress
  | setKnownHeader (header : Header) (value : List UInt8)
  | writeEntityChunks (bytes : List UInt8) (moreData : Bool)
  | getRawHttpResponse
  | getRemainingEntityBytes
  | readEntityBody (size : Nat)
  | allocateRequestMemory (size : Nat)
  | insertEntityBody (bytes : List UInt8)

/-- What a call gives: whether it succeeded, or its result.  A successful
`ReadEntityBody` gives the bytes. -/
abbrev IisCall.Answer : IisCall → Type
  | .clear => Unit
  | .clearHeaders => Unit
  | .closeConnection => Unit
  | .disableBuffering => Unit
  | .setNeedDisconnect => Unit
  | .resetConnection => Unit
  | .getKernelCacheEnabled => Bool
  | .getStatus => UInt16
  | .setStatus _ => Bool
  | .redirect _ _ _ => Bool
  | .setErrorDescription _ _ _ => Bool
  | .disableKernelCache _ => Unit
  | .deleteHeader _ => Bool
  | .getHeader _ => Option (List UInt8)
  | .setHeader _ => Bool
  | .setUrl _ _ _ => Bool
  | .getHttpMethod => List UInt8
  | .getRawHttpRequest => CookedUrl
  | .getLocalAddress => Option SocketAddress
  | .getRemoteAddress => Option SocketAddress
  | .setKnownHeader _ _ => Bool
  | .writeEntityChunks _ _ => Bool
  | .getRawHttpResponse => RawResponse
  | .getRemainingEntityBytes => UInt32
  | .readEntityBody _ => Option (List UInt8)
  | .allocateRequestMemory _ => Bool
  | .insertEntityBody _ => Bool

/-- A call that left IIS as it was: it failed, or it only looked. -/
def IisCall.ChangedNothing : (call : IisCall) → call.Answer → Prop
  | .setStatus _, succeeded => succeeded = false
  | .redirect _ _ _, succeeded => succeeded = false
  | .setErrorDescription _ _ _, succeeded => succeeded = false
  | .deleteHeader _, succeeded => succeeded = false
  | .setHeader _, succeeded => succeeded = false
  | .setUrl _ _ _, succeeded => succeeded = false
  | .setKnownHeader _ _, succeeded => succeeded = false
  | .writeEntityChunks _ _, succeeded => succeeded = false
  | .getKernelCacheEnabled, _ => True
  | .getStatus, _ => True
  | .getHeader _, _ => True
  | .getHttpMethod, _ => True
  | .getRawHttpRequest, _ => True
  | .getLocalAddress, _ => True
  | .getRemoteAddress, _ => True
  | .getRawHttpResponse, _ => True
  | .getRemainingEntityBytes, _ => True
  | _, _ => False

abbrev IisProgram :=
  Program IisCall IisCall.Answer CallEnding

/-- A program with a loop has no ending if the bound on its rounds is used
up. -/
abbrev LoopProgram :=
  Program IisCall IisCall.Answer (Option CallEnding)

/-- Go on with a converted argument; a failed conversion throws. -/
def withArgument {Value : Type} (converted : Except String Value)
    (next : Value → IisProgram) : IisProgram :=
  match converted with
  | .error message => .done (.throws message)
  | .ok value => next value

/-- A method with too few arguments throws. -/
def withSignature (count : Nat) (name : String) (args : List JsValue)
    (next : IisProgram) : IisProgram :=
  if args.length < count then
    .done (.throws ("invalid signature for " ++ name))
  else next

/-- `if (FAILED(hr)) throw std::exception(...)`. -/
def checked (message : String) (succeeded : Bool) : IisProgram :=
  .done (if succeeded then .returns .undefined else .throws message)

/-- A call without a result. -/
def finished (_ : Unit) : IisProgram :=
  .done (.returns .undefined)

/-- `SetStatus` and `SetHeader`: the arguments decide whether there is a call,
and its result how the method ends. -/
def ofCall {Call : Type} (ending : Bool → CallEnding × Option Call)
    (perform : Call → (Bool → IisProgram) → IisProgram) : IisProgram :=
  match (ending true).2 with
  | none => .done (ending true).1
  | some call => perform call fun succeeded => .done (ending succeeded).1

def setStatus (args : List JsValue) : IisProgram :=
  ofCall (fun succeeded => StatusAndHeaders.setStatus true succeeded args)
    fun call next => .perform (.setStatus call) next

def redirect (args : List JsValue) : IisProgram :=
  withSignature 3 "redirect" args <|
    withArgument (fromV8String (argument args 0)) fun url =>
    withArgument (fromV8Bool (argument args 1)) fun resetStatusCode =>
    withArgument (fromV8Bool (argument args 2)) fun includeParameters =>
      .perform (.redirect (cText url) resetStatusCode includeParameters)
        (checked "failed to redirect")

/-- `from_v8<std::wstring>`. -/
def fromV8Wide : JsValue → Except String WString
  | .string units => .ok units
  | value => .error ("expected String, typeof=" ++ RequestBody.typeOf value)

def setErrorDescription (args : List JsValue) : IisProgram :=
  withSignature 2 "setErrorDescription" args <|
    withArgument (fromV8Wide (argument args 0)) fun description =>
    withArgument (fromV8Bool (argument args 1)) fun shouldHtmlEncode =>
      .perform (.setErrorDescription description description.length.toUInt32
          shouldHtmlEncode)
        (checked "failed to set error description")

def disableKernelCache (args : List JsValue) : IisProgram :=
  withSignature 1 "disableKernelCache" args <|
    withArgument (fromV8Int (argument args 0)) fun reason =>
      .perform (.disableKernelCache (.ofInt reason)) finished

def deleteHeader (args : List JsValue) : IisProgram :=
  withSignature 1 "deleteHeader" args <|
    withArgument (fromV8String (argument args 0)) fun headerName =>
      .perform (.deleteHeader (cText headerName))
        (checked "failed to delete header")

def setHeader (missing : String) (args : List JsValue) : IisProgram :=
  ofCall (fun succeeded =>
      StatusAndHeaders.setHeader missing true succeeded args)
    fun call next => .perform (.setHeader call) next

section

variable (toText : JsValue → Option WString)

/-- `v8::String::Utf8Value`.  What is no string is converted to one, which may
fail. -/
def utf8Value : JsValue → Option (List UInt8)
  | .string units => some (encodeUtf8 units)
  | value => (toText value).map encodeUtf8

/-- `NewFromUtf8`, or null for a null pointer. -/
def headerText : Option (List UInt8) → IisProgram
  | none => .done (.returns .null)
  | some value => .done (.returns (.string (decodeUtf8 value)))

def getHeader (args : List JsValue) : IisProgram :=
  withSignature 1 "getHeader" args <|
    match utf8Value toText (argument args 0) with
    | none => .done (.returns .null)
    | some headerName => .perform (.getHeader (cText headerName)) headerText

end

def setUrl (args : List JsValue) : IisProgram :=
  withSignature 1 "setUrl" args <|
    match argument args 0 with
    | .string units =>
        .perform (.setUrl (encodeUtf8 units)
            (encodeUtf8 units).length.toUInt32
            (fromV8BoolOr true (argument args 1)))
          (checked "failed to set url")
    | _ => .done (.throws "first parameter must be a string.")

/-- A string of units of the URL; nothing is known if they are not all
there. -/
def urlPart (url : CookedUrl) (start bytes : Nat) : IisProgram :=
  if start + bytes / 2 ≤ url.text.length then
    .done (.returns (.string ((url.text.drop start).take (bytes / 2))))
  else .done .undefinedBehavior

/-- `sock_to_ip`. -/
def sockToIp : Option SocketAddress → IisProgram
  | none => .done (.throws "invalid address for sock_to_ip")
  | some (.inet text) => .done (.returns (.string (decodeUtf8 text)))
  | some (.inet6 text) => .done (.returns (.string (decodeUtf8 text)))
  | some .other => .done (.throws "invalid family for sock_to_ip")

def getPath (url : CookedUrl) : IisProgram :=
  urlPart url url.absPath
    (url.absPathLength.toNat + url.queryStringLength.toNat)

/-- The loop of `response.write` over the chunks. -/
def writeLoop (buffer : List UInt8) : Nat → Counters → LoopProgram
  | 0, _ => .done none
  | fuel + 1, counters =>
      .perform (.writeEntityChunks (chunkBytes buffer (chunkCall counters))
          counters.hasMoreData) fun succeeded =>
        if succeeded then
          if (nextCounters buffer.length.toUInt32 counters).hasMoreData then
            writeLoop buffer fuel
              (nextCounters buffer.length.toUInt32 counters)
          else .done (some (.returns .undefined))
        else .done (some (.throws "failed to write"))

/-- The calls of `SetHeader` in `response.write`, with results that nobody looks
at. -/
def setAll (next : LoopProgram) : List (Header × List UInt8) → LoopProgram
  | [] => next
  | header :: headers =>
      .perform (.setKnownHeader header.1 header.2) fun _ => setAll next headers

/-- `response.write`. -/
def write (pointerIsNull : Bool) (fuel : Nat) (args : List JsValue) :
    LoopProgram :=
  if args.length < 1 then
    .done (some (.throws "invalid signature for write"))
  else
    match selectBuffer pointerIsNull (argument args 0) with
    | .error ending => .done (some ending)
    | .ok buffer =>
        setAll (writeLoop buffer fuel (firstCounters buffer.length.toUInt32))
          (setHeaders args)

/-- `response.read`. -/
def readResponse (fresh : Fresh) (args : List JsValue) : LoopProgram :=
  .perform .getRawHttpResponse fun raw =>
    .done (some (ResponseBody.read true fresh raw args))

/-- What `request.read` does with the answer of `ReadEntityBody`. -/
def takePiece (next : List UInt8 → LoopProgram) :
    Option (List UInt8) → LoopProgram
  | none => .done (some (.throws "failed to read entity body"))
  | some [] => .done (some (.throws "failed to read entity body"))
  | some (byte :: bytes) => next (byte :: bytes)

/-- The loop of `request.read`. -/
def readLoop (next : List UInt8 → LoopProgram) :
    Nat → List UInt8 → UInt32 → LoopProgram
  | 0, _, _ => .done none
  | fuel + 1, bytes, remainingBytes =>
      if remainingBytes = 0 then next bytes
      else
        .perform (.readEntityBody RequestBody.bufferSize) <| takePiece fun piece =>
          .perform .getRemainingEntityBytes fun remaining =>
            readLoop next fuel (bytes ++ piece) remaining

/-- The part of `request.read` behind the conversion. -/
def rewriteBody (args : List JsValue) (bytes : List UInt8) (value : JsValue) :
    LoopProgram :=
  if args.length < 1 then .done (some (.returns value))
  else
    match fromV8Bool (argument args 0) with
    | .error message => .done (some (.throws message))
    | .ok false => .done (some (.returns value))
    | .ok true =>
        .perform (.allocateRequestMemory bytes.length) fun allocated =>
          if allocated then
            .perform (.insertEntityBody bytes) fun inserted =>
              .done (some (if inserted then .returns value
                else .throws "failed to rewrite"))
          else
            .done (some (.throws "invalid allocation pointer for read."))

/-- The part of `request.read` behind `NewFromUtf8`. -/
def convertBody (args : List JsValue) (bytes : List UInt8) :
    RequestBody.NewString → LoopProgram
  | .decodes text => rewriteBody args bytes (.string (decodeUtf8 text))
  | .empty => .done (some .aborts)
  | .overrun => .done (some .undefinedBehavior)

/-- `request.read`. -/
def readRequest (fuel : Nat) (args : List JsValue) : LoopProgram :=
  .perform .getRemainingEntityBytes fun first =>
    if first = 0 then .done (some (.returns .null))
    else
      .perform .getRemainingEntityBytes fun remaining =>
        readLoop (fun bytes =>
            convertBody args bytes (RequestBody.toV8 bytes))
          fuel [] remaining

/-- What a call finds in memory that nothing has set before. -/
structure Memory where
  pointerIsNull : Bool
  fresh : Fresh

/-- A program that needs no bound. -/
def ended (program : IisProgram) : LoopProgram :=
  program.map some

section

variable (toText : JsValue → Option WString) (fuel : Nat) (memory : Memory)
  (args : List JsValue)

def responseMethod : ResponseMethod → LoopProgram
  | .clear => ended (.perform .clear finished)
  | .clearHeaders => ended (.perform .clearHeaders finished)
  | .closeConnection => ended (.perform .closeConnection finished)
  | .disableBuffering => ended (.perform .disableBuffering finished)
  | .setNeedDisconnect => ended (.perform .setNeedDisconnect finished)
  | .resetConnection => ended (.perform .resetConnection finished)
  | .getKernelCacheEnabled =>
      ended <| .perform .getKernelCacheEnabled fun enabled =>
        .done (.returns (.boolean enabled))
  | .getStatus =>
      ended <| .perform .getStatus fun statusCode =>
        .done (.returns (.number (.finite statusCode.toNat)))
  | .setStatus => ended (setStatus args)
  | .redirect => ended (redirect args)
  | .setErrorDescription => ended (setErrorDescription args)
  | .disableKernelCache => ended (disableKernelCache args)
  | .deleteHeader => ended (deleteHeader args)
  | .getHeader => ended (getHeader toText args)
  | .setHeader => ended (setHeader "invalid p_http_response for setHeader" args)
  | .read => readResponse memory.fresh args
  | .write => write memory.pointerIsNull fuel args

def requestMethod : RequestMethod → LoopProgram
  | .read => readRequest fuel args
  | .setUrl => ended (setUrl args)
  | .deleteHeader => ended (deleteHeader args)
  | .setHeader => ended (setHeader "invalid p_http_request for setHeader" args)
  | .getMethod =>
      ended <| .perform .getHttpMethod fun method =>
        .done (.returns (.string (decodeUtf8 method)))
  | .getAbsPath =>
      ended <| .perform .getRawHttpRequest fun url =>
        urlPart url url.absPath url.absPathLength.toNat
  | .getFullUrl =>
      ended <| .perform .getRawHttpRequest fun url =>
        urlPart url 0 url.fullUrlLength.toNat
  | .getQueryString =>
      ended <| .perform .getRawHttpRequest fun url =>
        urlPart url url.queryString url.queryStringLength.toNat
  | .getPath => ended (.perform .getRawHttpRequest getPath)
  | .getHost =>
      ended <| .perform .getRawHttpRequest fun url =>
        urlPart url url.host url.hostLength.toNat
  | .getLocalAddress => ended (.perform .getLocalAddress sockToIp)
  | .getRemoteAddress => ended (.perform .getRemoteAddress sockToIp)
  | .getHeader => ended (getHeader toText args)

/-- A call of a method, with the guard at its start. -/
def callMethod (attached : Bool) (method : HttpMethod) : LoopProgram :=
  if attached then
    match method with
    | .response method => responseMethod toText fuel memory args method
    | .request method => requestMethod toText fuel args method
  else ended (.done (.throws method.message))

end

/-- A program of at most one call, after which it ends.  It only throws if the
call changed nothing. -/
def Atomic : IisProgram → Prop
  | .done _ => True
  | .perform call next =>
      ∀ answer, ∃ ending, next answer = .done ending ∧
        ((∃ message, ending = .throws message) → call.ChangedNothing answer)

theorem atomic_withArgument {Value : Type} {converted : Except String Value}
    {next : Value → IisProgram} (atomic : ∀ value, Atomic (next value)) :
    Atomic (withArgument converted next) := by
  cases converted with
  | error message => trivial
  | ok value => exact atomic value

theorem atomic_withSignature {count : Nat} {name : String}
    {args : List JsValue} {next : IisProgram} (atomic : Atomic next) :
    Atomic (withSignature count name args next) := by
  unfold withSignature
  split
  · trivial
  · exact atomic

theorem exists_checked (message : String) {succeeded : Bool}
    {unchanged : Prop} (failed : succeeded = false → unchanged) :
    ∃ ending, checked message succeeded = .done ending ∧
      ((∃ text, ending = .throws text) → unchanged) := by
  refine ⟨_, rfl, ?_⟩
  rintro ⟨text, throws⟩
  cases succeeded with
  | false => exact failed rfl
  | true => cases throws

/-- What returns has nothing to fulfil. -/
theorem exists_returns (value : JsValue) (unchanged : Prop) :
    ∃ ending, (Program.done (.returns value) : IisProgram) = .done ending ∧
      ((∃ text, ending = .throws text) → unchanged) := by
  refine ⟨_, rfl, ?_⟩
  rintro ⟨text, throws⟩
  cases throws

/-- `ofCall` ends as its function says, which throws after a call only if the
call failed. -/
theorem atomic_ofCall {Call : Type} {ending : Bool → CallEnding × Option Call}
    {perform : Call → (Bool → IisProgram) → IisProgram}
    (performs : ∀ call next,
      (∀ succeeded, ∃ ending, next succeeded = .done ending ∧
        ((∃ message, ending = .throws message) → succeeded = false)) →
      Atomic (perform call next))
    (returns : ∀ call ended, ending true = (ended, some call) →
      ended = .returns .undefined) :
    Atomic (ofCall ending perform) := by
  unfold ofCall
  cases called : (ending true).2 with
  | none => trivial
  | some call =>
      apply performs
      intro succeeded
      refine ⟨_, rfl, ?_⟩
      rintro ⟨message, throws⟩
      cases succeeded with
      | false => rfl
      | true =>
          rw [returns call (ending true).1 (Prod.ext rfl called)] at throws
          cases throws

theorem atomic_setStatus (args : List JsValue) : Atomic (setStatus args) := by
  apply atomic_ofCall
  · intro call next ends
    exact ends
  · intro call ended called
    unfold StatusAndHeaders.setStatus at called
    split at called
    · cases called
    · split at called
      · cases called
      · split at called
        · cases called
        · split at called
          · cases called
          · cases called
            rfl

theorem atomic_setHeader (missing : String) (args : List JsValue) :
    Atomic (setHeader missing args) := by
  apply atomic_ofCall
  · intro call next ends
    exact ends
  · intro call ended called
    unfold StatusAndHeaders.setHeader at called
    split at called
    · cases called
    · split at called
      · cases called
      · split at called
        · cases called
        · split at called
          · cases called
          · cases called
            rfl

theorem atomic_redirect (args : List JsValue) : Atomic (redirect args) := by
  apply atomic_withSignature
  apply atomic_withArgument
  intro url
  apply atomic_withArgument
  intro resetStatusCode
  apply atomic_withArgument
  intro includeParameters succeeded
  exact exists_checked _ id

theorem atomic_setErrorDescription (args : List JsValue) :
    Atomic (setErrorDescription args) := by
  apply atomic_withSignature
  apply atomic_withArgument
  intro description
  apply atomic_withArgument
  intro shouldHtmlEncode succeeded
  exact exists_checked _ id

theorem atomic_disableKernelCache (args : List JsValue) :
    Atomic (disableKernelCache args) := by
  apply atomic_withSignature
  apply atomic_withArgument
  intro reason answer
  exact exists_returns _ _

theorem atomic_deleteHeader (args : List JsValue) :
    Atomic (deleteHeader args) := by
  apply atomic_withSignature
  apply atomic_withArgument
  intro headerName succeeded
  exact exists_checked _ id

theorem atomic_getHeader (toText : JsValue → Option WString)
    (args : List JsValue) : Atomic (getHeader toText args) := by
  apply atomic_withSignature
  cases utf8Value toText (argument args 0) with
  | none => trivial
  | some headerName =>
      intro value
      cases value with
      | none => exact exists_returns _ _
      | some bytes => exact exists_returns _ _

theorem atomic_setUrl (args : List JsValue) : Atomic (setUrl args) := by
  apply atomic_withSignature
  cases argument args 0 with
  | string units =>
      intro succeeded
      exact exists_checked _ id
  | _ => trivial

theorem exists_urlPart (url : CookedUrl) (start bytes : Nat)
    (unchanged : Prop) :
    ∃ ending, urlPart url start bytes = .done ending ∧
      ((∃ message, ending = .throws message) → unchanged) := by
  unfold urlPart
  split
  · exact exists_returns _ _
  · refine ⟨_, rfl, ?_⟩
    rintro ⟨message, throws⟩
    cases throws

theorem exists_sockToIp (address : Option SocketAddress) :
    ∃ ending, sockToIp address = .done ending ∧
      ((∃ message, ending = .throws message) → True) := by
  cases address with
  | none => exact ⟨_, rfl, fun _ => trivial⟩
  | some address =>
      cases address <;> exact ⟨_, rfl, fun _ => trivial⟩

/-- The methods that need no bound and make at most one call. -/
def Plain (method : HttpMethod) : Prop :=
  method ≠ .response .write ∧ method ≠ .response .read ∧
    method ≠ .request .read

/-- A method but those for a body is a program of at most one call. -/
def IsAtomic (program : LoopProgram) : Prop :=
  ∃ atom, Atomic atom ∧ program = ended atom

theorem isAtomic_ended {program : IisProgram} (atomic : Atomic program) :
    IsAtomic (ended program) :=
  ⟨program, atomic, rfl⟩

theorem isAtomic_responseMethod {toText : JsValue → Option WString}
    {fuel : Nat} {memory : Memory} {args : List JsValue}
    {method : ResponseMethod} (plain : Plain (.response method)) :
    IsAtomic (responseMethod toText fuel memory args method) := by
  cases method with
  | setStatus => exact isAtomic_ended (atomic_setStatus args)
  | redirect => exact isAtomic_ended (atomic_redirect args)
  | setErrorDescription => exact isAtomic_ended (atomic_setErrorDescription args)
  | disableKernelCache => exact isAtomic_ended (atomic_disableKernelCache args)
  | deleteHeader => exact isAtomic_ended (atomic_deleteHeader args)
  | getHeader => exact isAtomic_ended (atomic_getHeader toText args)
  | setHeader => exact isAtomic_ended (atomic_setHeader _ args)
  | write => exact absurd rfl plain.1
  | read => exact absurd rfl plain.2.1
  | _ =>
      apply isAtomic_ended
      exact fun answer => exists_returns _ _

theorem isAtomic_requestMethod {toText : JsValue → Option WString}
    {fuel : Nat} {args : List JsValue} {method : RequestMethod}
    (plain : Plain (.request method)) :
    IsAtomic (requestMethod toText fuel args method) := by
  cases method with
  | read => exact absurd rfl plain.2.2
  | setUrl => exact isAtomic_ended (atomic_setUrl args)
  | deleteHeader => exact isAtomic_ended (atomic_deleteHeader args)
  | setHeader => exact isAtomic_ended (atomic_setHeader _ args)
  | getHeader => exact isAtomic_ended (atomic_getHeader toText args)
  | getMethod =>
      apply isAtomic_ended
      exact fun answer => exists_returns _ _
  | getLocalAddress =>
      apply isAtomic_ended
      exact exists_sockToIp
  | getRemoteAddress =>
      apply isAtomic_ended
      exact exists_sockToIp
  | _ =>
      apply isAtomic_ended
      exact fun url => exists_urlPart _ _ _ _

theorem isAtomic_callMethod {toText : JsValue → Option WString} {fuel : Nat}
    {memory : Memory} {args : List JsValue} {attached : Bool}
    {method : HttpMethod} (plain : Plain method) :
    IsAtomic (callMethod toText fuel memory args attached method) := by
  cases attached with
  | false => exact isAtomic_ended trivial
  | true =>
      cases method with
      | response method => exact isAtomic_responseMethod plain
      | request method => exact isAtomic_requestMethod plain

/-- The calls that move or look at a body. -/
def IisCall.MovesBody : IisCall → Prop
  | .writeEntityChunks _ _ => True
  | .getRawHttpResponse => True
  | .getRemainingEntityBytes => True
  | .readEntityBody _ => True
  | .allocateRequestMemory _ => True
  | .insertEntityBody _ => True
  | _ => False

theorem within_readLoop {next : List UInt8 → LoopProgram}
    (within : ∀ bytes, (next bytes).Within IisCall.MovesBody) (fuel : Nat)
    (bytes : List UInt8) (remainingBytes : UInt32) :
    (readLoop next fuel bytes remainingBytes).Within IisCall.MovesBody := by
  induction fuel generalizing bytes remainingBytes with
  | zero => trivial
  | succ fuel ih =>
      rw [readLoop]
      split
      · exact within bytes
      · refine ⟨trivial, ?_⟩
        intro piece
        match piece with
        | none => trivial
        | some [] => trivial
        | some (byte :: rest) => exact ⟨trivial, fun remaining => ih _ _⟩

theorem within_rewriteBody (args : List JsValue) (bytes : List UInt8)
    (value : JsValue) :
    (rewriteBody args bytes value).Within IisCall.MovesBody := by
  unfold rewriteBody
  split
  · trivial
  · cases fromV8Bool (argument args 0) with
    | error message => trivial
    | ok rewrites =>
        cases rewrites with
        | false => trivial
        | true =>
            refine ⟨trivial, ?_⟩
            intro allocated
            cases allocated with
            | false => trivial
            | true => exact ⟨trivial, fun inserted => trivial⟩

theorem within_convertBody (args : List JsValue) (bytes : List UInt8)
    (converted : RequestBody.NewString) :
    (convertBody args bytes converted).Within IisCall.MovesBody := by
  cases converted with
  | decodes text => exact within_rewriteBody args bytes _
  | empty => trivial
  | overrun => trivial

theorem within_readRequest (fuel : Nat) (args : List JsValue) :
    (readRequest fuel args).Within IisCall.MovesBody := by
  refine ⟨trivial, ?_⟩
  intro first
  dsimp only
  split
  · trivial
  · refine ⟨trivial, ?_⟩
    exact within_readLoop (fun bytes => within_convertBody args bytes _) fuel []

theorem within_readResponse (fresh : Fresh) (args : List JsValue) :
    (readResponse fresh args).Within IisCall.MovesBody :=
  ⟨trivial, fun _ => trivial⟩

theorem within_writeLoop (buffer : List UInt8) (fuel : Nat)
    (counters : Counters) :
    (writeLoop buffer fuel counters).Within IisCall.MovesBody := by
  induction fuel generalizing counters with
  | zero => trivial
  | succ fuel ih =>
      refine ⟨trivial, ?_⟩
      intro succeeded
      cases succeeded with
      | false => trivial
      | true =>
          dsimp only
          rw [if_pos rfl]
          split
          · exact ih _
          · trivial

theorem within_setAll {allowed : IisCall → Prop} {next : LoopProgram}
    (within : next.Within allowed) {headers : List (Header × List UInt8)}
    (sets : ∀ header ∈ headers, allowed (.setKnownHeader header.1 header.2)) :
    (setAll next headers).Within allowed := by
  induction headers with
  | nil => exact within
  | cons header headers ih =>
      refine ⟨sets header List.mem_cons_self, fun _ => ih ?_⟩
      exact fun other member => sets other (List.mem_cons_of_mem _ member)

/-- `response.write` sets its headers and moves the body. -/
theorem within_write {allowed : IisCall → Prop}
    (moves : ∀ call, IisCall.MovesBody call → allowed call)
    {args : List JsValue}
    (sets : ∀ header ∈ setHeaders args,
      allowed (.setKnownHeader header.1 header.2))
    (pointerIsNull : Bool) (fuel : Nat) :
    (write pointerIsNull fuel args).Within allowed := by
  unfold write
  split
  · trivial
  · split
    · trivial
    · exact within_setAll ((within_writeLoop _ _ _).mono moves) sets

theorem runWith_setAll
    {handler : (call : IisCall) → Written → call.Answer × Written}
    (keepsHeaders : ∀ header value written,
      (handler (.setKnownHeader header value) written).2 =
        { written with headers := written.headers ++ [(header, value)] })
    (next : LoopProgram) (headers : List (Header × List UInt8))
    (written : Written) :
    (setAll next headers).runWith handler written =
      next.runWith handler
        { written with headers := written.headers ++ headers } := by
  induction headers generalizing written with
  | nil => rw [List.append_nil, setAll]
  | cons header headers ih =>
      rw [setAll, Program.runWith, ih, keepsHeaders]
      simp only [List.append_assoc, List.singleton_append]

/-- How `response.write` ends behind its loop. -/
def loopEnding (buffer : List UInt8) (headers : List (Header × List UInt8)) :
    Except ResponseWrite.Failed ResponseWrite.LoopState →
      Option CallEnding × Written
  | .ok state =>
      (some (.returns .undefined),
        ⟨headers, state.delivered.map (chunkBytes buffer)⟩)
  | .error failed =>
      (some (.throws failed.message),
        ⟨headers, failed.delivered.map (chunkBytes buffer)⟩)

theorem runWith_writeLoop {succeeded : Nat → Bool}
    {handler : (call : IisCall) → Written → call.Answer × Written}
    (keepsChunks : ∀ bytes moreData written,
      handler (.writeEntityChunks bytes moreData) written =
        (succeeded written.chunks.length,
          if succeeded written.chunks.length then
            { written with chunks := written.chunks ++ [bytes] }
          else written))
    (buffer : List UInt8) (headers : List (Header × List UInt8)) {fuel : Nat}
    {state : ResponseWrite.LoopState}
    {final : Except ResponseWrite.Failed ResponseWrite.LoopState}
    (ends : FueledLoop.doWhile
      (ResponseWrite.round buffer.length.toUInt32 succeeded)
      (fun after => after.counters.hasMoreData) fuel state = some final) :
    (writeLoop buffer fuel state.counters).runWith handler
        ⟨headers, state.delivered.map (chunkBytes buffer)⟩ =
      loopEnding buffer headers final := by
  induction fuel generalizing state with
  | zero => cases ends
  | succ fuel ih =>
      rw [writeLoop, Program.runWith, keepsChunks, List.length_map]
      rw [FueledLoop.doWhile, ResponseWrite.round] at ends
      cases accepted : succeeded state.delivered.length with
      | false =>
          rw [accepted] at ends
          cases ends
          rfl
      | true =>
          rw [accepted, if_pos rfl] at ends
          dsimp only at ends
          rw [if_pos rfl, if_pos rfl]
          split at ends
          next more =>
            rw [if_pos more, ← ih ends, List.map_append, List.map_singleton]
          next last =>
            cases ends
            rw [if_neg last, Program.runWith, loopEnding, List.map_append,
              List.map_singleton]

/-- With an IIS that accepts some of the chunks the program is the function of
`ResponseWrite`. -/
theorem runWith_write {succeeded : Nat → Bool}
    {handler : (call : IisCall) → Written → call.Answer × Written}
    (keepsHeaders : ∀ header value written,
      (handler (.setKnownHeader header value) written).2 =
        { written with headers := written.headers ++ [(header, value)] })
    (keepsChunks : ∀ bytes moreData written,
      handler (.writeEntityChunks bytes moreData) written =
        (succeeded written.chunks.length,
          if succeeded written.chunks.length then
            { written with chunks := written.chunks ++ [bytes] }
          else written))
    {pointerIsNull : Bool} {fuel : Nat} {args : List JsValue}
    {ending : CallEnding} {written : Written}
    (ends : ResponseWrite.write true pointerIsNull succeeded fuel args =
      some (ending, written)) :
    (write pointerIsNull fuel args).runWith handler ⟨[], []⟩ =
      (some ending, written) := by
  unfold ResponseWrite.write at ends
  rw [if_neg (by decide)] at ends
  unfold write
  split at ends
  next short =>
    cases ends
    rw [if_pos short]
    rfl
  next enough =>
    rw [if_neg enough]
    cases selected : selectBuffer pointerIsNull (argument args 0) with
    | error refused =>
        rw [selected] at ends
        cases ends
        rfl
    | ok buffer =>
        rw [selected] at ends
        dsimp only at ends ⊢
        rw [runWith_setAll keepsHeaders]
        cases looped : ResponseWrite.writeChunks buffer.length.toUInt32
            succeeded fuel with
        | none =>
            rw [looped] at ends
            cases ends
        | some final =>
            rw [looped] at ends
            have ran := runWith_writeLoop keepsChunks buffer (setHeaders args)
              looped
            cases final with
            | ok after =>
                cases ends
                exact ran
            | error failed =>
                cases ends
                exact ran

/-- What HTTP.sys promises: all parts lie in the text, are made of whole units,
and the query string follows the path. -/
structure CookedUrl.Sound (url : CookedUrl) : Prop where
  even : url.absPathLength.toNat % 2 = 0
  follows : url.queryStringLength.toNat = 0 ∨
    url.queryString = url.absPath + url.absPathLength.toNat / 2
  fits : url.absPath +
    (url.absPathLength.toNat + url.queryStringLength.toNat) / 2 ≤
      url.text.length
  queryFits : url.queryString + url.queryStringLength.toNat / 2 ≤
    url.text.length

/-- `getPath` gives the absolute path followed by the query string. -/
theorem getPath_eq {url : CookedUrl} (sound : url.Sound) :
    ∃ path query,
      urlPart url url.absPath url.absPathLength.toNat =
        .done (.returns (.string path)) ∧
      urlPart url url.queryString url.queryStringLength.toNat =
        .done (.returns (.string query)) ∧
      getPath url = .done (.returns (.string (path ++ query))) := by
  obtain ⟨even, follows, fits, queryFits⟩ := sound
  have halves : (url.absPathLength.toNat + url.queryStringLength.toNat) / 2 =
      url.absPathLength.toNat / 2 + url.queryStringLength.toNat / 2 := by
    omega
  refine ⟨_, _, if_pos (by omega), if_pos queryFits, ?_⟩
  rw [getPath, urlPart, if_pos fits, halves, List.take_add, List.drop_drop]
  rcases follows with noQuery | adjacent
  · rw [noQuery, Nat.zero_div, List.take_zero, List.take_zero]
  · rw [adjacent]

end HttpMethods

end IISModuleJS
