import IISModuleJS.HttpMethods
import IISModuleJS.ResponseCalls
import IISModuleJS.ScheduledMachine

/-!
# Headers that scripts set

Scripts set, delete and read the headers of the response and the request with
calls in any order, between calls of all the other methods.  IIS keeps the
headers; what is needed of it are a few of its promises.

A header that was set is what `getHeader` gives under every spelling of its name
until it is changed again.
-/

namespace IISModuleJS

namespace HeaderStore

open JsValue TextEncoding EffectProgram CallbackEngine HttpMethods
  ScheduledMachine
open ResponseWrite (Header)
open StatusAndHeaders (cText fromV8BoolOr)

/-- The name of a header without the difference of upper and lower case. -/
def headerKey (headerName : List UInt8) : List UInt8 :=
  headerName.map fun unit =>
    if 0x41 ≤ unit ∧ unit ≤ 0x5A then unit + 0x20 else unit

/-- The name of a header that `response.write` sets by its number. -/
def knownName (header : Header) : List UInt8 :=
  let name := match header with
    | .contentType => "Content-Type"
    | .contentEncoding => "Content-Encoding"
  name.toList.map fun c => c.toNat.toUInt8

/-- Calls that may change a header. -/
def IisCall.Touches (key : List UInt8) : IisCall → Prop
  | .setHeader call => headerKey call.headerName = key
  | .setKnownHeader header _ => headerKey (knownName header) = key
  | .deleteHeader headerName => headerKey headerName = key
  | .clear => True
  | .clearHeaders => True
  | .closeConnection => True
  | .setNeedDisconnect => True
  | .resetConnection => True
  | .redirect _ _ _ => True
  | _ => False

/-- How IIS answers the calls on the two objects of a request. -/
abbrev Iis (State : Type) :=
  HttpObject → (call : IisCall) → State → call.Answer × State

/-- The headers of an object, by key. -/
abbrev HeadersOf (State : Type) :=
  HttpObject → State → List UInt8 → Option (List UInt8)

variable {State : Type}

/-- What IIS promises about headers. -/
structure KeepsHeaders (iis : Iis State) (headers : HeadersOf State) :
    Prop where
  get : ∀ object headerName state,
    (iis object (.getHeader headerName) state).1 =
      headers object state (headerKey headerName)
  set : ∀ object call state, call.replace = true → call.valueLength ≠ 0 →
    (iis object (.setHeader call) state).1 = true →
      headers object (iis object (.setHeader call) state).2
          (headerKey call.headerName) =
        some (call.value.take call.valueLength.toNat)
  delete : ∀ object headerName state,
    (iis object (.deleteHeader headerName) state).1 = true →
      headers object (iis object (.deleteHeader headerName) state).2
        (headerKey headerName) = none
  unchanged : ∀ object call state,
    call.ChangedNothing (iis object call state).1 →
      ∀ target, headers target (iis object call state).2 =
        headers target state
  other : ∀ object call state target key,
    (target = object → ¬ IisCall.Touches key call) →
      headers target (iis object call state).2 key =
        headers target state key

/-- A call of a method on an object that belongs to a request or not any more,
with what it finds in memory. -/
structure Call where
  method : HttpMethod
  attached : Bool
  args : List JsValue
  memory : Memory

section

variable (iis : Iis State) (toText : JsValue → Option WString) (fuel : Nat)

def Call.program (call : Call) : LoopProgram :=
  callMethod toText fuel call.memory call.args call.attached call.method

/-- The ending of a call and what IIS holds afterwards, if the bound on the
rounds of a loop is enough. -/
def perform (state : State) (call : Call) : Option (CallEnding × State) :=
  let called := (call.program toText fuel).runWith
    (iis call.method.object) state
  called.1.map fun ending => (ending, called.2)

def step (state : State) (call : Call) : Option State :=
  (perform iis toText fuel state call).map Prod.snd

/-- The call has no way to change a header, or it throws.  A call of
`response.write` that throws has set its headers already. -/
def Leaves (object : HttpObject) (key : List UInt8) (state : State)
    (call : Call) : Prop :=
  ((call.program toText fuel).Within fun performed =>
      object = call.method.object → ¬ IisCall.Touches key performed) ∨
    call.method ≠ .response .write ∧
      ∃ message next,
        perform iis toText fuel state call = some (.throws message, next)

end

variable {iis : Iis State} {headers : HeadersOf State}
  {toText : JsValue → Option WString} {fuel : Nat}

theorem perform_eq_some {state next : State} {call : Call}
    {ending : CallEnding} :
    perform iis toText fuel state call = some (ending, next) ↔
      (call.program toText fuel).runWith (iis call.method.object) state =
        (some ending, next) := by
  rw [perform, Option.map_eq_some_iff]
  constructor
  · rintro ⟨same, ended, pair⟩
    cases pair
    exact Prod.ext ended rfl
  · intro ran
    rw [ran]
    exact ⟨ending, rfl, rfl⟩

/-- The calls that move a body leave all headers. -/
theorem not_touches_of_movesBody {call : IisCall}
    (moves : IisCall.MovesBody call) (key : List UInt8) :
    ¬ IisCall.Touches key call := by
  cases call with
  | writeEntityChunks bytes moreData => exact id
  | getRawHttpResponse => exact id
  | getRemainingEntityBytes => exact id
  | readEntityBody size => exact id
  | allocateRequestMemory size => exact id
  | insertEntityBody bytes => exact id
  | _ => exact absurd moves id

/-- `response.write` leaves all headers but the two that it sets. -/
theorem leaves_write {object : HttpObject} {key : List UInt8}
    (other : ∀ header, headerKey (knownName header) ≠ key) (state : State)
    (args : List JsValue) (memory : Memory) :
    Leaves iis toText fuel object key state
      ⟨.response .write, true, args, memory⟩ := by
  refine .inl (within_write ?_ ?_ _ _)
  · intro call moves _
    exact not_touches_of_movesBody moves key
  · intro header member _
    exact other header.1

/-- Both `read` methods leave all headers. -/
theorem leaves_read {call : Call}
    (reads : call.method = .response .read ∨ call.method = .request .read) :
    (call.program toText fuel).Within IisCall.MovesBody := by
  obtain ⟨method, attached, args, memory⟩ := call
  cases attached with
  | false => exact trivial
  | true =>
      rcases reads with rfl | rfl
      · exact within_readResponse _ args
      · exact within_readRequest fuel args

theorem KeepsHeaders.headers_of_within (keeps : KeepsHeaders iis headers)
    {object target : HttpObject} {key : List UInt8} {program : LoopProgram}
    (within : program.Within fun performed =>
      target = object → ¬ IisCall.Touches key performed) (state : State) :
    headers target (program.runWith (iis object) state).2 key =
      headers target state key := by
  have preserved : ∀ performed current,
      (target = object → ¬ IisCall.Touches key performed) →
      headers target current key = headers target state key →
      headers target (iis object performed current).2 key =
        headers target state key := by
    intro performed current allowed same
    rw [keeps.other object performed current target key allowed, same]
  exact Program.Within.runWith preserved within rfl

/-- A program of at most one call that throws leaves all headers. -/
theorem KeepsHeaders.headers_of_atomic (keeps : KeepsHeaders iis headers)
    {object target : HttpObject} {program : IisProgram}
    (atomic : Atomic program) {state next : State} {message : String}
    (throws : program.runWith (iis object) state = (.throws message, next)) :
    headers target next = headers target state := by
  cases program with
  | done ending =>
      cases throws
      rfl
  | perform call rest =>
      obtain ⟨ending, ends, changedNothing⟩ := atomic (iis object call state).1
      rw [Program.runWith, ends, Program.runWith, Prod.mk.injEq] at throws
      obtain ⟨isThrow, rfl⟩ := throws
      exact keeps.unchanged object call state
        (changedNothing ⟨message, isThrow⟩) target

/-- A call that throws, other than of `response.write`, leaves all headers. -/
theorem KeepsHeaders.headers_of_throws (keeps : KeepsHeaders iis headers)
    {object : HttpObject} {key : List UInt8} {state next : State} {call : Call}
    (noWrite : call.method ≠ .response .write) {message : String}
    (throws : (call.program toText fuel).runWith (iis call.method.object)
      state = (some (.throws message), next)) :
    headers object next key = headers object state key := by
  by_cases reads : call.method = .response .read ∨ call.method = .request .read
  · have within : (call.program toText fuel).Within fun performed =>
        object = call.method.object → ¬ IisCall.Touches key performed :=
      (leaves_read reads).mono fun performed moves _ =>
        not_touches_of_movesBody moves key
    have kept := keeps.headers_of_within within state
    rw [throws] at kept
    exact kept
  · obtain ⟨program, atomic, same⟩ :=
      @isAtomic_callMethod toText fuel call.memory call.args call.attached _
        ⟨noWrite, fun read => reads (.inl read), fun read => reads (.inr read)⟩
    rw [Call.program, same, ended, Program.runWith_map, Prod.mk.injEq] at throws
    obtain ⟨isThrow, rfl⟩ := throws
    have ran : program.runWith (iis call.method.object) state =
        (.throws message,
          (program.runWith (iis call.method.object) state).2) :=
      Prod.ext (Option.some.inj isThrow) rfl
    rw [keeps.headers_of_atomic atomic ran]

/-- One call that leaves a header. -/
theorem KeepsHeaders.headers_of_leaves (keeps : KeepsHeaders iis headers)
    {object : HttpObject} {key : List UInt8} {state next : State} {call : Call}
    (leaves : Leaves iis toText fuel object key state call)
    (stepTo : step iis toText fuel state call = some next) :
    headers object next key = headers object state key := by
  obtain ⟨⟨ending, after⟩, performs, rfl⟩ := Option.map_eq_some_iff.mp stepTo
  have ran := perform_eq_some.mp performs
  rcases leaves with within | ⟨noWrite, message, last, throws⟩
  · have kept := keeps.headers_of_within within state
    rw [ran] at kept
    exact kept
  · rw [throws] at performs
    cases performs
    exact keeps.headers_of_throws noWrite ran

/-- A run of calls that leave a header. -/
theorem KeepsHeaders.headers_of_run (keeps : KeepsHeaders iis headers)
    {object : HttpObject} {key : List UInt8} {state final : State}
    {calls : List Call}
    (leave : Respects (step iis toText fuel)
      (Leaves iis toText fuel object key) state calls)
    (runs : run (step iis toText fuel) state calls = some final) :
    headers object final key = headers object state key :=
  invariant_of_respects
    (fun _ _ _ same leaves stepTo =>
      (keeps.headers_of_leaves leaves stepTo).trans same)
    rfl leave runs

/-- `setHeader` of an object. -/
def setMethod : HttpObject → HttpMethod
  | .response => .response .setHeader
  | .request => .request .setHeader

/-- `deleteHeader` of an object. -/
def deleteMethod : HttpObject → HttpMethod
  | .response => .response .deleteHeader
  | .request => .request .deleteHeader

/-- `getHeader` of an object. -/
def getMethod : HttpObject → HttpMethod
  | .response => .response .getHeader
  | .request => .request .getHeader

/-- The key of the header that IIS takes a text for. -/
def keyOf (name : WString) : List UInt8 :=
  headerKey (cText (encodeUtf8 name))

/-- The value that a script gets for a header. -/
def shown : Option (List UInt8) → CallEnding
  | none => .returns .null
  | some value => .returns (.string (decodeUtf8 value))

/-- `getHeader` with a text gives the header of its key. -/
theorem KeepsHeaders.perform_get (keeps : KeepsHeaders iis headers)
    (object : HttpObject) (state : State) {name : WString}
    {args : List JsValue} (memory : Memory)
    (first : argument args 0 = .string name) :
    ∃ next,
      perform iis toText fuel state ⟨getMethod object, true, args, memory⟩ =
        some (shown (headers object state (keyOf name)), next) := by
  have given : ¬ args.length < 1 :=
    Nat.not_lt.mpr (StatusAndHeaders.lt_length_of_argument (by simp [first]))
  have program : getHeader toText args =
      .perform (.getHeader (cText (encodeUtf8 name))) headerText := by
    rw [getHeader, withSignature, if_neg given, first]
    rfl
  have found : callMethod toText fuel memory args true (getMethod object) =
      ended (getHeader toText args) := by
    cases object <;> rfl
  have isObject : (getMethod object).object = object := by
    cases object <;> rfl
  refine ⟨(iis object (.getHeader (cText (encodeUtf8 name))) state).2, ?_⟩
  rw [perform_eq_some, Call.program, found, ended, Program.runWith_map, program,
    isObject, Program.runWith, keeps.get, ← keyOf]
  cases headers object state (keyOf name) <;> rfl

/-- What `SetHeader` gets for two texts. -/
def headerCall (name value : WString) (args : List JsValue) :
    StatusAndHeaders.HeaderCall where
  headerName := cText (encodeUtf8 name)
  value := encodeUtf8 value
  valueLength := (encodeUtf8 value).length.toUInt16
  replace := fromV8BoolOr true (argument args 2)

/-- `setHeader` with two texts is one call of IIS. -/
theorem callMethod_set (object : HttpObject) {name value : WString}
    {args : List JsValue} (memory : Memory)
    (first : argument args 0 = .string name)
    (second : argument args 1 = .string value) :
    callMethod toText fuel memory args true (setMethod object) =
      ended (.perform (.setHeader (headerCall name value args))
        (checked "failed to set header")) := by
  have ends (missing : String) (succeeded : Bool) :=
    StatusAndHeaders.setHeader_eq first second missing succeeded
  have program (missing : String) : HttpMethods.setHeader missing args =
      .perform (.setHeader (headerCall name value args))
        (checked "failed to set header") := by
    simp only [HttpMethods.setHeader, ofCall, ends]
    rfl
  cases object with
  | response => exact congrArg ended (program _)
  | request => exact congrArg ended (program _)

/-- A call of `setHeader` that returned has set the header. -/
theorem KeepsHeaders.headers_of_set (keeps : KeepsHeaders iis headers)
    {object : HttpObject} {state next : State} {name value : WString}
    {args : List JsValue} {memory : Memory}
    (first : argument args 0 = .string name)
    (second : argument args 1 = .string value)
    (replaces : fromV8BoolOr true (argument args 2) = true)
    (present : (encodeUtf8 value).length.toUInt16 ≠ 0)
    (sets : perform iis toText fuel state
        ⟨setMethod object, true, args, memory⟩ =
      some (.returns .undefined, next)) :
    headers object next (keyOf name) =
      some ((encodeUtf8 value).take
        (encodeUtf8 value).length.toUInt16.toNat) := by
  have isObject : (setMethod object).object = object := by
    cases object <;> rfl
  rw [perform_eq_some, Call.program, callMethod_set object memory first second,
    ended, Program.runWith_map, isObject, Program.runWith, checked,
    Program.runWith, Prod.mk.injEq, Option.some.injEq] at sets
  obtain ⟨ending, rfl⟩ := sets
  cases succeeded : (iis object (.setHeader (headerCall name value args))
      state).1 with
  | false =>
      rw [succeeded] at ending
      cases ending
  | true => exact keeps.set object _ state replaces present succeeded

/-- A header after a call of `setHeader` that returned and any calls that leave
it.  `getHeader` with any spelling of the name gives the text of the call, if it
is well formed and its UTF-8 form is shorter than `2 ^ 16` bytes and not
empty. -/
theorem getHeader_of_set (keeps : KeepsHeaders iis headers)
    {object : HttpObject} {start state final : State}
    {name value other : WString} {setArgs getArgs : List JsValue}
    {setMemory : Memory} {later : List Call} (getMemory : Memory)
    (setName : argument setArgs 0 = .string name)
    (setValue : argument setArgs 1 = .string value)
    (replaces : fromV8BoolOr true (argument setArgs 2) = true)
    (wellFormed : WellFormed value)
    (short : (encodeUtf8 value).length < 2 ^ 16) (present : value ≠ [])
    (sets : perform iis toText fuel start
        ⟨setMethod object, true, setArgs, setMemory⟩ =
      some (.returns .undefined, state))
    (leave : Respects (step iis toText fuel)
      (Leaves iis toText fuel object (keyOf name)) state later)
    (runs : run (step iis toText fuel) state later = some final)
    (getName : argument getArgs 0 = .string other)
    (spelling : keyOf other = keyOf name) :
    ∃ next, perform iis toText fuel final
        ⟨getMethod object, true, getArgs, getMemory⟩ =
      some (.returns (.string value), next) := by
  have length : (encodeUtf8 value).length.toUInt16.toNat =
      (encodeUtf8 value).length :=
    (StatusAndHeaders.toNat_toUInt16_eq_iff _).mpr short
  have nonzero : (encodeUtf8 value).length.toUInt16 ≠ 0 := by
    intro zero
    rw [zero] at length
    exact present (encodeUtf8_eq_nil.mp
      (List.eq_nil_of_length_eq_zero length.symm))
  have header := keeps.headers_of_set setName setValue replaces nonzero sets
  have kept := keeps.headers_of_run leave runs
  obtain ⟨next, gets⟩ := keeps.perform_get object final getMemory getName
  refine ⟨next, ?_⟩
  rw [gets, spelling, kept, header, shown, length, List.take_length,
    decodeUtf8_encodeUtf8 wellFormed]

/-- A header after a call of `deleteHeader` that returned and any calls that
leave it: `getHeader` gives null. -/
theorem getHeader_of_delete (keeps : KeepsHeaders iis headers)
    {object : HttpObject} {start state final : State} {name other : WString}
    {deleteArgs getArgs : List JsValue} {deleteMemory : Memory}
    {later : List Call} (getMemory : Memory)
    (deleteName : argument deleteArgs 0 = .string name)
    (deletes : perform iis toText fuel start
        ⟨deleteMethod object, true, deleteArgs, deleteMemory⟩ =
      some (.returns .undefined, state))
    (leave : Respects (step iis toText fuel)
      (Leaves iis toText fuel object (keyOf name)) state later)
    (runs : run (step iis toText fuel) state later = some final)
    (getName : argument getArgs 0 = .string other)
    (spelling : keyOf other = keyOf name) :
    ∃ next, perform iis toText fuel final
        ⟨getMethod object, true, getArgs, getMemory⟩ =
      some (.returns .null, next) := by
  have given : ¬ deleteArgs.length < 1 :=
    Nat.not_lt.mpr
      (StatusAndHeaders.lt_length_of_argument (by simp [deleteName]))
  have program : deleteHeader deleteArgs =
      .perform (.deleteHeader (cText (encodeUtf8 name)))
        (checked "failed to delete header") := by
    rw [deleteHeader, withSignature, if_neg given, deleteName]
    rfl
  have found : callMethod toText fuel deleteMemory deleteArgs true
      (deleteMethod object) = ended (deleteHeader deleteArgs) := by
    cases object <;> rfl
  have isObject : (deleteMethod object).object = object := by
    cases object <;> rfl
  rw [perform_eq_some, Call.program, found, ended, Program.runWith_map, program,
    isObject, Program.runWith, checked, Program.runWith, Prod.mk.injEq,
    Option.some.injEq] at deletes
  obtain ⟨ending, rfl⟩ := deletes
  have kept := keeps.headers_of_run leave runs
  obtain ⟨next, gets⟩ := keeps.perform_get object final getMemory getName
  refine ⟨next, ?_⟩
  cases succeeded : (iis object (.deleteHeader (cText (encodeUtf8 name)))
      start).1 with
  | false =>
      rw [succeeded] at ending
      cases ending
  | true =>
      have gone := keeps.delete object _ start succeeded
      rw [gets, spelling, kept, keyOf, gone, shown]

/-- The headers of both objects. -/
abbrev Store :=
  HttpObject → List UInt8 → Option (List UInt8)

/-- Change one header. -/
def Store.put (store : Store) (object : HttpObject) (key : List UInt8)
    (value : Option (List UInt8)) : Store :=
  fun target other =>
    if target = object ∧ other = key then value else store target other

/-- Remove all headers of an object. -/
def Store.clear (store : Store) (object : HttpObject) : Store :=
  fun target other => if target = object then none else store target other

/-- An IIS in which all calls succeed.  A value that does not replace the header
is appended behind a comma. -/
def plainAnswer (object : HttpObject) (store : Store) :
    (call : IisCall) → call.Answer × Store
  | .setHeader call =>
      let value := call.value.take call.valueLength.toNat
      let old := store object (headerKey call.headerName)
      (true, store.put object (headerKey call.headerName)
        (some (if call.replace then value
          else old.elim value fun before => before ++ 0x2C :: value)))
  | .deleteHeader headerName =>
      (true, store.put object (headerKey headerName) none)
  | .getHeader headerName => (store object (headerKey headerName), store)
  | .clear => ((), store.clear object)
  | .clearHeaders => ((), store.clear object)
  | .closeConnection => ((), store)
  | .disableBuffering => ((), store)
  | .setNeedDisconnect => ((), store)
  | .resetConnection => ((), store)
  | .getKernelCacheEnabled => (true, store)
  | .getStatus => (200, store)
  | .setStatus _ => (true, store)
  | .redirect _ _ _ => (true, store)
  | .setErrorDescription _ _ _ => (true, store)
  | .disableKernelCache _ => ((), store)
  | .setUrl _ _ _ => (true, store)
  | .getHttpMethod => ([0x47, 0x45, 0x54], store)
  | .getRawHttpRequest => (⟨[], 0, 0, 0, 0, 0, 0, 0⟩, store)
  | .getLocalAddress => (none, store)
  | .getRemoteAddress => (none, store)
  | .setKnownHeader header value =>
      (true, store.put object (headerKey (knownName header)) (some value))
  | .writeEntityChunks _ _ => (true, store)
  | .getRawHttpResponse => (ResponseCalls.emptyResponse, store)
  | .getRemainingEntityBytes => (0, store)
  | .readEntityBody _ => (none, store)
  | .allocateRequestMemory _ => (true, store)
  | .insertEntityBody _ => (true, store)

def plainIis : Iis Store :=
  fun object call store => plainAnswer object store call

theorem keepsHeaders_plainIis :
    KeepsHeaders plainIis fun object store => store object where
  get := fun _ _ _ => rfl
  set := by
    intro object call store replaces present succeeded
    simp only [plainIis, plainAnswer, Store.put, and_self, if_true, replaces]
  delete := by
    intro object headerName store succeeded
    simp only [plainIis, plainAnswer, Store.put, and_self, if_true]
  unchanged := by
    intro object call store changedNothing target
    cases call with
    | setHeader call => cases changedNothing
    | setKnownHeader header value => cases changedNothing
    | deleteHeader headerName => cases changedNothing
    | clear => cases changedNothing
    | clearHeaders => cases changedNothing
    | _ => rfl
  other := by
    intro object call store target key leaves
    cases call with
    | setHeader call =>
        apply if_neg
        rintro ⟨same, sameKey⟩
        exact leaves same sameKey.symm
    | setKnownHeader header value =>
        apply if_neg
        rintro ⟨same, sameKey⟩
        exact leaves same sameKey.symm
    | deleteHeader headerName =>
        apply if_neg
        rintro ⟨same, sameKey⟩
        exact leaves same sameKey.symm
    | clear => exact if_neg fun same => leaves same trivial
    | clearHeaders => exact if_neg fun same => leaves same trivial
    | _ => rfl

/-- Memory of zeros. -/
def clearedMemory : Memory where
  pointerIsNull := true
  fresh := ResponseBody.cleared

/-- A text is written, and `setStatus` throws. -/
def writeAndFail : List Call :=
  [⟨.response .write, true, [.string [0x62]], clearedMemory⟩,
    ⟨.response .setStatus, true, [], clearedMemory⟩]

/-- The header `a` is set to `B`, there are a body and an exception, and `A` is
read. -/
theorem getHeader_of_set_letter :
    ∃ final next,
      run (step plainIis (fun _ => none) 1) (fun _ _ => none)
        (⟨.response .setHeader, true, [.string [0x61], .string [0x42]],
          clearedMemory⟩ :: writeAndFail) = some final ∧
      perform plainIis (fun _ => none) 1 final
          ⟨.response .getHeader, true, [.string [0x41]], clearedMemory⟩ =
        some (.returns (.string [0x42]), next) := by
  have writes : ∀ store : Store,
      Leaves plainIis (fun _ => none) 1 .response (keyOf [0x61]) store
        ⟨.response .write, true, [.string [0x62]], clearedMemory⟩ := by
    intro store
    apply leaves_write
    intro header
    cases header <;> decide
  have fails : ∀ store : Store,
      Leaves plainIis (fun _ => none) 1 .response (keyOf [0x61]) store
        ⟨.response .setStatus, true, [], clearedMemory⟩ := by
    intro store
    exact .inr ⟨by decide, _, _, rfl⟩
  have wellFormed : WellFormed [0x42] := by
    unfold WellFormed IsHigh IsLow
    decide
  obtain ⟨next, gets⟩ := @getHeader_of_set Store plainIis
    (fun object store => store object) (fun _ => none) 1 keepsHeaders_plainIis
    .response (fun _ _ => none) _ _ [0x61] [0x42] [0x41]
    [.string [0x61], .string [0x42]] [.string [0x41]] clearedMemory
    writeAndFail clearedMemory rfl rfl rfl wellFormed (by decide)
    (by decide) rfl ⟨writes _, fun _ _ => ⟨fails _, fun _ _ => trivial⟩⟩ rfl
    rfl (by decide)
  exact ⟨_, next, rfl, gets⟩

end HeaderStore

end IISModuleJS
