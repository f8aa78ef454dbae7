import IISModuleJS.EffectProgram
import Mathlib.Data.List.Basic

/-!
# The worker threads of the asynchronous operations

Eight functions of the API start a worker thread and return a promise:
`http.fetch`, `gzip.compress`, `gzip.decompress`, `crypto.bcrypt.hash`,
`crypto.bcrypt.check`, and `exec`, `query` and `queryRow` of a database
object.  Each worker calls a library, gives back its thread slot, takes the
engine lock and settles the promise.

The bodies are written out one by one, with their early exits.  All executions
of all of them have the same shape, whatever the libraries return.
-/

namespace IISModuleJS

namespace AsyncWorkers

open EffectProgram Program

abbrev Bytes := List UInt8

/-- `FetchRequest`. -/
structure FetchRequest where
  hostname : String
  path : String
  isSsl : Bool
  method : String
  body : String
  headers : List (String × String)
  deriving DecidableEq

/-- A library call that a worker makes without the engine lock. -/
inductive LibraryCall
  | httpRequest (request : FetchRequest) (sendsBody : Bool)
  | gzipCompress (string : Bytes) (compressionLevel : Int)
  | gzipDecompress (buffer : Bytes)
  | bcryptGensalt (workload : Int)
  | bcryptHashpw (input : Bytes) (salt : Bytes)
  | bcryptCheckpw (password : Bytes) (hash : Bytes)
  | statementExec (context : Nat)
  | statementQuery (context : Nat)
  | statementRow (context : Nat)
  deriving DecidableEq

/-- What a library call can return: a response or a null pointer, an error
code with the contents of the output buffer, or an exception. -/
def LibraryCall.Result : LibraryCall → Type
  | .httpRequest _ _ => Option Nat
  | .gzipCompress _ _ => Except String Bytes
  | .gzipDecompress _ => Except String Bytes
  | .bcryptGensalt _ => Int × Bytes
  | .bcryptHashpw _ _ => Int × Bytes
  | .bcryptCheckpw _ _ => Int
  | .statementExec _ => Except String Unit
  | .statementQuery _ => Except String Unit
  | .statementRow _ => Except String Unit

instance (library : LibraryCall) : Nonempty library.Result := by
  cases library
  case httpRequest => exact ⟨(none : Option Nat)⟩
  case bcryptGensalt => exact ⟨((0, []) : Int × Bytes)⟩
  case bcryptHashpw => exact ⟨((0, []) : Int × Bytes)⟩
  case bcryptCheckpw => exact ⟨(0 : Int)⟩
  case gzipCompress => exact ⟨(.error "" : Except String Bytes)⟩
  case gzipDecompress => exact ⟨(.error "" : Except String Bytes)⟩
  case statementExec => exact ⟨(.ok () : Except String Unit)⟩
  case statementQuery => exact ⟨(.ok () : Except String Unit)⟩
  case statementRow => exact ⟨(.ok () : Except String Unit)⟩

/-- The native value that a worker converts for the script. -/
inductive Payload
  | fetchObject (response : Nat)
  | uint8Array (content : Bytes)
  | text (content : Bytes)
  | boolean (value : Bool)
  | undefined
  | resultNonempty (context : Nat)
  deriving DecidableEq

inductive Settlement
  | resolve (payload : Payload)
  | reject (message : String)
  deriving DecidableEq

inductive Effect
  | library (library : LibraryCall)
  | decrement
  | notifyOne
  | lockEngine
  | settle (settlement : Settlement)
  | unlockEngine
  deriving DecidableEq

def Effect.Result : Effect → Type
  | .library called => called.Result
  | _ => Unit

theorem nonempty_result (effect : Effect) : Nonempty effect.Result := by
  cases effect with
  | library library => exact inferInstanceAs (Nonempty library.Result)
  | _ => exact ⟨()⟩

abbrev WorkerProgram := Program Effect Effect.Result

def perform (performed : Effect) : WorkerProgram performed.Result :=
  effect performed

def call (library : LibraryCall) : WorkerProgram library.Result :=
  perform (.library library)

def decrement : WorkerProgram Unit :=
  perform .decrement

def notifyOne : WorkerProgram Unit :=
  perform .notifyOne

def lockEngine : WorkerProgram Unit :=
  perform .lockEngine

def resolve (payload : Payload) : WorkerProgram Unit :=
  perform (.settle (.resolve payload))

def reject (message : String) : WorkerProgram Unit :=
  perform (.settle (.reject message))

def unlockEngine : WorkerProgram Unit :=
  perform .unlockEngine

/-- The request methods that the fetch worker knows, and whether they send the
body. -/
def clientMethods : List (String × Bool) :=
  [("GET", false), ("POST", true), ("HEAD", false), ("PUT", true),
    ("DELETE", true), ("OPTIONS", false), ("PATCH", true)]

/-- The worker of `http.fetch`. -/
def fetchWorker (request : FetchRequest) : WorkerProgram Unit := do
  let response : Option Nat ←
    match clientMethods.lookup request.method with
    | some sendsBody => call (.httpRequest request sendsBody)
    | none => pure none
  decrement
  notifyOne
  lockEngine
  match response with
  | none =>
      reject "unable to fetch"
      unlockEngine
  | some response =>
      resolve (.fetchObject response)
      unlockEngine

/-- The worker of `gzip.compress`. -/
def gzipCompressWorker (string : Bytes) (compressionLevel : Int) :
    WorkerProgram Unit := do
  let outcome : Except String Bytes ←
    call (.gzipCompress string compressionLevel)
  let compressed : Bytes := outcome.toOption.getD []
  decrement
  notifyOne
  lockEngine
  if !compressed.isEmpty then
    resolve (.uint8Array compressed)
  else
    reject "failed to compress using gzip."
  unlockEngine

/-- The worker of `gzip.decompress`. -/
def gzipDecompressWorker (buffer : Bytes) : WorkerProgram Unit := do
  let outcome : Except String Bytes ← call (.gzipDecompress buffer)
  let decompressed : Bytes := outcome.toOption.getD []
  decrement
  notifyOne
  lockEngine
  if !decompressed.isEmpty then
    resolve (.text decompressed)
  else
    reject "failed to decompress using gzip."
  unlockEngine

/-- The label `finish` in the worker of `crypto.bcrypt.hash`. -/
def bcryptHashFinish (result : Int) (hash : Bytes) :
    WorkerProgram Unit := do
  decrement
  notifyOne
  lockEngine
  if result ≠ 0 then
    reject "failed to generate bcrypt hash."
  else
    resolve (.text (hash.takeWhile (· ≠ 0)))
  unlockEngine

/-- The worker of `crypto.bcrypt.hash`. -/
def bcryptHashWorker (input : Bytes) (workload : Int) :
    WorkerProgram Unit := do
  let (result, salt) : Int × Bytes ← call (.bcryptGensalt workload)
  if result ≠ 0 then
    bcryptHashFinish result []
  else
    let (result, hash) : Int × Bytes ← call (.bcryptHashpw input salt)
    if result ≠ 0 then
      bcryptHashFinish result hash
    else
      bcryptHashFinish result hash

/-- The worker of `crypto.bcrypt.check`. -/
def bcryptCheckWorker (password hash : Bytes) : WorkerProgram Unit := do
  let code : Int ← call (.bcryptCheckpw password hash)
  decrement
  notifyOne
  lockEngine
  resolve (.boolean (code == 0))
  unlockEngine

/-- The part that the workers of the three database operations share: the
exception text is kept as the error message, and an empty message means
success. -/
def databaseWorker (library : LibraryCall)
    (outcome : library.Result → Except String Unit) (payload : Payload) :
    WorkerProgram Unit := do
  let result ← call library
  let errorMessage : String :=
    match outcome result with
    | .ok _ => ""
    | .error what => what
  decrement
  notifyOne
  lockEngine
  if errorMessage.isEmpty then
    resolve payload
  else
    reject errorMessage
  unlockEngine

/-- The worker of `exec`. -/
def dbExecWorker (context : Nat) : WorkerProgram Unit :=
  databaseWorker (.statementExec context) id .undefined

/-- The worker of `query`. -/
def dbQueryWorker (context : Nat) : WorkerProgram Unit :=
  databaseWorker (.statementQuery context) id .undefined

/-- The worker of `queryRow`. -/
def dbQueryRowWorker (context : Nat) : WorkerProgram Unit :=
  databaseWorker (.statementRow context) id (.resultNonempty context)

/-- A call of an asynchronous operation that passed its argument checks. -/
inductive Operation
  | fetch (request : FetchRequest)
  | gzipCompress (string : Bytes) (compressionLevel : Int)
  | gzipDecompress (buffer : Bytes)
  | bcryptHash (input : Bytes) (workload : Int)
  | bcryptCheck (password hash : Bytes)
  | dbExec (context : Nat)
  | dbQuery (context : Nat)
  | dbQueryRow (context : Nat)
  deriving DecidableEq

def Operation.worker : Operation → WorkerProgram Unit
  | .fetch request => fetchWorker request
  | .gzipCompress string level => gzipCompressWorker string level
  | .gzipDecompress buffer => gzipDecompressWorker buffer
  | .bcryptHash input workload => bcryptHashWorker input workload
  | .bcryptCheck password hash => bcryptCheckWorker password hash
  | .dbExec context => dbExecWorker context
  | .dbQuery context => dbQueryWorker context
  | .dbQueryRow context => dbQueryRowWorker context

/-- What a worker does after its library calls. -/
def finishing (settlement : Settlement) : List Effect :=
  [.decrement, .notifyOne, .lockEngine, .settle settlement, .unlockEngine]

/-- The shape of a complete execution: the library calls come first, then the
slot is released once, then the engine lock is taken once and the promise
settled once under it. -/
def Complete (trace : List Effect) : Prop :=
  ∃ (calls : List LibraryCall) (settlement : Settlement),
    trace = calls.map Effect.library ++ finishing settlement

/-- All executions of a program are complete. -/
def Completes (program : WorkerProgram Unit) : Prop :=
  ∀ trace value, Runs program trace value → Complete trace

theorem completes_call {library : LibraryCall}
    {next : library.Result → WorkerProgram Unit}
    (completes : ∀ result, Completes (next result)) :
    Completes (call library >>= next) := by
  intro trace value runs
  obtain ⟨result, rest, rfl, restRuns⟩ := runs_effect_bind.mp runs
  obtain ⟨calls, settlement, rfl⟩ := completes result rest value restRuns
  exact ⟨library :: calls, settlement, rfl⟩

/-- The common ending of all workers. -/
theorem completes_finishing {settling : WorkerProgram Unit}
    (settles : ∀ trace value, Runs settling trace value →
      ∃ settlement, trace = [.settle settlement, .unlockEngine]) :
    Completes (do decrement; notifyOne; lockEngine; settling) := by
  intro trace value runs
  obtain ⟨_, afterDecrement, rfl, notifies⟩ := runs_effect_bind.mp runs
  obtain ⟨_, afterNotify, rfl, locks⟩ := runs_effect_bind.mp notifies
  obtain ⟨_, afterLock, rfl, last⟩ := runs_effect_bind.mp locks
  obtain ⟨settlement, rfl⟩ := settles afterLock value last
  exact ⟨[], settlement, rfl⟩

theorem settles_then_unlocks (settlement : Settlement)
    {trace : List Effect} {value : Unit}
    (runs : Runs (perform (.settle settlement) >>= fun _ =>
      unlockEngine : WorkerProgram Unit) trace value) :
    ∃ settlement, trace = [.settle settlement, .unlockEngine] := by
  obtain ⟨_, rest, rfl, unlocks⟩ := runs_effect_bind.mp runs
  obtain ⟨_, last, rfl, ends⟩ := runs_perform.mp unlocks
  cases ends
  exact ⟨settlement, rfl⟩

/-- A settlement by two branches. -/
theorem completes_branch (condition : Prop) [Decidable condition]
    (first second : Settlement) :
    Completes (do
      decrement
      notifyOne
      lockEngine
      if condition then perform (.settle first)
      else perform (.settle second)
      unlockEngine) := by
  apply completes_finishing
  intro trace value runs
  split at runs
  · exact settles_then_unlocks first runs
  · exact settles_then_unlocks second runs

theorem completes_fetchWorker (request : FetchRequest) :
    Completes (fetchWorker request) := by
  have rest (response : Option Nat) :
      Completes (do
        decrement
        notifyOne
        lockEngine
        match response with
        | none =>
            reject "unable to fetch"
            unlockEngine
        | some response =>
            resolve (.fetchObject response)
            unlockEngine) := by
    apply completes_finishing
    intro trace value runs
    cases response with
    | none => exact settles_then_unlocks _ runs
    | some response => exact settles_then_unlocks _ runs
  unfold fetchWorker
  split
  · exact completes_call rest
  · exact rest none

theorem completes_bcryptHashWorker (input : Bytes) (workload : Int) :
    Completes (bcryptHashWorker input workload) := by
  have finish (result : Int) (hash : Bytes) :
      Completes (bcryptHashFinish result hash) :=
    completes_branch _ _ _
  refine completes_call fun (saltResult, salt) => ?_
  dsimp only
  split
  · exact finish saltResult []
  · refine completes_call fun (hashResult, hash) => ?_
    dsimp only
    split
    · exact finish hashResult hash
    · exact finish hashResult hash

theorem completes_databaseWorker (library : LibraryCall)
    (outcome : library.Result → Except String Unit) (payload : Payload) :
    Completes (databaseWorker library outcome payload) :=
  completes_call fun _ => completes_branch _ _ _

/-- All executions of all eight workers are complete. -/
theorem completes_worker (operation : Operation) :
    Completes operation.worker := by
  cases operation with
  | fetch request => exact completes_fetchWorker request
  | gzipCompress string level =>
      exact completes_call fun _ => completes_branch _ _ _
  | gzipDecompress buffer =>
      exact completes_call fun _ => completes_branch _ _ _
  | bcryptHash input workload =>
      exact completes_bcryptHashWorker input workload
  | bcryptCheck password hash =>
      refine completes_call fun code => completes_finishing ?_
      intro trace value runs
      exact settles_then_unlocks _ runs
  | dbExec context => exact completes_databaseWorker _ _ _
  | dbQuery context => exact completes_databaseWorker _ _ _
  | dbQueryRow context => exact completes_databaseWorker _ _ _

/-- How far a worker can be when it performs its next effect. -/
inductive NextEffect (history : List Effect) : Effect → Prop
  | library (library : LibraryCall)
      (holding : .decrement ∉ history) (unlocked : .lockEngine ∉ history) :
      NextEffect history (.library library)
  | decrement
      (holding : .decrement ∉ history) (unlocked : .lockEngine ∉ history) :
      NextEffect history .decrement
  | notifyOne
      (released : .decrement ∈ history) (unlocked : .lockEngine ∉ history) :
      NextEffect history .notifyOne
  | lockEngine
      (released : .decrement ∈ history) (unlocked : .lockEngine ∉ history) :
      NextEffect history .lockEngine
  | settle (settlement : Settlement)
      (released : .decrement ∈ history) (locked : .lockEngine ∈ history)
      (owning : .unlockEngine ∉ history) :
      NextEffect history (.settle settlement)
  | unlockEngine
      (released : .decrement ∈ history) (locked : .lockEngine ∈ history)
      (owning : .unlockEngine ∉ history) :
      NextEffect history .unlockEngine

theorem nextEffect_of_complete {history rest : List Effect}
    {effect : Effect} (complete : Complete (history ++ effect :: rest)) :
    NextEffect history effect := by
  obtain ⟨calls, settlement, same⟩ := complete
  rcases List.append_eq_append_iff.mp same with
    ⟨more, callsEq, restEq⟩ | ⟨used, rfl, finishingEq⟩
  · have decrement : .decrement ∉ calls.map Effect.library := by simp
    have lockEngine : .lockEngine ∉ calls.map Effect.library := by simp
    rw [callsEq] at decrement lockEngine
    cases more with
    | nil =>
        cases restEq
        exact .decrement (fun held => decrement (by simp [held]))
          (fun held => lockEngine (by simp [held]))
    | cons first more =>
        cases restEq
        obtain ⟨library, -, rfl⟩ : ∃ library ∈ calls,
            Effect.library library = effect := by
          have member : effect ∈ calls.map Effect.library := by
            simp [callsEq]
          simpa using member
        exact .library library (fun held => decrement (by simp [held]))
          (fun held => lockEngine (by simp [held]))
  · match used, finishingEq with
    | [], finishingEq =>
        cases finishingEq
        exact .decrement (by simp) (by simp)
    | [_], finishingEq =>
        cases finishingEq
        exact .notifyOne (by simp) (by simp)
    | [_, _], finishingEq =>
        cases finishingEq
        exact .lockEngine (by simp) (by simp)
    | [_, _, _], finishingEq =>
        cases finishingEq
        exact .settle settlement (by simp) (by simp) (by simp)
    | [_, _, _, _], finishingEq =>
        cases finishingEq
        exact .unlockEngine (by simp) (by simp) (by simp)
    | _ :: _ :: _ :: _ :: _ :: _, finishingEq =>
        simp [finishing] at finishingEq

end AsyncWorkers

end IISModuleJS
