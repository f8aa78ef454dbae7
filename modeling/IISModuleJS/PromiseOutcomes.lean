import IISModuleJS.AsyncWorkers
import IISModuleJS.JavaScriptValue
import IISModuleJS.TextEncoding

/-!
# How the promises report success and failure

The workers of `gzip.compress`, `gzip.decompress`, `exec`, `query` and
`queryRow` catch the exceptions of their library call and decide afterwards
from a string which way to settle the promise.  An empty result means failure
to the first two, an empty error message means success to the other three.

Both conventions fail on exactly one outcome: a decompression to nothing is
rejected, and an exception without a text fulfills the promise.
-/

namespace IISModuleJS

namespace PromiseOutcomes

open EffectProgram Program AsyncWorkers TextEncoding

/-- What the effects of a worker answer. -/
abbrev Answers := (effect : Effect) → effect.Result

/-- A call whose library call returns a value or throws. -/
inductive ReportedCall
  | gzipCompress (string : Bytes) (compressionLevel : Int)
  | gzipDecompress (buffer : Bytes)
  | dbExec (context : Nat)
  | dbQuery (context : Nat)
  | dbQueryRow (context : Nat)
  deriving DecidableEq

namespace ReportedCall

def operation : ReportedCall → Operation
  | .gzipCompress string compressionLevel =>
      .gzipCompress string compressionLevel
  | .gzipDecompress buffer => .gzipDecompress buffer
  | .dbExec context => .dbExec context
  | .dbQuery context => .dbQuery context
  | .dbQueryRow context => .dbQueryRow context

/-- What the library call did.  The statements return nothing that their
workers look at. -/
def outcome (answer : Answers) : ReportedCall → Except String Bytes
  | .gzipCompress string compressionLevel =>
      answer (.library (.gzipCompress string compressionLevel))
  | .gzipDecompress buffer => answer (.library (.gzipDecompress buffer))
  | .dbExec context => withoutValue (answer (.library (.statementExec context)))
  | .dbQuery context =>
      withoutValue (answer (.library (.statementQuery context)))
  | .dbQueryRow context =>
      withoutValue (answer (.library (.statementRow context)))
where
  withoutValue (result : Except String Unit) : Except String Bytes :=
    result.map fun _ => []

/-- The effects of the worker. -/
def trace (answer : Answers) (call : ReportedCall) : List Effect :=
  call.operation.worker.trace answer

end ReportedCall

def Returned (outcome : Except String Bytes) : Prop :=
  ∃ value, outcome = .ok value

def Threw (outcome : Except String Bytes) : Prop :=
  ∃ what, outcome = .error what

def Fulfilled (trace : List Effect) : Prop :=
  ∃ payload, .settle (.resolve payload) ∈ trace

def Rejected (trace : List Effect) : Prop :=
  ∃ message, .settle (.reject message) ∈ trace

/-- The promise of a call tells whether its library call returned or threw. -/
def TellsApart (answer : Answers) (call : ReportedCall) : Prop :=
  (Fulfilled (call.trace answer) ↔ Returned (call.outcome answer)) ∧
    (Rejected (call.trace answer) ↔ Threw (call.outcome answer))

/-- The outcome is not the one that the worker takes for its opposite. -/
def Legible (answer : Answers) (call : ReportedCall) : Prop :=
  match call with
  | .gzipCompress _ _ | .gzipDecompress _ => call.outcome answer ≠ .ok []
  | .dbExec _ | .dbQuery _ | .dbQueryRow _ => call.outcome answer ≠ .error ""

theorem trace_branch (answer : Answers) (condition : Prop)
    [Decidable condition] (first second : Settlement) :
    Program.trace answer (do
      decrement
      notifyOne
      lockEngine
      if condition then perform (.settle first)
      else perform (.settle second)
      unlockEngine : WorkerProgram Unit) =
      finishing (if condition then first else second) := by
  by_cases holds : condition
  · simp only [if_pos holds]
    rfl
  · simp only [if_neg holds]
    rfl

/-- The settlement of a gzip worker. -/
def gzipSettlement (outcome : Except String Bytes)
    (payload : Bytes → Payload) (message : String) : Settlement :=
  if (!(outcome.toOption.getD []).isEmpty) = true then
    .resolve (payload (outcome.toOption.getD []))
  else
    .reject message

/-- The settlement of a database worker. -/
def dbSettlement (outcome : Except String Unit) (payload : Payload) :
    Settlement :=
  let errorMessage : String :=
    match outcome with
    | .ok _ => ""
    | .error what => what
  if errorMessage.isEmpty then .resolve payload else .reject errorMessage

theorem trace_gzipCompress (answer : Answers) (string : Bytes)
    (compressionLevel : Int) :
    (ReportedCall.gzipCompress string compressionLevel).trace answer =
      .library (.gzipCompress string compressionLevel) ::
        finishing (gzipSettlement
          (answer (.library (.gzipCompress string compressionLevel)))
          .uint8Array "failed to compress using gzip.") := by
  exact congrArg _ (trace_branch answer _ _ _)

theorem trace_gzipDecompress (answer : Answers) (buffer : Bytes) :
    (ReportedCall.gzipDecompress buffer).trace answer =
      .library (.gzipDecompress buffer) ::
        finishing (gzipSettlement
          (answer (.library (.gzipDecompress buffer)))
          .text "failed to decompress using gzip.") := by
  exact congrArg _ (trace_branch answer _ _ _)

theorem trace_databaseWorker (answer : Answers) (library : LibraryCall)
    (outcome : library.Result → Except String Unit) (payload : Payload) :
    Program.trace answer (databaseWorker library outcome payload) =
      .library library ::
        finishing (dbSettlement (outcome (answer (.library library)))
          payload) := by
  exact congrArg _ (trace_branch answer _ _ _)

theorem fulfilled_iff {library : LibraryCall} {settlement : Settlement} :
    Fulfilled (.library library :: finishing settlement) ↔
      ∃ payload, settlement = .resolve payload := by
  simp [Fulfilled, finishing, eq_comm]

theorem rejected_iff {library : LibraryCall} {settlement : Settlement} :
    Rejected (.library library :: finishing settlement) ↔
      ∃ message, settlement = .reject message := by
  simp [Rejected, finishing, eq_comm]

theorem gzip_tellsApart_iff {library : LibraryCall}
    {outcome : Except String Bytes} {payload : Bytes → Payload}
    {message : String} :
    ((Fulfilled (.library library ::
          finishing (gzipSettlement outcome payload message)) ↔
        Returned outcome) ∧
      (Rejected (.library library ::
          finishing (gzipSettlement outcome payload message)) ↔
        Threw outcome)) ↔ outcome ≠ .ok [] := by
  rw [fulfilled_iff, rejected_iff]
  cases outcome with
  | error what => simp [gzipSettlement, Returned, Threw, Except.toOption]
  | ok value =>
      cases value with
      | nil => simp [gzipSettlement, Returned, Threw, Except.toOption]
      | cons first rest =>
          simp [gzipSettlement, Returned, Threw, Except.toOption]

theorem db_tellsApart_iff {library : LibraryCall}
    {outcome : Except String Unit} {payload : Payload} :
    ((Fulfilled (.library library ::
          finishing (dbSettlement outcome payload)) ↔
        Returned (ReportedCall.outcome.withoutValue outcome)) ∧
      (Rejected (.library library ::
          finishing (dbSettlement outcome payload)) ↔
        Threw (ReportedCall.outcome.withoutValue outcome))) ↔
      ReportedCall.outcome.withoutValue outcome ≠ .error "" := by
  rw [fulfilled_iff, rejected_iff]
  cases outcome with
  | ok value =>
      simp [dbSettlement, Returned, Threw,
        ReportedCall.outcome.withoutValue, Except.map]
  | error what =>
      by_cases empty : what = ""
      · simp [dbSettlement, Returned, Threw, empty,
          ReportedCall.outcome.withoutValue, Except.map]
      · simp [dbSettlement, Returned, Threw, empty,
          ReportedCall.outcome.withoutValue, Except.map]

/-- The promise tells the outcomes apart exactly if the call did not have the
one that its worker confuses. -/
theorem tellsApart_iff (answer : Answers) (call : ReportedCall) :
    TellsApart answer call ↔ Legible answer call := by
  unfold TellsApart
  cases call with
  | gzipCompress string compressionLevel =>
      rw [trace_gzipCompress]
      exact gzip_tellsApart_iff
  | gzipDecompress buffer =>
      rw [trace_gzipDecompress]
      exact gzip_tellsApart_iff
  | dbExec context =>
      have traced : (ReportedCall.dbExec context).trace answer = _ :=
        trace_databaseWorker answer (.statementExec context) id .undefined
      rw [traced]
      exact db_tellsApart_iff
  | dbQuery context =>
      have traced : (ReportedCall.dbQuery context).trace answer = _ :=
        trace_databaseWorker answer (.statementQuery context) id .undefined
      rw [traced]
      exact db_tellsApart_iff
  | dbQueryRow context =>
      have traced : (ReportedCall.dbQueryRow context).trace answer = _ :=
        trace_databaseWorker answer (.statementRow context) id
          (.resultNonempty context)
      rw [traced]
      exact db_tellsApart_iff

/-- The settlement that a trace holds. -/
def settlement? (trace : List Effect) : Option Settlement :=
  trace.findSome? fun
    | .settle settlement => some settlement
    | _ => none

/-- `gzip.decompress(gzip.compress(text))`: the string that the second promise
is fulfilled with.  The text is compressed as UTF-8, and the decompressed bytes
are decoded as UTF-8. -/
def gzipRoundTrip (answer : Answers) (compressionLevel : Int)
    (text : WString) : Option WString :=
  match settlement? ((ReportedCall.gzipCompress (encodeUtf8 text)
      compressionLevel).trace answer) with
  | some (.resolve (.uint8Array compressed)) =>
      match settlement? ((ReportedCall.gzipDecompress compressed).trace
          answer) with
      | some (.resolve (.text decompressed)) => some (decodeUtf8 decompressed)
      | _ => none
  | _ => none

/-- The library decompresses what it compressed, and a gzip stream is never
empty. -/
def Lossless (answer : Answers) (compressionLevel : Int)
    (string : Bytes) : Prop :=
  ∃ compressed : Bytes, compressed ≠ [] ∧
    answer (.library (.gzipCompress string compressionLevel)) =
      (.ok compressed : Except String Bytes) ∧
    answer (.library (.gzipDecompress compressed)) =
      (.ok string : Except String Bytes)

theorem settlement_finishing (library : LibraryCall)
    (settlement : Settlement) :
    settlement? (.library library :: finishing settlement) =
      some settlement :=
  rfl

theorem gzipSettlement_ok {value : Bytes} (nonempty : value ≠ [])
    (payload : Bytes → Payload) (message : String) :
    gzipSettlement (.ok value) payload message = .resolve (payload value) := by
  simp [gzipSettlement, Except.toOption, nonempty]

/-- A well-formed string comes back exactly if it is not empty. -/
theorem gzipRoundTrip_iff {answer : Answers} {compressionLevel : Int}
    {text : WString} (wellFormed : WellFormed text)
    (lossless : Lossless answer compressionLevel (encodeUtf8 text)) :
    gzipRoundTrip answer compressionLevel text = some text ↔ text ≠ [] := by
  obtain ⟨compressed, nonempty, compresses, decompresses⟩ := lossless
  have compressPromise : settlement? ((ReportedCall.gzipCompress
      (encodeUtf8 text) compressionLevel).trace answer) =
      some (.resolve (.uint8Array compressed)) := by
    rw [trace_gzipCompress, settlement_finishing, compresses,
      gzipSettlement_ok nonempty]
  have decompressPromise : settlement?
      ((ReportedCall.gzipDecompress compressed).trace answer) =
      some (gzipSettlement (.ok (encodeUtf8 text)) .text
        "failed to decompress using gzip.") := by
    rw [trace_gzipDecompress, settlement_finishing, decompresses]
  rw [gzipRoundTrip, compressPromise]
  dsimp only
  rw [decompressPromise]
  by_cases empty : text = []
  · simp [empty, encodeUtf8_nil, gzipSettlement, Except.toOption]
  · have bytes : encodeUtf8 text ≠ [] := by
      rwa [ne_eq, encodeUtf8_eq_nil]
    rw [gzipSettlement_ok bytes]
    simp [decodeUtf8_encodeUtf8 wellFormed, empty]

/-- For every call and every outcome of its library call the promise tells
success from failure exactly if the outcome is not the one that its worker
confuses; and a string that gzip compresses and decompresses faithfully comes
back exactly if it is not empty. -/
theorem promises_report_iff (answer : Answers) (call : ReportedCall) :
    (TellsApart answer call ↔ Legible answer call) ∧
      ∀ (compressionLevel : Int) (text : WString), WellFormed text →
        Lossless answer compressionLevel (encodeUtf8 text) →
          (gzipRoundTrip answer compressionLevel text = some text ↔
            text ≠ []) :=
  ⟨tellsApart_iff answer call,
    fun _ _ wellFormed lossless => gzipRoundTrip_iff wellFormed lossless⟩

/-- The gzip stream of one letter `a` at level six. -/
def streamOfLetter : Bytes :=
  [0x1F, 0x8B, 0x08, 0, 0, 0, 0, 0, 0, 0x0A, 0x4B, 0x04, 0, 0x43, 0xBE, 0xB7,
    0xE8, 0x01, 0, 0, 0]

/-- The gzip stream of nothing. -/
def streamOfNothing : Bytes :=
  [0x1F, 0x8B, 0x08, 0, 0, 0, 0, 0, 0, 0x0A, 0x03, 0, 0, 0, 0, 0, 0, 0, 0, 0]

/-- The library on these two streams, and statements that succeed. -/
def sampleAnswers : Answers
  | .library (.gzipCompress string _) =>
      if string = [0x61] then .ok streamOfLetter
      else if string = [] then .ok streamOfNothing
      else .error "deflate init failed"
  | .library (.gzipDecompress buffer) =>
      if buffer = streamOfLetter then .ok [0x61]
      else if buffer = streamOfNothing then .ok []
      else .error "incorrect header check"
  | .library (.httpRequest _ _) => (none : Option Nat)
  | .library (.bcryptGensalt _) => ((-1, []) : Int × Bytes)
  | .library (.bcryptHashpw _ _) => ((-1, []) : Int × Bytes)
  | .library (.bcryptCheckpw _ _) => (-1 : Int)
  | .library (.statementExec _) => (.ok () : Except String Unit)
  | .library (.statementQuery _) => (.ok () : Except String Unit)
  | .library (.statementRow _) => (.ok () : Except String Unit)
  | .decrement => ()
  | .notifyOne => ()
  | .lockEngine => ()
  | .settle _ => ()
  | .unlockEngine => ()

theorem promises_report_letter :
    TellsApart sampleAnswers (.gzipDecompress streamOfLetter) ∧
      gzipRoundTrip sampleAnswers 6 [0x61] = some [0x61] := by
  have lossless : Lossless sampleAnswers 6 (encodeUtf8 [0x61]) :=
    ⟨streamOfLetter, by decide, rfl, rfl⟩
  have wellFormed : WellFormed [0x61] := by
    simp [WellFormed, IsHigh, IsLow]
  have report := promises_report_iff sampleAnswers
    (.gzipDecompress streamOfLetter)
  have roundTrip := report.2 6 [0x61] wellFormed lossless
  exact ⟨report.1.mpr (by simp [Legible, ReportedCall.outcome,
    sampleAnswers]), roundTrip.mpr (by simp)⟩

/-- Decompressing the stream of the empty string returns normally, and the
promise is rejected. -/
theorem decompress_nothing_rejected :
    Returned ((ReportedCall.gzipDecompress streamOfNothing).outcome
        sampleAnswers) ∧
      ¬ Fulfilled ((ReportedCall.gzipDecompress streamOfNothing).trace
        sampleAnswers) ∧
      Rejected ((ReportedCall.gzipDecompress streamOfNothing).trace
        sampleAnswers) ∧
      gzipRoundTrip sampleAnswers 6 [] = none := by
  have settled : gzipSettlement (sampleAnswers
      (.library (.gzipDecompress streamOfNothing))) .text
        "failed to decompress using gzip." =
          .reject "failed to decompress using gzip." := rfl
  rw [trace_gzipDecompress, settled, fulfilled_iff, rejected_iff]
  exact ⟨⟨[], rfl⟩, by simp, ⟨_, rfl⟩, rfl⟩

end PromiseOutcomes

end IISModuleJS
