import IISModuleJS.AsyncWorkers
import IISModuleJS.FueledLoop
import IISModuleJS.PiecewiseSource
import IISModuleJS.SortedMultimap
import Mathlib.Data.List.DropRight
import Mathlib.Data.Int.Order.Basic
import Mathlib.Data.List.Lex

/-!
# How the HTTP client reads a response

The client of `http.fetch` reads a response from its socket in small steps: the
lines of the head byte by byte, and the body in pieces of at most 4096 bytes,
each as long as the network likes.  Its functions return `false` when the
response is cut off, and two of them convert a number with `std::stoi`, which
throws.
-/

namespace IISModuleJS

namespace ResponseReader

open AsyncWorkers (Bytes)
open FueledLoop
open PiecewiseSource (Received)

abbrev Source := PiecewiseSource UInt8

def ascii (characters : List Char) : Bytes :=
  characters.map fun character => character.toNat.toUInt8

def newline : UInt8 := 0x0A

def crlf : Bytes := [0x0D, 0x0A]

/-- What a pointer to a text shows. -/
def untilNull (text : Bytes) : Bytes :=
  text.takeWhile (· ≠ 0)

def isspace (unit : UInt8) : Bool :=
  unit == 0x20 || (decide (0x09 ≤ unit) && decide (unit ≤ 0x0D))

/-- The value of a digit or a letter as a digit. -/
def digitValue (unit : UInt8) : Option Nat :=
  if 0x30 ≤ unit ∧ unit ≤ 0x39 then some (unit.toNat - 0x30)
  else if 0x41 ≤ unit ∧ unit ≤ 0x5A then some (unit.toNat - 0x41 + 10)
  else if 0x61 ≤ unit ∧ unit ≤ 0x7A then some (unit.toNat - 0x61 + 10)
  else none

def isDigit (base : Nat) (unit : UInt8) : Bool :=
  match digitValue unit with
  | some value => decide (value < base)
  | none => false

def digitsValue (base : Nat) (digits : Bytes) : Nat :=
  digits.foldl (fun value unit => value * base + (digitValue unit).getD 0) 0

/-- A number to the base sixteen may have a prefix. -/
def dropHexPrefix : Bytes → Bytes
  | 0x30 :: mark :: unit :: rest =>
      if (mark = 0x78 ∨ mark = 0x58) ∧ isDigit 16 unit = true then unit :: rest
      else 0x30 :: mark :: unit :: rest
  | text => text

/-- The number that a text starts with, as `strtol` and its like find it: behind
white space, a sign and a prefix. -/
def parseInteger (base : Nat) (text : Bytes) : Option Int :=
  let text := text.dropWhile isspace
  let negative := text.head? == some 0x2D
  let text :=
    if negative || text.head? == some 0x2B then text.tail else text
  let text := if base = 16 then dropHexPrefix text else text
  let digits := text.takeWhile (isDigit base)
  if digits = [] then none
  else
    let value : Int := digitsValue base digits
    some (if negative then -value else value)

inductive StoiException
  | invalidArgument
  | outOfRange
  deriving DecidableEq

/-- `std::stoi`, for a `long` of 32 bits. -/
def stoi (base : Nat) (text : Bytes) : Except StoiException Int :=
  match parseInteger base (untilNull text) with
  | none => .error .invalidArgument
  | some value =>
      if value < -2147483648 ∨ 2147483647 < value then .error .outOfRange
      else .ok value

def ullongMax : Nat := 18446744073709551615

/-- `strtoull` to the base ten.  A sign is applied modulo `2 ^ 64`. -/
def strtoull (text : Bytes) : Nat :=
  match parseInteger 10 (untilNull text) with
  | none => 0
  | some value =>
      if ullongMax < value.natAbs then ullongMax
      else if value < 0 then ullongMax + 1 - value.natAbs
      else value.natAbs

def tolower (unit : UInt8) : UInt8 :=
  if 0x41 ≤ unit ∧ unit ≤ 0x5A then unit + 0x20 else unit

/-- A `char`, which is signed. -/
def toChar (unit : UInt8) : Int :=
  if unit < 0x80 then unit.toNat else (unit.toNat : Int) - 256

/-- The comparison `ci` of keys is that of these lists. -/
def headerRank (key : Bytes) : List Int :=
  key.map fun unit => toChar (tolower unit)

abbrev Headers := SortedMultimap headerRank Bytes

def hasHeader (headers : Headers) (key : Bytes) : Bool :=
  (headers.find? key).isSome

/-- `get_header_value`, for the first header of the key. -/
def getHeaderValue (headers : Headers) (key default : Bytes) : Bytes :=
  match headers.find? key with
  | some header => untilNull header.2
  | none => default

/-- `get_header_value_uint64`. -/
def getHeaderValueUint64 (headers : Headers) (key : Bytes) (default : Nat) :
    Nat :=
  match headers.find? key with
  | some header => strtoull header.2
  | none => default

/-- `strcasecmp` finds no difference. -/
def sameIgnoringCase (first second : Bytes) : Bool :=
  first.map tolower == second.map tolower

def transferEncoding : Bytes :=
  ascii ['T', 'r', 'a', 'n', 's', 'f', 'e', 'r', '-', 'E', 'n', 'c', 'o', 'd',
    'i', 'n', 'g']

def isChunkedTransferEncoding (headers : Headers) : Bool :=
  sameIgnoringCase (getHeaderValue headers transferEncoding [])
    (ascii ['c', 'h', 'u', 'n', 'k', 'e', 'd'])

def contentLength : Bytes :=
  ascii ['C', 'o', 'n', 't', 'e', 'n', 't', '-', 'L', 'e', 'n', 'g', 't', 'h']

def contentEncoding : Bytes :=
  ascii ['C', 'o', 'n', 't', 'e', 'n', 't', '-', 'E', 'n', 'c', 'o', 'd', 'i',
    'n', 'g']

def isBlank (unit : UInt8) : Bool :=
  unit == 0x20 || unit == 0x09

/-- A character that `.` does not match. -/
def isLineBreak (unit : UInt8) : Bool :=
  unit == 0x0A || unit == 0x0D

/-- The part `[\t ]*(.+)` of the pattern for a header. -/
def matchValue (text : Bytes) : Option Bytes :=
  let value := text.dropWhile isBlank
  let value := if value = [] then text.drop (text.length - 1) else value
  if value ≠ [] ∧ value.all (fun unit => !isLineBreak unit) = true then
    some value
  else none

/-- The pattern `(.+?):[\t ]*(.+)` for a header, behind a part of the key. -/
def matchFieldFrom (key : Bytes) : Bytes → Option (Bytes × Bytes)
  | [] => none
  | unit :: rest =>
      match if key ≠ [] ∧ unit = 0x3A then matchValue rest else none with
      | some value => some (key, value)
      | none =>
          if isLineBreak unit then none
          else matchFieldFrom (key ++ [unit]) rest

/-- The line ends with CRLF. -/
def endWithCrlf (line : Bytes) : Bool :=
  decide (2 ≤ line.length) && line.drop (line.length - 2) == crlf

/-- What `read_headers` does with a line; nothing is left to do behind a blank
one. -/
def headerLine (headers : Headers) (line : Bytes) : Option Headers :=
  if endWithCrlf line then
    if line.length = 2 then none
    else
      let text := (line.take (line.length - 2)).rdropWhile isBlank
      match matchFieldFrom [] text with
      | some (key, value) => some (headers.emplace key value)
      | none => some headers
  else some headers

/-- `Response`. -/
@[ext]
structure Response where
  version : Bytes
  status : Int
  headers : Headers
  body : Bytes

def Response.new : Response :=
  ⟨[], -1, .empty, []⟩

/-- The part `(\d+?) .*\r\n` of the pattern for a status line. -/
def matchStatus (text : Bytes) : Option Bytes :=
  let digits := text.takeWhile (isDigit 10)
  let rest := text.drop digits.length
  if digits ≠ [] ∧ rest.head? = some 0x20 ∧ endWithCrlf rest.tail = true ∧
      (rest.tail.take (rest.tail.length - 2)).all
        (fun unit => !isLineBreak unit) = true then
    some digits
  else none

/-- The pattern `(HTTP/1\.[01]) (\d+?) .*\r\n`: the version and the status. -/
def matchResponseLine (text : Bytes) : Option (Bytes × Bytes) :=
  let version := text.take 8
  if (version = ascii ['H', 'T', 'T', 'P', '/', '1', '.', '0'] ∨
      version = ascii ['H', 'T', 'T', 'P', '/', '1', '.', '1']) ∧
      (text.drop 8).head? = some 0x20 then
    (matchStatus (text.drop 9)).map fun digits => (version, digits)
  else none

/-- A reading function returns `false`, an exception leaves it, or its loop went
on for more rounds than were allowed. -/
inductive ReadFailure
  | returnsFalse
  | throws (exception : StoiException)
  | unfinished
  deriving DecidableEq

/-- The end of a loop with a bound on its rounds. -/
def bounded {State : Type} (final : Option (Except ReadFailure State)) :
    Except ReadFailure State :=
  final.getD (.error .unfinished)

/-- `std::stoi` in a reading function. -/
def readStoi (base : Nat) (text : Bytes) : Except ReadFailure Int :=
  (stoi base text).mapError .throws

/-- `stream_line_reader`: the part of the fixed buffer that is used, and the
buffer that takes over when it is full. -/
structure LineReader where
  fixedBufferSize : Nat
  fixedBuffer : Bytes
  glowableBuffer : Bytes

/-- The text between `ptr()` and `ptr() + size()`. -/
def LineReader.text (reader : LineReader) : Bytes :=
  if reader.glowableBuffer = [] then reader.fixedBuffer
  else reader.glowableBuffer

def LineReader.append (reader : LineReader) (unit : UInt8) : LineReader :=
  if reader.fixedBuffer.length < reader.fixedBufferSize - 1 then
    { reader with fixedBuffer := reader.fixedBuffer ++ [unit] }
  else
    let glowableBuffer :=
      if reader.glowableBuffer = [] then reader.fixedBuffer
      else reader.glowableBuffer
    { reader with glowableBuffer := glowableBuffer ++ [unit] }

/-- `getline` under way. -/
structure LineState where
  count : Nat
  reader : LineReader
  source : Source
  ended : Bool

def lineStep (state : LineState) :
    Received UInt8 × Source → Except ReadFailure LineState
  | (.failed, _) => .error .returnsFalse
  | (.closed, source) =>
      if state.count = 0 then .error .returnsFalse
      else .ok { state with source := source, ended := true }
  | (.items piece, source) =>
      .ok
        { count := state.count + 1
          reader := piece.foldl LineReader.append state.reader
          source := source
          ended := piece == [newline] }

def lineRound (state : LineState) : Except ReadFailure LineState :=
  lineStep state (state.source.read 1)

/-- `getline`, with the size of the fixed buffer. -/
def getline (fuel fixedBufferSize : Nat) (source : Source) :
    Except ReadFailure (Bytes × Source) :=
  (bounded (doWhile lineRound (fun state => !state.ended) fuel
    ⟨0, ⟨fixedBufferSize, [], []⟩, source, false⟩)).map fun state =>
      (state.reader.text, state.source)

/-- `read_response_line`. -/
def readResponseLine (fuel : Nat) (source : Source) (response : Response) :
    Except ReadFailure (Response × Source) := do
  let (line, source) ← getline fuel 2048 source
  match matchResponseLine (untilNull line) with
  | none => pure (response, source)
  | some (version, digits) =>
      let status ← readStoi 10 digits
      pure ({ response with version := version, status := status }, source)

structure HeadersState where
  headers : Headers
  source : Source
  ended : Bool

def headersStep (state : HeadersState) (line : Bytes) (source : Source) :
    HeadersState :=
  match headerLine state.headers line with
  | none => { state with source := source, ended := true }
  | some headers => { state with headers := headers, source := source }

def headersRound (fuel : Nat) (state : HeadersState) :
    Except ReadFailure HeadersState := do
  let (line, source) ← getline fuel 2048 state.source
  pure (headersStep state line source)

/-- `read_headers`. -/
def readHeaders (fuel : Nat) (source : Source) (headers : Headers) :
    Except ReadFailure (Headers × Source) :=
  (bounded (doWhile (headersRound fuel) (fun state => !state.ended) fuel
    ⟨headers, source, false⟩)).map fun state => (state.headers, state.source)

/-- `CPPHTTPLIB_RECV_BUFSIZ`. -/
def recvBufsiz : Nat := 4096

/-- A loop that passes on what it reads. -/
structure ContentState where
  content : Bytes
  source : Source
  ended : Bool

def contentStep (state : ContentState) :
    Received UInt8 × Source → Except ReadFailure ContentState
  | (.items piece, source) =>
      .ok { state with content := state.content ++ piece, source := source }
  | (.closed, _) => .error .returnsFalse
  | (.failed, _) => .error .returnsFalse

def contentRound (len : Nat) (state : ContentState) :
    Except ReadFailure ContentState :=
  contentStep state
    (state.source.read (min (len - state.content.length) recvBufsiz))

/-- `read_content_with_length`.  The length of the content is `r`. -/
def readContentWithLength (fuel len : Nat) (source : Source) :
    Except ReadFailure (Bytes × Source) :=
  (bounded (whileDo (fun state => decide (state.content.length < len))
    (contentRound len) fuel ⟨[], source, false⟩)).map fun state =>
      (state.content, state.source)

def restStep (state : ContentState) :
    Received UInt8 × Source → Except ReadFailure ContentState
  | (.items piece, source) =>
      .ok { state with content := state.content ++ piece, source := source }
  | (.closed, source) => .ok { state with source := source, ended := true }
  | (.failed, _) => .error .returnsFalse

def restRound (state : ContentState) : Except ReadFailure ContentState :=
  restStep state (state.source.read recvBufsiz)

/-- `read_content_without_length`. -/
def readContentWithoutLength (fuel : Nat) (source : Source) :
    Except ReadFailure (Bytes × Source) :=
  (bounded (doWhile restRound (fun state => !state.ended) fuel
    ⟨[], source, false⟩)).map fun state => (state.content, state.source)

/-- The body of the loop in `read_content_chunked`: a chunk, and the length of
the next one, unless the line behind the chunk breaks the loop off. -/
def readChunk (fuel len : Nat) (source : Source) :
    Except ReadFailure ((Bytes × Option Int) × Source) := do
  let (chunk, source) ← readContentWithLength fuel len source
  let (line, source) ← getline fuel 16 source
  if untilNull line ≠ crlf then pure ((chunk, none), source)
  else
    let (line, source) ← getline fuel 16 source
    let chunkLen ← readStoi 16 line
    pure ((chunk, some chunkLen), source)

/-- The loop of `read_content_chunked`. -/
structure ChunkState where
  chunkLen : Int
  content : Bytes
  source : Source
  broken : Bool

def ChunkState.goesOn (state : ChunkState) : Bool :=
  decide (0 < state.chunkLen) && !state.broken

def chunkStep (state : ChunkState) :
    (Bytes × Option Int) × Source → ChunkState
  | ((chunk, none), source) =>
      ⟨state.chunkLen, state.content ++ chunk, source, true⟩
  | ((chunk, some chunkLen), source) =>
      ⟨chunkLen, state.content ++ chunk, source, false⟩

def chunkRound (fuel : Nat) (state : ChunkState) :
    Except ReadFailure ChunkState :=
  (readChunk fuel state.chunkLen.toNat state.source).map (chunkStep state)

/-- `read_content_chunked`, behind its loop. -/
def chunkedEnd (fuel : Nat) (state : ChunkState) :
    Except ReadFailure (Bytes × Source) :=
  if state.chunkLen = 0 then do
    let (line, source) ← getline fuel 16 state.source
    if untilNull line = crlf then pure (state.content, source)
    else .error .returnsFalse
  else pure (state.content, state.source)

/-- `read_content_chunked`. -/
def readContentChunked (fuel : Nat) (source : Source) :
    Except ReadFailure (Bytes × Source) := do
  let (line, source) ← getline fuel 16 source
  let chunkLen ← readStoi 16 line
  let state ← bounded (whileDo ChunkState.goesOn (chunkRound fuel) fuel
    ⟨chunkLen, [], source, false⟩)
  chunkedEnd fuel state

/-- `read_content`, without the support for zlib.  No length exceeds the limit
of `process_request`. -/
def readContent (fuel : Nat) (headers : Headers) (source : Source) :
    Except ReadFailure (Bytes × Source) :=
  if getHeaderValue headers contentEncoding [] = ascii ['g', 'z', 'i', 'p'] then
    .error .returnsFalse
  else if isChunkedTransferEncoding headers then readContentChunked fuel source
  else if !hasHeader headers contentLength then
    readContentWithoutLength fuel source
  else
    let len := getHeaderValueUint64 headers contentLength 0
    if 0 < len then readContentWithLength fuel len source
    else pure ([], source)

def headMethod : Bytes :=
  ascii ['H', 'E', 'A', 'D']

def connectMethod : Bytes :=
  ascii ['C', 'O', 'N', 'N', 'E', 'C', 'T']

/-- `process_request`, behind the request. -/
def receiveResponse (fuel : Nat) (method : Bytes) (source : Source) :
    Except ReadFailure (Response × Source) := do
  let (response, source) ← readResponseLine fuel source .new
  let (headers, source) ← readHeaders fuel source response.headers
  let response := { response with headers := headers }
  if method ≠ headMethod ∧ method ≠ connectMethod then
    let (body, source) ← readContent fuel headers source
    pure ({ response with body := body }, source)
  else pure (response, source)

end ResponseReader

end IISModuleJS
