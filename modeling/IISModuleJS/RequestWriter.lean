import IISModuleJS.ResponseFormat

/-!
# How the HTTP client writes a request

The client writes a request line, the headers of the script, those that it adds,
and the body.  In the path it escapes all characters that could end the line or
the path; but it does so only behind what looks like the scheme and the host of
an address, so that a path must start with a slash to be escaped as a whole.

A server that reads the request with the functions of the same library gets the
path, the headers and the body, and no byte of what follows; but for `DELETE` it
does not read the body that the client has written.
-/

namespace IISModuleJS

namespace RequestWriter

open AsyncWorkers (Bytes)
open ResponseReader

/-- `%02X`. -/
def escape (unit : UInt8) : Bytes :=
  [0x25, hexDigit (unit.toNat / 16), hexDigit (unit.toNat % 16)]
where
  hexDigit (value : Nat) : UInt8 :=
    if value < 10 then (0x30 + value).toUInt8 else (0x41 + (value - 10)).toUInt8

/-- The characters that `encode_url` escapes besides those above 127: a blank, a
plus, a line break, an apostrophe, a comma, a colon and a semicolon. -/
def escaped : Bytes :=
  [0x20, 0x2B, 0x0D, 0x0A, 0x27, 0x2C, 0x3A, 0x3B]

/-- A character in `encode_url`. -/
def encodeUnit (unit : UInt8) : Bytes :=
  if unit ∈ escaped ∨ 0x80 ≤ unit then escape unit else [unit]

/-- `encode_url`. -/
def encodeUrl (text : Bytes) : Bytes :=
  (untilNull text).flatMap encodeUnit

/-- The characters that end the scheme of an address. -/
def endsScheme (unit : UInt8) : Bool :=
  unit ∈ ascii [':', '/', '?', '#']

/-- The characters that end the host of an address. -/
def endsHost (unit : UInt8) : Bool :=
  unit ∈ ascii ['/', '?', '#']

/-- The first group of the pattern for a path: a scheme, if there is one, and
what could be a host. -/
def addressPrefix (path : Bytes) : Bytes :=
  let scheme := path.takeWhile (fun unit => !endsScheme unit)
  let rest := path.drop scheme.length
  if scheme ≠ [] ∧ rest.take 3 = ascii [':', '/', '/'] then
    scheme ++ rest.take 3 ++
      (rest.drop 3).takeWhile (fun unit => !endsHost unit)
  else path.takeWhile (fun unit => !endsHost unit)

/-- The pattern for a path: its two groups.  Behind the first `#` there must be
no line break. -/
def matchPath (path : Bytes) : Option (Bytes × Bytes) :=
  if (path.dropWhile (· ≠ 0x23)).all (fun unit => !isLineBreak unit) then
    some (addressPrefix path, path.drop (addressPrefix path).length)
  else none

/-- The target that `write_request` writes. -/
def target (path : Bytes) : Option Bytes :=
  (matchPath path).map fun groups => groups.1 ++ encodeUrl groups.2

/-- `Request`, as far as `http.fetch` fills it in. -/
structure Request where
  method : Bytes
  path : Bytes
  headers : Headers
  body : Bytes

def connectionKey : Bytes :=
  ascii ['C', 'o', 'n', 'n', 'e', 'c', 't', 'i', 'o', 'n']

def hostKey : Bytes :=
  ascii ['H', 'o', 's', 't']

def acceptKey : Bytes :=
  ascii ['A', 'c', 'c', 'e', 'p', 't']

def userAgentKey : Bytes :=
  ascii ['U', 's', 'e', 'r', '-', 'A', 'g', 'e', 'n', 't']

def contentTypeKey : Bytes :=
  ascii ['C', 'o', 'n', 't', 'e', 'n', 't', '-', 'T', 'y', 'p', 'e']

/-- A header that the client adds if the script has none of the key. -/
def addedField (request : Request) (key value : Bytes) :
    List (Bytes × Bytes) :=
  if hasHeader request.headers key then [] else [(key, value)]

/-- The headers that `write_request` adds, in the order in which it does, for a
client with the port of its protocol and a single connection. -/
def addedFields (host : Bytes) (request : Request) : List (Bytes × Bytes) :=
  (connectionKey, ascii ['c', 'l', 'o', 's', 'e']) ::
    addedField request hostKey host ++
    addedField request acceptKey (ascii ['*', '/', '*']) ++
    addedField request userAgentKey
      (ascii ['c', 'p', 'p', '-', 'h', 't', 't', 'p', 'l', 'i', 'b', '/', '0',
        '.', '5']) ++
    if request.body = [] then [(contentLength, ascii ['0'])]
    else
      addedField request contentTypeKey
        (ascii ['t', 'e', 'x', 't', '/', 'p', 'l', 'a', 'i', 'n']) ++
      addedField request contentLength (toDecimal request.body.length)

def addedHeaders (host : Bytes) (request : Request) : Headers :=
  .ofEntries (addedFields host request)

/-- The version that the client writes. -/
def clientVersion : Bytes :=
  ascii ['H', 'T', 'T', 'P', '/', '1', '.', '1']

/-- The request line without its end. -/
def requestLine (method target : Bytes) : Bytes :=
  untilNull method ++ ascii [' '] ++ untilNull target ++ ascii [' '] ++
    clientVersion

/-- `write_headers` with the headers of the request and those added. -/
def writeBoth (first second : Headers) : Bytes :=
  first.entries.flatMap (fun header => formatField header.1 header.2) ++
    second.entries.flatMap (fun header => formatField header.1 header.2) ++
    crlf

/-- `write_request`, for a path that is not empty: what is sent, unless the path
does not match. -/
def writeRequest (host : Bytes) (request : Request) : Option Bytes :=
  (target request.path).map fun target =>
    requestLine request.method target ++ crlf ++
      writeBoth request.headers (addedHeaders host request) ++ request.body

/-- A character that ends neither the path nor the line. -/
def Inert (unit : UInt8) : Prop :=
  unit ≠ 0x20 ∧ unit ≠ 0 ∧ isLineBreak unit = false

theorem hexDigit_inert : ∀ value < 16,
    escape.hexDigit value ≠ 0x20 ∧ escape.hexDigit value ≠ 0 ∧
      isLineBreak (escape.hexDigit value) = false := by
  decide

theorem escape_inert (unit : UInt8) : ∀ other ∈ escape unit, Inert other := by
  have high : unit.toNat / 16 < 16 := by
    have bound := unit.toNat_lt
    omega
  have low : unit.toNat % 16 < 16 := Nat.mod_lt _ (by decide)
  intro other member
  simp only [escape, List.mem_cons, List.not_mem_nil, or_false] at member
  rcases member with rfl | rfl | rfl
  · exact ⟨by decide, by decide, rfl⟩
  · exact hexDigit_inert _ high
  · exact hexDigit_inert _ low

/-- `encode_url` leaves no character that ends the path or the line. -/
theorem encodeUrl_inert (text : Bytes) :
    ∀ unit ∈ encodeUrl text, Inert unit := by
  intro unit member
  obtain ⟨original, shown, encoded⟩ := List.mem_flatMap.mp member
  have nonzero : original ≠ 0 := by
    have kept := @List.mem_takeWhile_imp _ _ text original shown
    exact of_decide_eq_true kept
  rw [encodeUnit] at encoded
  by_cases special : original ∈ escaped ∨ 0x80 ≤ original
  · rw [if_pos special] at encoded
    exact escape_inert original unit encoded
  · rw [if_neg special] at encoded
    rw [List.mem_singleton.mp encoded]
    refine ⟨?_, nonzero, ?_⟩
    · rintro rfl
      exact special (.inl (by decide))
    · rw [isLineBreak, Bool.or_eq_false_iff, beq_eq_false_iff_ne,
        beq_eq_false_iff_ne]
      constructor
      · rintro rfl
        exact special (.inl (by decide))
      · rintro rfl
        exact special (.inl (by decide))

theorem inert_append {first second : Bytes} :
    (∀ unit ∈ first ++ second, Inert unit) ↔
      (∀ unit ∈ first, Inert unit) ∧ ∀ unit ∈ second, Inert unit := by
  constructor
  · intro all
    exact ⟨fun unit member => all unit (List.mem_append_left _ member),
      fun unit member => all unit (List.mem_append_right _ member)⟩
  · rintro ⟨first, second⟩ unit member
    rcases List.mem_append.mp member with member | member
    · exact first unit member
    · exact second unit member

/-- The target holds a blank or a line break exactly if there is one in what the
client takes for a scheme and a host. -/
theorem target_inert_iff {path written : Bytes}
    (matched : target path = some written) :
    (∀ unit ∈ written, Inert unit) ↔
      ∀ unit ∈ addressPrefix path, Inert unit := by
  unfold target matchPath at matched
  split at matched
  next sendable =>
    rw [Option.map_some, Option.some.injEq] at matched
    rw [← matched, inert_append]
    exact and_iff_left (encodeUrl_inert _)
  next broken => cases matched

/-- A path without a slash at its start can end the request line. -/
theorem target_blank :
    ¬ ∀ unit ∈ ascii ['a', ' ', 'b'], Inert unit := by
  intro inert
  have matched : target (ascii ['a', ' ', 'b']) =
      some (ascii ['a', ' ', 'b']) := by
    decide
  have solid := (target_inert_iff matched).mp inert 0x20 (by decide)
  exact solid.1 rfl

/-- The methods that a server of the library knows. -/
def knownMethods : List Bytes :=
  [ascii ['G', 'E', 'T'], ascii ['H', 'E', 'A', 'D'],
    ascii ['P', 'O', 'S', 'T'], ascii ['P', 'U', 'T'],
    ascii ['D', 'E', 'L', 'E', 'T', 'E'],
    ascii ['C', 'O', 'N', 'N', 'E', 'C', 'T'],
    ascii ['O', 'P', 'T', 'I', 'O', 'N', 'S'],
    ascii ['T', 'R', 'A', 'C', 'E'], ascii ['P', 'A', 'T', 'C', 'H'],
    ascii ['P', 'R', 'I']]

/-- The groups of the pattern for a request line. -/
structure RequestLine where
  method : Bytes
  target : Bytes
  path : Bytes
  query : Bytes
  version : Bytes
  deriving DecidableEq

/-- The target of a request line, cut at its first question mark.  Behind that
there must be no line break. -/
def matchTarget (method target version : Bytes) : Option RequestLine :=
  let path := target.takeWhile (· ≠ 0x3F)
  let query := target.dropWhile (· ≠ 0x3F)
  if path ≠ [] ∧ query.all (fun unit => !isLineBreak unit) = true then
    some ⟨method, target, path, query.tail, version⟩
  else none

/-- The pattern of `Server::parse_request_line`: a method, a blank, a target, a
blank, a version, and the end of the line. -/
def matchRequestLine (line : Bytes) : Option RequestLine :=
  let method := line.takeWhile (· ≠ 0x20)
  let rest := (line.dropWhile (· ≠ 0x20)).tail
  let target := rest.take (rest.length - 11)
  let ending := rest.drop (rest.length - 11)
  let version := (ending.drop 1).take 8
  if method ∈ knownMethods ∧ ending = ascii [' '] ++ version ++ crlf ∧
      (version = ascii ['H', 'T', 'T', 'P', '/', '1', '.', '0'] ∨
        version = clientVersion) then
    matchTarget method target version
  else none

/-- What a server does without a request.  How it takes a body of several parts
to pieces is left out. -/
inductive RequestFailure
  | closed
  | answers (status : Nat)
  | body (failure : ReadFailure)
  | parts
  deriving DecidableEq

/-- `CPPHTTPLIB_REQUEST_URI_MAX_LENGTH`. -/
def requestUriMaxLength : Nat :=
  8192

/-- `expect_content`. -/
def expectContent (method : Bytes) : Bool :=
  method ∈ [ascii ['P', 'O', 'S', 'T'], ascii ['P', 'U', 'T'],
    ascii ['P', 'A', 'T', 'C', 'H'], ascii ['P', 'R', 'I']]

/-- `is_multipart_form_data`. -/
def isMultipart (headers : Headers) : Bool :=
  (ascii "multipart/form-data".toList).isPrefixOf
    (getHeaderValue headers contentTypeKey [])

/-- The body of a request, as `Server::routing` and `Server::read_content_core`
read it: one that the method does not ask for is left on the connection. -/
def parseBody (closes : Bool) (method : Bytes) (headers : Headers)
    (bytes : Bytes) : Except RequestFailure (Bytes × Bytes) :=
  if expectContent method then
    if isMultipart headers then .error .parts
    else (parseContent closes headers bytes).mapError .body
  else .ok ([], bytes)

/-- A request as `Server::process_request` and `Server::routing` read it: its
line, its headers and its body. -/
def parseRequest (closes : Bool) (bytes : Bytes) :
    Except RequestFailure ((RequestLine × Headers × Bytes) × Bytes) :=
  match takeLine closes bytes with
  | .error _ => .error .closed
  | .ok (text, rest) =>
      if requestUriMaxLength < text.length then .error (.answers 414)
      else
        match matchRequestLine (untilNull text),
            parseHeaders closes .empty rest with
        | some line, .ok (headers, rest) =>
            match parseBody closes line.method headers rest with
            | .error failure => .error failure
            | .ok (body, rest) => .ok ((line, headers, body), rest)
        | _, _ => .error (.answers 400)

/-- A request of a path with a blank, without headers and body. -/
def blankRequest : Request where
  method := ascii ['G', 'E', 'T']
  path := ascii ['/', 'a', ' ', '?', 'b']
  headers := .empty
  body := []

end RequestWriter

end IISModuleJS
