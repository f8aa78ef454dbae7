import IISModuleJS.RequestWriter
import IISModuleJS.ResponseBody
import IISModuleJS.ResponseTruncation
import IISModuleJS.StatusAndHeaders

/-!
# `http.fetch` from the script to the server and back

`http.fetch` reads its arguments, a worker sends the request and reads the
response, and four functions of the response object show it to the script.  This
file puts the parts together: between a script and a server of the library the
network disappears, and a fetch applies the function that the server computes to
the request of the script.

A worker does not catch the exceptions of `std::stoi`, so that a number in a
response can end the process.
-/

namespace IISModuleJS

namespace FetchCalls

open AsyncWorkers (Bytes clientMethods)
open JsValue TextEncoding ResponseReader RequestWriter
open StatusAndHeaders (fromV8String fromV8BoolOr)

/-- What the module reads from an object: its properties, with `none` where a
getter throws, and the names that `GetPropertyNames` lists. -/
structure ScriptObject where
  get : JsValue → Option JsValue
  names : List JsValue

abbrev Objects := JsValue → ScriptObject

/-- `IsObject`. -/
def isObject : JsValue → Bool
  | .uint8Array _ => true
  | .function _ => true
  | .promise _ => true
  | .object _ => true
  | _ => false

/-- `FetchRequest`. -/
structure FetchRequest where
  hostname : Bytes
  path : Bytes
  isSsl : Bool
  method : Bytes
  body : Bytes
  headers : Headers

def FetchRequest.new (hostname path : Bytes) : FetchRequest where
  hostname := hostname
  path := path
  isSsl := false
  method := ascii ['G', 'E', 'T']
  body := []
  headers := .empty

def optionKey (characters : List Char) : JsValue :=
  .string (latin1 (ascii characters))

/-- `object->Get`. -/
def getValue (object : ScriptObject) (key : JsValue) :
    Except CallEnding JsValue :=
  match object.get key with
  | some value => .ok value
  | none => .error (.throws "unable to get value.")

/-- A string option. -/
def stringOr (default : Bytes) : JsValue → Bytes
  | .string units => encodeUtf8 units
  | _ => default

/-- A header option.  The process ends in `ToLocalChecked` if its getter
throws. -/
def readHeader (object : ScriptObject) (headers : Headers) (key : JsValue) :
    Except CallEnding Headers :=
  match object.get key with
  | none => .error .aborts
  | some value => do
      let key ← (fromV8String key).mapError .throws
      let value ← (fromV8String value).mapError .throws
      pure (headers.emplace key value)

/-- All header options. -/
def readHeaderOptions (objects : Objects) (value : JsValue) :
    Except CallEnding Headers :=
  if isObject value then
    (objects value).names.foldlM (readHeader (objects value)) .empty
  else pure .empty

/-- The options of a fetch. -/
def readOptions (objects : Objects) (request : FetchRequest)
    (object : ScriptObject) : Except CallEnding FetchRequest := do
  let body ← getValue object (optionKey ['b', 'o', 'd', 'y'])
  let method ← getValue object (optionKey ['m', 'e', 't', 'h', 'o', 'd'])
  let isSsl ← getValue object (optionKey ['i', 's', '_', 's', 's', 'l'])
  let headers ←
    getValue object (optionKey ['h', 'e', 'a', 'd', 'e', 'r', 's'])
  let headers ← readHeaderOptions objects headers
  pure
    { request with
      body := stringOr request.body body
      method := stringOr request.method method
      isSsl := fromV8BoolOr request.isSsl isSsl
      headers := headers }

/-- `http.fetch`, up to the gate. -/
def fetchRequest (objects : Objects) (args : List JsValue) :
    Except CallEnding FetchRequest :=
  if args.length < 2 then
    .error (.throws "invalid function signature for http.fetch")
  else
    match argument args 0, argument args 1 with
    | .string hostname, .string path =>
        let request := .new (encodeUtf8 hostname) (encodeUtf8 path)
        if isObject (argument args 2) then
          readOptions objects request (objects (argument args 2))
        else .ok request
    | _, _ => .error (.throws "invalid argument types for http.fetch")

def fetchMethods : List (Bytes × Bool) :=
  clientMethods.map fun entry => (ascii entry.1.toList, entry.2)

/-- The request that the client makes for a method that the worker knows. -/
def clientRequest (request : FetchRequest) : Option Request :=
  (fetchMethods.lookup request.method).map fun sendsBody =>
    { method := request.method
      path := untilNull request.path
      headers := request.headers
      body := if sendsBody then request.body else [] }

/-- The network, as far as a fetch sees it: whether there is a connection, and
what comes back for the bytes of a request. -/
structure Network where
  connects : Bool
  answer : Bytes → Source

/-- `Client::send`. -/
def send (fuel : Nat) (network : Network) (hostname : Bytes)
    (request : Request) : Except ReadFailure Response :=
  if request.path = [] then .error .returnsFalse
  else if !network.connects then .error .returnsFalse
  else
    match writeRequest hostname request with
    | none => .error .returnsFalse
    | some bytes =>
        (receiveResponse fuel request.method (network.answer bytes)).map
          Prod.fst

/-- How the worker of a fetch ends. -/
inductive WorkerEnding
  | resolves (response : Response)
  | rejects (message : String)
  | terminates (exception : StoiException)
  | unfinished

/-- The worker behind `Client::send`.  No handler of the thread catches an
exception. -/
def workerEnding : Except ReadFailure Response → WorkerEnding
  | .ok response => .resolves response
  | .error .returnsFalse => .rejects "unable to fetch"
  | .error (.throws exception) => .terminates exception
  | .error .unfinished => .unfinished

/-- The worker of `http.fetch`. -/
def fetchWorker (fuel : Nat) (network : Network) (request : FetchRequest) :
    WorkerEnding :=
  match clientRequest request with
  | none => .rejects "unable to fetch"
  | some client => workerEnding (send fuel network request.hostname client)

/-- `status` of a response object. -/
def status : Option Response → CallEnding
  | none => .throws "invalid fetch response for status"
  | some response => .returns (.number (.finite response.status))

/-- The string that `text` makes, which is null for an empty body. -/
def textOf (body : Bytes) : CallEnding :=
  if body = [] then .returns .null
  else if body.length ≤ FileContents.stringMaxLength then
    .returns (.string (latin1 body))
  else .aborts

/-- `text` of a response object. -/
def text : Option Response → CallEnding
  | none => .throws "invalid fetch response for text"
  | some response => textOf response.body

/-- `blob` of a response object. -/
def blob : Option Response → CallEnding
  | none => .throws "invalid fetch response for blob"
  | some response =>
      if response.body = [] then .returns .null
      else ResponseBody.arrayOf response.body

/-- The properties of an object whose values are strings. -/
abbrev Properties := WString → Option WString

/-- `__proto__`. -/
def protoKey : WString :=
  latin1 (ascii ['_', '_', 'p', 'r', 'o', 't', 'o', '_', '_'])

/-- `Set`.  A string cannot become the prototype of an object. -/
def setProperty (properties : Properties) (header : Bytes × Bytes) :
    Properties :=
  if decodeUtf8 header.1 = protoKey then properties
  else
    Function.update properties (decodeUtf8 header.1)
      (some (decodeUtf8 header.2))

/-- The object that `headers` makes. -/
def headersObject (headers : Headers) : Properties :=
  headers.entries.foldl setProperty fun _ => none

/-- What `headers` of a response object gives. -/
inductive HeadersResult
  | throws (message : String)
  | null
  | object (properties : Properties)

/-- `headers` of a response object. -/
def headers : Option Response → HeadersResult
  | none => .throws "invalid fetch response for headers"
  | some response =>
      if response.headers.entries = [] then .null
      else .object (headersObject response.headers)

theorem send_eq {network : Network} {hostname bytes content : Bytes}
    {request : Request} {cuts : Nat → Nat} {reads : Nat} {closes : Bool}
    (path : request.path ≠ []) (connects : network.connects = true)
    (sent : writeRequest hostname request = some bytes)
    (answer : network.answer bytes = ⟨content, cuts, reads, closes⟩)
    {fuel : Nat} (enough : content.length < fuel) :
    send fuel network hostname request =
      (parseResponse closes request.method content).map Prod.fst := by
  have follows := @receiveResponse_follows ⟨content, cuts, reads, closes⟩
    fuel enough request.method
  rw [send, if_neg path, connects, Bool.not_true, if_neg Bool.false_ne_true,
    sent]
  dsimp only
  rw [answer]
  exact map_fst_eq_of_follows follows

/-- No method of a worker is `CONNECT`. -/
theorem ne_connectMethod {method : Bytes} {sendsBody : Bool}
    (known : fetchMethods.lookup method = some sendsBody) :
    method ≠ connectMethod := by
  rintro rfl
  have unknown : fetchMethods.lookup connectMethod = none := by decide
  rw [unknown] at known
  cases known

theorem clientRequest_eq {request : FetchRequest} {client : Request}
    (known : clientRequest request = some client) :
    client.method ≠ connectMethod ∧ client.path = untilNull request.path ∧
      client.headers = request.headers := by
  obtain ⟨sendsBody, found, rfl⟩ := Option.map_eq_some_iff.mp known
  exact ⟨ne_connectMethod found, rfl, rfl⟩

/-- A reply that a server can write. -/
structure Reply where
  status : Nat
  reason : Bytes
  headers : Headers
  body : Bytes
  content : Bytes
  closing : Bool
  head : PlainHead status reason headers
  plain : getHeaderValue headers contentEncoding [] ≠
    ascii ['g', 'z', 'i', 'p']
  framed : Framed headers body content closing

/-- What a server writes for a request of some method. -/
def Reply.write (reply : Reply) (method : Bytes) : Bytes :=
  writeHead reply.status reply.reason reply.headers ++
    if method = headMethod then [] else reply.content

/-- What the client makes of a reply. -/
def Reply.response (reply : Reply) (method : Bytes) : Response where
  version := serverVersion
  status := reply.status
  headers := reply.headers
  body := if method = headMethod then [] else reply.body

/-- A server of the library: the reply to a request, how the network cuts what
it writes, and whether it closes the connection.  A connection that is closed
with unread bytes on it is reset, and only some of the reply arrives. -/
structure Server where
  serve : RequestLine × Headers × Bytes → Reply
  cuts : Nat → Nat
  closes : Bool
  ends : ∀ request, (serve request).closing = true → closes = true
  resetAfter : Nat

/-- A server reads a request and writes its reply; it writes nothing if there is
no request. -/
def Server.network (server : Server) : Network where
  connects := true
  answer bytes :=
    match parseRequest false bytes with
    | .ok (request, unread) =>
        let written := (server.serve request).write request.1.method
        if unread = [] then ⟨written, server.cuts, 0, server.closes⟩
        else ⟨written.take server.resetAfter, server.cuts, 0, false⟩
    | .error _ => ⟨[], server.cuts, 0, server.closes⟩

/-- `http.fetch`: what is thrown to the script, or how its worker ends. -/
def fetch (fuel : Nat) (network : Network) (objects : Objects)
    (args : List JsValue) : Except CallEnding WorkerEnding :=
  (fetchRequest objects args).map (fetchWorker fuel network)

/-- A fetch of a response in chunks ends the process exactly if the status or
the length of a chunk has more than 31 bits, and is fulfilled otherwise. -/
theorem fetchWorker_chunked {network : Network} {request : FetchRequest}
    {client : Request} (known : clientRequest request = some client)
    (hasBody : client.method ≠ headMethod) (path : client.path ≠ [])
    (connects : network.connects = true) {bytes : Bytes}
    (sent : writeRequest request.hostname client = some bytes)
    {status : Nat} {reason : Bytes} {headers : Headers}
    (printable : Printable reason)
    (plain : ∀ header ∈ headers.entries, PlainField header)
    (identity : getHeaderValue headers contentEncoding [] ≠
      ascii ['g', 'z', 'i', 'p'])
    (pieces : isChunkedTransferEncoding headers = true)
    (chunks : List Bytes) (rest : Bytes) {cuts : Nat → Nat} {reads : Nat}
    {closes : Bool}
    (answer : network.answer bytes =
      ⟨writeHead status reason headers ++
        (writeContentChunked chunks ++ rest), cuts, reads, closes⟩)
    {fuel : Nat}
    (enough : (writeHead status reason headers ++
      (writeContentChunked chunks ++ rest)).length < fuel) :
    fetchWorker fuel network request =
      if status ≤ 2147483647 ∧
          ∀ chunk ∈ sentChunks chunks, chunk.length ≤ 2147483647 then
        .resolves ⟨serverVersion, status, headers, (sentChunks chunks).flatten⟩
      else .terminates .outOfRange := by
  obtain ⟨noConnect, -, -⟩ := clientRequest_eq known
  have received := send_eq path connects sent answer enough
  rw [fetchWorker, known]
  dsimp only
  rw [received]
  by_cases small : status ≤ 2147483647
  · rw [parseResponse_writeHead closes ⟨hasBody, noConnect⟩
      ⟨small, printable, plain⟩, parseContent, if_neg identity, pieces,
      if_pos rfl, parseChunked_writeContentChunked]
    by_cases fits : ∀ chunk ∈ sentChunks chunks, chunk.length ≤ 2147483647
    · rw [if_pos fits, if_pos ⟨small, fits⟩]
      rfl
    · rw [if_neg fits, if_neg (fun both => fits both.2)]
      rfl
  · rw [parseResponse, writeHead, List.append_assoc,
      parseResponseLine_write closes .new status printable,
      if_pos (Nat.lt_of_not_le small), if_neg (fun both => small both.1)]
    rfl

/-- A status number of 33 bits. -/
theorem fetchWorker_overflow :
    ∃ fuel, fetchWorker fuel
        ⟨true, fun _ =>
          ⟨writeHead 4294967296 (ascii ['O', 'K']) chunkedHeaders ++
            (writeContentChunked [] ++ []), fun _ => 0, 0, true⟩⟩
        (.new (ascii ['h']) (ascii ['/', 'a', ' ', '?', 'b'])) =
      .terminates .outOfRange := by
  obtain ⟨bytes, sent⟩ : ∃ bytes,
      writeRequest (ascii ['h']) blankRequest = some bytes := ⟨_, rfl⟩
  have ending := fun fuel =>
    @fetchWorker_chunked
      ⟨true, fun _ =>
        ⟨writeHead 4294967296 (ascii ['O', 'K']) chunkedHeaders ++
          (writeContentChunked [] ++ []), fun _ => 0, 0, true⟩⟩
      (.new (ascii ['h']) (ascii ['/', 'a', ' ', '?', 'b'])) blankRequest rfl
      (by decide) (by decide) rfl bytes sent 4294967296 (ascii ['O', 'K'])
      chunkedHeaders (printable_of_all (by decide))
      chunkedHeaders_plain.headers (by decide) (by decide) [] [] _ _ _ rfl fuel
  refine ⟨_, (ending _ (Nat.lt_succ_self _)).trans (if_neg ?_)⟩
  intro both
  exact absurd both.1 (by decide)

/-- The last header of a name is the one that stays. -/
theorem foldl_setProperty (entries : List (Bytes × Bytes))
    (properties : Properties) {name : WString} (ordinary : name ≠ protoKey) :
    entries.foldl setProperty properties name =
      (((entries.filter fun header => decodeUtf8 header.1 = name).getLast?).map
        fun header => decodeUtf8 header.2).or (properties name) := by
  induction entries generalizing properties with
  | nil => rfl
  | cons header entries ih =>
      rw [List.foldl_cons, ih]
      by_cases same : decodeUtf8 header.1 = name
      · have changed : setProperty properties header name =
            some (decodeUtf8 header.2) := by
          rw [setProperty, if_neg (same ▸ ordinary), same,
            Function.update_self]
        rw [changed, List.filter_cons_of_pos (by simpa using same),
          List.getLast?_cons]
        cases (entries.filter fun header =>
          decodeUtf8 header.1 = name).getLast? with
        | none => rfl
        | some last => rfl
      · have kept : setProperty properties header name = properties name := by
          rw [setProperty]
          split
          next proto => rfl
          next other => exact Function.update_of_ne (Ne.symm same) _ _
        rw [kept, List.filter_cons_of_neg (by simpa using same)]

/-- Whatever the order in which the client keeps the headers, a script finds
under a name the value that the server added last for exactly that name; the
other ones are lost. -/
theorem headersObject_ofEntries {sent : List (Bytes × Bytes)}
    (names : ∀ header ∈ sent, IsAscii (latin1 header.1)) {name : WString}
    (ordinary : name ≠ protoKey) :
    headersObject (.ofEntries sent) name =
      ((sent.filter fun header => latin1 header.1 = name).getLast?).map
        fun header => decodeUtf8 header.2 := by
  have decodes : sent.filter (fun header => decodeUtf8 header.1 = name) =
      sent.filter fun header => latin1 header.1 = name := by
    apply List.filter_congr
    intro header member
    rw [decodeUtf8_eq_latin1 (names header member)]
  have sameRank : ∀ header ∈ sent, ∀ other ∈ sent,
      decide (decodeUtf8 header.1 = name) = true →
      decide (decodeUtf8 other.1 = name) = true →
      headerRank header.1 = headerRank other.1 := by
    intro header member other otherMember first second
    have same := (of_decide_eq_true first).trans (of_decide_eq_true second).symm
    rw [decodeUtf8_eq_latin1 (names header member),
      decodeUtf8_eq_latin1 (names other otherMember)] at same
    rw [latin1_injective same]
  rw [headersObject, foldl_setProperty _ _ ordinary,
    SortedMultimap.filter_ofEntries sameRank, decodes]
  exact Option.or_none

/-- The first of two cookies is lost. -/
theorem headersObject_cookies :
    headersObject (.ofEntries
        [(ascii ['C'], ascii ['1']), (ascii ['c'], ascii ['2']),
          (ascii ['C'], ascii ['3'])]) (latin1 (ascii ['C'])) =
      some (latin1 (ascii ['3'])) := by
  have names : ∀ header ∈
      [(ascii ['C'], ascii ['1']), (ascii ['c'], ascii ['2']),
        (ascii ['C'], ascii ['3'])], IsAscii (latin1 header.1) := by
    intro header member
    simp only [List.mem_cons, List.not_mem_nil, or_false] at member
    rcases member with rfl | rfl | rfl
    · decide
    · decide
    · decide
  exact headersObject_ofEntries names (by decide)

end FetchCalls

end IISModuleJS
