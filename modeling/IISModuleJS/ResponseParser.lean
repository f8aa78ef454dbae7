import IISModuleJS.ResponseReader

/-!
# What the bytes of a response say

The functions here parse the bytes of a response at once, without the pieces in
which the network delivers them.  Besides the bytes it only matters whether the
connection is closed behind them.
-/

namespace IISModuleJS

namespace ResponseReader

open AsyncWorkers (Bytes)
open FueledLoop

/-- The first line with its newline.  The last line may lack it if the
connection was closed behind it. -/
def takeLine (closes : Bool) (bytes : Bytes) :
    Except ReadFailure (Bytes × Bytes) :=
  if newline ∈ bytes then
    .ok (bytes.takeWhile (· ≠ newline) ++ [newline],
      (bytes.dropWhile (· ≠ newline)).tail)
  else if closes = true ∧ bytes ≠ [] then .ok (bytes, [])
  else .error .returnsFalse

/-- Some number of bytes. -/
def takeContent (len : Nat) (bytes : Bytes) :
    Except ReadFailure (Bytes × Bytes) :=
  if len ≤ bytes.length then .ok (bytes.take len, bytes.drop len)
  else .error .returnsFalse

/-- All bytes up to the end of the connection. -/
def takeRest (closes : Bool) (bytes : Bytes) :
    Except ReadFailure (Bytes × Bytes) :=
  if closes then .ok (bytes, []) else .error .returnsFalse

theorem takeLine_of_mem {closes : Bool} {front rest : Bytes}
    (whole : newline ∉ front) :
    takeLine closes (front ++ newline :: rest) =
      .ok (front ++ [newline], rest) := by
  have all : ∀ unit ∈ front, decide (unit ≠ newline) = true := by
    intro unit member
    rw [decide_eq_true_eq]
    rintro rfl
    exact whole member
  rw [takeLine, if_pos (by simp), List.takeWhile_append_of_pos all,
    List.dropWhile_append_of_pos all]
  simp

theorem takeLine_of_not_mem {closes : Bool} {bytes : Bytes}
    (whole : newline ∉ bytes) :
    takeLine closes bytes =
      if closes = true ∧ bytes ≠ [] then .ok (bytes, [])
      else .error .returnsFalse := by
  rw [takeLine, if_neg whole]

theorem length_lt_of_takeLine {closes : Bool} {bytes line rest : Bytes}
    (taken : takeLine closes bytes = .ok (line, rest)) :
    rest.length < bytes.length := by
  by_cases member : newline ∈ bytes
  · obtain ⟨front, rest', rfl, whole⟩ :=
      List.eq_append_cons_of_mem member
    rw [takeLine_of_mem whole] at taken
    cases taken
    rw [List.length_append, List.length_cons]
    omega
  · rw [takeLine_of_not_mem member] at taken
    split at taken
    next holds =>
      cases taken
      exact List.length_pos_of_ne_nil holds.2
    next fails => cases taken

theorem length_le_of_takeContent {len : Nat} {bytes content rest : Bytes}
    (taken : takeContent len bytes = .ok (content, rest)) :
    rest.length ≤ bytes.length := by
  unfold takeContent at taken
  split at taken
  next fits =>
    cases taken
    rw [List.length_drop]
    omega
  next short => cases taken

theorem takeContent_append (content rest : Bytes) :
    takeContent content.length (content ++ rest) = .ok (content, rest) := by
  rw [takeContent, if_pos (by simp), List.take_left, List.drop_left]

theorem takeContent_of_lt {len : Nat} {bytes : Bytes}
    (short : bytes.length < len) :
    takeContent len bytes = .error .returnsFalse :=
  if_neg (Nat.not_le_of_gt short)

/-- The header lines, up to the blank one. -/
def parseHeaders (closes : Bool) (headers : Headers) (bytes : Bytes) :
    Except ReadFailure (Headers × Bytes) :=
  match _ : takeLine closes bytes with
  | .error failure => .error failure
  | .ok (line, rest) =>
      match headerLine headers line with
      | none => .ok (headers, rest)
      | some more => parseHeaders closes more rest
termination_by bytes.length
decreasing_by exact length_lt_of_takeLine ‹_›

/-- The parser of the headers behind a line. -/
theorem parseHeaders_of_takeLine {closes : Bool} (headers : Headers)
    {bytes line rest : Bytes}
    (taken : takeLine closes bytes = .ok (line, rest)) :
    parseHeaders closes headers bytes =
      match headerLine headers line with
      | none => .ok (headers, rest)
      | some more => parseHeaders closes more rest := by
  rw [parseHeaders]
  split
  next failure fails =>
    rw [taken] at fails
    cases fails
  next line' rest' takes =>
    rw [taken] at takes
    cases takes
    rfl

theorem parseHeaders_of_error {closes : Bool} (headers : Headers)
    {bytes : Bytes} {failure : ReadFailure}
    (fails : takeLine closes bytes = .error failure) :
    parseHeaders closes headers bytes = .error failure := by
  rw [parseHeaders]
  split
  next failure' fails' =>
    rw [fails] at fails'
    cases fails'
    rfl
  next line rest takes =>
    rw [fails] at takes
    cases takes

theorem length_lt_of_parseHeaders {closes : Bool} {headers result : Headers}
    {bytes rest : Bytes}
    (parsed : parseHeaders closes headers bytes = .ok (result, rest)) :
    rest.length < bytes.length := by
  induction headers, bytes using parseHeaders.induct closes with
  | case1 headers bytes failure fails =>
      rw [parseHeaders_of_error headers fails] at parsed
      cases parsed
  | case2 headers bytes line after takes blank =>
      rw [parseHeaders_of_takeLine headers takes, blank] at parsed
      cases parsed
      exact length_lt_of_takeLine takes
  | case3 headers bytes line after takes more field ih =>
      rw [parseHeaders_of_takeLine headers takes, field] at parsed
      exact Nat.lt_trans (ih parsed) (length_lt_of_takeLine takes)

/-- The line of a status, if it is one. -/
def parseResponseLine (closes : Bool) (response : Response) (bytes : Bytes) :
    Except ReadFailure (Response × Bytes) := do
  let (line, rest) ← takeLine closes bytes
  match matchResponseLine (untilNull line) with
  | none => pure (response, rest)
  | some (version, digits) =>
      let status ← readStoi 10 digits
      pure ({ response with version := version, status := status }, rest)

theorem length_lt_of_parseResponseLine {closes : Bool}
    {response result : Response} {bytes rest : Bytes}
    (parsed : parseResponseLine closes response bytes = .ok (result, rest)) :
    rest.length < bytes.length := by
  unfold parseResponseLine at parsed
  cases first : takeLine closes bytes with
  | error failure =>
      rw [first] at parsed
      cases parsed
  | ok taken =>
      obtain ⟨line, after⟩ := taken
      have shorter := length_lt_of_takeLine first
      rw [first] at parsed
      simp only [bind, Except.bind] at parsed
      cases found : matchResponseLine (untilNull line) with
      | none =>
          rw [found] at parsed
          cases parsed
          exact shorter
      | some pair =>
          obtain ⟨version, digits⟩ := pair
          rw [found] at parsed
          dsimp only at parsed
          cases number : readStoi 10 digits with
          | error failure =>
              rw [number] at parsed
              cases parsed
          | ok status =>
              rw [number] at parsed
              cases parsed
              exact shorter

/-- A chunk, its line, and the length of the next one; there is no next one if
the line is not empty. -/
def parseChunk (closes : Bool) (len : Nat) (bytes : Bytes) :
    Except ReadFailure ((Bytes × Option Int) × Bytes) := do
  let (chunk, rest) ← takeContent len bytes
  let (line, rest) ← takeLine closes rest
  if untilNull line ≠ crlf then pure ((chunk, none), rest)
  else
    let (line, rest) ← takeLine closes rest
    let next ← readStoi 16 line
    pure ((chunk, some next), rest)

theorem length_lt_of_parseChunk {closes : Bool} {len : Nat}
    {bytes rest chunk : Bytes} {next : Option Int}
    (parsed : parseChunk closes len bytes = .ok ((chunk, next), rest)) :
    rest.length < bytes.length := by
  unfold parseChunk at parsed
  cases content : takeContent len bytes with
  | error failure =>
      rw [content] at parsed
      cases parsed
  | ok taken =>
      obtain ⟨data, afterData⟩ := taken
      have dataLength := length_le_of_takeContent content
      rw [content] at parsed
      cases first : takeLine closes afterData with
      | error failure =>
          simp only [bind, Except.bind, first] at parsed
          cases parsed
      | ok taken =>
          obtain ⟨line, afterLine⟩ := taken
          have lineLength := length_lt_of_takeLine first
          simp only [bind, Except.bind, first] at parsed
          split at parsed
          next broken =>
            cases parsed
            omega
          next whole =>
            cases second : takeLine closes afterLine with
            | error failure =>
                rw [second] at parsed
                cases parsed
            | ok taken =>
                obtain ⟨size, afterSize⟩ := taken
                have sizeLength := length_lt_of_takeLine second
                rw [second] at parsed
                dsimp only at parsed
                cases number : readStoi 16 size with
                | error failure =>
                    rw [number] at parsed
                    cases parsed
                | ok value =>
                    rw [number] at parsed
                    cases parsed
                    omega

/-- The chunks from one of some length on. -/
def parseChunks (closes : Bool) (chunkLen : Int) (bytes : Bytes) :
    Except ReadFailure (Bytes × Bytes) :=
  if 0 < chunkLen then
    match _ : parseChunk closes chunkLen.toNat bytes with
    | .error failure => .error failure
    | .ok ((chunk, none), rest) => .ok (chunk, rest)
    | .ok ((chunk, some next), rest) =>
        (parseChunks closes next rest).map fun content =>
          (chunk ++ content.1, content.2)
  else if chunkLen = 0 then do
    let (line, rest) ← takeLine closes bytes
    if untilNull line = crlf then pure ([], rest)
    else .error .returnsFalse
  else .ok ([], bytes)
termination_by bytes.length
decreasing_by exact length_lt_of_parseChunk ‹_›

/-- Some content and what a parser finds behind it. -/
def prepend (content : Bytes) (parsed : Except ReadFailure (Bytes × Bytes)) :
    Except ReadFailure (Bytes × Bytes) :=
  parsed.map fun result => (content ++ result.1, result.2)

theorem prepend_prepend (first second : Bytes)
    (parsed : Except ReadFailure (Bytes × Bytes)) :
    prepend first (prepend second parsed) =
      prepend (first ++ second) parsed := by
  cases parsed with
  | error failure => rfl
  | ok result =>
      simp only [prepend, Except.map, List.append_assoc]

theorem prepend_nil (parsed : Except ReadFailure (Bytes × Bytes)) :
    prepend [] parsed = parsed := by
  cases parsed with
  | error failure => rfl
  | ok result => rfl

/-- The parser of the chunks behind one of them. -/
theorem parseChunks_of_pos (closes : Bool) {chunkLen : Int}
    (positive : 0 < chunkLen) (bytes : Bytes) :
    parseChunks closes chunkLen bytes =
      match parseChunk closes chunkLen.toNat bytes with
      | .error failure => .error failure
      | .ok ((chunk, none), rest) => .ok (chunk, rest)
      | .ok ((chunk, some next), rest) =>
          prepend chunk (parseChunks closes next rest) := by
  rw [parseChunks, if_pos positive]
  split
  next failure fails => rw [fails]
  next chunk rest takes => rw [takes]
  next chunk next rest takes =>
    rw [takes]
    rfl

theorem parseChunks_zero (closes : Bool) (bytes : Bytes) :
    parseChunks closes 0 bytes = (do
      let (line, rest) ← takeLine closes bytes
      if untilNull line = crlf then pure ([], rest)
      else .error .returnsFalse) := by
  rw [parseChunks, if_neg (Int.lt_irrefl 0), if_pos rfl]

theorem parseChunks_of_neg (closes : Bool) {chunkLen : Int}
    (negative : chunkLen < 0) (bytes : Bytes) :
    parseChunks closes chunkLen bytes = .ok ([], bytes) := by
  rw [parseChunks, if_neg (by omega), if_neg (by omega)]

/-- A body in chunks. -/
def parseChunked (closes : Bool) (bytes : Bytes) :
    Except ReadFailure (Bytes × Bytes) := do
  let (line, rest) ← takeLine closes bytes
  let chunkLen ← readStoi 16 line
  parseChunks closes chunkLen rest

/-- The body, as the headers say where it ends. -/
def parseContent (closes : Bool) (headers : Headers) (bytes : Bytes) :
    Except ReadFailure (Bytes × Bytes) :=
  if getHeaderValue headers contentEncoding [] = ascii ['g', 'z', 'i', 'p'] then
    .error .returnsFalse
  else if isChunkedTransferEncoding headers then parseChunked closes bytes
  else if !hasHeader headers contentLength then takeRest closes bytes
  else takeContent (getHeaderValueUint64 headers contentLength 0) bytes

/-- A response to a request of some method. -/
def parseResponse (closes : Bool) (method : Bytes) (bytes : Bytes) :
    Except ReadFailure (Response × Bytes) := do
  let (response, rest) ← parseResponseLine closes .new bytes
  let (headers, rest) ← parseHeaders closes response.headers rest
  let response := { response with headers := headers }
  if method ≠ headMethod ∧ method ≠ connectMethod then
    let (body, rest) ← parseContent closes headers rest
    pure ({ response with body := body }, rest)
  else pure (response, rest)

end ResponseReader

end IISModuleJS
