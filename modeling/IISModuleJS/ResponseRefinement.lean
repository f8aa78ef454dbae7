import IISModuleJS.ResponseParser

/-!
# The reading functions refine the parser

Whatever the pieces in which the network delivers the bytes of a response, the
client comes to an end, and with the result of the parser.
-/

namespace IISModuleJS

namespace ResponseReader

open AsyncWorkers (Bytes)
open FueledLoop

variable {Value Other : Type}

/-- A reading function ends as a parser of the bytes does, and leaves those that
the parser leaves. -/
def Follows (closes : Bool) (final : Except ReadFailure (Value × Source))
    (parsed : Except ReadFailure (Value × Bytes)) : Prop :=
  match final with
  | .error failure => parsed = .error failure
  | .ok (value, after) =>
      after.closes = closes ∧ parsed = .ok (value, after.remaining)

/-- One reading function after the other. -/
theorem Follows.bind {closes : Bool}
    {final : Except ReadFailure (Value × Source)}
    {parsed : Except ReadFailure (Value × Bytes)}
    (first : Follows closes final parsed)
    {next : Value × Source → Except ReadFailure (Other × Source)}
    {parseNext : Value × Bytes → Except ReadFailure (Other × Bytes)}
    (then_ : ∀ value after, after.closes = closes →
      parsed = .ok (value, after.remaining) →
        Follows closes (next (value, after))
          (parseNext (value, after.remaining))) :
    Follows closes (final >>= next) (parsed >>= parseNext) := by
  cases final with
  | error failure =>
      have parsedEq : parsed = .error failure := first
      rw [parsedEq]
      rfl
  | ok pair =>
      obtain ⟨value, after⟩ := pair
      obtain ⟨closesEq, parsedEq⟩ : after.closes = closes ∧
        parsed = .ok (value, after.remaining) := first
      have follows := then_ value after closesEq parsedEq
      rw [parsedEq]
      exact follows

/-- A step without the source. -/
theorem Follows.bind_pure {closes : Bool} (step : Except ReadFailure Value)
    {next : Value → Except ReadFailure (Other × Source)}
    {parseNext : Value → Except ReadFailure (Other × Bytes)}
    (then_ : ∀ value, Follows closes (next value) (parseNext value)) :
    Follows closes (step >>= next) (step >>= parseNext) := by
  cases step with
  | error failure => rfl
  | ok value => exact then_ value

/-- A loop that ends. -/
theorem follows_bounded {closes : Bool} {State : Type}
    {run : Option (Except ReadFailure State)} {result : State → Value × Source}
    {parsed : Except ReadFailure (Value × Bytes)}
    (ends : ∃ final, run = some final ∧
      Follows closes (final.map result) parsed) :
    Follows closes ((bounded run).map result) parsed := by
  obtain ⟨final, rfl, follows⟩ := ends
  exact follows

/-- The second buffer is only in use when the first one is full. -/
def LineReader.Sound (reader : LineReader) : Prop :=
  reader.glowableBuffer = [] ∨
    reader.fixedBufferSize - 1 ≤ reader.fixedBuffer.length

theorem LineReader.sound_append {reader : LineReader} (sound : reader.Sound)
    (unit : UInt8) : (reader.append unit).Sound := by
  unfold append
  by_cases room : reader.fixedBuffer.length < reader.fixedBufferSize - 1
  · rw [if_pos room]
    rcases sound with empty | full
    · exact .inl empty
    · omega
  · rw [if_neg room]
    exact .inr (Nat.le_of_not_lt room)

/-- Whichever buffer is in use, the line grows by a character. -/
theorem LineReader.text_append {reader : LineReader} (sound : reader.Sound)
    (unit : UInt8) : (reader.append unit).text = reader.text ++ [unit] := by
  unfold append text
  by_cases room : reader.fixedBuffer.length < reader.fixedBufferSize - 1
  · have empty : reader.glowableBuffer = [] := by
      rcases sound with empty | full
      · exact empty
      · omega
    rw [if_pos room]
    simp [empty]
  · rw [if_neg room]
    simp

/-- A line under way: its text has no newline yet. -/
structure InLine (closes : Bool) (parsed : Except ReadFailure (Bytes × Bytes))
    (state : LineState) : Prop where
  sound : state.reader.Sound
  count : state.count = state.reader.text.length
  whole : newline ∉ state.reader.text
  kept : state.source.closes = closes
  parses : takeLine closes (state.reader.text ++ state.source.remaining) =
    parsed

theorem lineRound_inLine {closes : Bool}
    {parsed : Except ReadFailure (Bytes × Bytes)} (state : LineState)
    (inLine : InLine closes parsed state) :
    Round lineRound (fun state => !state.ended) (InLine closes parsed)
      (fun state => state.source.remaining.length)
      (fun final => Follows closes
        (final.map fun state => (state.reader.text, state.source)) parsed)
      state := by
  obtain ⟨sound, count, whole, kept, parses⟩ := inLine
  have reads := state.source.reads_read Nat.one_pos
  have round : lineRound state = lineStep state (state.source.read 1) := rfl
  generalize state.source.read 1 = outcome at reads round
  cases reads with
  | failed after none fails =>
      rw [none, List.append_nil, takeLine_of_not_mem whole, ← kept,
        fails] at parses
      exact .fails _ round parses.symm
  | closed after none noneAfter closed keptAfter =>
      rw [none, List.append_nil, takeLine_of_not_mem whole, ← kept,
        closed] at parses
      by_cases start : state.count = 0
      · have empty : state.reader.text = [] :=
          List.length_eq_zero_iff.mp (count.symm.trans start)
        rw [lineStep, if_pos start] at round
        rw [if_neg (fun holds => holds.2 empty)] at parses
        exact .fails _ round parses.symm
      · have nonempty : state.reader.text ≠ [] := by
          intro empty
          rw [count, empty] at start
          exact start rfl
        rw [lineStep, if_neg start] at round
        rw [if_pos ⟨rfl, nonempty⟩] at parses
        refine .leaves _ round rfl ⟨keptAfter.trans kept, ?_⟩
        rw [← parses, noneAfter]
  | items piece after nonempty short parts keptAfter =>
      obtain ⟨unit, rfl⟩ : ∃ unit, piece = [unit] := by
        apply List.length_eq_one_iff.mp
        have positive := List.length_pos_of_ne_nil nonempty
        omega
      have text := state.reader.text_append sound unit
      have source := congrArg List.length parts
      rw [parts, ← List.append_assoc, ← text] at parses
      by_cases last : unit = newline
      · subst last
        rw [text, List.append_assoc, List.singleton_append,
          takeLine_of_mem whole] at parses
        refine .leaves _ round rfl ⟨keptAfter.trans kept, ?_⟩
        rw [← parses, ← text]
        rfl
      · have going : (!([unit] == [newline])) = true := by
          simpa using last
        refine .continues _ round going ?_ ?_
        · apply InLine.mk (state.reader.sound_append sound unit) _ _
            (keptAfter.trans kept) parses
          · rw [List.foldl_cons, List.foldl_nil, text, List.length_append,
              count]
            rfl
          · rw [List.foldl_cons, List.foldl_nil, text]
            simp [whole, Ne.symm last]
        · rw [source]
          simp

/-- `getline` takes a line. -/
theorem getline_follows {source : Source} {fuel : Nat}
    (enough : source.remaining.length < fuel) (fixedBufferSize : Nat) :
    Follows source.closes (getline fuel fixedBufferSize source)
      (takeLine source.closes source.remaining) := by
  apply follows_bounded
  exact doWhile_total lineRound_inLine
    ⟨.inl rfl, rfl, List.not_mem_nil, rfl, rfl⟩ enough

/-- A content of some length under way. -/
structure InContent (closes : Bool) (len : Nat)
    (parsed : Except ReadFailure (Bytes × Bytes)) (state : ContentState) :
    Prop where
  short : state.content.length < len
  kept : state.source.closes = closes
  parses : takeContent len (state.content ++ state.source.remaining) = parsed

theorem contentRound_inContent {closes : Bool} {len : Nat}
    {parsed : Except ReadFailure (Bytes × Bytes)} (state : ContentState)
    (inContent : InContent closes len parsed state) :
    Round (contentRound len)
      (fun state => decide (state.content.length < len))
      (InContent closes len parsed)
      (fun state => state.source.remaining.length)
      (fun final => Follows closes
        (final.map fun state => (state.content, state.source)) parsed)
      state := by
  obtain ⟨short, kept, parses⟩ := inContent
  obtain ⟨size, sizeEq⟩ :
      ∃ size, min (len - state.content.length) recvBufsiz = size := ⟨_, rfl⟩
  have positive : 0 < size := by
    unfold recvBufsiz at sizeEq
    omega
  have reads := state.source.reads_read positive
  have round : contentRound len state =
      contentStep state (state.source.read size) := by
    rw [contentRound, sizeEq]
  generalize state.source.read size = outcome at reads round
  cases reads with
  | failed after none fails =>
      rw [none, List.append_nil, takeContent_of_lt short] at parses
      exact .fails _ round parses.symm
  | closed after none noneAfter closed keptAfter =>
      rw [none, List.append_nil, takeContent_of_lt short] at parses
      exact .fails _ round parses.symm
  | items piece after nonempty bound parts keptAfter =>
      have source := congrArg List.length parts
      have pieceLength := List.length_pos_of_ne_nil nonempty
      have content : (state.content ++ piece).length =
          state.content.length + piece.length := List.length_append
      rw [parts, ← List.append_assoc] at parses
      rw [List.length_append] at source
      by_cases more : (state.content ++ piece).length < len
      · refine .continues _ round (decide_eq_true more)
          ⟨more, keptAfter.trans kept, parses⟩ ?_
        dsimp only
        omega
      · have whole : len = (state.content ++ piece).length := by omega
        rw [whole, takeContent_append] at parses
        exact .leaves _ round (decide_eq_false more)
          ⟨keptAfter.trans kept, parses.symm⟩

/-- `read_content_with_length` takes a content of the length. -/
theorem readContentWithLength_follows {source : Source} {fuel : Nat}
    (enough : source.remaining.length < fuel) (len : Nat) :
    Follows source.closes (readContentWithLength fuel len source)
      (takeContent len source.remaining) := by
  apply follows_bounded
  apply whileDo_total contentRound_inContent _ _ enough
  · intro goes
    exact ⟨of_decide_eq_true goes, rfl, rfl⟩
  · intro stops
    have zero : len = 0 := by
      have bound := of_decide_eq_false stops
      simpa using bound
    subst zero
    exact ⟨rfl, takeContent_append [] source.remaining⟩

/-- The content up to the end of the connection, under way. -/
structure InRest (closes : Bool)
    (parsed : Except ReadFailure (Bytes × Bytes)) (state : ContentState) :
    Prop where
  going : state.ended = false
  kept : state.source.closes = closes
  parses : takeRest closes (state.content ++ state.source.remaining) = parsed

theorem restRound_inRest {closes : Bool}
    {parsed : Except ReadFailure (Bytes × Bytes)} (state : ContentState)
    (inRest : InRest closes parsed state) :
    Round restRound (fun state => !state.ended) (InRest closes parsed)
      (fun state => state.source.remaining.length)
      (fun final => Follows closes
        (final.map fun state => (state.content, state.source)) parsed)
      state := by
  obtain ⟨going, kept, parses⟩ := inRest
  have reads := state.source.reads_read
    (show 0 < recvBufsiz by unfold recvBufsiz; omega)
  have round : restRound state =
      restStep state (state.source.read recvBufsiz) := rfl
  generalize state.source.read recvBufsiz = outcome at reads round
  cases reads with
  | failed after none fails =>
      rw [takeRest, ← kept, fails, if_neg Bool.false_ne_true] at parses
      exact .fails _ round parses.symm
  | closed after none noneAfter closed keptAfter =>
      rw [none, List.append_nil, takeRest, ← kept, closed,
        if_pos rfl] at parses
      refine .leaves _ round rfl ⟨keptAfter.trans kept, ?_⟩
      rw [← parses, noneAfter]
  | items piece after nonempty bound parts keptAfter =>
      have source := congrArg List.length parts
      have pieceLength := List.length_pos_of_ne_nil nonempty
      rw [parts, ← List.append_assoc] at parses
      rw [List.length_append] at source
      refine .continues _ round ?_ ⟨going, keptAfter.trans kept, parses⟩ ?_
      · rw [going]
        rfl
      · dsimp only
        omega

/-- `read_content_without_length` takes what is there until the connection is
closed. -/
theorem readContentWithoutLength_follows {source : Source} {fuel : Nat}
    (enough : source.remaining.length < fuel) :
    Follows source.closes (readContentWithoutLength fuel source)
      (takeRest source.closes source.remaining) := by
  apply follows_bounded
  exact doWhile_total restRound_inRest ⟨rfl, rfl, rfl⟩ enough

/-- The headers under way. -/
structure InHeaders (closes : Bool) (fuel : Nat)
    (parsed : Except ReadFailure (Headers × Bytes)) (state : HeadersState) :
    Prop where
  going : state.ended = false
  kept : state.source.closes = closes
  enough : state.source.remaining.length < fuel
  parses : parseHeaders closes state.headers state.source.remaining = parsed

theorem headersRound_inHeaders {closes : Bool} {fuel : Nat}
    {parsed : Except ReadFailure (Headers × Bytes)} (state : HeadersState)
    (inHeaders : InHeaders closes fuel parsed state) :
    Round (headersRound fuel) (fun state => !state.ended)
      (InHeaders closes fuel parsed)
      (fun state => state.source.remaining.length)
      (fun final => Follows closes
        (final.map fun state => (state.headers, state.source)) parsed)
      state := by
  obtain ⟨going, kept, enough, parses⟩ := inHeaders
  have follows := getline_follows enough 2048
  rw [kept] at follows
  cases line : getline fuel 2048 state.source with
  | error failure =>
      rw [line] at follows
      rw [parseHeaders_of_error state.headers follows] at parses
      refine .fails failure ?_ parses.symm
      rw [headersRound, line]
      rfl
  | ok pair =>
      obtain ⟨text, after⟩ := pair
      rw [line] at follows
      obtain ⟨keptAfter, takes⟩ := follows
      have shorter := length_lt_of_takeLine takes
      rw [parseHeaders_of_takeLine state.headers takes] at parses
      have round : headersRound fuel state =
          .ok (headersStep state text after) := by
        rw [headersRound, line]
        rfl
      rw [headersStep] at round
      cases headers : headerLine state.headers text with
      | none =>
          rw [headers] at round parses
          exact .leaves _ round rfl ⟨keptAfter, parses.symm⟩
      | some more =>
          rw [headers] at round parses
          refine .continues _ round ?_
            ⟨going, keptAfter, Nat.lt_trans shorter enough, parses⟩ shorter
          rw [going]
          rfl

/-- `read_headers` parses the headers. -/
theorem readHeaders_follows {source : Source} {fuel : Nat}
    (enough : source.remaining.length < fuel) (headers : Headers) :
    Follows source.closes (readHeaders fuel source headers)
      (parseHeaders source.closes headers source.remaining) := by
  apply follows_bounded
  exact doWhile_total headersRound_inHeaders ⟨rfl, rfl, enough, rfl⟩ enough

theorem readChunk_follows {source : Source} {fuel : Nat}
    (enough : source.remaining.length < fuel) (len : Nat) :
    Follows source.closes (readChunk fuel len source)
      (parseChunk source.closes len source.remaining) := by
  apply (readContentWithLength_follows enough len).bind
  intro chunk afterChunk keptChunk takesChunk
  have chunkLength := length_le_of_takeContent takesChunk
  have lines := @getline_follows afterChunk fuel (by omega) 16
  rw [keptChunk] at lines
  apply lines.bind
  intro line afterLine keptLine takesLine
  have lineLength := length_lt_of_takeLine takesLine
  dsimp only
  by_cases broken : untilNull line ≠ crlf
  · rw [if_pos broken, if_pos broken]
    exact ⟨keptLine, rfl⟩
  · rw [if_neg broken, if_neg broken]
    have sizes := @getline_follows afterLine fuel (by omega) 16
    rw [keptLine] at sizes
    apply sizes.bind
    intro size afterSize keptSize takesSize
    apply Follows.bind_pure
    intro chunkLen
    exact ⟨keptSize, rfl⟩

/-- The chunks under way. -/
structure InChunks (closes : Bool) (fuel : Nat)
    (parsed : Except ReadFailure (Bytes × Bytes)) (state : ChunkState) :
    Prop where
  kept : state.source.closes = closes
  enough : state.source.remaining.length < fuel
  whole : state.broken = false
  parses : prepend state.content
    (parseChunks closes state.chunkLen state.source.remaining) = parsed

/-- The end of the chunks, when the loop is left for a length that is not
positive. -/
theorem chunkedEnd_follows {closes : Bool} {fuel : Nat}
    {parsed : Except ReadFailure (Bytes × Bytes)} {state : ChunkState}
    (inChunks : InChunks closes fuel parsed state)
    (last : ¬ 0 < state.chunkLen) :
    Follows closes (chunkedEnd fuel state) parsed := by
  obtain ⟨kept, enough, whole, parses⟩ := inChunks
  rw [chunkedEnd]
  by_cases zero : state.chunkLen = 0
  · rw [if_pos zero]
    rw [zero, parseChunks_zero] at parses
    have lines := getline_follows enough 16
    rw [kept] at lines
    rw [← parses]
    cases line : getline fuel 16 state.source with
    | error failure =>
        rw [line] at lines
        have fails : takeLine closes state.source.remaining =
          .error failure := lines
        rw [fails]
        rfl
    | ok pair =>
        obtain ⟨text, after⟩ := pair
        rw [line] at lines
        obtain ⟨keptAfter, takes⟩ := lines
        rw [takes]
        simp only [bind, Except.bind]
        split
        · refine ⟨keptAfter, ?_⟩
          simp [prepend, Except.map, pure, Except.pure]
        · rfl
  · rw [if_neg zero]
    rw [parseChunks_of_neg closes (by omega)] at parses
    refine ⟨kept, ?_⟩
    rw [← parses]
    simp [prepend, Except.map]

theorem chunkRound_inChunks {closes : Bool} {fuel : Nat}
    {parsed : Except ReadFailure (Bytes × Bytes)} (state : ChunkState)
    (inChunks : InChunks closes fuel parsed state ∧ 0 < state.chunkLen) :
    Round (chunkRound fuel) ChunkState.goesOn
      (fun state => InChunks closes fuel parsed state ∧ 0 < state.chunkLen)
      (fun state => state.source.remaining.length)
      (fun final => Follows closes (final.bind (chunkedEnd fuel)) parsed)
      state := by
  obtain ⟨⟨kept, enough, whole, parses⟩, positive⟩ := inChunks
  rw [parseChunks_of_pos closes positive] at parses
  have follows := readChunk_follows enough state.chunkLen.toNat
  rw [kept] at follows
  have round : chunkRound fuel state =
    (readChunk fuel state.chunkLen.toNat state.source).map
      (chunkStep state) := rfl
  cases read : readChunk fuel state.chunkLen.toNat state.source with
  | error failure =>
      rw [read] at follows round
      have fails : parseChunk closes state.chunkLen.toNat
        state.source.remaining = .error failure := follows
      rw [fails] at parses
      exact .fails failure round parses.symm
  | ok pair =>
      obtain ⟨⟨chunk, next⟩, after⟩ := pair
      rw [read] at follows round
      obtain ⟨keptAfter, takes⟩ := follows
      have shorter := length_lt_of_parseChunk takes
      rw [takes] at parses
      cases next with
      | none =>
          have stops : (chunkStep state ((chunk, none), after)).goesOn =
            false := Bool.and_false _
          refine .leaves _ round stops ?_
          have ends : chunkedEnd fuel (chunkStep state ((chunk, none), after)) =
              .ok (state.content ++ chunk, after) :=
            if_neg (by
              intro zero
              have same : state.chunkLen = 0 := zero
              omega)
          simp only [Except.bind, ends]
          exact ⟨keptAfter, parses.symm⟩
      | some chunkLen =>
          have inNext : InChunks closes fuel parsed
              (chunkStep state ((chunk, some chunkLen), after)) :=
            ⟨keptAfter, Nat.lt_trans shorter enough, rfl, by
              rw [← parses]
              exact (prepend_prepend _ _ _).symm⟩
          by_cases more : 0 < chunkLen
          · refine .continues _ round ?_ ⟨inNext, more⟩ shorter
            exact (Bool.and_true _).trans (decide_eq_true more)
          · refine .leaves _ round ?_ (chunkedEnd_follows inNext more)
            exact (Bool.and_true _).trans (decide_eq_false more)

/-- `read_content_chunked` parses the chunks. -/
theorem readContentChunked_follows {source : Source} {fuel : Nat}
    (enough : source.remaining.length < fuel) :
    Follows source.closes (readContentChunked fuel source)
      (parseChunked source.closes source.remaining) := by
  apply (getline_follows enough 16).bind
  intro line after kept takes
  have shorter := length_lt_of_takeLine takes
  apply Follows.bind_pure
  intro chunkLen
  have inChunks : InChunks source.closes fuel
      (parseChunks source.closes chunkLen after.remaining)
      ⟨chunkLen, [], after, false⟩ :=
    ⟨kept, Nat.lt_trans shorter enough, rfl, prepend_nil _⟩
  have ends := @whileDo_total _ _ (chunkRound fuel) ChunkState.goesOn _ _ _
    chunkRound_inChunks fuel ⟨chunkLen, [], after, false⟩
    (fun goes => ⟨inChunks, by
      have both := (Bool.and_true _).symm.trans goes
      exact of_decide_eq_true both⟩)
    (fun stops => chunkedEnd_follows inChunks (by
      have both := (Bool.and_true _).symm.trans stops
      exact of_decide_eq_false both))
    (Nat.lt_trans shorter enough)
  obtain ⟨final, done, follows⟩ := ends
  rw [done]
  exact follows

theorem readContent_follows {source : Source} {fuel : Nat}
    (enough : source.remaining.length < fuel) (headers : Headers) :
    Follows source.closes (readContent fuel headers source)
      (parseContent source.closes headers source.remaining) := by
  unfold readContent parseContent
  by_cases gzip : getHeaderValue headers contentEncoding [] =
      ascii ['g', 'z', 'i', 'p']
  · rw [if_pos gzip, if_pos gzip]
    rfl
  · rw [if_neg gzip, if_neg gzip]
    by_cases chunked : isChunkedTransferEncoding headers = true
    · rw [if_pos chunked, if_pos chunked]
      exact readContentChunked_follows enough
    · rw [if_neg chunked, if_neg chunked]
      by_cases missing : (!hasHeader headers contentLength) = true
      · rw [if_pos missing, if_pos missing]
        exact readContentWithoutLength_follows enough
      · rw [if_neg missing, if_neg missing]
        generalize getHeaderValueUint64 headers contentLength 0 = len
        by_cases positive : 0 < len
        · dsimp only
          rw [if_pos positive]
          exact readContentWithLength_follows enough len
        · have zero : len = 0 := by omega
          subst zero
          exact ⟨rfl, takeContent_append [] source.remaining⟩

theorem readResponseLine_follows {source : Source} {fuel : Nat}
    (enough : source.remaining.length < fuel) (response : Response) :
    Follows source.closes (readResponseLine fuel source response)
      (parseResponseLine source.closes response source.remaining) := by
  apply (getline_follows enough 2048).bind
  intro line after kept takes
  dsimp only
  cases matchResponseLine (untilNull line) with
  | none => exact ⟨kept, rfl⟩
  | some found =>
      apply Follows.bind_pure
      intro status
      exact ⟨kept, rfl⟩

/-- The client reads a response as the parser does. -/
theorem receiveResponse_follows {source : Source} {fuel : Nat}
    (enough : source.remaining.length < fuel) (method : Bytes) :
    Follows source.closes (receiveResponse fuel method source)
      (parseResponse source.closes method source.remaining) := by
  apply (readResponseLine_follows enough .new).bind
  intro response afterLine keptLine takesLine
  have lineLength := length_lt_of_parseResponseLine takesLine
  have headers :=
    @readHeaders_follows afterLine fuel (by omega) response.headers
  rw [keptLine] at headers
  apply headers.bind
  intro headers afterHeaders keptHeaders takesHeaders
  have headersLength := length_lt_of_parseHeaders takesHeaders
  dsimp only
  by_cases hasBody : method ≠ headMethod ∧ method ≠ connectMethod
  · rw [if_pos hasBody, if_pos hasBody]
    have content :=
      @readContent_follows afterHeaders fuel (by omega) headers
    rw [keptHeaders] at content
    apply content.bind
    intro body afterBody keptBody takesBody
    exact ⟨keptBody, rfl⟩
  · rw [if_neg hasBody, if_neg hasBody]
    exact ⟨keptHeaders, rfl⟩

/-- A parser comes to an end. -/
def Ends (parsed : Except ReadFailure Value) : Prop :=
  parsed ≠ .error .unfinished

/-- The same failure of another parser. -/
theorem Ends.error {failure : ReadFailure}
    (ends : Ends (.error failure : Except ReadFailure Value)) :
    Ends (.error failure : Except ReadFailure Other) := by
  intro same
  apply ends
  injection same with failureEq
  rw [failureEq]

theorem Ends.bind {parsed : Except ReadFailure Value} (ends : Ends parsed)
    {next : Value → Except ReadFailure Other}
    (endsNext : ∀ value, Ends (next value)) : Ends (parsed >>= next) := by
  cases parsed with
  | error failure => exact ends.error
  | ok value => exact endsNext value

theorem ends_ok (value : Value) : Ends (.ok value) :=
  nofun

theorem ends_returnsFalse :
    Ends (.error .returnsFalse : Except ReadFailure Value) :=
  nofun

theorem ends_takeLine (closes : Bool) (bytes : Bytes) :
    Ends (takeLine closes bytes) := by
  unfold takeLine
  split_ifs
  · exact ends_ok _
  · exact ends_ok _
  · exact ends_returnsFalse

theorem ends_takeContent (len : Nat) (bytes : Bytes) :
    Ends (takeContent len bytes) := by
  unfold takeContent
  split
  · exact ends_ok _
  · exact ends_returnsFalse

theorem ends_takeRest (closes : Bool) (bytes : Bytes) :
    Ends (takeRest closes bytes) := by
  unfold takeRest
  split
  · exact ends_ok _
  · exact ends_returnsFalse

theorem ends_readStoi (base : Nat) (text : Bytes) :
    Ends (readStoi base text) := by
  unfold readStoi
  cases stoi base text with
  | error exception => exact nofun
  | ok value => exact ends_ok value

theorem ends_parseHeaders (closes : Bool) (headers : Headers)
    (bytes : Bytes) : Ends (parseHeaders closes headers bytes) := by
  induction headers, bytes using parseHeaders.induct closes with
  | case1 headers bytes failure fails =>
      have ends := ends_takeLine closes bytes
      rw [fails] at ends
      rw [parseHeaders_of_error headers fails]
      exact ends.error
  | case2 headers bytes line after takes blank =>
      rw [parseHeaders_of_takeLine headers takes, blank]
      exact ends_ok _
  | case3 headers bytes line after takes more field ih =>
      rw [parseHeaders_of_takeLine headers takes, field]
      exact ih

theorem ends_parseChunk (closes : Bool) (len : Nat) (bytes : Bytes) :
    Ends (parseChunk closes len bytes) := by
  apply (ends_takeContent len bytes).bind
  intro chunk
  apply (ends_takeLine closes chunk.2).bind
  intro line
  dsimp only
  split
  · exact ends_ok _
  · apply (ends_takeLine closes line.2).bind
    intro size
    apply (ends_readStoi 16 size.1).bind
    intro chunkLen
    exact ends_ok _

theorem ends_prepend {content : Bytes}
    {parsed : Except ReadFailure (Bytes × Bytes)} (ends : Ends parsed) :
    Ends (prepend content parsed) := by
  cases parsed with
  | error failure => exact ends.error
  | ok result => exact ends_ok _

theorem ends_parseChunks (closes : Bool) (chunkLen : Int) (bytes : Bytes) :
    Ends (parseChunks closes chunkLen bytes) := by
  induction length : bytes.length using Nat.strong_induction_on
    generalizing chunkLen bytes with
  | h size ih =>
      by_cases positive : 0 < chunkLen
      · rw [parseChunks_of_pos closes positive]
        have ends := ends_parseChunk closes chunkLen.toNat bytes
        cases parsed : parseChunk closes chunkLen.toNat bytes with
        | error failure =>
            rw [parsed] at ends
            exact ends.error
        | ok pair =>
            obtain ⟨⟨chunk, next⟩, rest⟩ := pair
            have shorter := length_lt_of_parseChunk parsed
            cases next with
            | none => exact ends_ok _
            | some next =>
                exact ends_prepend (ih _ (by omega) next rest rfl)
      · by_cases zero : chunkLen = 0
        · rw [zero, parseChunks_zero]
          apply (ends_takeLine closes bytes).bind
          intro line
          dsimp only
          split
          · exact ends_ok _
          · exact ends_returnsFalse
        · rw [parseChunks_of_neg closes (by omega)]
          exact ends_ok _

theorem ends_parseContent (closes : Bool) (headers : Headers)
    (bytes : Bytes) : Ends (parseContent closes headers bytes) := by
  unfold parseContent
  split_ifs
  · exact ends_returnsFalse
  · apply (ends_takeLine closes bytes).bind
    intro line
    apply (ends_readStoi 16 line.1).bind
    intro chunkLen
    exact ends_parseChunks closes chunkLen line.2
  · exact ends_takeRest closes bytes
  · exact ends_takeContent _ bytes

theorem ends_parseResponse (closes : Bool) (method : Bytes)
    (bytes : Bytes) : Ends (parseResponse closes method bytes) := by
  apply Ends.bind
  · apply (ends_takeLine closes bytes).bind
    intro line
    dsimp only
    split
    · exact ends_ok _
    · apply (ends_readStoi 10 _).bind
      intro status
      exact ends_ok _
  · intro response
    apply (ends_parseHeaders closes _ _).bind
    intro headers
    dsimp only
    split
    · apply (ends_parseContent closes _ _).bind
      intro body
      exact ends_ok _
    · exact ends_ok _

theorem map_fst_eq_of_follows {closes : Bool}
    {final : Except ReadFailure (Value × Source)}
    {parsed : Except ReadFailure (Value × Bytes)}
    (follows : Follows closes final parsed) :
    final.map Prod.fst = parsed.map Prod.fst := by
  cases final with
  | error failure =>
      have parsedEq : parsed = .error failure := follows
      rw [parsedEq]
      rfl
  | ok pair =>
      rw [follows.2]
      rfl

/-- The client comes to an end for all bytes, and what it makes of them depends
on them, on the request method and on whether the connection is closed behind
them, but not on the pieces in which they arrive. -/
theorem receiveResponse_pieces (bytes : Bytes) (closes : Bool)
    (method : Bytes) :
    ∃ outcome : Except ReadFailure Response, Ends outcome ∧
      ∀ (cuts : Nat → Nat) (reads fuel : Nat), bytes.length < fuel →
        (receiveResponse fuel method ⟨bytes, cuts, reads, closes⟩).map
          Prod.fst = outcome := by
  refine ⟨(parseResponse closes method bytes).map Prod.fst, ?_, ?_⟩
  · have ends := ends_parseResponse closes method bytes
    cases parsed : parseResponse closes method bytes with
    | error failure =>
        rw [parsed] at ends
        exact ends.error
    | ok pair => exact ends_ok _
  · intro cuts reads fuel enough
    exact map_fst_eq_of_follows
      (@receiveResponse_follows ⟨bytes, cuts, reads, closes⟩ fuel enough
        method)

end ResponseReader

end IISModuleJS
