import IISModuleJS.ResponseFormat

/-!
# Responses that are cut off

A connection can break at any byte of a response.  When the length of the body
is given, the client refuses every such response.  When the body comes in
chunks, it takes some of them for whole: those that are cut in the middle of the
line break behind a chunk.
-/

namespace IISModuleJS

namespace ResponseReader

open AsyncWorkers (Bytes)

/-- A line that was taken ends with its newline, and then it does not depend on
what follows it; or it is all that there was. -/
theorem takeLine_cases {closes : Bool} {bytes line rest : Bytes}
    (taken : takeLine closes bytes = .ok (line, rest)) :
    (∀ (ends : Bool) (more : Bytes),
      takeLine ends (bytes ++ more) = .ok (line, rest ++ more)) ∨
      (closes = true ∧ line = bytes ∧ rest = [] ∧ newline ∉ bytes) := by
  by_cases member : newline ∈ bytes
  · obtain ⟨front, behind, rfl, whole⟩ := List.eq_append_cons_of_mem member
    rw [takeLine_of_mem whole] at taken
    cases taken
    left
    intro ends more
    rw [List.append_assoc, List.cons_append, takeLine_of_mem whole]
  · rw [takeLine_of_not_mem member] at taken
    split at taken
    next holds =>
      cases taken
      exact .inr ⟨holds.1, rfl, rfl, member⟩
    next fails => cases taken

theorem takeLine_nil (closes : Bool) :
    takeLine closes [] = .error .returnsFalse := by
  rw [takeLine_of_not_mem List.not_mem_nil, if_neg (fun both => both.2 rfl)]

theorem parseHeaders_nil (closes : Bool) (headers : Headers) :
    parseHeaders closes headers [] = .error .returnsFalse :=
  parseHeaders_of_error headers (takeLine_nil closes)

/-- The parser of the headers fails in one way only. -/
theorem parseHeaders_error {closes : Bool} {headers : Headers} {bytes : Bytes}
    {failure : ReadFailure}
    (failed : parseHeaders closes headers bytes = .error failure) :
    failure = .returnsFalse := by
  induction headers, bytes using parseHeaders.induct closes with
  | case1 headers bytes cause fails =>
      rw [parseHeaders_of_error headers fails] at failed
      cases failed
      unfold takeLine at fails
      split_ifs at fails
      cases fails
      rfl
  | case2 headers bytes line after takes blank =>
      rw [parseHeaders_of_takeLine headers takes, blank] at failed
      cases failed
  | case3 headers bytes line after takes more field ih =>
      rw [parseHeaders_of_takeLine headers takes, field] at failed
      exact ih failed

theorem newline_mem_of_endWithCrlf {text : Bytes}
    (ends : endWithCrlf text = true) : newline ∈ text := by
  unfold endWithCrlf at ends
  rw [Bool.and_eq_true, beq_iff_eq] at ends
  have member : newline ∈ text.drop (text.length - 2) := by
    rw [ends.2]
    decide
  exact List.mem_of_mem_drop member

/-- Headers that were parsed do not depend on what follows them. -/
theorem parseHeaders_append {closes : Bool} {headers result : Headers}
    {bytes rest : Bytes}
    (parsed : parseHeaders closes headers bytes = .ok (result, rest))
    (more : Bytes) :
    parseHeaders closes headers (bytes ++ more) =
      .ok (result, rest ++ more) := by
  induction headers, bytes using parseHeaders.induct closes with
  | case1 headers bytes failure fails =>
      rw [parseHeaders_of_error headers fails] at parsed
      cases parsed
  | case2 headers bytes line after takes blank =>
      rw [parseHeaders_of_takeLine headers takes, blank] at parsed
      cases parsed
      rcases takeLine_cases takes with whole | ⟨-, rfl, -, missing⟩
      · rw [parseHeaders_of_takeLine _ (whole closes more), blank]
      · by_cases ends : endWithCrlf line = true
        · exact absurd (newline_mem_of_endWithCrlf ends) missing
        · rw [headerLine, if_neg ends] at blank
          cases blank
  | case3 headers bytes line after takes field found ih =>
      rw [parseHeaders_of_takeLine headers takes, found] at parsed
      rcases takeLine_cases takes with whole | ⟨-, -, rfl, -⟩
      · rw [parseHeaders_of_takeLine headers (whole closes more), found]
        exact ih parsed
      · have failed := parseHeaders_nil closes field
        dsimp only at parsed
        rw [failed] at parsed
        cases parsed

/-- What a status line makes of a response. -/
def lineResponse (response : Response) (line : Bytes) :
    Except ReadFailure Response :=
  match matchResponseLine (untilNull line) with
  | none => .ok response
  | some (version, digits) =>
      (readStoi 10 digits).map fun status =>
        { response with version := version, status := status }

theorem parseResponseLine_of_takeLine {closes : Bool} (response : Response)
    {bytes line rest : Bytes}
    (taken : takeLine closes bytes = .ok (line, rest)) :
    parseResponseLine closes response bytes =
      (lineResponse response line).map fun result => (result, rest) := by
  rw [parseResponseLine, taken, lineResponse]
  simp only [bind, Except.bind]
  cases matchResponseLine (untilNull line) with
  | none => rfl
  | some found =>
      dsimp only
      cases readStoi 10 found.2 with
      | error failure => rfl
      | ok status => rfl

theorem matchResponseLine_of_not_mem {text : Bytes}
    (missing : newline ∉ text) : matchResponseLine text = none := by
  have noStatus : matchStatus (text.drop 9) = none := by
    rw [matchStatus, if_neg]
    rintro ⟨-, -, ends, -⟩
    apply missing
    have member := newline_mem_of_endWithCrlf ends
    exact List.mem_of_mem_drop (List.mem_of_mem_drop
      (List.mem_of_mem_tail member))
  rw [matchResponseLine, noStatus]
  split <;> rfl

/-- A head that is cut off is refused. -/
theorem parseResponse_cutHead {closes : Bool} {method : Bytes} {status : Nat}
    {reason bytes more : Bytes} {headers : Headers}
    (plain : PlainHead status reason headers)
    (cut : bytes ++ more = writeHead status reason headers)
    (strict : more ≠ []) :
    parseResponse closes method bytes = .error .returnsFalse := by
  have whole : parseResponseLine closes .new (bytes ++ more) =
      .ok ({ Response.new with version := serverVersion, status := status },
        writeHeaders headers) := by
    rw [cut, writeHead, parseResponseLine_write closes .new status
      plain.reason, if_neg (Nat.not_lt.mpr plain.status)]
  cases taken : takeLine closes bytes with
  | error failure =>
      have failed : parseResponseLine closes .new bytes = .error failure := by
        rw [parseResponseLine, taken]
        rfl
      rw [parseResponse, failed]
      unfold takeLine at taken
      split_ifs at taken
      cases taken
      rfl
  | ok pair =>
      obtain ⟨line, rest⟩ := pair
      have parsedLine := parseResponseLine_of_takeLine .new taken
      rcases takeLine_cases taken with complete | ⟨-, rfl, rfl, missing⟩
      · rw [parseResponseLine_of_takeLine .new (complete closes more)] at whole
        cases result : lineResponse .new line with
        | error failure =>
            rw [result] at whole
            cases whole
        | ok response =>
            rw [result] at whole parsedLine
            have same := Except.ok.inj whole
            have responseEq := congrArg Prod.fst same
            have restEq : rest ++ more = writeHeaders headers :=
              congrArg Prod.snd same
            rw [parseResponse, parsedLine]
            simp only [bind, Except.bind, Except.map]
            dsimp only at responseEq
            rw [responseEq]
            cases parsed : parseHeaders closes Response.new.headers rest with
            | error failure =>
                rw [parseHeaders_error parsed]
            | ok pair =>
                obtain ⟨found, behind⟩ := pair
                have extended := parseHeaders_append parsed more
                have all := parseHeaders_writeHeaders closes plain.headers []
                rw [List.append_nil] at all
                rw [restEq] at extended
                have ends := congrArg Prod.snd
                  (Except.ok.inj (extended.symm.trans all))
                exact absurd (List.append_eq_nil_iff.mp ends).2 strict
      · have shown : newline ∉ untilNull line := fun member =>
          missing (List.takeWhile_subset _ member)
        rw [lineResponse, matchResponseLine_of_not_mem shown] at parsedLine
        rw [parseResponse, parsedLine]
        simp only [bind, Except.bind, Except.map]
        rw [parseHeaders_nil]

/-- A prefix of a response is one of its head, or the head and a prefix of what
follows. -/
theorem prefix_cases {bytes more head content : Bytes}
    (cut : bytes ++ more = head ++ content) :
    (∃ missing, missing ≠ [] ∧ bytes ++ missing = head) ∨
      ∃ rest, bytes = head ++ rest ∧ rest ++ more = content := by
  rcases List.append_eq_append_iff.mp cut with
    ⟨missing, headEq, contentEq⟩ | ⟨rest, bytesEq, contentEq⟩
  · by_cases none : missing = []
    · right
      refine ⟨[], ?_, ?_⟩
      · simpa [none] using headEq.symm
      · simpa [none] using contentEq
    · exact .inl ⟨missing, none, headEq.symm⟩
  · exact .inr ⟨rest, bytesEq, contentEq.symm⟩

/-- A response with the length of its body that is cut off anywhere is refused,
whether the connection is closed there or reading times out. -/
theorem parseResponse_cutSized {closes : Bool} {method : Bytes}
    (hasBody : method ≠ headMethod ∧ method ≠ connectMethod) {status : Nat}
    {reason body bytes more key : Bytes} {headers : Headers}
    (head : PlainHead status reason headers)
    (whole : isChunkedTransferEncoding headers = false)
    (found : headers.find? contentLength = some (key, toDecimal body.length))
    (fits : body.length ≤ ullongMax)
    (cut : bytes ++ more = writeHead status reason headers ++ body)
    (strict : more ≠ []) :
    parseResponse closes method bytes = .error .returnsFalse := by
  rcases prefix_cases cut with ⟨missing, some, headEq⟩ | ⟨rest, rfl, bodyEq⟩
  · exact parseResponse_cutHead head headEq some
  · have length : getHeaderValueUint64 headers contentLength 0 =
        body.length := by
      rw [getHeaderValueUint64, found]
      exact strtoull_toDecimal fits
    have present : ¬ (!hasHeader headers contentLength) = true := by
      rw [hasHeader, found]
      exact Bool.false_ne_true
    have short : rest.length < body.length := by
      have lengths := congrArg List.length bodyEq
      have positive := List.length_pos_of_ne_nil strict
      rw [List.length_append] at lengths
      omega
    rw [parseResponse_writeHead closes hasBody head, parseContent]
    by_cases gzip : getHeaderValue headers contentEncoding [] =
        ascii ['g', 'z', 'i', 'p']
    · rw [if_pos gzip]
      rfl
    · rw [if_neg gzip, whole, if_neg Bool.false_ne_true, if_neg present,
        length, takeContent_of_lt short]
      rfl

theorem digitsValue_le_append (base : Nat) (positive : 0 < base)
    (first second : Bytes) :
    digitsValue base first ≤ digitsValue base (first ++ second) := by
  rw [digitsValue, digitsValue, List.foldl_append]
  generalize first.foldl _ 0 = value
  induction second generalizing value with
  | nil => exact Nat.le_refl _
  | cons unit second ih =>
      apply Nat.le_trans _ (ih _)
      exact Nat.le_trans (Nat.le_mul_of_pos_right value positive)
        (Nat.le_add_right _ _)

theorem digitsValue_fromIToHex (n : Nat) :
    digitsValue 16 (fromIToHex n) = n :=
  digitsValue_prependDigits (by decide) (Nat.le_refl 16) n

/-- Nothing is left for a chunk whose length is the last that there is. -/
theorem parseChunks_nil (closes : Bool) (n : Nat) :
    parseChunks closes (n : Int) [] = .error .returnsFalse := by
  cases n with
  | zero =>
      rw [Int.ofNat_zero, parseChunks_zero, takeLine_nil]
      rfl
  | succ n =>
      have short : ([] : Bytes).length < n + 1 := Nat.succ_pos n
      rw [parseChunks_of_pos closes (by omega), Int.toNat_natCast, parseChunk,
        takeContent_of_lt short]
      rfl

theorem half_of_append {rest missing : Bytes} (cut : rest ++ missing = crlf)
    (strict : missing ≠ []) : rest = [] ∨ rest = [0x0D] := by
  cases rest with
  | nil => exact .inl rfl
  | cons first rest =>
      obtain ⟨rfl, behind⟩ := List.cons.inj cut
      cases rest with
      | nil => exact .inr rfl
      | cons second rest =>
          have none : rest ++ missing = [] := (List.cons.inj behind).2
          exact absurd (List.append_eq_nil_iff.mp none).2 strict

/-- The line of a length that is cut off holds a smaller length, if any. -/
theorem parseChunked_cutSize {closes : Bool} {n : Nat}
    (small : n ≤ 2147483647) {bytes more : Bytes}
    (cut : bytes ++ more = fromIToHex n ++ crlf) (strict : more ≠ []) :
    parseChunked closes bytes = .error .returnsFalse := by
  by_cases empty : bytes = []
  · rw [empty, parseChunked, takeLine_nil]
    rfl
  · obtain ⟨digits, rest, rfl, nonempty, bound, all, breaks⟩ :
        ∃ digits rest, bytes = digits ++ rest ∧ digits ≠ [] ∧
          digitsValue 16 digits ≤ n ∧
          (∀ unit ∈ digits, isDigit 16 unit = true) ∧
          (rest = [] ∨ rest = [0x0D]) := by
      rcases prefix_cases cut with ⟨missing, -, hexEq⟩ | ⟨rest, rfl, restEq⟩
      · refine ⟨bytes, [], (List.append_nil _).symm, empty, ?_, ?_, .inl rfl⟩
        · have bound := digitsValue_le_append 16 (by decide) bytes missing
          rwa [hexEq, digitsValue_fromIToHex] at bound
        · intro unit member
          apply isDigit_fromIToHex n
          rw [← hexEq]
          exact List.mem_append_left _ member
      · refine ⟨fromIToHex n, rest, rfl, ?_, ?_, isDigit_fromIToHex n, ?_⟩
        · exact prependDigits_ne_nil (by decide) n []
        · exact Nat.le_of_eq (digitsValue_fromIToHex n)
        · exact half_of_append restEq strict
    have missing : newline ∉ digits ++ rest := by
      intro member
      rcases List.mem_append.mp member with member | member
      · exact (printable_of_isDigit (Nat.le_refl 16) all).newline_not_mem
          member
      · rcases breaks with rfl | rfl
        · cases member
        · exact absurd member (by decide)
    have terminated : ∀ unit ∈ rest, unit ≠ 0 := by
      rcases breaks with rfl | rfl
      · intro unit member
        cases member
      · simp
    have ends : ∀ unit, rest.head? = some unit → digitValue unit = none := by
      intro unit first
      rcases breaks with rfl | rfl
      · cases first
      · rw [← Option.some.inj first]
        decide
    have number := stoi_append (Nat.le_refl 16) nonempty all terminated ends
    rw [if_neg (by omega)] at number
    rw [parseChunked, takeLine_of_not_mem missing]
    by_cases closed : closes = true ∧ digits ++ rest ≠ []
    · rw [if_pos closed]
      simp only [bind, Except.bind]
      rw [readStoi, number]
      exact parseChunks_nil closes _
    · rw [if_neg closed]
      rfl

/-- What is left of chunks that are cut in the line break behind the last of
them. -/
def cutBehind (front : List Bytes) (chunk : Bytes) : Bytes :=
  front.flatMap formatChunk ++
    (fromIToHex chunk.length ++ crlf ++ chunk ++ [0x0D])

theorem cutBehind_cons (first : Bytes) (front : List Bytes) (chunk : Bytes) :
    cutBehind (first :: front) chunk =
      fromIToHex first.length ++ crlf ++
        (first ++ (crlf ++ cutBehind front chunk)) := by
  simp only [cutBehind, List.flatMap_cons, formatChunk, List.append_assoc]

theorem cutBehind_nil (chunk : Bytes) :
    cutBehind [] chunk =
      fromIToHex chunk.length ++ crlf ++ (chunk ++ [0x0D]) := by
  simp only [cutBehind, List.flatMap_nil, List.nil_append, List.append_assoc]

/-- Half of a line break breaks the loop off, and the chunk counts. -/
theorem parseChunks_halfBreak {chunk : Bytes} (nonempty : chunk ≠ []) :
    parseChunks true (chunk.length : Int) (chunk ++ [0x0D]) =
      .ok (chunk, []) := by
  have positive := List.length_pos_of_ne_nil nonempty
  have missing : newline ∉ ([0x0D] : Bytes) := by decide
  have different : untilNull [0x0D] ≠ crlf := by decide
  rw [parseChunks_of_pos true (by omega), Int.toNat_natCast, parseChunk,
    takeContent_append]
  simp only [bind, Except.bind]
  rw [takeLine_of_not_mem missing, if_pos ⟨rfl, List.cons_ne_nil _ _⟩]
  simp only [if_pos different]
  rfl

/-- Chunks that are cut there are accepted when the connection is closed. -/
theorem parseChunked_cutBehind {front : List Bytes} {chunk : Bytes}
    (nonempty : ∀ other ∈ front ++ [chunk], other ≠ [])
    (small : ∀ other ∈ front ++ [chunk], other.length ≤ 2147483647) :
    parseChunked true (cutBehind front chunk) =
      .ok ((front ++ [chunk]).flatten, []) := by
  induction front with
  | nil =>
      have bound := small chunk (by simp)
      rw [cutBehind_nil, parseChunked_fromIToHex,
        if_neg (Nat.not_lt.mpr bound),
        parseChunks_halfBreak (nonempty chunk (by simp))]
      simp
  | cons first front ih =>
      have bound := small first (by simp)
      have behind := ih
        (fun other member => nonempty other (List.mem_cons_of_mem _ member))
        (fun other member => small other (List.mem_cons_of_mem _ member))
      rw [cutBehind_cons, parseChunked_fromIToHex,
        if_neg (Nat.not_lt.mpr bound),
        parseChunks_append true (nonempty first (by simp)), behind]
      rfl

/-- A chunk that is cut off is refused, or it is cut in the line break behind
it, or it is whole. -/
theorem parseChunks_cut {closes : Bool} {chunk bytes more behind : Bytes}
    (nonempty : chunk ≠ []) (cut : bytes ++ more = chunk ++ (crlf ++ behind)) :
    parseChunks closes (chunk.length : Int) bytes = .error .returnsFalse ∨
      (closes = true ∧ bytes = chunk ++ [0x0D]) ∨
      ∃ rest, bytes = chunk ++ (crlf ++ rest) ∧ rest ++ more = behind := by
  have positive := List.length_pos_of_ne_nil nonempty
  rcases prefix_cases cut with ⟨missing, some, chunkEq⟩ | ⟨rest, rfl, restEq⟩
  · left
    have short : bytes.length < chunk.length := by
      have lengths := congrArg List.length chunkEq
      have missingLength := List.length_pos_of_ne_nil some
      rw [List.length_append] at lengths
      omega
    rw [parseChunks_of_pos closes (by omega), Int.toNat_natCast, parseChunk,
      takeContent_of_lt short]
    rfl
  · rcases prefix_cases restEq with ⟨missing, some, breakEq⟩ | ⟨rest', rfl, behindEq⟩
    · have half := half_of_append breakEq some
      cases closes with
      | true =>
          rcases half with rfl | rfl
          · left
            rw [parseChunks_of_pos true (by omega), Int.toNat_natCast,
              parseChunk, takeContent_append]
            simp only [bind, Except.bind]
            rw [takeLine_nil]
          · exact .inr (.inl ⟨rfl, rfl⟩)
      | false =>
          left
          have missing' : newline ∉ rest := by
            rcases half with rfl | rfl
            · exact List.not_mem_nil
            · decide
          rw [parseChunks_of_pos false (by omega), Int.toNat_natCast,
            parseChunk, takeContent_append]
          simp only [bind, Except.bind]
          rw [takeLine_of_not_mem missing',
            if_neg (fun both => Bool.false_ne_true both.1)]
    · exact .inr (.inr ⟨rest', rfl, behindEq⟩)

theorem parseChunked_cutTerminator {closes : Bool} {bytes more : Bytes}
    (cut : bytes ++ more = fromIToHex 0 ++ crlf ++ crlf) (strict : more ≠ []) :
    parseChunked closes bytes = .error .returnsFalse := by
  rcases prefix_cases cut with ⟨missing, some, sizeEq⟩ | ⟨rest, rfl, restEq⟩
  · exact parseChunked_cutSize (Nat.zero_le _) sizeEq some
  · rw [parseChunked_fromIToHex, if_neg (by decide), Int.ofNat_zero,
      parseChunks_zero]
    rcases half_of_append restEq strict with rfl | rfl
    · rw [takeLine_nil]
      rfl
    · cases closes with
      | false => rfl
      | true => rfl

/-- A chunked body that is cut off is refused, or cut in the line break behind a
chunk. -/
theorem parseChunked_cut {closes : Bool} {chunks : List Bytes}
    {bytes more : Bytes}
    (small : ∀ chunk ∈ sentChunks chunks, chunk.length ≤ 2147483647)
    (cut : bytes ++ more = writeContentChunked chunks) (strict : more ≠ []) :
    parseChunked closes bytes = .error .returnsFalse ∨
      (closes = true ∧ ∃ front chunk,
        front ++ [chunk] <+: sentChunks chunks ∧
          bytes = cutBehind front chunk) := by
  induction chunks generalizing bytes with
  | nil =>
      rw [writeContentChunked, ← fromIToHex_zero] at cut
      exact .inl (parseChunked_cutTerminator cut strict)
  | cons chunk chunks ih =>
      by_cases empty : chunk = []
      · rw [writeContentChunked, if_pos empty, empty, formatChunk,
          List.append_nil] at cut
        exact .inl (parseChunked_cutTerminator cut strict)
      · have sent : sentChunks (chunk :: chunks) =
            chunk :: sentChunks chunks :=
          List.takeWhile_cons_of_pos (by simpa using empty)
        rw [sent] at small ⊢
        have bound := small chunk List.mem_cons_self
        have text : writeContentChunked (chunk :: chunks) =
            fromIToHex chunk.length ++ crlf ++
              (chunk ++ (crlf ++ writeContentChunked chunks)) := by
          rw [writeContentChunked, if_neg empty]
          simp only [formatChunk, List.append_assoc]
        rw [text] at cut
        rcases prefix_cases cut with
          ⟨missing, some, sizeEq⟩ | ⟨rest, rfl, restEq⟩
        · exact .inl (parseChunked_cutSize bound sizeEq some)
        · rw [parseChunked_fromIToHex, if_neg (Nat.not_lt.mpr bound)]
          rcases parseChunks_cut empty restEq with
            refused | ⟨closed, rfl⟩ | ⟨behind, rfl, behindEq⟩
          · exact .inl refused
          · refine .inr ⟨closed, [], chunk, ?_, (cutBehind_nil chunk).symm⟩
            exact ⟨sentChunks chunks, rfl⟩
          · rw [parseChunks_append closes empty]
            rcases ih
              (fun other member => small other (List.mem_cons_of_mem _ member))
              behindEq with refused | ⟨closed, front, last, shown, rfl⟩
            · left
              rw [refused]
              rfl
            · refine .inr ⟨closed, chunk :: front, last, ?_,
                (cutBehind_cons chunk front last).symm⟩
              exact (List.prefix_cons_inj chunk).mpr shown

theorem parseResponse_chunked (closes : Bool) {method : Bytes}
    (hasBody : method ≠ headMethod ∧ method ≠ connectMethod) {status : Nat}
    {reason : Bytes} {headers : Headers}
    (head : PlainHead status reason headers)
    (plain : getHeaderValue headers contentEncoding [] ≠
      ascii ['g', 'z', 'i', 'p'])
    (pieces : isChunkedTransferEncoding headers = true) (content : Bytes) :
    parseResponse closes method
        (writeHead status reason headers ++ content) =
      (parseChunked closes content).map fun parsed =>
        (⟨serverVersion, status, headers, parsed.1⟩, parsed.2) := by
  rw [parseResponse_writeHead closes hasBody head, parseContent,
    if_neg plain, if_pos pieces]

/-- The chunks that were sent are neither empty nor too long. -/
theorem parseChunked_cutSent {chunks front : List Bytes} {chunk : Bytes}
    (small : ∀ chunk ∈ sentChunks chunks, chunk.length ≤ 2147483647)
    (shown : front ++ [chunk] <+: sentChunks chunks) :
    parseChunked true (cutBehind front chunk) =
      .ok ((front ++ [chunk]).flatten, []) := by
  apply parseChunked_cutBehind
  · intro other member
    have sent := shown.subset member
    exact of_decide_eq_true
      (@List.mem_takeWhile_imp _ (fun chunk : Bytes => decide (chunk ≠ []))
        chunks other sent)
  · intro other member
    exact small other (shown.subset member)

/-- A response in chunks that is cut off is refused, or cut in the line break
behind a chunk. -/
theorem parseResponse_cutChunked {closes : Bool} {method : Bytes}
    (hasBody : method ≠ headMethod ∧ method ≠ connectMethod) {status : Nat}
    {reason bytes more : Bytes} {headers : Headers} {chunks : List Bytes}
    (head : PlainHead status reason headers)
    (plain : getHeaderValue headers contentEncoding [] ≠
      ascii ['g', 'z', 'i', 'p'])
    (pieces : isChunkedTransferEncoding headers = true)
    (small : ∀ chunk ∈ sentChunks chunks, chunk.length ≤ 2147483647)
    (cut : bytes ++ more =
      writeHead status reason headers ++ writeContentChunked chunks)
    (strict : more ≠ []) :
    parseResponse closes method bytes = .error .returnsFalse ∨
      (closes = true ∧ ∃ front chunk,
        front ++ [chunk] <+: sentChunks chunks ∧
          bytes = writeHead status reason headers ++ cutBehind front chunk ∧
          parseResponse closes method bytes =
            .ok (⟨serverVersion, status, headers,
              (front ++ [chunk]).flatten⟩, [])) := by
  rcases prefix_cases cut with ⟨missing, some, headEq⟩ | ⟨rest, rfl, restEq⟩
  · exact .inl (parseResponse_cutHead head headEq some)
  · rw [parseResponse_chunked closes hasBody head plain pieces]
    rcases @parseChunked_cut closes _ _ _ small restEq strict with
      refused | ⟨rfl, front, chunk, shown, rfl⟩
    · left
      rw [refused]
      rfl
    · refine .inr ⟨rfl, front, chunk, shown, rfl, ?_⟩
      rw [parseChunked_cutSent small shown]
      rfl

/-- A response with the length of its body that is cut off anywhere is refused,
in whatever pieces it arrives, whether the connection is closed or reading times
out. -/
theorem receiveResponse_cutSized {method : Bytes}
    (hasBody : method ≠ headMethod ∧ method ≠ connectMethod) {status : Nat}
    {reason body bytes more key : Bytes} {headers : Headers}
    (head : PlainHead status reason headers)
    (whole : isChunkedTransferEncoding headers = false)
    (found : headers.find? contentLength = some (key, toDecimal body.length))
    (fits : body.length ≤ ullongMax)
    (cut : bytes ++ more = writeHead status reason headers ++ body)
    (strict : more ≠ []) (closes : Bool) (cuts : Nat → Nat) (reads : Nat)
    {fuel : Nat} (enough : bytes.length < fuel) :
    receiveResponse fuel method ⟨bytes, cuts, reads, closes⟩ =
      .error .returnsFalse := by
  have follows :=
    @receiveResponse_follows ⟨bytes, cuts, reads, closes⟩ fuel enough method
  dsimp only at follows
  rw [parseResponse_cutSized hasBody head whole found fits cut
    strict] at follows
  cases final : receiveResponse fuel method ⟨bytes, cuts, reads, closes⟩ with
  | error failure =>
      rw [final] at follows
      injection follows with same
      rw [same]
  | ok pair =>
      rw [final] at follows
      cases follows.2

theorem receiveResponse_cutSized_letter :
    ∃ fuel, receiveResponse fuel (ascii ['G', 'E', 'T'])
        ⟨writeHead 200 (ascii ['O', 'K']) letterHeaders, fun _ => 2, 0, true⟩ =
      .error .returnsFalse :=
  ⟨_, receiveResponse_cutSized (by decide) letterHeaders_plain (by decide)
    letterHeaders_find (by decide) rfl (List.cons_ne_nil _ _) true
    (fun _ => 2) 0 (Nat.lt_succ_self _)⟩

/-- A response in chunks that is cut off is accepted exactly if the connection
is closed in the middle of the line break behind a chunk.  The client then takes
the chunks up to that one for the whole body; otherwise it returns `false`. -/
theorem receiveResponse_cutChunked {method : Bytes}
    (hasBody : method ≠ headMethod ∧ method ≠ connectMethod) {status : Nat}
    {reason bytes more : Bytes} {headers : Headers} {chunks : List Bytes}
    (head : PlainHead status reason headers)
    (plain : getHeaderValue headers contentEncoding [] ≠
      ascii ['g', 'z', 'i', 'p'])
    (pieces : isChunkedTransferEncoding headers = true)
    (small : ∀ chunk ∈ sentChunks chunks, chunk.length ≤ 2147483647)
    (cut : bytes ++ more =
      writeHead status reason headers ++ writeContentChunked chunks)
    (strict : more ≠ []) (closes : Bool) (cuts : Nat → Nat) (reads : Nat)
    {fuel : Nat} (enough : bytes.length < fuel) :
    (∀ response,
      (receiveResponse fuel method ⟨bytes, cuts, reads, closes⟩).map
          Prod.fst = .ok response ↔
        closes = true ∧ ∃ front chunk,
          front ++ [chunk] <+: sentChunks chunks ∧
            bytes =
              writeHead status reason headers ++ cutBehind front chunk ∧
            response = ⟨serverVersion, status, headers,
              (front ++ [chunk]).flatten⟩) ∧
      ∀ failure,
        (receiveResponse fuel method ⟨bytes, cuts, reads, closes⟩).map
          Prod.fst = .error failure → failure = .returnsFalse := by
  have follows := map_fst_eq_of_follows
    (@receiveResponse_follows ⟨bytes, cuts, reads, closes⟩ fuel enough method)
  dsimp only at follows
  rw [follows]
  have cases := @parseResponse_cutChunked closes _ hasBody _ _ _ _ _ _ head
    plain pieces small cut strict
  constructor
  · intro response
    constructor
    · intro accepted
      rcases cases with refused | ⟨closed, front, chunk, shown, bytesEq, parsed⟩
      · rw [refused] at accepted
        cases accepted
      · rw [parsed] at accepted
        cases accepted
        exact ⟨closed, front, chunk, shown, bytesEq, rfl⟩
    · rintro ⟨rfl, front, chunk, shown, rfl, rfl⟩
      rw [parseResponse_chunked true hasBody head plain pieces,
        parseChunked_cutSent small shown]
      rfl
  · intro failure failed
    rcases cases with refused | ⟨-, front, chunk, -, -, parsed⟩
    · rw [refused] at failed
      cases failed
      rfl
    · rw [parsed] at failed
      cases failed

/-- A header that says that the body comes in chunks. -/
def chunkedHeaders : Headers :=
  .ofEntries [(transferEncoding, ascii ['c', 'h', 'u', 'n', 'k', 'e', 'd'])]

theorem chunkedHeaders_plain :
    PlainHead 200 (ascii ['O', 'K']) chunkedHeaders := by
  refine ⟨by decide, printable_of_all (by decide), ?_⟩
  intro header member
  have same := List.mem_singleton.mp member
  rw [same]
  exact plainField_of_test (by decide)

/-- The second of two chunks is missing, and the client does not notice. -/
theorem receiveResponse_cutChunked_letter :
    ∃ fuel, (receiveResponse fuel (ascii ['G', 'E', 'T'])
        ⟨writeHead 200 (ascii ['O', 'K']) chunkedHeaders ++
          cutBehind [] (ascii ['a']), fun _ => 2, 0, true⟩).map Prod.fst =
      .ok ⟨serverVersion, 200, chunkedHeaders, ascii ['a']⟩ := by
  have small : ∀ chunk ∈ sentChunks [ascii ['a'], ascii ['b']],
      chunk.length ≤ 2147483647 := by
    simp [sentChunks, ascii]
  have cut : writeHead 200 (ascii ['O', 'K']) chunkedHeaders ++
      cutBehind [] (ascii ['a']) ++
        (newline :: writeContentChunked [ascii ['b']]) =
      writeHead 200 (ascii ['O', 'K']) chunkedHeaders ++
        writeContentChunked [ascii ['a'], ascii ['b']] := by
    simp [cutBehind, writeContentChunked, formatChunk, crlf, newline, ascii]
  have accepted := (@receiveResponse_cutChunked (ascii ['G', 'E', 'T'])
    (by decide) _ _ _ _ _ _ chunkedHeaders_plain (by decide) (by decide)
    small cut (List.cons_ne_nil _ _) true (fun _ => 2) 0 _ (Nat.lt_succ_self _)).1
      ⟨serverVersion, 200, chunkedHeaders, ascii ['a']⟩
  exact ⟨_, accepted.mpr ⟨rfl, [], ascii ['a'],
    ⟨[ascii ['b']], rfl⟩, rfl, rfl⟩⟩

end ResponseReader

end IISModuleJS
