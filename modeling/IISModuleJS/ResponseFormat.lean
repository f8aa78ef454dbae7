import IISModuleJS.ResponseRefinement

/-!
# The format of a response

The server of the HTTP library writes a response with the functions below, and
the client reads it with those of its parser.  The file shows that the client
gets back what the server wrote: numbers, headers, bodies in chunks and whole
responses, whatever follows them.
-/

namespace IISModuleJS

namespace ResponseReader

open AsyncWorkers (Bytes)

/-- `charset[value]`. -/
def digit (value : Nat) : UInt8 :=
  if value < 10 then (0x30 + value).toUInt8 else (0x61 + (value - 10)).toUInt8

/-- The digits of a number in front of a text. -/
def prependDigits (base : Nat) (large : 1 < base) (n : Nat) (ret : Bytes) :
    Bytes :=
  if n / base = 0 then digit (n % base) :: ret
  else prependDigits base large (n / base) (digit (n % base) :: ret)
termination_by n
decreasing_by
  have positive : 0 < n := by
    apply Nat.pos_of_ne_zero
    rintro rfl
    simp at *
  exact Nat.div_lt_self positive large

/-- `from_i_to_hex`. -/
def fromIToHex (n : Nat) : Bytes :=
  prependDigits 16 (by decide) n []

/-- `std::to_string`, and `%d`. -/
def toDecimal (n : Nat) : Bytes :=
  prependDigits 10 (by decide) n []

theorem digitValue_digit : ∀ value < 16, digitValue (digit value) = some value := by
  decide

theorem isDigit_digit {base value : Nat} (small : base ≤ 16)
    (inBase : value < base) : isDigit base (digit value) = true := by
  rw [isDigit, digitValue_digit value (by omega)]
  exact decide_eq_true inBase

theorem isDigit_prependDigits {base : Nat} (large : 1 < base)
    (small : base ≤ 16) (n : Nat) {ret : Bytes}
    (digits : ∀ unit ∈ ret, isDigit base unit = true) :
    ∀ unit ∈ prependDigits base large n ret, isDigit base unit = true := by
  induction n, ret using prependDigits.induct base large with
  | case1 n ret last =>
      rw [prependDigits, if_pos last]
      intro unit member
      rcases List.mem_cons.mp member with rfl | member
      · exact isDigit_digit small (Nat.mod_lt n (by omega))
      · exact digits unit member
  | case2 n ret more ih =>
      rw [prependDigits, if_neg more]
      apply ih
      intro unit member
      rcases List.mem_cons.mp member with rfl | member
      · exact isDigit_digit small (Nat.mod_lt n (by omega))
      · exact digits unit member

theorem prependDigits_ne_nil {base : Nat} (large : 1 < base) (n : Nat)
    (ret : Bytes) : prependDigits base large n ret ≠ [] := by
  induction n, ret using prependDigits.induct base large with
  | case1 n ret last =>
      rw [prependDigits, if_pos last]
      exact List.cons_ne_nil _ _
  | case2 n ret more ih =>
      rw [prependDigits, if_neg more]
      exact ih

theorem isDigit_toDecimal (n : Nat) :
    ∀ unit ∈ toDecimal n, isDigit 10 unit = true :=
  isDigit_prependDigits (by decide) (by decide) n
    fun _ member => absurd member List.not_mem_nil

theorem isDigit_fromIToHex (n : Nat) :
    ∀ unit ∈ fromIToHex n, isDigit 16 unit = true :=
  isDigit_prependDigits (by decide) (Nat.le_refl 16) n
    fun _ member => absurd member List.not_mem_nil

/-- The value of the digits, and of those behind them. -/
theorem foldl_prependDigits {base : Nat} (large : 1 < base)
    (small : base ≤ 16) (n : Nat) (ret : Bytes) :
    (prependDigits base large n ret).foldl
        (fun value unit => value * base + (digitValue unit).getD 0) 0 =
      ret.foldl (fun value unit => value * base + (digitValue unit).getD 0)
        n := by
  induction n, ret using prependDigits.induct base large with
  | case1 n ret last =>
      have value := digitValue_digit (n % base)
        (Nat.lt_of_lt_of_le (Nat.mod_lt n (by omega)) small)
      have whole := Nat.div_add_mod n base
      rw [last] at whole
      rw [prependDigits, if_pos last, List.foldl_cons, value]
      congr 1
      simpa using whole
  | case2 n ret more ih =>
      have value := digitValue_digit (n % base)
        (Nat.lt_of_lt_of_le (Nat.mod_lt n (by omega)) small)
      rw [prependDigits, if_neg more, ih, List.foldl_cons, value]
      congr 1
      exact Nat.div_add_mod' n base

theorem digitsValue_prependDigits {base : Nat} (large : 1 < base)
    (small : base ≤ 16) (n : Nat) :
    digitsValue base (prependDigits base large n []) = n :=
  foldl_prependDigits large small n []

theorem exists_digitValue {base : Nat} {unit : UInt8}
    (digits : isDigit base unit = true) :
    ∃ value < base, digitValue unit = some value := by
  unfold isDigit at digits
  split at digits
  next value found => exact ⟨value, of_decide_eq_true digits, found⟩
  next none => cases digits

/-- A digit is no white space, sign, mark of a prefix, line break or null. -/
theorem ne_of_isDigit {base : Nat} (small : base ≤ 16) {unit other : UInt8}
    (digits : isDigit base unit = true)
    (noDigit : ∀ value < 16, digitValue other ≠ some value) :
    unit ≠ other := by
  rintro rfl
  obtain ⟨value, bound, found⟩ := exists_digitValue digits
  exact noDigit value (Nat.lt_of_lt_of_le bound small) found

theorem isspace_of_isDigit {base : Nat} {unit : UInt8}
    (digits : isDigit base unit = true) : isspace unit = false := by
  obtain ⟨value, -, found⟩ := exists_digitValue digits
  have large : 0x30 ≤ unit := by
    unfold digitValue at found
    by_contra below
    have noDigit : ¬ (0x30 ≤ unit ∧ unit ≤ 0x39) := fun both => below both.1
    have noCapital : ¬ (0x41 ≤ unit ∧ unit ≤ 0x5A) := fun both =>
      below (UInt8.le_trans (by decide) both.1)
    have noLetter : ¬ (0x61 ≤ unit ∧ unit ≤ 0x7A) := fun both =>
      below (UInt8.le_trans (by decide) both.1)
    rw [if_neg noDigit, if_neg noCapital, if_neg noLetter] at found
    cases found
  rw [UInt8.le_iff_toNat_le] at large
  have value : unit.toNat ≥ 48 := large
  simp only [isspace, Bool.or_eq_false_iff, Bool.and_eq_false_iff,
    beq_eq_false_iff_ne, decide_eq_false_iff_not, ne_eq]
  constructor
  · rintro rfl
    exact absurd value (by decide)
  · right
    rw [UInt8.le_iff_toNat_le]
    have thirteen : (0x0D : UInt8).toNat = 13 := rfl
    omega

theorem dropHexPrefix_eq {text : Bytes}
    (unmarked : text[1]? ≠ some 0x78 ∧ text[1]? ≠ some 0x58) :
    dropHexPrefix text = text := by
  unfold dropHexPrefix
  split
  next mark unit rest =>
    rw [if_neg]
    rintro ⟨rfl | rfl, -⟩
    · exact unmarked.1 rfl
    · exact unmarked.2 rfl
  next => rfl

/-- A number is found when no further digit or letter follows its digits. -/
theorem parseInteger_append {base : Nat} (small : base ≤ 16)
    {digits rest : Bytes} (nonempty : digits ≠ [])
    (all : ∀ unit ∈ digits, isDigit base unit = true)
    (ends : ∀ unit, rest.head? = some unit → digitValue unit = none) :
    parseInteger base (digits ++ rest) =
      some (digitsValue base digits : Int) := by
  obtain ⟨first, others, rfl⟩ := List.exists_cons_of_ne_nil nonempty
  have firstDigit := all first List.mem_cons_self
  have space := isspace_of_isDigit firstDigit
  have minus : first ≠ 0x2D := ne_of_isDigit small firstDigit (by decide)
  have plus : first ≠ 0x2B := ne_of_isDigit small firstDigit (by decide)
  have taken : (first :: others ++ rest).takeWhile (isDigit base) =
      first :: others := by
    rw [List.takeWhile_append_of_pos all]
    cases rest with
    | nil => simp
    | cons unit rest =>
        have stops : isDigit base unit = false := by
          rw [isDigit, ends unit rfl]
        simp [stops]
  have unprefixed : (if base = 16 then dropHexPrefix (first :: others ++ rest)
      else first :: others ++ rest) = first :: others ++ rest := by
    split
    · apply dropHexPrefix_eq
      cases others with
      | cons second others =>
          have secondDigit := all second (by simp)
          constructor
          · intro same
            exact @ne_of_isDigit base small second 0x78 secondDigit (by decide)
              (Option.some.inj same)
          · intro same
            exact @ne_of_isDigit base small second 0x58 secondDigit (by decide)
              (Option.some.inj same)
      | nil =>
          cases rest with
          | nil => exact ⟨nofun, nofun⟩
          | cons unit rest =>
              have none := ends unit rfl
              constructor
              · intro same
                rw [Option.some.inj same] at none
                exact absurd none (by decide)
              · intro same
                rw [Option.some.inj same] at none
                exact absurd none (by decide)
    · rfl
  unfold parseInteger
  rw [List.cons_append, List.dropWhile_cons_of_neg (by simp [space])]
  simp only [List.head?_cons, Option.some_beq_some, beq_eq_false_iff_ne.mpr minus,
    beq_eq_false_iff_ne.mpr plus, Bool.or_false, Bool.false_eq_true, if_false]
  rw [← List.cons_append, unprefixed, taken, if_neg nonempty]

/-- A text without a null and a line break. -/
def Printable (text : Bytes) : Prop :=
  ∀ unit ∈ text, unit ≠ 0 ∧ isLineBreak unit = false

theorem printable_of_all {text : Bytes}
    (all : text.all (fun unit => unit != 0 && !isLineBreak unit) = true) :
    Printable text := by
  intro unit member
  have both := List.all_eq_true.mp all unit member
  rw [Bool.and_eq_true, bne_iff_ne, Bool.not_eq_true'] at both
  exact both

theorem untilNull_eq {text : Bytes} (terminated : ∀ unit ∈ text, unit ≠ 0) :
    untilNull text = text := by
  apply List.takeWhile_eq_self_iff.mpr
  intro unit member
  exact decide_eq_true (terminated unit member)

theorem Printable.untilNull {text : Bytes} (printable : Printable text) :
    untilNull text = text :=
  untilNull_eq fun unit member => (printable unit member).1

theorem Printable.append {first second : Bytes}
    (printable : Printable first) (printableToo : Printable second) :
    Printable (first ++ second) := by
  intro unit member
  rcases List.mem_append.mp member with member | member
  · exact printable unit member
  · exact printableToo unit member

theorem Printable.newline_not_mem {text : Bytes}
    (printable : Printable text) : newline ∉ text := by
  intro member
  have noBreak := (printable newline member).2
  cases noBreak

/-- The line of a printable text shows the text and its end. -/
theorem Printable.untilNull_line {text : Bytes}
    (printable : Printable text) :
    ResponseReader.untilNull (text ++ crlf) = text ++ crlf := by
  apply untilNull_eq
  intro unit member
  rcases List.mem_append.mp member with member | member
  · exact (printable unit member).1
  · rintro rfl
    exact absurd member (by decide)

theorem Printable.takeLine {text : Bytes} (printable : Printable text)
    (closes : Bool) (rest : Bytes) :
    ResponseReader.takeLine closes (text ++ crlf ++ rest) =
      .ok (text ++ crlf, rest) := by
  have whole : newline ∉ text ++ [0x0D] := by
    intro member
    rcases List.mem_append.mp member with member | member
    · exact printable.newline_not_mem member
    · exact absurd member (by decide)
  have taken := @takeLine_of_mem closes (text ++ [0x0D]) rest whole
  simpa [crlf, newline] using taken

theorem takeLine_crlf (closes : Bool) (rest : Bytes) :
    takeLine closes (crlf ++ rest) = .ok (crlf, rest) :=
  @Printable.takeLine [] (fun _ member =>
    absurd member List.not_mem_nil) closes rest

theorem printable_of_isDigit {base : Nat} (small : base ≤ 16) {text : Bytes}
    (digits : ∀ unit ∈ text, isDigit base unit = true) : Printable text := by
  intro unit member
  have isDigit := digits unit member
  have null : unit ≠ 0 := ne_of_isDigit small isDigit (by decide)
  have feed : unit ≠ 0x0A := ne_of_isDigit small isDigit (by decide)
  have carriage : unit ≠ 0x0D := ne_of_isDigit small isDigit (by decide)
  refine ⟨null, ?_⟩
  simp [isLineBreak, feed, carriage]

/-- `std::stoi` on digits with something else behind them. -/
theorem stoi_append {base : Nat} (small : base ≤ 16) {digits rest : Bytes}
    (nonempty : digits ≠ [])
    (all : ∀ unit ∈ digits, isDigit base unit = true)
    (terminated : ∀ unit ∈ rest, unit ≠ 0)
    (ends : ∀ unit, rest.head? = some unit → digitValue unit = none) :
    stoi base (digits ++ rest) =
      if 2147483647 < digitsValue base digits then .error .outOfRange
      else .ok (digitsValue base digits : Int) := by
  have printable := printable_of_isDigit small all
  have shown : untilNull (digits ++ rest) = digits ++ rest := by
    apply untilNull_eq
    intro unit member
    rcases List.mem_append.mp member with member | member
    · exact (printable unit member).1
    · exact terminated unit member
  rw [stoi, shown, parseInteger_append small nonempty all ends]
  dsimp only
  by_cases exceeds : 2147483647 < digitsValue base digits
  · rw [if_pos (.inr (by omega)), if_pos exceeds]
  · rw [if_neg (by omega), if_neg exceeds]

/-- `std::stoi` reads back a number that fits into a `long`. -/
theorem stoi_prependDigits {base : Nat} (large : 1 < base)
    (small : base ≤ 16) (n : Nat) {rest : Bytes}
    (terminated : ∀ unit ∈ rest, unit ≠ 0)
    (ends : ∀ unit, rest.head? = some unit → digitValue unit = none) :
    stoi base (prependDigits base large n [] ++ rest) =
      if 2147483647 < n then .error .outOfRange else .ok (n : Int) := by
  have digits := isDigit_prependDigits large small n
    (fun unit (member : unit ∈ []) => absurd member List.not_mem_nil)
  rw [stoi_append small (prependDigits_ne_nil large n []) digits terminated
    ends, digitsValue_prependDigits large small]

/-- `strtoull` reads back a number of 64 bits. -/
theorem strtoull_toDecimal {n : Nat} (fits : n ≤ ullongMax) :
    strtoull (toDecimal n) = n := by
  have digits := isDigit_toDecimal n
  have printable := printable_of_isDigit (show 10 ≤ 16 by decide) digits
  have parsed := @parseInteger_append 10 (by decide) _ []
    (prependDigits_ne_nil (show 1 < 10 by decide) n []) digits nofun
  rw [List.append_nil, digitsValue_prependDigits _ (by decide)] at parsed
  have value : strtoull (toDecimal n) =
      if ullongMax < (n : Int).natAbs then ullongMax
      else if (n : Int) < 0 then ullongMax + 1 - (n : Int).natAbs
      else (n : Int).natAbs := by
    rw [strtoull, printable.untilNull, toDecimal, parsed]
  rw [value, Int.natAbs_natCast, if_neg (Nat.not_lt.mpr fits),
    if_neg (by omega)]

/-- A header as `write_headers` writes it. -/
def formatField (key value : Bytes) : Bytes :=
  untilNull key ++ ascii [':', ' '] ++ untilNull value ++ crlf

/-- `write_headers`. -/
def writeHeaders (headers : Headers) : Bytes :=
  headers.entries.flatMap (fun header => formatField header.1 header.2) ++ crlf

/-- A header that a line can hold: no colon but at the start of its key, and a
value that does not start or end with a blank. -/
structure PlainField (header : Bytes × Bytes) : Prop where
  key : header.1 ≠ []
  colon : 0x3A ∉ header.1.tail
  printableKey : Printable header.1
  value : header.2 ≠ []
  printableValue : Printable header.2
  start : ∀ unit, header.2.head? = some unit → isBlank unit = false
  stop : ∀ unit, header.2.getLast? = some unit → isBlank unit = false

/-- A test for such headers. -/
def isPlainField (header : Bytes × Bytes) : Bool :=
  header.1 != [] && !header.1.tail.contains 0x3A &&
    header.1.all (fun unit => unit != 0 && !isLineBreak unit) &&
    header.2 != [] &&
    header.2.all (fun unit => unit != 0 && !isLineBreak unit) &&
    header.2.head?.all (fun unit => !isBlank unit) &&
    header.2.getLast?.all (fun unit => !isBlank unit)

theorem plainField_of_test {header : Bytes × Bytes}
    (test : isPlainField header = true) : PlainField header := by
  unfold isPlainField at test
  simp only [Bool.and_eq_true, bne_iff_ne, Bool.not_eq_true',
    Option.all_eq_true] at test
  obtain ⟨⟨⟨⟨⟨⟨key, colon⟩, printableKey⟩, value⟩, printableValue⟩, start⟩,
    stop⟩ := test
  refine ⟨key, ?_, printable_of_all printableKey, value,
    printable_of_all printableValue, start, stop⟩
  intro member
  rw [List.contains_iff_mem.mpr member] at colon
  cases colon

theorem matchValue_blank {value : Bytes} (nonempty : value ≠ [])
    (printable : Printable value)
    (start : ∀ unit, value.head? = some unit → isBlank unit = false) :
    matchValue (0x20 :: value) = some value := by
  obtain ⟨first, rest, rfl⟩ := List.exists_cons_of_ne_nil nonempty
  have dropped : (0x20 :: first :: rest).dropWhile isBlank = first :: rest := by
    rw [List.dropWhile_cons_of_pos (by decide),
      List.dropWhile_cons_of_neg (by simp [start first rfl])]
  have all : (first :: rest).all (fun unit => !isLineBreak unit) = true := by
    apply List.all_eq_true.mpr
    intro unit member
    rw [(printable unit member).2]
    rfl
  rw [matchValue, dropped, if_neg nonempty, if_pos ⟨nonempty, all⟩]

theorem matchFieldFrom_append {front : Bytes} (started : front ≠ [])
    {key : Bytes} (colon : 0x3A ∉ key) (printable : Printable key)
    {rest value : Bytes} (found : matchValue rest = some value) :
    matchFieldFrom front (key ++ 0x3A :: rest) =
      some (front ++ key, value) := by
  induction key generalizing front with
  | nil =>
      rw [List.nil_append, matchFieldFrom, if_pos ⟨started, rfl⟩, found,
        List.append_nil]
  | cons unit key ih =>
      have noColon : unit ≠ 0x3A := by
        rintro rfl
        exact colon List.mem_cons_self
      have noBreak := (printable unit List.mem_cons_self).2
      rw [List.cons_append, matchFieldFrom, if_neg (fun both => noColon both.2)]
      simp only [noBreak, Bool.false_eq_true, if_false]
      rw [ih (by simp) (fun member => colon (List.mem_cons_of_mem _ member))
        (fun other member => printable other (List.mem_cons_of_mem _ member)),
        List.append_assoc]
      rfl

theorem PlainField.match {header : Bytes × Bytes}
    (plain : PlainField header) :
    matchFieldFrom [] (header.1 ++ ascii [':', ' '] ++ header.2) =
      some header := by
  obtain ⟨key, value⟩ := header
  obtain ⟨nonempty, colon, printable, valueNonempty, printableValue, start,
    -⟩ := plain
  obtain ⟨first, rest, rfl⟩ := List.exists_cons_of_ne_nil nonempty
  have found := matchValue_blank valueNonempty printableValue start
  have noBreak := (printable first List.mem_cons_self).2
  have behind := @matchFieldFrom_append [first] (by simp) rest colon
    (fun other member => printable other (List.mem_cons_of_mem _ member))
    _ _ found
  have text : first :: rest ++ ascii [':', ' '] ++ value =
      first :: (rest ++ 0x3A :: 0x20 :: value) := by
    simp [ascii]
  rw [text, matchFieldFrom, if_neg (fun both => both.1 rfl)]
  simp only [noBreak, Bool.false_eq_true, if_false]
  exact behind

theorem endWithCrlf_append (text : Bytes) :
    endWithCrlf (text ++ crlf) = true := by
  have length : (text ++ crlf).length - 2 = text.length := by
    rw [List.length_append]
    rfl
  rw [endWithCrlf, length, List.drop_left]
  simp [crlf]

theorem take_append_crlf (text : Bytes) :
    (text ++ crlf).take ((text ++ crlf).length - 2) = text := by
  have length : (text ++ crlf).length - 2 = text.length := by
    rw [List.length_append]
    rfl
  rw [length, List.take_left]

theorem PlainField.trimmed {header : Bytes × Bytes}
    (plain : PlainField header) (front : Bytes) :
    (front ++ header.2).rdropWhile isBlank = front ++ header.2 := by
  apply List.rdropWhile_eq_self_iff.mpr
  intro nonempty
  have last : (front ++ header.2).getLast nonempty =
      header.2.getLast plain.value := List.getLast_append_of_ne_nil _ _
  rw [last, plain.stop _ (List.getLast?_eq_some_getLast plain.value)]
  exact Bool.false_ne_true

/-- The line of a header. -/
theorem PlainField.headerLine {header : Bytes × Bytes}
    (plain : PlainField header) (headers : Headers) :
    ResponseReader.headerLine headers
        (header.1 ++ ascii [':', ' '] ++ header.2 ++ crlf) =
      some (headers.emplace header.1 header.2) := by
  have key := List.length_pos_of_ne_nil plain.key
  have long : ¬ (header.1 ++ ascii [':', ' '] ++ header.2 ++ crlf).length =
      2 := by
    simp only [List.length_append]
    have ends : crlf.length = 2 := rfl
    omega
  rw [ResponseReader.headerLine, if_pos (endWithCrlf_append _), if_neg long]
  dsimp only
  rw [take_append_crlf, plain.trimmed, plain.match]

theorem PlainField.printable {header : Bytes × Bytes}
    (plain : PlainField header) :
    Printable (header.1 ++ ascii [':', ' '] ++ header.2) := by
  apply Printable.append _ plain.printableValue
  apply plain.printableKey.append
  intro unit member
  have separator : unit = 0x3A ∨ unit = 0x20 := by
    simpa [ascii] using member
  rcases separator with rfl | rfl
  · exact ⟨by decide, rfl⟩
  · exact ⟨by decide, rfl⟩

/-- The parser puts a written header into the multimap. -/
theorem PlainField.parseHeaders {header : Bytes × Bytes}
    (plain : PlainField header) (closes : Bool) (headers : Headers)
    (rest : Bytes) :
    ResponseReader.parseHeaders closes headers
        (formatField header.1 header.2 ++ rest) =
      ResponseReader.parseHeaders closes
        (headers.emplace header.1 header.2) rest := by
  have taken := plain.printable.takeLine closes rest
  rw [formatField, plain.printableKey.untilNull,
    plain.printableValue.untilNull, parseHeaders_of_takeLine headers taken,
    plain.headerLine]

theorem headerLine_crlf (headers : Headers) :
    headerLine headers crlf = none :=
  rfl

theorem parseHeaders_crlf (closes : Bool) (headers : Headers)
    (rest : Bytes) :
    parseHeaders closes headers (crlf ++ rest) = .ok (headers, rest) := by
  rw [parseHeaders_of_takeLine headers (takeLine_crlf closes rest),
    headerLine_crlf]

theorem parseHeaders_flatMap (closes : Bool) {entries : List (Bytes × Bytes)}
    (plain : ∀ header ∈ entries, PlainField header) (headers : Headers)
    (rest : Bytes) :
    parseHeaders closes headers
        (entries.flatMap (fun header => formatField header.1 header.2) ++
          crlf ++ rest) =
      .ok (entries.foldl
        (fun map header => map.emplace header.1 header.2) headers, rest) := by
  induction entries generalizing headers with
  | nil => exact parseHeaders_crlf closes headers rest
  | cons header entries ih =>
      have first := plain header List.mem_cons_self
      rw [List.flatMap_cons, List.append_assoc, List.append_assoc,
        first.parseHeaders, ← List.append_assoc, List.foldl_cons]
      exact ih (fun other member =>
        plain other (List.mem_cons_of_mem _ member)) _

/-- The headers that a server writes are those that the client reads, in the
same order. -/
theorem parseHeaders_writeHeaders (closes : Bool) {headers : Headers}
    (plain : ∀ header ∈ headers.entries, PlainField header) (rest : Bytes) :
    parseHeaders closes .empty (writeHeaders headers ++ rest) =
      .ok (headers, rest) := by
  rw [writeHeaders, parseHeaders_flatMap closes plain]
  exact congrArg (fun map => Except.ok (map, rest)) headers.ofEntries_entries

/-- A chunk as `write_content_chunked` writes it. -/
def formatChunk (chunk : Bytes) : Bytes :=
  fromIToHex chunk.length ++ crlf ++ chunk ++ crlf

/-- `write_content_chunked`.  An empty chunk is its own terminator. -/
def writeContentChunked : List Bytes → Bytes
  | [] => ascii ['0'] ++ crlf ++ crlf
  | chunk :: rest =>
      if chunk = [] then formatChunk chunk
      else formatChunk chunk ++ writeContentChunked rest

/-- The chunks that are written. -/
def sentChunks (chunks : List Bytes) : List Bytes :=
  chunks.takeWhile (· ≠ [])

theorem printable_fromIToHex (n : Nat) : Printable (fromIToHex n) :=
  printable_of_isDigit (Nat.le_refl 16) (isDigit_fromIToHex n)

theorem takeLine_fromIToHex (closes : Bool) (n : Nat) (rest : Bytes) :
    takeLine closes (fromIToHex n ++ crlf ++ rest) =
      .ok (fromIToHex n ++ crlf, rest) :=
  (printable_fromIToHex n).takeLine closes rest

/-- The length of a chunk is read back if it fits into an `int`. -/
theorem readStoi_fromIToHex (n : Nat) :
    readStoi 16 (fromIToHex n ++ crlf) =
      if 2147483647 < n then .error (.throws .outOfRange)
      else .ok (n : Int) := by
  have terminated : ∀ unit ∈ crlf, unit ≠ 0 := by
    simp [crlf]
  have ends : ∀ unit, crlf.head? = some unit → digitValue unit = none := by
    intro unit first
    rw [← Option.some.inj first]
    decide
  have number := @stoi_prependDigits 16 (by decide) (Nat.le_refl 16) n crlf
    terminated ends
  rw [readStoi, fromIToHex, number]
  split <;> rfl

theorem parseChunked_fromIToHex (closes : Bool) (n : Nat) (bytes : Bytes) :
    parseChunked closes (fromIToHex n ++ crlf ++ bytes) =
      if 2147483647 < n then .error (.throws .outOfRange)
      else parseChunks closes (n : Int) bytes := by
  rw [parseChunked, takeLine_fromIToHex]
  simp only [bind, Except.bind]
  rw [readStoi_fromIToHex]
  by_cases large : 2147483647 < n
  · rw [if_pos large, if_pos large]
  · rw [if_neg large, if_neg large]

/-- Behind a chunk and its line the parser goes on as from the start. -/
theorem parseChunks_append (closes : Bool) {chunk : Bytes}
    (nonempty : chunk ≠ []) (bytes : Bytes) :
    parseChunks closes (chunk.length : Int) (chunk ++ (crlf ++ bytes)) =
      prepend chunk (parseChunked closes bytes) := by
  have positive := List.length_pos_of_ne_nil nonempty
  have terminated : untilNull crlf = crlf := by decide
  rw [parseChunks_of_pos closes (by omega), Int.toNat_natCast, parseChunk,
    takeContent_append, parseChunked]
  simp only [bind, Except.bind]
  rw [takeLine_crlf]
  simp only [terminated, ne_eq, not_true_eq_false, if_false]
  cases takeLine closes bytes with
  | error failure => rfl
  | ok line =>
      dsimp only
      cases readStoi 16 line.1 with
      | error failure => rfl
      | ok next => rfl

theorem fromIToHex_zero : fromIToHex 0 = ascii ['0'] := by
  rw [fromIToHex, prependDigits]
  decide

theorem parseChunked_terminator (closes : Bool) (rest : Bytes) :
    parseChunked closes (ascii ['0'] ++ crlf ++ (crlf ++ rest)) =
      .ok ([], rest) := by
  have terminated : untilNull crlf = crlf := by decide
  rw [← fromIToHex_zero, parseChunked_fromIToHex, if_neg (by decide),
    Int.ofNat_zero, parseChunks_zero, takeLine_crlf]
  simp only [bind, Except.bind, terminated, if_true]
  rfl

/-- The client reads back the chunks that a server writes, up to the first empty
one, and no byte of what follows them; but the length of a chunk of two
gibibytes or more throws an exception. -/
theorem parseChunked_writeContentChunked (closes : Bool)
    (chunks : List Bytes) (rest : Bytes) :
    parseChunked closes (writeContentChunked chunks ++ rest) =
      if ∀ chunk ∈ sentChunks chunks, chunk.length ≤ 2147483647 then
        .ok ((sentChunks chunks).flatten, rest)
      else .error (.throws .outOfRange) := by
  induction chunks with
  | nil =>
      have small : ∀ chunk ∈ sentChunks [], chunk.length ≤ 2147483647 :=
        fun chunk member => absurd member List.not_mem_nil
      rw [writeContentChunked, List.append_assoc, parseChunked_terminator,
        if_pos small]
      rfl
  | cons chunk chunks ih =>
      by_cases empty : chunk = []
      · subst empty
        have small :
            ∀ chunk ∈ sentChunks ([] :: chunks), chunk.length ≤ 2147483647 :=
          fun chunk member => absurd member List.not_mem_nil
        rw [writeContentChunked, if_pos rfl, formatChunk,
          List.length_nil, fromIToHex_zero, List.append_nil,
          List.append_assoc, parseChunked_terminator, if_pos small]
        rfl
      · have sent : sentChunks (chunk :: chunks) =
            chunk :: sentChunks chunks :=
          List.takeWhile_cons_of_pos (by simpa using empty)
        have text : formatChunk chunk ++ writeContentChunked chunks ++ rest =
            fromIToHex chunk.length ++ crlf ++ (chunk ++ (crlf ++
              (writeContentChunked chunks ++ rest))) := by
          simp only [formatChunk, List.append_assoc]
        rw [writeContentChunked, if_neg empty, text, parseChunked_fromIToHex,
          parseChunks_append closes empty, ih, sent]
        by_cases small : chunk.length ≤ 2147483647
        · rw [if_neg (Nat.not_lt.mpr small)]
          by_cases others :
              ∀ chunk ∈ sentChunks chunks, chunk.length ≤ 2147483647
          · rw [if_pos others, if_pos]
            · rfl
            · intro other member
              rcases List.mem_cons.mp member with rfl | member
              · exact small
              · exact others other member
          · rw [if_neg others, if_neg]
            · rfl
            · intro all
              exact others fun other member =>
                all other (List.mem_cons_of_mem _ member)
        · rw [if_pos (Nat.lt_of_not_le small), if_neg]
          intro all
          exact small (all chunk List.mem_cons_self)

/-- The version that the server writes. -/
def serverVersion : Bytes :=
  ascii ['H', 'T', 'T', 'P', '/', '1', '.', '1']

/-- The status line of `write_response`. -/
def writeResponseLine (status : Nat) (reason : Bytes) : Bytes :=
  serverVersion ++ ascii [' '] ++ toDecimal status ++ ascii [' '] ++ reason ++
    crlf

theorem matchStatus_toDecimal (status : Nat) {reason : Bytes}
    (printable : Printable reason) :
    matchStatus (toDecimal status ++ 0x20 :: (reason ++ crlf)) =
      some (toDecimal status) := by
  have digits := isDigit_toDecimal status
  have nonempty : toDecimal status ≠ [] :=
    prependDigits_ne_nil (by decide) status []
  have taken : (toDecimal status ++ 0x20 :: (reason ++ crlf)).takeWhile
      (isDigit 10) = toDecimal status := by
    rw [List.takeWhile_append_of_pos digits,
      List.takeWhile_cons_of_neg (by decide), List.append_nil]
  have all : reason.all (fun unit => !isLineBreak unit) = true := by
    apply List.all_eq_true.mpr
    intro unit member
    rw [(printable unit member).2]
    rfl
  rw [matchStatus, taken, List.drop_left]
  rw [if_pos]
  refine ⟨nonempty, rfl, endWithCrlf_append reason, ?_⟩
  rw [List.tail_cons, take_append_crlf]
  exact all

theorem matchResponseLine_serverVersion {text digits : Bytes}
    (found : matchStatus text = some digits) :
    matchResponseLine (serverVersion ++ 0x20 :: text) =
      some (serverVersion, digits) := by
  have version : (serverVersion ++ 0x20 :: text).take 8 = serverVersion := rfl
  have space : (serverVersion ++ 0x20 :: text).drop 8 = 0x20 :: text := rfl
  have rest : (serverVersion ++ 0x20 :: text).drop 9 = text := rfl
  rw [matchResponseLine, version, space, rest, found, if_pos ⟨.inr rfl, rfl⟩]
  rfl

/-- The status line is read back; a status of more than 31 bits throws an
exception. -/
theorem parseResponseLine_write (closes : Bool) (response : Response)
    (status : Nat) {reason : Bytes} (printable : Printable reason)
    (rest : Bytes) :
    parseResponseLine closes response
        (writeResponseLine status reason ++ rest) =
      if 2147483647 < status then .error (.throws .outOfRange)
      else .ok
        ({ response with version := serverVersion, status := status },
          rest) := by
  have digits := isDigit_toDecimal status
  have text : writeResponseLine status reason =
      serverVersion ++ 0x20 :: (toDecimal status ++ 0x20 :: reason) ++
        crlf := by
    simp [writeResponseLine, ascii]
  have printableText : Printable
      (serverVersion ++ 0x20 :: (toDecimal status ++ 0x20 :: reason)) := by
    apply Printable.append
    · exact printable_of_all (by decide)
    · have space : Printable [0x20] := printable_of_all (by decide)
      exact space.append ((printable_of_isDigit (by decide) digits).append
        (space.append printable))
  have matched : matchResponseLine
      (serverVersion ++ 0x20 :: (toDecimal status ++ 0x20 :: reason) ++
        crlf) = some (serverVersion, toDecimal status) := by
    have found := matchResponseLine_serverVersion
      (matchStatus_toDecimal status printable)
    simpa using found
  have number := @stoi_prependDigits 10 (by decide) (by decide) status []
    (fun _ member => absurd member List.not_mem_nil) nofun
  rw [List.append_nil] at number
  rw [parseResponseLine, text, printableText.takeLine]
  simp only [bind, Except.bind]
  rw [printableText.untilNull_line, matched]
  dsimp only
  rw [readStoi, toDecimal, number]
  by_cases large : 2147483647 < status
  · rw [if_pos large, if_pos large]
    rfl
  · rw [if_neg large, if_neg large]
    rfl

/-- The head of a response. -/
def writeHead (status : Nat) (reason : Bytes) (headers : Headers) : Bytes :=
  writeResponseLine status reason ++ writeHeaders headers

/-- A head that a server can write. -/
structure PlainHead (status : Nat) (reason : Bytes) (headers : Headers) :
    Prop where
  status : status ≤ 2147483647
  reason : Printable reason
  headers : ∀ header ∈ headers.entries, PlainField header

/-- Behind the head of a response the parser goes on with its body. -/
theorem parseResponse_writeHead (closes : Bool) {method : Bytes}
    (hasBody : method ≠ headMethod ∧ method ≠ connectMethod) {status : Nat}
    {reason : Bytes} {headers : Headers}
    (plain : PlainHead status reason headers) (content : Bytes) :
    parseResponse closes method
        (writeHead status reason headers ++ content) =
      (parseContent closes headers content).map fun parsed =>
        (⟨serverVersion, status, headers, parsed.1⟩, parsed.2) := by
  rw [parseResponse, writeHead, List.append_assoc,
    parseResponseLine_write closes .new status plain.reason,
    if_neg (Nat.not_lt.mpr plain.status)]
  simp only [bind, Except.bind]
  have parsed := parseHeaders_writeHeaders closes plain.headers content
  rw [Response.new, parsed]
  dsimp only
  rw [if_pos hasBody]
  cases parseContent closes headers content with
  | error failure => rfl
  | ok body => rfl

/-- The ways to say where a body ends, with what is written for it, and whether
the connection must be closed behind it. -/
inductive Framed (headers : Headers) (body : Bytes) : Bytes → Bool → Prop
  | sized (key : Bytes)
      (whole : isChunkedTransferEncoding headers = false)
      (found : headers.find? contentLength =
        some (key, toDecimal body.length))
      (fits : body.length ≤ ullongMax) : Framed headers body body false
  | chunked (chunks : List Bytes)
      (pieces : isChunkedTransferEncoding headers = true)
      (sent : (sentChunks chunks).flatten = body)
      (fits : ∀ chunk ∈ sentChunks chunks, chunk.length ≤ 2147483647) :
      Framed headers body (writeContentChunked chunks) false
  | closing (whole : isChunkedTransferEncoding headers = false)
      (missing : hasHeader headers contentLength = false) :
      Framed headers body body true

theorem parseContent_framed {headers : Headers} {body content rest : Bytes}
    {closing closes : Bool}
    (plain : getHeaderValue headers contentEncoding [] ≠
      ascii ['g', 'z', 'i', 'p'])
    (framed : Framed headers body content closing)
    (ends : closing = true → closes = true ∧ rest = []) :
    parseContent closes headers (content ++ rest) = .ok (body, rest) := by
  rw [parseContent, if_neg plain]
  cases framed with
  | sized key whole found fits =>
      have length : getHeaderValueUint64 headers contentLength 0 =
          body.length := by
        rw [getHeaderValueUint64, found]
        exact strtoull_toDecimal fits
      have present : ¬ (!hasHeader headers contentLength) = true := by
        rw [hasHeader, found]
        exact Bool.false_ne_true
      rw [whole, if_neg Bool.false_ne_true, if_neg present, length,
        takeContent_append]
  | chunked chunks pieces sent fits =>
      rw [pieces, if_pos rfl, parseChunked_writeContentChunked, if_pos fits,
        sent]
  | closing whole missing =>
      obtain ⟨closed, none⟩ := ends rfl
      rw [whole, missing, if_neg Bool.false_ne_true, Bool.not_false,
        if_pos rfl, none, List.append_nil, takeRest, closed, if_pos rfl]

/-- A response that a server writes with its body framed in one of the three
ways is read back by the parser, and no byte of what follows it. -/
theorem parseResponse_written {closes closing : Bool} {method : Bytes}
    (hasBody : method ≠ headMethod ∧ method ≠ connectMethod) {status : Nat}
    {reason body content rest : Bytes} {headers : Headers}
    (head : PlainHead status reason headers)
    (plain : getHeaderValue headers contentEncoding [] ≠
      ascii ['g', 'z', 'i', 'p'])
    (framed : Framed headers body content closing)
    (ends : closing = true → closes = true ∧ rest = []) :
    parseResponse closes method
        (writeHead status reason headers ++ (content ++ rest)) =
      .ok (⟨serverVersion, status, headers, body⟩, rest) := by
  rw [parseResponse_writeHead closes hasBody head,
    parseContent_framed plain framed ends]
  rfl

/-- What a server writes, delivered in any pieces, is what the client returns:
the status, all headers in their order, and the whole body, also when further
bytes follow, unless the end of the body is that of the connection. -/
theorem receiveResponse_written {closes closing : Bool} {method : Bytes}
    (hasBody : method ≠ headMethod ∧ method ≠ connectMethod) {status : Nat}
    {reason body content rest : Bytes} {headers : Headers}
    (head : PlainHead status reason headers)
    (plain : getHeaderValue headers contentEncoding [] ≠
      ascii ['g', 'z', 'i', 'p'])
    (framed : Framed headers body content closing)
    (ends : closing = true → closes = true ∧ rest = [])
    (cuts : Nat → Nat) (reads : Nat) {fuel : Nat}
    (enough : (writeHead status reason headers ++
      (content ++ rest)).length < fuel) :
    (receiveResponse fuel method
        ⟨writeHead status reason headers ++ (content ++ rest), cuts, reads,
          closes⟩).map Prod.fst =
      .ok ⟨serverVersion, status, headers, body⟩ := by
  have follows := @receiveResponse_follows
    ⟨writeHead status reason headers ++ (content ++ rest), cuts, reads,
      closes⟩ fuel enough method
  rw [map_fst_eq_of_follows follows,
    parseResponse_written hasBody head plain framed ends]
  rfl

/-- A header that says that the body has one byte. -/
def letterHeaders : Headers :=
  .ofEntries [(contentLength, ascii ['1'])]

theorem toDecimal_one : toDecimal 1 = ascii ['1'] := by
  rw [toDecimal, prependDigits]
  decide

theorem letterHeaders_plain :
    PlainHead 200 (ascii ['O', 'K']) letterHeaders := by
  refine ⟨by decide, printable_of_all (by decide), ?_⟩
  intro header member
  have same : header = (contentLength, ascii ['1']) := by
    simpa [letterHeaders, SortedMultimap.ofEntries, SortedMultimap.emplace,
      SortedMultimap.empty, SortedMultimap.insertEntry] using member
  rw [same]
  exact plainField_of_test (by decide)

theorem letterHeaders_find :
    letterHeaders.find? contentLength =
      some (contentLength, toDecimal (ascii ['a']).length) := by
  rw [show (ascii ['a']).length = 1 from rfl, toDecimal_one]
  decide

theorem receiveResponse_letter :
    ∃ fuel, (receiveResponse fuel (ascii ['G', 'E', 'T'])
        ⟨writeHead 200 (ascii ['O', 'K']) letterHeaders ++
          (ascii ['a'] ++ ascii ['b']), fun _ => 2, 0, false⟩).map Prod.fst =
      .ok ⟨serverVersion, 200, letterHeaders, ascii ['a']⟩ := by
  have framed : Framed letterHeaders (ascii ['a']) (ascii ['a']) false :=
    .sized contentLength (by decide) letterHeaders_find (by decide)
  exact ⟨_, receiveResponse_written (by decide) letterHeaders_plain
    (by decide) framed nofun (fun _ => 2) 0 (Nat.lt_succ_self _)⟩

end ResponseReader

end IISModuleJS
