import Mathlib.Data.List.Basic
import Mathlib.Data.List.Flatten

/-!
# UTF-16, UTF-8 and Latin-1

A text is a list of UTF-16 code units and may contain unpaired surrogates.
This file converts texts to UTF-8 and back, and reads octets as Latin-1.  The
decoder takes one octet at a time and answers an ill-formed sequence with the
replacement character.

Well-formed texts survive the way through UTF-8.  Reading the UTF-8 form of a
text as Latin-1 gives the text back only if it is ASCII, because every other
character takes more octets than code units.
-/

namespace IISModuleJS

namespace TextEncoding

def IsHigh (unit : UInt16) : Prop :=
  0xD800 ≤ unit.toNat ∧ unit.toNat < 0xDC00

instance (unit : UInt16) : Decidable (IsHigh unit) :=
  inferInstanceAs (Decidable (_ ∧ _))

def IsLow (unit : UInt16) : Prop :=
  0xDC00 ≤ unit.toNat ∧ unit.toNat < 0xE000

instance (unit : UInt16) : Decidable (IsLow unit) :=
  inferInstanceAs (Decidable (_ ∧ _))

/-- The code point of a surrogate pair. -/
def pairValue (high low : UInt16) : Nat :=
  0x10000 + (high.toNat - 0xD800) * 0x400 + (low.toNat - 0xDC00)

/-- The code points of a text.  An unpaired surrogate stands for itself. -/
def codePoints : List UInt16 → List Nat
  | [] => []
  | [unit] => [unit.toNat]
  | first :: second :: rest =>
      if IsHigh first ∧ IsLow second then
        pairValue first second :: codePoints rest
      else
        first.toNat :: codePoints (second :: rest)

/-- The code units of a code point. -/
def toUnits (codePoint : Nat) : List UInt16 :=
  if codePoint < 0x10000 then
    [UInt16.ofNat codePoint]
  else
    [UInt16.ofNat (0xD800 + (codePoint - 0x10000) / 0x400),
      UInt16.ofNat (0xDC00 + (codePoint - 0x10000) % 0x400)]

/-- A text without unpaired surrogates. -/
def WellFormed : List UInt16 → Prop
  | [] => True
  | [unit] => ¬ IsHigh unit ∧ ¬ IsLow unit
  | first :: second :: rest =>
      if IsHigh first ∧ IsLow second then
        WellFormed rest
      else
        ¬ IsHigh first ∧ ¬ IsLow first ∧ WellFormed (second :: rest)

/-- The octets of a code point. -/
def encodeCodePoint (codePoint : Nat) : List UInt8 :=
  if codePoint < 0x80 then
    [UInt8.ofNat codePoint]
  else if codePoint < 0x800 then
    [UInt8.ofNat (0xC0 + codePoint / 0x40),
      UInt8.ofNat (0x80 + codePoint % 0x40)]
  else if codePoint < 0x10000 then
    [UInt8.ofNat (0xE0 + codePoint / 0x1000),
      UInt8.ofNat (0x80 + codePoint / 0x40 % 0x40),
      UInt8.ofNat (0x80 + codePoint % 0x40)]
  else
    [UInt8.ofNat (0xF0 + codePoint / 0x40000),
      UInt8.ofNat (0x80 + codePoint / 0x1000 % 0x40),
      UInt8.ofNat (0x80 + codePoint / 0x40 % 0x40),
      UInt8.ofNat (0x80 + codePoint % 0x40)]

def encodeUtf8 (text : List UInt16) : List UInt8 :=
  (codePoints text).flatMap encodeCodePoint

/-- U+FFFD. -/
def replacement : Nat := 0xFFFD

/-- The state of the decoder between two octets: at the start of a character,
or inside one.  Inside, `value` is what was read of the code point, and the
next octet has to lie between the bounds and is followed by `remaining` more
octets. -/
inductive Decoder
  | start
  | inside (remaining value lower upper : Nat)
  deriving DecidableEq

/-- The first octet of a character. -/
def decodeFirst (octet : Nat) : List Nat × Decoder :=
  if octet < 0x80 then
    ([octet], .start)
  else if octet < 0xC2 then
    ([replacement], .start)
  else if octet < 0xE0 then
    ([], .inside 0 (octet - 0xC0) 0x80 0xC0)
  else if octet < 0xF0 then
    ([], .inside 1 (octet - 0xE0) (if octet = 0xE0 then 0xA0 else 0x80)
      (if octet = 0xED then 0xA0 else 0xC0))
  else if octet < 0xF5 then
    ([], .inside 2 (octet - 0xF0) (if octet = 0xF0 then 0x90 else 0x80)
      (if octet = 0xF4 then 0x90 else 0xC0))
  else
    ([replacement], .start)

/-- One octet.  An octet that cannot continue a character ends it with a
replacement character and is read again as a first octet. -/
def decodeOctet : Decoder → Nat → List Nat × Decoder
  | .start, octet => decodeFirst octet
  | .inside remaining value lower upper, octet =>
      if lower ≤ octet ∧ octet < upper then
        match remaining with
        | 0 => ([value * 0x40 + (octet - 0x80)], .start)
        | remaining + 1 =>
            ([], .inside remaining (value * 0x40 + (octet - 0x80)) 0x80 0xC0)
      else
        (replacement :: (decodeFirst octet).1, (decodeFirst octet).2)

def decodeFrom : Decoder → List UInt8 → List Nat
  | .start, [] => []
  | .inside _ _ _ _, [] => [replacement]
  | decoder, octet :: rest =>
      (decodeOctet decoder octet.toNat).1 ++
        decodeFrom (decodeOctet decoder octet.toNat).2 rest

def decodeUtf8 (octets : List UInt8) : List UInt16 :=
  (decodeFrom .start octets).flatMap toUnits

/-- Read every octet as one code unit. -/
def latin1 (octets : List UInt8) : List UInt16 :=
  octets.map fun octet => UInt16.ofNat octet.toNat

def IsAscii (text : List UInt16) : Prop :=
  ∀ unit ∈ text, unit.toNat < 0x80

instance (text : List UInt16) : Decidable (IsAscii text) :=
  List.decidableBAll (fun unit : UInt16 => unit.toNat < 0x80) text

theorem toUnits_toNat (unit : UInt16) : toUnits unit.toNat = [unit] := by
  have bound : unit.toNat < 0x10000 := unit.toNat_lt
  rw [toUnits, if_pos bound, UInt16.ofNat_toNat]

theorem toUnits_pairValue {high low : UInt16} (isHigh : IsHigh high)
    (isLow : IsLow low) : toUnits (pairValue high low) = [high, low] := by
  obtain ⟨highLower, highUpper⟩ := isHigh
  obtain ⟨lowLower, lowUpper⟩ := isLow
  have large : ¬ pairValue high low < 0x10000 := by
    unfold pairValue
    omega
  have quotient : 0xD800 + (pairValue high low - 0x10000) / 0x400 =
      high.toNat := by
    unfold pairValue
    omega
  have remainder : 0xDC00 + (pairValue high low - 0x10000) % 0x400 =
      low.toNat := by
    unfold pairValue
    omega
  rw [toUnits, if_neg large, quotient, remainder, UInt16.ofNat_toNat,
    UInt16.ofNat_toNat]

theorem flatMap_toUnits_codePoints (text : List UInt16) :
    (codePoints text).flatMap toUnits = text := by
  induction text using codePoints.induct with
  | case1 => rfl
  | case2 unit => simp [codePoints, toUnits_toNat]
  | case3 first second rest pair ih =>
      rw [codePoints, if_pos pair, List.flatMap_cons,
        toUnits_pairValue pair.1 pair.2, ih]
      rfl
  | case4 first second rest unpaired ih =>
      rw [codePoints, if_neg unpaired, List.flatMap_cons, toUnits_toNat, ih]
      rfl

/-- The code points that UTF-8 encodes. -/
def IsScalar (codePoint : Nat) : Prop :=
  codePoint < 0xD800 ∨ (0xE000 ≤ codePoint ∧ codePoint < 0x110000)

theorem isScalar_toNat {unit : UInt16} (notHigh : ¬ IsHigh unit)
    (notLow : ¬ IsLow unit) : IsScalar unit.toNat := by
  have bound : unit.toNat < 0x10000 := unit.toNat_lt
  unfold IsHigh at notHigh
  unfold IsLow at notLow
  unfold IsScalar
  omega

theorem isScalar_pairValue {high low : UInt16} (isHigh : IsHigh high)
    (isLow : IsLow low) : IsScalar (pairValue high low) := by
  obtain ⟨highLower, highUpper⟩ := isHigh
  obtain ⟨lowLower, lowUpper⟩ := isLow
  unfold IsScalar pairValue
  omega

theorem isScalar_of_wellFormed {text : List UInt16}
    (wellFormed : WellFormed text) :
    ∀ codePoint ∈ codePoints text, IsScalar codePoint := by
  induction text using codePoints.induct with
  | case1 => simp [codePoints]
  | case2 unit =>
      rw [codePoints, List.forall_mem_singleton]
      exact isScalar_toNat wellFormed.1 wellFormed.2
  | case3 first second rest pair ih =>
      rw [WellFormed, if_pos pair] at wellFormed
      rw [codePoints, if_pos pair, List.forall_mem_cons]
      exact ⟨isScalar_pairValue pair.1 pair.2, ih wellFormed⟩
  | case4 first second rest unpaired ih =>
      rw [WellFormed, if_neg unpaired] at wellFormed
      obtain ⟨notHigh, notLow, restWellFormed⟩ := wellFormed
      rw [codePoints, if_neg unpaired, List.forall_mem_cons]
      exact ⟨isScalar_toNat notHigh notLow, ih restWellFormed⟩

theorem decodeFrom_cons (decoder : Decoder) {octet : Nat}
    (bound : octet < 0x100) (rest : List UInt8) :
    decodeFrom decoder (UInt8.ofNat octet :: rest) =
      (decodeOctet decoder octet).1 ++
        decodeFrom (decodeOctet decoder octet).2 rest := by
  have same : (UInt8.ofNat octet).toNat = octet :=
    UInt8.toNat_ofNat_of_lt' bound
  cases decoder with
  | start => rw [decodeFrom, same]
  | inside remaining value lower upper => rw [decodeFrom, same]

theorem decodeFrom_last {value lower upper octet : Nat}
    (above : lower ≤ octet) (below : octet < upper) (bound : upper ≤ 0x100)
    (rest : List UInt8) :
    decodeFrom (.inside 0 value lower upper) (UInt8.ofNat octet :: rest) =
      (value * 0x40 + (octet - 0x80)) :: decodeFrom .start rest := by
  rw [decodeFrom_cons _ (by omega), decodeOctet, if_pos ⟨above, below⟩]
  rfl

theorem decodeFrom_next {remaining value lower upper octet : Nat}
    (above : lower ≤ octet) (below : octet < upper) (bound : upper ≤ 0x100)
    (rest : List UInt8) :
    decodeFrom (.inside (remaining + 1) value lower upper)
        (UInt8.ofNat octet :: rest) =
      decodeFrom (.inside remaining (value * 0x40 + (octet - 0x80)) 0x80 0xC0)
        rest := by
  rw [decodeFrom_cons _ (by omega), decodeOctet, if_pos ⟨above, below⟩]
  rfl

/-- The decoder reads one encoded code point. -/
theorem decodeFrom_encodeCodePoint {codePoint : Nat}
    (scalar : IsScalar codePoint) (rest : List UInt8) :
    decodeFrom .start (encodeCodePoint codePoint ++ rest) =
      codePoint :: decodeFrom .start rest := by
  unfold IsScalar at scalar
  unfold encodeCodePoint
  split_ifs with one two three
  · rw [List.singleton_append, decodeFrom_cons _ (by omega), decodeOctet,
      decodeFirst, if_pos one]
    rfl
  · have first : decodeOctet .start (0xC0 + codePoint / 0x40) =
        ([], .inside 0 (codePoint / 0x40) 0x80 0xC0) := by
      rw [decodeOctet, decodeFirst, if_neg (by omega), if_neg (by omega),
        if_pos (by omega), Nat.add_sub_cancel_left]
    have joined : codePoint / 0x40 * 0x40 + (0x80 + codePoint % 0x40 - 0x80) =
        codePoint := by
      omega
    simp only [List.cons_append, List.nil_append]
    rw [decodeFrom_cons _ (by omega), first, List.nil_append,
      decodeFrom_last (by omega) (by omega) (by omega), joined]
  · have first : decodeOctet .start (0xE0 + codePoint / 0x1000) =
        ([], .inside 1 (codePoint / 0x1000)
          (if 0xE0 + codePoint / 0x1000 = 0xE0 then 0xA0 else 0x80)
          (if 0xE0 + codePoint / 0x1000 = 0xED then 0xA0 else 0xC0)) := by
      rw [decodeOctet, decodeFirst, if_neg (by omega), if_neg (by omega),
        if_neg (by omega), if_pos (by omega), Nat.add_sub_cancel_left]
    have joined : (codePoint / 0x1000 * 0x40 +
          (0x80 + codePoint / 0x40 % 0x40 - 0x80)) * 0x40 +
            (0x80 + codePoint % 0x40 - 0x80) = codePoint := by
      omega
    simp only [List.cons_append, List.nil_append]
    rw [decodeFrom_cons _ (by omega), first, List.nil_append,
      decodeFrom_next (by split <;> omega) (by split <;> omega)
        (by split <;> omega),
      decodeFrom_last (by omega) (by omega) (by omega), joined]
  · have first : decodeOctet .start (0xF0 + codePoint / 0x40000) =
        ([], .inside 2 (codePoint / 0x40000)
          (if 0xF0 + codePoint / 0x40000 = 0xF0 then 0x90 else 0x80)
          (if 0xF0 + codePoint / 0x40000 = 0xF4 then 0x90 else 0xC0)) := by
      rw [decodeOctet, decodeFirst, if_neg (by omega), if_neg (by omega),
        if_neg (by omega), if_neg (by omega), if_pos (by omega),
        Nat.add_sub_cancel_left]
    have joined : ((codePoint / 0x40000 * 0x40 +
          (0x80 + codePoint / 0x1000 % 0x40 - 0x80)) * 0x40 +
            (0x80 + codePoint / 0x40 % 0x40 - 0x80)) * 0x40 +
              (0x80 + codePoint % 0x40 - 0x80) = codePoint := by
      omega
    simp only [List.cons_append, List.nil_append]
    rw [decodeFrom_cons _ (by omega), first, List.nil_append,
      decodeFrom_next (by split <;> omega) (by split <;> omega)
        (by split <;> omega),
      decodeFrom_next (by omega) (by omega) (by omega),
      decodeFrom_last (by omega) (by omega) (by omega), joined]

theorem decodeFrom_encode {points : List Nat}
    (scalar : ∀ codePoint ∈ points, IsScalar codePoint) :
    decodeFrom .start (points.flatMap encodeCodePoint) = points := by
  induction points with
  | nil => rfl
  | cons codePoint points ih =>
      rw [List.forall_mem_cons] at scalar
      rw [List.flatMap_cons, decodeFrom_encodeCodePoint scalar.1,
        ih scalar.2]

/-- A well-formed text survives the way through UTF-8. -/
theorem decodeUtf8_encodeUtf8 {text : List UInt16}
    (wellFormed : WellFormed text) :
    decodeUtf8 (encodeUtf8 text) = text := by
  rw [decodeUtf8, encodeUtf8,
    decodeFrom_encode (isScalar_of_wellFormed wellFormed),
    flatMap_toUnits_codePoints]

theorem length_latin1 (octets : List UInt8) :
    (latin1 octets).length = octets.length :=
  List.length_map _

theorem latin1_append (first second : List UInt8) :
    latin1 (first ++ second) = latin1 first ++ latin1 second :=
  List.map_append

theorem length_toUnits_lt {codePoint : Nat} (large : 0x80 ≤ codePoint) :
    (toUnits codePoint).length < (encodeCodePoint codePoint).length := by
  unfold toUnits encodeCodePoint
  split_ifs with small one two three
  · omega
  · simp
  · simp
  · omega
  · omega
  · simp

theorem encodeCodePoint_of_lt {codePoint : Nat} (small : codePoint < 0x80) :
    encodeCodePoint codePoint = [UInt8.ofNat codePoint] := by
  rw [encodeCodePoint, if_pos small]

theorem length_toUnits_le (codePoint : Nat) :
    (toUnits codePoint).length ≤ (encodeCodePoint codePoint).length := by
  by_cases small : codePoint < 0x80
  · rw [encodeCodePoint_of_lt small, toUnits, if_pos (by omega)]
    simp
  · exact Nat.le_of_lt (length_toUnits_lt (Nat.le_of_not_lt small))

theorem length_flatMap_toUnits_le (points : List Nat) :
    (points.flatMap toUnits).length ≤
      (points.flatMap encodeCodePoint).length := by
  induction points with
  | nil => simp
  | cons codePoint points ih =>
      have first := length_toUnits_le codePoint
      rw [List.flatMap_cons, List.flatMap_cons, List.length_append,
        List.length_append]
      omega

/-- The UTF-8 form has at least as many octets as the text has units. -/
theorem length_le_encodeUtf8 (text : List UInt16) :
    text.length ≤ (encodeUtf8 text).length := by
  have units := length_flatMap_toUnits_le (codePoints text)
  rw [flatMap_toUnits_codePoints] at units
  exact units

theorem forall_lt_of_length_eq {points : List Nat}
    (same : (points.flatMap toUnits).length =
      (points.flatMap encodeCodePoint).length) :
    ∀ codePoint ∈ points, codePoint < 0x80 := by
  induction points with
  | nil => simp
  | cons codePoint points ih =>
      rw [List.flatMap_cons, List.flatMap_cons, List.length_append,
        List.length_append] at same
      have first := length_toUnits_le codePoint
      have others := length_flatMap_toUnits_le points
      rw [List.forall_mem_cons]
      constructor
      · by_contra large
        have strict := length_toUnits_lt (Nat.le_of_not_lt large)
        omega
      · exact ih (by omega)

/-- A text with as many octets as units is ASCII. -/
theorem isAscii_of_length_encodeUtf8 {text : List UInt16}
    (same : (encodeUtf8 text).length = text.length) : IsAscii text := by
  have small : ∀ codePoint ∈ codePoints text, codePoint < 0x80 := by
    apply forall_lt_of_length_eq
    rw [flatMap_toUnits_codePoints]
    exact same.symm
  intro unit unitMem
  rw [← flatMap_toUnits_codePoints text, List.mem_flatMap] at unitMem
  obtain ⟨codePoint, pointMem, unitMem⟩ := unitMem
  have bound := small codePoint pointMem
  rw [toUnits, if_pos (by omega), List.mem_singleton] at unitMem
  rw [unitMem, UInt16.toNat_ofNat_of_lt' (Nat.lt_trans bound (by decide))]
  exact bound

theorem codePoints_of_isAscii {text : List UInt16} (ascii : IsAscii text) :
    codePoints text = text.map UInt16.toNat := by
  induction text using codePoints.induct with
  | case1 => rfl
  | case2 unit => rfl
  | case3 first second rest pair ih =>
      have small : first.toNat < 0x80 := ascii first (by simp)
      have large : 0xD800 ≤ first.toNat := pair.1.1
      omega
  | case4 first second rest unpaired ih =>
      have restAscii : IsAscii (second :: rest) := fun unit unitMem =>
        ascii unit (List.mem_cons_of_mem _ unitMem)
      rw [codePoints, if_neg unpaired, ih restAscii]
      rfl

theorem latin1_encodeUtf8_of_isAscii {text : List UInt16}
    (ascii : IsAscii text) : latin1 (encodeUtf8 text) = text := by
  rw [encodeUtf8, codePoints_of_isAscii ascii]
  induction text with
  | nil => rfl
  | cons unit rest ih =>
      have small : unit.toNat < 0x80 := ascii unit List.mem_cons_self
      have restAscii : IsAscii rest := fun other otherMem =>
        ascii other (List.mem_cons_of_mem _ otherMem)
      have back : latin1 [UInt8.ofNat unit.toNat] = [unit] := by
        rw [latin1, List.map_singleton,
          UInt8.toNat_ofNat_of_lt' (Nat.lt_trans small (by decide)),
          UInt16.ofNat_toNat]
      rw [List.map_cons, List.flatMap_cons, encodeCodePoint_of_lt small,
        latin1_append, back, ih restAscii]
      rfl

/-- Two UTF-8 texts in a row, read as Latin-1, are the two texts exactly if
both are ASCII. -/
theorem latin1_encodeUtf8_append_iff (first second : List UInt16) :
    latin1 (encodeUtf8 first ++ encodeUtf8 second) = first ++ second ↔
      IsAscii first ∧ IsAscii second := by
  constructor
  · intro equal
    have lengths := congrArg List.length equal
    rw [length_latin1, List.length_append, List.length_append] at lengths
    have firstLength := length_le_encodeUtf8 first
    have secondLength := length_le_encodeUtf8 second
    exact ⟨isAscii_of_length_encodeUtf8 (by omega),
      isAscii_of_length_encodeUtf8 (by omega)⟩
  · rintro ⟨firstAscii, secondAscii⟩
    rw [latin1_append, latin1_encodeUtf8_of_isAscii firstAscii,
      latin1_encodeUtf8_of_isAscii secondAscii]

theorem encodeUtf8_nil : encodeUtf8 [] = [] :=
  rfl

theorem latin1_encodeUtf8_iff (text : List UInt16) :
    latin1 (encodeUtf8 text) = text ↔ IsAscii text := by
  have both := latin1_encodeUtf8_append_iff text []
  rw [encodeUtf8_nil, List.append_nil, List.append_nil] at both
  simpa [IsAscii] using both

theorem encodeUtf8_eq_nil {text : List UInt16} :
    encodeUtf8 text = [] ↔ text = [] := by
  constructor
  · intro empty
    have lengths := length_le_encodeUtf8 text
    rw [empty] at lengths
    exact List.eq_nil_of_length_eq_zero (Nat.le_zero.mp lengths)
  · rintro rfl
    rfl

theorem latin1_injective : Function.Injective latin1 := by
  apply List.map_injective_iff.mpr
  intro first second same
  have firstBound := first.toNat_lt
  have secondBound := second.toNat_lt
  have numbers := congrArg UInt16.toNat same
  rw [UInt16.toNat_ofNat', UInt16.toNat_ofNat'] at numbers
  apply UInt8.toNat_inj.mp
  omega

theorem not_surrogate_of_lt {unit : UInt16} (small : unit.toNat < 0x80) :
    ¬ IsHigh unit ∧ ¬ IsLow unit := by
  unfold IsHigh IsLow
  omega

theorem wellFormed_of_isAscii {text : List UInt16} (isAscii : IsAscii text) :
    WellFormed text := by
  induction text using WellFormed.induct with
  | case1 => trivial
  | case2 unit => exact not_surrogate_of_lt (isAscii unit List.mem_cons_self)
  | case3 first second rest pair ih =>
      have small := isAscii first List.mem_cons_self
      exact absurd pair.1 (not_surrogate_of_lt small).1
  | case4 first second rest unpaired ih =>
      have surrogate :=
        not_surrogate_of_lt (isAscii first List.mem_cons_self)
      rw [WellFormed, if_neg unpaired]
      exact ⟨surrogate.1, surrogate.2, ih fun unit member =>
        isAscii unit (List.mem_cons_of_mem _ member)⟩

/-- ASCII reads the same in both encodings. -/
theorem decodeUtf8_eq_latin1 {octets : List UInt8}
    (isAscii : IsAscii (latin1 octets)) : decodeUtf8 octets = latin1 octets := by
  have same := latin1_injective (latin1_encodeUtf8_of_isAscii isAscii)
  have decoded := decodeUtf8_encodeUtf8 (wellFormed_of_isAscii isAscii)
  rwa [same] at decoded

end TextEncoding

end IISModuleJS
