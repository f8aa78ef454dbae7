import IISModuleJS.SegmentStack

/-!
# Wide strings

On Windows `wchar_t` is one UTF-16 code unit, so a `std::wstring` made from a
JavaScript string is an arbitrary list of 16-bit units: it may contain U+0000
and unpaired surrogates.  This file gives the operations of
`std::wstring` and of the filesystem TS that the path code uses.
-/

namespace IISModuleJS

abbrev WChar := UInt16

abbrev WString := List WChar

namespace WString

def slash : WChar := 0x2F

def backslash : WChar := 0x5C

def dot : WChar := 0x2E

def colon : WChar := 0x3A

/-- `find(pattern, 0)`: the least position at which the pattern occurs, with
`none` for `npos`. -/
def find (pattern : WString) : WString → Option Nat
  | [] => if pattern = [] then some 0 else none
  | unit :: rest =>
      if pattern <+: unit :: rest then
        some 0
      else
        (find pattern rest).map (· + 1)

/-- `find(pattern, start)`. -/
def findFrom (pattern : WString) (start : Nat) (text : WString) : Option Nat :=
  (find pattern (text.drop start)).map (· + start)

/-- `find_last_of` for a one-element set of characters. -/
def findLastOf (unit : WChar) : WString → Option Nat
  | [] => none
  | first :: rest =>
      match findLastOf unit rest with
      | some position => some (position + 1)
      | none => if first = unit then some 0 else none

/-- `replace(position, count, text)`. -/
def replace (input : WString) (position count : Nat) (text : WString) :
    WString :=
  input.take position ++ text ++ input.drop (position + count)

/-- `c_str()` as its callee reads it: everything before the first U+0000. -/
def cString (text : WString) : WString :=
  SegmentStack.cut 0 text

def isSeparator (unit : WChar) : Bool :=
  unit == slash || unit == backslash

/-- `operator/` of the filesystem TS: the right operand is appended to the
left one, after a preferred separator unless one of the operands makes it
redundant or it would turn a drive-relative path into an absolute one. -/
def pathAppend (left right : WString) : WString :=
  match left.getLast?, right.head? with
  | some last, some first =>
      if isSeparator first || isSeparator last || last == colon then
        left ++ right
      else
        left ++ backslash :: right
  | _, _ => left ++ right

theorem find_eq_zero {pattern text : WString} :
    find pattern text = some 0 ↔ pattern <+: text := by
  cases text with
  | nil => simp [find]
  | cons unit rest => simp [find]

theorem find_unit_eq_none {unit : WChar} {text : WString}
    (absent : unit ∉ text) : find [unit] text = none := by
  induction text with
  | nil => simp [find]
  | cons first rest ih =>
      rw [List.mem_cons, not_or] at absent
      obtain ⟨notFirst, notRest⟩ := absent
      simp [find, List.cons_prefix_cons, notFirst, ih notRest]

theorem find_unit_append {unit : WChar} {front : WString}
    (absent : unit ∉ front) (rest : WString) :
    find [unit] (front ++ unit :: rest) = some front.length := by
  induction front with
  | nil => simp [find, List.cons_prefix_cons]
  | cons first front ih =>
      rw [List.mem_cons, not_or] at absent
      obtain ⟨notFirst, notRest⟩ := absent
      simp [find, List.cons_prefix_cons, notFirst, ih notRest]

theorem exists_of_find_unit {unit : WChar} {text : WString} {position : Nat}
    (found : find [unit] text = some position) :
    ∃ front rest, text = front ++ unit :: rest ∧ front.length = position := by
  induction text generalizing position with
  | nil => simp [find] at found
  | cons first text ih =>
      by_cases here : [unit] <+: first :: text
      · have firstEq : first = unit := by
          simpa [List.cons_prefix_cons, eq_comm] using here
        rw [find, if_pos here] at found
        exact ⟨[], text, by rw [firstEq]; rfl, Option.some.inj found⟩
      · rw [find, if_neg here, Option.map_eq_some_iff] at found
        obtain ⟨before, foundRest, rfl⟩ := found
        obtain ⟨front, rest, rfl, rfl⟩ := ih foundRest
        exact ⟨first :: front, rest, rfl, rfl⟩

theorem not_mem_of_find_unit {unit : WChar} {text : WString}
    (missing : find [unit] text = none) : unit ∉ text := by
  induction text with
  | nil => simp
  | cons first rest ih =>
      by_cases here : [unit] <+: first :: rest
      · rw [find, if_pos here] at missing
        cases missing
      · rw [find, if_neg here, Option.map_eq_none_iff] at missing
        have notFirst : unit ≠ first := by
          simpa [List.cons_prefix_cons] using here
        simp [notFirst, ih missing]

theorem findLastOf_eq_none {unit : WChar} {text : WString}
    (absent : unit ∉ text) : findLastOf unit text = none := by
  induction text with
  | nil => rfl
  | cons first rest ih =>
      rw [List.mem_cons, not_or] at absent
      obtain ⟨notFirst, notRest⟩ := absent
      simp [findLastOf, ih notRest, Ne.symm notFirst]

theorem findLastOf_append {unit : WChar} {last : WString}
    (absent : unit ∉ last) (front : WString) :
    findLastOf unit (front ++ unit :: last) = some front.length := by
  induction front with
  | nil => simp [findLastOf, findLastOf_eq_none absent]
  | cons first front ih => simp [findLastOf, ih]

end WString

end IISModuleJS
