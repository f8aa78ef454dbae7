import Mathlib.Data.List.Basic

/-!
# Resolving a list of path segments with a stack

Resolving a path reads its segments from left to right and keeps a stack: an
ordinary segment is pushed, one kind of segment is skipped, and another kind
pops the last entry.  Which entries survive can also be read off the segment
list itself, by counting from the right how many pops are still unmatched.
This file proves that the two readings agree, and describes the segments of a
string that is cut off at a terminator.
-/

namespace IISModuleJS

namespace SegmentStack

/-- What a segment does to the stack of entered segments. -/
inductive Move
  | stay
  | up
  | enter
  deriving DecidableEq

section Resolution

variable {Segment : Type*} (move : Segment → Move)

/-- Read one segment.  Popping an empty stack leaves it empty. -/
def push (stack : List Segment) (segment : Segment) : List Segment :=
  match move segment with
  | .stay => stack
  | .up => stack.dropLast
  | .enter => stack ++ [segment]

def resolve (stack segments : List Segment) : List Segment :=
  segments.foldl (push move) stack

/-- The pops of a segment list that no entry of the list itself absorbs. -/
def unmatched : List Segment → Nat
  | [] => 0
  | segment :: rest =>
      match move segment with
      | .stay => unmatched rest
      | .up => unmatched rest + 1
      | .enter => unmatched rest - 1

/-- The entered segments that no later pop takes back. -/
def survivors : List Segment → List Segment
  | [] => []
  | segment :: rest =>
      if move segment = .enter ∧ unmatched move rest = 0 then
        segment :: survivors rest
      else
        survivors rest

/-- The stack after reading a segment list: the unmatched pops take back the
end of the initial stack, and the survivors follow. -/
theorem resolve_eq_survivors (stack segments : List Segment) :
    resolve move stack segments =
      stack.take (stack.length - unmatched move segments) ++
        survivors move segments := by
  induction segments generalizing stack with
  | nil => simp [resolve, unmatched, survivors]
  | cons segment rest ih =>
      have unfolded : resolve move stack (segment :: rest) =
          resolve move (push move stack segment) rest := rfl
      rw [unfolded, ih]
      cases moved : move segment with
      | stay => simp [push, unmatched, survivors, moved]
      | up =>
          have kept :
              stack.dropLast.take
                  (stack.dropLast.length - unmatched move rest) =
                stack.take (stack.length - (unmatched move rest + 1)) := by
            rw [List.length_dropLast, List.dropLast_eq_take, List.take_take]
            congr 1
            omega
          simp only [push, unmatched, survivors, moved, kept, reduceCtorEq,
            false_and, if_false]
      | enter =>
          by_cases matched : unmatched move rest = 0
          · simp [push, unmatched, survivors, moved, matched,
              List.take_of_length_le]
          · have shorter : stack.length + 1 - unmatched move rest =
                stack.length - (unmatched move rest - 1) := by
              omega
            have inside : stack.length - (unmatched move rest - 1) ≤
                stack.length := by
              omega
            simp [push, unmatched, survivors, moved, matched, shorter,
              List.take_append_of_le_length inside]

theorem unmatched_concat_enter (segments : List Segment) {last : Segment}
    (enters : move last = .enter) :
    unmatched move (segments ++ [last]) = unmatched move segments := by
  induction segments with
  | nil => simp [unmatched, enters]
  | cons segment rest ih => simp [unmatched, ih]

theorem survivors_concat_enter (segments : List Segment) {last : Segment}
    (enters : move last = .enter) :
    survivors move (segments ++ [last]) =
      survivors move segments ++ [last] := by
  induction segments with
  | nil => simp [survivors, unmatched, enters]
  | cons segment rest ih =>
      simp only [List.cons_append, survivors,
        unmatched_concat_enter move rest enters, ih]
      split <;> rfl

theorem survivors_enter {segments : List Segment} {segment : Segment}
    (survives : segment ∈ survivors move segments) :
    segment ∈ segments ∧ move segment = .enter := by
  induction segments with
  | nil => simp [survivors] at survives
  | cons first rest ih =>
      by_cases kept : move first = .enter ∧ unmatched move rest = 0
      · rw [survivors, if_pos kept, List.mem_cons] at survives
        rcases survives with rfl | later
        · exact ⟨List.mem_cons_self, kept.1⟩
        · exact ⟨List.mem_cons_of_mem _ (ih later).1, (ih later).2⟩
      · rw [survivors, if_neg kept] at survives
        exact ⟨List.mem_cons_of_mem _ (ih survives).1, (ih survives).2⟩

end Resolution

section Truncation

variable {Symbol : Type*} [DecidableEq Symbol]

/-- A string as far as its first terminator. -/
def cut (terminator : Symbol) (text : List Symbol) : List Symbol :=
  text.takeWhile (· ≠ terminator)

theorem cut_append {terminator : Symbol} {first : List Symbol}
    (absent : terminator ∉ first) (second : List Symbol) :
    cut terminator (first ++ second) = first ++ cut terminator second := by
  apply List.takeWhile_append_of_pos
  intro symbol symbolMem
  simp only [ne_eq, decide_eq_true_eq]
  rintro rfl
  exact absent symbolMem

/-- The segments of a string that is cut at its first terminator: all segments
before the first one that contains the terminator, and that one cut. -/
def cutSegments (terminator : Symbol) : List (List Symbol) → List (List Symbol)
  | [] => []
  | segment :: rest =>
      if terminator ∈ segment then
        [cut terminator segment]
      else
        segment :: cutSegments terminator rest

theorem splitOnP_cut {separator : Symbol → Bool} {terminator : Symbol}
    (distinct : separator terminator = false) (text : List Symbol) :
    (cut terminator text).splitOnP separator =
      cutSegments terminator (text.splitOnP separator) := by
  induction text with
  | nil => simp [cut, cutSegments]
  | cons symbol rest ih =>
      obtain ⟨first, others, split⟩ :=
        List.exists_cons_of_ne_nil (List.splitOnP_ne_nil separator rest)
      by_cases ends : symbol = terminator
      · subst ends
        rw [List.splitOnP_cons_eq_if_modifyHead, split]
        simp [cut, cutSegments, distinct]
      · have kept : cut terminator (symbol :: rest) =
            symbol :: cut terminator rest := by
          simp [cut, ends]
        rw [kept, List.splitOnP_cons_eq_if_modifyHead,
          List.splitOnP_cons_eq_if_modifyHead, ih, split]
        cases separates : separator symbol with
        | true => simp [cutSegments]
        | false =>
            by_cases inFirst : terminator ∈ first
            · simp [cutSegments, inFirst, cut, ends]
            · simp [cutSegments, inFirst, Ne.symm ends]

/-- When no segment is bad, cutting produces a bad segment exactly if it cuts
one out of the first segment that contains the terminator. -/
theorem forall_cutSegments_iff {terminator : Symbol} {bad : List Symbol → Prop}
    {segments : List (List Symbol)}
    (good : ∀ segment ∈ segments, ¬ bad segment) :
    (∀ segment ∈ cutSegments terminator segments, ¬ bad segment) ↔
      ∀ segment ∈ segments.find? (terminator ∈ ·),
        ¬ bad (cut terminator segment) := by
  induction segments with
  | nil => simp [cutSegments]
  | cons first rest ih =>
      by_cases inFirst : terminator ∈ first
      · simp [cutSegments, inFirst]
      · have firstGood := good first List.mem_cons_self
        have restIff := ih fun segment segmentMem =>
          good segment (List.mem_cons_of_mem _ segmentMem)
        simp only [cutSegments, if_neg inFirst, List.forall_mem_cons,
          firstGood, not_false_eq_true, true_and, restIff]
        rw [List.find?_cons_of_neg (by simpa using inFirst)]

end Truncation

end SegmentStack

end IISModuleJS
