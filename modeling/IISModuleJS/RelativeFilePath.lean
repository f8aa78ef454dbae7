import IISModuleJS.WideString

/-!
# Resolving a script's file name

`get_relative_file_path` turns a file name given by a script into a path below
the filesystem directory.  It replaces every backslash, runs the rewriting
loop of RFC 3986 section 5.2.4 over an input and an output buffer, joins the
output to the directory and caches the result under the raw name.

The loop is modelled branch by branch.  Its result is then described on the
segments of the name: leading dot segments are dropped, the first remaining
segment is the head, and the others are resolved with a stack above the head.
-/

namespace IISModuleJS

namespace RelativeFilePath

open WString SegmentStack

/-- The two buffers of the rewriting loop. -/
structure Buffers where
  input : WString
  output : WString

theorem replace_found {front rest : WString} {unit : WChar}
    {text : WString} :
    replace (front ++ unit :: rest) front.length 1 text =
      front ++ text ++ rest := by
  simp [replace, List.drop_append]

private theorem count_replace_lt {input : WString} {position : Nat}
    (found : find [backslash] input = some position) :
    (replace input position 1 [slash]).count backslash <
      input.count backslash := by
  obtain ⟨front, rest, rfl, rfl⟩ := exists_of_find_unit found
  rw [replace_found]
  simp [List.count_append, slash, backslash]

/-- The loop that rewrites backslashes until none is left. -/
def replaceBackslashes (input : WString) : WString :=
  match _found : find [backslash] input with
  | some position => replaceBackslashes (replace input position 1 [slash])
  | none => input
termination_by input.count backslash
decreasing_by exact count_replace_lt _found

/-- Remove the last segment of the output buffer together with its preceding
`/`.  Without a `/` the buffer stays as it is. -/
def removeLastSegment (output : WString) : WString :=
  match findLastOf slash output with
  | some position => output.take position
  | none => output

/-- Where the first path segment of the input ends, its initial `/`
included. -/
def segmentEnd (input : WString) : Nat :=
  (if find [slash] input = some 0 then findFrom [slash] 1 input
    else find [slash] input).getD input.length

/-- One round of the rewriting loop, with its branches in the order of the
source. -/
def rewriteStep : Buffers → Buffers
  | ⟨input, output⟩ =>
      if find [dot, dot, slash] input = some 0 then
        ⟨replace input 0 3 [], output⟩
      else if find [dot, slash] input = some 0 then
        ⟨replace input 0 2 [], output⟩
      else if find [slash, dot, slash] input = some 0 then
        ⟨replace input 0 3 [slash], output⟩
      else if input = [slash, dot] then
        ⟨replace input 0 2 [slash], output⟩
      else if find [slash, dot, dot, slash] input = some 0 then
        ⟨replace input 0 4 [slash], removeLastSegment output⟩
      else if input = [slash, dot, dot] then
        ⟨replace input 0 3 [slash], removeLastSegment output⟩
      else if input = [dot] ∨ input = [dot, dot] then
        ⟨[], output⟩
      else
        ⟨input.drop (segmentEnd input),
          output ++ input.take (segmentEnd input)⟩

theorem segmentEnd_pos {input : WString} (nonempty : input ≠ []) :
    0 < segmentEnd input := by
  have lengthPos : 0 < input.length := List.length_pos_iff.mpr nonempty
  unfold segmentEnd
  by_cases atStart : find [slash] input = some 0
  · simp only [atStart, if_true, findFrom]
    cases find [slash] (input.drop 1) with
    | none => simpa using lengthPos
    | some position => simp
  · simp only [if_neg atStart]
    cases found : find [slash] input with
    | none => simpa using lengthPos
    | some position =>
        have positionPos : position ≠ 0 := by
          rintro rfl
          exact atStart found
        simpa using Nat.pos_of_ne_zero positionPos

private theorem length_of_found {pattern input : WString}
    (found : find pattern input = some 0) :
    pattern.length ≤ input.length :=
  (find_eq_zero.mp found).length_le

theorem rewriteStep_length_lt {buffers : Buffers}
    (nonempty : buffers.input ≠ []) :
    (rewriteStep buffers).input.length < buffers.input.length := by
  obtain ⟨input, output⟩ := buffers
  have lengthPos : 0 < input.length := List.length_pos_iff.mpr nonempty
  have endPos : 0 < segmentEnd input := segmentEnd_pos nonempty
  rw [rewriteStep]
  split_ifs with parent here inside insideEnd above aboveEnd alone
  · have := length_of_found parent
    simp [replace] at this ⊢
    omega
  · have := length_of_found here
    simp [replace] at this ⊢
    omega
  · have := length_of_found inside
    simp [replace] at this ⊢
    omega
  · simp [replace, insideEnd]
  · have := length_of_found above
    simp [replace] at this ⊢
    omega
  · simp [replace, aboveEnd]
  · simpa using lengthPos
  · simp only [List.length_drop]
    omega

/-- The rewriting loop. -/
def rewriteLoop (buffers : Buffers) : WString :=
  if _empty : buffers.input = [] then
    buffers.output
  else
    rewriteLoop (rewriteStep buffers)
termination_by buffers.input.length
decreasing_by exact rewriteStep_length_lt _empty

/-- The output buffer that `get_relative_file_path` computes. -/
def normalize (rawInput : WString) : WString :=
  rewriteLoop ⟨replaceBackslashes rawInput, []⟩

/-- The static map from raw names to resolved paths. -/
abbrev PathCache := List (WString × WString)

/-- `get_relative_file_path`: the resolved path and the cache after the
call. -/
def getRelativeFilePath (fsDirectory : WString) (cachedPaths : PathCache)
    (rawInput : WString) : WString × PathCache :=
  match cachedPaths.lookup rawInput with
  | some path => (path, cachedPaths)
  | none =>
      let path := pathAppend fsDirectory (normalize rawInput)
      (path, (rawInput, path) :: cachedPaths)

/-- The text of segments that each follow a `/`. -/
def joinSegments (segments : List WString) : WString :=
  segments.flatMap (slash :: ·)

/-- What a segment means to the rewriting loop. -/
def segmentMove (segment : WString) : Move :=
  if segment = [dot] then .stay
  else if segment = [dot, dot] then .up
  else .enter

def SlashFree (segments : List WString) : Prop :=
  ∀ segment ∈ segments, slash ∉ segment

@[simp]
theorem joinSegments_nil : joinSegments [] = [] :=
  rfl

@[simp]
theorem joinSegments_cons (segment : WString) (rest : List WString) :
    joinSegments (segment :: rest) =
      slash :: (segment ++ joinSegments rest) := by
  simp [joinSegments]

@[simp]
theorem joinSegments_append (first second : List WString) :
    joinSegments (first ++ second) =
      joinSegments first ++ joinSegments second := by
  simp [joinSegments]

@[simp]
theorem segmentMove_dot : segmentMove [dot] = .stay := by
  simp [segmentMove]

@[simp]
theorem segmentMove_dotdot : segmentMove [dot, dot] = .up := by
  simp [segmentMove]

@[simp]
theorem segmentMove_nil : segmentMove [] = .enter := by
  simp [segmentMove]

theorem segmentMove_eq_enter {segment : WString} :
    segmentMove segment = .enter ↔
      segment ≠ [dot] ∧ segment ≠ [dot, dot] := by
  unfold segmentMove
  split_ifs <;> simp_all

theorem append_joinSegments_eq {name segment : WString}
    {rest : List WString} (nameFree : slash ∉ name) :
    segment ++ joinSegments rest = name ↔ segment = name ∧ rest = [] := by
  cases rest with
  | nil => simp
  | cons next rest =>
      constructor
      · rintro rfl
        simp at nameFree
      · simp

theorem prefix_append_joinSegments {name segment : WString}
    {rest : List WString} (nameFree : slash ∉ name)
    (segmentFree : slash ∉ segment) :
    name ++ [slash] <+: segment ++ joinSegments rest ↔
      segment = name ∧ rest ≠ [] := by
  constructor
  · rintro ⟨tail, split⟩
    cases rest with
    | nil =>
        have slashIn : slash ∈ segment := by
          rw [joinSegments_nil, List.append_nil] at split
          simp [← split]
        exact (segmentFree slashIn).elim
    | cons next rest =>
        have firstSegment := congrArg (List.splitOn slash) split
        rw [joinSegments_cons, List.append_assoc, List.singleton_append,
          List.splitOn_append_cons_self_of_not_mem nameFree,
          List.splitOn_append_cons_self_of_not_mem segmentFree] at firstSegment
        exact ⟨(List.cons.inj firstSegment).1.symm, by simp⟩
  · rintro ⟨rfl, nonempty⟩
    cases rest with
    | nil => exact (nonempty rfl).elim
    | cons next rest => simp

/-- What the loop reads next after it replaced a dot segment by `/`. -/
def afterDotSegment (rest : List WString) : List WString :=
  if rest = [] then [[]] else rest

theorem rewriteStep_stay (rest : List WString) (output : WString) :
    rewriteStep ⟨joinSegments ([dot] :: rest), output⟩ =
      ⟨joinSegments (afterDotSegment rest), output⟩ := by
  cases rest <;>
    simp [rewriteStep, find_eq_zero, replace, afterDotSegment, slash, dot,
      List.cons_prefix_cons]

theorem rewriteStep_up (rest : List WString) (output : WString) :
    rewriteStep ⟨joinSegments ([dot, dot] :: rest), output⟩ =
      ⟨joinSegments (afterDotSegment rest), removeLastSegment output⟩ := by
  cases rest <;>
    simp [rewriteStep, find_eq_zero, replace, afterDotSegment, slash, dot,
      List.cons_prefix_cons]

theorem segmentEnd_slash {segment : WString} (free : slash ∉ segment)
    (rest : List WString) :
    segmentEnd (slash :: (segment ++ joinSegments rest)) =
      segment.length + 1 := by
  have atStart : find [slash] (slash :: (segment ++ joinSegments rest)) =
      some 0 := by
    simp [find_eq_zero, List.cons_prefix_cons]
  rw [segmentEnd, if_pos atStart, findFrom, List.drop_succ_cons,
    List.drop_zero]
  cases rest with
  | nil => simp [find_unit_eq_none free]
  | cons next rest => simp [find_unit_append free]

theorem rewriteStep_enter {segment : WString} (free : slash ∉ segment)
    (enters : segmentMove segment = .enter) (rest : List WString)
    (output : WString) :
    rewriteStep ⟨joinSegments (segment :: rest), output⟩ =
      ⟨joinSegments rest, output ++ slash :: segment⟩ := by
  obtain ⟨notDot, notDotdot⟩ := segmentMove_eq_enter.mp enters
  have dotFree : slash ∉ [dot] := by simp [slash, dot]
  have dotdotFree : slash ∉ [dot, dot] := by simp [slash, dot]
  have notInside : ¬ [dot, slash] <+: segment ++ joinSegments rest := by
    intro inside
    exact notDot ((prefix_append_joinSegments dotFree free).mp inside).1
  have notAbove : ¬ [dot, dot, slash] <+: segment ++ joinSegments rest := by
    intro above
    exact notDotdot ((prefix_append_joinSegments dotdotFree free).mp above).1
  have notInsideEnd : segment ++ joinSegments rest ≠ [dot] := by
    intro equal
    exact notDot ((append_joinSegments_eq dotFree).mp equal).1
  have notAboveEnd : segment ++ joinSegments rest ≠ [dot, dot] := by
    intro equal
    exact notDotdot ((append_joinSegments_eq dotdotFree).mp equal).1
  have slashNotDot : slash ≠ dot := by decide
  simp [rewriteStep, find_eq_zero, segmentEnd_slash free,
    List.cons_prefix_cons, slashNotDot, Ne.symm slashNotDot, notInside,
    notAbove, notInsideEnd, notAboveEnd]

theorem removeLastSegment_joinSegments {head : WString}
    {stack : List WString} (headFree : slash ∉ head)
    (stackFree : SlashFree stack) :
    removeLastSegment (head ++ joinSegments stack) =
      head ++ joinSegments stack.dropLast := by
  rcases List.eq_nil_or_concat' stack with rfl | ⟨front, last, rfl⟩
  · simp [removeLastSegment, findLastOf_eq_none headFree]
  · have lastFree : slash ∉ last := stackFree last (by simp)
    have textEq : head ++ joinSegments (front ++ [last]) =
        (head ++ joinSegments front) ++ slash :: last := by
      simp
    rw [textEq, removeLastSegment, findLastOf_append lastFree,
      List.dropLast_concat]
    exact List.take_left

/-- The segments that the loop resolves: a final dot segment leaves an empty
segment behind. -/
def closeTrailing (segments : List WString) : List WString :=
  match segments.getLast? with
  | none => []
  | some last =>
      if segmentMove last = .enter then segments else segments ++ [[]]

theorem closeTrailing_cons (segment : WString) (rest : List WString) :
    closeTrailing (segment :: rest) =
      if rest = [] then
        if segmentMove segment = .enter then [segment] else [segment, []]
      else
        segment :: closeTrailing rest := by
  cases rest with
  | nil => rfl
  | cons next rest =>
      simp only [closeTrailing, List.getLast?_cons_cons, reduceCtorEq,
        if_false]
      cases found : (next :: rest).getLast? with
      | none => simp at found
      | some last =>
          by_cases enters : segmentMove last = .enter <;> simp [enters]

theorem rewriteLoop_nil (output : WString) :
    rewriteLoop ⟨[], output⟩ = output := by
  rw [rewriteLoop, dif_pos rfl]

theorem rewriteLoop_joinSegments_cons (segment : WString)
    (rest : List WString) (output : WString) :
    rewriteLoop ⟨joinSegments (segment :: rest), output⟩ =
      rewriteLoop
        (rewriteStep ⟨joinSegments (segment :: rest), output⟩) := by
  rw [rewriteLoop, dif_neg (by simp)]

theorem rewriteLoop_enter {segment : WString} (free : slash ∉ segment)
    (enters : segmentMove segment = .enter) (rest : List WString)
    (head : WString) (stack : List WString) :
    rewriteLoop ⟨joinSegments (segment :: rest),
        head ++ joinSegments stack⟩ =
      rewriteLoop ⟨joinSegments rest,
        head ++ joinSegments (stack ++ [segment])⟩ := by
  rw [rewriteLoop_joinSegments_cons, rewriteStep_enter free enters]
  simp

theorem slashFree_push {stack : List WString} (stackFree : SlashFree stack)
    {segment : WString} (free : slash ∉ segment) :
    SlashFree (push segmentMove stack segment) := by
  intro entry entryMem
  unfold push at entryMem
  split at entryMem
  · exact stackFree entry entryMem
  · exact stackFree entry (List.dropLast_subset stack entryMem)
  · rcases List.mem_append.mp entryMem with old | new
    · exact stackFree entry old
    · rw [List.mem_singleton.mp new]
      exact free

/-- After a dot segment the loop goes on with the remaining segments, or with
the empty segment if there are none. -/
theorem rewriteLoop_dotSegment {segment : WString} (free : slash ∉ segment)
    (notEnter : segmentMove segment ≠ .enter) (rest : List WString)
    {head : WString} (headFree : slash ∉ head) {stack : List WString}
    (stackFree : SlashFree stack) :
    rewriteLoop ⟨joinSegments (segment :: rest),
        head ++ joinSegments stack⟩ =
      rewriteLoop ⟨joinSegments (afterDotSegment rest),
        head ++ joinSegments (push segmentMove stack segment)⟩ := by
  rw [rewriteLoop_joinSegments_cons]
  by_cases isDot : segment = [dot]
  · subst isDot
    rw [rewriteStep_stay, push, segmentMove_dot]
  · have isDotdot : segment = [dot, dot] := by
      by_contra notDotdot
      exact notEnter (segmentMove_eq_enter.mpr ⟨isDot, notDotdot⟩)
    subst isDotdot
    rw [rewriteStep_up, removeLastSegment_joinSegments headFree stackFree,
      push, segmentMove_dotdot]

/-- The loop resolves the remaining segments on the stack that the output
buffer holds above its head. -/
theorem rewriteLoop_joinSegments {segments : List WString}
    (free : SlashFree segments) {head : WString} (headFree : slash ∉ head)
    {stack : List WString} (stackFree : SlashFree stack) :
    rewriteLoop ⟨joinSegments segments, head ++ joinSegments stack⟩ =
      head ++ joinSegments
        (resolve segmentMove stack (closeTrailing segments)) := by
  induction segments generalizing stack with
  | nil => simp [rewriteLoop_nil, closeTrailing, resolve]
  | cons segment rest ih =>
      have segmentFree : slash ∉ segment := free segment (by simp)
      have restFree : SlashFree rest := fun other otherMem =>
        free other (List.mem_cons_of_mem _ otherMem)
      have pushFree := slashFree_push stackFree segmentFree
      have restRuns := ih restFree pushFree
      by_cases enters : segmentMove segment = .enter
      · rw [rewriteLoop_enter segmentFree enters]
        rw [push, enters] at restRuns
        rw [restRuns, closeTrailing_cons]
        by_cases last : rest = []
        · simp [last, enters, closeTrailing, resolve, push]
        · simp [last, enters, resolve, push]
      · rw [rewriteLoop_dotSegment segmentFree enters rest headFree stackFree,
          closeTrailing_cons]
        by_cases last : rest = []
        · subst last
          have emptyFree : slash ∉ ([] : WString) := by simp
          rw [afterDotSegment, if_pos rfl, rewriteLoop_enter emptyFree
            segmentMove_nil, joinSegments_nil, rewriteLoop_nil]
          simp [enters, resolve, push]
        · rw [afterDotSegment, if_neg last, restRuns]
          simp [last, resolve]

/-- The text of a nonempty segment list: only its first segment has no `/`
before it. -/
def segmentsText : List WString → WString
  | [] => []
  | head :: rest => head ++ joinSegments rest

/-- A `/` starts a new segment; any other unit joins the first one. -/
theorem exists_splitOn_cons (unit : WChar) (rest : WString) :
    ∃ first others, rest.splitOn slash = first :: others ∧
      (unit :: rest).splitOn slash =
        if unit = slash then [] :: first :: others
        else (unit :: first) :: others := by
  obtain ⟨first, others, split⟩ :=
    List.exists_cons_of_ne_nil (List.splitOn_ne_nil slash rest)
  refine ⟨first, others, split, ?_⟩
  rw [List.splitOn_cons_eq_if_modifyHead, split]
  by_cases isSlash : unit = slash <;> simp [isSlash]

theorem segmentsText_splitOn (text : WString) :
    segmentsText (text.splitOn slash) = text := by
  induction text with
  | nil => rfl
  | cons unit rest ih =>
      obtain ⟨first, others, split, splitCons⟩ :=
        exists_splitOn_cons unit rest
      rw [split] at ih
      rw [splitCons]
      by_cases isSlash : unit = slash
      · simpa [isSlash, segmentsText] using ih
      · simpa [isSlash, segmentsText] using ih

theorem slashFree_splitOn (text : WString) :
    SlashFree (text.splitOn slash) := by
  induction text with
  | nil => simp [SlashFree]
  | cons unit rest ih =>
      obtain ⟨first, others, split, splitCons⟩ :=
        exists_splitOn_cons unit rest
      rw [split] at ih
      rw [splitCons]
      by_cases isSlash : unit = slash
      · simpa [isSlash, SlashFree] using ih
      · simpa [isSlash, SlashFree, Ne.symm isSlash] using ih

/-- The head and the stack above it that the loop leaves in the output
buffer. -/
def normalizeSegments (segments : List WString) : List WString :=
  match segments.dropWhile (segmentMove · ≠ .enter) with
  | [] => [[]]
  | head :: rest => head :: resolve segmentMove [] (closeTrailing rest)

theorem rewriteStep_leadingDots {segment : WString}
    (notEnter : segmentMove segment ≠ .enter) (rest : List WString) :
    rewriteStep ⟨segmentsText (segment :: rest), []⟩ =
      ⟨segmentsText rest, []⟩ := by
  by_cases isDot : segment = [dot]
  · subst isDot
    cases rest <;>
      simp [rewriteStep, segmentsText, find_eq_zero, replace, slash, dot,
        List.cons_prefix_cons]
  · have isDotdot : segment = [dot, dot] := by
      by_contra notDotdot
      exact notEnter (segmentMove_eq_enter.mpr ⟨isDot, notDotdot⟩)
    subst isDotdot
    cases rest <;>
      simp [rewriteStep, segmentsText, find_eq_zero, replace, slash, dot,
        List.cons_prefix_cons]

theorem segmentEnd_head {head : WString} (free : slash ∉ head)
    (nonempty : head ≠ []) (rest : List WString) :
    segmentEnd (head ++ joinSegments rest) = head.length := by
  have found : find [slash] (head ++ joinSegments rest) =
      if rest = [] then none else some head.length := by
    cases rest with
    | nil => simp [find_unit_eq_none free]
    | cons next rest => simp [find_unit_append free]
  have notAtStart : find [slash] (head ++ joinSegments rest) ≠ some 0 := by
    rw [found]
    split <;> simp [nonempty]
  rw [segmentEnd, if_neg notAtStart, found]
  split <;> simp_all

theorem rewriteStep_head {head : WString} (free : slash ∉ head)
    (nonempty : head ≠ []) (enters : segmentMove head = .enter)
    (rest : List WString) :
    rewriteStep ⟨head ++ joinSegments rest, []⟩ =
      ⟨joinSegments rest, head⟩ := by
  obtain ⟨notDot, notDotdot⟩ := segmentMove_eq_enter.mp enters
  have dotFree : slash ∉ [dot] := by simp [slash, dot]
  have dotdotFree : slash ∉ [dot, dot] := by simp [slash, dot]
  have notHere : ¬ [dot, slash] <+: head ++ joinSegments rest := by
    intro here
    exact notDot ((prefix_append_joinSegments dotFree free).mp here).1
  have notParent : ¬ [dot, dot, slash] <+: head ++ joinSegments rest := by
    intro parent
    exact notDotdot ((prefix_append_joinSegments dotdotFree free).mp parent).1
  have notHereEnd : head ++ joinSegments rest ≠ [dot] := by
    intro equal
    exact notDot ((append_joinSegments_eq dotFree).mp equal).1
  have notParentEnd : head ++ joinSegments rest ≠ [dot, dot] := by
    intro equal
    exact notDotdot ((append_joinSegments_eq dotdotFree).mp equal).1
  have noSlash (tail : WString) :
      ¬ slash :: tail <+: head ++ joinSegments rest := by
    cases head with
    | nil => exact (nonempty rfl).elim
    | cons first others =>
        have firstNotSlash : slash ≠ first := by
          rintro rfl
          exact free (by simp)
        simp [List.cons_prefix_cons, firstNotSlash]
  have noSlashEq (tail : WString) :
      head ++ joinSegments rest ≠ slash :: tail := by
    intro equal
    exact noSlash tail (by simp [equal])
  simp [rewriteStep, find_eq_zero, notHere, notParent, notHereEnd,
    notParentEnd, noSlash, noSlashEq, segmentEnd_head free nonempty]

/-- The rewriting loop computes the text of the normalized segments. -/
theorem rewriteLoop_segmentsText {segments : List WString}
    (free : SlashFree segments) :
    rewriteLoop ⟨segmentsText segments, []⟩ =
      segmentsText (normalizeSegments segments) := by
  induction segments with
  | nil => simp [segmentsText, normalizeSegments, rewriteLoop_nil]
  | cons segment rest ih =>
      have segmentFree : slash ∉ segment := free segment (by simp)
      have restFree : SlashFree rest := fun other otherMem =>
        free other (List.mem_cons_of_mem _ otherMem)
      by_cases enters : segmentMove segment = .enter
      · have normalized : normalizeSegments (segment :: rest) =
            segment :: resolve segmentMove [] (closeTrailing rest) := by
          simp [normalizeSegments, enters]
        have stackRuns := rewriteLoop_joinSegments restFree segmentFree
          (show SlashFree [] by simp [SlashFree])
        rw [joinSegments_nil, List.append_nil] at stackRuns
        rw [normalized, segmentsText, segmentsText, ← stackRuns]
        by_cases empty : segment = []
        · rw [empty, List.nil_append]
        · have nonempty : segment ++ joinSegments rest ≠ [] := by simp [empty]
          rw [rewriteLoop, dif_neg nonempty,
            rewriteStep_head segmentFree empty enters]
      · have nonempty : segmentsText (segment :: rest) ≠ [] := by
          intro textNil
          have segmentNil : segment = [] :=
            (List.append_eq_nil_iff.mp textNil).1
          exact enters (by rw [segmentNil, segmentMove_nil])
        have normalized : normalizeSegments (segment :: rest) =
            normalizeSegments rest := by
          simp [normalizeSegments, enters]
        rw [normalized, ← ih restFree, rewriteLoop, dif_neg nonempty,
          rewriteStep_leadingDots enters]

theorem replaceBackslashes_eq_map (input : WString) :
    replaceBackslashes input =
      input.map fun unit => if unit = backslash then slash else unit := by
  induction input using replaceBackslashes.induct with
  | case1 input position found ih =>
      rw [replaceBackslashes]
      split
      next other foundOther =>
        obtain rfl : position = other :=
          Option.some.inj (found.symm.trans foundOther)
        rw [ih]
        obtain ⟨front, rest, rfl, rfl⟩ := exists_of_find_unit found
        rw [replace_found]
        simp [slash, backslash]
      next missing => rw [found] at missing; cases missing
  | case2 input missing =>
      rw [replaceBackslashes]
      split
      next position found => rw [found] at missing; cases missing
      next =>
        have unchanged : ∀ unit ∈ input,
            (if unit = backslash then slash else unit) = id unit := by
          intro unit unitMem
          have notBackslash : unit ≠ backslash := by
            rintro rfl
            exact not_mem_of_find_unit missing unitMem
          exact if_neg notBackslash
        rw [List.map_congr_left unchanged, List.map_id]

/-- Splitting the rewritten name at `/` is splitting the raw name at both
separators. -/
theorem splitOn_replaceBackslashes (raw : WString) :
    (replaceBackslashes raw).splitOn slash = raw.splitOnP isSeparator := by
  rw [replaceBackslashes_eq_map, List.splitOn_eq_splitOnP]
  induction raw with
  | nil => rfl
  | cons unit rest ih =>
      rw [List.map_cons, List.splitOnP_cons_eq_if_modifyHead,
        List.splitOnP_cons_eq_if_modifyHead, ih]
      by_cases isBackslash : unit = backslash
      · simp [isBackslash, isSeparator]
      · by_cases isSlash : unit = slash <;>
          simp [isBackslash, isSlash, isSeparator]

/-- The output buffer, read off the segments of the raw name. -/
theorem normalize_eq_segmentsText (raw : WString) :
    normalize raw =
      segmentsText (normalizeSegments (raw.splitOnP isSeparator)) := by
  rw [normalize, ← splitOn_replaceBackslashes,
    ← rewriteLoop_segmentsText (slashFree_splitOn _), segmentsText_splitOn]

theorem resolve_closeTrailing (segments : List WString) :
    resolve segmentMove [] (closeTrailing segments) =
        survivors segmentMove segments ∨
      resolve segmentMove [] (closeTrailing segments) =
        survivors segmentMove segments ++ [[]] := by
  rw [resolve_eq_survivors, List.take_nil, List.nil_append]
  cases last : segments.getLast? with
  | none =>
      rw [List.getLast?_eq_none_iff.mp last]
      exact Or.inl rfl
  | some segment =>
      rw [closeTrailing, last]
      by_cases enters : segmentMove segment = .enter
      · simp [enters]
      · right
        simp only [enters, if_false]
        exact survivors_concat_enter segmentMove segments segmentMove_nil

end RelativeFilePath

end IISModuleJS
