import IISModuleJS.SandboxConfinement
import Mathlib.Data.Set.Operations
import Mathlib.Logic.Function.Iterate

/-!
# The rewriting loop and RFC 3986

The comments of `get_relative_file_path` quote `remove_dot_segments` of
RFC 3986 section 5.2.4 rule by rule.  The algorithm of the RFC is stated here
as a definition of its own, and the two are compared: they read the input
buffer alike and differ in one case, when `..` meets an output buffer without
a `/`.

The second part describes what the code computes by itself.  Its loops come to
an end, and the strings they produce are exactly the ones without backslashes
and dot segments, each of which they leave alone.
-/

namespace IISModuleJS

namespace RelativeFilePath

open WString SegmentStack

/-- Rule 2C on the output buffer: remove the last segment and its preceding
`/`, if any. -/
def rfcRemoveLastSegment (output : WString) : WString :=
  match findLastOf slash output with
  | some position => output.take position
  | none => []

/-- Rule 2E: the initial `/`, if any, and the characters up to the next
`/`. -/
def rfcSegmentLength : WString → Nat
  | [] => 0
  | _ :: rest => (rest.takeWhile (· ≠ slash)).length + 1

/-- One round of `remove_dot_segments`, rules 2A to 2E. -/
def rfcStep : Buffers → Buffers
  | ⟨input, output⟩ =>
      if [dot, dot, slash] <+: input then
        ⟨input.drop 3, output⟩
      else if [dot, slash] <+: input then
        ⟨input.drop 2, output⟩
      else if [slash, dot, slash] <+: input then
        ⟨slash :: input.drop 3, output⟩
      else if input = [slash, dot] then
        ⟨[slash], output⟩
      else if [slash, dot, dot, slash] <+: input then
        ⟨slash :: input.drop 4, rfcRemoveLastSegment output⟩
      else if input = [slash, dot, dot] then
        ⟨[slash], rfcRemoveLastSegment output⟩
      else if input = [dot] ∨ input = [dot, dot] then
        ⟨[], output⟩
      else
        ⟨input.drop (rfcSegmentLength input),
          output ++ input.take (rfcSegmentLength input)⟩

/-- Rule 2C applies. -/
def Climbs (input : WString) : Prop :=
  [slash, dot, dot, slash] <+: input ∨ input = [slash, dot, dot]

instance (input : WString) : Decidable (Climbs input) :=
  inferInstanceAs (Decidable (_ ∨ _))

theorem find_slash_eq (input : WString) :
    (find [slash] input).getD input.length =
      (input.takeWhile (· ≠ slash)).length := by
  induction input with
  | nil => rfl
  | cons unit rest ih =>
      by_cases here : unit = slash
      · simp [find, List.cons_prefix_cons, here]
      · have missing : ¬ [slash] <+: unit :: rest := by
          simpa [List.cons_prefix_cons] using Ne.symm here
        rw [find, if_neg missing, List.takeWhile_cons_of_pos (by simpa)]
        cases found : find [slash] rest with
        | none => simpa [found] using ih
        | some position => simpa [found] using ih

/-- The code finds the end of the first segment that the RFC moves. -/
theorem segmentEnd_eq_rfc (input : WString) :
    segmentEnd input = rfcSegmentLength input := by
  cases input with
  | nil => rfl
  | cons unit rest =>
      by_cases here : unit = slash
      · have atStart : find [slash] (unit :: rest) = some 0 := by
          simp [find_eq_zero, List.cons_prefix_cons, here]
        have next := find_slash_eq rest
        rw [segmentEnd, if_pos atStart, findFrom, rfcSegmentLength, ← next]
        cases found : find [slash] rest <;> simp [found]
      · have notAtStart : find [slash] (unit :: rest) ≠ some 0 := by
          simpa [find_eq_zero, List.cons_prefix_cons] using Ne.symm here
        rw [segmentEnd, if_neg notAtStart, find_slash_eq, rfcSegmentLength,
          List.takeWhile_cons_of_pos (by simpa), List.length_cons]

/-- The two algorithms do the same round, except that the code keeps an output
buffer without a `/` when rule 2C applies. -/
theorem rfcStep_eq (buffers : Buffers) :
    rfcStep buffers =
      ⟨(rewriteStep buffers).input,
        if Climbs buffers.input then rfcRemoveLastSegment buffers.output
        else (rewriteStep buffers).output⟩ := by
  obtain ⟨input, output⟩ := buffers
  by_cases climbs : Climbs input
  · rw [if_pos climbs]
    rcases climbs with ⟨rest, rfl⟩ | rfl
    · simp [rfcStep, rewriteStep, find_eq_zero, replace,
        List.cons_prefix_cons, slash, dot]
    · simp [rfcStep, rewriteStep, find_eq_zero, replace,
        List.cons_prefix_cons, slash, dot]
  · obtain ⟨notAbove, notAboveEnd⟩ := not_or.mp climbs
    simp only [rfcStep, rewriteStep, find_eq_zero, segmentEnd_eq_rfc,
      if_neg notAbove, if_neg notAboveEnd, if_neg climbs]
    split_ifs with parent here inside insideEnd alone
    · simp [replace]
    · simp [replace]
    · simp [replace]
    · simp [replace, insideEnd]
    · rfl
    · rfl

theorem rfcStep_length_lt {buffers : Buffers}
    (nonempty : buffers.input ≠ []) :
    (rfcStep buffers).input.length < buffers.input.length := by
  rw [rfcStep_eq]
  exact rewriteStep_length_lt nonempty

/-- Rounds until the input buffer is empty. -/
def rfcLoop (buffers : Buffers) : WString :=
  if _empty : buffers.input = [] then
    buffers.output
  else
    rfcLoop (rfcStep buffers)
termination_by buffers.input.length
decreasing_by exact rfcStep_length_lt _empty

/-- `remove_dot_segments` of RFC 3986 section 5.2.4. -/
def rfcRemoveDotSegments (path : WString) : WString :=
  rfcLoop ⟨path, []⟩

/-- The first segment that is not a leading dot segment stays: it is empty
because the name begins with a separator, or no later `..` reaches it. -/
def HeadKept (raw : WString) : Prop :=
  ∀ head rest,
    (raw.splitOnP isSeparator).dropWhile (segmentMove · ≠ .enter) =
      head :: rest →
    head = [] ∨ unmatched segmentMove rest = 0

theorem rfcLoop_nil (output : WString) : rfcLoop ⟨[], output⟩ = output := by
  rw [rfcLoop, dif_pos rfl]

theorem rfcLoop_step {buffers : Buffers} (nonempty : buffers.input ≠ []) :
    rfcLoop buffers = rfcLoop (rfcStep buffers) := by
  rw [rfcLoop, dif_neg nonempty]

theorem rfcRemoveLastSegment_joinSegments {head : WString}
    {stack : List WString} (headFree : slash ∉ head)
    (stackFree : SlashFree stack) :
    rfcRemoveLastSegment (head ++ joinSegments stack) =
      (if stack = [] then [] else head) ++ joinSegments stack.dropLast := by
  rcases List.eq_nil_or_concat' stack with rfl | ⟨front, last, rfl⟩
  · simp [rfcRemoveLastSegment, findLastOf_eq_none headFree]
  · have lastFree : slash ∉ last := stackFree last (by simp)
    have textEq : head ++ joinSegments (front ++ [last]) =
        (head ++ joinSegments front) ++ slash :: last := by
      simp
    rw [textEq, rfcRemoveLastSegment, findLastOf_append lastFree,
      List.dropLast_concat, if_neg (by simp)]
    exact List.take_left

theorem climbs_joinSegments {segment : WString} (free : slash ∉ segment)
    (rest : List WString) :
    Climbs (joinSegments (segment :: rest)) ↔ segment = [dot, dot] := by
  have dotdotFree : slash ∉ [dot, dot] := by simp [slash, dot]
  have above : [slash, dot, dot, slash] <+: joinSegments (segment :: rest) ↔
      segment = [dot, dot] ∧ rest ≠ [] := by
    rw [joinSegments_cons, List.cons_prefix_cons, and_iff_right rfl]
    exact prefix_append_joinSegments dotdotFree free
  have aboveEnd : joinSegments (segment :: rest) = [slash, dot, dot] ↔
      segment = [dot, dot] ∧ rest = [] := by
    rw [joinSegments_cons, List.cons_eq_cons, and_iff_right rfl]
    exact append_joinSegments_eq dotdotFree
  rw [Climbs, above, aboveEnd]
  tauto

/-- What a segment leaves of the head: `..` takes it when nothing is above
it. -/
def rfcHead (head : WString) (stack : List WString) (segment : WString) :
    WString :=
  if segmentMove segment = .up ∧ stack = [] then [] else head

theorem rfcLoop_enter {segment : WString} (free : slash ∉ segment)
    (enters : segmentMove segment = .enter) (rest : List WString)
    (head : WString) (stack : List WString) :
    rfcLoop ⟨joinSegments (segment :: rest), head ++ joinSegments stack⟩ =
      rfcLoop ⟨joinSegments rest,
        head ++ joinSegments (stack ++ [segment])⟩ := by
  have stays : ¬ Climbs (joinSegments (segment :: rest)) := by
    rw [climbs_joinSegments free]
    exact (segmentMove_eq_enter.mp enters).2
  rw [rfcLoop_step (by simp), rfcStep_eq, if_neg stays,
    rewriteStep_enter free enters]
  simp

theorem rfcLoop_dotSegment {segment : WString}
    (notEnter : segmentMove segment ≠ .enter) (rest : List WString)
    {head : WString} (headFree : slash ∉ head) {stack : List WString}
    (stackFree : SlashFree stack) :
    rfcLoop ⟨joinSegments (segment :: rest), head ++ joinSegments stack⟩ =
      rfcLoop ⟨joinSegments (afterDotSegment rest),
        rfcHead head stack segment ++
          joinSegments (push segmentMove stack segment)⟩ := by
  rw [rfcLoop_step (by simp), rfcStep_eq]
  by_cases isDot : segment = [dot]
  · subst isDot
    have stays : ¬ Climbs (joinSegments ([dot] :: rest)) := by
      rw [climbs_joinSegments (by simp [slash, dot])]
      simp
    rw [if_neg stays, rewriteStep_stay, rfcHead, push, segmentMove_dot]
    simp
  · have isDotdot : segment = [dot, dot] := by
      by_contra notDotdot
      exact notEnter (segmentMove_eq_enter.mpr ⟨isDot, notDotdot⟩)
    subst isDotdot
    have climbs : Climbs (joinSegments ([dot, dot] :: rest)) := by
      rw [climbs_joinSegments (by simp [slash, dot])]
    rw [if_pos climbs, rewriteStep_up, rfcHead, push, segmentMove_dotdot,
      rfcRemoveLastSegment_joinSegments headFree stackFree]
    simp

theorem slash_not_mem_rfcHead {head : WString} (headFree : slash ∉ head)
    (stack : List WString) (segment : WString) :
    slash ∉ rfcHead head stack segment := by
  unfold rfcHead
  split
  · simp
  · exact headFree

/-- The head is kept by a dot segment and the segments after it as long as
their pops find enough entries. -/
theorem keeps_dotSegment {segment : WString}
    (notEnter : segmentMove segment ≠ .enter) (rest : List WString)
    (head : WString) (stack : List WString) :
    (if unmatched segmentMove (segment :: rest) ≤ stack.length then head
      else []) =
      if unmatched segmentMove rest ≤
          (push segmentMove stack segment).length then
        rfcHead head stack segment
      else [] := by
  cases moved : segmentMove segment with
  | stay => simp [unmatched, push, rfcHead, moved]
  | up =>
      by_cases empty : stack = []
      · simp [unmatched, push, rfcHead, moved, empty]
      · have positive : 0 < stack.length := List.length_pos_iff.mpr empty
        have fewer : unmatched segmentMove rest + 1 ≤ stack.length ↔
            unmatched segmentMove rest ≤ stack.length - 1 := by
          omega
        simp [unmatched, push, rfcHead, moved, empty, fewer]
  | enter => exact (notEnter moved).elim

/-- The loop of the RFC resolves the remaining segments on the stack, and
loses the head to the first `..` that finds the stack empty. -/
theorem rfcLoop_joinSegments {segments : List WString}
    (free : SlashFree segments) {head : WString} (headFree : slash ∉ head)
    {stack : List WString} (stackFree : SlashFree stack) :
    rfcLoop ⟨joinSegments segments, head ++ joinSegments stack⟩ =
      (if unmatched segmentMove segments ≤ stack.length then head else []) ++
        joinSegments
          (resolve segmentMove stack (closeTrailing segments)) := by
  induction segments generalizing head stack with
  | nil => simp [rfcLoop_nil, closeTrailing, resolve, unmatched]
  | cons segment rest ih =>
      have segmentFree : slash ∉ segment := free segment (by simp)
      have restFree : SlashFree rest := fun other otherMem =>
        free other (List.mem_cons_of_mem _ otherMem)
      have pushFree := slashFree_push stackFree segmentFree
      by_cases enters : segmentMove segment = .enter
      · have restRuns := ih restFree headFree pushFree
        have fewer : unmatched segmentMove (segment :: rest) ≤
              stack.length ↔
            unmatched segmentMove rest ≤
              (push segmentMove stack segment).length := by
          simp only [unmatched, enters, push, List.length_append,
            List.length_singleton]
          omega
        rw [rfcLoop_enter segmentFree enters, closeTrailing_cons]
        simp only [fewer]
        rw [push, enters] at restRuns ⊢
        rw [restRuns]
        by_cases last : rest = []
        · simp [last, enters, closeTrailing, resolve, push]
        · simp [last, enters, resolve, push]
      · have leftFree := slash_not_mem_rfcHead headFree stack segment
        have restRuns := ih restFree leftFree pushFree
        rw [rfcLoop_dotSegment enters rest headFree stackFree,
          closeTrailing_cons, keeps_dotSegment enters]
        by_cases last : rest = []
        · subst last
          have emptyFree : slash ∉ ([] : WString) := by simp
          rw [afterDotSegment, if_pos rfl, rfcLoop_enter emptyFree
            segmentMove_nil, joinSegments_nil, rfcLoop_nil]
          simp [enters, resolve, push, unmatched]
        · rw [afterDotSegment, if_neg last, restRuns]
          simp [last, resolve]

theorem rfcStep_leadingDots {segment : WString}
    (notEnter : segmentMove segment ≠ .enter) (rest : List WString) :
    rfcStep ⟨segmentsText (segment :: rest), []⟩ =
      ⟨segmentsText rest, []⟩ := by
  rw [rfcStep_eq, rewriteStep_leadingDots notEnter]
  split
  · rfl
  · rfl

theorem rfcStep_head {head : WString} (free : slash ∉ head)
    (nonempty : head ≠ []) (enters : segmentMove head = .enter)
    (rest : List WString) :
    rfcStep ⟨head ++ joinSegments rest, []⟩ = ⟨joinSegments rest, head⟩ := by
  obtain ⟨first, others, rfl⟩ := List.exists_cons_of_ne_nil nonempty
  have firstNotSlash : slash ≠ first := by
    rintro rfl
    exact free (by simp)
  have stays : ¬ Climbs (first :: others ++ joinSegments rest) := by
    rintro (above | aboveEnd)
    · exact firstNotSlash (List.cons_prefix_cons.mp above).1
    · exact firstNotSlash (List.cons.inj aboveEnd).1.symm
  rw [rfcStep_eq, if_neg stays, rewriteStep_head free nonempty enters]

/-- What the loop of the RFC leaves: the segments behind the head are resolved
as in the code, and the head is lost if a `..` reaches it. -/
theorem rfcLoop_segmentsText {segments : List WString}
    (free : SlashFree segments) :
    rfcLoop ⟨segmentsText segments, []⟩ =
      match segments.dropWhile (segmentMove · ≠ .enter) with
      | [] => []
      | head :: rest =>
          (if unmatched segmentMove rest = 0 then head else []) ++
            joinSegments
              (resolve segmentMove [] (closeTrailing rest)) := by
  induction segments with
  | nil => simp [segmentsText, rfcLoop_nil]
  | cons segment rest ih =>
      have segmentFree : slash ∉ segment := free segment (by simp)
      have restFree : SlashFree rest := fun other otherMem =>
        free other (List.mem_cons_of_mem _ otherMem)
      by_cases enters : segmentMove segment = .enter
      · have stackRuns := rfcLoop_joinSegments restFree segmentFree
          (show SlashFree [] by simp [SlashFree])
        simp only [joinSegments_nil, List.append_nil, List.length_nil,
          Nat.le_zero] at stackRuns
        have kept : (segment :: rest).dropWhile (segmentMove · ≠ .enter) =
            segment :: rest := by
          simp [enters]
        rw [kept, segmentsText]
        dsimp only
        rw [← stackRuns]
        by_cases empty : segment = []
        · rw [empty, List.nil_append]
        · have nonempty : segment ++ joinSegments rest ≠ [] := by simp [empty]
          rw [rfcLoop_step nonempty, rfcStep_head segmentFree empty enters]
      · have nonempty : segmentsText (segment :: rest) ≠ [] := by
          intro textNil
          have segmentNil : segment = [] :=
            (List.append_eq_nil_iff.mp textNil).1
          exact enters (by rw [segmentNil, segmentMove_nil])
        have dropped : (segment :: rest).dropWhile
            (segmentMove · ≠ .enter) =
              rest.dropWhile (segmentMove · ≠ .enter) := by
          simp [enters]
        rw [dropped, ← ih restFree, rfcLoop_step nonempty,
          rfcStep_leadingDots enters]

/-- The name with every backslash replaced by `/`. -/
def withSlashes (raw : WString) : WString :=
  raw.map fun unit => if unit = backslash then slash else unit

theorem segmentsText_splitOnP (raw : WString) :
    segmentsText (raw.splitOnP isSeparator) = withSlashes raw := by
  rw [← splitOn_replaceBackslashes, segmentsText_splitOn,
    replaceBackslashes_eq_map, withSlashes]

theorem slashFree_splitOnP (raw : WString) :
    SlashFree (raw.splitOnP isSeparator) := by
  rw [← splitOn_replaceBackslashes]
  exact slashFree_splitOn _

/-- The code computes what the RFC computes exactly for the names whose head
is kept. -/
theorem normalize_eq_rfcRemoveDotSegments_iff (raw : WString) :
    normalize raw = rfcRemoveDotSegments (withSlashes raw) ↔
      HeadKept raw := by
  rw [normalize_eq_segmentsText, rfcRemoveDotSegments,
    ← segmentsText_splitOnP, rfcLoop_segmentsText (slashFree_splitOnP raw),
    normalizeSegments, HeadKept]
  cases left : (raw.splitOnP isSeparator).dropWhile
      (segmentMove · ≠ .enter) with
  | nil => simp [segmentsText]
  | cons head rest =>
      by_cases kept : unmatched segmentMove rest = 0
      · simp [segmentsText, kept]
      · simp [segmentsText, kept]

/-- On `a/../b` the code returns `a/b`, the RFC `/b`. -/
theorem normalize_ne_rfcRemoveDotSegments_takenBack :
    normalize [0x61, slash, dot, dot, slash, 0x62] = [0x61, slash, 0x62] ∧
      rfcRemoveDotSegments
          (withSlashes [0x61, slash, dot, dot, slash, 0x62]) =
        [slash, 0x62] ∧
      normalize [0x61, slash, dot, dot, slash, 0x62] ≠
        rfcRemoveDotSegments
          (withSlashes [0x61, slash, dot, dot, slash, 0x62]) := by
  have code : normalize [0x61, slash, dot, dot, slash, 0x62] =
      [0x61, slash, 0x62] := by
    rw [normalize_eq_segmentsText]
    decide
  have rfc : rfcRemoveDotSegments
      (withSlashes [0x61, slash, dot, dot, slash, 0x62]) =
        [slash, 0x62] := by
    rw [rfcRemoveDotSegments, ← segmentsText_splitOnP,
      rfcLoop_segmentsText (slashFree_splitOnP _)]
    decide
  refine ⟨code, rfc, ?_⟩
  rw [code, rfc]
  decide

/-- No backslash, and no dot segment between the slashes. -/
def NormalForm (text : WString) : Prop :=
  backslash ∉ text ∧
    ∀ segment ∈ text.splitOn slash,
      segment ≠ [dot] ∧ segment ≠ [dot, dot]

instance (text : WString) : Decidable (NormalForm text) :=
  inferInstanceAs (Decidable (_ ∧ _))

/-- One round of the backslash loop. -/
def replaceBackslash (input : WString) : WString :=
  match find [backslash] input with
  | some position => replace input position 1 [slash]
  | none => input

/-- A loop whose rounds shrink a measure until it is done takes at most that
many rounds, and none of them after it is done. -/
theorem exists_rounds {State : Type*} {step : State → State}
    {done : State → Prop} {measure : State → Nat}
    (shrinks : ∀ state, ¬ done state → measure (step state) < measure state)
    (state : State) :
    ∃ rounds ≤ measure state, done (step^[rounds] state) ∧
      ∀ earlier < rounds, ¬ done (step^[earlier] state) := by
  generalize bound : measure state = size
  induction size using Nat.strong_induction_on generalizing state with
  | _ size ih =>
      by_cases finished : done state
      · exact ⟨0, Nat.zero_le _, finished, fun earlier lt => by omega⟩
      · have smaller := shrinks state finished
        obtain ⟨rounds, few, ends, before⟩ :=
          ih _ (bound ▸ smaller) (step state) rfl
        refine ⟨rounds + 1, by omega, ends, ?_⟩
        intro earlier lt
        cases earlier with
        | zero => exact finished
        | succ earlier => exact before earlier (by omega)

theorem count_replaceBackslash_lt {input : WString}
    (found : find [backslash] input ≠ none) :
    (replaceBackslash input).count backslash < input.count backslash := by
  obtain ⟨position, foundAt⟩ := Option.ne_none_iff_exists'.mp found
  obtain ⟨front, rest, rfl, rfl⟩ := exists_of_find_unit foundAt
  rw [replaceBackslash, foundAt]
  dsimp only
  rw [replace_found]
  simp [List.count_append, slash, backslash]

theorem replaceBackslashes_replaceBackslash (input : WString) :
    replaceBackslashes (replaceBackslash input) =
      replaceBackslashes input := by
  unfold replaceBackslash
  split
  next position found =>
    obtain ⟨front, rest, rfl, rfl⟩ := exists_of_find_unit found
    rw [replace_found, replaceBackslashes_eq_map, replaceBackslashes_eq_map]
    simp [slash, backslash]
  next => rfl

theorem replaceBackslashes_of_find {input : WString}
    (missing : find [backslash] input = none) :
    replaceBackslashes input = input := by
  rw [replaceBackslashes]
  split
  next position found => rw [found] at missing; cases missing
  next => rfl

/-- The backslash loop comes to an end. -/
theorem exists_rounds_replaceBackslashes (input : WString) :
    ∃ rounds ≤ input.length,
      replaceBackslash^[rounds] input = replaceBackslashes input ∧
        find [backslash] (replaceBackslashes input) = none ∧
        ∀ earlier < rounds,
          find [backslash] (replaceBackslash^[earlier] input) ≠ none := by
  obtain ⟨rounds, few, ends, before⟩ :=
    exists_rounds (fun text (found : find [backslash] text ≠ none) =>
      count_replaceBackslash_lt found) input
  have kept : replaceBackslashes (replaceBackslash^[rounds] input) =
      replaceBackslashes input := by
    clear few ends before
    induction rounds with
    | zero => rfl
    | succ rounds ih =>
        rw [Function.iterate_succ_apply',
          replaceBackslashes_replaceBackslash, ih]
  have result : replaceBackslash^[rounds] input =
      replaceBackslashes input := by
    rw [← kept, replaceBackslashes_of_find ends]
  refine ⟨rounds, few.trans List.count_le_length, result, ?_, before⟩
  rw [← result]
  exact ends

/-- The rewriting loop comes to an end. -/
theorem exists_rounds_rewriteLoop (buffers : Buffers) :
    ∃ rounds ≤ buffers.input.length,
      rewriteStep^[rounds] buffers = ⟨[], rewriteLoop buffers⟩ ∧
        ∀ earlier < rounds, (rewriteStep^[earlier] buffers).input ≠ [] := by
  obtain ⟨rounds, few, ends, before⟩ :=
    @exists_rounds Buffers rewriteStep (·.input = []) (·.input.length)
      (fun _ left => rewriteStep_length_lt left) buffers
  have kept : rewriteLoop (rewriteStep^[rounds] buffers) =
      rewriteLoop buffers := by
    clear few ends
    induction rounds with
    | zero => rfl
    | succ rounds ih =>
        have left := before rounds (Nat.lt_succ_self rounds)
        rw [← ih fun earlier lt => before earlier (Nat.lt_succ_of_lt lt),
          Function.iterate_succ_apply']
        conv_rhs => rw [rewriteLoop, dif_neg left]
  refine ⟨rounds, few, ?_, before⟩
  rw [rewriteLoop, dif_pos ends] at kept
  rw [← kept, ← ends]

theorem length_replaceBackslashes (raw : WString) :
    (replaceBackslashes raw).length = raw.length := by
  rw [replaceBackslashes_eq_map, List.length_map]

theorem splitOnP_isSeparator {text : WString} (free : backslash ∉ text) :
    text.splitOnP isSeparator = text.splitOn slash := by
  have unchanged : replaceBackslashes text = text :=
    replaceBackslashes_of_find (find_unit_eq_none free)
  rw [← splitOn_replaceBackslashes, unchanged]

theorem backslash_not_mem_segmentsText {segments : List WString}
    (free : SandboxConfinement.SeparatorFree segments) :
    backslash ∉ segmentsText segments := by
  have absent : ∀ segment ∈ segments, backslash ∉ segment := by
    intro segment segmentMem inSegment
    have plain := free segment segmentMem backslash inSegment
    revert plain
    decide
  have notSlash : backslash ≠ slash := by decide
  cases segments with
  | nil => simp [segmentsText]
  | cons head rest =>
      rw [segmentsText, List.mem_append, joinSegments, List.mem_flatMap]
      rintro (inHead | ⟨segment, segmentMem, inSegment⟩)
      · exact absent head List.mem_cons_self inHead
      · rcases List.mem_cons.mp inSegment with isSlash | inside
        · exact notSlash isSlash
        · exact absent segment (List.mem_cons_of_mem _ segmentMem) inside

/-- The loops leave a string in normal form. -/
theorem normalForm_normalize (raw : WString) :
    NormalForm (normalize raw) := by
  obtain ⟨head, stack, normalized, plain, -⟩ :=
    SandboxConfinement.exists_normalizedSegments raw
  have textEq : normalize raw = segmentsText (head :: stack) := by
    rw [normalize_eq_segmentsText, normalized]
  have separatorFree : SandboxConfinement.SeparatorFree (head :: stack) :=
    fun segment segmentMem => (plain segment segmentMem).separatorFree
  have split : (normalize raw).splitOnP isSeparator = head :: stack := by
    rw [textEq]
    exact SandboxConfinement.splitOnP_segmentsText separatorFree
  have free : backslash ∉ normalize raw := by
    rw [textEq]
    exact backslash_not_mem_segmentsText separatorFree
  refine ⟨free, ?_⟩
  rw [← splitOnP_isSeparator free, split]
  intro segment segmentMem
  exact not_or.mp (plain segment segmentMem).notDot

theorem resolve_of_enter {segments : List WString}
    (enter : ∀ segment ∈ segments, segmentMove segment = .enter)
    (stack : List WString) :
    resolve segmentMove stack segments = stack ++ segments := by
  induction segments generalizing stack with
  | nil => simp [resolve]
  | cons segment rest ih =>
      have restEnter : ∀ other ∈ rest, segmentMove other = .enter :=
        fun other otherMem => enter other (List.mem_cons_of_mem _ otherMem)
      have pushed : push segmentMove stack segment = stack ++ [segment] := by
        rw [push, enter segment List.mem_cons_self]
      have unfolded : resolve segmentMove stack (segment :: rest) =
          resolve segmentMove (push segmentMove stack segment) rest := rfl
      rw [unfolded, pushed, ih restEnter, List.append_assoc,
        List.singleton_append]

theorem closeTrailing_of_enter {segments : List WString}
    (enter : ∀ segment ∈ segments, segmentMove segment = .enter) :
    closeTrailing segments = segments := by
  unfold closeTrailing
  split
  next empty => exact (List.getLast?_eq_none_iff.mp empty).symm
  next last found =>
    rw [if_pos (enter last (List.mem_of_getLast? found))]

theorem normalizeSegments_of_enter {segments : List WString}
    (nonempty : segments ≠ [])
    (enter : ∀ segment ∈ segments, segmentMove segment = .enter) :
    normalizeSegments segments = segments := by
  obtain ⟨head, rest, rfl⟩ := List.exists_cons_of_ne_nil nonempty
  have restEnter : ∀ other ∈ rest, segmentMove other = .enter :=
    fun other otherMem => enter other (List.mem_cons_of_mem _ otherMem)
  have kept : (head :: rest).dropWhile (segmentMove · ≠ .enter) =
      head :: rest := by
    simp [enter head]
  rw [normalizeSegments, kept]
  dsimp only
  rw [closeTrailing_of_enter restEnter, resolve_of_enter restEnter,
    List.nil_append]

/-- The loops leave a string in normal form alone. -/
theorem normalize_of_normalForm {text : WString}
    (normal : NormalForm text) : normalize text = text := by
  obtain ⟨free, plain⟩ := normal
  have enter : ∀ segment ∈ text.splitOn slash,
      segmentMove segment = .enter := by
    intro segment segmentMem
    exact segmentMove_eq_enter.mpr (plain segment segmentMem)
  rw [normalize_eq_segmentsText, splitOnP_isSeparator free,
    normalizeSegments_of_enter (List.splitOn_ne_nil slash text) enter,
    segmentsText_splitOn]

/-- Both loops end after at most as many rounds as the name has characters,
their result is in normal form, and names in normal form are returned
unchanged; so normalising is idempotent, and its image is the set of strings
in normal form. -/
theorem normalize_projects_onto_normalForm (raw : WString) :
    (∃ rounds ≤ raw.length,
      replaceBackslash^[rounds] raw = replaceBackslashes raw ∧
        find [backslash] (replaceBackslashes raw) = none ∧
        ∀ earlier < rounds,
          find [backslash] (replaceBackslash^[earlier] raw) ≠ none) ∧
    (∃ rounds ≤ raw.length,
      rewriteStep^[rounds] ⟨replaceBackslashes raw, []⟩ =
          ⟨[], normalize raw⟩ ∧
        ∀ earlier < rounds,
          (rewriteStep^[earlier] ⟨replaceBackslashes raw, []⟩).input ≠ []) ∧
    NormalForm (normalize raw) ∧
    (NormalForm raw → normalize raw = raw) ∧
    normalize (normalize raw) = normalize raw ∧
    Set.range normalize = {text | NormalForm text} := by
  refine ⟨exists_rounds_replaceBackslashes raw, ?_, normalForm_normalize raw,
    normalize_of_normalForm, normalize_of_normalForm (normalForm_normalize raw),
    ?_⟩
  · have rounds := exists_rounds_rewriteLoop ⟨replaceBackslashes raw, []⟩
    rw [length_replaceBackslashes] at rounds
    exact rounds
  · ext text
    constructor
    · rintro ⟨source, rfl⟩
      exact normalForm_normalize source
    · intro normal
      exact ⟨text, normalize_of_normalForm normal⟩

end RelativeFilePath

end IISModuleJS
