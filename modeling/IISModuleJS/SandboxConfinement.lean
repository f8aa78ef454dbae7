import IISModuleJS.FileSystemApi
import Mathlib.Data.List.Forall2

/-!
# Which file names stay inside the filesystem directory

The rewriting loop leaves no dot segment in the path it computes, but the
operating system reads that path only as far as its first U+0000.  The cut can
turn an ordinary segment such as `..` U+0000 `x` into a dot segment.  This file
identifies the file names for which it does: the first surviving segment with a
U+0000 begins with `.` U+0000 or `..` U+0000.
-/

namespace IISModuleJS

namespace SandboxConfinement

open WString SegmentStack RelativeFilePath FileSystemApi

def IsDotSegment (segment : WString) : Prop :=
  segment = [dot] ∨ segment = [dot, dot]

instance (segment : WString) : Decidable (IsDotSegment segment) :=
  inferInstanceAs (Decidable (_ ∨ _))

/-- The path is the directory followed by separated segments, none of which is
a dot segment. -/
def Confined (directory path : WString) : Prop :=
  ∃ rest, path = directory ++ rest ∧
    (∀ unit ∈ rest.head?, isSeparator unit = true) ∧
      ∀ segment ∈ rest.splitOnP isSeparator, ¬ IsDotSegment segment

/-- The segments of a raw name that are not dropped: leading dot segments are,
and after the head every dot segment and every segment that a later `..` takes
back. -/
def survivingSegments (raw : WString) : List WString :=
  match (raw.splitOnP isSeparator).dropWhile (segmentMove · ≠ .enter) with
  | [] => []
  | head :: rest => head :: survivors segmentMove rest

/-- Cutting the name at the first U+0000 that survives does not leave a dot
segment. -/
def TruncationSafe (raw : WString) : Prop :=
  ∀ segment ∈ (survivingSegments raw).find? ((0 : WChar) ∈ ·),
    ¬ IsDotSegment (cString segment)

theorem isDotSegment_iff {segment : WString} :
    ¬ IsDotSegment segment ↔ segmentMove segment = .enter := by
  rw [segmentMove_eq_enter, IsDotSegment, not_or]

def SeparatorFree (segments : List WString) : Prop :=
  ∀ segment ∈ segments, ∀ unit ∈ segment, isSeparator unit = false

theorem separatorFree_splitOnP (text : WString) :
    SeparatorFree (text.splitOnP isSeparator) := by
  induction text with
  | nil => simp [SeparatorFree]
  | cons unit rest ih =>
      obtain ⟨first, others, split⟩ :=
        List.exists_cons_of_ne_nil (List.splitOnP_ne_nil isSeparator rest)
      rw [split] at ih
      rw [List.splitOnP_cons_eq_if_modifyHead, split]
      cases separates : isSeparator unit with
      | true => simpa [SeparatorFree] using ih
      | false => simpa [SeparatorFree, separates] using ih

theorem splitOnP_segmentsText {head : WString} {stack : List WString}
    (free : SeparatorFree (head :: stack)) :
    (segmentsText (head :: stack)).splitOnP isSeparator = head :: stack := by
  induction stack generalizing head with
  | nil =>
      have headFree : ∀ unit ∈ head, isSeparator unit = false :=
        free head (by simp)
      rw [segmentsText, joinSegments_nil, List.append_nil,
        List.splitOnP_eq_singleton headFree]
  | cons next stack ih =>
      have headFree : ∀ unit ∈ head, isSeparator unit = false :=
        free head (by simp)
      have restFree : SeparatorFree (next :: stack) := fun segment segmentMem =>
        free segment (List.mem_cons_of_mem _ segmentMem)
      rw [segmentsText, joinSegments_cons,
        List.splitOnP_append_cons_of_forall_mem headFree slash (by decide)]
      rw [← segmentsText, ih restFree]

/-- What the resolved path has after the directory. -/
def pathRest (raw : WString) : WString :=
  match (normalize raw).head? with
  | none => []
  | some first =>
      if isSeparator first then normalize raw else backslash :: normalize raw

theorem head_pathRest (raw : WString) :
    ∀ unit ∈ (pathRest raw).head?, isSeparator unit = true := by
  intro unit unitMem
  unfold pathRest at unitMem
  split at unitMem
  · simp at unitMem
  next first found =>
    split at unitMem
    next separates =>
      rw [found] at unitMem
      obtain rfl : first = unit := by simpa using unitMem
      exact separates
    next =>
      obtain rfl : backslash = unit := by simpa using unitMem
      decide

theorem getLast_fsDirectory (knownFolder appPoolFolderName : TerminatedString) :
    (fsDirectory knownFolder appPoolFolderName).getLast? = some 0x6D := by
  unfold fsDirectory pathAppend
  split
  · split <;> simp [filesystemName]
  · simp [filesystemName]

theorem resolvedPath_eq (knownFolder appPoolFolderName : TerminatedString)
    (raw : WString) :
    resolvedPath (fsDirectory knownFolder appPoolFolderName) raw =
      fsDirectory knownFolder appPoolFolderName ++ pathRest raw := by
  unfold resolvedPath pathRest
  rw [pathAppend, getLast_fsDirectory]
  cases found : (normalize raw).head? with
  | none =>
      rw [List.head?_eq_none_iff.mp found]
  | some first =>
      have lastSeparator : isSeparator 0x6D = false := by decide
      have lastColon : ((0x6D : WChar) == colon) = false := by decide
      simp only [lastSeparator, lastColon, Bool.or_false]
      split <;> rfl

theorem zero_not_mem_pathAppend {left right : WString}
    (leftFree : (0 : WChar) ∉ left) (rightFree : (0 : WChar) ∉ right) :
    (0 : WChar) ∉ pathAppend left right := by
  have notBackslash : (0 : WChar) ≠ backslash := by decide
  unfold pathAppend
  split
  · split <;> simp [leftFree, rightFree, notBackslash]
  · simp [leftFree, rightFree]

theorem zero_not_mem_fsDirectory
    (knownFolder appPoolFolderName : TerminatedString) :
    (0 : WChar) ∉ fsDirectory knownFolder appPoolFolderName := by
  apply zero_not_mem_pathAppend
  · exact zero_not_mem_pathAppend knownFolder.2 appPoolFolderName.2
  · decide

/-- A segment that is neither split further nor a dot segment. -/
structure PlainSegment (segment : WString) : Prop where
  separatorFree : ∀ unit ∈ segment, isSeparator unit = false
  notDot : ¬ IsDotSegment segment

theorem plainSegment_nil : PlainSegment [] :=
  ⟨by simp, by simp [IsDotSegment]⟩

theorem plainSegment_surviving (raw : WString) :
    ∀ segment ∈ survivingSegments raw, PlainSegment segment := by
  intro segment survives
  unfold survivingSegments at survives
  split at survives
  · cases survives
  next head rest kept =>
    have keptFree : SeparatorFree (head :: rest) := by
      intro other otherMem
      rw [← kept] at otherMem
      exact separatorFree_splitOnP raw other
        ((List.dropWhile_sublist _).subset otherMem)
    have headEnters : segmentMove head = .enter := by
      have headFails := List.head?_dropWhile_not
        (segmentMove · ≠ .enter) (raw.splitOnP isSeparator)
      rw [kept] at headFails
      simpa using headFails
    rcases List.mem_cons.mp survives with rfl | later
    · exact ⟨keptFree _ List.mem_cons_self,
        isDotSegment_iff.mpr headEnters⟩
    · obtain ⟨inRest, enters⟩ := survivors_enter segmentMove later
      exact ⟨keptFree _ (List.mem_cons_of_mem _ inRest),
        isDotSegment_iff.mpr enters⟩

/-- The normalized segments are the surviving ones up to empty segments, so
they are plain and their first U+0000 is the first one that survives. -/
theorem exists_normalizedSegments (raw : WString) :
    ∃ head stack,
      normalizeSegments (raw.splitOnP isSeparator) = head :: stack ∧
        (∀ segment ∈ head :: stack, PlainSegment segment) ∧
        (head :: stack).find? ((0 : WChar) ∈ ·) =
          (survivingSegments raw).find? ((0 : WChar) ∈ ·) := by
  have plain := plainSegment_surviving raw
  unfold normalizeSegments
  unfold survivingSegments at plain ⊢
  generalize (raw.splitOnP isSeparator).dropWhile
    (segmentMove · ≠ .enter) = kept at plain ⊢
  cases kept with
  | nil =>
      refine ⟨[], [], rfl, ?_, by simp⟩
      simpa using plainSegment_nil
  | cons head rest =>
      refine ⟨head, _, rfl, ?_⟩
      rcases resolve_closeTrailing rest with stackEq | stackEq
      · rw [stackEq]
        exact ⟨plain, rfl⟩
      · rw [stackEq, ← List.cons_append]
        constructor
        · intro segment segmentMem
          rcases List.mem_append.mp segmentMem with surviving | empty
          · exact plain segment surviving
          · rw [List.mem_singleton.mp empty]
            exact plainSegment_nil
        · have noZero : [([] : WString)].find? ((0 : WChar) ∈ ·) = none := by
            simp
          rw [List.find?_append, noZero, Option.or_none]

/-- The segments of the part below the directory: the normalized ones, after
an empty one when a separator was added. -/
theorem splitOnP_pathRest {raw head : WString} {stack : List WString}
    (normalized : normalizeSegments (raw.splitOnP isSeparator) =
      head :: stack)
    (plain : ∀ segment ∈ head :: stack, PlainSegment segment) :
    (pathRest raw).splitOnP isSeparator = head :: stack ∨
      (pathRest raw).splitOnP isSeparator = [] :: head :: stack := by
  have textEq : normalize raw = segmentsText (head :: stack) := by
    rw [normalize_eq_segmentsText, normalized]
  have splitText : (normalize raw).splitOnP isSeparator = head :: stack := by
    rw [textEq]
    exact splitOnP_segmentsText fun segment segmentMem =>
      (plain segment segmentMem).separatorFree
  unfold pathRest
  cases found : (normalize raw).head? with
  | none =>
      rw [List.head?_eq_none_iff.mp found] at splitText
      exact Or.inl splitText
  | some first =>
      by_cases separates : isSeparator first = true
      · simp only [separates, if_true]
        exact Or.inl splitText
      · simp only [separates]
        right
        have added : isSeparator backslash = true := by decide
        rw [if_neg (by simp), List.splitOnP_cons_eq_if_modifyHead,
          if_pos added, splitText]

/-- A name resolves to a path that the operating system reads as confined
exactly if the cut at its first surviving U+0000 leaves no dot segment. -/
theorem confined_resolvedPath_iff
    (knownFolder appPoolFolderName : TerminatedString) (raw : WString) :
    Confined (fsDirectory knownFolder appPoolFolderName)
        (cString (resolvedPath
          (fsDirectory knownFolder appPoolFolderName) raw)) ↔
      TruncationSafe raw := by
  obtain ⟨head, stack, normalized, plain, firstZero⟩ :=
    exists_normalizedSegments raw
  have cutEq : cString (resolvedPath
      (fsDirectory knownFolder appPoolFolderName) raw) =
        fsDirectory knownFolder appPoolFolderName ++
          cString (pathRest raw) := by
    rw [resolvedPath_eq]
    exact cut_append (zero_not_mem_fsDirectory _ _) _
  have splitCut : (cString (pathRest raw)).splitOnP isSeparator =
      cutSegments 0 ((pathRest raw).splitOnP isSeparator) :=
    splitOnP_cut (by decide) _
  have segmentsIff : (∀ segment ∈ (cString (pathRest raw)).splitOnP
      isSeparator, ¬ IsDotSegment segment) ↔ TruncationSafe raw := by
    rw [splitCut, TruncationSafe, ← firstZero]
    rcases splitOnP_pathRest normalized plain with split | split
    · rw [split]
      exact forall_cutSegments_iff fun segment segmentMem =>
        (plain segment segmentMem).notDot
    · rw [split, forall_cutSegments_iff, List.find?_cons_of_neg (by simp)]
      · rfl
      · intro segment segmentMem
        rcases List.mem_cons.mp segmentMem with rfl | inStack
        · exact plainSegment_nil.notDot
        · exact (plain segment inStack).notDot
  have cutHead : ∀ unit ∈ (cString (pathRest raw)).head?,
      isSeparator unit = true := by
    intro unit unitMem
    apply head_pathRest raw unit
    cases restEq : pathRest raw with
    | nil => simp [restEq, cString, cut] at unitMem
    | cons first others =>
        rw [restEq, cString, cut, List.takeWhile_cons] at unitMem
        split at unitMem
        · simpa using unitMem
        · simp at unitMem
  rw [cutEq, ← segmentsIff]
  constructor
  · rintro ⟨rest, pathEq, -, segments⟩
    rw [List.append_cancel_left pathEq]
    exact segments
  · intro segments
    exact ⟨_, rfl, cutHead, segments⟩

/-- After any history of calls, each file name of a call of the `fs` API is a
string, and the path that it sends to the operating system is confined exactly
if the name is safe to truncate. -/
theorem invoke_confined_iff
    (knownFolder appPoolFolderName : TerminatedString)
    (history : List FsCall) (call : FsCall) (osCall : OsCall)
    (next : PathCache)
    (returns : call.invoke (fsDirectory knownFolder appPoolFolderName)
      (cacheAfter (fsDirectory knownFolder appPoolFolderName) history) =
        .ok (osCall, next)) :
    List.Forall₂
      (fun (argument : JsValue) (path : WString) =>
        ∃ name, argument = .string name ∧
          (Confined (fsDirectory knownFolder appPoolFolderName) path ↔
            TruncationSafe name))
      call.fileNameArguments osCall.paths := by
  have sound := cacheAfter_sound
    (fsDirectory knownFolder appPoolFolderName) history
  obtain ⟨names, argumentsEq, pathsEq⟩ :=
    (invoke_resolved sound returns).paths
  rw [argumentsEq, pathsEq, List.forall₂_map_left_iff,
    List.forall₂_map_right_iff, List.forall₂_same]
  intro name _
  exact ⟨name, rfl, confined_resolvedPath_iff _ _ name⟩

/-- `C:` as the known folder. -/
def driveFolder : TerminatedString :=
  ⟨[0x43, colon], by decide⟩

/-- `p` as the application pool. -/
def poolFolder : TerminatedString :=
  ⟨[0x70], by decide⟩

theorem invoke_confined_iff_second_read :
    List.Forall₂
      (fun (argument : JsValue) (path : WString) =>
        ∃ name, argument = .string name ∧
          (Confined (fsDirectory driveFolder poolFolder) path ↔
            TruncationSafe name))
      [.string [0x61]]
      [cString (getRelativeFilePath (fsDirectory driveFolder poolFolder)
        (cacheAfter (fsDirectory driveFolder poolFolder)
          [⟨.read, [.string [0x61]]⟩]) [0x61]).1] :=
  invoke_confined_iff driveFolder poolFolder [⟨.read, [.string [0x61]]⟩]
    ⟨.read, [.string [0x61]]⟩ _ _ rfl

/-- `fs.exists` on `..` U+0000 asks the operating system about the parent of
the filesystem directory. -/
theorem fsExists_dotdot_zero_escapes :
    ∃ osCall next,
      FsCall.invoke ⟨.fileExists, [.string [dot, dot, 0]]⟩
          (fsDirectory driveFolder poolFolder)
          (cacheAfter (fsDirectory driveFolder poolFolder) []) =
        .ok (osCall, next) ∧
      osCall = .pathFileExists
        (fsDirectory driveFolder poolFolder ++ [backslash, dot, dot]) ∧
      ¬ ∀ path ∈ osCall.paths,
        Confined (fsDirectory driveFolder poolFolder) path := by
  have normalized : normalize [dot, dot, 0] = [dot, dot, 0] := by
    rw [normalize_eq_segmentsText]
    decide
  have pathEq : cString (resolvedPath (fsDirectory driveFolder poolFolder)
      [dot, dot, 0]) =
        fsDirectory driveFolder poolFolder ++ [backslash, dot, dot] := by
    rw [resolvedPath, normalized]
    decide
  have unsafeName : ¬ TruncationSafe [dot, dot, 0] := by
    intro safe
    exact safe [dot, dot, 0] (by decide) (by decide)
  refine ⟨_, _, rfl, congrArg OsCall.pathFileExists pathEq, ?_⟩
  intro allConfined
  have confined := allConfined _ (List.mem_singleton_self _)
  exact unsafeName ((confined_resolvedPath_iff _ _ _).mp confined)

end SandboxConfinement

end IISModuleJS
