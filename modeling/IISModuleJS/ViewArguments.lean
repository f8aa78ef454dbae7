import IISModuleJS.AsyncWorkers
import IISModuleJS.FileContents
import IISModuleJS.ResponseWrite

/-!
# `Uint8Array` arguments and their views

A `Uint8Array` is a window into an `ArrayBuffer`.  Three functions of the API
take one as a sequence of bytes: `response.write`, `fs.write` and
`gzip.decompress`.  All three ask the view for its buffer and take the contents
of the buffer, so that the offset and the length of the view play no part.

They do what the script asks for exactly if the view covers its buffer.  For
`response.write` it also matters what the memory of the pointer in
`Utf8ValueScoped` held before, since it is only set for strings.
-/

namespace IISModuleJS

namespace ViewArguments

open JsValue FileContents RelativeFilePath FileSystemApi AsyncWorkers
open EffectProgram.Program ResponseWrite

/-- The argument checks of `gzip.decompress`, and the operation that its worker
performs.  The worker gets a pointer to the contents and their length. -/
def decompress (args : List JsValue) : Except String Operation :=
  if args.length < 1 then
    .error "invalid function signature for gzip.decompress"
  else
    match argument args 0 with
    | .uint8Array view => .ok (.gzipDecompress view.buffer)
    | _ =>
        .error
          "invalid first parameter, must be a uint8array for gzip.decompress"

/-- `TypedArray::kMaxLength`. -/
def typedArrayMaxLength : Nat := 2 ^ 31 - 1

/-- What it means for a view as an argument: the bytes that IIS, `fwrite` and
`gzip::decompress` get are those that the view shows. -/
structure MeansView (pointerIsNull : Bool) (view : Uint8Array) : Prop where
  responseWrite : ∀ (rest : List JsValue) (fuel : Nat),
    chunkCount view.buffer.length ≤ fuel →
      ∃ written, ResponseWrite.write true pointerIsNull (fun _ => true) fuel
          (.uint8Array view :: rest) = some (.returns .undefined, written) ∧
        written.chunks.flatten = viewBytes view
  fsWrite : ∀ (directory : WString) (history : List FsCall) (disk : Disk)
    (mayOpen : WString → OpenMode → Bool) (name : WString)
    (rest : List JsValue),
    (∀ mode, mayOpen (osPath directory name) mode = true) →
      (FileContents.write directory mayOpen
          ⟨cacheAfter directory history, disk⟩
          (.string name :: .uint8Array view :: rest)).2.disk
          (osPath directory name) =
        some ((if optionalFlag (.string name :: .uint8Array view :: rest) 2
          then (disk (osPath directory name)).getD [] else []) ++
            viewBytes view)
  gzipDecompress : ∀ rest : List JsValue,
    ∃ operation, decompress (.uint8Array view :: rest) = .ok operation ∧
      ∀ trace value, Runs operation.worker trace value →
        trace.head? = some (.library (.gzipDecompress (viewBytes view)))

theorem length_viewBytes (view : Uint8Array) :
    (viewBytes view).length = view.length := by
  have inBounds := view.inBounds
  rw [viewBytes, List.length_take, List.length_drop]
  omega

/-- A view that shows its whole buffer covers it. -/
theorem viewBytes_eq_buffer_iff (view : Uint8Array) :
    viewBytes view = view.buffer ↔ SpansBuffer view := by
  constructor
  · intro same
    have length := congrArg List.length same
    have inBounds := view.inBounds
    rw [length_viewBytes] at length
    exact ⟨by omega, length⟩
  · exact viewBytes_of_spansBuffer

/-- `gzip::decompress` gets the contents of the buffer. -/
theorem decompress_head {view : Uint8Array} {rest : List JsValue}
    {operation : Operation}
    (accepted : decompress (.uint8Array view :: rest) = .ok operation)
    {trace : List Effect} {value : Unit}
    (runs : Runs operation.worker trace value) :
    trace.head? = some (.library (.gzipDecompress view.buffer)) := by
  have given : decompress (.uint8Array view :: rest) =
      .ok (.gzipDecompress view.buffer) := rfl
  rw [given] at accepted
  cases accepted
  obtain ⟨_, later, rfl, -⟩ := runs_effect_bind.mp runs
  rfl

/-- What `fs.write` leaves in a file that it opens. -/
theorem fsWrite_disk (directory : WString) (history : List FsCall) (disk : Disk)
    (mayOpen : WString → OpenMode → Bool) (name : WString)
    (opens : ∀ mode, mayOpen (osPath directory name) mode = true)
    (view : Uint8Array) (rest : List JsValue) :
    (FileContents.write directory mayOpen ⟨cacheAfter directory history, disk⟩
        (.string name :: .uint8Array view :: rest)).2.disk
        (osPath directory name) =
      some ((if optionalFlag (.string name :: .uint8Array view :: rest) 2
        then (disk (osPath directory name)).getD [] else []) ++
          view.buffer) := by
  have written : writtenBytes (.uint8Array view) = some view.buffer := rfl
  rw [write_eq (cacheAfter_sound directory history) opens written]
  simp only [Function.update_self]

/-- IIS gets the contents of the buffer if the pointer happens to be null. -/
theorem responseWrite_chunks {view : Uint8Array}
    (small : view.buffer.length < 2 ^ 32) (rest : List JsValue) {fuel : Nat}
    (enough : chunkCount view.buffer.length ≤ fuel) :
    ∃ written, ResponseWrite.write true true (fun _ => true) fuel
        (.uint8Array view :: rest) = some (.returns .undefined, written) ∧
      written.chunks.flatten = view.buffer := by
  have size : view.buffer.length.toUInt32.toNat = view.buffer.length :=
    UInt32.toNat_ofNat_of_lt' small
  rw [← size] at enough
  exact ⟨_, write_returns rfl enough (fun _ _ => rfl),
    flatten_chunkBytes small⟩

/-- If the pointer is not null, nothing is known about the call. -/
theorem responseWrite_undefined (view : Uint8Array) (rest : List JsValue)
    (fuel : Nat) :
    ResponseWrite.write true false (fun _ => true) fuel
        (.uint8Array view :: rest) = some (.undefinedBehavior, ⟨[], []⟩) :=
  rfl

/-- Already `gzip.decompress` needs a view that covers its buffer. -/
theorem MeansView.spansBuffer {pointerIsNull : Bool} {view : Uint8Array}
    (means : MeansView pointerIsNull view) : SpansBuffer view := by
  obtain ⟨operation, accepted, heads⟩ := means.gzipDecompress []
  obtain ⟨trace, value, runs⟩ := exists_runs nonempty_result operation.worker
  have same := (decompress_head accepted runs).symm.trans
    (heads trace value runs)
  simp only [Option.some.injEq, Effect.library.injEq,
    LibraryCall.gzipDecompress.injEq] at same
  exact (viewBytes_eq_buffer_iff view).mp same.symm

/-- The three functions take a view for the bytes that it shows exactly if it
covers its buffer and, for `response.write`, the memory of the pointer was
zero. -/
theorem meansView_iff (pointerIsNull : Bool) {view : Uint8Array}
    (allowed : view.length ≤ typedArrayMaxLength) :
    MeansView pointerIsNull view ↔
      SpansBuffer view ∧ pointerIsNull = true := by
  constructor
  · intro means
    refine ⟨means.spansBuffer, ?_⟩
    obtain ⟨written, ends, -⟩ := means.responseWrite []
      (chunkCount view.buffer.length) (Nat.le_refl _)
    cases pointerIsNull with
    | true => rfl
    | false =>
        rw [responseWrite_undefined] at ends
        cases ends
  · rintro ⟨spans, rfl⟩
    have shows := viewBytes_of_spansBuffer spans
    refine ⟨?_, ?_, ?_⟩
    · intro rest fuel enough
      have small : view.buffer.length < 2 ^ 32 := by
        rw [← spans.2]
        unfold typedArrayMaxLength at allowed
        omega
      rw [shows]
      exact responseWrite_chunks small rest enough
    · intro directory history disk mayOpen name rest opens
      rw [shows]
      exact fsWrite_disk directory history disk mayOpen name opens view rest
    · intro rest
      refine ⟨.gzipDecompress view.buffer, rfl, fun trace value runs => ?_⟩
      rw [shows]
      exact @decompress_head view rest _ rfl trace value runs

/-- A fresh array of three bytes means what it shows. -/
theorem meansView_fresh : MeansView true (wholeBuffer [1, 2, 3]) :=
  (meansView_iff true (by decide)).mpr ⟨by decide, rfl⟩

/-- A view of the last two of three bytes. -/
def lastTwo : Uint8Array :=
  ⟨[1, 2, 3], 1, 2, by decide⟩

/-- For a view of two bytes of a buffer of three, all three functions take the
three bytes. -/
theorem lastTwo_not_meansView :
    viewBytes lastTwo = [2, 3] ∧
    ResponseWrite.write true true (fun _ => true) 1 [.uint8Array lastTwo] =
      some (.returns .undefined, ⟨setHeaders [.uint8Array lastTwo], [[1, 2, 3]]⟩) ∧
    (FileContents.write [] (fun _ _ => true) ⟨cacheAfter [] [], fun _ => none⟩
      [.string [0x61], .uint8Array lastTwo]).2.disk (osPath [] [0x61]) =
        some [1, 2, 3] ∧
    decompress [.uint8Array lastTwo] = .ok (.gzipDecompress [1, 2, 3]) ∧
    ¬ MeansView true lastTwo := by
  refine ⟨by decide, by decide, ?_, rfl, ?_⟩
  · exact fsWrite_disk [] [] (fun _ => none) (fun _ _ => true) [0x61]
      (fun _ => rfl) lastTwo []
  · intro means
    exact absurd means.spansBuffer (by decide)

end ViewArguments

end IISModuleJS
