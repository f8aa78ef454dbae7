import Mathlib.Data.List.Basic

/-!
# Ranges of a buffer

A range is an offset and a length.  Ranges tile an interval if each of them
starts where the one before it ends, so that together they hold every position
of the interval once and in order.
-/

namespace IISModuleJS

namespace ByteRanges

variable {Byte : Type*}

/-- The elements of a buffer in a range. -/
def slice (buffer : List Byte) (offset length : Nat) : List Byte :=
  (buffer.drop offset).take length

/-- The ranges are consecutive, the first one begins at `start` and the last
one ends at `stop`. -/
def Tiles (stop : Nat) : Nat → List (Nat × Nat) → Prop
  | start, [] => start = stop
  | start, (offset, length) :: ranges =>
      offset = start ∧ Tiles stop (start + length) ranges

/-- `memcpy` of some bytes to an offset of a buffer, if they stay inside it. -/
def overwrite (buffer : List Byte) (offset : Nat) (bytes : List Byte) :
    Option (List Byte) :=
  if offset + bytes.length ≤ buffer.length then
    some (buffer.take offset ++ bytes ++ buffer.drop (offset + bytes.length))
  else none

/-- A copy to the first position that is not filled yet. -/
theorem overwrite_filled {filled free bytes : List Byte}
    (fits : bytes.length ≤ free.length) :
    overwrite (filled ++ free) filled.length bytes =
      some (filled ++ bytes ++ free.drop bytes.length) := by
  have inside : filled.length + bytes.length ≤ (filled ++ free).length := by
    rw [List.length_append]
    omega
  rw [overwrite, if_pos inside, List.take_left, List.drop_append,
    List.drop_eq_nil_of_le (Nat.le_add_right _ _), Nat.add_sub_cancel_left,
    List.nil_append]

theorem slice_whole (buffer : List Byte) :
    slice buffer 0 buffer.length = buffer := by
  simp [slice]

/-- A tiling of an interval cut at a position that one more range begins at. -/
theorem tiles_concat {middle start : Nat} {ranges : List (Nat × Nat)}
    (tiled : Tiles middle start ranges) (length : Nat) :
    Tiles (middle + length) start (ranges ++ [(middle, length)]) := by
  induction ranges generalizing start with
  | nil =>
      have atMiddle : start = middle := tiled
      exact ⟨atMiddle.symm, by rw [atMiddle]; rfl⟩
  | cons range ranges ih =>
      obtain ⟨atStart, rest⟩ := tiled
      exact ⟨atStart, ih rest⟩

theorem Tiles.start_le {stop start : Nat} {ranges : List (Nat × Nat)}
    (tiled : Tiles stop start ranges) : start ≤ stop := by
  induction ranges generalizing start with
  | nil => exact Nat.le_of_eq tiled
  | cons range ranges ih =>
      have later := ih tiled.2
      omega

/-- The slices of a tiling put the interval together again. -/
theorem Tiles.flatten_slices {stop start : Nat} {ranges : List (Nat × Nat)}
    (tiled : Tiles stop start ranges) (buffer : List Byte) :
    (ranges.map fun range => slice buffer range.1 range.2).flatten =
      slice buffer start (stop - start) := by
  induction ranges generalizing start with
  | nil =>
      have atStop : start = stop := tiled
      simp [slice, atStop]
  | cons range ranges ih =>
      obtain ⟨offset, length⟩ := range
      obtain ⟨atStart, rest⟩ := tiled
      have split : stop - start = length + (stop - (start + length)) := by
        have later := rest.start_le
        omega
      simp only [List.map_cons, List.flatten_cons]
      rw [ih rest, atStart, split]
      simp only [slice]
      rw [List.take_add, List.drop_drop]

end ByteRanges

end IISModuleJS
