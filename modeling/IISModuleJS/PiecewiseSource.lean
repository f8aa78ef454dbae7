import Mathlib.Data.List.Basic

/-!
# Sources that deliver in pieces

A source still has some items.  A read asks for a number of them and gets at
least one of them, but as few as the source likes.  When there are none left the
read tells that the source was closed, or fails.

How the items are cut into pieces is arbitrary: a function of the number of
reads so far.
-/

namespace IISModuleJS

/-- A source: its items, how many more than one of them each read gets at most,
the reads so far, and whether it was closed behind the items. -/
structure PiecewiseSource (Item : Type*) where
  remaining : List Item
  cuts : Nat → Nat
  reads : Nat
  closes : Bool

namespace PiecewiseSource

variable {Item : Type*}

inductive Received (Item : Type*)
  | items (piece : List Item)
  | closed
  | failed

/-- A read of up to some number of items. -/
def read (source : PiecewiseSource Item) (size : Nat) :
    Received Item × PiecewiseSource Item :=
  match source.remaining with
  | [] =>
      (if source.closes then .closed else .failed,
        { source with reads := source.reads + 1 })
  | first :: rest =>
      let count := min size (source.cuts source.reads + 1)
      (.items ((first :: rest).take count),
        { source with
          remaining := (first :: rest).drop count
          reads := source.reads + 1 })

/-- What a read returns, and the source after it. -/
inductive Reads (source : PiecewiseSource Item) (size : Nat) :
    Received Item × PiecewiseSource Item → Prop
  | items (piece : List Item) (after : PiecewiseSource Item)
      (nonempty : piece ≠ []) (short : piece.length ≤ size)
      (parts : source.remaining = piece ++ after.remaining)
      (kept : after.closes = source.closes) :
      Reads source size (.items piece, after)
  | closed (after : PiecewiseSource Item) (none : source.remaining = [])
      (noneAfter : after.remaining = []) (closes : source.closes = true)
      (kept : after.closes = source.closes) :
      Reads source size (.closed, after)
  | failed (after : PiecewiseSource Item) (none : source.remaining = [])
      (fails : source.closes = false) :
      Reads source size (.failed, after)

theorem reads_read (source : PiecewiseSource Item) {size : Nat}
    (positive : 0 < size) : Reads source size (source.read size) := by
  unfold read
  cases remaining : source.remaining with
  | nil =>
      cases closes : source.closes with
      | false => exact .failed _ remaining closes
      | true => exact .closed _ remaining rfl closes closes.symm
  | cons first rest =>
      apply Reads.items
      · apply List.ne_nil_of_length_pos
        rw [List.length_take, List.length_cons]
        omega
      · rw [List.length_take]
        omega
      · exact remaining.trans (List.take_append_drop _ _).symm
      · rfl

end PiecewiseSource

end IISModuleJS
