import Mathlib.Algebra.BigOperators.Group.List.Basic
import Mathlib.Algebra.Ring.Nat

/-!
# Streams that are delivered in calls

A call on a stream has room for some items, delivers at most so many, and leaves
the stream behind them.  The streaming contract says that how the room is divided
into calls does not matter: together they deliver the items of one list, each as
many of them as it has room for.
-/

namespace IISModuleJS

namespace StreamingCalls

variable {Stream Item : Type*}

abbrev Call (Stream Item : Type*) :=
  Stream → Nat → List Item × Stream

/-- The stream after calls with some rooms. -/
def after (call : Call Stream Item) (start : Stream) (rooms : List Nat) :
    Stream :=
  rooms.foldl (fun stream room => (call stream room).2) start

/-- The streaming contract. -/
def Delivers (call : Call Stream Item) (start : Stream) (whole : List Item) :
    Prop :=
  ∀ rooms room,
    (call (after call start rooms) room).1 = (whole.drop rooms.sum).take room

theorem after_append (call : Call Stream Item) (start : Stream)
    (rooms : List Nat) (room : Nat) :
    after call start (rooms ++ [room]) =
      (call (after call start rooms) room).2 := by
  rw [after, List.foldl_append]
  rfl

/-- Some calls have delivered so many items of the list. -/
def Reached (call : Call Stream Item) (start : Stream) (whole : List Item)
    (stream : Stream) (size : Nat) : Prop :=
  ∃ rooms, stream = after call start rooms ∧ size = min rooms.sum whole.length

theorem reached_start (call : Call Stream Item) (start : Stream)
    (whole : List Item) : Reached call start whole start 0 :=
  ⟨[], rfl, (Nat.zero_min _).symm⟩

namespace Reached

variable {call : Call Stream Item} {start stream : Stream} {whole : List Item}
  {size : Nat}

theorem size_le (reached : Reached call start whole stream size) :
    size ≤ whole.length := by
  obtain ⟨rooms, -, rfl⟩ := reached
  exact Nat.min_le_right _ _

/-- The next call goes on where the others stopped. -/
theorem delivered (reached : Reached call start whole stream size)
    (delivers : Delivers call start whole) (room : Nat) :
    (call stream room).1 = (whole.drop size).take room := by
  obtain ⟨rooms, rfl, rfl⟩ := reached
  rw [delivers rooms room]
  rcases Nat.le_total rooms.sum whole.length with inside | beyond
  · rw [Nat.min_eq_left inside]
  · rw [Nat.min_eq_right beyond, List.drop_eq_nil_of_le beyond,
      List.drop_length]

theorem next (reached : Reached call start whole stream size) (room : Nat) :
    Reached call start whole (call stream room).2
      (min (size + room) whole.length) := by
  obtain ⟨rooms, rfl, rfl⟩ := reached
  refine ⟨rooms ++ [room], (after_append call start rooms room).symm, ?_⟩
  rw [List.sum_append, List.sum_singleton]
  omega

end Reached

/-- A list is delivered by taking items from its front. -/
theorem delivers_take_drop (whole : List Item) :
    Delivers (fun items room => (items.take room, items.drop room)) whole
      whole := by
  have rest (rooms : List Nat) (items : List Item) :
      after (fun items room => (items.take room, items.drop room)) items
        rooms = items.drop rooms.sum := by
    induction rooms generalizing items with
    | nil => rfl
    | cons room rooms ih =>
        rw [List.sum_cons, ← List.drop_drop]
        exact ih (items.drop room)
  intro rooms room
  rw [rest]

end StreamingCalls

end IISModuleJS
