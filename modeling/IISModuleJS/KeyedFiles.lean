import Mathlib.Logic.Function.Basic

/-!
# Files under keys

A store keeps sequences of items under keys.  A change empties a file, appends to
it, removes it, or copies another one over it.  A run of changes leaves all files
but their targets, and it reads none but their keys.
-/

namespace IISModuleJS

namespace KeyedFiles

abbrev Files (Key Item : Type*) :=
  Key → Option (List Item)

inductive Change (Key Item : Type*)
  | empty (key : Key)
  | append (key : Key) (items : List Item)
  | remove (key : Key)
  | copy (source key : Key)

variable {Key Item : Type*}

/-- The file that a change is about to change. -/
def Change.target : Change Key Item → Key
  | .empty key => key
  | .append key _ => key
  | .remove key => key
  | .copy _ key => key

/-- All files that a change reads or changes. -/
def Change.keys : Change Key Item → List Key
  | .empty key => [key]
  | .append key _ => [key]
  | .remove key => [key]
  | .copy source key => [source, key]

/-- What becomes of the target. -/
def Change.contents (files : Files Key Item) :
    Change Key Item → Option (List Item)
  | .empty _ => some []
  | .append key items => some ((files key).getD [] ++ items)
  | .remove _ => none
  | .copy source _ => files source

theorem target_mem_keys (change : Change Key Item) :
    change.target ∈ change.keys := by
  cases change with
  | copy source key => exact List.mem_cons_of_mem _ List.mem_cons_self
  | empty key => exact List.mem_cons_self
  | append key items => exact List.mem_cons_self
  | remove key => exact List.mem_cons_self

theorem Change.contents_congr {first second : Files Key Item}
    {change : Change Key Item}
    (agree : ∀ key ∈ change.keys, first key = second key) :
    change.contents first = change.contents second := by
  cases change with
  | empty key => rfl
  | append key items =>
      rw [Change.contents, Change.contents, agree key List.mem_cons_self]
  | remove key => rfl
  | copy source key => exact agree source List.mem_cons_self

variable [DecidableEq Key]

def Change.apply (files : Files Key Item) (change : Change Key Item) :
    Files Key Item :=
  Function.update files change.target (change.contents files)

def run (files : Files Key Item) (changes : List (Change Key Item)) :
    Files Key Item :=
  changes.foldl Change.apply files

theorem run_cons (files : Files Key Item) (change : Change Key Item)
    (changes : List (Change Key Item)) :
    run files (change :: changes) = run (change.apply files) changes :=
  rfl

theorem Change.apply_of_ne {files : Files Key Item}
    {change : Change Key Item} {key : Key} (other : key ≠ change.target) :
    change.apply files key = files key :=
  Function.update_of_ne other _ _

/-- A run leaves all files but the targets. -/
theorem run_of_forall_ne {files : Files Key Item}
    {changes : List (Change Key Item)} {key : Key}
    (others : ∀ change ∈ changes, key ≠ change.target) :
    run files changes key = files key := by
  induction changes generalizing files with
  | nil => rfl
  | cons change changes ih =>
      rw [run_cons, ih (fun other member =>
        others other (List.mem_cons_of_mem _ member))]
      exact Change.apply_of_ne (others change List.mem_cons_self)

/-- A run on the files of a set does not depend on any other file. -/
theorem run_congr {inside : Key → Prop} {changes : List (Change Key Item)}
    (within : ∀ change ∈ changes, ∀ key ∈ change.keys, inside key)
    {first second : Files Key Item}
    (agree : ∀ key, inside key → first key = second key) :
    ∀ key, inside key → run first changes key = run second changes key := by
  induction changes generalizing first second with
  | nil => exact agree
  | cons change changes ih =>
      rw [run_cons, run_cons]
      apply ih
      · intro other member
        exact within other (List.mem_cons_of_mem _ member)
      · intro key isInside
        have keys := within change List.mem_cons_self
        have same : change.contents first = change.contents second :=
          Change.contents_congr fun other member =>
            agree other (keys other member)
        by_cases hits : key = change.target
        · rw [hits, Change.apply, Change.apply, Function.update_self,
            Function.update_self, same]
        · rw [Change.apply_of_ne hits, Change.apply_of_ne hits]
          exact agree key isInside

end KeyedFiles

end IISModuleJS
