import Mathlib.Data.List.Basic
import Mathlib.Logic.Relation

/-!
# A heap with a mutator and a collector

Objects refer to other objects.  The mutator works with the objects that it
holds as roots: it allocates, loads, stores and erases references, and forgets
roots.  The collector frees objects; it may keep any set of survivors that
contains the roots and some further handles and that is closed under
references, so it is never forced to free an unreachable object.

The kind of an object can carry references that the mutator cannot erase.
-/

namespace IISModuleJS

namespace ManagedHeap

/-- The objects stand in the order of their allocation and are named by their
position. -/
structure Heap (Kind : Type*) where
  objects : List Kind
  freed : List Nat
  references : List (Nat × Nat)
  roots : List Nat
  deriving DecidableEq

inductive Mutation (Kind : Type*)
  | allocate (kind : Kind)
  | load (source target : Nat)
  | store (source target : Nat)
  | erase (source target : Nat)
  | drop (object : Nat)
  deriving DecidableEq

variable {Kind : Type*} (intrinsic : Kind → List Nat)

namespace Heap

/-- The objects that an object refers to. -/
def targets (heap : Heap Kind) (source : Nat) : List Nat :=
  (heap.references.filter fun reference => reference.1 = source).map Prod.snd ++
    (heap.objects[source]?).elim [] intrinsic

/-- A new object becomes a root. -/
def allocate (heap : Heap Kind) (kind : Kind) : Heap Kind :=
  { heap with
    objects := heap.objects ++ [kind]
    roots := heap.objects.length :: heap.roots }

/-- A step of the mutator, which only names objects that it holds. -/
def mutate (heap : Heap Kind) : Mutation Kind → Option (Heap Kind)
  | .allocate kind =>
      if ∀ target ∈ intrinsic kind, target ∈ heap.roots then
        some (heap.allocate kind)
      else
        none
  | .load source target =>
      if source ∈ heap.roots ∧ target ∈ heap.targets intrinsic source then
        some { heap with roots := target :: heap.roots }
      else
        none
  | .store source target =>
      if source ∈ heap.roots ∧ target ∈ heap.roots then
        some { heap with references := (source, target) :: heap.references }
      else
        none
  | .erase source target =>
      if source ∈ heap.roots then
        some { heap with
          references := heap.references.filter (· ≠ (source, target)) }
      else
        none
  | .drop object =>
      some { heap with roots := heap.roots.filter (· ≠ object) }

/-- The survivors of a collection. -/
def Retains (heap : Heap Kind) (handles survivors : List Nat) : Prop :=
  (∀ object ∈ heap.roots ++ handles, object ∈ survivors) ∧
    ∀ source ∈ survivors, ∀ target ∈ heap.targets intrinsic source,
      target ∈ survivors

instance (heap : Heap Kind) (handles survivors : List Nat) :
    Decidable (heap.Retains intrinsic handles survivors) :=
  inferInstanceAs (Decidable (_ ∧ _))

/-- Free everything but the survivors. -/
def collect (heap : Heap Kind) (handles survivors : List Nat) :
    Option (Heap Kind) :=
  if heap.Retains intrinsic handles survivors then
    some { heap with
      freed := heap.freed ++
        (List.range heap.objects.length).filter (· ∉ survivors) }
  else
    none

def Alive (heap : Heap Kind) (object : Nat) : Prop :=
  object < heap.objects.length ∧ object ∉ heap.freed

/-- A root or a handle leads to the object. -/
def Reachable (heap : Heap Kind) (handles : List Nat) (object : Nat) : Prop :=
  ∃ origin ∈ heap.roots ++ handles,
    Relation.ReflTransGen
      (fun source target => target ∈ heap.targets intrinsic source) origin
      object

/-- No root and no reference of an object that is still there dangles. -/
structure Sound (heap : Heap Kind) : Prop where
  roots : ∀ object ∈ heap.roots, heap.Alive object
  targets : ∀ source, ∀ target ∈ heap.targets intrinsic source,
    source < heap.objects.length ∧
      (source ∉ heap.freed → heap.Alive target)
  freed : ∀ object ∈ heap.freed, object < heap.objects.length

end Heap

open Heap

variable {intrinsic} {heap next : Heap Kind} {mutation : Mutation Kind}
  {handles survivors : List Nat}

theorem mem_targets {source target : Nat} :
    target ∈ heap.targets intrinsic source ↔
      (source, target) ∈ heap.references ∨
        ∃ kind, heap.objects[source]? = some kind ∧
          target ∈ intrinsic kind := by
  rw [Heap.targets, List.mem_append]
  refine or_congr ?_ ?_
  · simp [List.mem_map, List.mem_filter]
  · cases heap.objects[source]? with
    | none => simp
    | some kind => simp

/-- Everything that the mutator can do: it frees nothing, its new roots are new
objects or objects that its roots refer to, and new references lead from roots
to roots. -/
structure Mutated (intrinsic : Kind → List Nat) (heap next : Heap Kind) :
    Prop where
  freed : next.freed = heap.freed
  length : heap.objects.length ≤ next.objects.length
  roots : ∀ object ∈ next.roots, object ∈ heap.roots ∨
    (∃ source ∈ heap.roots, object ∈ heap.targets intrinsic source) ∨
      heap.objects.length ≤ object ∧ object < next.objects.length
  targets : ∀ source, ∀ target ∈ next.targets intrinsic source,
    target ∈ heap.targets intrinsic source ∨
      source ∈ next.roots ∧ target ∈ heap.roots

theorem mutated_allocate {kind : Kind}
    (held : ∀ target ∈ intrinsic kind, target ∈ heap.roots) :
    Mutated intrinsic heap (heap.allocate kind) where
  freed := rfl
  length := by simp [Heap.allocate]
  roots := by
    intro object member
    rcases List.mem_cons.mp member with rfl | member
    · exact .inr (.inr ⟨Nat.le_refl _, by simp [Heap.allocate]⟩)
    · exact .inl member
  targets := by
    intro source target member
    rw [mem_targets] at member
    rcases member with reference | ⟨found, foundAt, member⟩
    · exact .inl (mem_targets.mpr (.inl reference))
    · rw [Heap.allocate, List.getElem?_append] at foundAt
      split at foundAt
      · exact .inl (mem_targets.mpr (.inr ⟨found, foundAt, member⟩))
      next notOld =>
        obtain ⟨position, foundEq⟩ := List.getElem?_eq_some_iff.mp foundAt
        have isNew : source = heap.objects.length := by
          simp only [List.length_singleton] at position
          omega
        have kindEq : found = kind :=
          List.mem_singleton.mp (List.mem_of_getElem? foundAt)
        exact .inr ⟨isNew ▸ List.mem_cons_self, held target (kindEq ▸ member)⟩

/-- A step that only changes which objects the mutator holds. -/
theorem mutated_roots {roots : List Nat}
    (held : ∀ object ∈ roots, object ∈ heap.roots ∨
      ∃ source ∈ heap.roots, object ∈ heap.targets intrinsic source) :
    Mutated intrinsic heap { heap with roots := roots } where
  freed := rfl
  length := Nat.le_refl _
  roots := by
    intro object member
    rcases held object member with same | loaded
    · exact .inl same
    · exact .inr (.inl loaded)
  targets := fun _ _ member => .inl member

/-- A step that only changes references. -/
theorem mutated_references {references : List (Nat × Nat)}
    (held : ∀ reference ∈ references, reference ∈ heap.references ∨
      reference.1 ∈ heap.roots ∧ reference.2 ∈ heap.roots) :
    Mutated intrinsic heap { heap with references := references } where
  freed := rfl
  length := Nat.le_refl _
  roots := fun _ member => .inl member
  targets := by
    intro source target member
    rw [mem_targets] at member
    rcases member with reference | intrinsicReference
    · rcases held _ reference with old | new
      · exact .inl (mem_targets.mpr (.inl old))
      · exact .inr new
    · exact .inl (mem_targets.mpr (.inr intrinsicReference))

theorem mutated_of_mutate
    (mutates : heap.mutate intrinsic mutation = some next) :
    Mutated intrinsic heap next := by
  cases mutation with
  | allocate kind =>
      simp only [Heap.mutate] at mutates
      split at mutates
      next held =>
        cases mutates
        exact mutated_allocate held
      next => cases mutates
  | load source target =>
      simp only [Heap.mutate] at mutates
      split at mutates
      next loads =>
        cases mutates
        apply mutated_roots
        intro object member
        rcases List.mem_cons.mp member with rfl | member
        · exact .inr ⟨source, loads⟩
        · exact .inl member
      next => cases mutates
  | store source target =>
      simp only [Heap.mutate] at mutates
      split at mutates
      next held =>
        cases mutates
        apply mutated_references
        intro reference member
        rcases List.mem_cons.mp member with rfl | member
        · exact .inr held
        · exact .inl member
      next => cases mutates
  | erase source target =>
      simp only [Heap.mutate] at mutates
      split at mutates
      next =>
        cases mutates
        exact mutated_references fun reference member =>
          .inl (List.mem_of_mem_filter member)
      next => cases mutates
  | drop object =>
      cases mutates
      exact mutated_roots fun object member =>
        .inl (List.mem_of_mem_filter member)

/-- The mutator frees no object, and only an allocation adds one. -/
theorem objects_of_mutate
    (mutates : heap.mutate intrinsic mutation = some next) :
    next.freed = heap.freed ∧
      (next.objects = heap.objects ∨
        ∃ kind, mutation = .allocate kind ∧
          next.objects = heap.objects ++ [kind]) := by
  refine ⟨(mutated_of_mutate mutates).freed, ?_⟩
  cases mutation with
  | allocate kind =>
      obtain ⟨-, same⟩ := Option.ite_none_right_eq_some.mp mutates
      cases same
      exact .inr ⟨kind, rfl, rfl⟩
  | load source target =>
      obtain ⟨-, same⟩ := Option.ite_none_right_eq_some.mp mutates
      cases same
      exact .inl rfl
  | store source target =>
      obtain ⟨-, same⟩ := Option.ite_none_right_eq_some.mp mutates
      cases same
      exact .inl rfl
  | erase source target =>
      obtain ⟨-, same⟩ := Option.ite_none_right_eq_some.mp mutates
      cases same
      exact .inl rfl
  | drop object =>
      cases mutates
      exact .inl rfl

/-- What is alive stays alive. -/
theorem Mutated.alive (mutated : Mutated intrinsic heap next) {object : Nat}
    (alive : heap.Alive object) : next.Alive object := by
  refine ⟨Nat.lt_of_lt_of_le alive.1 mutated.length, ?_⟩
  rw [mutated.freed]
  exact alive.2

/-- The mutator makes nothing dangle. -/
theorem Heap.Sound.mutated (sound : heap.Sound intrinsic)
    (mutated : Mutated intrinsic heap next) : next.Sound intrinsic := by
  have roots : ∀ object ∈ next.roots, next.Alive object := by
    intro object member
    rcases mutated.roots object member with old | ⟨source, held, loaded⟩ | new
    · exact mutated.alive (sound.roots object old)
    · exact mutated.alive
        ((sound.targets source object loaded).2 (sound.roots source held).2)
    · refine ⟨new.2, fun freed => ?_⟩
      rw [mutated.freed] at freed
      exact absurd (sound.freed object freed) (Nat.not_lt.mpr new.1)
  refine ⟨roots, ?_, ?_⟩
  · intro source target member
    rcases mutated.targets source target member with old | ⟨held, targetHeld⟩
    · obtain ⟨allocated, alive⟩ := sound.targets source target old
      refine ⟨Nat.lt_of_lt_of_le allocated mutated.length, fun there => ?_⟩
      rw [mutated.freed] at there
      exact mutated.alive (alive there)
    · exact ⟨(roots source held).1,
        fun _ => mutated.alive (sound.roots target targetHeld)⟩
  · intro object freed
    rw [mutated.freed] at freed
    exact Nat.lt_of_lt_of_le (sound.freed object freed) mutated.length

theorem collect_eq_some :
    heap.collect intrinsic handles survivors = some next ↔
      heap.Retains intrinsic handles survivors ∧
        next = { heap with
          freed := heap.freed ++
            (List.range heap.objects.length).filter (· ∉ survivors) } := by
  rw [Heap.collect]
  split
  next retains =>
    rw [Option.some.injEq]
    exact ⟨fun same => ⟨retains, same.symm⟩, fun both => both.2.symm⟩
  next retains => simp [retains]

/-- A collection leaves exactly its survivors alive. -/
theorem collect_alive
    (collects : heap.collect intrinsic handles survivors = some next)
    (object : Nat) :
    next.Alive object ↔ heap.Alive object ∧ object ∈ survivors := by
  obtain ⟨-, rfl⟩ := collect_eq_some.mp collects
  simp only [Heap.Alive, List.mem_append, List.mem_filter, List.mem_range,
    decide_eq_true_eq, not_or, not_and, not_not]
  constructor
  · rintro ⟨allocated, there, survives⟩
    exact ⟨⟨allocated, there⟩, survives allocated⟩
  · rintro ⟨⟨allocated, there⟩, survives⟩
    exact ⟨allocated, there, fun _ => survives⟩

/-- What is reachable survives every collection. -/
theorem Heap.Retains.of_reachable
    (retains : heap.Retains intrinsic handles survivors) {object : Nat}
    (reachable : heap.Reachable intrinsic handles object) :
    object ∈ survivors := by
  obtain ⟨origin, held, path⟩ := reachable
  induction path with
  | refl => exact retains.1 origin held
  | tail path reference survives =>
      exact retains.2 _ survives _ reference

/-- A collection makes nothing dangle. -/
theorem Heap.Sound.collect (sound : heap.Sound intrinsic)
    (collects : heap.collect intrinsic handles survivors = some next) :
    next.Sound intrinsic := by
  have alive := collect_alive collects
  obtain ⟨retains, rfl⟩ := collect_eq_some.mp collects
  refine ⟨?_, ?_, ?_⟩
  · intro object member
    refine (alive object).mpr ⟨sound.roots object member, ?_⟩
    exact retains.1 object (List.mem_append_left _ member)
  · intro source target member
    obtain ⟨allocated, targetAlive⟩ := sound.targets source target member
    refine ⟨allocated, fun there => (alive target).mpr ?_⟩
    obtain ⟨sourceAlive, survives⟩ := (alive source).mp ⟨allocated, there⟩
    exact ⟨targetAlive sourceAlive.2, retains.2 source survives target member⟩
  · intro object freed
    rcases List.mem_append.mp freed with old | new
    · exact sound.freed object old
    · exact List.mem_range.mp (List.mem_of_mem_filter new)

theorem Heap.Sound.alive_of_reachable (sound : heap.Sound intrinsic)
    (held : ∀ object ∈ handles, heap.Alive object) {object : Nat}
    (reachable : heap.Reachable intrinsic handles object) :
    heap.Alive object := by
  obtain ⟨origin, member, path⟩ := reachable
  induction path with
  | refl =>
      rcases List.mem_append.mp member with root | handle
      · exact sound.roots origin root
      · exact held origin handle
  | tail path reference alive =>
      exact (sound.targets _ _ reference).2 alive.2

/-- Some collection frees everything that is not reachable. -/
theorem Heap.Sound.exists_collect (sound : heap.Sound intrinsic)
    (held : ∀ object ∈ handles, heap.Alive object) :
    ∃ survivors next, heap.collect intrinsic handles survivors = some next ∧
      ∀ object, heap.Alive object →
        ¬heap.Reachable intrinsic handles object → object ∈ next.freed := by
  classical
  let survivors := (List.range heap.objects.length).filter
    (heap.Reachable intrinsic handles ·)
  have mem_survivors : ∀ object, object ∈ survivors ↔
      heap.Reachable intrinsic handles object := by
    intro object
    simp only [survivors, List.mem_filter, List.mem_range, decide_eq_true_eq]
    exact ⟨And.right, fun reachable =>
      ⟨(sound.alive_of_reachable held reachable).1, reachable⟩⟩
  have retains : heap.Retains intrinsic handles survivors := by
    constructor
    · intro object member
      exact (mem_survivors object).mpr ⟨object, member, .refl⟩
    · intro source survives target member
      obtain ⟨origin, originHeld, path⟩ := (mem_survivors source).mp survives
      exact (mem_survivors target).mpr ⟨origin, originHeld, path.tail member⟩
  have collects := collect_eq_some.mpr ⟨retains, rfl⟩
  refine ⟨survivors, _, collects, fun object alive unreachable => ?_⟩
  by_contra there
  have survives := (collect_alive collects object).mp ⟨alive.1, there⟩
  exact unreachable ((mem_survivors object).mp survives.2)

/-- Hold an object that is there. -/
theorem Heap.Sound.hold (sound : heap.Sound intrinsic) {object : Nat}
    (alive : heap.Alive object) :
    Heap.Sound intrinsic { heap with roots := object :: heap.roots } where
  roots := by
    intro held member
    rcases List.mem_cons.mp member with rfl | member
    · exact alive
    · exact sound.roots held member
  targets := sound.targets
  freed := sound.freed

end ManagedHeap

end IISModuleJS
