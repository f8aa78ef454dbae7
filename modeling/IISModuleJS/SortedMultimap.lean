import Mathlib.Data.List.Basic
import Mathlib.Order.Lattice

/-!
# Sorted multimaps

A multimap keeps its entries in the order of the ranks of their keys.  Keys of
the same rank are equivalent: an entry is put behind those of equivalent keys,
and the first of them is the one that is found.

What a multimap holds for a rank is the list of the entries inserted for it, in
the order in which they were inserted, and this determines the multimap.
-/

namespace IISModuleJS

variable {Key Value Rank : Type*}

/-- Entries in the order of the ranks of their keys. -/
@[ext]
structure SortedMultimap [LinearOrder Rank] (rank : Key → Rank)
    (Value : Type*) where
  entries : List (Key × Value)
  sorted : entries.Pairwise fun first second =>
    rank first.1 ≤ rank second.1

namespace SortedMultimap

variable [LinearOrder Rank] {rank : Key → Rank}

/-- An entry goes before the first one of a larger rank. -/
def insertEntry (rank : Key → Rank) (entry : Key × Value) :
    List (Key × Value) → List (Key × Value)
  | [] => [entry]
  | first :: rest =>
      if rank entry.1 < rank first.1 then entry :: first :: rest
      else first :: insertEntry rank entry rest

theorem mem_insertEntry {entry other : Key × Value}
    {entries : List (Key × Value)} :
    other ∈ insertEntry rank entry entries ↔
      other = entry ∨ other ∈ entries := by
  induction entries with
  | nil => simp [insertEntry]
  | cons first rest ih =>
      unfold insertEntry
      split
      · exact List.mem_cons
      · rw [List.mem_cons, ih, List.mem_cons]
        exact or_left_comm

theorem sorted_insertEntry (entry : Key × Value)
    {entries : List (Key × Value)}
    (sorted : entries.Pairwise fun first second =>
      rank first.1 ≤ rank second.1) :
    (insertEntry rank entry entries).Pairwise fun first second =>
      rank first.1 ≤ rank second.1 := by
  induction entries with
  | nil => exact List.pairwise_singleton _ _
  | cons first rest ih =>
      obtain ⟨least, sortedRest⟩ := List.pairwise_cons.mp sorted
      unfold insertEntry
      split
      next smaller =>
        apply List.pairwise_cons.mpr
        refine ⟨?_, sorted⟩
        intro other member
        rcases List.mem_cons.mp member with rfl | member
        · exact le_of_lt smaller
        · exact le_trans (le_of_lt smaller) (least other member)
      next larger =>
        apply List.pairwise_cons.mpr
        refine ⟨?_, ih sortedRest⟩
        intro other member
        rcases mem_insertEntry.mp member with rfl | member
        · exact le_of_not_gt larger
        · exact least other member

def empty : SortedMultimap rank Value :=
  ⟨[], List.Pairwise.nil⟩

/-- `emplace`. -/
def emplace (map : SortedMultimap rank Value) (key : Key) (value : Value) :
    SortedMultimap rank Value :=
  ⟨insertEntry rank (key, value) map.entries,
    sorted_insertEntry (key, value) map.sorted⟩

/-- `find`: the first entry of an equivalent key. -/
def find? (map : SortedMultimap rank Value) (key : Key) :
    Option (Key × Value) :=
  map.entries.find? fun entry => rank entry.1 = rank key

/-- A multimap made by inserting entries one after the other. -/
def ofEntries (entries : List (Key × Value)) : SortedMultimap rank Value :=
  entries.foldl (fun map entry => map.emplace entry.1 entry.2) empty

/-- The entries of a rank. -/
def group (map : SortedMultimap rank Value) (goal : Rank) :
    List (Key × Value) :=
  map.entries.filter fun entry => rank entry.1 = goal

/-- No entry has a rank below that of the first one. -/
theorem filter_eq_nil_of_lt {head : Key × Value} {rest : List (Key × Value)}
    {goal : Rank}
    (sorted : (head :: rest).Pairwise fun first second =>
      rank first.1 ≤ rank second.1)
    (smaller : goal < rank head.1) :
    (head :: rest).filter (fun entry => rank entry.1 = goal) = [] := by
  have least := (List.pairwise_cons.mp sorted).1
  apply List.filter_eq_nil_iff.mpr
  intro entry member same
  rw [decide_eq_true_eq] at same
  rw [← same] at smaller
  rcases List.mem_cons.mp member with rfl | member
  · exact lt_irrefl _ smaller
  · exact not_lt_of_ge (least entry member) smaller

/-- An insertion appends to the group of its rank and leaves the other ones. -/
theorem group_emplace (map : SortedMultimap rank Value) (key : Key)
    (value : Value) (goal : Rank) :
    (map.emplace key value).group goal =
      map.group goal ++ if rank key = goal then [(key, value)] else [] := by
  obtain ⟨entries, sorted⟩ := map
  unfold group emplace
  dsimp only
  induction entries with
  | nil => simp [insertEntry, List.filter_cons]
  | cons first rest ih =>
      obtain ⟨least, sortedRest⟩ := List.pairwise_cons.mp sorted
      unfold insertEntry
      split
      next smaller =>
        by_cases same : rank key = goal
        · have none : (first :: rest).filter
              (fun entry => rank entry.1 = goal) = [] :=
            filter_eq_nil_of_lt sorted (same ▸ smaller)
          rw [List.filter_cons_of_pos (by simpa using same), none]
          simp [same]
        · rw [List.filter_cons_of_neg (by simpa using same), if_neg same,
            List.append_nil]
      next larger =>
        by_cases same : rank first.1 = goal
        · rw [List.filter_cons_of_pos (by simpa using same), ih sortedRest,
            List.filter_cons_of_pos (by simpa using same), List.cons_append]
        · rw [List.filter_cons_of_neg (by simpa using same), ih sortedRest,
            List.filter_cons_of_neg (by simpa using same)]

/-- The group of a rank after a run of insertions: what was there, and the
insertions of the rank in their order. -/
theorem group_foldl (entries : List (Key × Value))
    (map : SortedMultimap rank Value) (goal : Rank) :
    (entries.foldl (fun map entry => map.emplace entry.1 entry.2) map).group
        goal =
      map.group goal ++ entries.filter fun entry => rank entry.1 = goal := by
  induction entries generalizing map with
  | nil => simp
  | cons first rest ih =>
      rw [List.foldl_cons, ih, group_emplace]
      by_cases same : rank first.1 = goal
      · simp [same]
      · simp [same]

theorem group_ofEntries (entries : List (Key × Value)) (goal : Rank) :
    (ofEntries entries : SortedMultimap rank Value).group goal =
      entries.filter fun entry => rank entry.1 = goal := by
  rw [ofEntries, group_foldl]
  rfl

theorem not_lt_of_filter_eq {entry other : Key × Value}
    {rest others : List (Key × Value)}
    (sorted : (other :: others).Pairwise fun first second =>
      rank first.1 ≤ rank second.1)
    (same : (entry :: rest).filter
        (fun first => rank first.1 = rank entry.1) =
      (other :: others).filter fun first => rank first.1 = rank entry.1) :
    ¬ rank entry.1 < rank other.1 := by
  intro smaller
  rw [filter_eq_nil_of_lt sorted smaller,
    List.filter_cons_of_pos (by simp)] at same
  exact List.cons_ne_nil _ _ same

theorem entries_eq_of_filter_eq {first second : List (Key × Value)}
    (firstSorted : first.Pairwise fun entry other =>
      rank entry.1 ≤ rank other.1)
    (secondSorted : second.Pairwise fun entry other =>
      rank entry.1 ≤ rank other.1)
    (same : ∀ goal, first.filter (fun entry => rank entry.1 = goal) =
      second.filter fun entry => rank entry.1 = goal) :
    first = second := by
  induction first generalizing second with
  | nil =>
      cases second with
      | nil => rfl
      | cons head rest => simpa using same (rank head.1)
  | cons entry rest ih =>
      cases second with
      | nil => simpa using same (rank entry.1)
      | cons other others =>
          have notSmaller := not_lt_of_filter_eq secondSorted
            (same (rank entry.1))
          have notLarger := not_lt_of_filter_eq firstSorted
            (same (rank other.1)).symm
          have ranks : rank entry.1 = rank other.1 :=
            le_antisymm (le_of_not_gt notLarger) (le_of_not_gt notSmaller)
          have heads := same (rank entry.1)
          rw [List.filter_cons_of_pos (by simp),
            List.filter_cons_of_pos (by simp [ranks])] at heads
          have headEq := (List.cons.inj heads).1
          subst headEq
          rw [ih (List.pairwise_cons.mp firstSorted).2
            (List.pairwise_cons.mp secondSorted).2]
          intro goal
          have shown := same goal
          by_cases hits : rank entry.1 = goal
          · rw [List.filter_cons_of_pos (by simpa using hits),
              List.filter_cons_of_pos (by simpa using hits)] at shown
            exact (List.cons.inj shown).2
          · rwa [List.filter_cons_of_neg (by simpa using hits),
              List.filter_cons_of_neg (by simpa using hits)] at shown

theorem eq_of_group_eq {first second : SortedMultimap rank Value}
    (same : ∀ goal, first.group goal = second.group goal) :
    first = second := by
  ext1
  exact entries_eq_of_filter_eq first.sorted second.sorted same

/-- Inserting the entries of a multimap in their order makes it anew. -/
theorem ofEntries_entries (map : SortedMultimap rank Value) :
    ofEntries map.entries = map := by
  apply eq_of_group_eq
  intro goal
  exact group_ofEntries map.entries goal

theorem mem_ofEntries {entries : List (Key × Value)} {entry : Key × Value} :
    entry ∈ (ofEntries entries : SortedMultimap rank Value).entries ↔
      entry ∈ entries := by
  have member := @List.mem_filter _ (fun other => rank other.1 = rank entry.1)
    (ofEntries entries : SortedMultimap rank Value).entries entry
  have groups := @group_ofEntries Key Value Rank _ rank entries (rank entry.1)
  unfold group at groups
  rw [groups, List.mem_filter] at member
  simpa using member.symm

/-- A test that only entries of one rank pass selects them in the order of their
insertion. -/
theorem filter_ofEntries {entries : List (Key × Value)}
    {test : Key × Value → Bool}
    (sameRank : ∀ entry ∈ entries, ∀ other ∈ entries,
      test entry = true → test other = true → rank entry.1 = rank other.1) :
    (ofEntries entries : SortedMultimap rank Value).entries.filter test =
      entries.filter test := by
  cases selected : entries.filter test with
  | nil =>
      apply List.filter_eq_nil_iff.mpr
      intro entry member
      exact List.filter_eq_nil_iff.mp selected entry (mem_ofEntries.mp member)
  | cons chosen rest =>
      have both := List.mem_filter.mp
        (show chosen ∈ entries.filter test from
          selected ▸ List.mem_cons_self)
      have ranks : ∀ entry ∈ entries, test entry = true →
          decide (rank entry.1 = rank chosen.1) = true :=
        fun entry member passes => decide_eq_true
          (sameRank entry member chosen both.1 passes both.2)
      have narrow (list : List (Key × Value))
          (inside : ∀ entry ∈ list, entry ∈ entries) :
          (list.filter fun entry => rank entry.1 = rank chosen.1).filter test =
            list.filter test := by
        rw [List.filter_filter]
        apply List.filter_congr
        intro entry member
        cases passes : test entry with
        | false => rfl
        | true => rw [ranks entry (inside entry member) passes, Bool.and_true]
      have groups := @group_ofEntries Key Value Rank _ rank entries
        (rank chosen.1)
      unfold group at groups
      rw [← selected, ← narrow _ fun entry member => mem_ofEntries.mp member,
        groups, narrow entries fun entry member => member]

end SortedMultimap

end IISModuleJS
