import Mathlib.Algebra.BigOperators.Group.List.Basic
import Mathlib.Algebra.GroupWithZero.Nat

/-!
# The total weight of a list

The participants of a protocol are kept in a list, and what each of them holds
is a natural number.  These lemmas follow the total while one participant is
replaced or added.
-/

namespace IISModuleJS

namespace ListWeight

variable {Item : Type*}

def weight (value : Item → Nat) (items : List Item) : Nat :=
  (items.map value).sum

@[simp]
theorem weight_nil (value : Item → Nat) : weight value [] = 0 :=
  rfl

@[simp]
theorem weight_cons (value : Item → Nat) (item : Item) (items : List Item) :
    weight value (item :: items) = value item + weight value items := by
  simp [weight]

@[simp]
theorem weight_append (value : Item → Nat) (first second : List Item) :
    weight value (first ++ second) =
      weight value first + weight value second := by
  simp [weight]

/-- Replacing one item. -/
theorem weight_set (value : Item → Nat) {items : List Item} {index : Nat}
    {item : Item} (found : items[index]? = some item) (changed : Item) :
    weight value (items.set index changed) + value item =
      weight value items + value changed := by
  induction items generalizing index with
  | nil => simp at found
  | cons first rest ih =>
      cases index with
      | zero =>
          obtain rfl : first = item := by simpa using found
          simp
          omega
      | succ index =>
          have tail := ih (by simpa using found)
          simp
          omega

theorem le_weight (value : Item → Nat) {items : List Item} {index : Nat}
    {item : Item} (found : items[index]? = some item) :
    value item ≤ weight value items := by
  induction items generalizing index with
  | nil => simp at found
  | cons first rest ih =>
      cases index with
      | zero =>
          obtain rfl : first = item := by simpa using found
          simp
      | succ index =>
          have tail := ih (by simpa using found)
          simp
          omega

/-- Two different items weigh no more than all. -/
theorem add_le_weight (value : Item → Nat) {items : List Item}
    {index other : Nat} {item second : Item}
    (found : items[index]? = some item)
    (otherFound : items[other]? = some second) (different : index ≠ other) :
    value item + value second ≤ weight value items := by
  induction items generalizing index other with
  | nil => simp at found
  | cons first rest ih =>
      cases index with
      | zero =>
          obtain rfl : first = item := by simpa using found
          cases other with
          | zero => exact (different rfl).elim
          | succ other =>
              have tail := le_weight value
                (show rest[other]? = some second by simpa using otherFound)
              simp
              omega
      | succ index =>
          cases other with
          | zero =>
              obtain rfl : first = second := by simpa using otherFound
              have tail := le_weight value
                (show rest[index]? = some item by simpa using found)
              simp
              omega
          | succ other =>
              have tail := ih (by simpa using found)
                (by simpa using otherFound) (by omega)
              simp
              omega

theorem weight_eq_zero {value : Item → Nat} {items : List Item}
    (none : ∀ item ∈ items, value item = 0) : weight value items = 0 := by
  induction items with
  | nil => rfl
  | cons first rest ih =>
      have head := none first (by simp)
      have tail := ih fun item member => none item (by simp [member])
      simp [head, tail]

/-- If at most one item has a weight, the total is that of a single item. -/
theorem weight_lt_of_unique {value : Item → Nat} {items : List Item}
    {bound : Nat} (positive : 0 < bound)
    (below : ∀ item ∈ items, value item < bound)
    (unique : ∀ (index other : Nat) (item second : Item),
      items[index]? = some item → items[other]? = some second →
        value item ≠ 0 → value second ≠ 0 → index = other) :
    weight value items < bound := by
  induction items with
  | nil => exact positive
  | cons first rest ih =>
      by_cases light : value first = 0
      · have tail := ih (fun item member => below item (by simp [member]))
          (fun index other item second found otherFound heavy otherHeavy =>
            Nat.succ.inj (unique (index + 1) (other + 1) item second
              (by simpa using found) (by simpa using otherFound) heavy
              otherHeavy))
        simp [light]
        exact tail
      · have restLight : weight value rest = 0 := by
          apply weight_eq_zero
          intro item member
          by_contra heavy
          obtain ⟨index, found⟩ := List.mem_iff_getElem?.mp member
          have same := unique 0 (index + 1) first item (by simp)
            (by simpa using found) light heavy
          omega
        have head := below first (by simp)
        simp [restLight]
        exact head

/-- Counting after one item was replaced. -/
theorem countP_set_add (counted : Item → Bool) {items : List Item}
    {index : Nat} {item : Item} (found : items[index]? = some item)
    (changed : Item) :
    (items.set index changed).countP counted + (counted item).toNat =
      items.countP counted + (counted changed).toNat := by
  obtain ⟨bound, lookup⟩ := List.getElem?_eq_some_iff.mp found
  rw [List.countP_set bound, lookup]
  cases before : counted item with
  | false => cases counted changed <;> simp
  | true =>
      have positive : 0 < items.countP counted :=
        List.countP_pos_iff.mpr ⟨item, List.mem_of_getElem? found, before⟩
      cases counted changed <;> simp <;> omega

end ListWeight

end IISModuleJS
