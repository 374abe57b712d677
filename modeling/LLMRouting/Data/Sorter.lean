/-
# Sorting by keys that cannot all be compared

A float that is not a number is neither less than any other nor greater, and `sorted` promises
little about elements with such a key. A `Sorter` is anything that keeps what is known:
`sorted` as the interpreter has it is one, and so is insertion.
-/

import LLMRouting.Data.SortedBy

namespace LLMRouting.Data

variable {α κ : Type} [LinearOrder κ]

/-- The first key is less than the second. A missing key is neither less nor greater than any. -/
def KeyBelow (first second : Option κ) : Prop := ∃ low ∈ first, ∃ high ∈ second, low < high

instance (first second : Option κ) : Decidable (KeyBelow first second) :=
  match first, second with
  | some low, some high => decidable_of_iff (low < high) (by simp [KeyBelow])
  | none, _ => isFalse (by simp [KeyBelow])
  | some _, none => isFalse (by simp [KeyBelow])

@[simp]
theorem keyBelow_some {low high : κ} : KeyBelow (some low) (some high) ↔ low < high := by
  simp [KeyBelow]

@[simp]
theorem not_keyBelow_none_left {key : Option κ} : ¬ KeyBelow none key := by simp [KeyBelow]

@[simp]
theorem not_keyBelow_none_right {key : Option κ} : ¬ KeyBelow key none := by simp [KeyBelow]

/-- No element is below the one before it. -/
def Ascending (key : α → Option κ) (items : List α) : Prop :=
  items.IsChain fun first second => ¬ KeyBelow (key second) (key first)

/-- What is known of `sorted` when some of the keys cannot be compared with any: it permutes
the elements, is the stable sort where all keys can be compared, and leaves a list alone in
which no element is below the one before it. -/
structure Sorter (κ : Type) [LinearOrder κ] where
  sorted : {α : Type} → (α → Option κ) → List α → List α
  perm : ∀ {α : Type} (key : α → Option κ) (items : List α), (sorted key items).Perm items
  stable : ∀ {α : Type} {key : α → Option κ} {total : α → κ} {items : List α},
    (∀ item ∈ items, key item = some (total item)) → sorted key items = sortedBy total items
  ascending : ∀ {α : Type} {key : α → Option κ} {items : List α},
    Ascending key items → sorted key items = items

section Insertion

variable {key : α → Option κ} {total : α → κ} {items : List α} {item : α}

/-- The elements are inserted from the last to the first, each before those that are not below
it. -/
def insertionSorted (key : α → Option κ) (items : List α) : List α :=
  items.insertionSort fun first second => ¬ KeyBelow (key second) (key first)

theorem orderedInsert_of_keys (hitem : key item = some (total item))
    (hitems : ∀ other ∈ items, key other = some (total other)) :
    items.orderedInsert (fun first second => ¬ KeyBelow (key second) (key first)) item =
      items.orderedInsert (fun first second => total first ≤ total second) item := by
  induction items with
  | nil => rfl
  | cons first rest ih =>
      obtain ⟨hfirst, hrest⟩ := List.forall_mem_cons.mp hitems
      simp only [List.orderedInsert, hitem, hfirst, keyBelow_some, not_lt, ih hrest]

theorem insertionSorted_eq_sortedBy (h : ∀ item ∈ items, key item = some (total item)) :
    insertionSorted key items = sortedBy total items := by
  induction items with
  | nil => rfl
  | cons first rest ih =>
      obtain ⟨hfirst, hrest⟩ := List.forall_mem_cons.mp h
      have hsorted := ih hrest
      rw [insertionSorted, sortedBy] at hsorted ⊢
      rw [List.insertionSort_cons, List.insertionSort_cons, hsorted]
      apply orderedInsert_of_keys hfirst
      intro item hitem
      exact hrest item ((List.perm_insertionSort _ rest).mem_iff.mp hitem)

theorem insertionSorted_of_ascending (h : Ascending key items) :
    insertionSorted key items = items := by
  induction items with
  | nil => rfl
  | cons first rest ih =>
      have hrest := ih h.tail
      rw [insertionSorted] at hrest ⊢
      rw [List.insertionSort_cons, hrest]
      cases rest with
      | nil => rfl
      | cons second rest =>
          rw [List.orderedInsert, if_pos]
          exact (List.isChain_cons_cons.mp h).1

/-- Sorting by insertion is a way to sort. -/
def Sorter.insertion : Sorter κ where
  sorted := insertionSorted
  perm _ items := List.perm_insertionSort _ items
  stable := insertionSorted_eq_sortedBy
  ascending := insertionSorted_of_ascending

end Insertion

namespace Sorter

variable (sorter : Sorter κ) {key : α → Option κ} {items : List α}

@[simp]
theorem mem_sorted {item : α} : item ∈ sorter.sorted key items ↔ item ∈ items :=
  (sorter.perm key items).mem_iff

end Sorter

end LLMRouting.Data
