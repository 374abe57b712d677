/-
# Stable sorting by a key

`sorted(items, key=...)` is a stable sort, so it is insertion sort by the order the
key induces: elements with equal keys keep their places.
-/

import Mathlib

namespace LLMRouting.Data

variable {α κ : Type} [LinearOrder κ]

/-- The elements in increasing order of their keys, equal keys in list order. -/
def sortedBy (key : α → κ) (items : List α) : List α :=
  items.insertionSort fun first second => key first ≤ key second

variable (key : α → κ) (items : List α)

theorem sortedBy_perm : (sortedBy key items).Perm items :=
  List.perm_insertionSort _ items

@[simp]
theorem mem_sortedBy {item : α} : item ∈ sortedBy key items ↔ item ∈ items :=
  (sortedBy_perm key items).mem_iff

theorem pairwise_sortedBy : (sortedBy key items).Pairwise (key · ≤ key ·) := by
  have : Std.Total fun first second => key first ≤ key second := ⟨fun a b => le_total _ _⟩
  have : IsTrans α fun first second => key first ≤ key second := ⟨fun _ _ _ => le_trans⟩
  exact List.pairwise_insertionSort _ items

/-- A sort leaves exactly the sorted lists unchanged. -/
theorem sortedBy_eq_self_iff : sortedBy key items = items ↔ items.Pairwise (key · ≤ key ·) :=
  ⟨fun h => h ▸ pairwise_sortedBy key items, List.Pairwise.insertionSort_eq⟩

/-- Two elements in the wrong order. -/
theorem sortedBy_pair {first second : α} (h : key second < key first) :
    sortedBy key [first, second] = [second, first] := by
  rw [sortedBy, List.insertionSort_cons, List.insertionSort_cons, List.insertionSort_nil,
    List.orderedInsert_nil, List.orderedInsert, if_neg h.not_ge, List.orderedInsert_nil]

section Distinct

variable {key} {items}

/-- If the keys tell the elements apart, there is one way to sort them. -/
theorem sortedBy_eq_of_perm {sorted : List α} (hkey : Set.InjOn key {item | item ∈ items})
    (hperm : sorted.Perm items) (hsorted : sorted.Pairwise (key · ≤ key ·)) :
    sortedBy key items = sorted := by
  have hperm' : (sortedBy key items).Perm sorted := (sortedBy_perm key items).trans hperm.symm
  apply hperm'.eq_of_pairwise _ (pairwise_sortedBy key items) hsorted
  intro first second hfirst hsecond hle hge
  apply hkey
  · exact (mem_sortedBy key items).mp hfirst
  · exact hperm.mem_iff.mp hsecond
  · exact le_antisymm hle hge

/-- The order the elements come in makes no difference then. -/
theorem sortedBy_congr {other : List α} (hkey : Set.InjOn key {item | item ∈ items})
    (hperm : other.Perm items) : sortedBy key items = sortedBy key other :=
  sortedBy_eq_of_perm hkey ((sortedBy_perm key other).trans hperm) (pairwise_sortedBy key other)

/-- Sorting and leaving some elements out can be done in either order. -/
theorem sortedBy_filter (hkey : Set.InjOn key {item | item ∈ items}) (test : α → Bool) :
    sortedBy key (items.filter test) = (sortedBy key items).filter test := by
  apply sortedBy_eq_of_perm
  · apply hkey.mono
    intro item hitem
    exact List.mem_of_mem_filter hitem
  · exact (sortedBy_perm key items).filter test
  · exact (pairwise_sortedBy key items).filter test

end Distinct

end LLMRouting.Data
