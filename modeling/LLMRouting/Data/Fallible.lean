/-
# Fallible computations

Code that may raise is a computation in `Except`. These are the inversion rules by
which a proof takes a successful run apart, with no unfolding of the monad.
-/

import Mathlib

namespace LLMRouting.Data

variable {ε α β : Type}

/-- A sequence succeeds exactly when both halves do. -/
theorem bind_eq_ok {first : Except ε α} {next : α → Except ε β} {result : β} :
    first >>= next = .ok result ↔ ∃ value, first = .ok value ∧ next value = .ok result := by
  cases first with
  | error error =>
      constructor
      · intro h
        cases h
      · rintro ⟨value, h, -⟩
        cases h
  | ok value =>
      constructor
      · exact fun h => ⟨value, rfl, h⟩
      · rintro ⟨other, h, hnext⟩
        cases h
        exact hnext

/-- A sequence raises where its first half does, or its second half after it. -/
theorem bind_eq_error {first : Except ε α} {next : α → Except ε β} {error : ε} :
    first >>= next = .error error ↔
      first = .error error ∨ ∃ value, first = .ok value ∧ next value = .error error := by
  cases first with
  | error own =>
      constructor
      · intro h
        exact .inl (congrArg Except.error (Except.error.inj h))
      · rintro (h | ⟨value, h, -⟩)
        · exact congrArg Except.error (Except.error.inj h)
        · cases h
  | ok value =>
      constructor
      · exact fun h => .inr ⟨value, rfl, h⟩
      · rintro (h | ⟨other, h, hnext⟩)
        · cases h
        · cases h
          exact hnext

theorem pure_eq_ok {value result : α} :
    (pure value : Except ε α) = .ok result ↔ value = result :=
  ⟨fun h => Except.ok.inj h, fun h => congrArg Except.ok h⟩

/-- A traversal succeeds when it does so at every element. -/
theorem exists_mapM_eq_ok {f : α → Except ε β} {items : List α}
    (h : ∀ item ∈ items, ∃ value, f item = .ok value) :
    ∃ values, items.mapM f = .ok values := by
  induction items with
  | nil => exact ⟨[], rfl⟩
  | cons first rest ih =>
      obtain ⟨value, hvalue⟩ := h first List.mem_cons_self
      obtain ⟨values, hvalues⟩ := ih fun item hitem => h item (List.mem_cons_of_mem first hitem)
      refine ⟨value :: values, ?_⟩
      rw [List.mapM_cons, bind_eq_ok]
      exact ⟨value, hvalue, bind_eq_ok.mpr ⟨values, hvalues, rfl⟩⟩

/-- A successful traversal returns one value for each element. -/
theorem length_of_mapM_eq_ok {f : α → Except ε β} {items : List α} {values : List β}
    (h : items.mapM f = .ok values) : values.length = items.length := by
  induction items generalizing values with
  | nil =>
      cases h
      rfl
  | cons first rest ih =>
      rw [List.mapM_cons] at h
      obtain ⟨value, -, h⟩ := bind_eq_ok.mp h
      obtain ⟨others, hrest, h⟩ := bind_eq_ok.mp h
      rw [← pure_eq_ok.mp h, List.length_cons, List.length_cons, ih hrest]

/-- What a traversal raises, it raises at one of the elements. -/
theorem exists_of_mapM_eq_error {f : α → Except ε β} {items : List α} {error : ε}
    (h : items.mapM f = .error error) : ∃ item ∈ items, f item = .error error := by
  induction items with
  | nil => cases h
  | cons first rest ih =>
      rw [List.mapM_cons] at h
      obtain h | ⟨value, -, h⟩ := bind_eq_error.mp h
      · exact ⟨first, List.mem_cons_self, h⟩
      · obtain h | ⟨others, -, h⟩ := bind_eq_error.mp h
        · obtain ⟨item, hitem, hraised⟩ := ih h
          exact ⟨item, List.mem_cons_of_mem first hitem, hraised⟩
        · cases h

/-- A traversal that may raise succeeds with its results element by element. -/
theorem mapM_eq_ok_iff {f : α → Except ε β} {items : List α} {values : List β} :
    items.mapM f = .ok values ↔
      List.Forall₂ (fun item value => f item = .ok value) items values := by
  induction items generalizing values with
  | nil =>
      rw [List.forall₂_nil_left_iff]
      exact ⟨fun h => (Except.ok.inj h).symm, fun h => congrArg Except.ok h.symm⟩
  | cons first rest ih =>
      rw [List.mapM_cons, List.forall₂_cons_left_iff, bind_eq_ok]
      constructor
      · intro h
        obtain ⟨value, hvalue, h⟩ := h
        obtain ⟨others, hothers, h⟩ := bind_eq_ok.mp h
        exact ⟨value, others, hvalue, ih.mp hothers, (pure_eq_ok.mp h).symm⟩
      · intro h
        obtain ⟨value, others, hvalue, hothers, rfl⟩ := h
        exact ⟨value, hvalue, bind_eq_ok.mpr ⟨others, ih.mpr hothers, rfl⟩⟩

/-- A traversal that finds something at every element returns all that is found. -/
theorem mapM_eq_some_filterMap {f : α → Option β} {items : List α}
    (h : ∀ item ∈ items, ∃ value, f item = some value) :
    items.mapM f = some (items.filterMap f) := by
  induction items with
  | nil => rfl
  | cons first rest ih =>
      obtain ⟨value, hvalue⟩ := h first List.mem_cons_self
      have hrest := ih fun item hitem => h item (List.mem_cons_of_mem first hitem)
      rw [List.mapM_cons, hvalue, hrest, List.filterMap_cons, hvalue]
      rfl

/-- A traversal that may find nothing finds its results element by element. -/
theorem mapM_eq_some_iff {f : α → Option β} {items : List α} {values : List β} :
    items.mapM f = some values ↔
      List.Forall₂ (fun item value => f item = some value) items values := by
  induction items generalizing values with
  | nil =>
      rw [List.forall₂_nil_left_iff]
      exact ⟨fun h => (Option.some.inj h).symm, fun h => congrArg some h.symm⟩
  | cons first rest ih =>
      rw [List.mapM_cons, List.forall₂_cons_left_iff]
      cases hfirst : f first with
      | none =>
          refine ⟨fun h => (by cases h), ?_⟩
          rintro ⟨value, others, hvalue, -⟩
          cases hvalue
      | some value =>
          cases hrest : rest.mapM f with
          | none =>
              refine ⟨fun h => (by cases h), ?_⟩
              rintro ⟨value', others, -, hothers, -⟩
              rw [ih.mpr hothers] at hrest
              cases hrest
          | some others =>
              refine ⟨?_, ?_⟩
              · intro h
                exact ⟨value, others, rfl, ih.mp hrest, (Option.some.inj h).symm⟩
              · rintro ⟨value', others', hvalue, hothers, rfl⟩
                cases hvalue
                rw [ih.mpr hothers] at hrest
                cases hrest
                rfl

end LLMRouting.Data
