/-
# Insertion-ordered dictionaries

Overwriting a key keeps its place, a new key goes to the end, and iteration is in
that order. Mathlib's `AList` moves an inserted key to the front, so the order of
iteration would not be the source's.
-/

import Mathlib

namespace LLMRouting.Data

/-- A finite map that remembers the order in which its keys were first set. -/
@[ext]
structure Dict (κ ν : Type) where
  entries : List (κ × ν)
  nodup : (entries.map Prod.fst).Nodup

namespace Dict

variable {κ ν : Type}

def empty : Dict κ ν := ⟨[], List.nodup_nil⟩

instance : Inhabited (Dict κ ν) := ⟨empty⟩

/-- The keys in iteration order. -/
def keys (d : Dict κ ν) : List κ := d.entries.map Prod.fst

/-- The values in iteration order. -/
def values (d : Dict κ ν) : List ν := d.entries.map Prod.snd

variable [DecidableEq κ]

/-- The value under a key, `none` where a subscript would raise. -/
def get? (d : Dict κ ν) (key : κ) : Option ν := d.entries.lookup key

private def overwrite (key : κ) (value : ν) (entry : κ × ν) : κ × ν :=
  if entry.1 = key then (key, value) else entry

private theorem map_fst_overwrite (key : κ) (value : ν) (entries : List (κ × ν)) :
    (entries.map (overwrite key value)).map Prod.fst = entries.map Prod.fst := by
  rw [List.map_map]
  refine List.map_congr_left fun entry _ => ?_
  by_cases h : entry.1 = key
  · simp [overwrite, h]
  · simp [overwrite, h]

/-- Set a key: in place if it is present, at the end if it is new. -/
def set (d : Dict κ ν) (key : κ) (value : ν) : Dict κ ν :=
  if h : key ∈ d.keys then
    ⟨d.entries.map (overwrite key value), by rw [map_fst_overwrite]; exact d.nodup⟩
  else
    ⟨d.entries ++ [(key, value)], by
      rw [List.map_append]
      refine List.nodup_append'.mpr ⟨d.nodup, by simp, ?_⟩
      simpa [keys] using h⟩

/-- Delete a key, keeping the order of the others. -/
def erase (d : Dict κ ν) (key : κ) : Dict κ ν :=
  ⟨d.entries.filter (·.1 ≠ key),
    d.nodup.sublist (List.filter_sublist.map Prod.fst)⟩

@[simp]
theorem get?_empty (key : κ) : (empty : Dict κ ν).get? key = none := rfl

theorem get?_eq_none_iff {d : Dict κ ν} {key : κ} : d.get? key = none ↔ key ∉ d.keys := by
  simp only [get?, List.lookup_eq_none_iff, keys, List.mem_map, not_exists, not_and, bne_iff_ne,
    ne_eq]
  exact ⟨fun h entry hmem heq => h entry hmem heq.symm,
    fun h entry hmem heq => h entry hmem heq.symm⟩

theorem mem_keys_iff {d : Dict κ ν} {key : κ} :
    key ∈ d.keys ↔ ∃ value, d.get? key = some value := by
  rw [← Option.ne_none_iff_exists', ne_eq, get?_eq_none_iff, not_not]

/-- There is one entry under a key that is set, and none under another. -/
theorem filter_entries_key (d : Dict κ ν) (key : κ) :
    d.entries.filter (fun entry => decide (entry.1 = key)) =
      (d.get? key).toList.map fun value => (key, value) := by
  obtain ⟨entries, nodup⟩ := d
  show entries.filter _ = (entries.lookup key).toList.map _
  induction entries with
  | nil => rfl
  | cons entry rest ih =>
      obtain ⟨first, stored⟩ := entry
      have hnodup : first ∉ rest.map Prod.fst ∧ (rest.map Prod.fst).Nodup :=
        List.nodup_cons.mp nodup
      by_cases hkey : first = key
      · subst hkey
        have hnone : rest.filter (fun entry => decide (entry.1 = first)) = [] := by
          rw [List.filter_eq_nil_iff]
          intro entry hentry
          have hne : entry.1 ≠ first := fun heq => hnodup.1 (heq ▸ List.mem_map_of_mem hentry)
          simpa using hne
        simp [hnone]
      · have hne : (key == first) = false := by simpa using fun h => hkey h.symm
        simpa [hkey, List.lookup_cons, hne] using ih hnodup.2

/-- An entry is what is read under its key. -/
theorem get?_of_mem_entries {d : Dict κ ν} {entry : κ × ν} (h : entry ∈ d.entries) :
    d.get? entry.1 = some entry.2 := by
  have hmem : entry ∈ d.entries.filter fun other => decide (other.1 = entry.1) :=
    List.mem_filter.mpr ⟨h, by simp⟩
  rw [filter_entries_key] at hmem
  cases hget : d.get? entry.1 with
  | none => simp [hget] at hmem
  | some value =>
      rw [hget] at hmem
      have heq : entry = (entry.1, value) := by simpa using hmem
      rw [heq]

private theorem lookup_map_overwrite (key other : κ) (value : ν) (entries : List (κ × ν)) :
    (entries.map (overwrite key value)).lookup other =
      if other = key ∧ key ∈ entries.map Prod.fst then some value else entries.lookup other := by
  induction entries with
  | nil => simp
  | cons entry rest ih =>
      obtain ⟨first, stored⟩ := entry
      by_cases hother : other = first
      · by_cases hkey : first = key
        · simp [overwrite, hkey, hother]
        · simp [overwrite, hkey, hother]
      · have hne : (other == first) = false := by simpa using hother
        by_cases hkey : first = key
        · subst hkey
          simp [overwrite, List.lookup_cons, hne, hother, ih]
        · have hkey' : ¬ key = first := fun h => hkey h.symm
          have hmem : key ∈ ((first, stored) :: rest).map Prod.fst ↔ key ∈ rest.map Prod.fst := by
            rw [List.map_cons, List.mem_cons]
            exact or_iff_right hkey'
          rw [if_congr (and_congr_right fun _ => hmem) rfl rfl]
          simpa only [List.map_cons, overwrite, if_neg hkey, List.lookup_cons, hne] using ih

/-- Reading after setting: the new value under the key, every other key as before. -/
theorem get?_set (d : Dict κ ν) (key other : κ) (value : ν) :
    (d.set key value).get? other = if other = key then some value else d.get? other := by
  by_cases h : key ∈ d.keys
  · have hmem : key ∈ d.entries.map Prod.fst := h
    simp [set, h, get?, lookup_map_overwrite, hmem]
  · simp only [set, h, dite_false, get?, List.lookup_append]
    have hnone : d.entries.lookup key = none := get?_eq_none_iff.mpr h
    by_cases hother : other = key
    · simp [hother, hnone]
    · have hne : (other == key) = false := by simpa using hother
      simp [hother, List.lookup_cons, hne]

@[simp]
theorem get?_set_self (d : Dict κ ν) (key : κ) (value : ν) :
    (d.set key value).get? key = some value := by
  rw [get?_set, if_pos rfl]

theorem get?_set_of_ne (d : Dict κ ν) {key other : κ} (value : ν) (h : other ≠ key) :
    (d.set key value).get? other = d.get? other := by
  rw [get?_set, if_neg h]

/-- Setting a key keeps the order of the keys, a new one coming last. -/
theorem keys_set (d : Dict κ ν) (key : κ) (value : ν) :
    (d.set key value).keys = if key ∈ d.keys then d.keys else d.keys ++ [key] := by
  by_cases h : key ∈ d.keys
  · rw [if_pos h, set, dif_pos h]
    exact map_fst_overwrite key value d.entries
  · rw [if_neg h, set, dif_neg h]
    exact List.map_append

/-- The entries under the keys that pass a test, in the same order. -/
def restrict (d : Dict κ ν) (test : κ → Bool) : Dict κ ν :=
  ⟨d.entries.filter fun entry => test entry.1,
    d.nodup.sublist (List.filter_sublist.map Prod.fst)⟩

omit [DecidableEq κ] in
theorem mem_keys_restrict {d : Dict κ ν} {test : κ → Bool} {key : κ} :
    key ∈ (d.restrict test).keys ↔ key ∈ d.keys ∧ test key = true := by
  simp only [keys, restrict, List.mem_map, List.mem_filter]
  constructor
  · rintro ⟨entry, ⟨hentry, htest⟩, rfl⟩
    exact ⟨⟨entry, hentry, rfl⟩, htest⟩
  · rintro ⟨⟨entry, hentry, rfl⟩, htest⟩
    exact ⟨entry, ⟨hentry, htest⟩, rfl⟩

/-- What is under a key that passes the test can still be read. -/
theorem get?_restrict {d : Dict κ ν} {test : κ → Bool} {key : κ} (htest : test key = true) :
    (d.restrict test).get? key = d.get? key := by
  obtain ⟨entries, nodup⟩ := d
  show (entries.filter _).lookup key = entries.lookup key
  clear nodup
  induction entries with
  | nil => rfl
  | cons entry rest ih =>
      obtain ⟨first, stored⟩ := entry
      by_cases hkey : key = first
      · subst hkey
        simp [htest]
      · have hne : (key == first) = false := by simpa using hkey
        by_cases hfirst : test first
        · simpa [hfirst, List.lookup_cons, hne] using ih
        · simpa [hfirst, List.lookup_cons, hne] using ih

theorem get?_erase (d : Dict κ ν) (key other : κ) :
    (d.erase key).get? other = if other = key then none else d.get? other := by
  have hrestrict : d.erase key = d.restrict fun k => decide (k ≠ key) := rfl
  rw [hrestrict]
  by_cases hother : other = key
  · rw [if_pos hother, get?_eq_none_iff, mem_keys_restrict]
    simp [hother]
  · rw [if_neg hother]
    exact get?_restrict (decide_eq_true hother)

private theorem entries_set (d : Dict κ ν) (key : κ) (value : ν) :
    (d.set key value).entries =
      if key ∈ d.keys then d.entries.map (overwrite key value)
      else d.entries ++ [(key, value)] := by
  rw [set]
  by_cases hmem : key ∈ d.keys
  · rw [dif_pos hmem, if_pos hmem]
  · rw [dif_neg hmem, if_neg hmem]

private theorem filter_map_overwrite (test : κ → Bool) (key : κ) (value : ν)
    (entries : List (κ × ν)) :
    (entries.map (overwrite key value)).filter (fun entry => test entry.1) =
      (entries.filter fun entry => test entry.1).map (overwrite key value) := by
  rw [List.filter_map]
  congr 1
  apply List.filter_congr
  intro entry _
  by_cases hentry : entry.1 = key
  · simp [overwrite, hentry]
  · simp [overwrite, hentry]

/-- Setting a key that passes the test sets it among those that do. -/
theorem restrict_set (d : Dict κ ν) {test : κ → Bool} {key : κ} (value : ν)
    (htest : test key = true) :
    (d.set key value).restrict test = (d.restrict test).set key value := by
  ext1
  show (d.set key value).entries.filter _ = _
  rw [entries_set, entries_set]
  by_cases hmem : key ∈ d.keys
  · rw [if_pos hmem, if_pos (mem_keys_restrict.mpr ⟨hmem, htest⟩), filter_map_overwrite]
    rfl
  · rw [if_neg hmem, if_neg fun h => hmem (mem_keys_restrict.mp h).1, List.filter_append]
    simp [restrict, htest]

/-- Setting a key that fails the test is not noticed among those that pass. -/
theorem restrict_set_of_not (d : Dict κ ν) {test : κ → Bool} {key : κ} (value : ν)
    (htest : test key = false) : (d.set key value).restrict test = d.restrict test := by
  ext1
  show (d.set key value).entries.filter _ = d.entries.filter _
  rw [entries_set]
  by_cases hmem : key ∈ d.keys
  · rw [if_pos hmem, filter_map_overwrite]
    have hsame : ∀ entry ∈ d.entries.filter fun entry => test entry.1,
        overwrite key value entry = entry := by
      intro entry hentry
      have hpassed := (List.mem_filter.mp hentry).2
      have hne : entry.1 ≠ key := by
        intro hkey
        rw [hkey, htest] at hpassed
        cases hpassed
      simp [overwrite, hne]
    rw [List.map_congr_left hsame, List.map_id']
  · rw [if_neg hmem, List.filter_append]
    simp [htest]

end Dict

end LLMRouting.Data
