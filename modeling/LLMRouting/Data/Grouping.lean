/-
# Grouping a list by a key

A dictionary of lists that is filled by appending every item under its key: the groups come
in the order in which their keys are first met, each keeps the order of its items, and
together they hold every item once.
-/

import LLMRouting.Data.Dict

namespace LLMRouting.Data

variable {α κ : Type} [DecidableEq κ] {key : α → κ}

/-- One more item, under its key. -/
def addToGroup (key : α → κ) (groups : Dict κ (List α)) (item : α) : Dict κ (List α) :=
  groups.set (key item) ((groups.get? (key item)).getD [] ++ [item])

/-- The items under their keys. -/
def groupByKey (key : α → κ) (items : List α) : Dict κ (List α) :=
  items.foldl (addToGroup key) .empty

/-- The items with the key. -/
def withKey (key : α → κ) (items : List α) (k : κ) : List α :=
  items.filter fun item => decide (key item = k)

theorem mem_withKey {items : List α} {k : κ} {item : α} :
    item ∈ withKey key items k ↔ item ∈ items ∧ key item = k := by
  rw [withKey, List.mem_filter, decide_eq_true_eq]

theorem get?_groupByKey (items : List α) (k : κ) :
    (groupByKey key items).get? k =
      if withKey key items k = [] then none else some (withKey key items k) := by
  induction items using List.reverseRecOn with
  | nil => rfl
  | append_singleton items item ih =>
      have hfold : groupByKey key (items ++ [item]) =
          addToGroup key (groupByKey key items) item := by
        rw [groupByKey, List.foldl_append]
        rfl
      have happend : withKey key (items ++ [item]) k =
          withKey key items k ++ if key item = k then [item] else [] := by
        rw [withKey, List.filter_append, withKey]
        by_cases hkey : key item = k
        · simp [hkey]
        · simp [hkey]
      rw [hfold, addToGroup, Dict.get?_set, happend]
      by_cases hkey : k = key item
      · subst hkey
        rw [if_pos rfl, if_pos rfl, ih]
        by_cases hempty : withKey key items (key item) = []
        · rw [if_pos hempty, hempty]
          rfl
        · rw [if_neg hempty]
          simp
      · rw [if_neg hkey, if_neg (Ne.symm hkey), ih, List.append_nil]

/-- A group holds the items with its key, and at least one. -/
theorem eq_withKey_of_mem {items : List α} {entry : κ × List α}
    (h : entry ∈ (groupByKey key items).entries) :
    entry.2 = withKey key items entry.1 ∧ entry.2 ≠ [] := by
  have hget := Dict.get?_of_mem_entries h
  rw [get?_groupByKey] at hget
  by_cases hempty : withKey key items entry.1 = []
  · rw [if_pos hempty] at hget
    cases hget
  · rw [if_neg hempty] at hget
    have hgroup := Option.some.inj hget
    rw [hgroup] at hempty
    exact ⟨hgroup.symm, hempty⟩

theorem key_mem_keys (key : α → κ) {items : List α} {item : α} (h : item ∈ items) :
    key item ∈ (groupByKey key items).keys := by
  have hne : withKey key items (key item) ≠ [] :=
    List.ne_nil_of_mem (mem_withKey.mpr ⟨h, rfl⟩)
  exact Dict.mem_keys_iff.mpr ⟨_, by rw [get?_groupByKey, if_neg hne]⟩

/-- Distinct keys that cover the items take each item once. -/
theorem flatMap_withKey_perm {keys : List κ} (hnodup : keys.Nodup) (items : List α)
    (hcover : ∀ item ∈ items, key item ∈ keys) :
    (keys.flatMap (withKey key items)).Perm items := by
  induction keys generalizing items with
  | nil =>
      cases items with
      | nil => exact .refl _
      | cons item rest => cases hcover item List.mem_cons_self
  | cons k keys ih =>
      obtain ⟨hk, hrest⟩ := List.nodup_cons.mp hnodup
      have hothers : keys.flatMap (withKey key items) =
          keys.flatMap (withKey key (items.filter fun item => !decide (key item = k))) := by
        apply List.flatMap_congr
        intro other hother
        rw [withKey, withKey, List.filter_filter]
        apply List.filter_congr
        intro item _
        by_cases hkey : key item = k
        · have hne : k ≠ other := fun heq => hk (heq ▸ hother)
          simp [hkey, hne]
        · simp [hkey]
      rw [List.flatMap_cons, hothers]
      apply List.Perm.trans _ (List.filter_append_perm (fun item => decide (key item = k)) items)
      apply List.Perm.append_left
      apply ih hrest
      intro item hitem
      obtain ⟨hmem, hne⟩ := List.mem_filter.mp hitem
      rcases List.mem_cons.mp (hcover item hmem) with heq | hmem'
      · simp [heq] at hne
      · exact hmem'

/-- The groups hold every item once. -/
theorem flatMap_groups_perm (items : List α) :
    ((groupByKey key items).entries.flatMap Prod.snd).Perm items := by
  have hgroups : (groupByKey key items).entries.flatMap Prod.snd =
      (groupByKey key items).keys.flatMap (withKey key items) := by
    rw [Dict.keys, List.flatMap_map]
    apply List.flatMap_congr
    intro entry hentry
    exact (eq_withKey_of_mem hentry).1
  rw [hgroups]
  exact flatMap_withKey_perm (groupByKey key items).nodup items fun item hitem =>
    key_mem_keys key hitem

section FirstFound

variable {β : Type}

theorem findSome?_congr {γ : Type} {found other : γ → Option β} {items : List γ}
    (h : ∀ item ∈ items, found item = other item) :
    items.findSome? found = items.findSome? other := by
  induction items with
  | nil => rfl
  | cons item rest ih =>
      obtain ⟨hitem, hrest⟩ := List.forall_mem_cons.mp h
      rw [List.findSome?_cons, List.findSome?_cons, hitem, ih hrest]

/-- What is found first among the keys is found first among the items. -/
theorem findSome?_keys (found : κ → Option β) (items : List α) :
    (groupByKey key items).keys.findSome? found = items.findSome? fun item => found (key item) := by
  induction items using List.reverseRecOn with
  | nil => rfl
  | append_singleton items item ih =>
      have hfold : groupByKey key (items ++ [item]) =
          addToGroup key (groupByKey key items) item := by
        rw [groupByKey, List.foldl_append]
        rfl
      rw [hfold, addToGroup, Dict.keys_set, List.findSome?_append, ← ih, List.findSome?_singleton]
      by_cases hkey : key item ∈ (groupByKey key items).keys
      · rw [if_pos hkey]
        cases hfound : found (key item) with
        | none => rw [Option.or_none]
        | some value =>
            -- the key has been met before, so that something has been found
            have hsome : ((groupByKey key items).keys.findSome? found).isSome := by
              rw [List.findSome?_isSome_iff]
              exact ⟨key item, hkey, by rw [hfound]; rfl⟩
            rw [Option.or_of_isSome hsome]
      · rw [if_neg hkey, List.findSome?_append, List.findSome?_singleton]

/-- Where the key decides what is found, the groups are searched like the items. -/
theorem findSome?_groups {found : α → Option β} {items : List α}
    (hsame : ∀ item ∈ items, ∀ other ∈ items, key other = key item → found other = found item) :
    ((groupByKey key items).entries.findSome? fun entry => entry.2.findSome? found) =
      items.findSome? found := by
  have hgroups : ((groupByKey key items).entries.findSome? fun entry =>
      entry.2.findSome? found) =
        (groupByKey key items).keys.findSome? fun k => (withKey key items k).findSome? found := by
    rw [Dict.keys, List.findSome?_map]
    apply findSome?_congr
    intro entry hentry
    rw [Function.comp_apply, (eq_withKey_of_mem hentry).1]
  rw [hgroups, findSome?_keys]
  apply findSome?_congr
  intro item hitem
  have hmem : item ∈ withKey key items (key item) := mem_withKey.mpr ⟨hitem, rfl⟩
  cases hfound : found item with
  | none =>
      rw [List.findSome?_eq_none_iff]
      intro other hother
      obtain ⟨hother, hkey⟩ := mem_withKey.mp hother
      rw [hsame item hitem other hother hkey, hfound]
  | some value =>
      obtain ⟨first, rest, hcons⟩ := List.exists_cons_of_ne_nil (List.ne_nil_of_mem hmem)
      have hfirst : first ∈ withKey key items (key item) := by
        rw [hcons]
        exact List.mem_cons_self
      obtain ⟨hitems, hkey⟩ := mem_withKey.mp hfirst
      rw [hcons, List.findSome?_cons, hsame item hitem first hitems hkey, hfound]

end FirstFound

end LLMRouting.Data
