/-
# The registry as a function of its history

What a registry lists is determined by the operations it has been through. A provider is
registered from the time of the first registration since its last removal on; it is listed in
the order of these times, with the configuration last registered for it and the flag last set.
-/

import LLMRouting.Registry.Methods

namespace LLMRouting

open LLMRouting.Data

variable {μ : Type}

namespace RegistryOperation

/-- What an operation makes of the flag of the provider registered under an id. -/
def flag (providerId : String) (enabled : Bool) : RegistryOperation μ → Bool
  | .enable other => if other = providerId then true else enabled
  | .disable other => if other = providerId then false else enabled
  | .register _ | .remove _ => enabled

/-- The operation registers the id. -/
def Registers (providerId : String) (operation : RegistryOperation μ) : Prop :=
  ∃ provider, operation = .register provider ∧ provider.id = providerId

theorem register_ne_remove {provider : ProviderConfig μ} {providerId : String} :
    register provider ≠ .remove providerId := by
  intro h
  cases h

end RegistryOperation

/-- At this time the id was registered, and it has not been removed since. -/
structure Standing (operations : List (RegistryOperation μ)) (providerId : String) (time : ℕ) :
    Prop where
  registers : ∃ operation, operations[time]? = some operation ∧ operation.Registers providerId
  kept : ∀ later, time < later → operations[later]? ≠ some (.remove providerId)

/-- The id has been registered since this time: the first registration after the last removal. -/
def RegisteredSince (operations : List (RegistryOperation μ)) (providerId : String) (time : ℕ) :
    Prop :=
  IsLeast {time | Standing operations providerId time} time

/-- The configuration given by the last registration of the id, which still stands. -/
structure LastGiven (operations : List (RegistryOperation μ)) (providerId : String) (time : ℕ)
    (given : ProviderConfig μ) : Prop where
  last : IsGreatest {time | Standing operations providerId time} time
  register : operations[time]? = some (.register given)

/-- The provider is registered with its latest configuration: the one last given, with the flag
as it was set after that. -/
def Latest (operations : List (RegistryOperation μ)) (provider : ProviderConfig μ) : Prop :=
  ∃ time given, LastGiven operations provider.id time given ∧
    provider = { given with
      enabled := (operations.drop (time + 1)).foldl (RegistryOperation.flag provider.id)
        given.enabled }

section Steps

variable {operations : List (RegistryOperation μ)} {operation : RegistryOperation μ}
  {providerId : String} {time : ℕ}

theorem Standing.lt_length (h : Standing operations providerId time) :
    time < operations.length := by
  obtain ⟨operation, hoperation, -⟩ := h.registers
  exact (List.getElem?_eq_some_iff.mp hoperation).1

/-- What one more operation makes of the registrations that stand. -/
theorem standing_append_iff : Standing (operations ++ [operation]) providerId time ↔
    operation ≠ .remove providerId ∧
      (Standing operations providerId time ∨
        time = operations.length ∧ operation.Registers providerId) := by
  have hlast : (operations ++ [operation])[operations.length]? = some operation := by simp
  have hearlier : ∀ index, index < operations.length →
      (operations ++ [operation])[index]? = operations[index]? := fun index hindex =>
    List.getElem?_append_left hindex
  constructor
  · intro h
    have hlt : time < operations.length + 1 := by simpa using h.lt_length
    obtain ⟨given, hgiven, hregisters⟩ := h.registers
    by_cases hnew : time = operations.length
    · subst hnew
      cases Option.some.inj (hlast.symm.trans hgiven)
      obtain ⟨provider, rfl, hid⟩ := hregisters
      exact ⟨RegistryOperation.register_ne_remove, .inr ⟨rfl, provider, rfl, hid⟩⟩
    · have hold : time < operations.length := by omega
      refine ⟨?_, .inl ⟨⟨given, (hearlier time hold).symm.trans hgiven, hregisters⟩, ?_⟩⟩
      · rintro rfl
        exact h.kept operations.length hold hlast
      · intro later hlater hremove
        have hbound := (List.getElem?_eq_some_iff.mp hremove).1
        exact h.kept later hlater ((hearlier later hbound).trans hremove)
  · rintro ⟨hkept, hold | ⟨rfl, hregisters⟩⟩
    · obtain ⟨given, hgiven, hregisters⟩ := hold.registers
      refine ⟨⟨given, (hearlier time hold.lt_length).trans hgiven, hregisters⟩, ?_⟩
      intro later hlater hremove
      by_cases hbound : later < operations.length
      · exact hold.kept later hlater ((hearlier later hbound).symm.trans hremove)
      · have hend : later = operations.length := by
          have := (List.getElem?_eq_some_iff.mp hremove).1
          rw [List.length_append, List.length_singleton] at this
          omega
        subst hend
        exact hkept (Option.some.inj (hlast.symm.trans hremove))
    · refine ⟨⟨operation, hlast, hregisters⟩, ?_⟩
      intro later hlater hremove
      have := (List.getElem?_eq_some_iff.mp hremove).1
      rw [List.length_append, List.length_singleton] at this
      omega

/-- An id whose registration stands has been registered since some time. -/
theorem exists_registeredSince (h : Standing operations providerId time) :
    ∃ first, RegisteredSince operations providerId first := by
  classical
  have hexists : ∃ time, Standing operations providerId time := ⟨time, h⟩
  exact ⟨Nat.find hexists, Nat.find_spec hexists, fun other hother => Nat.find_min' hexists hother⟩

/-- Whatever is done to a registered id, the time since which it is registered stays the same. -/
theorem registeredSince_of_append (h : Standing operations providerId time) {first : ℕ}
    (hfirst : RegisteredSince (operations ++ [operation]) providerId first) :
    RegisteredSince operations providerId first := by
  obtain ⟨hstanding, hleast⟩ := hfirst
  obtain ⟨hkept, hold | ⟨rfl, -⟩⟩ := standing_append_iff.mp hstanding
  · refine ⟨hold, ?_⟩
    intro other hother
    exact hleast (standing_append_iff.mpr ⟨hkept, .inl hother⟩)
  · have hle : operations.length ≤ time := hleast (standing_append_iff.mpr ⟨hkept, .inl h⟩)
    exact absurd h.lt_length (Nat.not_lt.mpr hle)

/-- An id that was not registered is registered since the last operation, if at all. -/
theorem eq_length_of_registeredSince (h : ∀ time, ¬ Standing operations providerId time)
    (hfirst : RegisteredSince (operations ++ [operation]) providerId time) :
    time = operations.length := by
  obtain ⟨-, hold | ⟨hnew, -⟩⟩ := standing_append_iff.mp hfirst.1
  · exact absurd hold (h time)
  · exact hnew

variable {provider given : ProviderConfig μ}

theorem LastGiven.id_eq (h : LastGiven operations providerId time given) :
    given.id = providerId := by
  obtain ⟨operation, hoperation, provider, rfl, hid⟩ := h.last.1.registers
  cases Option.some.inj (hoperation.symm.trans h.register)
  exact hid

theorem lastGiven_append_register (hid : given.id = providerId) :
    LastGiven (operations ++ [.register given]) providerId operations.length given where
  last := by
    refine ⟨standing_append_iff.mpr
      ⟨RegistryOperation.register_ne_remove, .inr ⟨rfl, given, rfl, hid⟩⟩, ?_⟩
    intro time htime
    have hlt := Standing.lt_length htime
    rw [List.length_append, List.length_singleton] at hlt
    exact Nat.lt_succ_iff.mp hlt
  register := by simp

/-- An operation that neither registers nor removes the id gives no configuration for it. -/
theorem lastGiven_append_iff (hregisters : ¬ operation.Registers providerId)
    (hremove : operation ≠ .remove providerId) :
    LastGiven (operations ++ [operation]) providerId time given ↔
      LastGiven operations providerId time given := by
  have hsame : {time | Standing (operations ++ [operation]) providerId time} =
      {time | Standing operations providerId time} := by
    ext time
    show Standing (operations ++ [operation]) providerId time ↔ Standing operations providerId time
    rw [standing_append_iff]
    constructor
    · rintro ⟨-, hold | ⟨-, hnew⟩⟩
      · exact hold
      · exact absurd hnew hregisters
    · intro hold
      exact ⟨hremove, .inl hold⟩
  have hget : Standing operations providerId time →
      (operations ++ [operation])[time]? = operations[time]? := fun h =>
    List.getElem?_append_left h.lt_length
  constructor
  · intro h
    have hlast := h.last
    rw [hsame] at hlast
    exact ⟨hlast, (hget hlast.1).symm.trans h.register⟩
  · intro h
    have hlast := h.last
    rw [← hsame] at hlast
    exact ⟨hlast, (hget h.last.1).trans h.register⟩

theorem not_latest_append_remove : ¬ Latest (operations ++ [.remove provider.id]) provider := by
  rintro ⟨time, given, hgiven, -⟩
  exact (standing_append_iff.mp hgiven.last.1).1 rfl

theorem latest_append_register (hid : given.id = provider.id) :
    Latest (operations ++ [.register given]) provider ↔ provider = given := by
  have hgiven := @lastGiven_append_register μ operations provider.id given hid
  have hnone : (operations ++ [RegistryOperation.register given]).drop (operations.length + 1) =
      [] := by
    apply List.drop_eq_nil_of_le
    simp
  constructor
  · rintro ⟨time, last, hlast, hprovider⟩
    cases hlast.last.unique hgiven.last
    cases Option.some.inj (hlast.register.symm.trans hgiven.register)
    rwa [hnone] at hprovider
  · rintro rfl
    exact ⟨operations.length, provider, hgiven, by rw [hnone]; rfl⟩

/-- The latest configuration after an operation that does not register or remove its id. -/
theorem latest_append_of_kept (hregisters : ¬ operation.Registers provider.id)
    (hremove : operation ≠ .remove provider.id) :
    Latest (operations ++ [operation]) provider ↔
      ∃ stored, Latest operations stored ∧ stored.id = provider.id ∧
        provider = { stored with enabled := operation.flag provider.id stored.enabled } := by
  have hfold : ∀ time, time < operations.length → ∀ enabled : Bool,
      ((operations ++ [operation]).drop (time + 1)).foldl
          (RegistryOperation.flag provider.id) enabled =
        operation.flag provider.id
          ((operations.drop (time + 1)).foldl (RegistryOperation.flag provider.id) enabled) := by
    intro time htime enabled
    rw [List.drop_append_of_le_length htime, List.foldl_append]
    rfl
  constructor
  · rintro ⟨time, given, hgiven, hprovider⟩
    have hold := (lastGiven_append_iff hregisters hremove).mp hgiven
    rw [hfold time hold.last.1.lt_length] at hprovider
    refine ⟨{ given with
      enabled := (operations.drop (time + 1)).foldl (RegistryOperation.flag provider.id)
        given.enabled }, ?_, hold.id_eq, hprovider⟩
    have hid : given.id = provider.id := hold.id_eq
    exact ⟨time, given, hid.symm ▸ hold, by rw [hid]⟩
  · rintro ⟨stored, ⟨time, given, hgiven, hstored⟩, hid, hprovider⟩
    rw [hid] at hgiven hstored
    refine ⟨time, given, (lastGiven_append_iff hregisters hremove).mpr hgiven, ?_⟩
    rw [hfold time hgiven.last.1.lt_length]
    subst hstored
    exact hprovider

/-- An operation on another id changes nothing. -/
theorem latest_append_of_ne (h : operation.providerId ≠ provider.id) :
    Latest (operations ++ [operation]) provider ↔ Latest operations provider := by
  have hregisters : ¬ operation.Registers provider.id := by
    rintro ⟨other, rfl, hid⟩
    exact h hid
  have hremove : operation ≠ .remove provider.id := by
    rintro rfl
    exact h rfl
  have hflag : ∀ enabled, operation.flag provider.id enabled = enabled := by
    intro enabled
    cases operation with
    | register => rfl
    | remove => rfl
    | enable => exact if_neg h
    | disable => exact if_neg h
  rw [latest_append_of_kept hregisters hremove]
  constructor
  · rintro ⟨stored, hstored, -, hprovider⟩
    rw [hflag] at hprovider
    rwa [hprovider]
  · intro hlatest
    exact ⟨provider, hlatest, rfl, by rw [hflag]⟩

/-- An id whose registration stands has a latest configuration. -/
theorem exists_latest (h : Standing operations providerId time) :
    ∃ provider : ProviderConfig μ, provider.id = providerId ∧ Latest operations provider := by
  have hbounded : BddAbove {time | Standing operations providerId time} :=
    ⟨operations.length, fun time htime => (Standing.lt_length htime).le⟩
  obtain ⟨last, hlast⟩ := hbounded.exists_isGreatest_of_nonempty ⟨time, h⟩
  obtain ⟨operation, hget, given, rfl, hid⟩ := hlast.1.registers
  subst hid
  refine ⟨{ given with
    enabled := (operations.drop (last + 1)).foldl (RegistryOperation.flag given.id)
      given.enabled }, rfl, last, given, ⟨hlast, hget⟩, rfl⟩

theorem Latest.standing (h : Latest operations provider) :
    ∃ time, Standing operations provider.id time := by
  obtain ⟨time, given, hgiven, -⟩ := h
  exact ⟨time, hgiven.last.1⟩

end Steps

/-- The registry is what its history says. -/
structure Recounts (operations : List (RegistryOperation μ)) (registry : ModelRegistry μ) :
    Prop where
  consistent : registry.Consistent
  stored : ∀ providerId provider, registry.getProvider? providerId = some provider ↔
    provider.id = providerId ∧ Latest operations provider
  ordered : registry.order.Pairwise fun first second =>
    ∀ earlier later, RegisteredSince operations first earlier →
      RegisteredSince operations second later → earlier < later

section Recounts

variable {operations : List (RegistryOperation μ)} {operation : RegistryOperation μ}
  {registry registry' : ModelRegistry μ} {providerId : String}

theorem recounts_empty : Recounts ([] : List (RegistryOperation μ)) .empty where
  consistent := ModelRegistry.consistent_empty
  stored providerId provider := by
    constructor
    · intro h
      cases h
    · rintro ⟨-, hlatest⟩
      obtain ⟨time, htime⟩ := hlatest.standing
      exact absurd htime.lt_length (Nat.not_lt_zero time)
  ordered := .nil

/-- The registered ids are those that have been registered since some time. -/
theorem Recounts.mem_order_iff (h : Recounts operations registry) :
    providerId ∈ registry.order ↔ ∃ time, RegisteredSince operations providerId time := by
  rw [h.consistent.mem_order, Dict.mem_keys_iff]
  constructor
  · rintro ⟨provider, hprovider⟩
    obtain ⟨rfl, hlatest⟩ := (h.stored providerId provider).mp hprovider
    obtain ⟨time, htime⟩ := hlatest.standing
    exact exists_registeredSince htime
  · rintro ⟨time, htime, -⟩
    obtain ⟨provider, hid, hlatest⟩ := exists_latest htime
    exact ⟨provider, (h.stored providerId provider).mpr ⟨hid, hlatest⟩⟩

/-- The order of some of the registered ids is not changed by an operation. -/
theorem Recounts.ordered_append (h : Recounts operations registry) {order : List String}
    (horder : order.Sublist registry.order) :
    order.Pairwise fun first second =>
      ∀ earlier later, RegisteredSince (operations ++ [operation]) first earlier →
        RegisteredSince (operations ++ [operation]) second later → earlier < later := by
  apply (h.ordered.sublist horder).imp_of_mem
  intro first second hfirst hsecond hlt earlier later hearlier hlater
  obtain ⟨time, hstanding, -⟩ := h.mem_order_iff.mp (horder.subset hfirst)
  obtain ⟨time', hstanding', -⟩ := h.mem_order_iff.mp (horder.subset hsecond)
  exact hlt earlier later (registeredSince_of_append hstanding hearlier)
    (registeredSince_of_append hstanding' hlater)

/-- What is stored under another id than the operation's is what was stored before. -/
theorem Recounts.stored_append_of_ne (h : Recounts operations registry)
    (hne : operation.providerId ≠ providerId) {provider : ProviderConfig μ} :
    registry.getProvider? providerId = some provider ↔
      provider.id = providerId ∧ Latest (operations ++ [operation]) provider := by
  rw [h.stored]
  apply and_congr_right
  rintro rfl
  exact (latest_append_of_ne hne).symm

theorem Recounts.register (h : Recounts operations registry) (given : ProviderConfig μ) :
    Recounts (operations ++ [.register given]) (registry.register given) where
  consistent := h.consistent.register given
  stored providerId provider := by
    show (registry.providers.set given.id given).get? providerId = some provider ↔ _
    rw [Dict.get?_set]
    by_cases hid : providerId = given.id
    · subst hid
      rw [if_pos rfl]
      constructor
      · intro hgiven
        cases hgiven
        exact ⟨rfl, (latest_append_register rfl).mpr rfl⟩
      · rintro ⟨hid, hlatest⟩
        rw [(latest_append_register hid.symm).mp hlatest]
    · rw [if_neg hid]
      exact h.stored_append_of_ne fun hsame => hid hsame.symm
  ordered := by
    rw [ModelRegistry.register]
    split
    · rename_i hnew
      -- a new id comes last, and its time is the latest
      have hnever : ∀ time, ¬ Standing operations given.id time := by
        intro time htime
        obtain ⟨provider, hid, hlatest⟩ := exists_latest htime
        exact hnew (Dict.mem_keys_iff.mpr ⟨provider, (h.stored _ _).mpr ⟨hid, hlatest⟩⟩)
      refine List.pairwise_append.mpr ⟨h.ordered_append (.refl _), List.pairwise_singleton _ _, ?_⟩
      intro first hfirst second hsecond earlier later hearlier hlater
      cases List.mem_singleton.mp hsecond
      obtain ⟨time, hstanding, -⟩ := h.mem_order_iff.mp hfirst
      rw [eq_length_of_registeredSince hnever hlater]
      exact (registeredSince_of_append hstanding hearlier).1.lt_length
    · exact h.ordered_append (.refl _)

theorem Recounts.remove (h : Recounts operations registry)
    (hremove : registry.remove providerId = some registry') :
    Recounts (operations ++ [.remove providerId]) registry' where
  consistent := h.consistent.remove hremove
  stored id provider := by
    obtain ⟨removed, -, rfl⟩ := Option.map_eq_some_iff.mp hremove
    show (registry.providers.erase providerId).get? id = some provider ↔ _
    rw [Dict.get?_erase]
    by_cases hid : id = providerId
    · subst hid
      rw [if_pos rfl]
      constructor
      · intro hnone
        cases hnone
      · rintro ⟨rfl, hlatest⟩
        exact absurd hlatest not_latest_append_remove
    · rw [if_neg hid]
      exact h.stored_append_of_ne fun hsame => hid hsame.symm
  ordered := by
    obtain ⟨removed, -, rfl⟩ := Option.map_eq_some_iff.mp hremove
    exact h.ordered_append List.erase_sublist

/-- `enable` and `disable` of a registered id. -/
theorem Recounts.setEnabled (h : Recounts operations registry) {enabled : Bool}
    (hset : registry.setEnabled providerId enabled = some registry')
    (hid : operation.providerId = providerId)
    (hregisters : ¬ operation.Registers providerId) (hremove : operation ≠ .remove providerId)
    (hflag : ∀ flag, operation.flag providerId flag = enabled) :
    Recounts (operations ++ [operation]) registry' where
  consistent := h.consistent.setEnabled hset
  stored id provider := by
    obtain ⟨found, hfound, rfl⟩ := Option.map_eq_some_iff.mp hset
    obtain ⟨hfoundId, hlatest⟩ := (h.stored providerId found).mp hfound
    show (registry.providers.set providerId { found with enabled := enabled }).get? id =
      some provider ↔ _
    rw [Dict.get?_set]
    by_cases hsame : id = providerId
    · subst hsame hfoundId
      rw [if_pos rfl]
      constructor
      · intro hprovider
        cases hprovider
        have hkept := @latest_append_of_kept μ operations operation
          { found with enabled := enabled } hregisters hremove
        exact ⟨rfl, hkept.mpr ⟨found, hlatest, rfl, by rw [hflag]⟩⟩
      · rintro ⟨hprovider, hafter⟩
        rw [← hprovider] at hregisters hremove hflag hfound
        obtain ⟨stored, hstored, hid, heq⟩ := (latest_append_of_kept hregisters hremove).mp hafter
        have hsame : stored = found :=
          Option.some.inj (((h.stored _ stored).mpr ⟨hid, hstored⟩).symm.trans hfound)
        rw [heq, hsame, hflag]
    · rw [if_neg hsame]
      exact h.stored_append_of_ne fun heq => hsame (heq.symm.trans hid)
  ordered := by
    obtain ⟨found, -, rfl⟩ := Option.map_eq_some_iff.mp hset
    exact h.ordered_append (.refl _)

/-- An operation that fails for an unknown id leaves nothing to tell. -/
theorem Recounts.unknown (h : Recounts operations registry)
    (hunknown : registry.getProvider? operation.providerId = none)
    (hregisters : ¬ operation.Registers operation.providerId) :
    Recounts (operations ++ [operation]) registry where
  consistent := h.consistent
  stored id provider := by
    by_cases hsame : operation.providerId = id
    · subst hsame
      rw [hunknown]
      constructor
      · intro hnone
        cases hnone
      · rintro ⟨hid, hlatest⟩
        obtain ⟨time, hstanding⟩ := hlatest.standing
        rw [hid] at hstanding
        obtain ⟨-, hold | ⟨-, hnew⟩⟩ := standing_append_iff.mp hstanding
        · obtain ⟨known, hknown⟩ := exists_latest hold
          cases hunknown.symm.trans ((h.stored _ known).mpr hknown)
        · exact absurd hnew hregisters
    · exact h.stored_append_of_ne hsame
  ordered := h.ordered_append (.refl _)

/-- The registry keeps up with one more operation, whether it succeeds or not. -/
theorem Recounts.append (h : Recounts operations registry) (operation : RegistryOperation μ) :
    Recounts (operations ++ [operation]) (operation.method.runOn registry).2 := by
  cases hperform : operation.perform registry with
  | some after =>
      rw [RegistryM.method_runOn_of_some h.consistent hperform]
      cases operation with
      | register given =>
          cases hperform
          exact h.register given
      | remove => exact h.remove hperform
      | enable providerId =>
          exact h.setEnabled hperform rfl (by rintro ⟨given, hgiven, -⟩; cases hgiven)
            (by intro hremove; cases hremove) fun _ => if_pos rfl
      | disable providerId =>
          exact h.setEnabled hperform rfl (by rintro ⟨given, hgiven, -⟩; cases hgiven)
            (by intro hremove; cases hremove) fun _ => if_pos rfl
  | none =>
      rw [RegistryM.method_runOn_of_none hperform]
      cases operation with
      | register given => cases hperform
      | remove =>
          exact h.unknown (Option.map_eq_none_iff.mp hperform)
            (by rintro ⟨given, hgiven, -⟩; cases hgiven)
      | enable =>
          exact h.unknown (Option.map_eq_none_iff.mp hperform)
            (by rintro ⟨given, hgiven, -⟩; cases hgiven)
      | disable =>
          exact h.unknown (Option.map_eq_none_iff.mp hperform)
            (by rintro ⟨given, hgiven, -⟩; cases hgiven)

end Recounts

/-- The registry after the operations, those that raise included. -/
def ModelRegistry.after (operations : List (RegistryOperation μ)) : ModelRegistry μ :=
  operations.foldl (fun registry operation => (operation.method.runOn registry).2) .empty

theorem recounts_after (operations : List (RegistryOperation μ)) :
    Recounts operations (ModelRegistry.after operations) := by
  induction operations using List.reverseRecOn with
  | nil => exact recounts_empty
  | append_singleton operations operation ih =>
      rw [ModelRegistry.after, List.foldl_append]
      exact ih.append operation

/-- A listing of the registered providers, each once with its latest configuration, by the time
since which it is registered. -/
structure ListsRegistered (operations : List (RegistryOperation μ))
    (listing : List (ProviderConfig μ)) : Prop where
  ids_nodup : (listing.map ProviderConfig.id).Nodup
  mem_iff : ∀ provider, provider ∈ listing ↔ Latest operations provider
  registered : ∀ providerId, providerId ∈ listing.map ProviderConfig.id ↔
    ∃ time, RegisteredSince operations providerId time
  ordered : listing.Pairwise fun first second =>
    ∀ earlier later, RegisteredSince operations first.id earlier →
      RegisteredSince operations second.id later → earlier < later

theorem Recounts.listsRegistered {operations : List (RegistryOperation μ)} {registry : Registry μ}
    (h : Recounts operations registry.table) :
    ListsRegistered operations registry.listProviders where
  ids_nodup := registry.nodup_map_id_listProviders
  mem_iff provider := by
    rw [Registry.mem_listProviders_iff]
    exact (h.stored provider.id provider).trans (and_iff_right rfl)
  registered providerId := by
    rw [Registry.map_id_listProviders]
    exact h.mem_order_iff
  ordered := by
    have hids := h.ordered
    rw [← Registry.map_id_listProviders] at hids
    exact List.pairwise_map.mp hids

theorem RegistryOperation.perform_eq_none_iff {operation : RegistryOperation μ}
    {registry : ModelRegistry μ} :
    operation.perform registry = none ↔
      registry.getProvider? operation.providerId = none ∧
        ¬ operation.Registers operation.providerId := by
  cases operation with
  | register given =>
      constructor
      · intro h
        cases h
      · rintro ⟨-, hregisters⟩
        exact absurd ⟨given, rfl, rfl⟩ hregisters
  | remove =>
      rw [and_iff_left (by rintro ⟨given, hgiven, -⟩; cases hgiven)]
      exact Option.map_eq_none_iff
  | enable =>
      rw [and_iff_left (by rintro ⟨given, hgiven, -⟩; cases hgiven)]
      exact Option.map_eq_none_iff
  | disable =>
      rw [and_iff_left (by rintro ⟨given, hgiven, -⟩; cases hgiven)]
      exact Option.map_eq_none_iff

/-- The registry represents its history. -/
theorem ModelRegistry.after_represents (operations : List (RegistryOperation μ)) :
    (after operations).order.Nodup ∧
      (∀ providerId, providerId ∈ (after operations).order ↔
        providerId ∈ (after operations).providers.keys) ∧
      (∃ listing, RegistryM.listProviders.runOn (after operations) =
          (.ok listing, after operations) ∧ ListsRegistered operations listing) ∧
      ∀ operation : RegistryOperation μ,
        (operation.providerId ∈ (after operations).order ∨
            operation.Registers operation.providerId →
          (operation.method.runOn (after operations)).1 = .ok ()) ∧
        (operation.providerId ∉ (after operations).order →
          ¬ operation.Registers operation.providerId →
          operation.method.runOn (after operations) =
            (.error (.unknownProvider operation.providerId), after operations)) := by
  have hafter := recounts_after operations
  refine ⟨hafter.consistent.nodup, hafter.consistent.mem_order, ?_, ?_⟩
  · exact ⟨_, RegistryM.listProviders_runOn ⟨after operations, hafter.consistent⟩,
      @Recounts.listsRegistered μ operations ⟨after operations, hafter.consistent⟩ hafter⟩
  · intro operation
    have hunknown : operation.providerId ∉ (after operations).order ↔
        (after operations).getProvider? operation.providerId = none := by
      rw [hafter.consistent.mem_order]
      exact Dict.get?_eq_none_iff.symm
    constructor
    · intro hknown
      cases hperform : operation.perform (after operations) with
      | some next => rw [RegistryM.method_runOn_of_some hafter.consistent hperform]
      | none =>
          obtain ⟨hnone, hregisters⟩ := RegistryOperation.perform_eq_none_iff.mp hperform
          obtain hmem | hnew := hknown
          · exact absurd hmem (hunknown.mpr hnone)
          · exact absurd hnew hregisters
    · intro hmem hregisters
      exact RegistryM.method_runOn_of_none
        (RegistryOperation.perform_eq_none_iff.mpr ⟨hunknown.mp hmem, hregisters⟩)

end LLMRouting
