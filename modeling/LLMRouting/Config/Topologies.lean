/-
# Topologies in the registry

A registry filled from accepted provider configurations has a chain for every task group, and
the four checks of the settings are what the chain needs: an enabled provider makes it non-empty,
distinct priorities make it strictly increasing, and the multimodal chain does not depend on
there being an image.
-/

import LLMRouting.Config.ProviderConfigs

namespace LLMRouting

open LLMRouting.Data

namespace Registry

variable {μ : Type} {configs : List (ProviderConfig μ)} {provider : ProviderConfig μ}

/-- The V1 chain of a fresh registry, nothing being excluded yet. -/
def freshChain (configs : List (ProviderConfig μ)) (taskGroup : TaskGroup)
    (requiresImage : Bool) : List (ProviderConfig μ) :=
  legacyChain (ofList configs) taskGroup requiresImage []

/-- It is the chain without an allow-list. -/
theorem freshChain_eq_candidatesFor (configs : List (ProviderConfig μ)) (taskGroup : TaskGroup)
    (requiresImage : Bool) : freshChain configs taskGroup requiresImage =
      (ofList configs).candidatesFor taskGroup requiresImage [] none false :=
  congrArg (sortedBy priorityKey) (eligibleProviders_legacyIds _ taskGroup requiresImage [])

/-- The chain of a group has its enabled providers. -/
theorem mem_freshChain_iff (hids : (configs.map ProviderConfig.id).Nodup) {taskGroup : TaskGroup}
    {requiresImage : Bool} : provider ∈ freshChain configs taskGroup requiresImage ↔
      provider ∈ configs ∧ provider.enabled = true ∧ provider.taskGroup = taskGroup ∧
        servesModality requiresImage provider = true := by
  have hfound : (ofList configs).getProvider? provider.id = some provider ↔ provider ∈ configs := by
    rw [getProvider?_ofList hids]
    exact and_iff_left rfl
  rw [freshChain_eq_candidatesFor, (candidatesFor_perm _ _ _ _ _ _).mem_iff,
    mem_eligibleProviders_iff, hfound]
  simp [allows]

/-- Every group has a chain. -/
theorem freshChain_ne_nil (h : Settings.Topology configs) (taskGroup : TaskGroup) :
    freshChain configs taskGroup false ≠ [] := by
  obtain ⟨config, hconfig, henabled, hgroup⟩ := h.served taskGroup
  have hmem : config ∈ freshChain configs taskGroup false :=
    (mem_freshChain_iff h.nodup_ids).mpr ⟨hconfig, henabled, hgroup, rfl⟩
  intro hnil
  rw [hnil] at hmem
  cases hmem

/-- A chain goes through its priorities in increasing order. -/
theorem freshChain_pairwise (h : Settings.Topology configs) (taskGroup : TaskGroup)
    (requiresImage : Bool) :
    (freshChain configs taskGroup requiresImage).Pairwise
      fun first second => first.priority < second.priority := by
  have hsorted : (freshChain configs taskGroup requiresImage).Pairwise
      fun first second => priorityKey first ≤ priorityKey second := pairwise_sortedBy _ _
  have hdistinct : (freshChain configs taskGroup requiresImage).Nodup :=
    (nodup_map_id_candidatesFor _ taskGroup requiresImage []
      (some (legacyIds (ofList configs) [])) false).of_map
  apply (hsorted.and hdistinct).imp_of_mem
  intro first second hfirst hsecond hboth
  obtain ⟨hle, hne⟩ := hboth
  obtain ⟨hfirst, -, hgroup, -⟩ := (mem_freshChain_iff h.nodup_ids).mp hfirst
  obtain ⟨hsecond, -, hgroup', -⟩ := (mem_freshChain_iff h.nodup_ids).mp hsecond
  obtain hlt | ⟨hsame, -⟩ := Prod.Lex.toLex_le_toLex.mp hle
  · exact hlt
  · -- two providers of a group never have the same priority
    have hequal : first = second :=
      List.inj_on_of_nodup_map h.nodup_priorities hfirst hsecond
        (Prod.ext (hgroup.trans hgroup'.symm) hsame)
    exact absurd hequal hne

/-- Whether there is an image makes no difference to the multimodal chain. -/
theorem freshChain_multimodal (h : Settings.Topology configs) :
    freshChain configs .multimodal true = freshChain configs .multimodal false := by
  have heligible : (ofList configs).eligibleProviders .multimodal true [] none =
      (ofList configs).eligibleProviders .multimodal false [] none := by
    apply List.filter_congr
    intro provider hprovider
    have hmem : provider ∈ configs :=
      ((getProvider?_ofList h.nodup_ids).mp (mem_listProviders_iff.mp hprovider)).1
    by_cases hgroup : provider.taskGroup = .multimodal
    · have himage := h.acceptsImage provider hmem hgroup
      simp [servesModality, himage]
    · simp [hgroup]
  rw [freshChain_eq_candidatesFor, freshChain_eq_candidatesFor]
  exact congrArg (sortedBy priorityKey) heligible

end Registry

namespace Settings

variable {μ : Type} [LE μ] [LT μ] [DecidableLE μ] [DecidableLT μ] [OfScientific μ]
variable {settings : Settings μ} {libraries : Libraries μ}

/-- Endpoint, key and time limit are those of the settings. -/
structure Provides (settings : Settings μ) (config : ConfiguredProvider μ) : Prop where
  endpoint : settings.chatEndpoint config.backend.value = .ok config.endpoint
  apiKey : settings.apiKeys config.backend.value = config.apiKey
  key_ne_empty : ∃ key, key ≠ "" ∧ config.apiKey = some key
  timeout : config.timeout = settings.requestTimeout

/-- Every task group has a chain of strictly increasing priority, and an image changes nothing
about the multimodal one. -/
structure HasChains (configs : List (ProviderConfig μ)) : Prop where
  nonempty : ∀ taskGroup, Registry.freshChain configs taskGroup false ≠ []
  increasing : ∀ taskGroup, (Registry.freshChain configs taskGroup false).Pairwise
    fun first second => first.priority < second.priority
  multimodal : Registry.freshChain configs .multimodal true =
    Registry.freshChain configs .multimodal false

theorem Configures.provides {item : PyValue μ} {config : ConfiguredProvider μ}
    (h : settings.Configures libraries item config) : settings.Provides config := by
  obtain ⟨key, hkey, hown⟩ := h.apiKey
  obtain ⟨hgiven, hne⟩ := apiKey_eq_ok_iff.mp hkey
  exact {
    endpoint := h.endpoint
    apiKey := hgiven.trans hown.symm
    key_ne_empty := ⟨key, hne, hown⟩
    timeout := h.timeout }

theorem provides_of_configures {items : List (PyValue μ)} {configs : List (ConfiguredProvider μ)}
    (h : List.Forall₂ (settings.Configures libraries) items configs) :
    ∀ config ∈ configs, settings.Provides config := by
  induction h with
  | nil => simp
  | cons hfirst _ ih =>
      intro config hconfig
      obtain rfl | hrest := List.mem_cons.mp hconfig
      · exact hfirst.provides
      · exact ih config hrest

omit [LE μ] [LT μ] [DecidableLE μ] [DecidableLT μ] [OfScientific μ] in
theorem Topology.hasChains {configs : List (ProviderConfig μ)} (h : Topology configs) :
    HasChains configs where
  nonempty taskGroup := Registry.freshChain_ne_nil h taskGroup
  increasing taskGroup := Registry.freshChain_pairwise h taskGroup false
  multimodal := Registry.freshChain_multimodal h

omit [LE μ] [LT μ] [DecidableLE μ] [DecidableLT μ] [OfScientific μ] in
/-- The key has no part in a topology. -/
theorem Topology.of_records {configs : List (ConfiguredProvider μ)}
    (h : Topology ((configs.map ConfiguredProvider.record).map ProviderRecord.toProviderConfig)) :
    Topology (configs.map ConfiguredProvider.provider) := by
  rw [List.map_map] at h
  constructor
  · have hids := h.nodup_ids
    rw [List.map_map] at hids ⊢
    exact hids
  · have hpriorities := h.nodup_priorities
    rw [List.map_map] at hpriorities ⊢
    exact hpriorities
  · intro group
    obtain ⟨given, hgiven, henabled, hgroup⟩ := h.served group
    obtain ⟨config, hconfig, rfl⟩ := List.mem_map.mp hgiven
    exact ⟨config.provider, List.mem_map_of_mem hconfig, henabled, hgroup⟩
  · intro provider hprovider hgroup
    obtain ⟨config, hconfig, rfl⟩ := List.mem_map.mp hprovider
    exact h.acceptsImage config.record.toProviderConfig (List.mem_map_of_mem hconfig) hgroup

/-- Well-formed records are configured where settings know their backends. -/
theorem exists_configures {items : List (PyValue μ)} {records : List (ProviderRecord μ)}
    (hrecords : List.Forall₂ (Schema.WellFormed libraries) items records)
    (hbackends : ∀ found ∈ records, settings.HasEndpoint found.backend.value ∧
      settings.HasKey found.backend.value) :
    ∃ configs, List.Forall₂ (settings.Configures libraries) items configs ∧
      configs.map ConfiguredProvider.record = records := by
  induction hrecords with
  | nil => exact ⟨[], .nil, rfl⟩
  | @cons item found items records hfound _ ih =>
      obtain ⟨configs, hconfigs, hmap⟩ :=
        ih fun other hother => hbackends other (List.mem_cons_of_mem found hother)
      obtain ⟨hendpoint, hkey⟩ := hbackends found List.mem_cons_self
      obtain ⟨endpoint, hendpoint⟩ := exists_chatEndpoint_iff.mpr hendpoint
      obtain ⟨key, hne, hkey⟩ := hkey
      have hgiven := apiKey_eq_ok_iff.mpr ⟨hkey, hne⟩
      have hnokey : found.apiKey = none := by
        obtain ⟨members, -, hrecord⟩ := hfound
        exact (Schema.backend_and_apiKey_of_record hrecord).2
      have hown : ({ found with
          endpoint := endpoint
          apiKey := some key
          timeout := settings.requestTimeout } : ConfiguredProvider μ).record = found := by
        rw [ConfiguredProvider.record, ← hnokey]
      have hconfig : settings.Configures libraries item
          { found with
            endpoint := endpoint
            apiKey := some key
            timeout := settings.requestTimeout } :=
        { wellFormed := by rwa [hown]
          endpoint := hendpoint
          apiKey := ⟨key, hgiven, rfl⟩
          timeout := rfl }
      refine ⟨_, .cons hconfig hconfigs, ?_⟩
      rw [List.map_cons, hown, hmap]

/-- `PROVIDERS_JSON` is accepted exactly when it is a topology: it is refused with a
`ValueError` and nothing else; a list that is returned is a topology, has its endpoints, keys and
time limits from the settings and gives every group its chain; and well-formed records that make
a topology on known backends are returned in their own order. -/
structure AcceptsTopologies (settings : Settings μ) (libraries : Libraries μ) : Prop where
  refuses : ∀ exception, settings.providerConfigs libraries = .error exception →
    exception.isValueError = true
  returns : ∀ configs, settings.providerConfigs libraries = .ok configs →
    Topology (configs.map ConfiguredProvider.provider) ∧
    (∀ config ∈ configs, settings.Provides config) ∧
    HasChains (configs.map ConfiguredProvider.provider)
  accepts : ∀ items records, libraries.loads settings.providersJson = .ok (.array items) →
    List.Forall₂ (Schema.WellFormed libraries) items records →
    Topology (records.map ProviderRecord.toProviderConfig) →
    (∀ found ∈ records, settings.HasEndpoint found.backend.value ∧
      settings.HasKey found.backend.value) →
    ∃ configs, settings.providerConfigs libraries = .ok configs ∧
      configs.map ConfiguredProvider.record = records

theorem returned_of_providerConfigs (hdocumented : libraries.Documented)
    {configs : List (ConfiguredProvider μ)}
    (h : settings.providerConfigs libraries = .ok configs) :
    Topology (configs.map ConfiguredProvider.provider) ∧
      (∀ config ∈ configs, settings.Provides config) ∧
      HasChains (configs.map ConfiguredProvider.provider) := by
  obtain ⟨items, -, hconfigures, htopology⟩ := (providerConfigs_eq_ok_iff hdocumented).mp h
  exact ⟨htopology, provides_of_configures hconfigures, htopology.hasChains⟩

theorem exists_providerConfigs (hdocumented : libraries.Documented) {items : List (PyValue μ)}
    {records : List (ProviderRecord μ)}
    (hloads : libraries.loads settings.providersJson = .ok (.array items))
    (hrecords : List.Forall₂ (Schema.WellFormed libraries) items records)
    (htopology : Topology (records.map ProviderRecord.toProviderConfig))
    (hbackends : ∀ found ∈ records, settings.HasEndpoint found.backend.value ∧
      settings.HasKey found.backend.value) :
    ∃ configs, settings.providerConfigs libraries = .ok configs ∧
      configs.map ConfiguredProvider.record = records := by
  obtain ⟨configs, hconfigures, hmap⟩ := exists_configures hrecords hbackends
  rw [← hmap] at htopology
  exact ⟨configs, (providerConfigs_eq_ok_iff hdocumented).mpr
    ⟨items, hloads, hconfigures, htopology.of_records⟩, hmap⟩

/-- Topologies are accepted, and nothing else, wherever decoding the text does not exhaust the
interpreter: a `RecursionError` is not on the list of the `except` clause. -/
theorem acceptsTopologies_iff (settings : Settings μ) (libraries : Libraries μ)
    (hdocumented : libraries.Documented) :
    settings.AcceptsTopologies libraries ↔
      libraries.loads settings.providersJson ≠ .error .recursionError := by
  constructor
  · intro h hloads
    have hvalue := h.refuses _ (providerConfigs_of_loads_error hloads)
    cases hvalue
  · intro hdecoded
    constructor
    · intro exception h
      obtain hvalue | ⟨-, hloads⟩ := providerConfigs_raises hdocumented h
      · exact hvalue
      · exact absurd hloads hdecoded
    · intro configs h
      exact returned_of_providerConfigs hdocumented h
    · intro items records hloads hrecords htopology hbackends
      exact exists_providerConfigs hdocumented hloads hrecords htopology hbackends

/-- Decodes one text. -/
def loadsOnly (text : String) (decoded : PyValue ℚ) (given : String) :
    Except ConfigException (PyValue ℚ) :=
  if given = text then .ok decoded else .error .jsonDecodeError

/-- Libraries that take a value for what it is, and know one text. -/
def plainLibraries (text : String) (decoded : PyValue ℚ) : Libraries ℚ where
  loads := loadsOnly text decoded
  repr _ := "?"
  string := PyValue.text?
  boolean
    | .bool value => some value
    | _ => none
  integer
    | .integer value => some value
    | _ => none
  float
    | .float value => some value
    | .integer value => some value
    | _ => none
  list
    | .array items => some items
    | _ => none
  members
    | .object members => some members
    | _ => none
  optionalSecret
    | .null => some none
    | .string text => some (some text)
    | .secret text => some (some text)
    | _ => none

theorem documented_plainLibraries (text : String) (decoded : PyValue ℚ) :
    (plainLibraries text decoded).Documented where
  loads_raises given exception h := by
    have hloads : loadsOnly text decoded given = .error exception := h
    by_cases hgiven : given = text
    · rw [loadsOnly, if_pos hgiven] at hloads
      cases hloads
    · rw [loadsOnly, if_neg hgiven] at hloads
      cases hloads
      exact .inl rfl
  string_self _ := rfl
  float_self _ := rfl
  secret_self _ := rfl

theorem loads_plainLibraries (text : String) (decoded : PyValue ℚ) :
    (plainLibraries text decoded).loads text = .ok decoded :=
  if_pos rfl

/-- `{"id": ..., "backend": "google", ...}`, with only the fields that have no default. -/
def minimalProvider (id group : String) (modalities : List String) : PyValue ℚ :=
  .object [("id", .string id), ("backend", .string "google"), ("model", .string id),
    ("task_group", .string group), ("priority", .integer 1),
    ("capabilities", .object [("strengths", .array [.string group]),
      ("speed_tier", .string "test"), ("context_size", .string "test"),
      ("input_modalities", .array (modalities.map PyValue.string))])]

/-- One provider for each group. -/
def minimalTopology : PyValue ℚ :=
  .array [minimalProvider "general_one" "general" ["text"],
    minimalProvider "coding_one" "coding_reasoning" ["text"],
    minimalProvider "creative_one" "creative" ["text"],
    minimalProvider "multimodal_one" "multimodal" ["text", "image"]]

/-- The text of a record. -/
def minimalText (id group modalities : String) : String :=
  "\x7b\"id\": \"" ++ id ++ "\", \"backend\": \"google\", \"model\": \"" ++ id ++
    "\", \"task_group\": \"" ++ group ++ "\", \"priority\": 1, \"capabilities\": \x7b" ++
    "\"strengths\": [\"" ++ group ++ "\"], \"speed_tier\": \"test\", " ++
    "\"context_size\": \"test\", \"input_modalities\": " ++ modalities ++ "\x7d\x7d"

/-- Settings that know one backend. -/
def minimalSettings : Settings ℚ where
  googleEndpoint := some "http://google.invalid/chat/completions"
  googleApiKey := some "key"
  requestTimeout := 20
  providersJson := "[" ++ ", ".intercalate
    [minimalText "general_one" "general" "[\"text\"]",
      minimalText "coding_one" "coding_reasoning" "[\"text\"]",
      minimalText "creative_one" "creative" "[\"text\"]",
      minimalText "multimodal_one" "multimodal" "[\"text\", \"image\"]"] ++ "]"
  requestTimeout_pos := by norm_num

/-- The minimal topology is accepted, and its registry has a chain for every group. -/
theorem acceptsTopologies_iff_minimal :
    ∃ configs, minimalSettings.providerConfigs
        (plainLibraries minimalSettings.providersJson minimalTopology) = .ok configs ∧
      HasChains (configs.map ConfiguredProvider.provider) := by
  have hdecoded := loads_plainLibraries minimalSettings.providersJson minimalTopology
  have haccepted := (acceptsTopologies_iff minimalSettings
    (plainLibraries minimalSettings.providersJson minimalTopology)
    (documented_plainLibraries _ _)).mpr (by
      rw [hdecoded]
      intro hraised
      cases hraised)
  cases hconfigs : minimalSettings.providerConfigs
      (plainLibraries minimalSettings.providersJson minimalTopology) with
  | ok configs => exact ⟨configs, rfl, (haccepted.returns configs hconfigs).2.2⟩
  | error exception =>
      have hok : (minimalSettings.providerConfigs
          (plainLibraries minimalSettings.providersJson minimalTopology)).isOk = true := by
        decide +kernel
      rw [hconfigs] at hok
      cases hok

/-- The brackets a text opens with. -/
def openingBrackets (text : String) : ℕ := (text.toList.takeWhile (· == '[')).length

/-- Decodes no text, and does not go deeper into one than the limit. -/
def loadsWithin (limit : ℕ) (text : String) : Except ConfigException (PyValue ℚ) :=
  if limit < openingBrackets text then .error .recursionError else .error .jsonDecodeError

/-- Libraries of an interpreter with a recursion limit. -/
def limitedLibraries (limit : ℕ) : Libraries ℚ :=
  { plainLibraries "" .null with loads := loadsWithin limit }

theorem documented_limitedLibraries (limit : ℕ) : (limitedLibraries limit).Documented where
  loads_raises text exception h := by
    have hloads : loadsWithin limit text = .error exception := h
    rw [loadsWithin] at hloads
    split at hloads
    · cases hloads
      exact .inr rfl
    · cases hloads
      exact .inl rfl
  string_self _ := rfl
  float_self _ := rfl
  secret_self _ := rfl

theorem loads_limitedLibraries {limit : ℕ} {text : String} (h : limit < openingBrackets text) :
    (limitedLibraries limit).loads text = .error .recursionError :=
  if_pos h

theorem openingBrackets_replicate (depth : ℕ) :
    openingBrackets (String.ofList (List.replicate depth '[')) = depth := by
  rw [openingBrackets, String.toList_ofList, List.takeWhile_replicate]
  simp

/-- The minimal settings, but for a text of brackets. -/
def nestedSettings (depth : ℕ) : Settings ℚ :=
  { minimalSettings with providersJson := String.ofList (List.replicate depth '[') }

theorem providerConfigs_nestedSettings {limit depth : ℕ} (h : limit < depth) :
    (nestedSettings depth).providerConfigs (limitedLibraries limit) =
      .error .recursionError := by
  have hdeep : limit < openingBrackets (nestedSettings depth).providersJson := by
    rwa [nestedSettings, openingBrackets_replicate]
  exact providerConfigs_of_loads_error (loads_limitedLibraries hdeep)

/-- A hundred thousand brackets are refused, but not with a `ValueError`. -/
theorem nested_text_raises : (limitedLibraries 1000).Documented ∧
    (nestedSettings 100000).providerConfigs (limitedLibraries 1000) = .error .recursionError ∧
      ¬ (nestedSettings 100000).AcceptsTopologies (limitedLibraries 1000) := by
  have hlimit : 1000 < 100000 := by omega
  have hraised := providerConfigs_nestedSettings hlimit
  refine ⟨documented_limitedLibraries 1000, hraised, ?_⟩
  intro haccepts
  have hvalue := haccepts.refuses _ hraised
  cases hvalue

end Settings

end LLMRouting
