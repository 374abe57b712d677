/-
# The engine that settings build

`build_engine` reads the provider configurations and both router configurations from the
settings and puts the engine together from them: a registry, a fresh circuit for each backend,
two routers, and a verifier with a target for either router and for every provider. Routers and
providers take the endpoint and the key of a backend from the same place, so the verifier finds
the targets of a backend in agreement, and no router is built for a backend without a circuit.
-/

import LLMRouting.Config.Topologies
import LLMRouting.Routing.Engine
import LLMRouting.Upstream.ModelCatalog

namespace LLMRouting

open LLMRouting.Data

/-- A `RouterBackendConfig` within the bounds of its schema. -/
structure RouterBackendConfig where
  backend : String
  endpoint : String
  model : String
  apiKey : String
  timeout : ℚ
  temperature : ℚ := 0
  maxTokens : ℕ := 128
  reasoningEffort : Option String := some "low"
  texts_ne_empty : backend ≠ "" ∧ endpoint ≠ "" ∧ model ≠ ""
  timeout_pos : 0 < timeout
  temperature_bounds : 0 ≤ temperature ∧ temperature ≤ 2
  maxTokens_pos : 0 < maxTokens
  deriving DecidableEq

/-- `RouterBackendConfig(...)`; `none` where pydantic raises a `ValidationError`. -/
def RouterBackendConfig.validate (backend endpoint model apiKey : String)
    (timeout temperature : ℚ) (maxTokens : ℕ) (reasoningEffort : Option String) :
    Option RouterBackendConfig :=
  if h : (backend ≠ "" ∧ endpoint ≠ "" ∧ model ≠ "") ∧ 0 < timeout ∧
      (0 ≤ temperature ∧ temperature ≤ 2) ∧ 0 < maxTokens then
    some {
      backend := backend
      endpoint := endpoint
      model := model
      apiKey := apiKey
      timeout := timeout
      temperature := temperature
      maxTokens := maxTokens
      reasoningEffort := reasoningEffort
      texts_ne_empty := h.1
      timeout_pos := h.2.1
      temperature_bounds := h.2.2.1
      maxTokens_pos := h.2.2.2 }
  else none

/-- The settings an engine is built from, with their defaults and bounds. -/
structure EngineSettings extends Settings ℚ where
  primaryRouterBackend : Option String := none
  primaryRouterModel : Option String := none
  fallbackRouterBackend : Option String := none
  fallbackRouterModel : Option String := none
  maxRetries : ℕ := 3
  overallRequestTimeout : ℚ := 60
  routerTimeout : ℚ := 10
  routerTemperature : ℚ := 0
  routerMaxTokens : ℕ := 128
  routerReasoningEffort : Option String := some "low"
  circuit : CircuitSettings := {}
  overallRequestTimeout_pos : 0 < overallRequestTimeout := by decide
  routerTimeout_pos : 0 < routerTimeout := by decide
  routerTemperature_bounds : 0 ≤ routerTemperature ∧ routerTemperature ≤ 2 := by decide
  routerMaxTokens_pos : 0 < routerMaxTokens := by decide
  circuitOpenSeconds_pos : 0 < circuit.openSeconds := by decide

namespace EngineSettings

variable (settings : EngineSettings)

/-- `_router_config` -/
def routerConfig (backend model : Option String) : Except ConfigException RouterBackendConfig :=
  match Settings.truthy backend, Settings.truthy model with
  | some backend, some model => do
      let endpoint ← settings.chatEndpoint backend
      let key ← settings.apiKey backend
      match RouterBackendConfig.validate backend endpoint model key settings.routerTimeout
          settings.routerTemperature settings.routerMaxTokens settings.routerReasoningEffort with
      | some config => .ok config
      | none => .error .validationError
  | _, _ => .error (.valueError "Router backend and model must be configured")

def primaryRouterConfig : Except ConfigException RouterBackendConfig :=
  settings.routerConfig settings.primaryRouterBackend settings.primaryRouterModel

def fallbackRouterConfig : Except ConfigException RouterBackendConfig :=
  settings.routerConfig settings.fallbackRouterBackend settings.fallbackRouterModel

end EngineSettings

/-- The target for a router. -/
def RouterBackendConfig.target (config : RouterBackendConfig) (name : String) :
    ModelVerificationTarget :=
  { name := name, backend := config.backend, endpoint := config.endpoint, model := config.model
    apiKey := config.apiKey, timeout := config.timeout, role := "router" }

/-- The target for a provider that has a key. -/
def ConfiguredProvider.target (config : ConfiguredProvider ℚ) : ModelVerificationTarget :=
  { name := config.id, backend := config.backend.value, endpoint := config.endpoint
    model := config.model, apiKey := config.apiKey.getD "", timeout := config.timeout }

/-- What `build_engine` puts together. -/
structure BuiltEngine where
  providers : List (ConfiguredProvider ℚ)
  registry : Registry ℚ
  circuits : Backend → BackendCircuit
  primaryRouter : RouterBackendConfig
  fallbackRouter : RouterBackendConfig
  identityTerms : List String
  engine : RoutingEngine
  verifier : Option StartupModelVerifier := none

/-- A target for either router, and one for every provider. -/
def BuiltEngine.targets (built : BuiltEngine) : List ModelVerificationTarget :=
  built.primaryRouter.target "primary_router" :: built.fallbackRouter.target "fallback_router" ::
    built.providers.map ConfiguredProvider.target

namespace EngineSettings

variable (settings : EngineSettings)

/-- The parts `build_engine` makes of the configurations. The control plane comes later. -/
def assemble (providers : List (ConfiguredProvider ℚ)) (primary fallback : RouterBackendConfig) :
    BuiltEngine where
  providers := providers
  registry := .ofList (providers.map ConfiguredProvider.provider)
  circuits _ := { settings := settings.circuit }
  primaryRouter := primary
  fallbackRouter := fallback
  identityTerms := providers.flatMap fun config => config.identityTerms
  engine :=
    { maxAttempts := settings.maxRetries
      overallRequestTimeout := settings.overallRequestTimeout
      candidateResolver := false
      policyAuditRepository := false }
  verifier :=
    some { targets := primary.target "primary_router" :: fallback.target "fallback_router" ::
      providers.map ConfiguredProvider.target }

/-- `build_engine` -/
def buildEngine (libraries : Libraries ℚ) : Except ConfigException BuiltEngine := do
  let providers ← settings.providerConfigs libraries
  if providers.any fun config => config.apiKey.isNone then
    .error (.valueError "Every configured provider requires an API key")
  else
    let primary ← settings.primaryRouterConfig
    let fallback ← settings.fallbackRouterConfig
    return settings.assemble providers primary fallback

end EngineSettings

namespace EngineSettings

variable {settings : EngineSettings} {libraries : Libraries ℚ}

/-- The settings name a router's backend and model, and know the backend. -/
def NamesRouter (settings : EngineSettings) (backend model : Option String) : Prop :=
  (∃ name, backend = some name ∧ name ≠ "" ∧ settings.HasEndpoint name ∧ settings.HasKey name) ∧
    ∃ name, model = some name ∧ name ≠ ""

/-- What a router configuration takes from the settings. -/
structure Routes (settings : EngineSettings) (backend model : Option String)
    (config : RouterBackendConfig) : Prop where
  backend : backend = some config.backend
  model : model = some config.model
  endpoint : settings.chatEndpoint config.backend = .ok config.endpoint
  apiKey : settings.apiKey config.backend = .ok config.apiKey
  timeout : config.timeout = settings.routerTimeout

/-- With what the settings give it, a router configuration is never invalid. -/
theorem validate_eq_some {backend endpoint model : String} (key : String)
    (hbackend : backend ≠ "") (hendpoint : settings.chatEndpoint backend = .ok endpoint)
    (hmodel : model ≠ "") :
    ∃ config, RouterBackendConfig.validate backend endpoint model key settings.routerTimeout
        settings.routerTemperature settings.routerMaxTokens settings.routerReasoningEffort =
          some config ∧
      config.backend = backend ∧ config.endpoint = endpoint ∧ config.model = model ∧
        config.apiKey = key ∧ config.timeout = settings.routerTimeout := by
  have hvalid : (backend ≠ "" ∧ endpoint ≠ "" ∧ model ≠ "") ∧ 0 < settings.routerTimeout ∧
      (0 ≤ settings.routerTemperature ∧ settings.routerTemperature ≤ 2) ∧
      0 < settings.routerMaxTokens :=
    ⟨⟨hbackend, Settings.chatEndpoint_ne_empty hendpoint, hmodel⟩, settings.routerTimeout_pos,
      settings.routerTemperature_bounds, settings.routerMaxTokens_pos⟩
  exact ⟨_, dif_pos hvalid, rfl, rfl, rfl, rfl, rfl⟩

theorem routerConfig_routes {backend model : Option String} {config : RouterBackendConfig}
    (h : settings.routerConfig backend model = .ok config) :
    settings.Routes backend model config := by
  rw [routerConfig] at h
  cases hbackend : Settings.truthy backend with
  | none =>
      rw [hbackend] at h
      cases h
  | some name =>
      cases hmodel : Settings.truthy model with
      | none =>
          rw [hbackend, hmodel] at h
          cases h
      | some modelName =>
          rw [hbackend, hmodel] at h
          obtain ⟨hname, hne⟩ := Settings.truthy_eq_some_iff.mp hbackend
          obtain ⟨hmodelName, hmodelNe⟩ := Settings.truthy_eq_some_iff.mp hmodel
          obtain ⟨endpoint, hendpoint, h⟩ := bind_eq_ok.mp h
          obtain ⟨key, hkey, h⟩ := bind_eq_ok.mp h
          obtain ⟨found, hfound, rfl, rfl, rfl, rfl, htimeout⟩ :=
            validate_eq_some key hne hendpoint hmodelNe
          rw [hfound] at h
          obtain rfl := Except.ok.inj h
          exact ⟨hname, hmodelName, hendpoint, hkey, htimeout⟩

/-- A router can be built exactly if it is named and its backend is known. -/
theorem exists_routerConfig_iff {backend model : Option String} :
    (∃ config, settings.routerConfig backend model = .ok config) ↔
      settings.NamesRouter backend model := by
  constructor
  · intro h
    obtain ⟨config, h⟩ := h
    have hroutes := routerConfig_routes h
    obtain ⟨hgiven, hne⟩ := Settings.apiKey_eq_ok_iff.mp hroutes.apiKey
    exact ⟨⟨config.backend, hroutes.backend, config.texts_ne_empty.1,
      Settings.exists_chatEndpoint_iff.mp ⟨_, hroutes.endpoint⟩, _, hne, hgiven⟩,
      config.model, hroutes.model, config.texts_ne_empty.2.2⟩
  · intro h
    obtain ⟨⟨name, hname, hne, hendpoint, key, hkeyNe, hkey⟩, modelName, hmodel, hmodelNe⟩ := h
    obtain ⟨endpoint, hendpoint⟩ := Settings.exists_chatEndpoint_iff.mpr hendpoint
    obtain ⟨config, hconfig, -⟩ := validate_eq_some key hne hendpoint hmodelNe
    have hown := Settings.apiKey_eq_ok_iff.mpr ⟨hkey, hkeyNe⟩
    refine ⟨config, ?_⟩
    rw [routerConfig, Settings.truthy_eq_some_iff.mpr ⟨hname, hne⟩,
      Settings.truthy_eq_some_iff.mpr ⟨hmodel, hmodelNe⟩]
    apply bind_eq_ok.mpr
    refine ⟨endpoint, hendpoint, bind_eq_ok.mpr ⟨key, hown, ?_⟩⟩
    rw [hconfig]

end EngineSettings

namespace EngineSettings

variable {settings : EngineSettings} {libraries : Libraries ℚ} {built : BuiltEngine}

/-- Every engine is assembled of configurations that were read. -/
theorem buildEngine_eq_ok (h : settings.buildEngine libraries = .ok built) :
    ∃ providers primary fallback, settings.providerConfigs libraries = .ok providers ∧
      settings.primaryRouterConfig = .ok primary ∧ settings.fallbackRouterConfig = .ok fallback ∧
      built = settings.assemble providers primary fallback := by
  obtain ⟨providers, hproviders, h⟩ := bind_eq_ok.mp h
  by_cases hkeys : (providers.any fun config => config.apiKey.isNone) = true
  · rw [if_pos hkeys] at h
    cases h
  · rw [if_neg hkeys] at h
    obtain ⟨primary, hprimary, h⟩ := bind_eq_ok.mp h
    obtain ⟨fallback, hfallback, h⟩ := bind_eq_ok.mp h
    exact ⟨providers, primary, fallback, hproviders, hprimary, hfallback,
      (Except.ok.inj h).symm⟩

/-- The check of the keys never fails: settings give a key to every provider. -/
theorem buildEngine_of_configs (hdocumented : libraries.Documented)
    {providers : List (ConfiguredProvider ℚ)}
    (hproviders : settings.providerConfigs libraries = .ok providers) :
    settings.buildEngine libraries =
      (do let primary ← settings.primaryRouterConfig
          let fallback ← settings.fallbackRouterConfig
          return settings.assemble providers primary fallback) := by
  have hkeys : (providers.any fun config => config.apiKey.isNone) = false := by
    rw [List.any_eq_false]
    intro config hconfig
    obtain ⟨items, -, hconfigures, -⟩ :=
      (Settings.providerConfigs_eq_ok_iff hdocumented).mp hproviders
    have hprovides := Settings.provides_of_configures hconfigures config hconfig
    obtain ⟨key, -, hkey⟩ := hprovides.key_ne_empty
    rw [hkey]
    exact Bool.false_ne_true
  rw [buildEngine, hproviders]
  show (if (providers.any fun config => config.apiKey.isNone) = true then _ else _) = _
  rw [if_neg (by rw [hkeys]; exact Bool.false_ne_true)]

theorem exists_buildEngine_iff (hdocumented : libraries.Documented) :
    (∃ built, settings.buildEngine libraries = .ok built) ↔
      (∃ providers, settings.providerConfigs libraries = .ok providers) ∧
      settings.NamesRouter settings.primaryRouterBackend settings.primaryRouterModel ∧
      settings.NamesRouter settings.fallbackRouterBackend settings.fallbackRouterModel := by
  rw [← exists_routerConfig_iff, ← exists_routerConfig_iff]
  constructor
  · intro h
    obtain ⟨built, h⟩ := h
    obtain ⟨providers, primary, fallback, hproviders, hprimary, hfallback, -⟩ :=
      buildEngine_eq_ok h
    exact ⟨⟨providers, hproviders⟩, ⟨primary, hprimary⟩, fallback, hfallback⟩
  · intro h
    obtain ⟨⟨providers, hproviders⟩, ⟨primary, hprimary⟩, fallback, hfallback⟩ := h
    refine ⟨settings.assemble providers primary fallback, ?_⟩
    rw [buildEngine_of_configs hdocumented hproviders]
    exact bind_eq_ok.mpr ⟨primary, hprimary, bind_eq_ok.mpr ⟨fallback, hfallback, rfl⟩⟩

/-- A router configuration that is refused is refused with a `ValueError`. -/
theorem isValueError_of_routerConfig {backend model : Option String}
    {exception : ConfigException} (h : settings.routerConfig backend model = .error exception) :
    exception.isValueError = true := by
  rw [routerConfig] at h
  split at h
  · obtain h | ⟨endpoint, -, h⟩ := bind_eq_error.mp h
    · exact Settings.isValueError_of_chatEndpoint h
    · obtain h | ⟨key, -, h⟩ := bind_eq_error.mp h
      · exact Settings.isValueError_of_apiKey h
      · split at h
        · cases h
        · cases h
          rfl
  · cases h
    rfl

/-- Provider configurations that are refused fail the build. -/
theorem buildEngine_of_error {exception : ConfigException}
    (hproviders : settings.providerConfigs libraries = .error exception) :
    settings.buildEngine libraries = .error exception := by
  rw [buildEngine, hproviders]
  rfl

/-- A build that fails is refused with a `ValueError`, unless the text is nested too deep. -/
theorem buildEngine_raises (hdocumented : libraries.Documented)
    {exception : ConfigException} (h : settings.buildEngine libraries = .error exception) :
    exception.isValueError = true ∨ exception = .recursionError ∧
      libraries.loads settings.providersJson = .error .recursionError := by
  cases hproviders : settings.providerConfigs libraries with
  | error raised =>
      rw [buildEngine_of_error hproviders] at h
      obtain rfl := Except.error.inj h
      exact Settings.providerConfigs_raises hdocumented hproviders
  | ok providers =>
      left
      rw [buildEngine_of_configs hdocumented hproviders] at h
      obtain h | ⟨primary, -, h⟩ := bind_eq_error.mp h
      · exact isValueError_of_routerConfig h
      · obtain h | ⟨fallback, -, h⟩ := bind_eq_error.mp h
        · exact isValueError_of_routerConfig h
        · cases h

/-- The target has the endpoint and the key of its backend. -/
structure Addresses (settings : EngineSettings) (target : ModelVerificationTarget) : Prop where
  endpoint : settings.chatEndpoint target.backend = .ok target.endpoint
  apiKey : settings.apiKey target.backend = .ok target.apiKey

/-- Only the four backends have an endpoint. -/
theorem exists_backend_of_chatEndpoint {name endpoint : String}
    (h : settings.chatEndpoint name = .ok endpoint) :
    ∃ backend : Backend, backend.value = name := by
  by_contra hunknown
  have hne : ∀ backend : Backend, name ≠ backend.value :=
    fun backend hname => hunknown ⟨backend, hname.symm⟩
  have hendpoints : settings.endpoints name = none := by
    unfold Settings.endpoints
    split
    · exact (hne .google rfl).elim
    · exact (hne .nvidia rfl).elim
    · exact (hne .openrouter rfl).elim
    · exact (hne .groq rfl).elim
    · rfl
  have hbaseUrls : settings.baseUrls name = none := by
    unfold Settings.baseUrls
    split
    · exact (hne .google rfl).elim
    · exact (hne .nvidia rfl).elim
    · exact (hne .openrouter rfl).elim
    · exact (hne .groq rfl).elim
    · rfl
  rw [Settings.chatEndpoint, hendpoints, hbaseUrls] at h
  cases h

theorem Routes.addresses {backend model : Option String} {config : RouterBackendConfig}
    (h : settings.Routes backend model config) (name : String) :
    settings.Addresses (config.target name) :=
  ⟨h.endpoint, h.apiKey⟩

theorem addresses_of_provides {config : ConfiguredProvider ℚ}
    (h : settings.Provides config) : settings.Addresses config.target := by
  obtain ⟨key, hne, hkey⟩ := h.key_ne_empty
  have hgiven : settings.apiKeys config.backend.value = some key := h.apiKey.trans hkey
  refine ⟨h.endpoint, ?_⟩
  rw [show config.target.apiKey = key by rw [ConfiguredProvider.target, hkey]; rfl]
  exact Settings.apiKey_eq_ok_iff.mpr ⟨hgiven, hne⟩

/-- The parts of an engine that fit together: the registry lists the providers as they are
configured and has a chain for every task group; the verifier knows both routers and every
provider; every one of them is on a backend with a circuit, and has the endpoint and the key
of that backend. -/
structure Connects (settings : EngineSettings) (built : BuiltEngine) : Prop where
  listed : built.registry.listProviders = built.providers.map ConfiguredProvider.provider
  chains : Settings.HasChains built.registry.listProviders
  verified : built.verifier = some ⟨built.targets⟩
  guarded : ∀ target ∈ built.targets, ∃ backend : Backend,
    backend.value = target.backend ∧ built.circuits backend = { settings := settings.circuit }
  addressed : ∀ target ∈ built.targets, settings.Addresses target

theorem addresses_of_mem {providers : List (ConfiguredProvider ℚ)}
    {primary fallback : RouterBackendConfig} (hdocumented : libraries.Documented)
    (hproviders : settings.providerConfigs libraries = .ok providers)
    (hprimary : settings.primaryRouterConfig = .ok primary)
    (hfallback : settings.fallbackRouterConfig = .ok fallback) {target : ModelVerificationTarget}
    (htarget : target ∈ (settings.assemble providers primary fallback).targets) :
    settings.Addresses target := by
  rcases List.mem_cons.mp htarget with rfl | htarget
  · exact (routerConfig_routes hprimary).addresses _
  rcases List.mem_cons.mp htarget with rfl | htarget
  · exact (routerConfig_routes hfallback).addresses _
  · obtain ⟨config, hconfig, rfl⟩ := List.mem_map.mp htarget
    obtain ⟨items, -, hconfigures, -⟩ :=
      (Settings.providerConfigs_eq_ok_iff hdocumented).mp hproviders
    exact addresses_of_provides (Settings.provides_of_configures hconfigures config hconfig)

theorem connects_of_buildEngine (hdocumented : libraries.Documented)
    (h : settings.buildEngine libraries = .ok built) : settings.Connects built := by
  obtain ⟨providers, primary, fallback, hproviders, hprimary, hfallback, rfl⟩ :=
    buildEngine_eq_ok h
  obtain ⟨items, -, hconfigures, htopology⟩ :=
    (Settings.providerConfigs_eq_ok_iff hdocumented).mp hproviders
  have hlisted : (settings.assemble providers primary fallback).registry.listProviders =
      providers.map ConfiguredProvider.provider := Registry.listProviders_ofList htopology.nodup_ids
  have haddressed : ∀ target ∈ (settings.assemble providers primary fallback).targets,
      settings.Addresses target :=
    fun target htarget => addresses_of_mem hdocumented hproviders hprimary hfallback htarget
  constructor
  · exact hlisted
  · rw [hlisted]
    exact htopology.hasChains
  · rfl
  · intro target htarget
    obtain ⟨backend, hbackend⟩ :=
      exists_backend_of_chatEndpoint (haddressed target htarget).endpoint
    exact ⟨backend, hbackend, rfl⟩
  · exact haddressed

/-- Targets with the endpoint and the key of their backends agree. -/
theorem Connects.uniform (h : settings.Connects built) :
    StartupModelVerifier.Uniform ⟨built.targets⟩ := by
  intro target htarget other hother hsame
  have hown := h.addressed target htarget
  have hothers := h.addressed other hother
  have hendpoint := hothers.endpoint
  have hkey := hothers.apiKey
  rw [hsame] at hendpoint hkey
  exact ⟨Except.ok.inj (hendpoint.symm.trans hown.endpoint),
    Except.ok.inj (hkey.symm.trans hown.apiKey)⟩

/-- Settings either build an engine whose parts fit together or are refused with a
`ValueError`, or their text is nested too deep to decode. They build one exactly if the providers
are accepted and both routers are named on backends the settings know. -/
theorem buildEngine_connects (settings : EngineSettings) (libraries : Libraries ℚ)
    (hdocumented : libraries.Documented) :
    ((∃ built, settings.buildEngine libraries = .ok built) ↔
      (∃ providers, settings.providerConfigs libraries = .ok providers) ∧
      settings.NamesRouter settings.primaryRouterBackend settings.primaryRouterModel ∧
      settings.NamesRouter settings.fallbackRouterBackend settings.fallbackRouterModel) ∧
    (∀ built, settings.buildEngine libraries = .ok built → settings.Connects built) ∧
    (settings.buildEngine libraries = .error .recursionError ↔
      libraries.loads settings.providersJson = .error .recursionError) ∧
    ∀ exception, settings.buildEngine libraries = .error exception →
      exception.isValueError = true ∨ exception = .recursionError := by
  refine ⟨exists_buildEngine_iff hdocumented, fun _ h => connects_of_buildEngine hdocumented h,
    ?_, fun _ h => (buildEngine_raises hdocumented h).imp_right And.left⟩
  constructor
  · intro h
    obtain hvalue | ⟨-, hloads⟩ := buildEngine_raises hdocumented h
    · cases hvalue
    · exact hloads
  · intro hloads
    exact buildEngine_of_error (Settings.providerConfigs_of_loads_error hloads)

/-- The minimal settings, with both routers on the backend they know. -/
def minimalEngine : EngineSettings where
  toSettings := Settings.minimalSettings
  primaryRouterBackend := some "google"
  primaryRouterModel := some "router"
  fallbackRouterBackend := some "google"
  fallbackRouterModel := some "second"
  circuit := .bearing 2 0

def minimalLibraries : Libraries ℚ :=
  Settings.plainLibraries Settings.minimalSettings.providersJson Settings.minimalTopology

/-- What is known of the result of a computation that returns. -/
theorem exists_ok_of_map {ε α β : Type} {result : Except ε α} {view : α → β} {seen : β}
    (h : result.toOption.map view = some seen) :
    ∃ value, result = .ok value ∧ view value = seen := by
  cases result with
  | error error => cases h
  | ok value => exact ⟨value, rfl, Option.some.inj h⟩

theorem buildEngine_connects_minimal :
    ∃ built, minimalEngine.buildEngine minimalLibraries = .ok built ∧
      minimalEngine.Connects built := by
  have hbuilds := buildEngine_connects minimalEngine minimalLibraries
    (Settings.documented_plainLibraries _ _)
  have hnames : (minimalEngine.buildEngine minimalLibraries).toOption.map
      (fun built => built.targets.map ModelVerificationTarget.name) =
        some ["primary_router", "fallback_router", "general_one", "coding_one", "creative_one",
          "multimodal_one"] := by
    decide +kernel
  obtain ⟨built, hbuilt, -⟩ := exists_ok_of_map hnames
  exact ⟨built, hbuilt, hbuilds.2.1 built hbuilt⟩

end EngineSettings

end LLMRouting
