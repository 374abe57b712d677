/-
# Provider configurations from settings

`provider_configs` decodes `PROVIDERS_JSON`, puts the endpoint, the key and the time limit of
the settings into every record, has pydantic validate it against `ProviderConfig` and checks
the topology. Decoding a text and pydantic's reading of a value as a declared type are left to
the libraries; what `ProviderConfig` declares is not.
-/

import LLMRouting.Config.Settings
import LLMRouting.ControlPlane.Chains
import LLMRouting.Data.Fallible

namespace LLMRouting

open LLMRouting.Data

/-- What decoding JSON gives, or a secret. A dictionary has each of its keys once. -/
inductive PyValue (μ : Type)
  | null
  | bool (value : Bool)
  | integer (value : ℤ)
  | float (value : μ)
  | string (text : String)
  | array (items : List (PyValue μ))
  | object (members : List (String × PyValue μ))
  | secret (text : String)

/-- The exceptions that reading a configuration has to do with. -/
inductive ConfigException
  | jsonDecodeError
  | validationError
  | typeError
  | keyError
  | valueError (message : String)
  | recursionError
  | other
  deriving DecidableEq, Repr

/-- `isinstance(exception, ValueError)`; the errors of `json` and pydantic are subclasses. -/
def ConfigException.isValueError : ConfigException → Bool
  | .jsonDecodeError | .validationError | .valueError _ => true
  | .typeError | .keyError | .recursionError | .other => false

/-- What `json`, `str` and pydantic do: decode a text, print a value that is no string, and
read a value as a declared type. -/
structure Libraries (μ : Type) where
  loads : String → Except ConfigException (PyValue μ)
  repr : PyValue μ → String
  string : PyValue μ → Option String
  boolean : PyValue μ → Option Bool
  integer : PyValue μ → Option ℤ
  float : PyValue μ → Option μ
  list : PyValue μ → Option (List (PyValue μ))
  members : PyValue μ → Option (List (String × PyValue μ))
  optionalSecret : PyValue μ → Option (Option String)

/-- What the libraries document: `json.loads` raises a `ValueError`, mostly of its own kind,
unless the text is nested deeper than the interpreter can recurse, and pydantic takes a value
that has the declared type as it is. -/
structure Libraries.Documented {μ : Type} (libraries : Libraries μ) : Prop where
  loads_raises : ∀ text exception, libraries.loads text = .error exception →
    exception.isValueError = true ∨ exception = .recursionError
  string_self : ∀ text, libraries.string (.string text) = some text
  float_self : ∀ value, libraries.float (.float value) = some value
  secret_self : ∀ text, libraries.optionalSecret (.secret text) = some (some text)

namespace PyValue

variable {μ : Type} {α : Type}

/-- `str(value)`. -/
def str (libraries : Libraries μ) : PyValue μ → String
  | .string text => text
  | value => libraries.repr value

/-- The entry of a dictionary. -/
def get? (key : String) (members : List (String × PyValue μ)) : Option (PyValue μ) :=
  (members.find? fun entry => decide (entry.1 = key)).map Prod.snd

/-- `value[key]` for a string: nothing but a dictionary takes one. -/
def subscript (key : String) : PyValue μ → Except ConfigException (PyValue μ)
  | .object members =>
      match get? key members with
      | some value => .ok value
      | none => .error .keyError
  | _ => .error .typeError

/-- What `for item in value` goes over. -/
def iterate : PyValue μ → Except ConfigException (List (PyValue μ))
  | .array items => .ok items
  | .string text => .ok (text.toList.map fun c => .string (String.singleton c))
  | .object members => .ok (members.map fun entry => .string entry.1)
  | _ => .error .typeError

/-- `**value` in a dictionary. -/
def mapping : PyValue μ → Except ConfigException (List (String × PyValue μ))
  | .object members => .ok members
  | _ => .error .typeError

/-- The text of a string. -/
def text? : PyValue μ → Option String
  | .string text => some text
  | _ => none

end PyValue

/-- The rest of `ProviderCapability`. -/
structure CapabilityDetails where
  strengths : List String
  speedTier : String
  contextSize : String
  outputModalities : List String := ["text"]
  supportsTools : Bool := false
  supportsStructuredOutput : Bool := false
  deriving DecidableEq, Repr

/-- The fields of a `ProviderConfig` that a record has to give; it gives no key. -/
structure ProviderRecord (μ : Type) extends ProviderConfig μ where
  details : CapabilityDetails
  identityTerms : List String := []

/-- A whole `ProviderConfig`. -/
structure ConfiguredProvider (μ : Type) extends ProviderRecord μ where
  endpoint : String
  timeout : μ

/-- What the record of the configuration gave. -/
def ConfiguredProvider.record {μ : Type} (config : ConfiguredProvider μ) : ProviderRecord μ :=
  { config.toProviderRecord with apiKey := none }

/-- The configuration as registry and engine know it. -/
abbrev ConfiguredProvider.provider {μ : Type} (config : ConfiguredProvider μ) : ProviderConfig μ :=
  config.toProviderConfig

def Backend.all : List Backend := [.google, .nvidia, .openrouter, .groq]

def Backend.value : Backend → String
  | .google => "google"
  | .nvidia => "nvidia"
  | .openrouter => "openrouter"
  | .groq => "groq"

def Backend.ofValue? (text : String) : Option Backend :=
  Backend.all.find? fun backend => decide (backend.value = text)

def TaskGroup.ofValue? (text : String) : Option TaskGroup :=
  TaskGroup.all.find? fun group => decide (group.value = text)

def InputModality.value : InputModality → String
  | .text => "text"
  | .image => "image"

def InputModality.ofValue? (text : String) : Option InputModality :=
  [InputModality.text, .image].find? fun modality => decide (modality.value = text)

/-- `^[a-z][a-z0-9_]*$` -/
def matchesId (text : String) : Bool :=
  match text.toList with
  | [] => false
  | c :: rest => c.isLower && rest.all fun d => d.isLower || d.isDigit || d == '_'

namespace Schema

variable {μ : Type} {α : Type}

/-- A field without a default. -/
def required (members : List (String × PyValue μ)) (key : String)
    (read : PyValue μ → Option α) : Option α :=
  (PyValue.get? key members).bind read

/-- A field with a default, which is not validated itself. -/
def optional (members : List (String × PyValue μ)) (key : String) (fallback : α)
    (read : PyValue μ → Option α) : Option α :=
  match PyValue.get? key members with
  | some value => read value
  | none => some fallback

/-- A declared type with a constraint. -/
def constrained (test : α → Bool) (read : PyValue μ → Option α) (value : PyValue μ) : Option α :=
  (read value).filter test

/-- A member of an enumeration, or of a literal type, by its text. -/
def named (ofValue? : String → Option α) (value : PyValue μ) : Option α :=
  value.text?.bind ofValue?

/-- A list of what is read the same way. -/
def listOf (libraries : Libraries μ) (read : PyValue μ → Option α) (value : PyValue μ) :
    Option (List α) :=
  (libraries.list value).bind fun items => items.mapM read

/-- `Field(min_length=1)` -/
def text (libraries : Libraries μ) : PyValue μ → Option String :=
  constrained (fun text => decide (text ≠ "")) libraries.string

/-- `ProviderCapability.model_validate`. -/
def capability (libraries : Libraries μ) (value : PyValue μ) :
    Option (ProviderCapability × CapabilityDetails) := do
  let members ← libraries.members value
  let strengths ← required members "strengths"
    (constrained (fun strengths => !strengths.isEmpty) (listOf libraries libraries.string))
  let speedTier ← required members "speed_tier" (text libraries)
  let contextSize ← required members "context_size" (text libraries)
  let inputModalities ← optional members "input_modalities" [.text]
    (listOf libraries (named InputModality.ofValue?))
  let outputModalities ← optional members "output_modalities" ["text"]
    (listOf libraries libraries.string)
  let supportsTools ← optional members "supports_tools" false libraries.boolean
  let supportsStructuredOutput ←
    optional members "supports_structured_output" false libraries.boolean
  let details : CapabilityDetails :=
    { strengths := strengths
      speedTier := speedTier
      contextSize := contextSize
      outputModalities := outputModalities
      supportsTools := supportsTools
      supportsStructuredOutput := supportsStructuredOutput }
  return ({ inputModalities := inputModalities }, details)

/-- `Field(ge=1)` of an integer. -/
def positive (libraries : Libraries μ) (value : PyValue μ) : Option ℕ :=
  (constrained (fun number => decide (1 ≤ number)) libraries.integer value).map Int.toNat

variable [LE μ] [LT μ] [DecidableLE μ] [DecidableLT μ] [OfScientific μ]

/-- `Field(gt=0)` of a float. -/
def above (libraries : Libraries μ) : PyValue μ → Option μ :=
  constrained (fun value => decide ((0.0 : μ) < value)) libraries.float

/-- `Field(ge=0)` of a float. -/
def atLeast (libraries : Libraries μ) : PyValue μ → Option μ :=
  constrained (fun value => decide ((0.0 : μ) ≤ value)) libraries.float

/-- `Field(ge=0, le=1)` of a float. -/
def share (libraries : Libraries μ) : PyValue μ → Option μ :=
  constrained (fun value => decide ((0.0 : μ) ≤ value ∧ value ≤ (1.0 : μ))) libraries.float

/-- The fields of `ProviderConfig` but for those that settings provide. -/
def record (libraries : Libraries μ) (members : List (String × PyValue μ)) :
    Option (ProviderRecord μ) := do
  let id ← required members "id" (constrained matchesId libraries.string)
  let enabled ← optional members "enabled" true libraries.boolean
  let backend ← required members "backend" (named Backend.ofValue?)
  let model ← required members "model" (text libraries)
  let taskGroup ← required members "task_group" (named TaskGroup.ofValue?)
  let priority ← required members "priority" (positive libraries)
  let (capabilities, details) ← required members "capabilities" (capability libraries)
  let identityTerms ← optional members "identity_terms" [] (listOf libraries libraries.string)
  let regions ← optional members "regions" [] (listOf libraries libraries.string)
  let supportedDataClassifications ← optional members "supported_data_classifications"
    ["PUBLIC", "INTERNAL", "CONFIDENTIAL", "RESTRICTED"] (listOf libraries libraries.string)
  let costPer1kTokens ← optional members "cost_per_1k_tokens" (1.0 : μ) (atLeast libraries)
  let latencyMs ← optional members "latency_ms" (1000.0 : μ) (above libraries)
  let qualityScore ← optional members "quality_score" (0.5 : μ) (share libraries)
  let healthScore ← optional members "health_score" (1.0 : μ) (share libraries)
  let capacityWeight ← optional members "capacity_weight" (1.0 : μ) (above libraries)
  return {
    id := id
    enabled := enabled
    backend := backend
    model := model
    taskGroup := taskGroup
    priority := priority
    capabilities := capabilities
    details := details
    identityTerms := identityTerms
    regions := regions
    supportedDataClassifications := supportedDataClassifications
    costPer1kTokens := costPer1kTokens
    latencyMs := latencyMs
    qualityScore := qualityScore
    healthScore := healthScore
    capacityWeight := capacityWeight }

/-- `ProviderConfig.model_validate`; `none` where it raises a `ValidationError`. -/
def modelValidate (libraries : Libraries μ) (members : List (String × PyValue μ)) :
    Option (ConfiguredProvider μ) := do
  let record ← record libraries members
  let endpoint ← required members "endpoint" (text libraries)
  let apiKey ← optional members "api_key" none libraries.optionalSecret
  let timeout ← required members "timeout" (above libraries)
  return { record with endpoint := endpoint, apiKey := apiKey, timeout := timeout }

end Schema

/-- The settings the provider configurations depend on. -/
structure Settings (μ : Type) [LT μ] [OfScientific μ] where
  openrouterBaseUrl : Option String := none
  groqBaseUrl : Option String := none
  googleBaseUrl : Option String := none
  nvidiaBaseUrl : Option String := none
  openrouterEndpoint : Option String := none
  groqEndpoint : Option String := none
  googleEndpoint : Option String := none
  nvidiaEndpoint : Option String := none
  openrouterApiKey : Option String := none
  groqApiKey : Option String := none
  googleApiKey : Option String := none
  nvidiaApiKey : Option String := none
  requestTimeout : μ
  providersJson : String := "[]"
  requestTimeout_pos : (0.0 : μ) < requestTimeout

namespace Settings

variable {μ : Type} [LE μ] [LT μ] [DecidableLE μ] [DecidableLT μ] [OfScientific μ]
variable (settings : Settings μ)

/-- The dictionary of endpoints. -/
def endpoints : String → Option String
  | "google" => settings.googleEndpoint
  | "nvidia" => settings.nvidiaEndpoint
  | "openrouter" => settings.openrouterEndpoint
  | "groq" => settings.groqEndpoint
  | _ => none

/-- The dictionary of base URLs. -/
def baseUrls : String → Option String
  | "google" => settings.googleBaseUrl
  | "nvidia" => settings.nvidiaBaseUrl
  | "openrouter" => settings.openrouterBaseUrl
  | "groq" => settings.groqBaseUrl
  | _ => none

/-- The dictionary of keys. -/
def apiKeys : String → Option String
  | "google" => settings.googleApiKey
  | "nvidia" => settings.nvidiaApiKey
  | "openrouter" => settings.openrouterApiKey
  | "groq" => settings.groqApiKey
  | _ => none

/-- A text that is there and not empty. -/
def truthy (text : Option String) : Option String := text.filter fun text => decide (text ≠ "")

/-- `text.rstrip('/')` -/
def stripSlashes (text : String) : String :=
  String.ofList (text.toList.reverse.dropWhile (· == '/')).reverse

/-- `_chat_endpoint` -/
def chatEndpoint (backend : String) : Except ConfigException String :=
  match truthy (settings.endpoints backend) with
  | some endpoint => .ok endpoint
  | none =>
      match truthy (settings.baseUrls backend) with
      | some baseUrl => .ok (stripSlashes baseUrl ++ "/chat/completions")
      | none => .error (.valueError s!"No endpoint configured for backend '{backend}'")

/-- `_api_key` -/
def apiKey (backend : String) : Except ConfigException String :=
  match truthy (settings.apiKeys backend) with
  | some key => .ok key
  | none => .error (.valueError s!"No API key configured for backend '{backend}'")

/-- `{**item, "endpoint": ..., "api_key": ..., "timeout": ...}`: what is given here replaces
what the record says. -/
def provided (endpoint key : String) (timeout : μ) (members : List (String × PyValue μ)) :
    List (String × PyValue μ) :=
  ("endpoint", .string endpoint) :: ("api_key", .secret key) :: ("timeout", .float timeout) ::
    members

/-- One round of the loop of `provider_configs`. -/
def providerConfig (libraries : Libraries μ) (item : PyValue μ) :
    Except ConfigException (ConfiguredProvider μ) := do
  let value ← item.subscript "backend"
  let backend := value.str libraries
  let members ← item.mapping
  let endpoint ← settings.chatEndpoint backend
  let key ← settings.apiKey backend
  match Schema.modelValidate libraries (provided endpoint key settings.requestTimeout members) with
  | some config => .ok config
  | none => .error .validationError

/-- The body of the `try` of `provider_configs`. -/
def parsedConfigs (libraries : Libraries μ) :
    Except ConfigException (List (ConfiguredProvider μ)) := do
  let raw ← libraries.loads settings.providersJson
  let items ← raw.iterate
  let configs ← items.mapM (settings.providerConfig libraries)
  match validateProviderConfigs (configs.map ConfiguredProvider.provider) with
  | .ok _ => .ok configs
  | .error error => .error (.valueError error.message)

/-- The `except` clause of `provider_configs`. -/
def reraised : ConfigException → ConfigException
  | .jsonDecodeError | .validationError | .typeError | .keyError =>
      .valueError "PROVIDERS_JSON must be a valid provider configuration array"
  | exception => exception

/-- `provider_configs` -/
def providerConfigs (libraries : Libraries μ) :
    Except ConfigException (List (ConfiguredProvider μ)) :=
  (settings.parsedConfigs libraries).mapError reraised

end Settings

namespace PyValue
variable {μ : Type}

theorem get?_cons_self (key : String) (value : PyValue μ)
    (members : List (String × PyValue μ)) : get? key ((key, value) :: members) = some value := by
  simp [get?]

theorem get?_cons_of_ne {key name : String} (hne : name ≠ key) (value : PyValue μ)
    (members : List (String × PyValue μ)) :
    get? key ((name, value) :: members) = get? key members := by
  rw [get?, List.find?_cons_of_neg (by simpa using hne), get?]

theorem mapping_eq_ok_iff {item : PyValue μ} {members : List (String × PyValue μ)} :
    item.mapping = .ok members ↔ item = .object members := by
  cases item with
  | object own => simp [mapping]
  | _ => simp [mapping]

end PyValue

theorem Backend.ofValue?_eq_some_iff {text : String} {backend : Backend} :
    Backend.ofValue? text = some backend ↔ backend.value = text := by
  constructor
  · intro h
    simpa using List.find?_some h
  · intro h
    rw [← h]
    cases backend <;> decide

namespace Schema
variable {μ : Type} {α : Type}

theorem required_eq_some_iff {members : List (String × PyValue μ)} {key : String}
    {read : PyValue μ → Option α} {value : α} : required members key read = some value ↔
      ∃ given, PyValue.get? key members = some given ∧ read given = some value := by
  rw [required, Option.bind_eq_some_iff]

variable [LE μ] [LT μ] [DecidableLE μ] [DecidableLT μ] [OfScientific μ]
variable {libraries : Libraries μ} {members merged : List (String × PyValue μ)}

/-- The keys settings take care of. -/
def ownKeys : List String := ["endpoint", "api_key", "timeout"]

theorem record_congr
    (h : ∀ key, key ∉ ownKeys → PyValue.get? key merged = PyValue.get? key members) :
    record libraries merged = record libraries members := by
  have hrequired {α : Type} (key : String) (read : PyValue μ → Option α) (hkey : key ∉ ownKeys) :
      required merged key read = required members key read := by
    rw [required, h key hkey, required]
  have hoptional {α : Type} (key : String) (fallback : α) (read : PyValue μ → Option α)
      (hkey : key ∉ ownKeys) :
      optional merged key fallback read = optional members key fallback read := by
    rw [optional, h key hkey, optional]
  unfold record
  simp (disch := decide) only [hrequired, hoptional]

/-- A record names its backend, and gives no key. -/
theorem backend_and_apiKey_of_record {found : ProviderRecord μ}
    (h : record libraries members = some found) :
    required members "backend" (named Backend.ofValue?) = some found.backend ∧
      found.apiKey = none := by
  obtain ⟨id, -, h⟩ := Option.bind_eq_some_iff.mp h
  obtain ⟨enabled, -, h⟩ := Option.bind_eq_some_iff.mp h
  obtain ⟨backend, hbackend, h⟩ := Option.bind_eq_some_iff.mp h
  obtain ⟨model, -, h⟩ := Option.bind_eq_some_iff.mp h
  obtain ⟨taskGroup, -, h⟩ := Option.bind_eq_some_iff.mp h
  obtain ⟨priority, -, h⟩ := Option.bind_eq_some_iff.mp h
  obtain ⟨⟨capabilities, details⟩, -, h⟩ := Option.bind_eq_some_iff.mp h
  obtain ⟨identityTerms, -, h⟩ := Option.bind_eq_some_iff.mp h
  obtain ⟨regions, -, h⟩ := Option.bind_eq_some_iff.mp h
  obtain ⟨classifications, -, h⟩ := Option.bind_eq_some_iff.mp h
  obtain ⟨cost, -, h⟩ := Option.bind_eq_some_iff.mp h
  obtain ⟨latency, -, h⟩ := Option.bind_eq_some_iff.mp h
  obtain ⟨quality, -, h⟩ := Option.bind_eq_some_iff.mp h
  obtain ⟨health, -, h⟩ := Option.bind_eq_some_iff.mp h
  obtain ⟨capacity, -, h⟩ := Option.bind_eq_some_iff.mp h
  rw [← Option.some.inj h]
  exact ⟨hbackend, rfl⟩

/-- The backend of a record is written out in it. -/
theorem get?_backend_of_record {found : ProviderRecord μ}
    (h : record libraries members = some found) :
    PyValue.get? "backend" members = some (.string found.backend.value) := by
  obtain ⟨value, hvalue, hnamed⟩ :=
    required_eq_some_iff.mp (backend_and_apiKey_of_record h).1
  obtain ⟨text, htext, hname⟩ := Option.bind_eq_some_iff.mp hnamed
  rw [hvalue, Backend.ofValue?_eq_some_iff.mp hname]
  cases value with
  | string given => exact congrArg (fun text => some (PyValue.string text)) (Option.some.inj htext)
  | _ => cases htext

/-- A record pydantic accepts, all but what settings provide, and what it makes of it. -/
def WellFormed (libraries : Libraries μ) (item : PyValue μ) (found : ProviderRecord μ) : Prop :=
  ∃ members, item = .object members ∧ record libraries members = some found

/-- Pydantic takes over what settings provide. -/
theorem modelValidate_provided_iff (hdocumented : libraries.Documented) {endpoint key : String}
    {timeout : μ} (hendpoint : endpoint ≠ "") (htimeout : (0.0 : μ) < timeout)
    {config : ConfiguredProvider μ} :
    modelValidate libraries (Settings.provided endpoint key timeout members) = some config ↔
      ∃ found, record libraries members = some found ∧
        config = { found with endpoint := endpoint, apiKey := some key, timeout := timeout } := by
  have hrecord : record libraries (Settings.provided endpoint key timeout members) =
      record libraries members := by
    apply record_congr
    intro name hname
    have hne : "endpoint" ≠ name ∧ "api_key" ≠ name ∧ "timeout" ≠ name := by
      simpa [ownKeys, eq_comm] using hname
    rw [Settings.provided, PyValue.get?_cons_of_ne hne.1, PyValue.get?_cons_of_ne hne.2.1,
      PyValue.get?_cons_of_ne hne.2.2]
  have hown : required (Settings.provided endpoint key timeout members) "endpoint"
      (text libraries) = some endpoint := by
    apply required_eq_some_iff.mpr
    refine ⟨.string endpoint, PyValue.get?_cons_self _ _ _, ?_⟩
    rw [text, constrained, hdocumented.string_self, Option.filter_some, if_pos (by simpa)]
  have hkey : optional (Settings.provided endpoint key timeout members) "api_key" none
      libraries.optionalSecret = some (some key) := by
    rw [optional, Settings.provided, PyValue.get?_cons_of_ne (by decide), PyValue.get?_cons_self]
    exact hdocumented.secret_self key
  have hlimit : required (Settings.provided endpoint key timeout members) "timeout"
      (above libraries) = some timeout := by
    apply required_eq_some_iff.mpr
    refine ⟨.float timeout, ?_, ?_⟩
    · rw [Settings.provided, PyValue.get?_cons_of_ne (by decide),
        PyValue.get?_cons_of_ne (by decide), PyValue.get?_cons_self]
    · rw [above, constrained, hdocumented.float_self, Option.filter_some, if_pos (by simpa)]
  rw [modelValidate, hrecord, hown, hkey, hlimit]
  cases hfound : record libraries members with
  | none => simp
  | some found => simp [eq_comm]

end Schema

namespace Settings

variable {μ : Type} [LT μ] [OfScientific μ]
variable {settings : Settings μ} {libraries : Libraries μ} {backend endpoint key : String}

theorem truthy_eq_some_iff {given : Option String} {text : String} :
    truthy given = some text ↔ given = some text ∧ text ≠ "" := by
  rw [truthy, Option.filter_eq_some_iff]
  simp

/-- Settings know where the backend is. -/
def HasEndpoint (settings : Settings μ) (backend : String) : Prop :=
  ∃ url, url ≠ "" ∧
    (settings.endpoints backend = some url ∨ settings.baseUrls backend = some url)

/-- Settings have a key for the backend. -/
def HasKey (settings : Settings μ) (backend : String) : Prop :=
  ∃ key, key ≠ "" ∧ settings.apiKeys backend = some key

theorem exists_chatEndpoint_iff :
    (∃ endpoint, settings.chatEndpoint backend = .ok endpoint) ↔
      settings.HasEndpoint backend := by
  rw [chatEndpoint]
  constructor
  · intro h
    obtain ⟨endpoint, h⟩ := h
    cases hown : truthy (settings.endpoints backend) with
    | some url =>
        obtain ⟨hurl, hne⟩ := truthy_eq_some_iff.mp hown
        exact ⟨url, hne, .inl hurl⟩
    | none =>
        cases hbase : truthy (settings.baseUrls backend) with
        | some url =>
            obtain ⟨hurl, hne⟩ := truthy_eq_some_iff.mp hbase
            exact ⟨url, hne, .inr hurl⟩
        | none =>
            rw [hown, hbase] at h
            cases h
  · intro h
    obtain ⟨url, hne, hurl⟩ := h
    cases hown : truthy (settings.endpoints backend) with
    | some own => exact ⟨own, rfl⟩
    | none =>
        obtain hurl | hurl := hurl
        · rw [truthy_eq_some_iff.mpr ⟨hurl, hne⟩] at hown
          cases hown
        · rw [truthy_eq_some_iff.mpr ⟨hurl, hne⟩]
          exact ⟨_, rfl⟩

theorem chatEndpoint_ne_empty (h : settings.chatEndpoint backend = .ok endpoint) :
    endpoint ≠ "" := by
  rw [chatEndpoint] at h
  cases hown : truthy (settings.endpoints backend) with
  | some own =>
      rw [hown] at h
      rw [← Except.ok.inj h]
      exact (truthy_eq_some_iff.mp hown).2
  | none =>
      rw [hown] at h
      cases hbase : truthy (settings.baseUrls backend) with
      | some url =>
          rw [hbase] at h
          rw [← Except.ok.inj h]
          intro hempty
          have hlength := congrArg String.length hempty
          rw [String.length_append] at hlength
          exact absurd hlength (by simp)
      | none =>
          rw [hbase] at h
          cases h

theorem apiKey_eq_ok_iff :
    settings.apiKey backend = .ok key ↔ settings.apiKeys backend = some key ∧ key ≠ "" := by
  rw [apiKey, ← truthy_eq_some_iff]
  cases truthy (settings.apiKeys backend) with
  | none => simp
  | some found => simp

/-- A backend the settings do not know raises a `ValueError`. -/
theorem isValueError_of_chatEndpoint {exception : ConfigException}
    (h : settings.chatEndpoint backend = .error exception) : exception.isValueError = true := by
  rw [chatEndpoint] at h
  split at h
  · cases h
  · split at h
    · cases h
    · cases h
      rfl

theorem isValueError_of_apiKey {exception : ConfigException}
    (h : settings.apiKey backend = .error exception) : exception.isValueError = true := by
  rw [apiKey] at h
  split at h
  · cases h
  · cases h
    rfl

/-- The `except` clause leaves a `ValueError` one. -/
theorem isValueError_reraised {exception : ConfigException}
    (h : exception.isValueError = true) : (reraised exception).isValueError = true := by
  cases exception with
  | jsonDecodeError | validationError | valueError message => rfl
  | typeError | keyError | recursionError | other => cases h

variable [LE μ] [DecidableLE μ] [DecidableLT μ]

/-- What one record becomes. -/
structure Configures (settings : Settings μ) (libraries : Libraries μ) (item : PyValue μ)
    (config : ConfiguredProvider μ) : Prop where
  wellFormed : Schema.WellFormed libraries item config.record
  endpoint : settings.chatEndpoint config.backend.value = .ok config.endpoint
  apiKey : ∃ key, settings.apiKey config.backend.value = .ok key ∧ config.apiKey = some key
  timeout : config.timeout = settings.requestTimeout

theorem providerConfig_eq_ok_iff (hdocumented : libraries.Documented) {item : PyValue μ}
    {config : ConfiguredProvider μ} :
    settings.providerConfig libraries item = .ok config ↔
      settings.Configures libraries item config := by
  constructor
  · intro h
    obtain ⟨value, hvalue, h⟩ := bind_eq_ok.mp h
    obtain ⟨members, hmembers, h⟩ := bind_eq_ok.mp h
    obtain ⟨endpoint, hendpoint, h⟩ := bind_eq_ok.mp h
    obtain ⟨key, hkey, h⟩ := bind_eq_ok.mp h
    have hvalid : Schema.modelValidate libraries
        (provided endpoint key settings.requestTimeout members) = some config := by
      cases hvalid : Schema.modelValidate libraries
          (provided endpoint key settings.requestTimeout members) with
      | none =>
          rw [hvalid] at h
          cases h
      | some found =>
          rw [hvalid] at h
          rw [Except.ok.inj h]
    obtain ⟨found, hrecord, rfl⟩ := (Schema.modelValidate_provided_iff hdocumented
      (chatEndpoint_ne_empty hendpoint) settings.requestTimeout_pos).mp hvalid
    have hitem := PyValue.mapping_eq_ok_iff.mp hmembers
    have hbackend : value = .string found.backend.value := by
      rw [hitem, PyValue.subscript, Schema.get?_backend_of_record hrecord] at hvalue
      exact (Except.ok.inj hvalue).symm
    rw [hbackend] at hendpoint hkey
    have hnokey : found.apiKey = none := (Schema.backend_and_apiKey_of_record hrecord).2
    have hown : ({ found with
        endpoint := endpoint
        apiKey := some key
        timeout := settings.requestTimeout } : ConfiguredProvider μ).record = found := by
      rw [ConfiguredProvider.record, ← hnokey]
    exact ⟨⟨members, hitem, hrecord.trans (congrArg some hown.symm)⟩, hendpoint,
      ⟨key, hkey, rfl⟩, rfl⟩
  · intro h
    obtain ⟨members, rfl, hrecord⟩ := h.wellFormed
    obtain ⟨key, hkey, hown⟩ := h.apiKey
    have hvalid : Schema.modelValidate libraries
        (provided config.endpoint key settings.requestTimeout members) = some config := by
      apply (Schema.modelValidate_provided_iff hdocumented (chatEndpoint_ne_empty h.endpoint)
        settings.requestTimeout_pos).mpr
      refine ⟨config.record, hrecord, ?_⟩
      rw [← h.timeout, ← hown]
      rfl
    have hnamed := Schema.get?_backend_of_record hrecord
    have hbackend : PyValue.get? "backend" members = some (.string config.backend.value) := hnamed
    apply bind_eq_ok.mpr
    refine ⟨.string config.backend.value, ?_, ?_⟩
    · rw [PyValue.subscript, hbackend]
    · apply bind_eq_ok.mpr
      refine ⟨members, rfl, ?_⟩
      apply bind_eq_ok.mpr
      refine ⟨config.endpoint, h.endpoint, ?_⟩
      apply bind_eq_ok.mpr
      refine ⟨key, hkey, ?_⟩
      rw [hvalid]

theorem providerConfigs_eq_ok {configs : List (ConfiguredProvider μ)} :
    settings.providerConfigs libraries = .ok configs ↔
      settings.parsedConfigs libraries = .ok configs := by
  rw [providerConfigs]
  cases settings.parsedConfigs libraries with
  | error exception => exact ⟨fun h => (by cases h), fun h => (by cases h)⟩
  | ok found => exact Iff.rfl

/-- Whatever is wrong with one record is reported as a `ValueError`. -/
theorem providerConfig_raises {item : PyValue μ} {exception : ConfigException}
    (h : settings.providerConfig libraries item = .error exception) :
    (reraised exception).isValueError = true := by
  obtain h | ⟨value, -, h⟩ := bind_eq_error.mp h
  · cases item with
    | object members =>
        rw [PyValue.subscript] at h
        cases hget : PyValue.get? "backend" members with
        | some value =>
            rw [hget] at h
            cases h
        | none =>
            rw [hget] at h
            cases h
            rfl
    | _ =>
        cases h
        rfl
  obtain h | ⟨members, -, h⟩ := bind_eq_error.mp h
  · cases item with
    | object members => cases h
    | _ =>
        cases h
        rfl
  obtain h | ⟨endpoint, -, h⟩ := bind_eq_error.mp h
  · exact isValueError_reraised (isValueError_of_chatEndpoint h)
  obtain h | ⟨key, -, h⟩ := bind_eq_error.mp h
  · exact isValueError_reraised (isValueError_of_apiKey h)
  split at h
  · cases h
  · cases h
    rfl

/-- What goes wrong once the text is decoded is reported as a `ValueError`. -/
theorem parsedConfigs_raises {exception : ConfigException} {raw : PyValue μ}
    (hloads : libraries.loads settings.providersJson = .ok raw)
    (h : settings.parsedConfigs libraries = .error exception) :
    (reraised exception).isValueError = true := by
  obtain h | ⟨decoded, -, h⟩ := bind_eq_error.mp h
  · rw [hloads] at h
    cases h
  obtain h | ⟨items, -, h⟩ := bind_eq_error.mp h
  · cases decoded with
    | array own => cases h
    | string text => cases h
    | object members => cases h
    | _ =>
        cases h
        rfl
  obtain h | ⟨configs, -, h⟩ := bind_eq_error.mp h
  · obtain ⟨item, -, hraised⟩ := exists_of_mapM_eq_error h
    exact providerConfig_raises hraised
  split at h
  · cases h
  · cases h
    rfl

/-- A text that cannot be decoded fails the whole. -/
theorem providerConfigs_of_loads_error {exception : ConfigException}
    (hloads : libraries.loads settings.providersJson = .error exception) :
    settings.providerConfigs libraries = .error (reraised exception) := by
  rw [providerConfigs, parsedConfigs, hloads]
  rfl

/-- What comes out of `provider_configs` is a `ValueError`, unless the text is nested too
deep. -/
theorem providerConfigs_raises (hdocumented : libraries.Documented)
    {exception : ConfigException}
    (h : settings.providerConfigs libraries = .error exception) :
    exception.isValueError = true ∨ exception = .recursionError ∧
      libraries.loads settings.providersJson = .error .recursionError := by
  cases hloads : libraries.loads settings.providersJson with
  | error raised =>
      rw [providerConfigs_of_loads_error hloads] at h
      obtain rfl := Except.error.inj h
      obtain hvalue | rfl := hdocumented.loads_raises _ _ hloads
      · exact .inl (isValueError_reraised hvalue)
      · exact .inr ⟨rfl, rfl⟩
  | ok raw =>
      left
      rw [providerConfigs] at h
      cases hparsed : settings.parsedConfigs libraries with
      | ok configs =>
          rw [hparsed] at h
          cases h
      | error raised =>
          rw [hparsed] at h
          rw [← Except.error.inj h]
          exact parsedConfigs_raises hloads hparsed

theorem parsedConfigs_eq_ok_iff {configs : List (ConfiguredProvider μ)} :
    settings.parsedConfigs libraries = .ok configs ↔
      ∃ raw items, libraries.loads settings.providersJson = .ok raw ∧ raw.iterate = .ok items ∧
        items.mapM (settings.providerConfig libraries) = .ok configs ∧
        validateProviderConfigs (configs.map ConfiguredProvider.provider) = .ok () := by
  rw [parsedConfigs]
  constructor
  · intro h
    obtain ⟨raw, hraw, h⟩ := bind_eq_ok.mp h
    obtain ⟨items, hitems, h⟩ := bind_eq_ok.mp h
    obtain ⟨found, hfound, h⟩ := bind_eq_ok.mp h
    cases hvalid : validateProviderConfigs (found.map ConfiguredProvider.provider) with
    | error error =>
        rw [hvalid] at h
        cases h
    | ok done =>
        rw [hvalid] at h
        obtain rfl := Except.ok.inj h
        exact ⟨raw, items, hraw, hitems, hfound, hvalid⟩
  · intro h
    obtain ⟨raw, items, hraw, hitems, hfound, hvalid⟩ := h
    apply bind_eq_ok.mpr
    refine ⟨raw, hraw, bind_eq_ok.mpr ⟨items, hitems, bind_eq_ok.mpr ⟨configs, hfound, ?_⟩⟩⟩
    rw [hvalid]

omit [LT μ] [OfScientific μ] [LE μ] [DecidableLE μ] [DecidableLT μ] in
/-- Nothing but an array has items that are no strings. -/
theorem iterate_cases {raw : PyValue μ} {items : List (PyValue μ)}
    (h : raw.iterate = .ok items) :
    raw = .array items ∨ ∃ texts : List String, items = texts.map PyValue.string := by
  cases raw with
  | array own => exact .inl (congrArg PyValue.array (Except.ok.inj h))
  | string text =>
      right
      refine ⟨text.toList.map String.singleton, ?_⟩
      rw [← Except.ok.inj h, List.map_map]
      rfl
  | object members =>
      right
      refine ⟨members.map Prod.fst, ?_⟩
      rw [← Except.ok.inj h, List.map_map]
      rfl
  | _ => cases h

omit [LT μ] [OfScientific μ] [LE μ] [DecidableLE μ] [DecidableLT μ] in
/-- An empty list of providers is no topology. -/
theorem ne_nil_of_topology {configs : List (ConfiguredProvider μ)}
    (h : Topology (configs.map ConfiguredProvider.provider)) : configs ≠ [] := by
  intro hnil
  obtain ⟨config, hconfig, -⟩ := h.served .general
  rw [hnil] at hconfig
  cases hconfig

/-- Provider configurations are what an array of well-formed records gives, if they make a
topology. -/
theorem providerConfigs_eq_ok_iff (hdocumented : libraries.Documented)
    {configs : List (ConfiguredProvider μ)} :
    settings.providerConfigs libraries = .ok configs ↔
      ∃ items, libraries.loads settings.providersJson = .ok (.array items) ∧
        List.Forall₂ (settings.Configures libraries) items configs ∧
        Topology (configs.map ConfiguredProvider.provider) := by
  have hread (items : List (PyValue μ)) :
      items.mapM (settings.providerConfig libraries) = .ok configs ↔
        List.Forall₂ (settings.Configures libraries) items configs := by
    rw [mapM_eq_ok_iff]
    exact ⟨fun h => h.imp fun _ _ => (providerConfig_eq_ok_iff hdocumented).mp,
      fun h => h.imp fun _ _ => (providerConfig_eq_ok_iff hdocumented).mpr⟩
  rw [providerConfigs_eq_ok, parsedConfigs_eq_ok_iff]
  constructor
  · intro h
    obtain ⟨raw, items, hraw, hitems, hfound, hvalid⟩ := h
    have hconfigures := (hread items).mp hfound
    have htopology := validateProviderConfigs_eq_ok_iff.mp hvalid
    obtain rfl | ⟨texts, rfl⟩ := iterate_cases hitems
    · exact ⟨items, hraw, hconfigures, htopology⟩
    · -- a string is no record, and there is at least one record
      cases texts with
      | nil =>
          cases hconfigures
          exact absurd rfl (ne_nil_of_topology htopology)
      | cons text texts =>
          cases hconfigures with
          | cons hconfig _ =>
              obtain ⟨members, hitem, -⟩ := hconfig.wellFormed
              cases hitem
  · intro h
    obtain ⟨items, hraw, hconfigures, htopology⟩ := h
    exact ⟨.array items, items, hraw, rfl, (hread items).mpr hconfigures,
      validateProviderConfigs_eq_ok_iff.mpr htopology⟩

end Settings

end LLMRouting
