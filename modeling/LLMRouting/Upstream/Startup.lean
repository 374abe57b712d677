/-
# Starting up, and looking after the backends

`verify_startup` lets the application start only if every configured model is in the catalog of
its backend. It asks through the engine's verifier, which loads a catalog once for all targets of
a backend; so do `router_health` and `provider_health`. Without a verifier, each router asks for
itself and the dispatcher verifies the enabled providers only. This module follows both paths
and compares what they report.
-/

import LLMRouting.Config.BuildEngine
import LLMRouting.Providers.CircuitInvariant

namespace LLMRouting

open LLMRouting.Interaction LLMRouting.Data

inductive HealthStatus
  | healthy
  | unhealthy
  | offline
  deriving DecidableEq, Repr

def HealthStatus.ofAvailable (available : Bool) : HealthStatus :=
  if available then .healthy else .unhealthy

/-- The dictionary of these pairs, a later one replacing an earlier one. -/
def Data.Dict.ofPairs {κ ν : Type} [DecidableEq κ] (pairs : List (κ × ν)) : Dict κ ν :=
  pairs.foldl (fun d pair => d.set pair.1 pair.2) .empty

abbrev Statuses : Type := Dict String HealthStatus

/-- Statuses by name, and the circuits of the backends. -/
structure HealthReport where
  statuses : Statuses
  backends : Backend → CircuitSnapshot

/-- `health` of a router, or of a provider's adapter: a lookup for one target alone. -/
def ModelVerificationTarget.health (target : ModelVerificationTarget) : Lookup HealthStatus := do
  match ← (loadModelCatalog target).attempt with
  | .ok catalogIds =>
      let catalogModel := resolveCatalogModelId target.backend target.model catalogIds
      return .ofAvailable catalogModel.isSome
  | .error (.catalog _) => return .unhealthy
  | .error error => Coro.raise error

/-- `StructuredHTTPRouter.health` -/
def RouterBackendConfig.health (config : RouterBackendConfig) : Lookup HealthStatus :=
  (config.target "router").health

/-- `ProviderDispatcher.health`, with the providers as the registry lists them. -/
def ProviderDispatcher.health (listed : List (ConfiguredProvider ℚ)) : Lookup Statuses := do
  let enabled := listed.filter fun config => config.enabled
  let results ← StartupModelVerifier.verify ⟨enabled.map ConfiguredProvider.target⟩ none
  let statuses := Dict.ofPairs (results.map fun item =>
    (item.name, HealthStatus.ofAvailable item.available))
  return Dict.ofPairs (listed.map fun config =>
    (config.id, (statuses.get? config.id).getD .offline))

/-- The status of a provider with this result, if these are the ids of the disabled ones. -/
def ModelVerificationResult.providerStatus (disabled : List String)
    (item : ModelVerificationResult) : HealthStatus :=
  if item.name ∈ disabled then .offline else .ofAvailable item.available

namespace BuiltEngine

variable (built : BuiltEngine)

/-- `router_health`, with what the circuits then show. -/
def routerHealth (backends : Backend → CircuitSnapshot) : Lookup HealthReport :=
  match built.verifier with
  | some verifier => do
      let results ← verifier.verify (some "router")
      return {
        statuses := Dict.ofPairs (results.map fun item =>
          (item.name, HealthStatus.ofAvailable item.available))
        backends := backends }
  | none => do
      let primary ← built.primaryRouter.health
      let fallback ← built.fallbackRouter.health
      return {
        statuses := Dict.ofPairs [("primary_router", primary), ("fallback_router", fallback)]
        backends := backends }

/-- `provider_health`, with the providers as the registry lists them. -/
def providerHealth (listed : List (ConfiguredProvider ℚ)) (backends : Backend → CircuitSnapshot) :
    Lookup HealthReport :=
  match built.verifier with
  | some verifier => do
      let results ← verifier.verify (some "provider")
      let disabled := (listed.filter fun config => !config.enabled).map fun config => config.id
      return {
        statuses := Dict.ofPairs (results.map fun item => (item.name, item.providerStatus disabled))
        backends := backends }
  | none => do
      let statuses ← ProviderDispatcher.health listed
      return { statuses := statuses, backends := backends }

end BuiltEngine

inductive StartupException
  | lookup (error : CatalogException)
  | routingEngine (message : String)
  deriving DecidableEq

/-- A model that is unavailable, as the error of `verify_startup` describes it. -/
def ModelVerificationResult.detail (result : ModelVerificationResult) : String :=
  let catalogMatch := (Settings.truthy result.catalogModel).getD "none"
  let status := result.httpStatus.elim "" fun status => s!", models_http_status={status}"
  s!"{result.name} [backend={result.backend}, model={result.configuredModel}, " ++
    s!"reason={result.reason}, catalog_match={catalogMatch}{status}]"

/-- The error for models the verifier has not found. -/
def unavailableModels (unavailable : List ModelVerificationResult) : String :=
  "Configured models are unavailable: " ++
    "; ".intercalate (unavailable.map ModelVerificationResult.detail)

/-- The error for routers and providers that are not healthy. -/
def unavailableNames (names : List String) : String :=
  "Configured router/provider models are unavailable: " ++ ", ".intercalate names

/-- `verify_startup` -/
def BuiltEngine.verifyStartup (built : BuiltEngine) (listed : List (ConfiguredProvider ℚ))
    (backends : Backend → CircuitSnapshot) : Coro catalogInterface Unit StartupException Unit :=
  match built.verifier with
  | some verifier => do
      let results ← (verifier.verify none).translate .lookup
      let unavailable := results.filter fun result => !result.available
      if unavailable ≠ [] then Coro.raise (.routingEngine (unavailableModels unavailable))
      else return ()
  | none => do
      let routerStatus ← (built.routerHealth backends).translate .lookup
      let providerHealth ← (built.providerHealth listed backends).translate .lookup
      -- the report on the routers has the two names that the source reads from it
      let statuses :=
        Dict.ofPairs (routerStatus.statuses.entries ++ providerHealth.statuses.entries)
      let unavailable := statuses.entries.filter fun entry => decide (entry.2 ≠ .healthy)
      if unavailable ≠ [] then
        Coro.raise (.routingEngine (unavailableNames (unavailable.map Prod.fst)))
      else return ()

/-- The target's backend has given a catalog with its model. -/
def ModelVerificationTarget.Found (target : ModelVerificationTarget) (trace : List CatalogEvent) :
    Prop :=
  ∃ event ∈ trace, CatalogEvent.backend event = target.backend ∧ target.FoundIn event.reply

/-- A catalog is asked for where the endpoint of the target puts it. -/
theorem StartupModelVerifier.Sweep.asked {groups : List (List ModelVerificationTarget)}
    {trace : List CatalogEvent} {results : Except CatalogException (List ModelVerificationResult)}
    (h : Sweep groups trace results) :
    ∀ event ∈ trace, (∃ targets ∈ groups, event.query.target ∈ targets) ∧
      modelsEndpoint event.query.target.endpoint = .ok event.query.url := by
  induction h with
  | done => exact List.forall_mem_nil _
  | escaped escape =>
      cases escape with
      | asked endpoint =>
          intro event hevent
          rw [List.mem_singleton.mp hevent]
          exact ⟨⟨_, List.mem_cons_self, List.mem_cons_self⟩, endpoint⟩
  | @settled targets rest trace later outcome results settled sweep ih =>
      intro event hevent
      rcases List.mem_append.mp hevent with hevent | hevent
      · cases settled with
        | differing | unaddressed => cases hevent
        | asked agree endpoint loaded =>
            rw [List.mem_singleton.mp hevent]
            exact ⟨⟨_, List.mem_cons_self, List.mem_cons_self⟩, endpoint⟩
      · obtain ⟨⟨group, hgroup, htarget⟩, hurl⟩ := ih event hevent
        exact ⟨⟨group, List.mem_cons_of_mem _ hgroup, htarget⟩, hurl⟩

/-- What `verify_startup` makes of the results. -/
def startupOutcome (results : List ModelVerificationResult) : Except StartupException Unit :=
  let unavailable := results.filter fun result => !result.available
  if unavailable ≠ [] then .error (.routingEngine (unavailableModels unavailable)) else .ok ()

section Startup

open StartupModelVerifier

variable {rely : Unit → Unit → Prop} {settings : EngineSettings} {built : BuiltEngine}
  {verifier : StartupModelVerifier} {listed : List (ConfiguredProvider ℚ)}
  {backends : Backend → CircuitSnapshot} {trace : List CatalogEvent}
  {out : Except StartupException Unit}

theorem verifyStartup_concludes (hverifier : built.verifier = some verifier) :
    (built.verifyStartup listed backends).wp (Contract.relying rely) (fun trace _ out =>
      ∃ results, Sweep ((verifier.groups none).map Prod.snd) trace results ∧
        out = (results.mapError .lookup).bind startupOutcome) () := by
  rw [BuiltEngine.verifyStartup, hverifier]
  rw [Coro.wp_bind, Coro.wp_translate]
  apply Coro.wp_mono (verifyBackends_sweeps (verifier.groups none)
    (fun group hgroup => (eq_withKey_of_mem hgroup).2) [])
  intro trace _ out hout
  obtain ⟨results, hsweep, rfl⟩ := hout
  cases results with
  | error exception => exact ⟨.error exception, hsweep, rfl⟩
  | ok results =>
      show Coro.wp _ (if (results.filter fun result => !result.available) ≠ [] then _ else _) _ _
      by_cases hmissing : (results.filter fun result => !result.available) ≠ []
      · rw [if_pos hmissing]
        refine ⟨.ok results, by rwa [List.append_nil], ?_⟩
        exact (if_pos hmissing).symm
      · rw [if_neg hmissing]
        refine ⟨.ok results, by rwa [List.append_nil], ?_⟩
        exact (if_neg hmissing).symm

theorem verifyStartup_sweeps (hverifier : built.verifier = some verifier)
    (hrun : Coro.Run rely (built.verifyStartup listed backends) () trace () out) :
    ∃ results, Sweep ((verifier.groups none).map Prod.snd) trace results ∧
      out = (results.mapError .lookup).bind startupOutcome :=
  Coro.wp_sound (verifyStartup_concludes hverifier) hrun

/-- Of these targets the missing ones are not found, and these are their results. -/
structure ReportsMissing (targets : List ModelVerificationTarget) (trace : List CatalogEvent)
    (missing : List ModelVerificationTarget) (unavailable : List ModelVerificationResult) :
    Prop where
  sublist : missing.Sublist targets
  mem_iff : ∀ target ∈ targets, target ∈ missing ↔ ¬ target.Found trace
  reported : ∃ verdict : ModelVerificationTarget → ModelVerificationResult,
    unavailable.Perm (missing.map verdict) ∧ ∀ target ∈ targets,
      (verdict target).name = target.name ∧ (verdict target).backend = target.backend ∧
        (verdict target).configuredModel = target.model

/-- The unavailable results of a sweep are those of the targets that are missing. -/
theorem exists_missing {targets : List ModelVerificationTarget}
    {results : List ModelVerificationResult} (h : Verifies targets trace results)
    (hagreed : ∀ target ∈ targets, target.Agreed targets) :
    ∃ missing, ReportsMissing targets trace missing
      (results.filter fun result => !result.available) := by
  obtain ⟨verdict, hperm, hverdict⟩ := h.onePerTarget
  refine ⟨targets.filter fun target => !(verdict target).available, List.filter_sublist, ?_,
    verdict, ?_, ?_⟩
  · intro target htarget
    obtain ⟨-, -, -, -, havailable⟩ := hverdict target htarget
    have hfound : (verdict target).available = true ↔ target.Found trace :=
      havailable.trans (and_iff_right (hagreed target htarget))
    rw [List.mem_filter, and_iff_right htarget, ← hfound]
    cases (verdict target).available <;> decide
  · have hfiltered := hperm.filter fun result => !result.available
    rw [List.filter_map] at hfiltered
    exact hfiltered
  · intro target htarget
    obtain ⟨hname, hbackend, hmodel, -⟩ := hverdict target htarget
    exact ⟨hname, hbackend, hmodel⟩

/-- No target is missing exactly if all are found. -/
theorem ReportsMissing.eq_nil_iff {targets missing : List ModelVerificationTarget}
    {unavailable : List ModelVerificationResult}
    (h : ReportsMissing targets trace missing unavailable) :
    unavailable = [] ↔ ∀ target ∈ targets, target.Found trace := by
  obtain ⟨verdict, hperm, -⟩ := h.reported
  have hlength : unavailable = [] ↔ missing = [] := by
    rw [← List.length_eq_zero_iff, hperm.length_eq, List.length_map, List.length_eq_zero_iff]
  rw [hlength, List.eq_nil_iff_forall_not_mem]
  constructor
  · intro hnone target htarget
    by_contra hnot
    exact hnone target ((h.mem_iff target htarget).mpr hnot)
  · intro hfound target hmissing
    have htarget := h.sublist.subset hmissing
    exact (h.mem_iff target htarget).mp hmissing (hfound target htarget)

/-- What startup has to be, from the requests it has made: it succeeds exactly if every target's
model is in the catalog of its backend; what it reports are the targets for which that is not so;
it breaks off exactly with a request that raises what is not caught; and each backend is asked
once at most, where the settings say it is and with the key they have for it. -/
structure StartsUp (settings : EngineSettings) (built : BuiltEngine) (trace : List CatalogEvent)
    (out : Except StartupException Unit) : Prop where
  starts : out = .ok () ↔ ∀ target ∈ built.targets, target.Found trace
  reports : ∀ message, out = .error (.routingEngine message) →
    ∃ missing unavailable, unavailable ≠ [] ∧ message = unavailableModels unavailable ∧
      ReportsMissing built.targets trace missing unavailable
  breaks : (∃ exception, out = .error (.lookup exception)) ↔
    ∃ event ∈ trace, CatalogEvent.Escapes event
  oncePerBackend : (trace.map CatalogEvent.backend).Nodup
  addressed : ∀ event ∈ trace, settings.Addresses event.query.target ∧
    modelsEndpoint event.query.target.endpoint = .ok event.query.url

/-- No target is found in the reply of a request that raises what is not caught. -/
theorem not_found_of_escapes {target : ModelVerificationTarget}
    (hnodup : (trace.map CatalogEvent.backend).Nodup) {event : CatalogEvent}
    (hevent : event ∈ trace) (hbackend : CatalogEvent.backend event = target.backend)
    (hescapes : CatalogEvent.Escapes event) : ¬ target.Found trace := by
  intro hfound
  obtain ⟨other, hother, hsame, catalogIds, hloads, -⟩ := hfound
  obtain rfl : other = event :=
    List.inj_on_of_nodup_map hnodup hother hevent (hsame.trans hbackend.symm)
  exact hescapes (CatalogReply.escape?_of_ok (CatalogReply.loaded_eq_ok.mpr hloads))

theorem not_found_of_sweep {groups : List (String × List ModelVerificationTarget)}
    {exception : CatalogException} (hseparated : Separated groups)
    (hsweep : Sweep (groups.map Prod.snd) trace (.error exception)) :
    ∃ target, (∃ group ∈ groups, target ∈ group.2) ∧ ¬ target.Found trace := by
  have hescapes : ¬ ∀ event ∈ trace, ¬ CatalogEvent.Escapes event := by
    rw [← hsweep.isOk_iff]
    intro ⟨found, h⟩
    cases h
  push Not at hescapes
  obtain ⟨event, hevent, hescapes⟩ := hescapes
  obtain ⟨⟨targets, htargets, htarget⟩, -⟩ := hsweep.asked event hevent
  obtain ⟨group, hgroup, rfl⟩ := List.mem_map.mp htargets
  exact ⟨event.query.target, ⟨group, hgroup, htarget⟩, not_found_of_escapes
    (hseparated.nodup.sublist (hsweep.backends hseparated)) hevent rfl hescapes⟩

theorem mem_selected_of_mem_groups {role : Option String} {target : ModelVerificationTarget}
    {group : String × List ModelVerificationTarget} (hgroup : group ∈ verifier.groups role)
    (htarget : target ∈ group.2) : target ∈ verifier.selected role := by
  rw [(eq_withKey_of_mem hgroup).1] at htarget
  exact (mem_withKey.mp htarget).1

/-- A verification that does not break off is judged by the targets it misses. -/
theorem startsUp_of_results {results : List ModelVerificationResult}
    {missing : List ModelVerificationTarget}
    (hmissing : ReportsMissing built.targets trace missing
      (results.filter fun result => !result.available))
    (hcomplete : ¬ ∃ event ∈ trace, CatalogEvent.Escapes event)
    (hnodup : (trace.map CatalogEvent.backend).Nodup)
    (haddressed : ∀ event ∈ trace, settings.Addresses event.query.target ∧
      modelsEndpoint event.query.target.endpoint = .ok event.query.url) :
    StartsUp settings built trace (startupOutcome results) := by
  rw [startupOutcome]
  by_cases hnone : (results.filter fun result => !result.available) = []
  · rw [if_neg (not_not.mpr hnone)]
    constructor
    · exact ⟨fun _ => hmissing.eq_nil_iff.mp hnone, fun _ => rfl⟩
    · intro message h
      cases h
    · refine ⟨?_, fun h => (hcomplete h).elim⟩
      intro ⟨exception, h⟩
      cases h
    · exact hnodup
    · exact haddressed
  · rw [if_pos hnone]
    constructor
    · refine ⟨?_, fun hfound => (hnone (hmissing.eq_nil_iff.mpr hfound)).elim⟩
      intro h
      cases h
    · intro message h
      cases h
      exact ⟨missing, _, hnone, rfl, hmissing⟩
    · refine ⟨?_, fun h => (hcomplete h).elim⟩
      intro ⟨exception, h⟩
      cases h
    · exact hnodup
    · exact haddressed

/-- The application starts exactly if every configured model is in its backend's catalog. -/
theorem verifyStartup_startsUp {libraries : Libraries ℚ} (hdocumented : libraries.Documented)
    (hbuilt : settings.buildEngine libraries = .ok built)
    (hrun : Coro.Run rely (built.verifyStartup listed backends) () trace () out) :
    StartsUp settings built trace out := by
  have hconnects := EngineSettings.connects_of_buildEngine hdocumented hbuilt
  obtain ⟨results, hsweep, rfl⟩ := verifyStartup_sweeps hconnects.verified hrun
  have htargets : selected ⟨built.targets⟩ none = built.targets := selected_none
  have hseparated := separated_groups ⟨built.targets⟩ none
  have hnodup := hseparated.nodup.sublist (hsweep.backends hseparated)
  have haddressed : ∀ event ∈ trace, settings.Addresses event.query.target ∧
      modelsEndpoint event.query.target.endpoint = .ok event.query.url := by
    intro event hevent
    obtain ⟨⟨targets, hgroups, htarget⟩, hurl⟩ := hsweep.asked event hevent
    obtain ⟨group, hgroup, rfl⟩ := List.mem_map.mp hgroups
    have hselected := mem_selected_of_mem_groups hgroup htarget
    rw [htargets] at hselected
    exact ⟨hconnects.addressed _ hselected, hurl⟩
  have hbreaks : (¬ ∃ found, results = .ok found) ↔
      ∃ event ∈ trace, CatalogEvent.Escapes event := by
    rw [hsweep.isOk_iff]
    push Not
    rfl
  cases results with
  | error exception =>
      obtain ⟨target, ⟨group, hgroup, hmem⟩, hmissing⟩ := not_found_of_sweep hseparated hsweep
      have htarget := mem_selected_of_mem_groups hgroup hmem
      rw [htargets] at htarget
      constructor
      · constructor
        · intro h
          cases h
        · intro hfound
          exact (hmissing (hfound target htarget)).elim
      · intro message h
        cases h
      · refine ⟨fun _ => hbreaks.mp ?_, fun _ => ⟨exception, rfl⟩⟩
        intro ⟨found, h⟩
        cases h
      · exact hnodup
      · exact haddressed
  | ok results =>
      have hverifies := verifies_of_sweep hsweep
      rw [htargets] at hverifies
      obtain ⟨missing, hmissing⟩ := exists_missing hverifies hconnects.uniform
      have hcomplete : ¬ ∃ event ∈ trace, CatalogEvent.Escapes event := by
        rw [← hbreaks, not_not]
        exact ⟨results, rfl⟩
      exact startsUp_of_results hmissing hcomplete hnodup haddressed

end Startup

/-- Circuits that nothing has been sent through. -/
def quietCircuits : Backend → CircuitSnapshot := fun _ => ⟨.closed, 0, 0⟩

/-- A run of `verify_startup` with these catalogs. -/
def BuiltEngine.startup (built : BuiltEngine) (catalogs : String → CatalogReply) :
    List CatalogEvent × Unit × Except StartupException Unit :=
  (built.verifyStartup built.providers quietCircuits).eval
    (StartupModelVerifier.stationary catalogs) () 0

/-- A catalog without the model of the second router. -/
def withoutSecond : String → CatalogReply := fun _ =>
  StartupModelVerifier.listing
    ["models/router", "general_one", "coding_one", "creative_one", "models/multimodal_one"]

/-- The minimal engine is not started, since the second router's model is missing. -/
theorem verifyStartup_startsUp_minimal :
    ∃ built, EngineSettings.minimalEngine.buildEngine EngineSettings.minimalLibraries = .ok built ∧
      StartsUp EngineSettings.minimalEngine built (built.startup withoutSecond).1
        (built.startup withoutSecond).2.2 ∧
      ∃ target ∈ built.targets, ¬ target.Found (built.startup withoutSecond).1 := by
  have hrefused : (EngineSettings.minimalEngine.buildEngine
      EngineSettings.minimalLibraries).toOption.map
        (fun built => (built.startup withoutSecond).2.2.isOk) = some false := by
    decide +kernel
  obtain ⟨built, hbuilt, hfails⟩ := EngineSettings.exists_ok_of_map hrefused
  have hrun : Coro.Run (fun _ _ => True) (built.verifyStartup built.providers quietCircuits) ()
      (built.startup withoutSecond).1 () (built.startup withoutSecond).2.2 :=
    Coro.run_eval (fun _ => trivial) _ _ _ _
  have hstarts := verifyStartup_startsUp (Settings.documented_plainLibraries _ _) hbuilt hrun
  refine ⟨built, hbuilt, hstarts, ?_⟩
  by_contra hall
  push Not at hall
  rw [hstarts.starts.mpr hall] at hfails
  cases hfails

end LLMRouting
