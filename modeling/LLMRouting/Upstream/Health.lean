/-
# Health with and without the verifier

With a verifier, the engine's health checks load a catalog once for all targets of a backend;
without one, either router asks for itself and the dispatcher leaves the disabled providers out.
While the catalogs stay as they are, both paths report the same, but for one thing: a backend that
only disabled providers are on can break the check of the verifier. At startup the path without a
verifier is the stricter one, since to it a disabled provider is not healthy.
-/

import LLMRouting.Upstream.Startup

namespace LLMRouting

open LLMRouting.Interaction LLMRouting.Data StartupModelVerifier

namespace Data.Dict

variable {κ ν : Type} [DecidableEq κ]

theorem get?_eq_some_iff {d : Dict κ ν} {key : κ} {value : ν} :
    d.get? key = some value ↔ (key, value) ∈ d.entries := by
  constructor
  · intro h
    have hkey : key ∈ d.keys := mem_keys_iff.mpr ⟨value, h⟩
    obtain ⟨entry, hentry, rfl⟩ := List.mem_map.mp hkey
    rw [get?_of_mem_entries hentry] at h
    obtain rfl := Option.some.inj h
    exact hentry
  · exact get?_of_mem_entries

/-- Distinct keys keep their pairs, in order. -/
theorem entries_ofPairs {pairs : List (κ × ν)} (hnodup : (pairs.map Prod.fst).Nodup) :
    (ofPairs pairs).entries = pairs := by
  induction pairs using List.reverseRecOn with
  | nil => rfl
  | append_singleton pairs pair ih =>
      rw [List.map_append, List.nodup_append'] at hnodup
      have hpairs := ih hnodup.1
      have hnew : pair.1 ∉ (ofPairs pairs).keys := by
        rw [keys, hpairs]
        exact fun hmem => hnodup.2.2 hmem List.mem_cons_self
      rw [ofPairs, List.foldl_append]
      show ((ofPairs pairs).set pair.1 pair.2).entries = _
      rw [set, dif_neg hnew]
      exact congrArg (fun entries => entries ++ [pair]) hpairs

theorem get?_ofPairs {pairs : List (κ × ν)} (hnodup : (pairs.map Prod.fst).Nodup) {key : κ}
    {value : ν} : (ofPairs pairs).get? key = some value ↔ (key, value) ∈ pairs := by
  rw [get?_eq_some_iff, entries_ofPairs hnodup]

end Data.Dict

section Lookups

variable {ε ε' α β : Type} {catalogs : String → CatalogReply} {target : ModelVerificationTarget}

/-- Answered from these catalogs, the task ends as `post` says. -/
structure Answered (catalogs : String → CatalogReply) (task : Coro catalogInterface Unit ε α)
    (post : Except ε α → Prop) : Prop where
  wp : task.wp (Contract.relying fun _ _ => True)
    (fun trace _ out => StartupModelVerifier.AnsweredBy catalogs trace → post out) ()

theorem answered_pure {value : α} {post : Except ε α → Prop} (h : post (.ok value)) :
    Answered catalogs (pure value : Coro catalogInterface Unit ε α) post :=
  ⟨fun _ => h⟩

theorem answered_raise {error : ε} {post : Except ε α → Prop} (h : post (.error error)) :
    Answered catalogs (Coro.raise error : Coro catalogInterface Unit ε α) post :=
  ⟨fun _ => h⟩

theorem answered_mono {task : Coro catalogInterface Unit ε α} {post post' : Except ε α → Prop}
    (h : Answered catalogs task post) (himp : ∀ out, post out → post' out) :
    Answered catalogs task post' :=
  ⟨Coro.wp_mono h.wp fun _ _ out hout hanswered => himp out (hout hanswered)⟩

theorem answered_bind {task : Coro catalogInterface Unit ε α}
    {next : α → Coro catalogInterface Unit ε β} {post : Except ε β → Prop}
    (h : Answered catalogs task fun out =>
      match out with
      | .ok value => Answered catalogs (next value) post
      | .error error => post (.error error)) :
    Answered catalogs (task >>= next) post := by
  constructor
  rw [Coro.wp_bind]
  apply Coro.wp_mono h.wp
  intro trace m' out hout
  cases out with
  | error error => exact hout
  | ok value =>
      show Coro.wp _ (next value) _ _
      by_cases hanswered : StartupModelVerifier.AnsweredBy catalogs trace
      · apply Coro.wp_mono (hout hanswered).wp
        intro rest _ out hout hall
        exact hout fun event hevent => hall event (List.mem_append_right trace hevent)
      · apply Coro.wp_mono (Coro.wp_relying (next value))
        intro rest _ out _ hall
        exact (hanswered fun event hevent =>
          hall event (List.mem_append_left rest hevent)).elim

theorem answered_translate {task : Coro catalogInterface Unit ε α} {translation : ε → ε'}
    {post : Except ε' α → Prop}
    (h : Answered catalogs task fun out => post (out.mapError translation)) :
    Answered catalogs (task.translate translation) post :=
  ⟨Coro.wp_translate.mpr h.wp⟩

/-- What the request for the target's catalog raises that is not caught. -/
def ModelVerificationTarget.escape? (catalogs : String → CatalogReply)
    (target : ModelVerificationTarget) : Option CatalogException :=
  match modelsEndpoint target.endpoint with
  | .ok _ => CatalogReply.escape? (catalogs target.backend)
  | .error _ => none

/-- What is raised that way by the first of the targets for which something is. -/
def firstEscape? (catalogs : String → CatalogReply) (targets : List ModelVerificationTarget) :
    Option CatalogException :=
  targets.findSome? (ModelVerificationTarget.escape? catalogs)

/-- The exception a lookup ends with, if it does. -/
def raised? {α : Type} : Except CatalogException α → Option CatalogException
  | .ok _ => none
  | .error exception => some exception

/-- What health says about the target. -/
def ModelVerificationTarget.status (catalogs : String → CatalogReply)
    (target : ModelVerificationTarget) : HealthStatus :=
  .ofAvailable (target.verdict (settledBy catalogs target)).available

theorem escape?_of_endpoint {url : String} (h : modelsEndpoint target.endpoint = .ok url) :
    target.escape? catalogs = CatalogReply.escape? (catalogs target.backend) := by
  rw [ModelVerificationTarget.escape?, h]

theorem escape?_of_unaddressed {error : ModelCatalogError}
    (h : modelsEndpoint target.endpoint = .error error) : target.escape? catalogs = none := by
  rw [ModelVerificationTarget.escape?, h]

/-- A target whose request raises what is not caught is not healthy. -/
theorem escape?_of_healthy (h : target.status catalogs = .healthy) :
    target.escape? catalogs = none := by
  cases hendpoint : modelsEndpoint target.endpoint with
  | error error => exact escape?_of_unaddressed hendpoint
  | ok url =>
      rw [escape?_of_endpoint hendpoint]
      cases hescape : CatalogReply.escape? (catalogs target.backend) with
      | none => rfl
      | some exception =>
          obtain ⟨hraised, huncaught⟩ := CatalogReply.loaded_of_escape? hescape
          have hsettled : settledBy catalogs target = .error inconsistent := by
            rw [settledBy, hendpoint, hraised]
            cases exception with
            | catalog error => exact (huncaught error rfl).elim
            | http | unformed | recursion => rfl
          rw [ModelVerificationTarget.status, hsettled] at h
          cases h

/-- What a lookup for one target alone comes to. -/
theorem health_answered (target : ModelVerificationTarget) :
    Answered catalogs target.health fun out =>
      (∃ exception, target.escape? catalogs = some exception ∧ out = .error exception) ∨
        target.escape? catalogs = none ∧ out = .ok (target.status catalogs) := by
  constructor
  rw [ModelVerificationTarget.health, Coro.wp_bind, Coro.wp_attempt]
  apply Coro.wp_mono (loadModelCatalog_asks target)
  intro trace _ out hout
  rcases hout with ⟨error, hendpoint, rfl, rfl⟩ | ⟨url, reply, hendpoint, rfl, rfl⟩
  · intro _
    refine Or.inr ⟨escape?_of_unaddressed hendpoint, ?_⟩
    rw [ModelVerificationTarget.status, settledBy, hendpoint]
    rfl
  · cases hloaded : CatalogReply.loaded reply with
    | ok catalogIds =>
        intro hanswered
        have hreply : reply = catalogs target.backend := hanswered _ List.mem_cons_self
        rw [hreply] at hloaded
        refine Or.inr ⟨(escape?_of_endpoint hendpoint).trans
          (CatalogReply.escape?_of_ok hloaded), ?_⟩
        rw [ModelVerificationTarget.status, settledBy, hendpoint, hloaded]
        rfl
    | error error =>
        cases error with
        | catalog error =>
            intro hanswered
            have hreply : reply = catalogs target.backend := hanswered _ List.mem_cons_self
            rw [hreply] at hloaded
            refine Or.inr ⟨(escape?_of_endpoint hendpoint).trans
              (CatalogReply.escape?_of_catalog hloaded), ?_⟩
            rw [ModelVerificationTarget.status, settledBy, hendpoint, hloaded]
            rfl
        | http | unformed | recursion =>
            intro hanswered
            have hreply : reply = catalogs target.backend := hanswered _ List.mem_cons_self
            rw [hreply] at hloaded
            have hescape := CatalogReply.escape?_of_loaded hloaded fun error h => by cases h
            exact Or.inl ⟨_, (escape?_of_endpoint hendpoint).trans hescape, rfl⟩

/-- Where a backend's lookup comes to something, no target of that backend raises anything. -/
theorem GroupOutcome.firstEscape? {targets : List ModelVerificationTarget} {backend : String}
    {trace : List CatalogEvent} {outcome : Except ModelCatalogError (Finset String)}
    (h : GroupOutcome targets trace outcome)
    (hbackend : ∀ target ∈ targets, target.backend = backend)
    (hagreed : ∀ target ∈ targets, target.Agreed targets)
    (hanswered : StartupModelVerifier.AnsweredBy catalogs trace) :
    LLMRouting.firstEscape? catalogs targets = none := by
  rw [LLMRouting.firstEscape?, List.findSome?_eq_none_iff]
  intro target htarget
  have hsame : ∀ other ∈ targets, other.backend = target.backend :=
    fun other hother => (hbackend other hother).trans (hbackend target htarget).symm
  cases h with
  | differing differ =>
      exact (differ (agreeWith_of_agreed htarget hsame (hagreed target htarget))).elim
  | @unaddressed representative _ error agree endpoint =>
      have hendpoint := (hagreed target htarget representative List.mem_cons_self
        (hsame _ List.mem_cons_self)).1
      rw [hendpoint] at endpoint
      exact escape?_of_unaddressed endpoint
  | @asked representative _ url reply _ agree endpoint loaded =>
      have hendpoint := (hagreed target htarget representative List.mem_cons_self
        (hsame _ List.mem_cons_self)).1
      have hreply : reply = catalogs representative.backend := hanswered _ List.mem_cons_self
      rw [hsame _ List.mem_cons_self] at hreply
      rw [hendpoint] at endpoint
      rw [escape?_of_endpoint endpoint, ← hreply]
      cases outcome with
      | ok catalogIds => exact CatalogReply.escape?_of_ok loaded
      | error error => exact CatalogReply.escape?_of_catalog loaded

theorem GroupEscape.firstEscape? {targets : List ModelVerificationTarget}
    {trace : List CatalogEvent} {exception : CatalogException}
    (h : GroupEscape targets trace exception)
    (hanswered : StartupModelVerifier.AnsweredBy catalogs trace) :
    LLMRouting.firstEscape? catalogs targets = some exception := by
  cases h with
  | @asked representative _ url reply _ endpoint escape =>
      have hreply : reply = catalogs representative.backend := hanswered _ List.mem_cons_self
      have hraised : representative.escape? catalogs = some exception := by
        rw [escape?_of_endpoint endpoint, ← hreply, escape]
      rw [LLMRouting.firstEscape?, List.findSome?_cons, hraised]

/-- A sweep breaks off with what is raised for the first backend for which something is. -/
theorem StartupModelVerifier.Sweep.breaks {groups : List (String × List ModelVerificationTarget)}
    {trace : List CatalogEvent} {results : Except CatalogException (List ModelVerificationResult)}
    (h : Sweep (groups.map Prod.snd) trace results) (hseparated : Separated groups)
    (hagreed : ∀ group ∈ groups, ∀ target ∈ group.2, target.Agreed group.2)
    (hanswered : StartupModelVerifier.AnsweredBy catalogs trace) :
    (groups.findSome? fun group => firstEscape? catalogs group.2) = raised? results := by
  induction groups generalizing trace results with
  | nil =>
      cases h
      rfl
  | cons group rest ih =>
      obtain ⟨hgroup, hrest⟩ := List.forall_mem_cons.mp hagreed
      have hbackend := (List.forall_mem_cons.mp hseparated.backend).1
      rw [List.map_cons] at h
      rw [List.findSome?_cons]
      cases h with
      | escaped escape =>
          rw [escape.firstEscape? hanswered]
          rfl
      | @settled _ _ trace later _ results settled sweep =>
          obtain ⟨hfirst, hlater⟩ := List.forall_mem_append.mp hanswered
          rw [settled.firstEscape? hbackend hgroup hfirst, ih sweep hseparated.tail hrest hlater]
          cases results with
          | ok found => rfl
          | error exception => rfl

/-- Targets that agree are searched backend by backend like one by one. -/
theorem StartupModelVerifier.Uniform.firstEscape?_groups {verifier : StartupModelVerifier}
    (h : verifier.Uniform) (role : Option String) :
    ((verifier.groups role).findSome? fun group => firstEscape? catalogs group.2) =
      firstEscape? catalogs (verifier.selected role) := by
  apply findSome?_groups
  intro target htarget other hother hsame
  have hendpoint := (h.agreed htarget other hother hsame).1
  rw [ModelVerificationTarget.escape?, ModelVerificationTarget.escape?, hendpoint, hsame]

/-- What verifying targets that agree comes to. -/
theorem Uniform.verify_answered {verifier : StartupModelVerifier} (h : verifier.Uniform)
    (role : Option String) :
    Answered catalogs (verifier.verify role) fun out =>
      (∃ exception, firstEscape? catalogs (verifier.selected role) = some exception ∧
          out = .error exception) ∨
        firstEscape? catalogs (verifier.selected role) = none ∧ ∃ results,
          out = .ok results ∧ results.Perm ((verifier.selected role).map fun target =>
            target.verdict (settledBy catalogs target)) := by
  constructor
  apply Coro.wp_of_run
  intro trace _ out hrun hanswered
  have hsweep := verify_sweeps verifier role hrun
  have hagreed : ∀ group ∈ verifier.groups role, ∀ target ∈ group.2, target.Agreed group.2 := by
    intro group hgroup target htarget other hother hsame
    exact h.agreed (mem_selected_of_mem_groups hgroup htarget) other
      (mem_selected_of_mem_groups hgroup hother) hsame
  have hbreaks := hsweep.breaks (separated_groups verifier role) hagreed hanswered
  rw [h.firstEscape?_groups] at hbreaks
  cases out with
  | error exception => exact Or.inl ⟨exception, hbreaks, rfl⟩
  | ok results => exact Or.inr ⟨hbreaks, results, rfl, h.results_perm hanswered hsweep⟩

end Lookups

/-- The same engine, which has to do without a verifier. -/
def BuiltEngine.withoutVerifier (built : BuiltEngine) : BuiltEngine :=
  { built with verifier := none }

/-- The providers as a registry lists them in which they have been enabled and disabled. -/
def BuiltEngine.flagged (built : BuiltEngine) (enabled : String → Bool) :
    List (ConfiguredProvider ℚ) :=
  built.providers.map fun config => { config with enabled := enabled config.id }

/-- The statuses of the two routers. -/
def BuiltEngine.routerStatuses (built : BuiltEngine) (catalogs : String → CatalogReply) :
    List (String × HealthStatus) :=
  [("primary_router", (built.primaryRouter.target "primary_router").status catalogs),
    ("fallback_router", (built.fallbackRouter.target "fallback_router").status catalogs)]

/-- The statuses of the providers: those that are disabled are offline. -/
def providerStatuses (listed : List (ConfiguredProvider ℚ)) (catalogs : String → CatalogReply) :
    List (String × HealthStatus) :=
  listed.map fun config =>
    (config.id, if config.enabled then config.target.status catalogs else .offline)

/-- The report has these statuses and these circuits. -/
structure HealthReport.Shows (report : HealthReport) (statuses : List (String × HealthStatus))
    (backends : Backend → CircuitSnapshot) : Prop where
  get?_iff : ∀ name status, report.statuses.get? name = some status ↔ (name, status) ∈ statuses
  backends_eq : report.backends = backends

/-- A check of these targets breaks off with what is raised for the first of them for which
something is, and else it shows these statuses. -/
def Checks (catalogs : String → CatalogReply) (targets : List ModelVerificationTarget)
    (statuses : List (String × HealthStatus)) (backends : Backend → CircuitSnapshot)
    (out : Except CatalogException HealthReport) : Prop :=
  (∃ exception, firstEscape? catalogs targets = some exception ∧ out = .error exception) ∨
    firstEscape? catalogs targets = none ∧
      ∃ report, out = .ok report ∧ report.Shows statuses backends

section Reports

variable {settings : EngineSettings} {built : BuiltEngine} {catalogs : String → CatalogReply}
  {backends : Backend → CircuitSnapshot} {listed : List (ConfiguredProvider ℚ)}
  {enabled : String → Bool}

theorem get?_ofPairs_perm {pairs statuses : List (String × HealthStatus)}
    (hperm : pairs.Perm statuses) (hnodup : (statuses.map Prod.fst).Nodup) (name : String)
    (status : HealthStatus) :
    (Dict.ofPairs pairs).get? name = some status ↔ (name, status) ∈ statuses := by
  rw [Dict.get?_ofPairs ((hperm.map Prod.fst).nodup_iff.mpr hnodup), hperm.mem_iff]

theorem selected_router :
    selected ⟨built.targets⟩ (some "router") =
      [built.primaryRouter.target "primary_router",
        built.fallbackRouter.target "fallback_router"] := by
  have hproviders : (built.providers.map ConfiguredProvider.target).filter
      (fun target => (some "router").all fun wanted => decide (target.role = wanted)) = [] := by
    rw [List.filter_eq_nil_iff]
    intro target htarget
    obtain ⟨config, -, rfl⟩ := List.mem_map.mp htarget
    simp [ConfiguredProvider.target]
  rw [selected, BuiltEngine.targets, List.filter_cons_of_pos (by rfl),
    List.filter_cons_of_pos (by rfl), hproviders]

theorem selected_provider :
    selected ⟨built.targets⟩ (some "provider") =
      built.providers.map ConfiguredProvider.target := by
  rw [selected, BuiltEngine.targets,
    List.filter_cons_of_neg (by simp [RouterBackendConfig.target]),
    List.filter_cons_of_neg (by simp [RouterBackendConfig.target]), List.filter_eq_self]
  intro target htarget
  obtain ⟨config, -, rfl⟩ := List.mem_map.mp htarget
  rfl

theorem nodup_routerStatuses : ((built.routerStatuses catalogs).map Prod.fst).Nodup := by
  show ["primary_router", "fallback_router"].Nodup
  decide

/-- What is said about a router does not depend on what it is called. -/
theorem status_target (config : RouterBackendConfig) (name : String) :
    (config.target "router").status catalogs = (config.target name).status catalogs := by
  have hsettled : settledBy catalogs (config.target "router") =
      settledBy catalogs (config.target name) := rfl
  rw [ModelVerificationTarget.status, ModelVerificationTarget.status, hsettled]
  cases settledBy catalogs (config.target name) with
  | ok catalogIds => rfl
  | error error => rfl

theorem firstEscape?_pair (first second : ModelVerificationTarget) :
    firstEscape? catalogs [first, second] =
      (first.escape? catalogs).or (second.escape? catalogs) := by
  rw [firstEscape?, List.findSome?_cons, List.findSome?_singleton]
  cases first.escape? catalogs with
  | none => rfl
  | some exception => rfl

/-- The routers' check, with the verifier. -/
theorem routerHealth_checks (h : settings.Connects built) :
    Answered catalogs (built.routerHealth backends)
      (Checks catalogs (selected ⟨built.targets⟩ (some "router"))
        (built.routerStatuses catalogs) backends) := by
  rw [BuiltEngine.routerHealth, h.verified]
  apply answered_bind
  apply answered_mono (Uniform.verify_answered h.uniform (some "router"))
  intro out hout
  rcases hout with ⟨exception, hescapes, rfl⟩ | ⟨hnone, results, rfl, hperm⟩
  · exact Or.inl ⟨exception, hescapes, rfl⟩
  · apply answered_pure
    refine Or.inr ⟨hnone, _, rfl, ?_, rfl⟩
    apply get?_ofPairs_perm
    · rw [selected_router] at hperm
      have hpairs := hperm.map fun item : ModelVerificationResult =>
        (item.name, HealthStatus.ofAvailable item.available)
      refine hpairs.trans (.of_eq ?_)
      simp only [List.map_cons, List.map_nil, (verdict_fields _ _).1]
      rfl
    · exact nodup_routerStatuses

/-- The routers' check, each asking for itself. -/
theorem routerHealth_checks_withoutVerifier :
    Answered catalogs (built.withoutVerifier.routerHealth backends)
      (Checks catalogs (selected ⟨built.targets⟩ (some "router"))
        (built.routerStatuses catalogs) backends) := by
  rw [selected_router]
  apply answered_bind
  apply answered_mono (health_answered _)
  intro out hout
  rcases hout with ⟨exception, hescape, rfl⟩ | ⟨hprimary, rfl⟩
  · have hfirst : (built.primaryRouter.target "primary_router").escape? catalogs =
        some exception := hescape
    refine Or.inl ⟨exception, ?_, rfl⟩
    rw [firstEscape?_pair, hfirst, Option.some_or]
  · have hfirst : (built.primaryRouter.target "primary_router").escape? catalogs = none := hprimary
    apply answered_bind
    apply answered_mono (health_answered _)
    intro out hout
    rcases hout with ⟨exception, hescape, rfl⟩ | ⟨hfallback, rfl⟩
    · have hsecond : (built.fallbackRouter.target "fallback_router").escape? catalogs =
          some exception := hescape
      refine Or.inl ⟨exception, ?_, rfl⟩
      rw [firstEscape?_pair, hfirst, Option.none_or, hsecond]
    · have hsecond : (built.fallbackRouter.target "fallback_router").escape? catalogs =
          none := hfallback
      apply answered_pure
      refine Or.inr ⟨?_, _, rfl, ?_, rfl⟩
      · rw [firstEscape?_pair, hfirst, Option.none_or, hsecond]
      · apply get?_ofPairs_perm
        · rw [BuiltEngine.routerStatuses, ← status_target _ "primary_router",
            ← status_target _ "fallback_router"]
          exact .refl _
        · exact nodup_routerStatuses

theorem nodup_providers (h : settings.Connects built) :
    (built.providers.map fun config => config.id).Nodup := by
  have hids := built.registry.nodup_map_id_listProviders
  rw [h.listed, List.map_map] at hids
  exact hids

theorem nodup_flagged (h : settings.Connects built) :
    ((built.flagged enabled).map fun config => config.id).Nodup := by
  rw [BuiltEngine.flagged, List.map_map]
  exact nodup_providers h

theorem nodup_providerStatuses (h : settings.Connects built) :
    ((providerStatuses (built.flagged enabled) catalogs).map Prod.fst).Nodup := by
  rw [providerStatuses, List.map_map]
  exact nodup_flagged h

/-- A provider is among the disabled exactly if its own flag is off. -/
theorem mem_disabled_iff (enabled : String → Bool) {config : ConfiguredProvider ℚ}
    (hconfig : config ∈ built.providers) :
    config.id ∈ ((built.flagged enabled).filter fun config => !config.enabled).map
        (fun config => config.id) ↔ enabled config.id = false := by
  rw [List.mem_map]
  constructor
  · intro h
    obtain ⟨other, hother, hid⟩ := h
    obtain ⟨hlisted, hdisabled⟩ := List.mem_filter.mp hother
    obtain ⟨given, -, rfl⟩ := List.mem_map.mp hlisted
    rw [← show given.id = config.id from hid]
    exact Bool.not_eq_true' _ ▸ hdisabled
  · intro hoff
    refine ⟨{ config with enabled := enabled config.id }, List.mem_filter.mpr ⟨?_, ?_⟩, rfl⟩
    · exact List.mem_map.mpr ⟨config, hconfig, rfl⟩
    · show (!enabled config.id) = true
      rw [hoff]
      rfl

theorem providerStatus_verdict {config : ConfiguredProvider ℚ} (hconfig : config ∈ built.providers)
    (outcome : Except ModelCatalogError (Finset String)) :
    (config.target.verdict outcome).providerStatus
        (((built.flagged enabled).filter fun config => !config.enabled).map
          fun config => config.id) =
      if enabled config.id then .ofAvailable (config.target.verdict outcome).available
      else .offline := by
  have hname : (config.target.verdict outcome).name = config.id := (verdict_fields _ _).1
  have hdisabled := mem_disabled_iff enabled hconfig
  rw [ModelVerificationResult.providerStatus, hname]
  cases hflag : enabled config.id with
  | true =>
      have hlisted : ¬ enabled config.id = false := by
        rw [hflag]
        exact Bool.noConfusion
      rw [if_neg (mt hdisabled.mp hlisted), if_pos rfl]
  | false => rw [if_pos (hdisabled.mpr hflag), if_neg Bool.false_ne_true]

/-- The providers' check, with the verifier: it asks for all of them. -/
theorem providerHealth_checks (h : settings.Connects built) :
    Answered catalogs (built.providerHealth (built.flagged enabled) backends)
      (Checks catalogs (built.providers.map ConfiguredProvider.target)
        (providerStatuses (built.flagged enabled) catalogs) backends) := by
  rw [BuiltEngine.providerHealth, h.verified]
  apply answered_bind
  apply answered_mono (Uniform.verify_answered h.uniform (some "provider"))
  rw [selected_provider]
  intro out hout
  rcases hout with ⟨exception, hescapes, rfl⟩ | ⟨hnone, results, rfl, hperm⟩
  · exact Or.inl ⟨exception, hescapes, rfl⟩
  · apply answered_pure
    refine Or.inr ⟨hnone, _, rfl, ?_, rfl⟩
    apply get?_ofPairs_perm _ (nodup_providerStatuses h)
    refine (hperm.map _).trans (.of_eq ?_)
    rw [providerStatuses, List.map_map, List.map_map]
    refine Eq.trans ?_ List.map_map.symm
    apply List.map_congr_left
    intro config hconfig
    exact Prod.ext (verdict_fields _ _).1 (providerStatus_verdict hconfig _)

/-- The targets of the enabled providers. -/
def enabledTargets (listed : List (ConfiguredProvider ℚ)) : List ModelVerificationTarget :=
  (listed.filter fun config => config.enabled).map ConfiguredProvider.target

theorem mem_targets_of_enabled {target : ModelVerificationTarget}
    (h : target ∈ enabledTargets (built.flagged enabled)) :
    target ∈ built.providers.map ConfiguredProvider.target := by
  obtain ⟨config, hconfig, rfl⟩ := List.mem_map.mp h
  obtain ⟨given, hgiven, rfl⟩ := List.mem_map.mp (List.mem_of_mem_filter hconfig)
  exact List.mem_map.mpr ⟨given, hgiven, rfl⟩

/-- The providers' check by the dispatcher: it asks for the enabled ones only. -/
theorem providerHealth_checks_withoutVerifier (h : settings.Connects built) :
    Answered catalogs
      (built.withoutVerifier.providerHealth (built.flagged enabled) backends)
      (Checks catalogs (enabledTargets (built.flagged enabled))
        (providerStatuses (built.flagged enabled) catalogs) backends) := by
  have huniform : Uniform ⟨enabledTargets (built.flagged enabled)⟩ := by
    intro target htarget other hother
    exact h.uniform target (List.mem_cons_of_mem _ (List.mem_cons_of_mem _
      (mem_targets_of_enabled htarget))) other (List.mem_cons_of_mem _ (List.mem_cons_of_mem _
        (mem_targets_of_enabled hother)))
  apply answered_bind
  apply answered_bind
  apply answered_mono (Uniform.verify_answered huniform none)
  rw [selected_none]
  intro out hout
  rcases hout with ⟨exception, hescapes, rfl⟩ | ⟨hnone, results, rfl, hperm⟩
  · exact Or.inl ⟨exception, hescapes, rfl⟩
  · apply answered_pure
    apply answered_pure
    refine Or.inr ⟨hnone, _, rfl, ?_, rfl⟩
    have hpairs : (results.map fun item =>
        (item.name, HealthStatus.ofAvailable item.available)).Perm
          (((built.flagged enabled).filter fun config => config.enabled).map fun config =>
            (config.id, config.target.status catalogs)) := by
      refine (hperm.map _).trans (.of_eq ?_)
      rw [enabledTargets, List.map_map, List.map_map]
      apply List.map_congr_left
      intro config _
      exact Prod.ext (verdict_fields config.target _).1 rfl
    have hids : ((((built.flagged enabled).filter fun config => config.enabled).map fun config =>
        (config.id, config.target.status catalogs)).map Prod.fst).Nodup := by
      rw [List.map_map]
      exact ((nodup_flagged h).sublist (List.filter_sublist.map _))
    apply get?_ofPairs_perm (.of_eq _) (nodup_providerStatuses h)
    rw [providerStatuses]
    apply List.map_congr_left
    intro config hconfig
    refine Prod.ext rfl ?_
    have hget := get?_ofPairs_perm hpairs hids config.id
    show Option.getD _ HealthStatus.offline = if config.enabled = true then _ else _
    by_cases henabled : config.enabled = true
    · rw [if_pos henabled, (hget (config.target.status catalogs)).mpr
        (List.mem_map.mpr ⟨config, List.mem_filter.mpr ⟨hconfig, henabled⟩, rfl⟩)]
      rfl
    · rw [if_neg henabled]
      cases hstatus : (Dict.ofPairs (results.map fun item =>
          (item.name, HealthStatus.ofAvailable item.available))).get? config.id with
      | none => rfl
      | some status =>
          obtain ⟨other, hother, heq⟩ := List.mem_map.mp ((hget status).mp hstatus)
          obtain ⟨hlisted, hon⟩ := List.mem_filter.mp hother
          have hid : other.id = config.id := congrArg Prod.fst heq
          obtain rfl : other = config :=
            List.inj_on_of_nodup_map (nodup_flagged h) hlisted hconfig hid
          exact (henabled hon).elim

theorem firstEscape?_of_healthy {targets : List ModelVerificationTarget}
    (h : ∀ target ∈ targets, target.status catalogs = .healthy) :
    firstEscape? catalogs targets = none := by
  rw [firstEscape?, List.findSome?_eq_none_iff]
  exact fun target htarget => escape?_of_healthy (h target htarget)

/-- With the verifier, startup wants every target to be healthy. -/
theorem verifyStartup_answered (h : settings.Connects built) :
    Answered catalogs (built.verifyStartup listed backends) fun out =>
      (out = .ok () ↔ ∀ target ∈ built.targets, target.status catalogs = .healthy) := by
  rw [BuiltEngine.verifyStartup, h.verified]
  apply answered_bind
  apply answered_translate
  apply answered_mono (Uniform.verify_answered h.uniform none)
  rw [selected_none]
  intro out hout
  rcases hout with ⟨exception, hescapes, rfl⟩ | ⟨-, results, rfl, hperm⟩
  · constructor
    · intro h
      cases h
    · intro hhealthy
      rw [firstEscape?_of_healthy hhealthy] at hescapes
      cases hescapes
  · have hall : (results.filter fun result => !result.available) = [] ↔
        ∀ target ∈ built.targets, target.status catalogs = .healthy := by
      rw [List.filter_eq_nil_iff]
      have hmem : (∀ result ∈ results, ¬ (!result.available) = true) ↔
          ∀ target ∈ built.targets,
            (target.verdict (settledBy catalogs target)).available = true := by
        simp only [hperm.mem_iff, List.forall_mem_map, Bool.not_eq_true', Bool.not_eq_false]
      rw [hmem]
      apply forall₂_congr
      intro target _
      rw [ModelVerificationTarget.status, HealthStatus.ofAvailable]
      cases (target.verdict (settledBy catalogs target)).available <;> decide
    show Answered catalogs (if _ then _ else _) _
    by_cases hnone : (results.filter fun result => !result.available) = []
    · rw [if_neg (not_not.mpr hnone)]
      exact answered_pure ⟨fun _ => hall.mp hnone, fun _ => rfl⟩
    · rw [if_pos hnone]
      apply answered_raise
      refine ⟨?_, fun hhealthy => (hnone (hall.mpr hhealthy)).elim⟩
      intro h
      cases h

theorem HealthReport.Shows.mem_entries {report : HealthReport}
    {statuses : List (String × HealthStatus)} (h : report.Shows statuses backends)
    {entry : String × HealthStatus} : entry ∈ report.statuses.entries ↔ entry ∈ statuses :=
  Dict.get?_eq_some_iff.symm.trans (h.get?_iff entry.1 entry.2)

theorem forall_routerStatuses : (∀ entry ∈ built.routerStatuses catalogs, entry.2 = .healthy) ↔
    (built.primaryRouter.target "primary_router").status catalogs = .healthy ∧
      (built.fallbackRouter.target "fallback_router").status catalogs = .healthy := by
  rw [BuiltEngine.routerStatuses, List.forall_mem_cons, List.forall_mem_singleton]

theorem forall_providerStatuses :
    (∀ entry ∈ providerStatuses (built.flagged enabled) catalogs, entry.2 = .healthy) ↔
      ∀ config ∈ built.providers,
        config.target.status catalogs = .healthy ∧ enabled config.id = true := by
  rw [providerStatuses, BuiltEngine.flagged, List.map_map, List.forall_mem_map]
  apply forall₂_congr
  intro config _
  show (if enabled config.id = true then config.target.status catalogs else .offline) =
    .healthy ↔ _
  by_cases henabled : enabled config.id = true
  · rw [if_pos henabled, and_iff_left henabled]
  · rw [if_neg henabled]
    exact ⟨fun h => (by cases h), fun h => (henabled h.2).elim⟩

/-- The names of the routers and the ids of the providers stay apart. -/
theorem nodup_statuses {routers providers : HealthReport}
    (hnames : ∀ config ∈ built.providers,
      config.id ≠ "primary_router" ∧ config.id ≠ "fallback_router")
    (hrouters : routers.Shows (built.routerStatuses catalogs) backends)
    (hproviders : providers.Shows (providerStatuses (built.flagged enabled) catalogs) backends) :
    ((routers.statuses.entries ++ providers.statuses.entries).map Prod.fst).Nodup := by
  rw [List.map_append, List.nodup_append']
  refine ⟨routers.statuses.nodup, providers.statuses.nodup, ?_⟩
  intro name hrouter hprovider
  obtain ⟨entry, hentry, rfl⟩ := List.mem_map.mp hrouter
  obtain ⟨other, hother, hname⟩ := List.mem_map.mp hprovider
  obtain ⟨config, hconfig, rfl⟩ := List.mem_map.mp (hproviders.mem_entries.mp hother)
  obtain ⟨given, hgiven, rfl⟩ := List.mem_map.mp hconfig
  obtain ⟨hprimary, hfallback⟩ := hnames given hgiven
  rcases List.mem_cons.mp (hrouters.mem_entries.mp hentry) with rfl | hentry
  · exact hprimary hname
  · rw [List.mem_singleton.mp hentry] at hname
    exact hfallback hname

/-- Without it, startup wants every status reported to be healthy. -/
theorem verifyStartup_answered_withoutVerifier (h : settings.Connects built)
    (hnames : ∀ config ∈ built.providers,
      config.id ≠ "primary_router" ∧ config.id ≠ "fallback_router") :
    Answered catalogs
      (built.withoutVerifier.verifyStartup (built.flagged enabled) backends) fun out =>
        (out = .ok () ↔ (∀ target ∈ built.targets, target.status catalogs = .healthy) ∧
          ∀ config ∈ built.providers, enabled config.id = true) := by
  have hrefused : ∀ {exception : CatalogException} {targets : List ModelVerificationTarget},
      targets ⊆ built.targets → firstEscape? catalogs targets = some exception →
        ((Except.error exception : Except CatalogException Unit).mapError
          StartupException.lookup = .ok () ↔
            (∀ target ∈ built.targets, target.status catalogs = .healthy) ∧
              ∀ config ∈ built.providers, enabled config.id = true) := by
    intro exception targets hsubset hescapes
    constructor
    · intro h
      cases h
    · intro hhealthy
      rw [firstEscape?_of_healthy fun target htarget =>
        hhealthy.1 target (hsubset htarget)] at hescapes
      cases hescapes
  apply answered_bind
  apply answered_translate
  apply answered_mono routerHealth_checks_withoutVerifier
  intro out hout
  rcases hout with ⟨exception, hescapes, rfl⟩ | ⟨-, routers, rfl, hrouters⟩
  · exact hrefused (fun target htarget => List.mem_of_mem_filter htarget) hescapes
  apply answered_bind
  apply answered_translate
  apply answered_mono (providerHealth_checks_withoutVerifier h)
  intro out hout
  rcases hout with ⟨exception, hescapes, rfl⟩ | ⟨-, providers, rfl, hproviders⟩
  · exact hrefused (fun target htarget => List.mem_cons_of_mem _ (List.mem_cons_of_mem _
      (mem_targets_of_enabled htarget))) hescapes
  have hentries := Dict.entries_ofPairs (nodup_statuses hnames hrouters hproviders)
  have hall : (Dict.ofPairs (routers.statuses.entries ++
      providers.statuses.entries)).entries.filter (fun entry => decide (entry.2 ≠ .healthy)) = [] ↔
        (∀ target ∈ built.targets, target.status catalogs = .healthy) ∧
          ∀ config ∈ built.providers, enabled config.id = true := by
    rw [hentries, List.filter_eq_nil_iff]
    simp only [decide_eq_true_eq, not_not, List.forall_mem_append, hrouters.mem_entries,
      hproviders.mem_entries, forall_routerStatuses, forall_providerStatuses, BuiltEngine.targets,
      List.forall_mem_cons, List.forall_mem_map, forall_and, and_assoc]
  show Answered catalogs (if _ then _ else _) _
  split_ifs with hmissing
  · apply answered_raise
    refine ⟨?_, fun hhealthy => (hmissing (hall.mpr hhealthy)).elim⟩
    intro h
    cases h
  · exact answered_pure ⟨fun _ => hall.mp (not_not.mp hmissing), fun _ => rfl⟩

/-- Answered from these catalogs, a run of the task ends like this. -/
def Settles {ε α : Type} (catalogs : String → CatalogReply)
    (task : Coro catalogInterface Unit ε α) (out : Except ε α) : Prop :=
  ∃ trace, Coro.Run (fun _ _ => True) task () trace () out ∧
    StartupModelVerifier.AnsweredBy catalogs trace

theorem Settles.sound {ε α : Type} {task : Coro catalogInterface Unit ε α} {out : Except ε α}
    {post : Except ε α → Prop} (h : Settles catalogs task out)
    (hpost : Answered catalogs task post) : post out := by
  obtain ⟨trace, hrun, hanswered⟩ := h
  exact Coro.wp_sound hpost.wp hrun hanswered

/-- Two checks report the same, or both break off. -/
inductive SameReport :
    Except CatalogException HealthReport → Except CatalogException HealthReport → Prop
  | reports {report other : HealthReport}
      (statuses : ∀ name, report.statuses.get? name = other.statuses.get? name)
      (backends : report.backends = other.backends) : SameReport (.ok report) (.ok other)
  | breaks {exception : CatalogException} : SameReport (.error exception) (.error exception)

theorem HealthReport.Shows.same {report other : HealthReport}
    {statuses : List (String × HealthStatus)} (h : report.Shows statuses backends)
    (hother : other.Shows statuses backends) : SameReport (.ok report) (.ok other) := by
  apply SameReport.reports
  · intro name
    apply Option.ext
    intro status
    exact (h.get?_iff name status).trans (hother.get?_iff name status).symm
  · exact h.backends_eq.trans hother.backends_eq.symm

theorem Checks.same {targets : List ModelVerificationTarget}
    {statuses : List (String × HealthStatus)} {out other : Except CatalogException HealthReport}
    (h : Checks catalogs targets statuses backends out)
    (hother : Checks catalogs targets statuses backends other) : SameReport out other := by
  rcases h with ⟨exception, hescapes, rfl⟩ | ⟨hnone, report, rfl, hshows⟩
  · rcases hother with ⟨exception', hescapes', rfl⟩ | ⟨hnone, -⟩
    · obtain rfl := Option.some.inj (hescapes.symm.trans hescapes')
      exact .breaks
    · cases hnone.symm.trans hescapes
  · rcases hother with ⟨exception, hescapes, -⟩ | ⟨-, report, rfl, hshows'⟩
    · cases hnone.symm.trans hescapes
    · exact hshows.same hshows'

theorem enabledTargets_of_all (hall : ∀ config ∈ built.providers, enabled config.id = true) :
    enabledTargets (built.flagged enabled) = built.providers.map ConfiguredProvider.target := by
  have hkept : (built.flagged enabled).filter (fun config => config.enabled) =
      built.flagged enabled := by
    rw [List.filter_eq_self]
    intro config hconfig
    obtain ⟨given, hgiven, rfl⟩ := List.mem_map.mp hconfig
    exact hall given hgiven
  rw [enabledTargets, hkept, BuiltEngine.flagged, List.map_map]
  rfl

/-- With a verifier and without one, health checks report the same while the catalogs stay as
they are. The routers' checks always agree; the providers' checks do where the verifier's reports
at all, and where all providers are enabled; and without a verifier the application starts
exactly if it starts with one and no provider is disabled. -/
theorem health_agrees {libraries : Libraries ℚ} (hdocumented : libraries.Documented)
    (hbuilt : settings.buildEngine libraries = .ok built) (catalogs : String → CatalogReply)
    (enabled : String → Bool) (backends : Backend → CircuitSnapshot) :
    (∀ out plain, Settles catalogs (built.routerHealth backends) out →
      Settles catalogs (built.withoutVerifier.routerHealth backends) plain →
      SameReport out plain) ∧
    (∀ out plain, Settles catalogs (built.providerHealth (built.flagged enabled) backends) out →
      Settles catalogs (built.withoutVerifier.providerHealth (built.flagged enabled) backends)
        plain →
      ((∃ report, out = .ok report) ∨ ∀ config ∈ built.providers, enabled config.id = true) →
      SameReport out plain) ∧
    ∀ out plain, (∀ config ∈ built.providers,
        config.id ≠ "primary_router" ∧ config.id ≠ "fallback_router") →
      Settles catalogs (built.verifyStartup (built.flagged enabled) backends) out →
      Settles catalogs (built.withoutVerifier.verifyStartup (built.flagged enabled) backends)
        plain →
      (plain = .ok () ↔ out = .ok () ∧ ∀ config ∈ built.providers, enabled config.id = true) := by
  have h := EngineSettings.connects_of_buildEngine hdocumented hbuilt
  refine ⟨?_, ?_, ?_⟩
  · intro out plain hout hplain
    exact (hout.sound (routerHealth_checks h)).same
      (hplain.sound routerHealth_checks_withoutVerifier)
  · intro out plain hout hplain hreports
    have hchecks := hout.sound (providerHealth_checks h)
    have hplainChecks := hplain.sound (providerHealth_checks_withoutVerifier h)
    rcases hreports with ⟨report, rfl⟩ | hall
    · rcases hchecks with ⟨exception, -, hfailed⟩ | ⟨hnone, report, hreport, hshows⟩
      · cases hfailed
      · obtain rfl := Except.ok.inj hreport
        rcases hplainChecks with ⟨exception, hescapes, -⟩ | ⟨-, other, rfl, hother⟩
        · -- the dispatcher asks for none but targets of the verifier
          have hall := List.findSome?_eq_none_iff.mp hnone
          have hsome : firstEscape? catalogs (enabledTargets (built.flagged enabled)) = none :=
            List.findSome?_eq_none_iff.mpr fun target htarget =>
              hall target (mem_targets_of_enabled htarget)
          cases hsome.symm.trans hescapes
        · exact hshows.same hother
    · rw [enabledTargets_of_all hall] at hplainChecks
      exact hchecks.same hplainChecks
  · intro out plain hnames hout hplain
    rw [hplain.sound (verifyStartup_answered_withoutVerifier h hnames),
      hout.sound (verifyStartup_answered h)]

theorem settles_stationary {ε α : Type} (catalogs : String → CatalogReply)
    (task : Coro catalogInterface Unit ε α) :
    Settles catalogs task (task.eval (stationary catalogs) () 0).2.2 :=
  ⟨_, Coro.run_eval (fun _ => trivial) _ _ _ _, answeredBy_stationary _ _ _ _⟩

end Reports

/-- A catalog with the models of the routers and of all providers. -/
def withAll : String → CatalogReply := fun _ =>
  listing ["router", "second", "general_one", "coding_one", "creative_one", "multimodal_one"]

/-- The minimal engine's startup, with one provider disabled. -/
def BuiltEngine.startupWithout (built : BuiltEngine) (disabled : String) :
    Coro catalogInterface Unit StartupException Unit :=
  built.verifyStartup (built.flagged fun id => decide (id ≠ disabled)) quietCircuits

/-- A disabled provider does not keep the engine with its verifier from starting. -/
theorem health_agrees_minimal :
    ∃ built, EngineSettings.minimalEngine.buildEngine EngineSettings.minimalLibraries = .ok built ∧
      Settles withAll (built.startupWithout "general_one") (.ok ()) ∧
      ∀ plain, Settles withAll (built.withoutVerifier.startupWithout "general_one") plain →
        plain ≠ .ok () := by
  have hfacts : (EngineSettings.minimalEngine.buildEngine
      EngineSettings.minimalLibraries).toOption.map (fun built =>
        (built.providers.map (fun config => config.id),
          ((built.startupWithout "general_one").eval (stationary withAll) () 0).2.2)) =
      some (["general_one", "coding_one", "creative_one", "multimodal_one"], .ok ()) := by
    decide +kernel
  obtain ⟨built, hbuilt, hseen⟩ := EngineSettings.exists_ok_of_map hfacts
  obtain ⟨hids, hstarts⟩ := Prod.mk.inj hseen
  have hstarted := settles_stationary withAll (built.startupWithout "general_one")
  rw [hstarts] at hstarted
  have hnames : ∀ config ∈ built.providers,
      config.id ≠ "primary_router" ∧ config.id ≠ "fallback_router" := by
    intro config hconfig
    have hid : config.id ∈ built.providers.map fun config => config.id :=
      List.mem_map_of_mem hconfig
    rw [hids] at hid
    constructor
    · intro hname
      rw [hname] at hid
      exact absurd hid (by decide)
    · intro hname
      rw [hname] at hid
      exact absurd hid (by decide)
  refine ⟨built, hbuilt, hstarted, ?_⟩
  intro plain hplain hok
  have hagrees := health_agrees (Settings.documented_plainLibraries _ _) hbuilt withAll
    (fun id => decide (id ≠ "general_one")) quietCircuits
  have hboth := (hagrees.2.2 _ plain hnames hstarted hplain).mp hok
  have hgeneral : "general_one" ∈ built.providers.map fun config => config.id := by
    rw [hids]
    exact List.mem_cons_self
  obtain ⟨config, hconfig, hid⟩ := List.mem_map.mp hgeneral
  have henabled := hboth.2 config hconfig
  rw [hid] at henabled
  cases henabled

end LLMRouting
