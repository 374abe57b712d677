/-
# Verifying models against the catalogs of their backends

`StartupModelVerifier.verify` groups its targets by backend, asks each backend for its catalog
once, on behalf of the first of its targets, and looks every configured model up in it. What
can go wrong is given back as a `ModelCatalogError`, whose reason ends up in the results of the
backend's targets; an error of the HTTP client that is neither a time-out nor one of the network
is not caught, and ends the whole verification. So does an endpoint or a key from which the
client can form no request, and a body that is nested too deep for the decoder.
-/

import LLMRouting.Data.Fallible
import LLMRouting.Data.Grouping
import LLMRouting.Interaction.RelyGuarantee
import LLMRouting.Upstream.Http

namespace LLMRouting

open LLMRouting.Interaction LLMRouting.Data

structure ModelVerificationTarget where
  name : String
  backend : String
  endpoint : String
  model : String
  apiKey : String
  timeout : ℚ
  role : String := "provider"
  deriving DecidableEq

structure ModelVerificationResult where
  name : String
  backend : String
  configuredModel : String
  available : Bool
  reason : String
  catalogModel : Option String := none
  httpStatus : Option ℕ := none
  role : String := "provider"
  deriving DecidableEq

structure ModelCatalogError where
  reason : String
  httpStatus : Option ℕ := none
  deriving DecidableEq

/-- `str.removeprefix`. -/
def removePrefix (leading text : String) : String :=
  if leading.toList.isPrefixOf text.toList then String.ofList (text.toList.drop leading.length)
  else text

def chatSuffix : String := "/chat/completions"

def modelsEndpoint (chatEndpoint : String) : Except ModelCatalogError String :=
  if chatSuffix.toList.isSuffixOf chatEndpoint.toList then
    .ok (String.ofList (chatEndpoint.toList.take (chatEndpoint.length - chatSuffix.length)) ++
      "/models")
  else .error { reason := "invalid_models_endpoint" }

def resolveCatalogModelId (backend configuredModel : String) (catalogIds : Finset String) :
    Option String :=
  if configuredModel ∈ catalogIds then some configuredModel
  else if backend = "google" then
    let googleId := "models/" ++ removePrefix "models/" configuredModel
    if googleId ∈ catalogIds then some googleId else none
  else none

/-- The id of a well-formed item of a catalog. -/
def itemId? (item : Json) : Option String :=
  match item.member? "id" with
  | some (.string id) => if id = "" then none else some id
  | _ => none

/-- The ids in a decoded body. -/
def catalogIds? (payload : Json) : Except ModelCatalogError (Finset String) :=
  match payload.member? "data" with
  | some (.array []) => .error { reason := "catalog_empty" }
  | some (.array items) =>
      match items.mapM itemId? with
      | some ids => .ok ids.toFinset
      | none => .error { reason := "malformed_catalog" }
  | _ => .error { reason := "malformed_catalog" }

/-- How a request fails without a response: with an `httpx.TimeoutException`, an
`httpx.NetworkError`, or another `httpx.HTTPError`; or with an error of another kind, where the
client can form no request from the URL and the key. -/
inductive RequestError
  | timeout
  | network
  | other
  | unformed
  deriving DecidableEq

/-- A request for a catalog, on behalf of a target. -/
structure CatalogRequest where
  target : ModelVerificationTarget
  url : String
  deriving DecidableEq

abbrev CatalogReply : Type := Except RequestError HttpResponse

abbrev catalogInterface : Interface where
  Query := CatalogRequest
  Reply _ := CatalogReply
  suspends _ := true

/-- The exceptions of a lookup: the two families it knows, what is raised where no request can be
formed (an `httpx.InvalidURL` or a `UnicodeEncodeError`), and `RecursionError`. -/
inductive CatalogException
  | catalog (error : ModelCatalogError)
  | http (error : HttpError)
  | unformed
  | recursion
  deriving DecidableEq

abbrev Lookup (α : Type) : Type := Coro catalogInterface Unit CatalogException α

abbrev CatalogEvent : Type := Event catalogInterface Unit

/-- The response after `raise_for_status`. -/
def CatalogReply.received : CatalogReply → Except CatalogException HttpResponse
  | .error .timeout => .error (.http .timeout)
  | .error .network => .error (.http .network)
  | .error .other => .error (.http .other)
  | .error .unformed => .error .unformed
  | .ok response =>
      if 200 ≤ response.status ∧ response.status < 300 then .ok response
      else .error (.http (.status response.status response.text))

/-- The handlers around the request. -/
def requestFailed : CatalogException → CatalogException
  | .http .timeout => .catalog { reason := "backend_timeout" }
  | .http .network => .catalog { reason := "backend_unreachable" }
  | .http (.status code _) =>
      .catalog { reason := "models_request_failed", httpStatus := some code }
  | error => error

/-- The request of `load_model_catalog`. -/
def requestCatalog (target : ModelVerificationTarget) : Lookup HttpResponse := do
  let url ← Coro.settle ((modelsEndpoint target.endpoint).mapError .catalog)
  let reply ← Coro.ask (I := catalogInterface) { target := target, url := url }
  Coro.settle (CatalogReply.received reply)

/-- The second half of `load_model_catalog`: the ids in the body of a successful response. Its
handlers turn a `ValueError` of the decoder into a `ModelCatalogError`. -/
def readCatalog (response : HttpResponse) : Except CatalogException (Finset String) :=
  match response.json with
  | .error .invalid => .error (.catalog { reason := "malformed_catalog" })
  | .error .tooDeep => .error .recursion
  | .ok payload => (catalogIds? payload).mapError .catalog

def loadModelCatalog (target : ModelVerificationTarget) : Lookup (Finset String) := do
  let response ← (requestCatalog target).translate requestFailed
  Coro.settle (readCatalog response)

namespace ModelVerificationTarget

/-- `_failed`. -/
def failed (target : ModelVerificationTarget) (error : ModelCatalogError) :
    ModelVerificationResult :=
  { name := target.name, backend := target.backend, configuredModel := target.model
    available := false, reason := error.reason, httpStatus := error.httpStatus,
    role := target.role }

/-- The result for a target whose backend has given its catalog. -/
def lookedUp (target : ModelVerificationTarget) (catalogIds : Finset String) :
    ModelVerificationResult :=
  let catalogModel := resolveCatalogModelId target.backend target.model catalogIds
  { name := target.name, backend := target.backend, configuredModel := target.model
    available := catalogModel.isSome
    reason := if catalogModel.isSome then "available" else "model_not_found"
    catalogModel := catalogModel, role := target.role }

/-- Whether a target is configured otherwise than the representative of its backend. -/
def differsFrom (target representative : ModelVerificationTarget) : Bool :=
  decide (target.endpoint ≠ representative.endpoint ∨ target.apiKey ≠ representative.apiKey)

end ModelVerificationTarget

def inconsistent : ModelCatalogError := { reason := "inconsistent_backend_configuration" }

structure StartupModelVerifier where
  targets : List ModelVerificationTarget

namespace StartupModelVerifier

/-- The targets of a role, or all. -/
def selected (verifier : StartupModelVerifier) (role : Option String) :
    List ModelVerificationTarget :=
  verifier.targets.filter fun target => role.all fun wanted => decide (target.role = wanted)

/-- One iteration of `verify`: the results for the targets of one backend. -/
def verifyBackend : List ModelVerificationTarget → Lookup (List ModelVerificationResult)
  | [] => pure []
  | representative :: rest =>
      if rest.any fun target => target.differsFrom representative then
        pure ((representative :: rest).map fun target => target.failed inconsistent)
      else do
        match ← (loadModelCatalog representative).attempt with
        | .ok catalogIds =>
            return (representative :: rest).map fun target => target.lookedUp catalogIds
        | .error (.catalog error) =>
            return (representative :: rest).map fun target => target.failed error
        | .error error => Coro.raise error

/-- The loop of `verify` over the backends that are left. -/
def verifyBackends : List (String × List ModelVerificationTarget) →
    List ModelVerificationResult → Lookup (List ModelVerificationResult)
  | [], results => pure results
  | (_, targets) :: rest, results => do
      let more ← verifyBackend targets
      verifyBackends rest (results ++ more)

def verify (verifier : StartupModelVerifier) (role : Option String) :
    Lookup (List ModelVerificationResult) :=
  verifyBackends (groupByKey ModelVerificationTarget.backend (verifier.selected role)).entries []

end StartupModelVerifier

/-- The reply brings a catalog: a successful response whose body is a dictionary with a non-empty
list under `data`, of dictionaries with a non-empty string under `id`. -/
def CatalogReply.Loads (reply : CatalogReply) (catalogIds : Finset String) : Prop :=
  ∃ response payload items ids, reply = .ok response ∧
    (200 ≤ response.status ∧ response.status < 300) ∧
    response.json = .ok payload ∧ payload.member? "data" = some (.array items) ∧ items ≠ [] ∧
    List.Forall₂ (fun item id => Json.member? "id" item = some (.string id) ∧ id ≠ "") items ids ∧
    catalogIds = ids.toFinset

theorem itemId?_eq_some {item : Json} {id : String} :
    itemId? item = some id ↔ item.member? "id" = some (.string id) ∧ id ≠ "" := by
  rw [itemId?]
  split
  · rename_i text htext
    rw [htext]
    by_cases hempty : text = ""
    · subst hempty
      simp only [if_true, reduceCtorEq, Option.some.injEq, Json.string.injEq, false_iff, not_and,
        not_not]
      exact fun h => h.symm
    · rw [if_neg hempty]
      simp only [Option.some.injEq, Json.string.injEq]
      exact ⟨fun h => ⟨h, h ▸ hempty⟩, fun h => h.1⟩
  · rename_i hother
    simp only [reduceCtorEq, false_iff, not_and]
    exact fun h => (hother id h).elim

/-- What `load_model_catalog` makes of a reply. -/
def CatalogReply.loaded (reply : CatalogReply) : Except CatalogException (Finset String) :=
  ((CatalogReply.received reply).mapError requestFailed).bind readCatalog

/-- What a reply raises that is not caught: an error of the client of another kind, or what is
raised without a request or by the decoder. -/
def CatalogReply.escape? : CatalogReply → Option CatalogException
  | .error .timeout | .error .network => none
  | .error .other => some (.http .other)
  | .error .unformed => some .unformed
  | .ok response =>
      match response.json with
      | .error .tooDeep =>
          if 200 ≤ response.status ∧ response.status < 300 then some .recursion else none
      | .error .invalid | .ok _ => none

theorem catalogIds?_eq_ok {payload : Json} {catalogIds : Finset String} :
    catalogIds? payload = .ok catalogIds ↔ ∃ items ids,
      payload.member? "data" = some (.array items) ∧ items ≠ [] ∧
        List.Forall₂
          (fun item id => Json.member? "id" item = some (.string id) ∧ id ≠ "") items ids ∧
        catalogIds = ids.toFinset := by
  have hitems : ∀ items ids, items.mapM itemId? = some ids ↔ List.Forall₂
      (fun item id => Json.member? "id" item = some (.string id) ∧ id ≠ "") items ids := by
    intro items ids
    rw [mapM_eq_some_iff]
    exact ⟨List.Forall₂.imp fun _ _ => itemId?_eq_some.mp,
      List.Forall₂.imp fun _ _ => itemId?_eq_some.mpr⟩
  rw [catalogIds?]
  split
  · rename_i hdata
    refine ⟨fun h => (by cases h), ?_⟩
    rintro ⟨items, ids, hmember, hne, -, -⟩
    rw [hmember] at hdata
    cases hdata
    exact (hne rfl).elim
  · rename_i items hne hdata
    cases hids : items.mapM itemId? with
    | none =>
        refine ⟨fun h => (by cases h), ?_⟩
        rintro ⟨items', ids, hmember, -, hforall, -⟩
        rw [hmember] at hdata
        cases hdata
        rw [(hitems _ _).mpr hforall] at hids
        cases hids
    | some ids =>
        refine ⟨fun h => ?_, ?_⟩
        · have hnonempty : items ≠ [] := fun hnil => hne (hnil ▸ rfl)
          exact ⟨items, ids, hdata, hnonempty, (hitems _ _).mp hids, (Except.ok.inj h).symm⟩
        · rintro ⟨items', ids', hmember, -, hforall, rfl⟩
          rw [hmember] at hdata
          cases hdata
          rw [(hitems _ _).mpr hforall] at hids
          cases hids
          rfl
  · rename_i hother
    refine ⟨fun h => (by cases h), ?_⟩
    rintro ⟨items, ids, hmember, -, -, -⟩
    rw [hmember] at hother
    exact (hother items rfl).elim

theorem readCatalog_eq_ok {response : HttpResponse} {catalogIds : Finset String} :
    readCatalog response = .ok catalogIds ↔ ∃ payload, response.json = .ok payload ∧
      catalogIds? payload = .ok catalogIds := by
  rw [readCatalog]
  cases response.json with
  | error error =>
      refine ⟨fun h => ?_, fun ⟨payload, h, _⟩ => (by cases h)⟩
      cases error <;> cases h
  | ok payload =>
      simp only
      refine ⟨fun h => ⟨payload, rfl, ?_⟩, ?_⟩
      · cases hids : catalogIds? payload with
        | error error =>
            rw [hids] at h
            cases h
        | ok ids =>
            rw [hids] at h
            exact congrArg _ (Except.ok.inj h)
      · rintro ⟨_, ⟨⟩, hids⟩
        simp only [hids]
        rfl

/-- A lookup succeeds exactly on a catalog. -/
theorem CatalogReply.loaded_eq_ok {reply : CatalogReply} {catalogIds : Finset String} :
    CatalogReply.loaded reply = .ok catalogIds ↔ CatalogReply.Loads reply catalogIds := by
  rw [CatalogReply.loaded, CatalogReply.Loads]
  cases reply with
  | error error =>
      refine ⟨fun h => ?_, ?_⟩
      · cases error <;> cases h
      · rintro ⟨response, payload, items, ids, hreply, -⟩
        cases hreply
  | ok response =>
      rw [CatalogReply.received]
      by_cases hsuccess : 200 ≤ response.status ∧ response.status < 300
      · rw [if_pos hsuccess]
        refine readCatalog_eq_ok.trans ⟨?_, ?_⟩
        · rintro ⟨payload, hjson, hids⟩
          obtain ⟨items, ids, h⟩ := catalogIds?_eq_ok.mp hids
          exact ⟨response, payload, items, ids, rfl, hsuccess, hjson, h⟩
        · rintro ⟨_, payload, items, ids, ⟨⟩, -, hjson, h⟩
          exact ⟨payload, hjson, catalogIds?_eq_ok.mpr ⟨items, ids, h⟩⟩
      · rw [if_neg hsuccess]
        refine ⟨fun h => (by cases h), ?_⟩
        rintro ⟨_, payload, items, ids, ⟨⟩, hstatus, -⟩
        exact (hsuccess hstatus).elim

theorem CatalogReply.escape?_of_catalog {reply : CatalogReply} {error : ModelCatalogError}
    (h : CatalogReply.loaded reply = .error (.catalog error)) :
    CatalogReply.escape? reply = none := by
  rw [CatalogReply.loaded] at h
  rcases reply with failure | response
  · cases failure with
    | timeout | network => rfl
    | other | unformed => cases h
  · rw [CatalogReply.received] at h
    cases hjson : response.json with
    | ok payload => simp only [CatalogReply.escape?, hjson]
    | error decodeError =>
        cases decodeError with
        | invalid => simp only [CatalogReply.escape?, hjson]
        | tooDeep =>
            by_cases hsuccess : 200 ≤ response.status ∧ response.status < 300
            · rw [if_pos hsuccess] at h
              have hread : readCatalog response = .error (.catalog error) := h
              rw [readCatalog, hjson] at hread
              cases hread
            · simp only [CatalogReply.escape?, hjson, if_neg hsuccess]

/-- A lookup that does not come to a catalog or to a `ModelCatalogError` raises what is not
caught. -/
theorem CatalogReply.loaded_of_escape? {reply : CatalogReply} {exception : CatalogException}
    (h : CatalogReply.escape? reply = some exception) :
    CatalogReply.loaded reply = .error exception ∧ ∀ error, exception ≠ .catalog error := by
  rcases reply with failure | response
  · cases failure with
    | timeout | network => cases h
    | other | unformed =>
        cases h
        exact ⟨rfl, fun error h => by cases h⟩
  · cases hjson : response.json with
    | ok payload =>
        simp only [CatalogReply.escape?, hjson] at h
        cases h
    | error decodeError =>
        cases decodeError with
        | invalid =>
            simp only [CatalogReply.escape?, hjson] at h
            cases h
        | tooDeep =>
            simp only [CatalogReply.escape?, hjson] at h
            split_ifs at h with hsuccess
            cases h
            refine ⟨?_, fun error h => by cases h⟩
            rw [CatalogReply.loaded, CatalogReply.received, if_pos hsuccess]
            show readCatalog response = _
            rw [readCatalog, hjson]

/-- What is not a `ModelCatalogError` gets through. -/
theorem CatalogReply.escape?_of_loaded {reply : CatalogReply} {exception : CatalogException}
    (h : CatalogReply.loaded reply = .error exception)
    (huncaught : ∀ error, exception ≠ .catalog error) :
    CatalogReply.escape? reply = some exception := by
  rw [CatalogReply.loaded] at h
  rcases reply with failure | response
  · cases failure with
    | timeout | network =>
        cases h
        exact absurd rfl (huncaught _)
    | other | unformed =>
        cases h
        rfl
  · rw [CatalogReply.received] at h
    by_cases hsuccess : 200 ≤ response.status ∧ response.status < 300
    · rw [if_pos hsuccess] at h
      have hread : readCatalog response = .error exception := h
      rw [readCatalog] at hread
      cases hjson : response.json with
      | ok payload =>
          simp only [hjson] at hread
          cases hids : catalogIds? payload with
          | ok ids =>
              rw [hids] at hread
              cases hread
          | error error =>
              rw [hids] at hread
              cases hread
              exact absurd rfl (huncaught _)
      | error decodeError =>
          cases decodeError with
          | invalid =>
              simp only [hjson] at hread
              cases hread
              exact absurd rfl (huncaught _)
          | tooDeep =>
              simp only [hjson] at hread
              cases hread
              simp only [CatalogReply.escape?, hjson, if_pos hsuccess]
    · rw [if_neg hsuccess] at h
      cases h
      exact absurd rfl (huncaught _)

theorem CatalogReply.escape?_of_ok {reply : CatalogReply} {catalogIds : Finset String}
    (h : CatalogReply.loaded reply = .ok catalogIds) : CatalogReply.escape? reply = none := by
  cases hescape : CatalogReply.escape? reply with
  | none => rfl
  | some exception =>
      rw [(CatalogReply.loaded_of_escape? hescape).1] at h
      cases h

/-- The result for a target, by what its backend's lookup came to. -/
def ModelVerificationTarget.verdict (outcome : Except ModelCatalogError (Finset String))
    (target : ModelVerificationTarget) : ModelVerificationResult :=
  match outcome with
  | .ok catalogIds => target.lookedUp catalogIds
  | .error error => target.failed error

/-- The targets are configured like their representative. -/
def AgreeWith (representative : ModelVerificationTarget) (targets : List ModelVerificationTarget) :
    Prop :=
  ∀ target ∈ targets, target.endpoint = representative.endpoint ∧
    target.apiKey = representative.apiKey

/-- What the lookup for the targets of one backend asks, and what it comes to. -/
inductive GroupOutcome : List ModelVerificationTarget → List CatalogEvent →
    Except ModelCatalogError (Finset String) → Prop
  | differing {representative : ModelVerificationTarget} {rest : List ModelVerificationTarget}
      (differ : ¬ AgreeWith representative rest) :
      GroupOutcome (representative :: rest) [] (.error inconsistent)
  | unaddressed {representative : ModelVerificationTarget} {rest : List ModelVerificationTarget}
      {error : ModelCatalogError} (agree : AgreeWith representative rest)
      (endpoint : modelsEndpoint representative.endpoint = .error error) :
      GroupOutcome (representative :: rest) [] (.error error)
  | asked {representative : ModelVerificationTarget} {rest : List ModelVerificationTarget}
      {url : String} {reply : CatalogReply} {outcome : Except ModelCatalogError (Finset String)}
      (agree : AgreeWith representative rest)
      (endpoint : modelsEndpoint representative.endpoint = .ok url)
      (loaded : CatalogReply.loaded reply = outcome.mapError .catalog) :
      GroupOutcome (representative :: rest) [⟨⟨representative, url⟩, (), reply⟩] outcome

/-- The lookup for the targets of one backend raises an exception that is not caught. -/
inductive GroupEscape : List ModelVerificationTarget → List CatalogEvent →
    CatalogException → Prop
  | asked {representative : ModelVerificationTarget} {rest : List ModelVerificationTarget}
      {url : String} {reply : CatalogReply} {exception : CatalogException}
      (endpoint : modelsEndpoint representative.endpoint = .ok url)
      (escape : CatalogReply.escape? reply = some exception) :
      GroupEscape (representative :: rest) [⟨⟨representative, url⟩, (), reply⟩] exception

namespace StartupModelVerifier

variable {rely : Unit → Unit → Prop}

theorem any_differsFrom {representative : ModelVerificationTarget}
    {targets : List ModelVerificationTarget} :
    (targets.any fun target => target.differsFrom representative) = false ↔
      AgreeWith representative targets := by
  rw [List.any_eq_false, AgreeWith]
  apply forall_congr'
  intro target
  apply imp_congr_right
  intro _
  rw [ModelVerificationTarget.differsFrom, decide_eq_true_eq, not_or, not_not, not_not]

/-- The request, where the endpoint allows one. -/
theorem requestCatalog_asks (target : ModelVerificationTarget) :
    (requestCatalog target).wp (Contract.relying rely) (fun trace _ out =>
      (∃ error, modelsEndpoint target.endpoint = .error error ∧ trace = [] ∧
        out = .error (.catalog error)) ∨
      ∃ url reply, modelsEndpoint target.endpoint = .ok url ∧
        trace = [⟨⟨target, url⟩, (), reply⟩] ∧
        out = CatalogReply.received reply) () := by
  rw [requestCatalog]
  rw [Coro.wp_bind, Coro.wp_settle]
  cases hendpoint : modelsEndpoint target.endpoint with
  | error error => exact .inl ⟨error, rfl, rfl, rfl⟩
  | ok url =>
      show Coro.wp _ (Coro.ask _ >>= _) _ _
      rw [Coro.wp_bind, Coro.wp_ask]
      refine ⟨fun _ => trivial, ?_⟩
      intro reply _ _
      apply Coro.wp_settle.mpr
      exact .inr ⟨url, reply, rfl, rfl, rfl⟩

/-- What `load_model_catalog` asks, and what it comes to. -/
theorem loadModelCatalog_asks (target : ModelVerificationTarget) :
    (loadModelCatalog target).wp (Contract.relying rely) (fun trace _ out =>
      (∃ error, modelsEndpoint target.endpoint = .error error ∧ trace = [] ∧
        out = .error (.catalog error)) ∨
      ∃ url reply, modelsEndpoint target.endpoint = .ok url ∧
        trace = [⟨⟨target, url⟩, (), reply⟩] ∧ out = CatalogReply.loaded reply) () := by
  rw [loadModelCatalog]
  rw [Coro.wp_bind, Coro.wp_translate]
  apply Coro.wp_mono (requestCatalog_asks target)
  rintro trace _ out (⟨error, hendpoint, rfl, rfl⟩ | ⟨url, reply, hendpoint, rfl, rfl⟩)
  · exact .inl ⟨error, hendpoint, rfl, rfl⟩
  · cases hreceived : CatalogReply.received reply with
    | error error =>
        refine .inr ⟨url, reply, hendpoint, rfl, ?_⟩
        rw [CatalogReply.loaded, hreceived]
        rfl
    | ok response =>
        apply Coro.wp_settle.mpr
        refine .inr ⟨url, reply, hendpoint, rfl, ?_⟩
        rw [CatalogReply.loaded, hreceived]
        rfl

/-- One backend: all of its targets get a result, or an exception gets through. -/
theorem verifyBackend_concludes (targets : List ModelVerificationTarget) (hne : targets ≠ []) :
    (verifyBackend targets).wp (Contract.relying rely) (fun trace _ out =>
      (∃ outcome, GroupOutcome targets trace outcome ∧
        out = .ok (targets.map fun target => target.verdict outcome)) ∨
      ∃ exception, GroupEscape targets trace exception ∧ out = .error exception) () := by
  cases targets with
  | nil => exact (hne rfl).elim
  | cons representative rest =>
      rw [verifyBackend]
      cases hdiffer : rest.any fun target => target.differsFrom representative with
      | true =>
          have hdiffering : ¬ AgreeWith representative rest := by
            rw [← any_differsFrom, hdiffer]
            decide
          exact .inl ⟨_, .differing hdiffering, rfl⟩
      | false =>
          have hagree := any_differsFrom.mp hdiffer
          simp only [Bool.false_eq_true, if_false]
          rw [Coro.wp_bind, Coro.wp_attempt]
          apply Coro.wp_mono (loadModelCatalog_asks representative)
          rintro trace _ out (⟨error, hendpoint, rfl, rfl⟩ | ⟨url, reply, hendpoint, rfl, rfl⟩)
          · exact .inl ⟨_, .unaddressed hagree hendpoint, rfl⟩
          · cases hloaded : CatalogReply.loaded reply with
            | ok catalogIds => exact .inl ⟨.ok catalogIds, .asked hagree hendpoint hloaded, rfl⟩
            | error error =>
                cases error with
                | catalog error => exact .inl ⟨.error error, .asked hagree hendpoint hloaded, rfl⟩
                | http | unformed | recursion =>
                    have hescape := CatalogReply.escape?_of_loaded hloaded fun error h => by cases h
                    exact .inr ⟨_, .asked hendpoint hescape, rfl⟩

/-- What the loop over the backends asks, and the results it adds, or what gets through. -/
inductive Sweep : List (List ModelVerificationTarget) → List CatalogEvent →
    Except CatalogException (List ModelVerificationResult) → Prop
  | done : Sweep [] [] (.ok [])
  | escaped {targets : List ModelVerificationTarget} {rest : List (List ModelVerificationTarget)}
      {trace : List CatalogEvent} {exception : CatalogException}
      (escape : GroupEscape targets trace exception) :
      Sweep (targets :: rest) trace (.error exception)
  | settled {targets : List ModelVerificationTarget} {rest : List (List ModelVerificationTarget)}
      {trace later : List CatalogEvent} {outcome : Except ModelCatalogError (Finset String)}
      {results : Except CatalogException (List ModelVerificationResult)}
      (settled : GroupOutcome targets trace outcome)
      (sweep : Sweep rest later results) :
      Sweep (targets :: rest) (trace ++ later)
        (results.map fun results => (targets.map fun target => target.verdict outcome) ++ results)

theorem verifyBackends_sweeps (groups : List (String × List ModelVerificationTarget))
    (hne : ∀ group ∈ groups, group.2 ≠ []) (results : List ModelVerificationResult) :
    (verifyBackends groups results).wp (Contract.relying rely) (fun trace _ out =>
      ∃ more, Sweep (groups.map Prod.snd) trace more ∧
        out = more.map fun more => results ++ more) () := by
  induction groups generalizing results with
  | nil => exact ⟨.ok [], .done, congrArg _ (List.append_nil results).symm⟩
  | cons group rest ih =>
      obtain ⟨hgroup, hrest⟩ := List.forall_mem_cons.mp hne
      rw [verifyBackends, Coro.wp_bind]
      apply Coro.wp_mono (verifyBackend_concludes group.2 hgroup)
      rintro trace _ out (⟨outcome, houtcome, rfl⟩ | ⟨exception, hescape, rfl⟩)
      · apply Coro.wp_mono (ih hrest _)
        rintro later _ out ⟨more, hsweep, rfl⟩
        refine ⟨_, .settled houtcome hsweep, ?_⟩
        cases more with
        | error exception => rfl
        | ok more => exact congrArg _ (List.append_assoc _ _ _)
      · exact ⟨.error exception, .escaped hescape, rfl⟩

/-- The backends of the targets a call verifies. -/
def groups (verifier : StartupModelVerifier) (role : Option String) :
    List (String × List ModelVerificationTarget) :=
  (groupByKey ModelVerificationTarget.backend (verifier.selected role)).entries

theorem verify_sweeps (verifier : StartupModelVerifier) (role : Option String) {m m' : Unit}
    {trace : List CatalogEvent} {out : Except CatalogException (List ModelVerificationResult)}
    (hrun : Coro.Run rely (verifier.verify role) m trace m' out) :
    Sweep ((verifier.groups role).map Prod.snd) trace out := by
  obtain ⟨results, hsweep, rfl⟩ := Coro.wp_sound
    (verifyBackends_sweeps (verifier.groups role) (fun group hgroup =>
      (eq_withKey_of_mem hgroup).2) []) hrun
  cases results with
  | error exception => exact hsweep
  | ok results => exact hsweep

end StartupModelVerifier

/-- The backend a catalog is asked of. -/
def CatalogEvent.backend (event : CatalogEvent) : String := event.query.target.backend

/-- The reply raises what is not caught. -/
def CatalogEvent.Escapes (event : CatalogEvent) : Prop :=
  CatalogReply.escape? event.reply ≠ none

instance : DecidablePred CatalogEvent.Escapes :=
  fun _ => inferInstanceAs (Decidable (_ ≠ none))

/-- All targets of the target's backend have its endpoint and its key. -/
def ModelVerificationTarget.Agreed (target : ModelVerificationTarget)
    (targets : List ModelVerificationTarget) : Prop :=
  ∀ other ∈ targets, other.backend = target.backend →
    other.endpoint = target.endpoint ∧ other.apiKey = target.apiKey

/-- The reply brings a catalog in which the target's model is found. -/
def ModelVerificationTarget.FoundIn (target : ModelVerificationTarget) (reply : CatalogReply) :
    Prop :=
  ∃ catalogIds, CatalogReply.Loads reply catalogIds ∧
    (resolveCatalogModelId target.backend target.model catalogIds).isSome

section Group

variable {targets : List ModelVerificationTarget} {trace : List CatalogEvent} {backend : String}
  {outcome : Except ModelCatalogError (Finset String)} {target : ModelVerificationTarget}
  {exception : CatalogException}

theorem GroupOutcome.backends (h : GroupOutcome targets trace outcome)
    (hbackend : ∀ target ∈ targets, target.backend = backend) :
    (trace.map CatalogEvent.backend).Sublist [backend] := by
  cases h with
  | differing | unaddressed => exact List.nil_sublist _
  | asked agree endpoint loaded =>
      rw [List.map_singleton, CatalogEvent.backend, hbackend _ List.mem_cons_self]

theorem GroupEscape.backends (h : GroupEscape targets trace exception)
    (hbackend : ∀ target ∈ targets, target.backend = backend) :
    (trace.map CatalogEvent.backend).Sublist [backend] := by
  cases h with
  | asked endpoint escape =>
      rw [List.map_singleton, CatalogEvent.backend, hbackend _ List.mem_cons_self]

/-- Nothing gets through a lookup that comes to something. -/
theorem GroupOutcome.not_escapes (h : GroupOutcome targets trace outcome) :
    ∀ event ∈ trace, ¬ CatalogEvent.Escapes event := by
  cases h with
  | differing | unaddressed => exact List.forall_mem_nil _
  | @asked _ _ _ reply _ agree endpoint loaded =>
      intro event hevent
      rw [List.mem_singleton.mp hevent, CatalogEvent.Escapes, not_not]
      cases outcome with
      | ok catalogIds => exact CatalogReply.escape?_of_ok loaded
      | error error => exact CatalogReply.escape?_of_catalog loaded

theorem GroupEscape.exists_escapes (h : GroupEscape targets trace exception) :
    ∃ event ∈ trace, CatalogEvent.Escapes event := by
  cases h with
  | asked endpoint escape =>
      refine ⟨_, List.mem_cons_self, ?_⟩
      rw [CatalogEvent.Escapes, escape]
      exact Option.some_ne_none exception

theorem agreeWith_of_agreed {representative : ModelVerificationTarget}
    {rest : List ModelVerificationTarget} (htarget : target ∈ representative :: rest)
    (hbackend : ∀ other ∈ representative :: rest, other.backend = backend)
    (h : target.Agreed (representative :: rest)) : AgreeWith representative rest := by
  have hsame : ∀ other ∈ representative :: rest,
      other.endpoint = target.endpoint ∧ other.apiKey = target.apiKey := by
    intro other hother
    exact h other hother ((hbackend other hother).trans (hbackend target htarget).symm)
  have hrepresentative := hsame representative List.mem_cons_self
  intro other hother
  have hother' := hsame other (List.mem_cons_of_mem _ hother)
  exact ⟨hother'.1.trans hrepresentative.1.symm, hother'.2.trans hrepresentative.2.symm⟩

theorem agreed_of_agreeWith {representative : ModelVerificationTarget}
    {rest : List ModelVerificationTarget} (htarget : target ∈ representative :: rest)
    (h : AgreeWith representative rest) : target.Agreed (representative :: rest) := by
  have hsame : ∀ other ∈ representative :: rest,
      other.endpoint = representative.endpoint ∧ other.apiKey = representative.apiKey := by
    intro other hother
    rcases List.mem_cons.mp hother with rfl | hother
    · exact ⟨rfl, rfl⟩
    · exact h other hother
  intro other hother _
  have htarget' := hsame target htarget
  have hother' := hsame other hother
  exact ⟨hother'.1.trans htarget'.1.symm, hother'.2.trans htarget'.2.symm⟩

/-- A target is available if its backend's targets agree and its model is in the catalog that
was loaded. -/
theorem GroupOutcome.available_iff (h : GroupOutcome targets trace outcome)
    (htarget : target ∈ targets) (hbackend : ∀ other ∈ targets, other.backend = backend) :
    (target.verdict outcome).available = true ↔
      target.Agreed targets ∧ ∃ event ∈ trace, target.FoundIn event.reply := by
  cases h with
  | differing differ =>
      refine ⟨fun h => (by cases h), ?_⟩
      rintro ⟨hagreed, -⟩
      exact (differ (agreeWith_of_agreed htarget hbackend hagreed)).elim
  | unaddressed agree endpoint =>
      refine ⟨fun h => (by cases h), ?_⟩
      rintro ⟨-, event, hevent, -⟩
      cases hevent
  | @asked _ _ _ reply _ agree endpoint loaded =>
      have hagreed := agreed_of_agreeWith htarget agree
      cases outcome with
      | error error =>
          refine ⟨fun h => (by cases h), ?_⟩
          rintro ⟨-, event, hevent, catalogIds, hloads, -⟩
          rw [List.mem_singleton.mp hevent] at hloads
          rw [CatalogReply.loaded_eq_ok.mpr hloads] at loaded
          cases loaded
      | ok catalogIds =>
          refine ⟨fun h => ?_, ?_⟩
          · exact ⟨hagreed, _, List.mem_cons_self, catalogIds,
              CatalogReply.loaded_eq_ok.mp loaded, h⟩
          · rintro ⟨-, event, hevent, catalogIds', hloads, hfound⟩
            rw [List.mem_singleton.mp hevent] at hloads
            rw [CatalogReply.loaded_eq_ok.mpr hloads] at loaded
            cases loaded
            exact hfound

end Group

namespace StartupModelVerifier

/-- Groups under distinct backends, each of targets of its backend. -/
structure Separated (groups : List (String × List ModelVerificationTarget)) : Prop where
  nodup : (groups.map Prod.fst).Nodup
  backend : ∀ group ∈ groups, ∀ target ∈ group.2, target.backend = group.1

theorem separated_groups (verifier : StartupModelVerifier) (role : Option String) :
    Separated (verifier.groups role) where
  nodup := (groupByKey ModelVerificationTarget.backend (verifier.selected role)).nodup
  backend := by
    intro group hgroup target htarget
    rw [(eq_withKey_of_mem hgroup).1] at htarget
    exact (mem_withKey.mp htarget).2

theorem Separated.tail {group : String × List ModelVerificationTarget}
    {groups : List (String × List ModelVerificationTarget)} (h : Separated (group :: groups)) :
    Separated groups where
  nodup := (List.nodup_cons.mp h.nodup).2
  backend := (List.forall_mem_cons.mp h.backend).2

section Sweep

variable {groups : List (String × List ModelVerificationTarget)} {trace : List CatalogEvent}
  {results : Except CatalogException (List ModelVerificationResult)}

/-- Every backend is asked at most once, in the order of the groups. -/
theorem Sweep.backends (h : Sweep (groups.map Prod.snd) trace results)
    (hseparated : Separated groups) :
    (trace.map CatalogEvent.backend).Sublist (groups.map Prod.fst) := by
  induction groups generalizing trace results with
  | nil =>
      cases h
      exact .refl _
  | cons group rest ih =>
      have hgroup := (List.forall_mem_cons.mp hseparated.backend).1
      rw [List.map_cons] at h ⊢
      cases h with
      | escaped escape =>
          exact (escape.backends hgroup).trans (List.singleton_sublist.mpr List.mem_cons_self)
      | settled settled sweep =>
          rw [List.map_append]
          exact (settled.backends hgroup).append (ih sweep hseparated.tail)

/-- The sweep ends without results exactly if a reply raises what is not caught. -/
theorem Sweep.isOk_iff (h : Sweep (groups.map Prod.snd) trace results) :
    (∃ found, results = .ok found) ↔ ∀ event ∈ trace, ¬ CatalogEvent.Escapes event := by
  induction groups generalizing trace results with
  | nil =>
      cases h
      exact ⟨fun _ => List.forall_mem_nil _, fun _ => ⟨[], rfl⟩⟩
  | cons group rest ih =>
      rw [List.map_cons] at h
      cases h with
      | escaped escape =>
          obtain ⟨event, hevent, hescapes⟩ := escape.exists_escapes
          exact ⟨fun ⟨found, h⟩ => (by cases h), fun h => (h event hevent hescapes).elim⟩
      | @settled _ _ _ later _ results settled sweep =>
          rw [List.forall_mem_append, and_iff_right settled.not_escapes, ← ih sweep]
          cases results with
          | error exception =>
              exact ⟨fun ⟨found, h⟩ => (by cases h), fun ⟨found, h⟩ => (by cases h)⟩
          | ok found => exact ⟨fun _ => ⟨found, rfl⟩, fun _ => ⟨_, rfl⟩⟩

/-- The results, by what the lookup of each backend came to. -/
theorem Sweep.outcomes {results : List ModelVerificationResult}
    (h : Sweep (groups.map Prod.snd) trace (.ok results)) (hseparated : Separated groups) :
    ∃ outcomes : String → Except ModelCatalogError (Finset String),
      results = (groups.flatMap Prod.snd).map (fun target =>
        target.verdict (outcomes target.backend)) ∧
      ∀ group ∈ groups, GroupOutcome group.2 (withKey CatalogEvent.backend trace group.1)
        (outcomes group.1) := by
  generalize hresults : Except.ok results = found at h
  induction groups generalizing trace results found with
  | nil =>
      cases h
      cases hresults
      exact ⟨fun _ => .error inconsistent, rfl, List.forall_mem_nil _⟩
  | cons group rest ih =>
      obtain ⟨hgroup, -⟩ := List.forall_mem_cons.mp hseparated.backend
      obtain ⟨hnew, -⟩ := List.nodup_cons.mp hseparated.nodup
      rw [List.map_cons] at h
      cases h with
      | escaped escape => cases hresults
      | @settled _ _ trace later outcome more settled sweep =>
          obtain ⟨others, rfl, rfl⟩ : ∃ others, more = .ok others ∧
              results = (group.2.map fun target => target.verdict outcome) ++ others := by
            cases more with
            | error exception => cases hresults
            | ok others => exact ⟨others, rfl, Except.ok.inj hresults⟩
          obtain ⟨outcomes, rfl, houtcomes⟩ := ih hseparated.tail (.ok others) rfl sweep
          have hown : ∀ event ∈ trace, CatalogEvent.backend event = group.1 := by
            intro event hevent
            have hmem := (settled.backends hgroup).subset (List.mem_map_of_mem hevent)
            exact List.mem_singleton.mp hmem
          have hlater : ∀ event ∈ later, CatalogEvent.backend event ≠ group.1 := by
            intro event hevent hsame
            have hmem := (sweep.backends hseparated.tail).subset (List.mem_map_of_mem hevent)
            exact hnew (hsame ▸ hmem)
          refine ⟨Function.update outcomes group.1 outcome, ?_, ?_⟩
          · rw [List.flatMap_cons, List.map_append]
            congr 1
            · apply List.map_congr_left
              intro target htarget
              rw [hgroup target htarget, Function.update_self]
            · apply List.map_congr_left
              intro target htarget
              obtain ⟨other, hother, hmem⟩ := List.mem_flatMap.mp htarget
              have hbackend := hseparated.tail.backend other hother target hmem
              rw [hbackend, Function.update_of_ne]
              intro hsame
              exact hnew (hsame ▸ List.mem_map_of_mem hother)
          · intro other hother
            rcases List.mem_cons.mp hother with rfl | hother
            · have hkept : withKey CatalogEvent.backend (trace ++ later) other.1 = trace := by
                rw [withKey, List.filter_append, List.filter_eq_self.mpr,
                  List.filter_eq_nil_iff.mpr, List.append_nil]
                · exact fun event hevent => by simpa using hlater event hevent
                · exact fun event hevent => decide_eq_true (hown event hevent)
              rw [hkept, Function.update_self]
              exact settled
            · have hne : other.1 ≠ group.1 := fun hsame => hnew (hsame ▸ List.mem_map_of_mem hother)
              have hkept : withKey CatalogEvent.backend (trace ++ later) other.1 =
                  withKey CatalogEvent.backend later other.1 := by
                rw [withKey, List.filter_append, List.filter_eq_nil_iff.mpr,
                  List.nil_append, withKey]
                intro event hevent
                rw [hown event hevent]
                simpa using Ne.symm hne
              rw [hkept, Function.update_of_ne hne]
              exact houtcomes other hother

end Sweep

/-- The lookups of a call that returns, seen from its targets. -/
theorem outcomes_of_verify {verifier : StartupModelVerifier} {role : Option String}
    {trace : List CatalogEvent} {results : List ModelVerificationResult}
    (h : Sweep ((verifier.groups role).map Prod.snd) trace (.ok results)) :
    ∃ outcomes : String → Except ModelCatalogError (Finset String),
      results.Perm ((verifier.selected role).map fun target =>
        target.verdict (outcomes target.backend)) ∧
      ∀ target ∈ verifier.selected role,
        GroupOutcome (withKey ModelVerificationTarget.backend (verifier.selected role)
          target.backend)
          (withKey CatalogEvent.backend trace target.backend) (outcomes target.backend) := by
  obtain ⟨outcomes, rfl, houtcomes⟩ := h.outcomes (separated_groups verifier role)
  refine ⟨outcomes, (flatMap_groups_perm _).map _, fun target htarget => ?_⟩
  obtain ⟨entry, hentry, hkey⟩ := List.mem_map.mp
    (key_mem_keys ModelVerificationTarget.backend htarget)
  have hgroup := houtcomes entry hentry
  rwa [(eq_withKey_of_mem hentry).1, hkey] at hgroup

/-- What a call promises that verifies these targets: one result for each, which says that the
target is available exactly if its backend's targets agree on endpoint and key and its model is
in the catalog its backend has given; and one request for each backend at most. -/
structure Verifies (targets : List ModelVerificationTarget) (trace : List CatalogEvent)
    (results : List ModelVerificationResult) : Prop where
  onePerTarget : ∃ verdict : ModelVerificationTarget → ModelVerificationResult,
    results.Perm (targets.map verdict) ∧ ∀ target ∈ targets,
      (verdict target).name = target.name ∧ (verdict target).backend = target.backend ∧
        (verdict target).configuredModel = target.model ∧ (verdict target).role = target.role ∧
        ((verdict target).available = true ↔ target.Agreed targets ∧
          ∃ event ∈ trace, CatalogEvent.backend event = target.backend ∧
            target.FoundIn event.reply)
  oncePerBackend : (trace.map CatalogEvent.backend).Nodup

/-- The two calls return, and the second gives the results of the first for its role. -/
def Restricts (role : String)
    (allOut out : Except CatalogException (List ModelVerificationResult)) : Prop :=
  ∃ all results, allOut = .ok all ∧ out = .ok results ∧
    results.Perm (all.filter fun result => decide (result.role = role))

/-- The targets of each backend agree on endpoint and key. -/
def Uniform (verifier : StartupModelVerifier) : Prop :=
  ∀ target ∈ verifier.targets, target.Agreed verifier.targets

instance (verifier : StartupModelVerifier) : Decidable verifier.Uniform :=
  inferInstanceAs (Decidable (∀ target ∈ verifier.targets, ∀ other ∈ verifier.targets,
    other.backend = target.backend →
      other.endpoint = target.endpoint ∧ other.apiKey = target.apiKey))

/-- Every request of a run is answered as its backend's catalog is. -/
def AnsweredBy (catalogs : String → CatalogReply) (trace : List CatalogEvent) : Prop :=
  ∀ event ∈ trace, event.reply = catalogs (CatalogEvent.backend event)

theorem verdict_fields (target : ModelVerificationTarget)
    (outcome : Except ModelCatalogError (Finset String)) :
    (target.verdict outcome).name = target.name ∧
      (target.verdict outcome).backend = target.backend ∧
      (target.verdict outcome).configuredModel = target.model ∧
      (target.verdict outcome).role = target.role := by
  cases outcome <;> exact ⟨rfl, rfl, rfl, rfl⟩

theorem agreed_withKey {targets : List ModelVerificationTarget} {target : ModelVerificationTarget} :
    target.Agreed (withKey ModelVerificationTarget.backend targets target.backend) ↔
      target.Agreed targets := by
  refine ⟨fun h other hother hsame => ?_, fun h other hother hsame => ?_⟩
  · exact h other (mem_withKey.mpr ⟨hother, hsame⟩) hsame
  · exact h other (mem_withKey.mp hother).1 hsame

/-- A call that returns keeps its promise. -/
theorem verifies_of_sweep {verifier : StartupModelVerifier} {role : Option String}
    {trace : List CatalogEvent} {results : List ModelVerificationResult}
    (h : Sweep ((verifier.groups role).map Prod.snd) trace (.ok results)) :
    Verifies (verifier.selected role) trace results where
  onePerTarget := by
    obtain ⟨outcomes, hperm, houtcomes⟩ := outcomes_of_verify h
    refine ⟨_, hperm, fun target htarget => ?_⟩
    have hfields := verdict_fields target (outcomes target.backend)
    refine ⟨hfields.1, hfields.2.1, hfields.2.2.1, hfields.2.2.2, ?_⟩
    have hbackend : ∀ other ∈ withKey ModelVerificationTarget.backend (verifier.selected role)
        target.backend, other.backend = target.backend :=
      fun other hother => (mem_withKey.mp hother).2
    rw [(houtcomes target htarget).available_iff (mem_withKey.mpr ⟨htarget, rfl⟩) hbackend,
      agreed_withKey]
    simp only [mem_withKey, and_assoc]
  oncePerBackend := by
    have hseparated := separated_groups verifier role
    exact hseparated.nodup.sublist (h.backends hseparated)

/-- What the lookup for a target comes to, where its backend's targets agree. -/
def settledBy (catalogs : String → CatalogReply) (target : ModelVerificationTarget) :
    Except ModelCatalogError (Finset String) :=
  match modelsEndpoint target.endpoint, CatalogReply.loaded (catalogs target.backend) with
  | .error error, _ => .error error
  | .ok _, .ok catalogIds => .ok catalogIds
  | .ok _, .error (.catalog error) => .error error
  | .ok _, .error .unformed | .ok _, .error .recursion | .ok _, .error (.http _) =>
      .error inconsistent

theorem outcome_eq_settledBy {targets : List ModelVerificationTarget}
    {trace : List CatalogEvent} {outcome : Except ModelCatalogError (Finset String)}
    {catalogs : String → CatalogReply} {target : ModelVerificationTarget}
    (h : GroupOutcome targets trace outcome) (htarget : target ∈ targets)
    (hbackend : ∀ other ∈ targets, other.backend = target.backend)
    (hagreed : target.Agreed targets) (hanswered : AnsweredBy catalogs trace) :
    outcome = settledBy catalogs target := by
  cases h with
  | differing differ =>
      exact (differ (agreeWith_of_agreed htarget hbackend hagreed)).elim
  | @unaddressed representative _ error agree endpoint =>
      have hendpoint := (hagreed representative List.mem_cons_self
        (hbackend _ List.mem_cons_self)).1
      rw [settledBy, ← hendpoint, endpoint]
  | @asked representative _ url reply _ agree endpoint loaded =>
      have hsame := hbackend representative List.mem_cons_self
      have hendpoint := (hagreed representative List.mem_cons_self hsame).1
      have hreply : reply = catalogs representative.backend := hanswered _ List.mem_cons_self
      rw [hsame] at hreply
      rw [settledBy, ← hendpoint, endpoint, ← hreply, loaded]
      cases outcome with
      | ok catalogIds => rfl
      | error error => rfl

theorem mem_selected {verifier : StartupModelVerifier} {role : String}
    {target : ModelVerificationTarget} :
    target ∈ verifier.selected (some role) ↔ target ∈ verifier.targets ∧ target.role = role := by
  rw [selected, List.mem_filter, Option.all_some, decide_eq_true_eq]

theorem selected_none {verifier : StartupModelVerifier} :
    verifier.selected none = verifier.targets :=
  List.filter_eq_self.mpr fun _ _ => rfl

theorem Uniform.agreed {verifier : StartupModelVerifier} (h : verifier.Uniform)
    {role : Option String} {target : ModelVerificationTarget}
    (htarget : target ∈ verifier.selected role) : target.Agreed (verifier.selected role) := by
  intro other hother hsame
  exact h target (List.mem_of_mem_filter htarget) other (List.mem_of_mem_filter hother) hsame

/-- The results of a call among targets that agree. -/
theorem Uniform.results_perm {verifier : StartupModelVerifier} (h : verifier.Uniform)
    {role : Option String} {trace : List CatalogEvent} {results : List ModelVerificationResult}
    {catalogs : String → CatalogReply} (hanswered : AnsweredBy catalogs trace)
    (hsweep : Sweep ((verifier.groups role).map Prod.snd) trace (.ok results)) :
    results.Perm ((verifier.selected role).map fun target =>
      target.verdict (settledBy catalogs target)) := by
  obtain ⟨outcomes, hperm, houtcomes⟩ := outcomes_of_verify hsweep
  have hsettled : ∀ target ∈ verifier.selected role,
      outcomes target.backend = settledBy catalogs target := by
    intro target htarget
    exact outcome_eq_settledBy (houtcomes target htarget) (mem_withKey.mpr ⟨htarget, rfl⟩)
      (fun other hother => (mem_withKey.mp hother).2) (agreed_withKey.mpr (h.agreed htarget))
      (fun event hevent => hanswered event (mem_withKey.mp hevent).1)
  refine hperm.trans (.of_eq (List.map_congr_left fun target htarget => ?_))
  rw [hsettled target htarget]

/-- A sweep that ends without results raises what one of the lookups has. -/
theorem Sweep.exists_escape {groups : List (List ModelVerificationTarget)}
    {trace : List CatalogEvent} {results : Except CatalogException (List ModelVerificationResult)}
    {exception : CatalogException} (h : Sweep groups trace results)
    (hresults : results = .error exception) :
    ∃ targets ∈ groups, ∃ asked, GroupEscape targets asked exception ∧ asked.Sublist trace := by
  induction h with
  | done => cases hresults
  | escaped escape =>
      cases hresults
      exact ⟨_, List.mem_cons_self, _, escape, .refl _⟩
  | @settled _ _ _ _ _ results settled sweep ih =>
      have hlater : results = .error exception := by
        cases results with
        | ok found => cases hresults
        | error raised => exact congrArg _ (Except.error.inj hresults)
      obtain ⟨targets, htargets, asked, hescape, hasked⟩ := ih hlater
      exact ⟨targets, List.mem_cons_of_mem _ htargets, asked, hescape,
        hasked.trans (List.sublist_append_right _ _)⟩

/-- Where all targets agree, what gets through for a role does so for all targets. -/
theorem Uniform.isOk_of_all {verifier : StartupModelVerifier} (h : verifier.Uniform)
    {role : String} {allTrace trace : List CatalogEvent} {all : List ModelVerificationResult}
    {results : Except CatalogException (List ModelVerificationResult)}
    {catalogs : String → CatalogReply}
    (hall : AnsweredBy catalogs allTrace) (hanswered : AnsweredBy catalogs trace)
    (hallSweep : Sweep ((verifier.groups none).map Prod.snd) allTrace (.ok all))
    (hsweep : Sweep ((verifier.groups (some role)).map Prod.snd) trace results) :
    ∃ found, results = .ok found := by
  by_contra hnone
  obtain ⟨exception, hresults⟩ : ∃ exception, results = .error exception := by
    cases results with
    | ok found => exact absurd ⟨found, rfl⟩ hnone
    | error exception => exact ⟨exception, rfl⟩
  obtain ⟨targets, htargets, asked, hescape, hasked⟩ := hsweep.exists_escape hresults
  obtain ⟨group, hgroup, rfl⟩ := List.mem_map.mp htargets
  have htargetsOf := (eq_withKey_of_mem hgroup).1
  generalize group.2 = targets at hescape htargetsOf
  cases hescape with
  | @asked representative rest url reply _ endpoint escape =>
      have hselected : representative ∈ verifier.selected (some role) := by
        have hmem : representative ∈ withKey ModelVerificationTarget.backend
            (verifier.selected (some role)) group.1 := htargetsOf ▸ List.mem_cons_self
        exact (mem_withKey.mp hmem).1
      have hmember : representative ∈ verifier.selected none := by
        rw [selected_none]
        exact (mem_selected.mp hselected).1
      have hgiven : reply = catalogs representative.backend :=
        hanswered _ (hasked.subset List.mem_cons_self)
      obtain ⟨outcomes, -, houtcomes⟩ := outcomes_of_verify hallSweep
      have houtcome := houtcomes representative hmember
      have hin : representative ∈ withKey ModelVerificationTarget.backend (verifier.selected none)
          representative.backend := mem_withKey.mpr ⟨hmember, rfl⟩
      have hbackend : ∀ other ∈ withKey ModelVerificationTarget.backend (verifier.selected none)
          representative.backend, other.backend = representative.backend :=
        fun other hother => (mem_withKey.mp hother).2
      have hagreed := agreed_withKey.mpr (h.agreed hmember)
      have hall' : AnsweredBy catalogs
          (withKey CatalogEvent.backend allTrace representative.backend) :=
        fun event hevent => hall event (mem_withKey.mp hevent).1
      generalize withKey ModelVerificationTarget.backend (verifier.selected none)
        representative.backend = members at houtcome hin hbackend hagreed
      generalize withKey CatalogEvent.backend allTrace representative.backend =
        part at houtcome hall'
      generalize outcomes representative.backend = outcome at houtcome
      cases houtcome with
      | differing differ => exact differ (agreeWith_of_agreed hin hbackend hagreed)
      | @unaddressed first _ error agree unaddressed =>
          have hendpoint := (hagreed first List.mem_cons_self (hbackend _ List.mem_cons_self)).1
          rw [hendpoint, endpoint] at unaddressed
          cases unaddressed
      | @asked first _ url' reply' _ agree endpoint' loaded =>
          have hreply : reply' = catalogs first.backend := hall' _ List.mem_cons_self
          rw [hbackend _ List.mem_cons_self, ← hgiven] at hreply
          obtain ⟨hraised, huncaught⟩ := CatalogReply.loaded_of_escape? escape
          rw [hreply, hraised] at loaded
          cases outcome with
          | ok catalogIds => cases loaded
          | error error =>
              cases loaded
              exact huncaught error rfl

/-- Where all targets agree and the catalogs stay the same, the results for a role are those of all
targets that have it. -/
theorem Uniform.restricts {verifier : StartupModelVerifier} (h : verifier.Uniform) {role : String}
    {allTrace trace : List CatalogEvent} {all results : List ModelVerificationResult}
    {catalogs : String → CatalogReply} (hall : AnsweredBy catalogs allTrace)
    (hanswered : AnsweredBy catalogs trace)
    (hallSweep : Sweep ((verifier.groups none).map Prod.snd) allTrace (.ok all))
    (hsweep : Sweep ((verifier.groups (some role)).map Prod.snd) trace (.ok results)) :
    results.Perm (all.filter fun result => decide (result.role = role)) := by
  have hroles : ∀ target : ModelVerificationTarget,
      (target.verdict (settledBy catalogs target)).role = target.role :=
    fun target => (verdict_fields target _).2.2.2
  have hfiltered := (h.results_perm hall hallSweep).filter fun result => decide (result.role = role)
  rw [selected_none, List.filter_map] at hfiltered
  refine (h.results_perm hanswered hsweep).trans (List.Perm.trans (.of_eq ?_) hfiltered.symm)
  congr 1
  apply List.filter_congr
  intro target _
  rw [Function.comp_apply, hroles, Option.all_some]

/-- Verification is total and complete exactly if no request for a catalog raises what is not
caught, and so is, where the targets agree and the catalogs stay the same, verifying a role
instead of all. -/
theorem verify_complete_iff (rely : Unit → Unit → Prop) (verifier : StartupModelVerifier) :
    (∀ role trace out, Coro.Run rely (verifier.verify role) () trace () out →
      ((∃ results, out = .ok results ∧ Verifies (verifier.selected role) trace results) ↔
        ∀ event ∈ trace, ¬ CatalogEvent.Escapes event)) ∧
    ∀ catalogs role allTrace allOut trace out, verifier.Uniform →
      Coro.Run rely (verifier.verify none) () allTrace () allOut →
      Coro.Run rely (verifier.verify (some role)) () trace () out →
      AnsweredBy catalogs allTrace → AnsweredBy catalogs trace →
      (Restricts role allOut out ↔ ∀ event ∈ allTrace, ¬ CatalogEvent.Escapes event) := by
  refine ⟨fun role trace out hrun => ?_, ?_⟩
  · have hsweep := verify_sweeps verifier role hrun
    rw [← hsweep.isOk_iff]
    refine ⟨fun ⟨results, hout, _⟩ => ⟨results, hout⟩, ?_⟩
    rintro ⟨results, rfl⟩
    exact ⟨results, rfl, verifies_of_sweep hsweep⟩
  · intro catalogs role allTrace allOut trace out huniform hallRun hrun hall hanswered
    have hallSweep := verify_sweeps verifier none hallRun
    have hsweep := verify_sweeps verifier (some role) hrun
    rw [← hallSweep.isOk_iff]
    refine ⟨fun ⟨all, results, hall, _⟩ => ⟨all, hall⟩, ?_⟩
    rintro ⟨all, rfl⟩
    obtain ⟨found, rfl⟩ := huniform.isOk_of_all hall hanswered hallSweep hsweep
    exact ⟨all, found, rfl, rfl, huniform.restricts hall hanswered hallSweep hsweep⟩

/-- A router and a provider on one backend, a provider on another. -/
def threeTargets : StartupModelVerifier where
  targets :=
    [{ name := "primary_router", backend := "google", endpoint := "https://google/chat/completions"
       model := "flash", apiKey := "key", timeout := 1, role := "router" },
      { name := "general", backend := "groq", endpoint := "https://groq/chat/completions"
        model := "large", apiKey := "secret", timeout := 1 },
      { name := "writing", backend := "google", endpoint := "https://google/chat/completions"
        model := "lite", apiKey := "key", timeout := 1 }]

/-- A successful response with these ids. -/
def listing (ids : List String) : CatalogReply :=
  .ok { status := 200, json := .ok (.object
    [("data", .array (ids.map fun id => .object [("id", .string id)]))]) }

/-- Catalogs that do not change. -/
def stationary (catalogs : String → CatalogReply) : Coro.Oracle catalogInterface :=
  fun (_ : ℕ) (request : CatalogRequest) => catalogs request.target.backend

/-- A run of the verifier with these catalogs. -/
def verification (catalogs : String → CatalogReply) (verifier : StartupModelVerifier)
    (role : Option String) :
    List CatalogEvent × Unit × Except CatalogException (List ModelVerificationResult) :=
  (verifier.verify role).eval (stationary catalogs) () 0

theorem run_verification (catalogs : String → CatalogReply) (verifier : StartupModelVerifier)
    (role : Option String) :
    Coro.Run (fun _ _ => True) (verifier.verify role) () (verification catalogs verifier role).1 ()
      (verification catalogs verifier role).2.2 :=
  Coro.run_eval (fun _ => trivial) _ _ _ _

theorem answeredBy_stationary {ε α : Type} (catalogs : String → CatalogReply)
    (task : Coro catalogInterface Unit ε α) (m : Unit) (index : ℕ) :
    AnsweredBy catalogs (task.eval (stationary catalogs) m index).1 := by
  induction task generalizing m index with
  | pure value => exact List.forall_mem_nil _
  | raise error => exact List.forall_mem_nil _
  | read next ih => exact ih m m index
  | write update next ih => exact ih (update m) index
  | call query next ih =>
      intro event hevent
      rcases List.mem_cons.mp hevent with rfl | hevent
      · rfl
      · exact ih _ m (index + 1) event hevent

/-- Google has a catalog; groq breaks off. -/
def brokenOff : String → CatalogReply
  | "google" => listing ["models/flash", "models/lite"]
  | _ => .error .other

/-- Google has one of the models; groq is out of order. -/
def outOfOrder : String → CatalogReply
  | "google" => listing ["models/flash"]
  | _ => .ok { status := 503 }

/-- One backend's protocol error leaves the targets of the other without a result too. -/
theorem protocol_error_fatal :
    Coro.Run (fun _ _ => True) (threeTargets.verify none) ()
        (verification brokenOff threeTargets none).1 ()
        (verification brokenOff threeTargets none).2.2 ∧
      (verification brokenOff threeTargets none).2.2 = .error (.http .other) ∧
      ¬ ∃ results, (verification brokenOff threeTargets none).2.2 = .ok results ∧
        Verifies (threeTargets.selected none)
          (verification brokenOff threeTargets none).1 results := by
  have hout : (verification brokenOff threeTargets none).2.2 = .error (.http .other) := by
    decide +kernel
  refine ⟨run_verification _ _ _, hout, ?_⟩
  rintro ⟨results, hresults, -⟩
  rw [hout] at hresults
  cases hresults

/-- A backend that is out of order makes only its own targets unavailable. -/
theorem verify_complete_iff_outOfOrder :
    (∃ results, (verification outOfOrder threeTargets none).2.2 = .ok results ∧
        results.map (fun result => (result.name, result.available)) =
          [("primary_router", true), ("writing", false), ("general", false)] ∧
        Verifies (threeTargets.selected none)
          (verification outOfOrder threeTargets none).1 results) ∧
      Restricts "router" (verification outOfOrder threeTargets none).2.2
        (verification outOfOrder threeTargets (some "router")).2.2 := by
  have hnone : ∀ event ∈ (verification outOfOrder threeTargets none).1,
      ¬ CatalogEvent.Escapes event := by decide +kernel
  obtain ⟨hall, hrole⟩ := verify_complete_iff (fun _ _ => True) threeTargets
  refine ⟨?_, ?_⟩
  · obtain ⟨results, hout, hverifies⟩ := (hall none _ _ (run_verification _ _ _)).mpr hnone
    have hresults : (verification outOfOrder threeTargets none).2.2.map
        (List.map fun result => (result.name, result.available)) =
          .ok [("primary_router", true), ("writing", false), ("general", false)] := by
      decide +kernel
    rw [hout] at hresults
    exact ⟨results, hout, Except.ok.inj hresults, hverifies⟩
  · apply (hrole outOfOrder "router" _ _ _ _ _ (run_verification _ _ _) (run_verification _ _ _)
      (answeredBy_stationary _ _ _ _) (answeredBy_stationary _ _ _ _)).mpr hnone
    decide +kernel

end StartupModelVerifier

end LLMRouting
