/-
# The tenant boundary

A V1 request has no tenant, and its conversations are kept under a name reserved for them. A
V2 request names its tenant in a header, whose text only has to match a pattern. This module
resolves the header, and says what the chat requests and the conversation lookups of the two
interfaces see of each other.
-/

import LLMRouting.Api.DeveloperGate
import LLMRouting.Routing.Isolation

namespace LLMRouting

open LLMRouting.Data LLMRouting.Interaction

variable {μ : Type}

/-- The characters of a tenant id after the first may also be these. -/
def isTenantChar (c : Char) : Bool := c.isAlphanum || decide (c = '_') || decide (c = '-')

/-- The pattern of `TenantContext.tenant_id`. -/
def matchesTenantPattern : PyString → Bool
  | [] => false
  | first :: rest => first.isAlphanum && decide (rest.length ≤ 63) && rest.all isTenantChar

namespace TenantContextResolver

def defaultTenant : PyString := ['d', 'e', 'f', 'a', 'u', 'l', 't']

/-- The tenant a header names. -/
def tenantText (request : HttpRequest) : PyString :=
  let stripped := (headerText request.tenantId defaultTenant).strip
  if stripped = [] then defaultTenant else stripped

def resolve (request : HttpRequest) : Except ApiFailure TenantContext :=
  if matchesTenantPattern (tenantText request) then
    .ok { tenantId := String.ofList (tenantText request) }
  else .error (.http 422)

end TenantContextResolver

/-- The call the endpoint `chat` makes. -/
def chatCall (settings : DeveloperSettings) (http : HttpRequest) (request : ChatRequest) :
    Except ApiFailure HandleCall := do
  let mode ← developerMode settings http
  return { request := request, developerMode := mode, requestId := http.requestId }

/-- The call the endpoint `chat_v2` makes. -/
def chatV2Call (settings : DeveloperSettings) (http : HttpRequest) (request : ChatRequest)
    (context : RoutingContext) : Except ApiFailure HandleCall := do
  let tenant ← TenantContextResolver.resolve http
  let mode ← developerMode settings http
  return { request := request, developerMode := mode, tenant := some tenant
           routingContext := some context, requestId := http.requestId }

/-- The data of the endpoint `conversation`. -/
structure ConversationSummary where
  conversationId : String
  attemptCount : ℕ
  maxAttempts : ℕ
  excludedProviders : List String
  deriving DecidableEq

/-- `RoutingEngine.conversation_state` for the endpoint, which gives no tenant. -/
def conversationState (conversations : ConversationStateManager) (conversationId : String) :
    Except ApiFailure ConversationState :=
  match conversations.load conversationId "legacy" with
  | some state => .ok state
  | none => .error (.engine (.conversationNotFound conversationId))

/-- The endpoint `conversation`. -/
def conversation (conversations : ConversationStateManager) (conversationId : String) :
    Except ApiFailure ConversationSummary := do
  let state ← conversationState conversations conversationId
  return { conversationId := state.conversationId, attemptCount := state.attemptCount
           maxAttempts := state.maxAttempts, excludedProviders := state.excludedProviders }

/-- A call of the first interface. -/
def IsV1 (call : HandleCall) : Prop := call.tenant = none

instance : DecidablePred IsV1 := fun call => inferInstanceAs (Decidable (call.tenant = none))

/-- A call that one of the chat endpoints makes. -/
inductive Accepted (settings : DeveloperSettings) (call : HandleCall) : Prop
  | v1 {http : HttpRequest} {request : ChatRequest}
      (made : chatCall settings http request = .ok call)
  | v2 {http : HttpRequest} {request : ChatRequest} {context : RoutingContext}
      (made : chatV2Call settings http request context = .ok call)

/-- The moves of the application: accepted calls, and changes that have nothing to do with
conversations. -/
def AcceptedMove (settings : DeveloperSettings) (move : EngineMove μ) : Prop :=
  Outside move ∧ ∀ call ∈ move.started, Accepted settings call

/-- The name V1 conversations are kept under is left to them. -/
def LeavesReserve (move : EngineMove μ) : Prop :=
  ∀ call ∈ move.started, ∀ tenant ∈ call.tenant, tenant.tenantId ≠ "legacy"

section Sides

variable [Metric μ] (engine : RoutingEngine) (world : World μ) (moves : List (EngineMove μ))
  (pool : EnginePool μ)

/-- The calls on one side do, keep and return what they would without the calls on the other
side and without its conversations, and leave the same conversations. -/
def Unaffected (side : HandleCall → Prop) [DecidablePred side] (tenants : String → Prop)
    [DecidablePred tenants] : Prop :=
  ∀ world' : World μ, world'.view tenants = world.view tenants →
    ∃ alone, Steps (Enabled (Pool.step (engineCrew μ engine))) ⟨world', []⟩
        (ownMoves side [] moves) alone ∧
      alone.seats.map Seat.visible =
        (pool.seats.filter fun seat => decide (side seat.label)).map Seat.visible ∧
      ∀ tenantId, tenants tenantId → ∀ conversationId,
        alone.shared.conversations.load conversationId tenantId =
          pool.shared.conversations.load conversationId tenantId

/-- Neither interface sees or touches the conversations of the other. -/
structure Isolated : Prop where
  v1 : Unaffected engine world moves pool IsV1 (· = "legacy")
  v2 : Unaffected engine world moves pool (fun call => ¬ IsV1 call) (· ≠ "legacy")
  lookups : ∀ world' : World μ, world'.view (· = "legacy") = world.view (· = "legacy") →
    ∃ alone, Steps (Enabled (Pool.step (engineCrew μ engine))) ⟨world', []⟩
        (ownMoves IsV1 [] moves) alone ∧
      ∀ conversationId, conversation alone.shared.conversations conversationId =
        conversation pool.shared.conversations conversationId

end Sides

/-- The interfaces are isolated in every run of the application. -/
def ConversationsIsolated (μ : Type) [Metric μ] (settings : DeveloperSettings)
    (engine : RoutingEngine) : Prop :=
  ∀ (world : World μ) moves pool, Steps (Guarded (Pool.step (engineCrew μ engine)) fun _ move =>
    AcceptedMove settings move) ⟨world, []⟩ moves pool → Isolated engine world moves pool

section Runs

variable [Metric μ] {engine : RoutingEngine} {world : World μ} {moves : List (EngineMove μ)}
  {pool : EnginePool μ}

theorem tenantId_eq_legacy_iff {call : HandleCall}
    (h : ∀ tenant ∈ call.tenant, tenant.tenantId ≠ "legacy") :
    call.tenantId = "legacy" ↔ IsV1 call := by
  rw [HandleCall.tenantId, IsV1]
  cases htenant : call.tenant with
  | none => simp
  | some tenant => simpa using h tenant htenant

/-- A side of the interfaces that goes with a set of tenants is unaffected by the other. -/
theorem unaffected_of_run {side : HandleCall → Prop} [DecidablePred side] {tenants : String → Prop}
    [DecidablePred tenants]
    (hside : ∀ call, (∀ tenant ∈ call.tenant, tenant.tenantId ≠ "legacy") →
      (tenants call.tenantId ↔ side call))
    (hrun : Steps (Guarded (Pool.step (engineCrew μ engine)) fun _ move =>
      Outside move ∧ LeavesReserve move) ⟨world, []⟩ moves pool) :
    Unaffected engine world moves pool side tenants := by
  have hreserve : ∀ move ∈ moves, LeavesReserve move :=
    hrun.forall_mem fun _ _ _ hstep => hstep.2.2
  have hstarted : ∀ call ∈ moves.flatMap Move.started, tenants call.tenantId ↔ side call := by
    intro call hcall
    obtain ⟨move, hmove, hcall⟩ := List.mem_flatMap.mp hcall
    exact hside call (hreserve move hmove call hcall)
  have houtside : Steps (Guarded (Pool.step (engineCrew μ engine)) fun _ move => Outside move)
      ⟨world, []⟩ moves pool := hrun.mono fun _ _ _ hstep => ⟨hstep.1, hstep.2.1⟩
  have hlabels := labels_of_run (hrun.mono fun _ _ _ hstep => hstep.1)
  intro world' hworld
  obtain ⟨alone, halone, hvisible, hview⟩ := alone_of_run hworld houtside
  refine ⟨alone, ?_, ?_, fun tenantId htenant => load_of_view hview htenant⟩
  · rw [ownMoves_congr (fun _ h => by cases h) hstarted] at halone
    exact halone
  · rw [hvisible]
    congr 1
    apply List.filter_congr
    intro seat hseat
    have hmem : seat.label ∈ moves.flatMap Move.started := by
      have hlabel := List.mem_map_of_mem (f := Seat.label) hseat
      rw [hlabels] at hlabel
      exact hlabel
    simp only [hstarted seat.label hmem]

/-- V1 and V2 conversations are isolated in every run in which no V2 request names the tenant
V1 conversations are kept under. -/
theorem conversations_isolated
    (hrun : Steps (Guarded (Pool.step (engineCrew μ engine)) fun _ move =>
      Outside move ∧ LeavesReserve move) ⟨world, []⟩ moves pool) :
    Isolated engine world moves pool := by
  have hv1 : Unaffected engine world moves pool IsV1 (· = "legacy") :=
    unaffected_of_run (fun _ hcall => tenantId_eq_legacy_iff hcall) hrun
  have hv2 : Unaffected engine world moves pool (fun call => ¬ IsV1 call) (· ≠ "legacy") :=
    unaffected_of_run (fun _ hcall => not_congr (tenantId_eq_legacy_iff hcall)) hrun
  refine ⟨hv1, hv2, ?_⟩
  intro world' hworld
  obtain ⟨alone, halone, -, hload⟩ := hv1 world' hworld
  refine ⟨alone, halone, ?_⟩
  intro conversationId
  rw [conversation, conversation, conversationState, conversationState, hload "legacy" rfl]

end Runs

/-- A request whose tenant header holds the given bytes. -/
def tenantHeader (bytes : List UInt8) : HttpRequest where
  requestId := "r2"
  tenantId := some bytes

/-- The header `legacy`. -/
def legacyHeader : HttpRequest := tenantHeader [108, 101, 103, 97, 99, 121]

/-- The header `acme`. -/
def acmeHeader : HttpRequest := tenantHeader [97, 99, 109, 101]

def questionRequest (message : String) : ChatRequest where
  conversationId := "c"
  message := message

/-- A question in the conversation of the first interface. -/
def v1Question : HandleCall where
  request := questionRequest "question"
  requestId := "r1"

/-- A question in the tenant's conversation of the same id. -/
def v2Question (tenantId : String) : HandleCall where
  request := questionRequest "other"
  tenant := some { tenantId := tenantId }
  routingContext := some {}
  requestId := "r2"

/-- The routers always decide for the general group, and every provider answers. -/
def accommodating : Coro.Oracle engineInterface :=
  scripted (fun _ => .ok (.decision generalDecision)) fun _ => .ok "text"

def twoQuestions (tenantId : String) : List (EngineMove ℤ) :=
  [.start v1Question accommodating, .start (v2Question tenantId) accommodating]

def boundaryEngine : RoutingEngine := { maxAttempts := 5 }

def emptyWorld : World ℤ := (deployment [generalProvider "first" 1 .google] none).shared

/-- The question of a stored conversation. -/
def questionOf (pool : EnginePool ℤ) (tenantId : String) : Option String :=
  (pool.shared.conversations.load "c" tenantId).map ConversationState.originalQuery

theorem accepted_v1Question : Accepted {} v1Question :=
  @Accepted.v1 {} v1Question { requestId := "r1" } (questionRequest "question") rfl

/-- The header that names the reserved tenant is accepted. -/
theorem accepted_legacy : Accepted {} (v2Question "legacy") :=
  @Accepted.v2 {} (v2Question "legacy") legacyHeader (questionRequest "other") {}
    (by decide +kernel)

/-- A V2 request whose header names the reserved tenant is accepted, and overwrites the
conversation of a V1 request. -/
theorem reserve_invaded : ¬ ConversationsIsolated ℤ {} boundaryEngine := by
  intro hisolated
  have hrun : ∃ pool, Steps (Guarded (Pool.step (engineCrew ℤ boundaryEngine)) fun _ move =>
      AcceptedMove {} move) ⟨emptyWorld, []⟩ (twoQuestions "legacy") pool ∧
      questionOf pool "legacy" = some "other" := by
    refine ⟨_, .cons ⟨rfl, trivial, ?_⟩ (.cons ⟨rfl, trivial, ?_⟩ (.nil _)), by decide +kernel⟩
    · intro call hcall
      rw [List.mem_singleton.mp hcall]
      exact accepted_v1Question
    · intro call hcall
      rw [List.mem_singleton.mp hcall]
      exact accepted_legacy
  obtain ⟨pool, hrun, hquestion⟩ := hrun
  obtain ⟨alone, halone, -, hload⟩ := (hisolated _ _ pool hrun).v1 emptyWorld rfl
  have hreplay := replay_of_steps halone
  have hquestion' : (replay (Pool.step (engineCrew ℤ boundaryEngine)) ⟨emptyWorld, []⟩
      (ownMoves IsV1 [] (twoQuestions "legacy"))).map (fun pool => questionOf pool "legacy") =
        some (some "question") := by decide +kernel
  rw [hreplay, Option.map_some, questionOf, hload "legacy" rfl "c"] at hquestion'
  rw [questionOf, Option.some.inj hquestion'] at hquestion
  simp at hquestion

/-- Under another accepted name the conversation of the same id stays as it is. -/
theorem conversations_isolated_acme : Accepted {} (v2Question "acme") ∧ ∃ pool,
    Isolated boundaryEngine emptyWorld (twoQuestions "acme") pool ∧
      questionOf pool "legacy" = some "question" ∧ questionOf pool "acme" = some "other" := by
  have haccepted : Accepted {} (v2Question "acme") :=
    @Accepted.v2 {} (v2Question "acme") acmeHeader (questionRequest "other") {} (by decide +kernel)
  have hreserve : ∀ move ∈ twoQuestions "acme", LeavesReserve move := by
    show ∀ move ∈ twoQuestions "acme", ∀ call ∈ move.started, ∀ tenant ∈ call.tenant,
      tenant.tenantId ≠ "legacy"
    decide
  refine ⟨haccepted, _,
    conversations_isolated (.cons ⟨rfl, trivial, ?_⟩ (.cons ⟨rfl, trivial, ?_⟩ (.nil _))),
    by decide +kernel, by decide +kernel⟩
  · exact hreserve _ List.mem_cons_self
  · exact hreserve _ (List.mem_cons_of_mem _ List.mem_cons_self)

end LLMRouting
