/-
# A whole call

What one `handle` call can do from its first step to its last: how it enters its
conversation, what the routing loop does from there, and what is attached at the end. The
rule is stated for every kind of surroundings that leaves the registry within a given set
and, if the call has its conversation to itself, the stored record as the call left it.
-/

import LLMRouting.Routing.Loop

namespace LLMRouting

open LLMRouting.Interaction

variable {μ : Type}

/-- The call works on `state` and, if it is alone on its conversation, so is the record
that is stored. -/
structure Held (exclusive : Prop) (allowed : Set (Registry μ)) (call : HandleCall)
    (state : ConversationState) (m : Memory μ) : Prop where
  state_eq : m.own.state = some state
  tenant_eq : m.own.tenant = call.tenant
  id_eq : state.conversationId = call.request.conversationId
  registry_mem : m.shared.registry ∈ allowed
  stored : exclusive →
    m.shared.conversations.load call.request.conversationId call.tenantId = some state

/-- As `Held`, but the stored record may be behind the one the call works on. -/
structure Loaded (exclusive : Prop) (allowed : Set (Registry μ)) (call : HandleCall)
    (state : ConversationState) (m : Memory μ) : Prop where
  state_eq : m.own.state = some state
  tenant_eq : m.own.tenant = call.tenant
  id_eq : state.conversationId = call.request.conversationId
  registry_mem : m.shared.registry ∈ allowed
  stored : exclusive → ∃ original, original.Extends state ∧
    m.shared.conversations.load call.request.conversationId call.tenantId = some original

/-- The terms on which a call runs: its contract asks no more than the code gives, and its
surroundings leave alone what `Held` speaks about. -/
structure Terms (c : Contract (Memory μ)) (exclusive : Prop) (allowed : Set (Registry μ))
    (call : HandleCall) : Prop where
  pause : ∀ {m : Memory μ}, m.own.state.isSome → c.pause m
  rely : ∀ {state : ConversationState} {m m' : Memory μ},
    Held exclusive allowed call state m → c.rely m m' → Held exclusive allowed call state m'
  note : ∀ {state state' : ConversationState} {m m' : Memory μ}, m.own.state = some state →
    m'.own.state = some state' → state.Extends state' →
    m'.shared.conversations = m.shared.conversations → c.guar m m'
  enter : ∀ {stored : ConversationState} {m m' : Memory μ}, m.own.state = none →
    m.shared.conversations.load call.request.conversationId call.tenantId = some stored →
    m'.own.state = some stored → m'.shared.conversations = m.shared.conversations → c.guar m m'
  put : ∀ {m : Memory μ} {state : ConversationState}, m.own.state = some state →
    state.conversationId = call.request.conversationId →
    (exclusive → ∃ original, original.Extends state ∧
      m.shared.conversations.load call.request.conversationId call.tenantId = some original) →
    c.guar m { m with shared := { m.shared with
      conversations := m.shared.conversations.put state call.tenantId } }
  begins : ∀ {m m' : Memory μ}, call.request.retry = false → m.own.state = none → c.guar m m'

namespace Terms

open Routine

variable {c : Contract (Memory μ)} {exclusive : Prop} {allowed : Set (Registry μ)}
  {call : HandleCall} (t : Terms c exclusive allowed call)

theorem loaded_of_held {state : ConversationState} {m : Memory μ}
    (h : Held exclusive allowed call state m) : Loaded exclusive allowed call state m :=
  ⟨h.state_eq, h.tenant_eq, h.id_eq, h.registry_mem,
    fun hexclusive => ⟨state, .refl state, h.stored hexclusive⟩⟩

include t in
/-- Writing the record back succeeds while the conversation exists, which it does as long
as the call is alone on it. -/
theorem storeState {state state' : ConversationState} {m : Memory μ}
    (hm : Loaded exclusive allowed call state m) (hextends : state.Extends state') :
    (Routine.storeState state' call.tenantId).wp c (fun trace m' out =>
      trace = [] ∧ m'.shared.registry = m.shared.registry ∧
        m'.own.selectedProvider = m.own.selectedProvider ∧
        match out with
        | .ok _ => Held exclusive allowed call state' m'
        | .error _ => ¬ exclusive) m := by
  have hid : state'.conversationId = call.request.conversationId :=
    hextends.conversationId_eq.trans hm.id_eq
  have hstored : exclusive → ∃ original, original.Extends state' ∧
      m.shared.conversations.load call.request.conversationId call.tenantId = some original := by
    intro hexclusive
    obtain ⟨original, horiginal, hload⟩ := hm.stored hexclusive
    exact ⟨original, horiginal.trans hextends, hload⟩
  rw [Routine.storeState, remember, Routine.note, writeBack]
  apply Coro.wp_modify_bind.mpr
  refine ⟨t.note hm.state_eq rfl hextends rfl, ?_⟩
  apply Discipline.memory_bind
  cases hload : m.shared.conversations.load state'.conversationId call.tenantId with
  | none =>
      have hnone : m.shared.conversations.update state' call.tenantId = none := by
        rw [ConversationStateManager.update, hload]
        rfl
      simp only [hnone]
      refine ⟨rfl, rfl, rfl, fun hexclusive => ?_⟩
      obtain ⟨original, -, hfound⟩ := hstored hexclusive
      rw [← hid, hload] at hfound
      cases hfound
  | some original =>
      simp only [ConversationStateManager.update_of_load hload]
      refine ⟨t.put rfl hid hstored, rfl, rfl, rfl, ?_⟩
      exact ⟨rfl, hm.tenant_eq, hid, hm.registry_mem,
        fun _ => hid ▸ ConversationStateManager.load_put_self⟩

/-- What the call can count on under its terms. -/
def discipline : Discipline c call.tenantId where
  held := Held exclusive allowed call
  loaded := Loaded exclusive allowed call
  lost _ := ¬ exclusive
  loaded_of_held := loaded_of_held
  state_eq h := h.state_eq
  pause h := t.pause (by rw [h.state_eq]; rfl)
  rely := t.rely
  quiet h hquiet := by
    have hstate := hquiet.state.trans h.state_eq
    refine ⟨t.note h.state_eq hstate (.refl _) hquiet.conversations, ?_⟩
    exact ⟨hstate, hquiet.tenant.trans h.tenant_eq, h.id_eq,
      hquiet.registry ▸ h.registry_mem,
      fun hexclusive => hquiet.conversations ▸ h.stored hexclusive⟩
  store := t.storeState

/-- A result with diagnostics attached to it, if they can be built. -/
inductive Attached (m : Memory μ) :
    Except Raised RoutingResponse → Except Raised RoutingResponse → Prop
  | raised (raised : Raised) : Attached m (.error raised) (.error raised)
  | attached (response : RoutingResponse) (diagnostics : Option RoutingDiagnostics) :
      Attached m (.ok response) (.ok { response with diagnostics := diagnostics })
  | unbuilt {response : RoutingResponse} {raised : Raised} {providerId : String}
      (selected : m.own.selectedProvider = some providerId)
      (unregistered : m.shared.registry.getProvider? providerId = none) :
      Attached m (.ok response) (.error raised)

theorem attachDiagnostics {response : RoutingResponse} {m : Memory μ} :
    (Routine.attachDiagnostics call response).wp c
      (fun trace m' out => trace = [] ∧ m' = m ∧ Attached m (.ok response) out) m := by
  rw [Routine.attachDiagnostics]
  split
  · exact ⟨rfl, rfl, .attached response response.diagnostics⟩
  · apply Discipline.memory_bind
    cases hbuilt : buildDiagnostics m.shared.registry m.own {} with
    | some diagnostics => exact ⟨rfl, rfl, .attached response (some diagnostics)⟩
    | none =>
        refine ⟨rfl, rfl, ?_⟩
        cases hselected : m.own.selectedProvider with
        | none => simp [buildDiagnostics, hselected] at hbuilt
        | some providerId =>
            simp only [buildDiagnostics, hselected, Option.map_eq_none_iff] at hbuilt
            exact .unbuilt hselected hbuilt

/-- Whatever is raised, the handlers around `_handle` raise something and ask nothing. -/
theorem translate (raised : Raised) {m : Memory μ} :
    (Routine.translate raised).wp c
      (fun trace m' out => trace = [] ∧ m' = m ∧ ∃ raised', out = .error raised') m := by
  have hdeadline : (Routine.fail (μ := μ) (α := RoutingResponse) .deadlineExceeded
      { level := some "deadline", stage := .deadline, reason := "DEADLINE_EXCEEDED" }).wp c
      (fun trace m' out => trace = [] ∧ m' = m ∧ ∃ raised', out = .error raised') m :=
    Discipline.fail fun raised' => ⟨rfl, rfl, raised', rfl⟩
  cases raised with
  | routing error => exact ⟨rfl, rfl, _, rfl⟩
  | conversationNotFound conversationId => exact ⟨rfl, rfl, _, rfl⟩
  | policyNotFound policyId => exact ⟨rfl, rfl, _, rfl⟩
  | cancelled byDeadline =>
      cases byDeadline with
      | true => exact hdeadline
      | false => exact ⟨rfl, rfl, _, rfl⟩
  | exception error =>
      unfold Routine.translate
      simp only
      split
      · exact hdeadline
      · apply Discipline.memory_bind
        exact Discipline.fail fun raised' => ⟨rfl, rfl, raised', rfl⟩

variable [Metric μ] {engine : RoutingEngine}
  {P : ConversationState → List Backend → Memory μ → List (EngineEvent μ) → Memory μ →
    Except Raised RoutingResponse → Prop}

/-- The end of a call that has its record ready, whether or not it has noted it yet. -/
theorem routeAndAttach {state : ConversationState} {m : Memory μ}
    (hstep : ∀ state blocked m trace m' out, Held exclusive allowed call state m →
      Discipline.IterationOutcome engine call t.discipline state blocked m (P state.retried)
        trace m' out → P state blocked m trace m' out)
    (hremember : c.guar m { m with own := { m.own with state := some state } })
    (hm : Held exclusive allowed call state
      { m with own := { m.own with state := some state } }) :
    (Routine.routeAndAttach engine call state).wp c (fun trace m' out =>
      ∃ entered result, entered.shared = m.shared ∧ Held exclusive allowed call state entered ∧
        P state [] entered trace m' result ∧ Attached m' result out) m := by
  rw [Routine.routeAndAttach, remember, Routine.note]
  apply Coro.wp_modify_bind.mpr
  refine ⟨hremember, ?_⟩
  rw [Coro.wp_bind]
  apply Coro.wp_mono (t.discipline.route hstep [] hm)
  intro trace m₁ result hresult
  cases result with
  | error raised =>
      exact ⟨{ m with own := { m.own with state := some state } }, .error raised, rfl, hm,
        hresult, .raised raised⟩
  | ok response =>
      apply Coro.wp_mono attachDiagnostics
      rintro rest m₂ out ⟨rfl, rfl, hattached⟩
      refine ⟨{ m with own := { m.own with state := some state } }, .ok response, rfl, hm, ?_,
        hattached⟩
      show P state [] _ ([] ++ (trace ++ [])) m₂ _
      rwa [List.nil_append, List.append_nil]

/-- The record a new conversation is created with. -/
def createdState (engine : RoutingEngine) (call : HandleCall) : ConversationState :=
  { conversationId := call.request.conversationId, originalQuery := call.request.message
    maxAttempts := engine.maxAttempts }

/-- What `_handle` can do; `P` is the outcome of the routing loop. -/
inductive BodyOutcome (exclusive : Prop) (allowed : Set (Registry μ)) (engine : RoutingEngine)
    (call : HandleCall)
    (P : ConversationState → List Backend → Memory μ → List (EngineEvent μ) → Memory μ →
      Except Raised RoutingResponse → Prop) (m : Memory μ) :
    List (EngineEvent μ) → Memory μ → Except Raised RoutingResponse → Prop
  | unknown {raised : Raised} (retry : call.request.retry = true)
      (missing : m.shared.conversations.load call.request.conversationId call.tenantId = none) :
      BodyOutcome exclusive allowed engine call P m [] m (.error raised)
  | imageRequired {stored : ConversationState} {m' : Memory μ} {raised : Raised}
      (retry : call.request.retry = true)
      (found : m.shared.conversations.load call.request.conversationId call.tenantId = some stored)
      (image : stored.hasImage = true) (no_image : call.hasImage = false)
      (shared : m'.shared = m.shared) :
      BodyOutcome exclusive allowed engine call P m [] m' (.error raised)
  | exhausted {stored : ConversationState} {m' : Memory μ} {out : Except Raised RoutingResponse}
      (retry : call.request.retry = true)
      (found : m.shared.conversations.load call.request.conversationId call.tenantId = some stored)
      (guard : retryGuardFired m.shared.registry (markImage call stored) = true)
      (shared : m'.shared = m.shared)
      (attached : Attached m' (.ok (stopResponse stored.conversationId)) out) :
      BodyOutcome exclusive allowed engine call P m [] m' out
  | stopped {stored : ConversationState} {m' : Memory μ} {out : Except Raised RoutingResponse}
      (retry : call.request.retry = true)
      (found : m.shared.conversations.load call.request.conversationId call.tenantId = some stored)
      (guard : retryGuardFired m.shared.registry (markImage call stored) = false)
      (held : Held exclusive allowed call (markImage call stored).retried m')
      (guard' : retryGuardFired m'.shared.registry (markImage call stored).retried = true)
      (attached : Attached m'
        (.ok (stopResponse (markImage call stored).retried.conversationId)) out) :
      BodyOutcome exclusive allowed engine call P m [] m' out
  | retried {stored : ConversationState} {entered m' : Memory μ} {trace : List (EngineEvent μ)}
      {result out : Except Raised RoutingResponse} (retry : call.request.retry = true)
      (found : m.shared.conversations.load call.request.conversationId call.tenantId = some stored)
      (guard : retryGuardFired m.shared.registry (markImage call stored) = false)
      (registry : entered.shared.registry = m.shared.registry)
      (held : Held exclusive allowed call (markImage call stored).retried entered)
      (guard' : retryGuardFired entered.shared.registry (markImage call stored).retried = false)
      (later : P (markImage call stored).retried [] entered trace m' result)
      (attached : Attached m' result out) :
      BodyOutcome exclusive allowed engine call P m trace m' out
  | begun {stored : ConversationState} {entered m' : Memory μ} {trace : List (EngineEvent μ)}
      {result out : Except Raised RoutingResponse} (message : call.request.retry = false)
      (found : (m.shared.conversations.load call.request.conversationId call.tenantId).getD
        (createdState engine call) = stored)
      (registry : entered.shared.registry = m.shared.registry)
      (held : Held exclusive allowed call (freshTurn call stored) entered)
      (later : P (freshTurn call stored) [] entered trace m' result)
      (attached : Attached m' result out) :
      BodyOutcome exclusive allowed engine call P m trace m' out
  | lost {m' : Memory μ} {raised : Raised} (lost : ¬ exclusive) :
      BodyOutcome exclusive allowed engine call P m [] m' (.error raised)

/-- The memory in which `_handle` starts. -/
structure Entering (allowed : Set (Registry μ)) (call : HandleCall) (m : Memory μ) : Prop where
  state_eq : m.own.state = none
  tenant_eq : m.own.tenant = call.tenant
  registry_mem : m.shared.registry ∈ allowed

theorem handleRetry {m : Memory μ} (hretry : call.request.retry = true)
    (hm : Entering allowed call m)
    (hstep : ∀ state blocked m trace m' out, Held exclusive allowed call state m →
      Discipline.IterationOutcome engine call t.discipline state blocked m (P state.retried)
        trace m' out → P state blocked m trace m' out) :
    (Routine.handleRetry engine call).wp c (BodyOutcome exclusive allowed engine call P m) m := by
  rw [Routine.handleRetry]
  apply Discipline.memory_bind
  cases hload : m.shared.conversations.load call.request.conversationId call.tenantId with
  | none => exact .unknown hretry hload
  | some stored =>
      have hmark : stored.Extends (markImage call stored) :=
        ⟨rfl, rfl, rfl, le_rfl, List.Subset.refl _⟩
      simp only
      rw [remember, Routine.note]
      apply Coro.wp_modify_bind.mpr
      refine ⟨t.enter hm.state_eq hload rfl rfl, ?_⟩
      split
      · rename_i himage
        exact Discipline.fail fun raised => .imageRequired hretry hload himage.1 himage.2 rfl
      · apply Coro.wp_modify_bind.mpr
        refine ⟨t.note rfl rfl hmark rfl, ?_⟩
        have hid : stored.conversationId = call.request.conversationId :=
          ConversationStateManager.conversationId_of_load hload
        have hloaded : Loaded exclusive allowed call (markImage call stored)
            { m with own := { m.own with state := some (markImage call stored) } } :=
          ⟨rfl, hm.tenant_eq, hid, hm.registry_mem, fun _ => ⟨stored, hmark, hload⟩⟩
        rw [Coro.wp_bind]
        apply Coro.wp_mono (t.discipline.prepareRetry hloaded)
        intro trace m₁ out houtcome
        cases houtcome with
        | exhausted hguard =>
            apply Coro.wp_mono attachDiagnostics
            rintro rest m₂ out ⟨rfl, rfl, hattached⟩
            exact .exhausted hretry hload hguard rfl hattached
        | lost hlost => exact .lost hlost
        | counted hguard hregistry hheld =>
            cases hguard' : retryGuardFired m₁.shared.registry (markImage call stored).retried with
            | true =>
                apply Coro.wp_mono attachDiagnostics
                rintro rest m₂ out ⟨rfl, rfl, hattached⟩
                exact .stopped hretry hload hguard hheld hguard' hattached
            | false =>
                have hentering : Held exclusive allowed call (markImage call stored).retried
                    { m₁ with own :=
                      { m₁.own with state := some (markImage call stored).retried } } :=
                  ⟨rfl, hheld.tenant_eq, hheld.id_eq, hheld.registry_mem, hheld.stored⟩
                apply Coro.wp_mono (t.routeAndAttach hstep
                  (t.note hheld.state_eq rfl (.refl _) rfl) hentering)
                rintro rest m₂ out ⟨entered, result, hshared, hentered, hlater, hattached⟩
                exact .retried hretry hload hguard (hshared ▸ hregistry) hentered
                  (hshared ▸ hguard') hlater hattached

/-- The end of a new message's beginning: the fresh record is stored and routed. -/
theorem beginTurn {stored : ConversationState} {m m₁ : Memory μ}
    (hmessage : call.request.retry = false) (hentering : Entering allowed call m₁)
    (hregistry : m₁.shared.registry = m.shared.registry)
    (hfound : (m.shared.conversations.load call.request.conversationId call.tenantId).getD
      (createdState engine call) = stored)
    (hload : m₁.shared.conversations.load call.request.conversationId call.tenantId = some stored)
    (hstep : ∀ state blocked m trace m' out, Held exclusive allowed call state m →
      Discipline.IterationOutcome engine call t.discipline state blocked m (P state.retried)
        trace m' out → P state blocked m trace m' out) :
    (do
      writeBack (freshTurn call stored) call.tenantId
      Routine.routeAndAttach engine call (freshTurn call stored)).wp c
      (BodyOutcome exclusive allowed engine call P m) m₁ := by
  have hstored : stored.conversationId = call.request.conversationId :=
    ConversationStateManager.conversationId_of_load hload
  have hid : (freshTurn call stored).conversationId = call.request.conversationId := hstored
  have hupdate : m₁.shared.conversations.update (freshTurn call stored) call.tenantId =
      some (m₁.shared.conversations.put (freshTurn call stored) call.tenantId) :=
    ConversationStateManager.update_of_load (hid ▸ hload)
  rw [writeBack]
  rw [bind_assoc]
  apply Discipline.memory_bind
  simp only [hupdate]
  apply Coro.wp_modify_bind.mpr
  refine ⟨t.begins hmessage hentering.state_eq, ?_⟩
  have hheld : Held exclusive allowed call (freshTurn call stored)
      { shared := { m₁.shared with
          conversations := m₁.shared.conversations.put (freshTurn call stored) call.tenantId }
        own := { m₁.own with state := some (freshTurn call stored) } } :=
    ⟨rfl, hentering.tenant_eq, hid, hentering.registry_mem,
      fun _ => hid ▸ ConversationStateManager.load_put_self⟩
  refine Coro.wp_mono (t.routeAndAttach hstep (t.begins hmessage ?_) hheld) ?_
  · exact hentering.state_eq
  rintro trace m' out ⟨entered, result, hshared, hentered, hlater, hattached⟩
  exact .begun hmessage hfound (by rw [hshared, ← hregistry]) hentered hlater hattached

theorem handleMessage {m : Memory μ} (hmessage : call.request.retry = false)
    (hm : Entering allowed call m)
    (hstep : ∀ state blocked m trace m' out, Held exclusive allowed call state m →
      Discipline.IterationOutcome engine call t.discipline state blocked m (P state.retried)
        trace m' out → P state blocked m trace m' out) :
    (Routine.handleMessage engine call).wp c (BodyOutcome exclusive allowed engine call P m) m := by
  rw [Routine.handleMessage, loadOrCreate]
  rw [bind_assoc]
  apply Discipline.memory_bind
  cases hload : m.shared.conversations.load call.request.conversationId call.tenantId with
  | some stored =>
      apply t.beginTurn hmessage hm rfl _ hload hstep
      rw [hload]
      rfl
  | none =>
      simp only [bind_assoc, pure_bind]
      apply Coro.wp_modify_bind.mpr
      refine ⟨t.begins hmessage hm.state_eq, ?_⟩
      have hcreated : (m.shared.conversations.load call.request.conversationId call.tenantId).getD
          (createdState engine call) = createdState engine call := by
        rw [hload]
        rfl
      exact t.beginTurn hmessage ⟨hm.state_eq, hm.tenant_eq, hm.registry_mem⟩
        (Eq.refl m.shared.registry) hcreated ConversationStateManager.load_put_self hstep

/-- The rule of a whole call: it looks at the clock, takes a new capture, does what `_handle`
does, and turns whatever that raises into some exception of its own. -/
theorem handle {m : Memory μ} (hregistry : m.shared.registry ∈ allowed)
    (hreset : ∀ now, c.guar m { m with own := newCapture engine call now })
    (hstep : ∀ state blocked m trace m' out, Held exclusive allowed call state m →
      Discipline.IterationOutcome engine call t.discipline state blocked m (P state.retried)
        trace m' out → P state blocked m trace m' out) :
    (Routine.handle engine call).wp c (fun trace m' out =>
      ∃ (now : ℚ) (body : List (EngineEvent μ)) (result : Except Raised RoutingResponse),
        trace = ⟨.loopTime, m, now⟩ :: body ∧
        BodyOutcome exclusive allowed engine call P { m with own := newCapture engine call now }
          body m' result ∧
        ∀ response, out = .ok response ↔ result = .ok response) m := by
  unfold Routine.handle
  rw [loopTime, Coro.wp_bind]
  refine ⟨fun hsuspends => absurd hsuspends (by simp), fun now m₁ hm₁ => ?_⟩
  obtain rfl : m₁ = m := by simpa [Coro.Resumes] using hm₁
  unfold Routine.note
  apply Coro.wp_modify_bind.mpr
  refine ⟨hreset _, ?_⟩
  rw [Coro.wp_bind, Coro.wp_attempt]
  have hentering : Entering allowed call { m₁ with own := newCapture engine call now } :=
    ⟨rfl, rfl, hregistry⟩
  have hbody : (handleBody engine call).wp c
      (BodyOutcome exclusive allowed engine call P
        { m₁ with own := newCapture engine call now })
      { m₁ with own := newCapture engine call now } := by
    unfold handleBody
    split
    · rename_i hretry
      exact t.handleRetry hretry hentering hstep
    · rename_i hmessage
      exact t.handleMessage (Bool.eq_false_iff.mpr hmessage) hentering hstep
  apply Coro.wp_mono hbody
  intro body m₂ result hresult
  cases result with
  | ok response =>
      refine ⟨now, body, .ok response, ?_, hresult, fun _ => Iff.rfl⟩
      show [_] ++ ([] ++ (body ++ [])) = _
      simp
  | error raised =>
      apply Coro.wp_mono (translate raised)
      rintro rest m₃ out ⟨rfl, rfl, raised', rfl⟩
      refine ⟨now, body, .error raised, ?_, hresult, ?_⟩
      · simp
      · intro response
        constructor
        · intro hok
          cases hok
        · intro hok
          cases hok

end Terms

/-- What the surroundings may do while a call is suspended: they leave its capture alone and
the registry within the allowed ones and, if the call has its conversation to itself, the
stored record of the conversation. -/
structure Surroundings (exclusive : Prop) (allowed : Set (Registry μ)) (call : HandleCall)
    (m m' : Memory μ) : Prop where
  own_eq : m'.own = m.own
  registry_mem : m.shared.registry ∈ allowed → m'.shared.registry ∈ allowed
  stored_eq : exclusive →
    m'.shared.conversations.load call.request.conversationId call.tenantId =
      m.shared.conversations.load call.request.conversationId call.tenantId

variable {exclusive : Prop} {allowed : Set (Registry μ)} {call : HandleCall}

theorem Surroundings.refl (m : Memory μ) : Surroundings exclusive allowed call m m :=
  ⟨rfl, id, fun _ => rfl⟩

/-- A call that promises nothing to the others can run in such surroundings. -/
theorem Surroundings.terms (exclusive : Prop) (allowed : Set (Registry μ)) (call : HandleCall) :
    Terms (Contract.relying (Surroundings exclusive allowed call)) exclusive allowed call where
  pause _ := trivial
  note _ _ _ _ := trivial
  enter _ _ _ _ := trivial
  put _ _ _ := trivial
  begins _ _ := trivial
  rely h hrely := by
    refine ⟨?_, ?_, h.id_eq, hrely.registry_mem h.registry_mem, ?_⟩
    · rw [hrely.own_eq, h.state_eq]
    · rw [hrely.own_eq, h.tenant_eq]
    · intro hexclusive
      rw [hrely.stored_eq hexclusive, h.stored hexclusive]

/-- What such a call can count on. -/
def Surroundings.discipline (exclusive : Prop) (allowed : Set (Registry μ)) (call : HandleCall) :
    Discipline (Contract.relying (Surroundings exclusive allowed call)) call.tenantId :=
  (Surroundings.terms exclusive allowed call).discipline

theorem Surroundings.held_iff {state : ConversationState} {m : Memory μ} :
    (Surroundings.discipline exclusive allowed call).held state m ↔
      Held exclusive allowed call state m :=
  Iff.rfl

theorem Surroundings.lost_iff {m : Memory μ} :
    (Surroundings.discipline exclusive allowed call).lost m ↔ ¬ exclusive :=
  Iff.rfl

/-- The rule of a whole call, for its runs. -/
theorem Surroundings.outcome [Metric μ] {engine : RoutingEngine}
    {P : ConversationState → List Backend → Memory μ → List (EngineEvent μ) → Memory μ →
      Except Raised RoutingResponse → Prop}
    {m m' : Memory μ} {trace : List (EngineEvent μ)} {out : Except Raised RoutingResponse}
    (hrun : Coro.Run (Surroundings exclusive allowed call) (Routine.handle engine call) m trace
      m' out)
    (hregistry : m.shared.registry ∈ allowed)
    (hstep : ∀ state blocked m trace m' out, Held exclusive allowed call state m →
      Discipline.IterationOutcome engine call
        (Surroundings.discipline exclusive allowed call) state blocked m (P state.retried)
          trace m' out → P state blocked m trace m' out) :
    ∃ (now : ℚ) (body : List (EngineEvent μ)) (result : Except Raised RoutingResponse),
      trace = ⟨.loopTime, m, now⟩ :: body ∧
      Terms.BodyOutcome exclusive allowed engine call P
        { m with own := Routine.newCapture engine call now } body m' result ∧
      ∀ response, out = .ok response ↔ result = .ok response :=
  Coro.wp_sound ((Surroundings.terms exclusive allowed call).handle hregistry
    (fun _ => trivial) hstep) hrun

end LLMRouting
