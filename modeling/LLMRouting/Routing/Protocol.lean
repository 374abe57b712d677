/-
# The protocol of a request

What a request may ask depends on what it has been answered so far, and on the clock.
`RequestPhase` says where a request stands and `RequestPhase.step` what it may ask there; every
call follows the protocol, whatever its surroundings do. How a request keeps its deadline and how
often it asks are then facts about the protocol alone.
-/

import LLMRouting.Interaction.Protocol
import LLMRouting.Routing.CallLedger

namespace LLMRouting

open LLMRouting.Interaction

variable {μ : Type}

/-- Where a request stands. `rounds` is how many more ladders it may climb. -/
inductive RequestPhase
  | routing (rounds : ℕ)
  | primaryFailed (rounds : ℕ)
  | settled
  | selected
  | cleared
  | responded (text : String)
  | cleaned (clean : String)
  | granted (clean : String)
  | interrupted (byDeadline : Bool)
  | overdue
  deriving DecidableEq

namespace RequestPhase

/-- A router's decision has been accepted. -/
def decided (rounds : ℕ) (decision : RouterDecision) : RequestPhase :=
  match decision.action with
  | .retry => .routing rounds
  | .answer => .selected
  | .clarify | .stop => .settled

/-- A tier has been asked; `failed` is where its failure leads. -/
def judged (rounds : ℕ) (failed : RequestPhase) :
    Except Interruption RouterDecision → RequestPhase
  | .ok decision => decided rounds decision
  | .error (.cancelled byDeadline) => .interrupted byDeadline
  | .error (.raised _) => failed

/-- The clock has been read. -/
def timed (deadline now : ℚ) (early : RequestPhase) : RequestPhase :=
  if deadline ≤ now then .overdue else early

/-- A provider has been dispatched. -/
def dispatched : Except Interruption String → RequestPhase
  | .ok text => .responded text
  | .error (.cancelled byDeadline) => .interrupted byDeadline
  | .error (.raised error) => if Routine.isControlled error then .selected else .settled

/-- The gateway has been asked. -/
def processed : Except PyException String → RequestPhase
  | .ok clean => .cleaned clean
  | .error _ => .settled

/-- What a request may ask in a phase, and where the reply leads. -/
def step (deadline : ℚ) : RequestPhase → EngineEvent μ → Option RequestPhase
  | .routing (rounds + 1), ⟨.decide .primaryRouter request, _, reply⟩ =>
      some (judged rounds (.primaryFailed rounds) (Routine.judged request reply))
  | .primaryFailed rounds, ⟨.decide .fallbackRouter request, _, reply⟩ =>
      some (judged rounds .settled (Routine.judged request reply))
  | .selected, ⟨.loopTime, _, now⟩ => some (timed deadline now .cleared)
  | .cleared, ⟨.loopTime, _, now⟩ => some (timed deadline now .cleared)
  | .cleared, ⟨.dispatch _ _, _, reply⟩ => some (dispatched reply)
  | .responded text, ⟨.process asked, _, reply⟩ =>
      if asked = text then some (processed reply) else none
  | .cleaned clean, ⟨.loopTime, _, now⟩ => some (timed deadline now (.granted clean))
  | .interrupted byDeadline, ⟨.loopTime, _, _⟩ => some (.interrupted byDeadline)
  | _, _ => none

/-- What a request may return in a phase. -/
def Returns (response : RoutingResponse) : RequestPhase → Prop
  | .routing _ => response.action = .stop
  | .settled => response.action = .clarify ∨ response.action = .stop
  | .granted clean => response.action = .answer ∧ response.response = clean
  | _ => False

/-- What `_handle` may end with in a phase. -/
def Leaves (out : Except Raised RoutingResponse) : RequestPhase → Prop
  | .overdue => out = .error (.exception { kind := .timeoutError })
  | .interrupted byDeadline => out = .error (.cancelled byDeadline)
  | phase => ∀ response, out = .ok response → phase.Returns response

/-- Neither the deadline nor a cancellation has closed the phase. -/
def Open : RequestPhase → Prop
  | .overdue | .interrupted _ => False
  | _ => True

theorem leaves_error (phase : RequestPhase) (hopen : phase.Open) (raised : Raised) :
    phase.Leaves (.error raised) := by
  cases phase with
  | overdue | interrupted byDeadline => cases hopen
  | _ =>
      intro response hresponse
      cases hresponse

theorem leaves_ok_iff {phase : RequestPhase} {response : RoutingResponse} :
    phase.Leaves (.ok response) ↔ phase.Returns response := by
  cases phase with
  | overdue | interrupted byDeadline =>
      constructor
      · intro h
        cases h
      · intro h
        cases h
  | _ =>
      constructor
      · intro h
        exact h response rfl
      · rintro h _ ⟨⟩
        exact h

theorem returns_stop (rounds : ℕ) (conversationId : String) :
    (routing rounds).Returns (stopResponse conversationId) :=
  rfl

theorem leaves_stop (rounds : ℕ) (conversationId : String) :
    (routing rounds).Leaves (.ok (stopResponse conversationId)) :=
  leaves_ok_iff.mpr (returns_stop rounds conversationId)

theorem open_of_returns {phase : RequestPhase} {response : RoutingResponse}
    (h : phase.Returns response) : phase.Open := by
  cases phase with
  | overdue | interrupted byDeadline => exact h
  | _ => trivial

end RequestPhase

theorem Diagnosed.raises {α : Type} {m : Memory μ} {kind : RoutingErrorKind}
    {failure : TerminalFailure} {out : Except Raised α} (h : Diagnosed m kind failure out) :
    ∃ raised, out = .error raised := by
  cases h with
  | built built => exact ⟨_, rfl⟩
  | unbuilt unbuilt => exact ⟨_, rfl⟩

namespace Routine

open Coro RequestPhase

section Parts

variable {rely : Memory μ → Memory μ → Prop} {m : Memory μ} {deadline : ℚ}
  {phase early : RequestPhase} {α : Type}

/-- A look at the clock, with the deadline of the capture. -/
theorem deadlinePassed_follows {next : Bool → Routine μ α}
    {post : RequestPhase → Memory μ → Except Raised α → Prop}
    (hdeadline : m.own.deadline = deadline)
    (hstep : ∀ now : ℚ, phase.step deadline (⟨.loopTime, m, now⟩ : EngineEvent μ) =
      some (.timed deadline now early))
    (hlate : (next true).wp (Contract.relying rely) (Follows (step deadline) .overdue post) m)
    (hearly : (next false).wp (Contract.relying rely) (Follows (step deadline) early post) m) :
    (deadlinePassed >>= next).wp (Contract.relying rely) (Follows (step deadline) phase post)
      m := by
  apply Discipline.deadlinePassed_bind
  intro now
  have hnow := hstep now
  rw [timed] at hnow
  by_cases hpassed : deadline ≤ now
  · rw [if_pos hpassed] at hnow
    rw [hdeadline, decide_eq_true hpassed]
    exact Coro.wp_mono hlate fun _ _ _ => .cons hnow
  · rw [if_neg hpassed] at hnow
    rw [hdeadline, decide_eq_false hpassed]
    exact Coro.wp_mono hearly fun _ _ _ => .cons hnow

theorem fail_follows {kind : RoutingErrorKind} {failure : TerminalFailure} (phase : RequestPhase)
    (hopen : phase.Open) :
    (fail kind failure).wp (Contract.relying rely)
      (Follows (step deadline) phase fun last _ out => last.Leaves out) m := by
  apply Coro.wp_mono fail_diagnosed
  rintro trace m' out ⟨rfl, rfl, hdiagnosed⟩
  obtain ⟨raised, rfl⟩ := hdiagnosed.raises
  exact .done (leaves_error phase hopen raised)

/-- What a ladder leads to. -/
def Climbed (rounds : ℕ) (request : RouterRequest) (deadline : ℚ) (last : RequestPhase)
    (m : Memory μ) : Except Raised (RouterDecision × List Backend) → Prop
  | .ok (decision, _) => last = .decided rounds decision ∧ m.own.deadline = deadline ∧
      (decision.action = .retry → request.retry = true)
  | .error raised => last.Leaves (.error raised)

/-- A tier's accepted decision is a RETRY only of a retry. -/
theorem retry_of_judged {request : RouterRequest} {reply : Except Interruption RawDecision}
    {decision : RouterDecision} (h : Routine.judged request reply = .ok decision)
    (haction : decision.action = .retry) : request.retry = true := by
  obtain ⟨raw, -, hvalid⟩ := judged_eq_ok_iff.mp h
  exact (DecisionValidator.validate_eq_ok_iff.mp hvalid).2.retry_of_action haction

/-- One tier of the ladder, and then those that are left. -/
theorem climb_cons_follows (hrely : LeavesOwn rely) {request : RouterRequest} {tier : RouterTier}
    {rest : List RouterTier} {blocked : List Backend} {rounds : ℕ} {failed : RequestPhase}
    (hdeadline : m.own.deadline = deadline)
    (hstep : ∀ (asked : Memory μ) (reply : Except Interruption RawDecision),
      phase.step deadline ⟨.decide tier request, asked, reply⟩ =
        some (RequestPhase.judged rounds failed (Routine.judged request reply)))
    (hrest : ∀ blocked m, m.own.deadline = deadline →
      (climb request rest blocked).wp (Contract.relying rely)
        (Follows (step deadline) failed (Climbed rounds request deadline)) m) :
    (climb request (tier :: rest) blocked).wp (Contract.relying rely)
      (Follows (step deadline) phase (Climbed rounds request deadline)) m := by
  rw [climb]
  apply note_bind_relying
  apply askRouter_bind_own hrely
  intro reply m₁ hown
  have hdeadline' : m₁.own.deadline = deadline := by
    rw [hown]
    exact hdeadline
  have hreply := hstep { m with own := { m.own with stage := tier.stage } } reply
  cases hjudged : Routine.judged request reply with
  | ok decision =>
      rw [hjudged] at hreply
      apply note_bind_relying
      exact .cons hreply (.done ⟨rfl, hdeadline', retry_of_judged hjudged⟩)
  | error interruption =>
      rw [hjudged] at hreply
      cases interruption with
      | raised error =>
          apply note_bind_relying
          refine Coro.wp_mono (hrest _ _ ?_) fun _ _ _ => .cons hreply
          exact hdeadline'
      | cancelled byDeadline =>
          apply Discipline.deadlinePassed_bind
          intro now
          apply note_bind_relying
          exact .cons hreply (.cons rfl (.done rfl))

/-- A ladder costs one of the rounds. -/
theorem decisionFromLadder_follows (hrely : LeavesOwn rely) (rounds : ℕ) (deadline : ℚ)
    {request : RouterRequest} (hdeadline : m.own.deadline = deadline) :
    (decisionFromLadder request).wp (Contract.relying rely)
      (Follows (step deadline) (.routing (rounds + 1)) (Climbed rounds request deadline)) m := by
  apply climb_cons_follows hrely hdeadline fun _ _ => rfl
  intro blocked m hdeadline
  apply climb_cons_follows hrely hdeadline fun _ _ => rfl
  intro blocked m _
  rw [climb]
  apply Coro.wp_mono fail_diagnosed
  rintro trace m' out ⟨rfl, rfl, hdiagnosed⟩
  obtain ⟨raised, rfl⟩ := hdiagnosed.raises
  exact .done (leaves_error .settled trivial raised)

/-- The rest of an iteration whose candidate has responded. -/
theorem commitAnswer_follows {state : ConversationState} {tenantId : String}
    {candidate : ProviderConfig μ} {text : String} (hdeadline : m.own.deadline = deadline) :
    (commitAnswer state tenantId candidate text).wp (Contract.relying rely)
      (Follows (step deadline) (.responded text) fun last _ out => last.Leaves out) m := by
  have hprocess : ∀ (asked : Memory μ) (reply : Except PyException String),
      step deadline (.responded text) (⟨.process text, asked, reply⟩ : EngineEvent μ) =
        some (processed reply) := fun _ _ => if_pos rfl
  rw [commitAnswer]
  apply note_bind_relying
  apply Discipline.askGateway_bind
  intro reply
  cases reply with
  | error error =>
      refine Coro.wp_mono (fail_follows .settled trivial) fun _ _ _ => .cons (hprocess _ _)
  | ok clean =>
      refine Coro.wp_mono (deadlinePassed_follows hdeadline (fun _ => rfl) ?_ ?_)
        fun _ _ _ => .cons (hprocess _ _)
      · exact .done rfl
      · rw [if_neg Bool.false_ne_true, Coro.wp_bind]
        apply Coro.wp_mono storeState_own
        rintro trace m' out ⟨rfl, -, rfl | rfl⟩
        · have hgranted : (RequestPhase.granted clean).Returns
              { conversationId := state.conversationId, action := .answer, response := clean } :=
            ⟨rfl, rfl⟩
          exact .done (leaves_ok_iff.mpr hgranted)
        · exact .done (leaves_error (.granted clean) trivial _)

/-- The candidates that are left, in a phase in which the chain looks at the clock. -/
theorem tryCandidates_follows (hrely : LeavesOwn rely) {request : ProviderRequest}
    {state : ConversationState} {tenantId : String} (candidates : List (ProviderConfig μ))
    (blocked : List Backend) (lastError : Option PyException) (phase : RequestPhase)
    (hphase : phase = .selected ∨ phase = .cleared) (hdeadline : m.own.deadline = deadline) :
    (tryCandidates request state tenantId candidates blocked lastError).wp (Contract.relying rely)
      (Follows (step deadline) phase fun last _ out => last.Leaves out) m := by
  have hopen : phase.Open := by
    rcases hphase with rfl | rfl <;> exact trivial
  have hstep : ∀ (asked : Memory μ) (now : ℚ),
      phase.step deadline (⟨.loopTime, asked, now⟩ : EngineEvent μ) =
        some (.timed deadline now .cleared) := by
    rcases hphase with rfl | rfl <;> exact fun _ _ => rfl
  induction candidates generalizing m blocked lastError phase with
  | nil =>
      rw [tryCandidates]
      exact fail_follows phase hopen
  | cons candidate rest ih =>
      rw [tryCandidates]
      refine deadlinePassed_follows hdeadline (hstep m) ?_ ?_
      · exact .done rfl
      · rw [if_neg Bool.false_ne_true]
        split
        · apply note_bind_relying
          exact ih _ _ .cleared (.inr rfl) hdeadline trivial fun _ _ => rfl
        · apply note_bind_relying
          apply askProvider_bind_own hrely
          intro reply m₁ hown
          have hdeadline' : m₁.own.deadline = deadline := by
            rw [hown]
            exact hdeadline
          rcases reply with (byDeadline | error) | text
          · have hinterrupted : (RequestPhase.interrupted byDeadline).Leaves
                (.error (.cancelled byDeadline)) := rfl
            simp only [noteDispatchCancelled, bind_assoc]
            apply Discipline.deadlinePassed_bind
            intro first
            apply note_bind_relying
            apply deadlinePassed_note_bind
            · intro second _
              exact .cons rfl (.cons rfl (.cons rfl (.done hinterrupted)))
            · intro second _
              exact .cons rfl (.cons rfl (.cons rfl (.done hinterrupted)))
          · by_cases hcontrolled : isControlled error = true
            · have hselected : RequestPhase.dispatched (.error (.raised error)) = .selected :=
                if_pos hcontrolled
              simp only [hcontrolled, if_true]
              apply note_bind_relying
              refine Coro.wp_mono (ih _ _ .selected (.inl rfl) ?_ trivial fun _ _ => rfl)
                fun _ _ _ => .cons (congrArg some hselected)
              exact hdeadline'
            · simp only [hcontrolled, Bool.false_eq_true, if_false]
              apply note_bind_relying
              have hsettled : RequestPhase.dispatched (.error (.raised error)) = .settled :=
                if_neg hcontrolled
              exact .cons (congrArg some hsettled) (.done (leaves_error .settled trivial _))
          · refine Coro.wp_mono (commitAnswer_follows hdeadline') fun _ _ _ => .cons rfl

theorem executeWithFallback_follows (hrely : LeavesOwn rely) {candidates : List (ProviderConfig μ)}
    {request : ProviderRequest} {state : ConversationState} {tenantId : String}
    {blocked : List Backend} (hdeadline : m.own.deadline = deadline) :
    (executeWithFallback candidates request state tenantId blocked).wp (Contract.relying rely)
      (Follows (step deadline) .selected fun last _ out => last.Leaves out) m := by
  cases candidates with
  | nil =>
      show (tryCandidates request state tenantId [] blocked none).wp _ _ m
      exact tryCandidates_follows hrely [] blocked none .selected (.inl rfl) hdeadline
  | cons first rest =>
      rw [executeWithFallback]
      apply note_bind_relying
      exact tryCandidates_follows hrely (first :: rest) blocked none .selected (.inl rfl) hdeadline

/-- The bookkeeping of a retry asks nothing; unless it is stopped, it makes one retry. -/
theorem prepareRetry_retries {state : ConversationState} {tenantId : String} :
    (prepareRetry state tenantId).wp (Contract.relying rely) (fun trace m' out => trace = [] ∧
      m'.own.deadline = m.own.deadline ∧ ∀ retried, out = .ok (false, retried) →
        retried = state.retried) m := by
  have hstore : ∀ {stored : ConversationState} {m₁ : Memory μ}
      {next : Unit → Routine μ (Bool × ConversationState)},
      m₁.own.deadline = m.own.deadline →
      (∀ m', m'.own.deadline = m.own.deadline → (next ()).wp (Contract.relying rely)
        (fun trace m' out => trace = [] ∧ m'.own.deadline = m.own.deadline ∧
          ∀ retried, out = .ok (false, retried) → retried = state.retried) m') →
      (storeState stored tenantId >>= next).wp (Contract.relying rely)
        (fun trace m' out => trace = [] ∧ m'.own.deadline = m.own.deadline ∧
          ∀ retried, out = .ok (false, retried) → retried = state.retried) m₁ := by
    intro stored m₁ next hdeadline hnext
    rw [Coro.wp_bind]
    apply Coro.wp_mono storeState_own
    rintro trace m' out ⟨rfl, hown, hout⟩
    have hdeadline' : m'.own.deadline = m.own.deadline := by
      rw [hown]
      exact hdeadline
    rcases hout with rfl | rfl
    · exact hnext m' hdeadline'
    · refine ⟨rfl, hdeadline', ?_⟩
      intro retried hretried
      cases hretried
  have hcounted : ∀ {m₁ : Memory μ}, m₁.own.deadline = m.own.deadline →
      (storeState state.excludeLast.incrementAttempt tenantId >>= fun _ => do
        return (← guardFired state.excludeLast.incrementAttempt,
          state.excludeLast.incrementAttempt)).wp (Contract.relying rely)
        (fun trace m' out => trace = [] ∧ m'.own.deadline = m.own.deadline ∧
          ∀ retried, out = .ok (false, retried) → retried = state.retried) m₁ := by
    intro m₁ hdeadline
    apply hstore hdeadline
    intro m' hdeadline'
    apply Discipline.guardFired_bind
    refine ⟨rfl, hdeadline', ?_⟩
    intro retried hretried
    exact (congrArg Prod.snd (Except.ok.inj hretried)).symm
  rw [prepareRetry]
  apply Discipline.guardFired_bind
  cases hguard : retryGuardFired m.shared.registry state with
  | true =>
      refine ⟨rfl, rfl, ?_⟩
      intro retried hretried
      cases hretried
  | false =>
      simp only [Bool.false_eq_true, if_false]
      unfold ConversationState.excludeLast at hcounted
      rw [excludeLast]
      cases hlast : state.lastProvider with
      | none =>
          simp only [hlast, pure_bind] at hcounted ⊢
          exact hcounted rfl
      | some providerId =>
          simp only [hlast, pure_bind, bind_assoc] at hcounted ⊢
          apply hstore rfl
          intro m' hdeadline
          exact hcounted hdeadline

/-- Looking for candidates asks nothing. -/
theorem resolveCandidates_bind_quiet [Metric μ] {engine : RoutingEngine} {context : RoutingContext}
    {excluded : List String} {next : CandidateSet μ → Routine μ α}
    {post : List (EngineEvent μ) → Memory μ → Except Raised α → Prop}
    (hraised : ∀ raised, post [] m (.error raised))
    (h : ∀ candidateSet m', m'.own.deadline = m.own.deadline →
      (next candidateSet).wp (Contract.relying rely) post m') :
    (resolveCandidates engine context excluded >>= next).wp (Contract.relying rely) post m := by
  rw [resolveCandidates, bind_assoc]
  apply Discipline.memory_bind
  split
  · rename_i tenant hresolver hsome
    cases resolveCandidateSet m.shared.registry m.shared.governance m.shared.policies tenant context
        excluded with
    | error error =>
        cases error with
        | policyNotFound policyId => exact hraised _
        | unexpected error => exact hraised _
    | ok candidateSet =>
        simp only [bind_assoc]
        apply note_bind_relying
        rw [recordPolicyAudit, bind_assoc]
        apply Discipline.memory_bind
        split
        · rw [bind_assoc]
          apply Coro.wp_modify_bind_relying.mpr
          apply note_bind_relying
          exact h candidateSet _ rfl
        · exact h candidateSet _ rfl
  · exact h _ m rfl

end Parts

section Loop

variable {rely : Memory μ → Memory μ → Prop} {m : Memory μ} {deadline : ℚ} {call : HandleCall}
  {engine : RoutingEngine} {state : ConversationState} {rounds : ℕ}

/-- The ladders that are left to a call are enough for the attempts of its record. -/
def Affords (call : HandleCall) (state : ConversationState) (rounds : ℕ) : Prop :=
  if call.request.retry then state.maxAttempts - state.attemptCount ≤ rounds else 1 ≤ rounds

/-- What is done with a decision; only a retry goes on to another round. -/
theorem followDecision_follows (hrely : LeavesOwn rely) {allowedIds : List String}
    {blocked : List Backend} {decision : RouterDecision}
    {next : ConversationState → List Backend → Routine μ RoutingResponse}
    (hdeadline : m.own.deadline = deadline)
    (hretry : decision.action = .retry → call.request.retry = true)
    (hnext : call.request.retry = true → ∀ m : Memory μ, m.own.deadline = deadline →
      (next state.retried blocked).wp (Contract.relying rely)
        (Follows (step deadline) (.routing rounds) fun last _ out => last.Leaves out) m) :
    (followDecision call state allowedIds blocked next decision).wp (Contract.relying rely)
      (Follows (step deadline) (.decided rounds decision) fun last _ out => last.Leaves out) m := by
  rw [followDecision]
  split
  · rename_i haction
    have hphase : decided rounds decision = .routing rounds := by rw [decided, haction]
    rw [hphase, Coro.wp_bind]
    apply Coro.wp_mono prepareRetry_retries
    rintro trace m' result ⟨rfl, hkept, hresult⟩
    rcases result with raised | ⟨stopped, retried⟩
    · exact .done (leaves_error (.routing rounds) trivial raised)
    · cases stopped with
      | true => exact .done (leaves_stop rounds retried.conversationId)
      | false =>
          obtain rfl := hresult retried rfl
          exact hnext (hretry haction) m' (hkept.trans hdeadline)
  · rename_i haction
    have hphase : decided rounds decision = .settled := by rw [decided, haction]
    rw [hphase]
    exact .done (leaves_ok_iff.mpr (.inl rfl))
  · rename_i haction
    have hphase : decided rounds decision = .settled := by rw [decided, haction]
    rw [hphase]
    exact .done (leaves_ok_iff.mpr (.inr rfl))
  · rename_i haction
    have hphase : decided rounds decision = .selected := by rw [decided, haction]
    rw [hphase]
    apply note_bind_relying
    apply Discipline.memory_bind
    exact executeWithFallback_follows hrely hdeadline

variable [Metric μ]

theorem routeBody_follows (hrely : LeavesOwn rely) {blocked : List Backend}
    {next : ConversationState → List Backend → Routine μ RoutingResponse}
    (haffords : Affords call state rounds) (hdeadline : m.own.deadline = deadline)
    (hnext : ∀ state rounds blocked m, Affords call state rounds → m.own.deadline = deadline →
      (next state blocked).wp (Contract.relying rely)
        (Follows (step deadline) (.routing rounds) fun last _ out => last.Leaves out) m) :
    (routeBody engine call next state blocked).wp (Contract.relying rely)
      (Follows (step deadline) (.routing rounds) fun last _ out => last.Leaves out) m := by
  rw [routeBody]
  apply Discipline.guardFired_bind
  cases hguard : retryGuardFired m.shared.registry state with
  | true => exact .done (leaves_stop rounds state.conversationId)
  | false =>
      have hbudget : state.attemptCount < state.maxAttempts := by
        rw [retryGuardFired, Bool.or_eq_false_iff] at hguard
        exact lt_of_not_ge (of_decide_eq_false hguard.1)
      obtain ⟨left, rfl⟩ : ∃ left, rounds = left + 1 := by
        apply Nat.exists_eq_succ_of_ne_zero
        rw [Affords] at haffords
        split at haffords <;> omega
      rw [if_neg Bool.false_ne_true]
      apply note_bind_relying
      apply resolveCandidates_bind_quiet
      · intro raised
        exact .done (leaves_error (.routing (left + 1)) trivial raised)
      · intro candidateSet m₁ hkept
        have hdeadline₁ : m₁.own.deadline = deadline := hkept.trans hdeadline
        simp only
        split
        · exact fail_follows (.routing (left + 1)) trivial
        · apply Discipline.memory_bind
          apply note_bind_relying
          apply follows_bind
          refine Coro.wp_mono (decisionFromLadder_follows hrely left deadline ?_) ?_
          · exact hdeadline₁
          rintro trace m₂ result hclimbed
          apply hclimbed.mono
          intro last hlast
          cases result with
          | error raised => exact hlast
          | ok result =>
              obtain ⟨decision, refused⟩ := result
              obtain ⟨rfl, hdeadline₂, hretry⟩ := hlast
              apply followDecision_follows hrely hdeadline₂ hretry
              intro hcall m hdeadline
              apply hnext _ _ _ _ _ hdeadline
              rw [Affords, if_pos hcall] at haffords ⊢
              rw [ConversationState.attemptCount_retried,
                (ConversationState.retried_retried state).maxAttempts_eq]
              omega

/-- The loop, by induction on the iterations it may take. -/
theorem route_follows (hrely : LeavesOwn rely) {blocked : List Backend}
    (haffords : Affords call state rounds) (hdeadline : m.own.deadline = deadline) :
    (route engine call state blocked).wp (Contract.relying rely)
      (Follows (step deadline) (.routing rounds) fun last _ out => last.Leaves out) m := by
  rw [route]
  generalize state.maxAttempts - state.attemptCount = iterations
  induction iterations generalizing state rounds blocked m with
  | zero =>
      rw [routeLoop]
      apply routeBody_follows hrely haffords hdeadline
      intro state rounds blocked m _ _
      exact .done (leaves_stop rounds state.conversationId)
  | succ iterations ih =>
      rw [routeLoop]
      apply routeBody_follows hrely haffords hdeadline
      intro state rounds blocked m haffords hdeadline
      exact ih haffords hdeadline

omit [Metric μ] in
theorem attachDiagnostics_follows {last : RequestPhase} {response : RoutingResponse}
    (h : last.Returns response) :
    (attachDiagnostics call response).wp (Contract.relying rely)
      (Follows (step deadline) last fun last _ out => last.Leaves out) m := by
  rw [attachDiagnostics]
  split
  · exact .done (leaves_ok_iff.mpr h)
  · apply Discipline.memory_bind
    cases buildDiagnostics m.shared.registry m.own {} with
    | none => exact .done (leaves_error last (open_of_returns h) _)
    | some diagnostics =>
        have hattached : last.Returns { response with diagnostics := some diagnostics } := by
          cases last <;> exact h
        exact .done (leaves_ok_iff.mpr hattached)

theorem routeAndAttach_follows (hrely : LeavesOwn rely) (haffords : Affords call state rounds)
    (hdeadline : m.own.deadline = deadline) :
    (routeAndAttach engine call state).wp (Contract.relying rely)
      (Follows (step deadline) (.routing rounds) fun last _ out => last.Leaves out) m := by
  rw [routeAndAttach, remember]
  apply note_bind_relying
  apply follows_bind
  have hnoted : ({ m with own := { m.own with state := some state } } : Memory μ).own.deadline =
      deadline := hdeadline
  apply Coro.wp_mono (route_follows hrely haffords hnoted)
  intro trace m' out hfollows
  apply hfollows.mono
  intro last hleaves
  cases out with
  | error raised => exact hleaves
  | ok response => exact attachDiagnostics_follows (leaves_ok_iff.mp hleaves)

end Loop

end Routine

/-- How many ladders a call may climb, by the record it finds: a retry takes one attempt before
its first ladder, and a new message is not answered by another retry. -/
def HandleCall.ladders (call : HandleCall) (m : Memory μ) : ℕ :=
  if call.request.retry then
    match m.shared.conversations.load call.request.conversationId call.tenantId with
    | none => 0
    | some state => state.maxAttempts - state.attemptCount - 1
  else 1

/-- The failure an overdue request is diagnosed with. -/
def overdueFailure : TerminalFailure :=
  { level := some "deadline", stage := .deadline, reason := "DEADLINE_EXCEEDED" }

/-- What a call may end with in a phase. -/
def RequestPhase.Ends (m' : Memory μ) (out : Except Raised RoutingResponse) : RequestPhase → Prop
  | .overdue | .interrupted true => Diagnosed m' .deadlineExceeded overdueFailure out
  | .interrupted false => out = .error (.cancelled false)
  | phase => ∀ response, out = .ok response → phase.Returns response

namespace Routine

open Coro RequestPhase

section Call

variable {rely : Memory μ → Memory μ → Prop} {m : Memory μ} {deadline : ℚ} {call : HandleCall}
  {engine : RoutingEngine}

theorem handleRetry_follows [Metric μ] (hrely : LeavesOwn rely) (hretry : call.request.retry = true)
    (hdeadline : m.own.deadline = deadline) :
    (handleRetry engine call).wp (Contract.relying rely)
      (Follows (step deadline) (.routing (call.ladders m)) fun last _ out => last.Leaves out)
        m := by
  rw [handleRetry]
  apply Discipline.memory_bind
  rw [HandleCall.ladders, if_pos hretry]
  cases m.shared.conversations.load call.request.conversationId call.tenantId with
  | none => exact .done (leaves_error (.routing 0) trivial _)
  | some state =>
      apply note_bind_relying
      split
      · exact fail_follows (.routing _) trivial
      · apply note_bind_relying
        rw [Coro.wp_bind]
        apply Coro.wp_mono prepareRetry_retries
        rintro trace m' result ⟨rfl, hkept, hresult⟩
        rcases result with raised | ⟨stopped, retried⟩
        · exact .done (leaves_error (.routing _) trivial raised)
        · cases stopped with
          | true => exact attachDiagnostics_follows (returns_stop _ _)
          | false =>
              obtain rfl := hresult retried rfl
              apply routeAndAttach_follows hrely ?_ (hkept.trans hdeadline)
              rw [Affords, if_pos hretry, ConversationState.attemptCount_retried,
                (ConversationState.retried_retried _).maxAttempts_eq, ← Nat.sub_sub]
              exact le_rfl

theorem handleMessage_follows [Metric μ] (hrely : LeavesOwn rely)
    (hretry : call.request.retry = false) (hdeadline : m.own.deadline = deadline) :
    (handleMessage engine call).wp (Contract.relying rely)
      (Follows (step deadline) (.routing (call.ladders m)) fun last _ out => last.Leaves out)
        m := by
  rw [HandleCall.ladders, if_neg (by rw [hretry]; exact Bool.false_ne_true)]
  have hwritten : ∀ {state : ConversationState} {m : Memory μ}, m.own.deadline = deadline →
      (writeBack (freshTurn call state) call.tenantId >>= fun _ =>
        routeAndAttach engine call (freshTurn call state)).wp (Contract.relying rely)
          (Follows (step deadline) (.routing 1) fun last _ out => last.Leaves out) m := by
    intro state m hdeadline
    have haffords : Affords call (freshTurn call state) 1 := by
      rw [Affords, if_neg (by rw [hretry]; exact Bool.false_ne_true)]
    rw [writeBack, bind_assoc]
    apply Discipline.memory_bind
    split
    · apply Coro.wp_modify_bind_relying.mpr
      exact routeAndAttach_follows hrely haffords hdeadline
    · exact .done (leaves_error (.routing 1) trivial _)
  rw [handleMessage, loadOrCreate, bind_assoc]
  apply Discipline.memory_bind
  split
  · exact hwritten hdeadline
  · rw [bind_assoc]
    apply Coro.wp_modify_bind_relying.mpr
    exact hwritten hdeadline

theorem handleBody_follows [Metric μ] (hrely : LeavesOwn rely)
    (hdeadline : m.own.deadline = deadline) :
    (handleBody engine call).wp (Contract.relying rely)
      (Follows (step deadline) (.routing (call.ladders m)) fun last _ out => last.Leaves out)
        m := by
  rw [handleBody]
  cases hretry : call.request.retry with
  | true => exact handleRetry_follows hrely hretry hdeadline
  | false => exact handleMessage_follows hrely hretry hdeadline

/-- The handlers raise, and nothing else. -/
theorem translate_raises (raised : Raised) :
    (Routine.translate raised).wp (Contract.relying rely)
      (fun trace _ out => trace = [] ∧ ∃ raised', out = .error raised') m := by
  have hfail : ∀ {kind : RoutingErrorKind} {failure : TerminalFailure},
      (fail (α := RoutingResponse) kind failure).wp (Contract.relying rely)
        (fun trace _ out => trace = [] ∧ ∃ raised', out = .error raised') m := by
    intro kind failure
    apply Coro.wp_mono fail_diagnosed
    rintro trace m' out ⟨rfl, -, hdiagnosed⟩
    exact ⟨rfl, hdiagnosed.raises⟩
  cases raised with
  | routing error | conversationNotFound conversationId | policyNotFound policyId =>
      exact ⟨rfl, _, rfl⟩
  | cancelled byDeadline =>
      cases byDeadline with
      | false => exact ⟨rfl, _, rfl⟩
      | true => exact hfail
  | exception error =>
      rw [Routine.translate]
      split
      · exact hfail
      · exact Discipline.memory_bind hfail

/-- What the handlers make of the ending of a phase. -/
theorem translate_ends {last : RequestPhase} {raised : Raised}
    (h : last.Leaves (.error raised)) :
    (Routine.translate raised).wp (Contract.relying rely)
      (fun trace m' out => trace = [] ∧ last.Ends m' out) m := by
  have hoverdue : (fail (α := RoutingResponse) .deadlineExceeded overdueFailure).wp
      (Contract.relying rely)
      (fun trace m' out => trace = [] ∧ Diagnosed m' .deadlineExceeded overdueFailure out) m := by
    apply Coro.wp_mono fail_diagnosed
    rintro trace m' out ⟨rfl, rfl, hdiagnosed⟩
    exact ⟨rfl, hdiagnosed⟩
  cases last with
  | overdue =>
      cases h
      exact hoverdue
  | interrupted byDeadline =>
      cases h
      cases byDeadline with
      | true => exact hoverdue
      | false => exact ⟨rfl, rfl⟩
  | _ =>
      apply Coro.wp_mono (translate_raises raised)
      rintro trace m' out ⟨rfl, raised', rfl⟩
      refine ⟨rfl, ?_⟩
      intro response hresponse
      cases hresponse

/-- Every call follows the protocol, whatever the others do to what they share. -/
theorem handle_follows [Metric μ] (hrely : LeavesOwn rely) :
    (handle engine call).wp (Contract.relying rely) (fun trace m' out =>
      ∃ (start : ℚ) (rest : List (EngineEvent μ)), trace = ⟨.loopTime, m, start⟩ :: rest ∧
        Follows (step (start + engine.overallRequestTimeout)) (.routing (call.ladders m))
          (fun last m' out => last.Ends m' out) rest m' out) m := by
  rw [handle, loopTime, Coro.wp_bind, Coro.wp_ask]
  refine ⟨fun _ => trivial, fun start resumed hresumed => ?_⟩
  obtain rfl : resumed = m := by simpa [Coro.Resumes] using hresumed
  apply note_bind_relying
  rw [Coro.wp_bind, Coro.wp_attempt]
  have hnew : ({ resumed with own := newCapture engine call start } : Memory μ).own.deadline =
      start + engine.overallRequestTimeout := rfl
  apply Coro.wp_mono (handleBody_follows hrely hnew)
  rintro rest m' result ⟨last, hsteps, hleaves⟩
  cases result with
  | ok response =>
      refine ⟨start, rest ++ [], rfl, ?_⟩
      rw [List.append_nil]
      refine .led last hsteps ?_
      have hreturns := leaves_ok_iff.mp hleaves
      cases last with
      | overdue | interrupted byDeadline => cases hreturns
      | _ =>
          rintro _ ⟨⟩
          exact hreturns
  | error raised =>
      apply Coro.wp_mono (translate_ends hleaves)
      rintro trace m₁ out ⟨rfl, hends⟩
      refine ⟨start, rest ++ [], rfl, ?_⟩
      rw [List.append_nil]
      exact .led last hsteps hends

end Call

end Routine

end LLMRouting
