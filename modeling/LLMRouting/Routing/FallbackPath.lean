/-
# The fallback path

`fallback_path` is documented as the record of the chain. What it says is read off `ChainRun`: the
entries follow the candidates in order, an answer is the last of them, and an exhausted chain has
accounted for every candidate. The deadline is noticed in two places. Where it cancels a dispatch,
the candidates still to come are entered as skipped; where the loop finds it, nothing is.
-/

import LLMRouting.Routing.Ledger

namespace LLMRouting

open LLMRouting.Interaction

variable {μ : Type}

def ProviderConfig.ids (candidates : List (ProviderConfig μ)) : List String :=
  candidates.map ProviderConfig.id

def ProviderAttempt.ids (path : List ProviderAttempt) : List String :=
  path.map ProviderAttempt.providerId

/-- The deadline has ended the chain: it cancelled the dispatch, or the loop has found it passed. -/
inductive DeadlineExpired (trace : List (EngineEvent μ)) : Except Raised RoutingResponse → Prop
  | cancelled : DeadlineExpired trace (.error (.cancelled true))
  | found {before : List (EngineEvent μ)} {asked : Memory μ} {now : ℚ}
      (late : asked.own.deadline ≤ now) (last : trace = before ++ [⟨.loopTime, asked, now⟩]) :
      DeadlineExpired trace (.error (.exception { kind := .timeoutError }))

/-- The path accounts for the chain over the candidates. -/
structure PathAccounts (candidates : List (ProviderConfig μ)) (trace : List (EngineEvent μ))
    (path : List ProviderAttempt) (out : Except Raised RoutingResponse) : Prop where
  ordered : ProviderAttempt.ids path <+: ProviderConfig.ids candidates
  unrepeated : (ProviderConfig.ids candidates).Nodup → (ProviderAttempt.ids path).Nodup
  answered : ∀ response, out = .ok response → response.action = .answer → ∃ before last,
    path = before ++ [last] ∧ last.outcome = .success ∧
      (∀ attempt ∈ before, attempt.outcome ≠ .success) ∧
        Produced trace last.providerId response.response
  failed : ∀ error, out = .error (.routing error) → error.kind = .providerUnavailable →
    ProviderAttempt.ids path = ProviderConfig.ids candidates
  expired : DeadlineExpired trace out → (∀ event ∈ trace, ¬ EngineEvent.IsAnswer event) →
    ProviderAttempt.ids path = ProviderConfig.ids candidates

/-- The deadline overtakes the chain without its noticing the candidates still to come: the loop
finds it passed before a candidate, or it cancels a dispatch and the clock, read again, is not
there yet. -/
inductive Overtaken (request : ProviderRequest) :
    List (ProviderConfig μ) → List Backend → List (EngineEvent μ) → Prop
  | found {candidate : ProviderConfig μ} {rest : List (ProviderConfig μ)} {blocked : List Backend}
      {asked : Memory μ} {now : ℚ} (late : asked.own.deadline ≤ now) :
      Overtaken request (candidate :: rest) blocked [⟨.loopTime, asked, now⟩]
  | cut {candidate next : ProviderConfig μ} {rest : List (ProviderConfig μ)}
      {blocked : List Backend} {asked dispatched resumed noted : Memory μ} {now first second : ℚ}
      (unblocked : candidate.backend ∉ blocked) (early : second < noted.own.deadline) :
      Overtaken request (candidate :: next :: rest) blocked
        [⟨.loopTime, asked, now⟩,
          ⟨.dispatch candidate.id request, dispatched, .error (.cancelled true)⟩,
          ⟨.loopTime, resumed, first⟩, ⟨.loopTime, noted, second⟩]
  | skipped {candidate : ProviderConfig μ} {rest : List (ProviderConfig μ)}
      {blocked : List Backend} {asked : Memory μ} {now : ℚ} {trace : List (EngineEvent μ)}
      (early : now < asked.own.deadline) (refused : candidate.backend ∈ blocked)
      (later : Overtaken request rest blocked trace) :
      Overtaken request (candidate :: rest) blocked (⟨.loopTime, asked, now⟩ :: trace)
  | failed {candidate : ProviderConfig μ} {rest : List (ProviderConfig μ)}
      {blocked : List Backend} {asked dispatched : Memory μ} {now : ℚ} {error : PyException}
      {trace : List (EngineEvent μ)} (unblocked : candidate.backend ∉ blocked)
      (controlled : Routine.isControlled error = true)
      (later : Overtaken request rest
        (if error.blocksBackend then candidate.backend :: blocked else blocked) trace) :
      Overtaken request (candidate :: rest) blocked
        (⟨.loopTime, asked, now⟩ ::
          ⟨.dispatch candidate.id request, dispatched, .error (.raised error)⟩ :: trace)

namespace ChainRun

variable {request : ProviderRequest} {candidates : List (ProviderConfig μ)}
  {blocked : List Backend} {lastError : Option PyException} {trace : List (EngineEvent μ)}
  {attempts : List ProviderAttempt} {ending : ChainEnding μ}

theorem ids_overtakenAttempts (pending : List (ProviderConfig μ)) :
    ProviderAttempt.ids (overtakenAttempts pending) = ProviderConfig.ids pending := by
  rw [ProviderAttempt.ids, overtakenAttempts, List.map_map]
  rfl

/-- The entries follow the candidates. -/
theorem ids_prefix (h : ChainRun request ending candidates blocked lastError trace attempts) :
    ProviderAttempt.ids attempts <+: ProviderConfig.ids candidates := by
  have hcons : ∀ {attempt : ProviderAttempt} {candidate : ProviderConfig μ}
      {later : List ProviderAttempt} {rest : List (ProviderConfig μ)},
      attempt.providerId = candidate.id →
        ProviderAttempt.ids later <+: ProviderConfig.ids rest →
          ProviderAttempt.ids (attempt :: later) <+: ProviderConfig.ids (candidate :: rest) :=
    fun hid hlater => List.cons_prefix_cons.mpr ⟨hid, hlater⟩
  induction h with
  | skipped early refused later ih => exact hcons rfl ih
  | failed early unblocked controlled later ih => exact hcons rfl ih
  | stop last =>
      cases last with
      | exhausted | found late => exact List.nil_prefix
      | unexpected early unblocked uncontrolled => exact hcons rfl List.nil_prefix
      | gatewayFailed early unblocked => exact hcons rfl List.nil_prefix
      | late early unblocked late => exact hcons rfl List.nil_prefix
      | committed early unblocked inTime ended => exact hcons rfl List.nil_prefix
      | cancelled early unblocked overtaken =>
          rcases overtaken with ⟨-, rfl⟩ | ⟨-, rfl⟩
          · exact hcons rfl (ids_overtakenAttempts _ ▸ List.prefix_refl _)
          · exact hcons rfl List.nil_prefix

/-- A chain without candidates left has entered every one of them. -/
theorem ids_of_exhausted {error : Option PyException}
    (h : ChainRun request (.exhausted error) candidates blocked lastError trace attempts) :
    ProviderAttempt.ids attempts = ProviderConfig.ids candidates := by
  induction h with
  | skipped early refused later ih => exact congrArg (List.cons _) ih
  | failed early unblocked controlled later ih => exact congrArg (List.cons _) ih
  | stop last =>
      cases last with
      | exhausted => rfl
      | committed early unblocked inTime ended => rcases ended with ended | ended <;> cases ended

/-- The entry of the candidate that responded is the last one, and the only success. -/
theorem attempts_of_responder {candidate : ProviderConfig μ}
    (h : ChainRun request ending candidates blocked lastError trace attempts)
    (hresponder : ending.responder? = some candidate) :
    ∃ before, attempts = before ++ [candidate.attempt .success none] ∧
      ∀ attempt ∈ before, attempt.outcome ≠ .success := by
  induction h with
  | skipped early refused later ih =>
      obtain ⟨before, rfl, hbefore⟩ := ih
      refine ⟨_ :: before, rfl, List.forall_mem_cons.mpr ⟨?_, hbefore⟩⟩
      simp [ProviderConfig.attempt]
  | failed early unblocked controlled later ih =>
      obtain ⟨before, rfl, hbefore⟩ := ih
      refine ⟨_ :: before, rfl, List.forall_mem_cons.mpr ⟨?_, hbefore⟩⟩
      simp [ProviderConfig.failedAttempt, ProviderConfig.attempt]
  | stop last =>
      refine ⟨[], ?_, List.forall_mem_nil _⟩
      cases last with
      | exhausted | found late => cases hresponder
      | cancelled early unblocked overtaken => cases hresponder
      | unexpected early unblocked uncontrolled => cases hresponder
      | gatewayFailed early unblocked | late early unblocked late =>
          cases hresponder
          rfl
      | committed early unblocked inTime ended =>
          rcases ended with rfl | rfl <;>
          · cases hresponder
            rfl

/-- An answer is what the gateway made of the candidate's text. -/
theorem produced_of_answered {candidate : ProviderConfig μ} {clean : String}
    (h : ChainRun request (.answered candidate clean) candidates blocked lastError trace attempts) :
    Produced trace candidate.id clean := by
  induction h with
  | skipped early refused later ih =>
      exact ih.mono fun event hevent => List.mem_cons_of_mem _ hevent
  | failed early unblocked controlled later ih =>
      exact ih.mono fun event hevent => List.mem_cons_of_mem _ (List.mem_cons_of_mem _ hevent)
  | stop last =>
      cases last with
      | committed early unblocked inTime ended =>
          rcases ended with ended | ended
          · cases ended
            exact ⟨_, _, _, _, List.mem_cons_of_mem _ (List.mem_cons_self ..),
              List.mem_cons_of_mem _ (List.mem_cons_of_mem _ (List.mem_cons_self ..))⟩
          · cases ended

/-- A candidate has responded exactly if the trace shows its answer. -/
theorem isAnswer_iff (h : ChainRun request ending candidates blocked lastError trace attempts) :
    (∃ event ∈ trace, EngineEvent.IsAnswer event) ↔ ending.responder?.isSome := by
  induction h with
  | skipped early refused later ih => simpa [EngineEvent.IsAnswer] using ih
  | failed early unblocked controlled later ih => simpa [EngineEvent.IsAnswer] using ih
  | stop last =>
      cases last with
      | exhausted | found late => simp [EngineEvent.IsAnswer, ChainEnding.responder?]
      | cancelled early unblocked overtaken =>
          simp [EngineEvent.IsAnswer, ChainEnding.responder?]
      | unexpected early unblocked uncontrolled =>
          simp [EngineEvent.IsAnswer, ChainEnding.responder?]
      | gatewayFailed early unblocked | late early unblocked late =>
          simp [EngineEvent.IsAnswer, ChainEnding.responder?]
      | committed early unblocked inTime ended =>
          rcases ended with rfl | rfl <;> simp [EngineEvent.IsAnswer, ChainEnding.responder?]

/-- A chain that has found the deadline read the clock last. -/
theorem last_of_deadlineFound
    (h : ChainRun request .deadlineFound candidates blocked lastError trace attempts) :
    ∃ before asked now, asked.own.deadline ≤ now ∧
      trace = before ++ [(⟨.loopTime, asked, now⟩ : EngineEvent μ)] := by
  induction h with
  | skipped early refused later ih =>
      obtain ⟨before, asked, now, hlate, rfl⟩ := ih
      exact ⟨_ :: before, asked, now, hlate, rfl⟩
  | failed early unblocked controlled later ih =>
      obtain ⟨before, asked, now, hlate, rfl⟩ := ih
      exact ⟨_ :: _ :: before, asked, now, hlate, rfl⟩
  | stop last =>
      cases last with
      | found late => exact ⟨[], _, _, late, rfl⟩
      | committed early unblocked inTime ended => rcases ended with ended | ended <;> cases ended

/-- A chain ended by an unexpected failure dispatched last. -/
theorem last_of_unexpected {error : PyException}
    (h : ChainRun request (.unexpected error) candidates blocked lastError trace attempts) :
    ∃ before providerId asked, trace = before ++
      [(⟨.dispatch providerId request, asked, .error (.raised error)⟩ : EngineEvent μ)] := by
  induction h with
  | skipped early refused later ih =>
      obtain ⟨before, providerId, asked, rfl⟩ := ih
      exact ⟨_ :: before, providerId, asked, rfl⟩
  | failed early unblocked controlled later ih =>
      obtain ⟨before, providerId, asked, rfl⟩ := ih
      exact ⟨_ :: _ :: before, providerId, asked, rfl⟩
  | stop last =>
      cases last with
      | unexpected early unblocked uncontrolled => exact ⟨[_], _, _, rfl⟩
      | committed early unblocked inTime ended => rcases ended with ended | ended <;> cases ended

/-- What the deadline leaves out of the path: it ends the chain with candidates unaccounted for
exactly if it overtakes it. -/
theorem overtaken_iff (h : ChainRun request ending candidates blocked lastError trace attempts) :
    Overtaken request candidates blocked trace ↔
      ending.byDeadline = true ∧ attempts.length < candidates.length := by
  induction h with
  | skipped early refused later ih =>
      rw [List.length_cons, List.length_cons, Nat.add_lt_add_iff_right, ← ih]
      refine ⟨fun hovertaken => ?_, fun hovertaken => .skipped early refused hovertaken⟩
      cases hovertaken with
      | found late => exact absurd late (not_le.mpr early)
      | cut unblocked => exact absurd refused unblocked
      | skipped _ _ later => exact later
      | failed unblocked => exact absurd refused unblocked
  | failed early unblocked controlled later ih =>
      rw [List.length_cons, List.length_cons, Nat.add_lt_add_iff_right, ← ih]
      refine ⟨fun hovertaken => ?_, fun hovertaken => .failed unblocked controlled hovertaken⟩
      cases hovertaken with
      | skipped _ refused => exact absurd refused unblocked
      | failed _ _ later => exact later
  | stop last =>
      cases last with
      | exhausted =>
          refine ⟨fun hovertaken => ?_, fun hended => by cases hended.1⟩
          cases hovertaken
      | found late => exact ⟨fun _ => ⟨rfl, Nat.succ_pos _⟩, fun _ => .found late⟩
      | unexpected early unblocked uncontrolled =>
          refine ⟨fun hovertaken => ?_, fun hended => by cases hended.1⟩
          cases hovertaken with
          | skipped _ refused => exact absurd refused unblocked
          | failed _ controlled => exact absurd controlled (by simp [uncontrolled])
      | gatewayFailed early unblocked | late early unblocked late =>
          refine ⟨fun hovertaken => ?_, fun hended => by cases hended.1⟩
          cases hovertaken with
          | skipped _ refused => exact absurd refused unblocked
      | committed early unblocked inTime ended =>
          refine ⟨fun hovertaken => ?_, fun hended => ?_⟩
          · cases hovertaken with
            | skipped _ refused => exact absurd refused unblocked
          · rcases ended with rfl | rfl <;> cases hended.1
      | @cancelled candidate rest asked dispatched resumed noted now first second byDeadline later
          early unblocked overtaken =>
          refine ⟨fun hovertaken => ?_, fun hended => ?_⟩
          · cases hovertaken with
            | skipped _ refused => exact absurd refused unblocked
            | cut _ pending =>
                rcases overtaken with ⟨hlate, -⟩ | ⟨-, rfl⟩
                · exact absurd hlate (not_le.mpr pending)
                · exact ⟨rfl, by simp⟩
          · obtain ⟨rfl, hlength⟩ := hended
            rcases overtaken with ⟨-, rfl⟩ | ⟨hpending, rfl⟩
            · simp [overtakenAttempts] at hlength
            · cases rest with
              | nil => simp at hlength
              | cons next rest => exact .cut unblocked hpending

variable {state : ConversationState} {m' : Memory μ} {out : Except Raised RoutingResponse}

/-- The deadline has ended the chain before an answer exactly if that is its ending. -/
theorem expired_iff (h : ChainRun request ending candidates blocked lastError trace attempts)
    (hyields : ending.Yields state m' out) :
    (DeadlineExpired trace out ∧ ∀ event ∈ trace, ¬ EngineEvent.IsAnswer event) ↔
      ending.byDeadline = true := by
  have hanswered : ending.responder? = none ↔ ∀ event ∈ trace, ¬ EngineEvent.IsAnswer event := by
    rw [← Option.not_isSome_iff_eq_none, ← h.isAnswer_iff]
    push Not
    rfl
  rw [← hanswered]
  cases ending with
  | answered candidate clean | unstored candidate | late candidate | gatewayFailed candidate =>
      exact iff_of_false (fun hexpired => by cases hexpired.2) (by simp [ChainEnding.byDeadline])
  | exhausted lastError =>
      refine iff_of_false (fun hexpired => ?_) (by simp [ChainEnding.byDeadline])
      cases hyields <;> cases hexpired.1
  | deadlineFound =>
      obtain ⟨before, asked, now, hlate, hlast⟩ := h.last_of_deadlineFound
      refine iff_of_true ⟨?_, rfl⟩ rfl
      rw [show out = _ from hyields]
      exact .found hlate hlast
  | cancelled byDeadline =>
      rw [show out = _ from hyields]
      refine ⟨fun hexpired => ?_, fun hdeadline => ⟨?_, rfl⟩⟩
      · cases hexpired.1
        rfl
      · cases show byDeadline = true from hdeadline
        exact .cancelled
  | unexpected error =>
      obtain ⟨before, providerId, asked, hlast⟩ := h.last_of_unexpected
      refine iff_of_false (fun hexpired => ?_) (by simp [ChainEnding.byDeadline])
      rw [show out = _ from hyields] at hexpired
      obtain ⟨hexpired, -⟩ := hexpired
      cases hexpired with
      | found late last => simp [hlast] at last

/-- The path accounts for the chain exactly if the deadline does not overtake it. -/
theorem pathAccounts_iff (h : ChainRun request ending candidates blocked lastError trace attempts)
    (hyields : ending.Yields state m' out) :
    PathAccounts candidates trace attempts out ↔ ¬ Overtaken request candidates blocked trace := by
  have hlength : ProviderAttempt.ids attempts = ProviderConfig.ids candidates ↔
      ¬ attempts.length < candidates.length := by
    refine ⟨fun hids => ?_, fun hlength => h.ids_prefix.eq_of_length_le ?_⟩
    · rw [← List.length_map (f := ProviderAttempt.providerId), ← ProviderAttempt.ids, hids,
        ProviderConfig.ids, List.length_map]
      exact lt_irrefl _
    · rw [ProviderAttempt.ids, ProviderConfig.ids, List.length_map, List.length_map]
      exact not_lt.mp hlength
  rw [h.overtaken_iff, ← h.expired_iff hyields]
  refine ⟨fun haccounts hovertaken => ?_, fun hnoticed => ?_⟩
  · obtain ⟨⟨hexpired, hanswer⟩, hshort⟩ := hovertaken
    exact hlength.mp (haccounts.expired hexpired hanswer) hshort
  · exact
      { ordered := h.ids_prefix
        unrepeated := fun hnodup => hnodup.sublist h.ids_prefix.sublist
        answered := by
          intro response hresponse haction
          cases ending with
          | answered candidate clean =>
              cases (show out = _ from hyields).symm.trans hresponse
              obtain ⟨before, hattempts, hbefore⟩ := h.attempts_of_responder rfl
              exact ⟨before, _, hattempts, rfl, hbefore, h.produced_of_answered⟩
          | unstored candidate | late candidate | deadlineFound | cancelled byDeadline
          | unexpected error => cases (show out = _ from hyields).symm.trans hresponse
          | gatewayFailed candidate | exhausted lastError => cases hyields <;> cases hresponse
        failed := by
          intro error hout hkind
          cases ending with
          | exhausted lastError => exact h.ids_of_exhausted
          | answered candidate clean | unstored candidate | late candidate | deadlineFound
          | cancelled byDeadline | unexpected error =>
              cases (show out = _ from hyields).symm.trans hout
          | gatewayFailed candidate =>
              cases hyields <;> cases hout
              cases hkind
        expired := fun hexpired hanswer =>
          hlength.mpr fun hshort => hnoticed ⟨⟨hexpired, hanswer⟩, hshort⟩ }

end ChainRun

/-- A run of the chain accounts for every candidate in its fallback path exactly if the deadline
does not overtake it. -/
theorem fallbackPath_accounts_iff {rely : Memory μ → Memory μ → Prop}
    {candidates : List (ProviderConfig μ)} {request : ProviderRequest} {state : ConversationState}
    {tenantId : String} {blocked : List Backend} {m m' : Memory μ} {trace : List (EngineEvent μ)}
    {out : Except Raised RoutingResponse} (hrely : LeavesOwn rely)
    (hfresh : m.own.providerAttempts = [])
    (hrun : Coro.Run rely (Routine.executeWithFallback candidates request state tenantId blocked) m
      trace m' out) :
    PathAccounts candidates trace m'.own.providerAttempts out ↔
      ¬ Overtaken request candidates blocked trace := by
  obtain ⟨attempts, ending, hchain, hledger, hyields⟩ :=
    Coro.wp_sound (executeWithFallback_runs hrely candidates) hrun
  rw [hledger.providerAttempts, hfresh, List.nil_append]
  exact hchain.pathAccounts_iff hyields

/-- Two providers, the second of which is to answer, and a minute's time. -/
def reserve : List (ProviderConfig ℤ) :=
  [generalProvider "first" 1 .google, generalProvider "second" 2 .nvidia]

def reserveMemory : Memory ℤ :=
  { deployment reserve
      (some { conversationId := "c", originalQuery := "question", maxAttempts := 2 })
    with own := { requestId := "", deadline := 60 } }

def reserveRequest : ProviderRequest := { text := "question", image := none }

def reserveState : ConversationState :=
  { conversationId := "c", originalQuery := "question", maxAttempts := 2 }

/-- The first provider fails, and the clock then shows `now`. -/
def reserveOracle (now : ℚ) : Coro.Oracle engineInterface
  | index, .loopTime => (if index = 0 then 0 else now : ℚ)
  | _, .decide _ _ => .ok (.decision generalDecision)
  | _, .dispatch providerId _ =>
      if providerId = "first" then .error (.raised { kind := .providerUnavailable }) else .ok "text"
  | _, .process response => (.ok response : Except PyException String)

def reserveRun (now : ℚ) : List (EngineEvent ℤ) × Memory ℤ × Except Raised RoutingResponse :=
  (Routine.executeWithFallback reserve reserveRequest reserveState "legacy" []).eval
    (reserveOracle now) reserveMemory 0

theorem run_reserve (now : ℚ) :
    Coro.Run Eq (Routine.executeWithFallback reserve reserveRequest reserveState "legacy" [])
      reserveMemory (reserveRun now).1 (reserveRun now).2.1 (reserveRun now).2.2 :=
  Coro.run_eval (fun _ => rfl) _ _ _ _

theorem fallbackPath_accounts_iff_reserve :
    PathAccounts reserve (reserveRun 30).1 (reserveRun 30).2.1.own.providerAttempts
        (reserveRun 30).2.2 ∧
      ProviderAttempt.ids (reserveRun 30).2.1.own.providerAttempts = ["first", "second"] := by
  refine ⟨(fallbackPath_accounts_iff (fun _ _ h => congrArg Mem.own h.symm) rfl
    (run_reserve 30)).mpr fun hovertaken => ?_, by decide +kernel⟩
  cases hovertaken with
  | skipped early refused => cases refused
  | failed unblocked controlled later =>
      cases later with
      | skipped early refused => cases refused

/-- The first provider fails and the minute is over: the second one is missing in the path. -/
theorem reserve_unrecorded :
    Coro.Run Eq (Routine.executeWithFallback reserve reserveRequest reserveState "legacy" [])
        reserveMemory (reserveRun 60).1 (reserveRun 60).2.1 (reserveRun 60).2.2 ∧
      ¬ PathAccounts reserve (reserveRun 60).1 (reserveRun 60).2.1.own.providerAttempts
        (reserveRun 60).2.2 := by
  refine ⟨run_reserve 60, fun haccounts => ?_⟩
  have hout : (reserveRun 60).2.2 = .error (.exception { kind := .timeoutError }) := by
    decide +kernel
  have hexpired : DeadlineExpired (reserveRun 60).1 (reserveRun 60).2.2 := by
    rw [hout]
    have hlast : (reserveRun 60).1 = [_, _] ++ [⟨.loopTime, (reserveRun 60).2.1, 60⟩] := rfl
    exact .found (by decide +kernel) hlast
  have hanswer : ∀ event ∈ (reserveRun 60).1, ¬ EngineEvent.IsAnswer event :=
    List.forall_mem_cons.mpr
      ⟨id, List.forall_mem_cons.mpr ⟨id, List.forall_mem_cons.mpr ⟨id, List.forall_mem_nil _⟩⟩⟩
  have hids := haccounts.expired hexpired hanswer
  exact absurd hids (by decide +kernel)

end LLMRouting
