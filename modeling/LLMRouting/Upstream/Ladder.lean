/-
# The router ladder down to the wire

The ladder consults the primary tier and, if that fails or decides badly, the fallback tier.
A tier may repair its reply once. This module follows a run of the ladder with its two
routers: which tier decides, when the second one is consulted, when both have failed, and
what each of them posts.
-/

import LLMRouting.Upstream.Refusals

namespace LLMRouting

open LLMRouting.Interaction

variable {μ : Type} {rely : Memory μ → Memory μ → Prop} {m m' : Memory μ}

/-- The request was given up because the call was cancelled. -/
def Posting.cancelled (posting : Posting) : Bool :=
  match posting.reply with
  | .error (.interrupted (.cancelled _)) => true
  | _ => false

/-- Any change of the memory whatsoever can be borne. -/
theorem bearable_anything : Bearable fun _ _ : Memory μ => True where
  refl _ := trivial
  trans _ _ := trivial
  circuits _ _ := trivial

namespace StructuredHTTPRouter

variable {router : StructuredHTTPRouter} {tier : RouterTier} {request : RouterRequest}
  {report : UpstreamError → UpstreamError} {posted : List Posting}
  {out : Except UpstreamError RouterDecision}

/-- Only a successful reply can be read and found to be no decision. -/
theorem success_of_received_defect {reply : Except TransportFailure HttpResponse}
    {defect : ReplyDefect} (h : router.received reply = .error (.defect defect)) :
    ∃ response, reply = .ok response ∧ 200 ≤ response.status ∧ response.status < 300 ∧
      ∀ decision, router.reader.parse response ≠ .ok decision := by
  cases hchecked : checked reply with
  | error error =>
      rw [router.received_of_error hchecked] at h
      cases h
      exact (checked_ne_defect defect hchecked).elim
  | ok response =>
      rw [router.received_of_ok hchecked] at h
      cases reply with
      | error failure => cases hchecked
      | ok arrived =>
          rw [checked, HttpResponse.raiseForStatus] at hchecked
          split_ifs at hchecked with hstatus
          cases hchecked
          refine ⟨response, rfl, hstatus.1, hstatus.2, ?_⟩
          intro decision hparse
          rw [hparse] at h
          cases h

/-- No handler turns another error into a cancellation. -/
theorem eq_cancelled_of_reported {error : UpstreamError} {byDeadline : Bool}
    (h : router.reported error = .raised (.cancelled byDeadline)) :
    error = .raised (.cancelled byDeadline) := by
  have hescalated : ∀ error : UpstreamError,
      router.escalated error = .raised (.cancelled byDeadline) →
        error = .raised (.cancelled byDeadline) := by
    intro error h
    rw [escalated] at h
    split_ifs at h with htimeout
    · cases h
    · exact h
  have hwrapped := hescalated _ h
  cases error with
  | http error => cases hwrapped
  | defect defect => cases hwrapped
  | raised interruption => exact hwrapped

/-- An exchange that ends with a cancellation was cancelled itself. -/
theorem cancelled_of_received {reply : Except TransportFailure HttpResponse} {byDeadline : Bool}
    (h : (router.received reply).mapError router.reported =
      .error (.raised (.cancelled byDeadline))) :
    reply = .error (.interrupted (.cancelled byDeadline)) := by
  cases hreceived : router.received reply with
  | ok decision =>
      rw [hreceived] at h
      cases h
  | error error =>
      rw [hreceived] at h
      have hcancelled := eq_cancelled_of_reported (Except.error.inj h)
      rw [hcancelled] at hreceived
      cases reply with
      | error failure =>
          cases failure with
          | timeout | network | other => cases hreceived
          | interrupted interruption =>
              cases hreceived
              rfl
      | ok response =>
          cases hchecked : checked (.ok response) with
          | error error =>
              rw [router.received_of_error hchecked] at hreceived
              cases hreceived
              rw [checked, HttpResponse.raiseForStatus] at hchecked
              split_ifs at hchecked
              cases hchecked
          | ok accepted =>
              rw [router.received_of_ok hchecked] at hreceived
              rcases ReplyReader.isReading_of_parse hreceived with ⟨defect, h⟩ | h
              · cases h
              · cases h

/-- The decision of a tier that was cancelled is a cancelled request. -/
theorem Decided.exists_cancelled {byDeadline : Bool}
    (h : router.Decided router.reported tier request posted out)
    (hout : out = .error (.raised (.cancelled byDeadline))) :
    ∃ posting ∈ posted, posting.cancelled = true := by
  cases h with
  | @first reply result received usable =>
      rw [← received] at hout
      refine ⟨_, List.mem_singleton_self _, ?_⟩
      rw [posting, Posting.cancelled, cancelled_of_received hout]
  | @repaired first second defect unusable =>
      refine ⟨_, List.mem_cons_of_mem _ (List.mem_singleton_self _), ?_⟩
      rw [posting, Posting.cancelled, cancelled_of_received hout]

/-- A tier posts on its own behalf. -/
theorem Decided.own (h : router.Decided report tier request posted out) :
    ∀ posting ∈ posted, posting.backend = router.backend ∧
      ∃ repair, posting.caller = .router tier request repair := by
  intro posting hposting
  cases h with
  | first =>
      rw [List.mem_singleton.mp hposting]
      exact ⟨rfl, false, rfl⟩
  | repaired =>
      obtain hfirst | hsecond := List.mem_pair.mp hposting
      · rw [hfirst]
        exact ⟨rfl, false, rfl⟩
      · rw [hsecond]
        exact ⟨rfl, true, rfl⟩

theorem Decided.length_le (h : router.Decided report tier request posted out) :
    posted.length ≤ 2 := by
  cases h with
  | first => exact Nat.le_succ 1
  | repaired => exact Nat.le_refl 2

/-- The first reply of a tier that posts twice was successful, and no decision. -/
theorem Decided.repaired_success (h : router.Decided report tier request posted out) :
    ∀ first second, posted = [first, second] →
      ∃ response, first.reply = .ok response ∧ 200 ≤ response.status ∧ response.status < 300 ∧
        ∀ decision, router.reader.parse response ≠ .ok decision := by
  intro first second hposted
  cases h with
  | first => cases hposted
  | repaired unusable =>
      cases hposted
      exact success_of_received_defect unusable

end StructuredHTTPRouter

/-- A circuit that lets a request through has admitted it at some moment. -/
theorem Exchange.allowRequest_admits {backend : Backend} :
    (Exchange.allowRequest backend).wp (Contract.relying rely) (fun _ _ out => out = .ok true →
      ∃ now circuit, (m.shared.circuits backend).allowRequest now = some (true, circuit)) m := by
  rw [Exchange.allowRequest, Coro.wp_bind, Exchange.monotonic, Coro.wp_ask]
  refine ⟨fun _ => trivial, ?_⟩
  intro now m₁ hresumes
  have hsame : m₁ = m := by simpa [Coro.Resumes] using hresumes
  simp only [Coro.wp_bind, Coro.wp_get]
  rw [hsame]
  cases hallow : (m.shared.circuits backend).allowRequest now with
  | none =>
      intro h
      cases h
  | some admission =>
      obtain ⟨admitted, circuit⟩ := admission
      refine ⟨trivial, ?_⟩
      intro hout
      cases hout
      exact ⟨now, circuit, hallow⟩

/-- A tier posts nothing that the circuit of its backend has not admitted. -/
theorem StructuredHTTPRouter.decide_admitted {router : StructuredHTTPRouter} {tier : RouterTier}
    {request : RouterRequest} (hrely : Bearable rely) :
    (router.decide tier request).wp (Contract.relying rely) (fun trace _ _ =>
      postings trace ≠ [] → ∃ now circuit,
        (m.shared.circuits router.backend).allowRequest now = some (true, circuit)) m := by
  rw [StructuredHTTPRouter.decide, Coro.wp_bind]
  apply Coro.wp_mono (Coro.wp_and (Exchange.allowRequest_silent hrely) Exchange.allowRequest_admits)
  intro trace m₁ out hallowed
  obtain ⟨⟨hsilent, -⟩, hadmits⟩ := hallowed
  cases out with
  | error error =>
      intro hposted
      exact (hposted hsilent.postings_eq).elim
  | ok admitted =>
      cases admitted with
      | false =>
          intro hposted
          exact (hposted hsilent.stop.postings_eq).elim
      | true =>
          apply Coro.wp_mono (Coro.wp_relying _)
          intro _ _ _ _ _
          exact hadmits rfl

/-- One run of a tier's router in the course of a ladder. -/
structure Routers.Consultation (routers : Routers) (rely : Memory μ → Memory μ → Prop)
    (request : RouterRequest) (tier : RouterTier) where
  before : Memory μ
  trace : List (SystemEvent μ)
  after : Memory μ
  out : Except UpstreamError RouterDecision
  run : Coro.Run rely ((routers tier).decide tier request) before trace after out

namespace Routers.Consultation

variable {routers : Routers} {request : RouterRequest} {tier : RouterTier}

/-- The router's answer as the ladder sees it. -/
def reply (consultation : routers.Consultation rely request tier) :
    Except Interruption RawDecision :=
  (consultation.out.map .decision).mapError UpstreamError.toInterruption

/-- The tier returned this decision, and the validator accepts it for the request. -/
def Yields (consultation : routers.Consultation rely request tier) (decision : RouterDecision) :
    Prop :=
  consultation.out = .ok decision ∧
    DecisionValidator.validate (.decision decision) request.availableTaskGroups request.hasImage
      request.retry = .ok decision

/-- The tier failed, or its decision was invalid. -/
def Fails (consultation : routers.Consultation rely request tier) : Prop :=
  ∀ decision, ¬ consultation.Yields decision

/-- What a tier posts: at most two requests on its own behalf, none unless the circuit of its
backend admits it, and a second one only after a successful reply that is no decision. -/
structure Bounded (consultation : routers.Consultation rely request tier) : Prop where
  own : ∀ posting ∈ postings consultation.trace,
    posting.backend = (routers tier).backend ∧
      ∃ repair, posting.caller = .router tier request repair
  length_le : (postings consultation.trace).length ≤ 2
  repaired : ∀ first second, postings consultation.trace = [first, second] →
    ∃ response, first.reply = .ok response ∧ 200 ≤ response.status ∧ response.status < 300 ∧
      ∀ decision, (routers tier).reader.parse response ≠ .ok decision
  admitted : postings consultation.trace ≠ [] → ∃ now circuit,
    (consultation.before.shared.circuits (routers tier).backend).allowRequest now =
      some (true, circuit)

theorem Yields.eq {consultation : routers.Consultation rely request tier}
    {decision decision' : RouterDecision} (h : consultation.Yields decision)
    (h' : consultation.Yields decision') : decision' = decision :=
  Except.ok.inj (h'.1.symm.trans h.1)

theorem Yields.not_fails {consultation : routers.Consultation rely request tier}
    {decision : RouterDecision} (h : consultation.Yields decision) : ¬ consultation.Fails :=
  fun hfails => hfails decision h

/-- The ladder accepts what the tier yields. -/
theorem judged_eq_ok_iff {consultation : routers.Consultation rely request tier}
    {decision : RouterDecision} :
    Routine.judged request consultation.reply = .ok decision ↔ consultation.Yields decision := by
  rw [LLMRouting.judged_eq_ok_iff, reply, Yields]
  cases consultation.out with
  | error error =>
      apply iff_of_false
      · intro h
        obtain ⟨raw, hraw, -⟩ := h
        cases hraw
      · intro h
        cases h.1
  | ok decided =>
      apply Iff.intro
      · intro h
        obtain ⟨raw, hraw, hvalid⟩ := h
        cases hraw
        have hparsed := (DecisionValidator.validate_eq_ok_iff.mp hvalid).1
        cases hparsed
        exact ⟨rfl, hvalid⟩
      · intro h
        cases h.1
        exact ⟨_, rfl, h.2⟩

theorem fails_of_judged {consultation : routers.Consultation rely request tier}
    {interruption : Interruption}
    (h : Routine.judged request consultation.reply = .error interruption) : consultation.Fails := by
  intro decision hyields
  rw [judged_eq_ok_iff.mpr hyields] at h
  cases h

/-- The ladder is cancelled only where the tier was. -/
theorem out_of_judged_cancelled {consultation : routers.Consultation rely request tier}
    {byDeadline : Bool}
    (h : Routine.judged request consultation.reply = .error (.cancelled byDeadline)) :
    consultation.out = .error (.raised (.cancelled byDeadline)) := by
  rw [reply] at h
  cases hout : consultation.out with
  | ok decision =>
      rw [hout] at h
      cases hvalid : DecisionValidator.validate (.decision decision) request.availableTaskGroups
          request.hasImage request.retry with
      | error invalid =>
          simp only [Except.map, Except.mapError, Routine.judged, Except.bind, hvalid] at h
          cases h
      | ok accepted =>
          simp only [Except.map, Except.mapError, Routine.judged, Except.bind, hvalid] at h
          cases h
  | error error =>
      rw [hout] at h
      cases error with
      | http error => cases h
      | defect defect => cases h
      | raised interruption =>
          cases h
          rfl

/-- What a tier posts and how its run ends, whatever it may rely on. -/
theorem posts (consultation : routers.Consultation rely request tier) :
    (postings consultation.trace = [] ∧
        ∃ error : PyException, consultation.out = .error (.ofException error)) ∨
      (routers tier).Decided (routers tier).reported tier request (postings consultation.trace)
        consultation.out := by
  have hposts := Coro.wp_sound ((routers tier).decide_posts bearable_anything)
    (consultation.run.mono fun _ _ _ => trivial)
  obtain ⟨hsilent, error, hout, -⟩ | ⟨posted, hexchanged, hdecided⟩ := hposts
  · exact Or.inl ⟨hsilent.postings_eq, error, hout⟩
  · rw [hexchanged.postings_eq]
    exact Or.inr hdecided

/-- A tier that was cancelled had a request cancelled. -/
theorem exists_cancelled (consultation : routers.Consultation rely request tier) {byDeadline : Bool}
    (hout : consultation.out = .error (.raised (.cancelled byDeadline))) :
    ∃ posting ∈ postings consultation.trace, posting.cancelled = true := by
  obtain ⟨-, error, herror⟩ | hdecided := consultation.posts
  · rw [hout] at herror
    cases herror
  · exact hdecided.exists_cancelled hout

theorem admitted (consultation : routers.Consultation rely request tier) :
    postings consultation.trace ≠ [] → ∃ now circuit,
      (consultation.before.shared.circuits (routers tier).backend).allowRequest now =
        some (true, circuit) :=
  Coro.wp_sound (StructuredHTTPRouter.decide_admitted bearable_anything)
    (consultation.run.mono fun _ _ _ => trivial)

/-- A tier whose circuit is open posts nothing. -/
theorem bounded_of_silent {consultation : routers.Consultation rely request tier}
    (hsilent : postings consultation.trace = []) : consultation.Bounded where
  own := by
    rw [hsilent]
    exact List.forall_mem_nil _
  length_le := by
    rw [hsilent]
    exact Nat.zero_le 2
  repaired := by
    intro first second hposted
    rw [hsilent] at hposted
    cases hposted
  admitted := consultation.admitted

/-- No tier posts more than it may. -/
theorem bounded (consultation : routers.Consultation rely request tier) : consultation.Bounded := by
  cases consultation.posts with
  | inl silent => exact bounded_of_silent silent.1
  | inr decided =>
      exact ⟨decided.own, decided.length_le, decided.repaired_success, consultation.admitted⟩

end Routers.Consultation

/-- `_decision_from_ladder` with its routers. -/
def Routers.decisionFromLadder (routers : Routers) (request : RouterRequest) :
    Coro systemInterface (Memory μ) Raised (RouterDecision × List Backend) :=
  (Routine.decisionFromLadder request).inline routers.program

section Climb

variable {routers : Routers} {request : RouterRequest} {tier : RouterTier}
  {tiers : List RouterTier} {blocked : List Backend}

theorem inline_askRouter :
    (Routine.askRouter tier request : Routine μ _).inline routers.program =
      (routers.program (.decide tier request)).rescue Empty.elim :=
  Coro.inline_ask

/-- The question for a tier's decision is answered by a run of the tier. -/
theorem program_consults :
    (routers.program (.decide tier request)).wp (Contract.relying rely) (fun trace m' out =>
      ∃ consultation : routers.Consultation rely request tier, consultation.before = m ∧
        consultation.trace = trace ∧ consultation.after = m' ∧ out = .ok consultation.reply) m := by
  rw [Routers.program, Routers.awaited, Coro.wp_attempt, Coro.wp_translate, Coro.wp_bind]
  apply Coro.wp_mono (Coro.wp_of_run fun _ _ _ hrun => hrun)
  intro trace m₁ out hrun
  cases out with
  | error error => exact ⟨⟨m, trace, m₁, .error error, hrun⟩, rfl, rfl, rfl, rfl⟩
  | ok decision =>
      apply Coro.wp_pure.mpr
      rw [List.append_nil]
      exact ⟨⟨m, trace, m₁, .ok decision, hrun⟩, rfl, rfl, rfl, rfl⟩

/-- What consulting one tier comes to: it decides, it is cancelled, or it fails and the rest
of the ladder follows. -/
inductive Tried (routers : Routers) (rely : Memory μ → Memory μ → Prop) (request : RouterRequest)
    (tier : RouterTier) (m : Memory μ)
    (rest : Memory μ → List (SystemEvent μ) →
      Except Raised (RouterDecision × List Backend) → Prop) :
    List (SystemEvent μ) → Except Raised (RouterDecision × List Backend) → Prop
  | decided (consultation : routers.Consultation rely request tier) {decision : RouterDecision}
      {blocked : List Backend} (begins : consultation.before.shared = m.shared)
      (yields : consultation.Yields decision) :
      Tried routers rely request tier m rest consultation.trace (.ok (decision, blocked))
  | cancelled (consultation : routers.Consultation rely request tier)
      {trace : List (SystemEvent μ)} {raised : Raised} {posting : Posting}
      (posted : posting ∈ postings consultation.trace) (cancelled : posting.cancelled = true) :
      Tried routers rely request tier m rest (consultation.trace ++ trace) (.error raised)
  | next (consultation : routers.Consultation rely request tier) {m₁ : Memory μ}
      {trace : List (SystemEvent μ)} {out : Except Raised (RouterDecision × List Backend)}
      (begins : consultation.before.shared = m.shared) (fails : consultation.Fails)
      (continues : m₁.shared = consultation.after.shared) (later : rest m₁ trace out) :
      Tried routers rely request tier m rest (consultation.trace ++ trace) out

theorem climb_cons_tried (tier : RouterTier) (tiers : List RouterTier) (blocked : List Backend)
    {rest : Memory μ → List (SystemEvent μ) →
      Except Raised (RouterDecision × List Backend) → Prop}
    (hrest : ∀ (m₁ : Memory μ) blocked', ((Routine.climb request tiers blocked').inline
      routers.program).wp (Contract.relying rely) (fun trace _ out => rest m₁ trace out) m₁) :
    ((Routine.climb request (tier :: tiers) blocked).inline routers.program).wp
      (Contract.relying rely)
      (fun trace _ out => Tried routers rely request tier m rest trace out) m := by
  rw [Routine.climb, Routine.note]
  simp only [Coro.inline_bind, Coro.inline_modify, inline_askRouter]
  apply Coro.wp_modify_bind_relying.mpr
  rw [Coro.wp_bind, Coro.wp_rescue]
  apply Coro.wp_mono program_consults
  intro trace m₁ out hconsulted
  obtain ⟨consultation, hbefore, rfl, hafter, rfl⟩ := hconsulted
  have hbegins : consultation.before.shared = m.shared := by rw [hbefore]
  cases hjudged : Routine.judged request consultation.reply with
  | ok decision =>
      simp only [hjudged, Routine.noteRouterDecided, Routine.note, Coro.inline_bind,
        Coro.inline_modify]
      apply Coro.wp_modify_bind_relying.mpr
      apply Coro.wp_pure.mpr
      rw [List.append_nil]
      exact .decided consultation hbegins (Routers.Consultation.judged_eq_ok_iff.mp hjudged)
  | error interruption =>
      have hfails := Routers.Consultation.fails_of_judged hjudged
      cases interruption with
      | cancelled byDeadline =>
          have hout := Routers.Consultation.out_of_judged_cancelled hjudged
          obtain ⟨posting, hposted, hcancelled⟩ := consultation.exists_cancelled hout
          simp only [hjudged]
          refine ⟨fun _ => trivial, ?_⟩
          intro now m₂ _
          exact ⟨trivial, .cancelled consultation hposted hcancelled⟩
      | raised error =>
          simp only [hjudged, Routine.noteRouterFailed, Routine.note, Coro.inline_bind,
            Coro.inline_modify]
          apply Coro.wp_modify_bind_relying.mpr
          apply Coro.wp_mono (hrest _ _)
          intro later m' out hlater
          refine .next consultation hbegins hfails ?_ hlater
          rw [hafter]

/-- A failure asks nothing, and raises something. -/
theorem fail_raises {α : Type} {kind : RoutingErrorKind} {failure : TerminalFailure} :
    ((Routine.fail kind failure : Routine μ α).inline routers.program).wp (Contract.relying rely)
      (fun trace _ out => trace = [] ∧ ∃ raised, out = .error raised) m := by
  rw [Routine.fail, Routine.memory]
  cases hbuilt : buildDiagnostics m.shared.registry m.own failure with
  | some diagnostics =>
      simp only [Coro.inline_bind, Coro.inline_get, Coro.inline_raise, Coro.wp_bind, Coro.wp_get,
        hbuilt]
      exact ⟨rfl, _, rfl⟩
  | none =>
      simp only [Coro.inline_bind, Coro.inline_get, Coro.inline_raise, Coro.wp_bind, Coro.wp_get,
        hbuilt]
      exact ⟨rfl, _, rfl⟩

end Climb

/-- A run of the ladder: its consultations follow one another, with nothing in between. -/
structure Ascent (routers : Routers) (rely : Memory μ → Memory μ → Prop) (request : RouterRequest)
    (m : Memory μ) (trace : List (SystemEvent μ)) where
  primary : routers.Consultation rely request .primaryRouter
  fallback : Option (routers.Consultation rely request .fallbackRouter)
  trace_eq : trace = primary.trace ++ fallback.elim [] Routers.Consultation.trace
  begins : primary.before.shared = m.shared
  continues : ∀ second ∈ fallback, second.before.shared = primary.after.shared

namespace Ascent

variable {routers : Routers} {request : RouterRequest} {trace : List (SystemEvent μ)}

/-- The ladder returns what the first tier that yields a valid decision does, and raises if
none does; the fallback tier is consulted only after the primary one has failed. No tier
posts more than it may. -/
structure Climbs (ascent : Ascent routers rely request m trace)
    (out : Except Raised (RouterDecision × List Backend)) : Prop where
  valid : ∀ decision blocked, out = .ok (decision, blocked) →
    DecisionValidator.validate (.decision decision) request.availableTaskGroups request.hasImage
        request.retry = .ok decision ∧
      DecisionValidator.Suits decision request.availableTaskGroups request.hasImage request.retry
  primary_decides : ∀ decision, ascent.primary.Yields decision →
    ∃ blocked, out = .ok (decision, blocked)
  fallback_decides : ∀ second ∈ ascent.fallback, ∀ decision, second.Yields decision →
    ∃ blocked, out = .ok (decision, blocked)
  consulted_iff : ascent.fallback.isSome = true ↔ ascent.primary.Fails
  raised_iff : (∃ raised, out = .error raised) ↔
    ascent.primary.Fails ∧ ∃ second ∈ ascent.fallback, second.Fails
  primary_bounded : ascent.primary.Bounded
  fallback_bounded : ∀ second ∈ ascent.fallback, second.Bounded

variable {ascent : Ascent routers rely request m trace}

/-- The tier consulted last decides. -/
theorem climbs_of_decided {decision : RouterDecision} {blocked : List Backend}
    (hvalid : DecisionValidator.validate (.decision decision) request.availableTaskGroups
      request.hasImage request.retry = .ok decision)
    (hconsulted : ascent.fallback.isSome = true ↔ ascent.primary.Fails)
    (hprimary : ∀ decision', ascent.primary.Yields decision' → decision' = decision)
    (hfallback : ∀ second ∈ ascent.fallback, second.Yields decision) :
    ascent.Climbs (.ok (decision, blocked)) where
  valid := by
    intro decision' blocked' hout
    cases hout
    exact ⟨hvalid, (DecisionValidator.validate_eq_ok_iff.mp hvalid).2⟩
  primary_decides := by
    intro decision' hyields
    rw [hprimary decision' hyields]
    exact ⟨blocked, rfl⟩
  fallback_decides := by
    intro second hsecond decision' hyields
    rw [(hfallback second hsecond).eq hyields]
    exact ⟨blocked, rfl⟩
  consulted_iff := hconsulted
  raised_iff := by
    apply iff_of_false
    · intro h
      cases h with
      | intro raised hraised => cases hraised
    · intro h
      obtain ⟨-, second, hsecond, hfails⟩ := h
      exact (hfallback second hsecond).not_fails hfails
  primary_bounded := ascent.primary.bounded
  fallback_bounded second _ := second.bounded

/-- Both tiers fail. -/
theorem climbs_of_failed {second : routers.Consultation rely request .fallbackRouter}
    {raised : Raised} (hprimary : ascent.primary.Fails) (hsecond : ascent.fallback = some second)
    (hfallback : second.Fails) : ascent.Climbs (.error raised) where
  valid := by
    intro decision blocked hout
    cases hout
  primary_decides decision hyields := (hprimary decision hyields).elim
  fallback_decides := by
    intro other hother decision hyields
    rw [hsecond] at hother
    cases hother
    exact (hfallback decision hyields).elim
  consulted_iff := by
    rw [hsecond]
    exact iff_of_true rfl hprimary
  raised_iff := iff_of_true ⟨raised, rfl⟩ ⟨hprimary, second, hsecond, hfallback⟩
  primary_bounded := ascent.primary.bounded
  fallback_bounded other _ := other.bounded

end Ascent

/-- The ladder, whatever the replies and the surroundings are, unless a request is given up
because the call was cancelled. -/
theorem decisionFromLadder_climbs {routers : Routers} {request : RouterRequest}
    {trace : List (SystemEvent μ)} {out : Except Raised (RouterDecision × List Backend)}
    (hrun : Coro.Run rely (routers.decisionFromLadder request) m trace m' out)
    (huncancelled : ∀ posting ∈ postings trace, posting.cancelled = false) :
    ∃ ascent : Ascent routers rely request m trace, ascent.Climbs out := by
  have hladder := Coro.wp_sound (climb_cons_tried .primaryRouter [.fallbackRouter] []
    fun m₁ blocked => climb_cons_tried .fallbackRouter [] blocked fun m₂ blocked' => fail_raises)
    hrun
  cases hladder with
  | decided primary begins yields =>
      let ascent : Ascent routers rely request m primary.trace :=
        ⟨primary, none, (List.append_nil _).symm, begins, by simp⟩
      refine ⟨ascent, Ascent.climbs_of_decided yields.2 ?_ ?_ ?_⟩
      · exact iff_of_false Bool.false_ne_true yields.not_fails
      · exact fun _ => yields.eq
      · intro second hsecond
        cases hsecond
  | cancelled primary posted cancelled =>
      rw [postings_append] at huncancelled
      rw [huncancelled _ (List.mem_append_left _ posted)] at cancelled
      cases cancelled
  | next primary begins fails continues later =>
      cases later with
      | decided fallback begins' yields =>
          let ascent : Ascent routers rely request m (primary.trace ++ fallback.trace) :=
            ⟨primary, some fallback, rfl, begins, by simp [begins', continues]⟩
          refine ⟨ascent, Ascent.climbs_of_decided yields.2 ?_ ?_ ?_⟩
          · exact iff_of_true rfl fails
          · intro decision hyields
            exact (fails decision hyields).elim
          · intro second hsecond
            cases hsecond
            exact yields
      | cancelled fallback posted cancelled =>
          rw [postings_append, postings_append] at huncancelled
          rw [huncancelled _ (List.mem_append_right _ (List.mem_append_left _ posted))] at cancelled
          cases cancelled
      | next fallback begins' fails' continues' later =>
          obtain ⟨rfl, raised, rfl⟩ := later
          rw [List.append_nil]
          let ascent : Ascent routers rely request m (primary.trace ++ fallback.trace) :=
            ⟨primary, some fallback, rfl, begins, by simp [begins', continues]⟩
          exact ⟨ascent, Ascent.climbs_of_failed fails rfl fails'⟩

/-- The primary tier's first reply is no decision, and its second one is not valid for a new
message; the fallback tier answers. -/
def muddledPrimary : Coro.Oracle systemInterface
  | _, .loopTime => (0 : ℚ)
  | _, .monotonic => (0 : ℚ)
  | _, .post (.router .primaryRouter _ repair) _ =>
      (.ok (completion (if repair then retryText else "general")) :
        Except TransportFailure HttpResponse)
  | _, .post (.router .fallbackRouter _ _) _ =>
      (.ok (completion answerText) : Except TransportFailure HttpResponse)
  | _, .post (.provider _ _) _ => (.ok (completion "text") : Except TransportFailure HttpResponse)
  | _, .closeClient _ _ _ => (.ok () : Except TransportFailure Unit)
  | _, .process response => (.ok response : Except PyException String)

/-- A new message. -/
def firstRequest : RouterRequest where
  retry := false
  originalQuery := "question"
  latestUserMessage := "question"
  previousResponse := none
  attempt := 0
  maxAttempts := 5
  hasImage := false
  availableTaskGroups := [.general]

def muddled :
    List (SystemEvent ℤ) × Memory ℤ × Except Raised (RouterDecision × List Backend) :=
  (googleThenNvidia.decisionFromLadder firstRequest).eval muddledPrimary secondOpinionMemory 0

/-- Three requests are posted before the fallback tier decides. -/
theorem decisionFromLadder_climbs_muddled :
    ((postings muddled.1).map fun posting => posting.backend) = [.google, .google, .nvidia] ∧
      muddled.2.2.toOption = some (generalDecision, []) ∧
      ∃ ascent : Ascent googleThenNvidia Eq firstRequest secondOpinionMemory muddled.1,
        ascent.Climbs muddled.2.2 := by
  refine ⟨by decide +kernel, by decide +kernel, ?_⟩
  have hrun : Coro.Run Eq
      (googleThenNvidia.decisionFromLadder firstRequest) secondOpinionMemory muddled.1 muddled.2.1
      muddled.2.2 :=
    Coro.run_eval (fun _ => rfl) _ _ _ _
  exact decisionFromLadder_climbs hrun (by decide +kernel)

end LLMRouting
