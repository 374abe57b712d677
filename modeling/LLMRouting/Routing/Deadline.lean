/-
# How a request keeps its deadline

The deadline of a call is set when it begins. The loop cancels what the call awaits then, and the
call looks at the clock itself where the loop cannot help: before each dispatch and before an
answer is committed. Nobody is asked any more once the deadline has been found to be over or a
question has been cancelled, and no answer is given.
-/

import LLMRouting.Routing.Protocol

namespace LLMRouting

open LLMRouting.Interaction

variable {μ : Type}

namespace EngineEvent

/-- What the clock has shown. -/
def reading? : EngineEvent μ → Option ℚ
  | ⟨.loopTime, _, now⟩ => some now
  | _ => none

/-- Whether the deadline has cancelled the question; `none` if nobody has. -/
def interruption? : EngineEvent μ → Option Bool
  | ⟨.decide _ _, _, .error (.cancelled byDeadline)⟩
  | ⟨.dispatch _ _, _, .error (.cancelled byDeadline)⟩ => some byDeadline
  | _ => none

end EngineEvent

namespace RequestPhase

variable {deadline : ℚ} {phase next : RequestPhase} {event : EngineEvent μ}

/-- What a step can be. -/
inductive Stepped (deadline : ℚ) (next : RequestPhase) : RequestPhase → EngineEvent μ → Prop
  | primary {rounds : ℕ} {request : RouterRequest} {asked : Memory μ}
      {reply : Except Interruption RawDecision}
      (led : judged rounds (.primaryFailed rounds) (Routine.judged request reply) = next) :
      Stepped deadline next (.routing (rounds + 1)) ⟨.decide .primaryRouter request, asked, reply⟩
  | fallback {rounds : ℕ} {request : RouterRequest} {asked : Memory μ}
      {reply : Except Interruption RawDecision}
      (led : judged rounds .settled (Routine.judged request reply) = next) :
      Stepped deadline next (.primaryFailed rounds) ⟨.decide .fallbackRouter request, asked, reply⟩
  | selected {asked : Memory μ} {now : ℚ} (led : timed deadline now .cleared = next) :
      Stepped deadline next .selected ⟨.loopTime, asked, now⟩
  | cleared {asked : Memory μ} {now : ℚ} (led : timed deadline now .cleared = next) :
      Stepped deadline next .cleared ⟨.loopTime, asked, now⟩
  | dispatched {providerId : String} {request : ProviderRequest} {asked : Memory μ}
      {reply : Except Interruption String} (led : dispatched reply = next) :
      Stepped deadline next .cleared ⟨.dispatch providerId request, asked, reply⟩
  | processed {text : String} {asked : Memory μ} {reply : Except PyException String}
      (led : processed reply = next) :
      Stepped deadline next (.responded text) ⟨.process text, asked, reply⟩
  | cleaned {clean : String} {asked : Memory μ} {now : ℚ}
      (led : timed deadline now (.granted clean) = next) :
      Stepped deadline next (.cleaned clean) ⟨.loopTime, asked, now⟩
  | interrupted {byDeadline : Bool} {asked : Memory μ} {now : ℚ}
      (led : .interrupted byDeadline = next) :
      Stepped deadline next (.interrupted byDeadline) ⟨.loopTime, asked, now⟩

theorem step_cases (h : phase.step deadline event = some next) :
    Stepped deadline next phase event := by
  unfold step at h
  split at h
  · exact .primary (Option.some.inj h)
  · exact .fallback (Option.some.inj h)
  · exact .selected (Option.some.inj h)
  · exact .cleared (Option.some.inj h)
  · exact .dispatched (Option.some.inj h)
  · obtain ⟨rfl, hled⟩ := Option.ite_none_right_eq_some.mp h
    exact .processed (Option.some.inj hled)
  · exact .cleaned (Option.some.inj h)
  · exact .interrupted (Option.some.inj h)
  · cases h

/-- The candidates of a chain are being tried. -/
def InChain : RequestPhase → Prop
  | .cleared | .responded _ | .cleaned _ | .granted _ => True
  | _ => False

/-- No reply of a router leads into the middle of a chain. -/
theorem not_inChain_judged {rounds : ℕ} {failed : RequestPhase}
    {reply : Except Interruption RouterDecision} (hfailed : ¬ failed.InChain) :
    ¬ (judged rounds failed reply).InChain := by
  rcases reply with (byDeadline | error) | decision
  · exact id
  · exact hfailed
  · rw [judged, decided]
    cases decision.action with
    | answer | retry | clarify | stop => exact id

theorem not_inChain_dispatched_error {interruption : Interruption} :
    ¬ (dispatched (.error interruption)).InChain := by
  cases interruption with
  | cancelled byDeadline => exact id
  | raised error =>
      rw [dispatched]
      split
      · exact id
      · exact id

/-- How a step leads into the middle of a chain, or on in it. -/
inductive Entered (deadline : ℚ) : RequestPhase → EngineEvent μ → RequestPhase → Prop
  | cleared {phase : RequestPhase} {asked : Memory μ} {now : ℚ} (early : now < deadline) :
      Entered deadline phase ⟨.loopTime, asked, now⟩ .cleared
  | responded {providerId : String} {request : ProviderRequest} {asked : Memory μ} {text : String} :
      Entered deadline .cleared ⟨.dispatch providerId request, asked, .ok text⟩ (.responded text)
  | cleaned {text clean : String} {asked : Memory μ} :
      Entered deadline (.responded text) ⟨.process text, asked, .ok clean⟩ (.cleaned clean)
  | granted {clean : String} {asked : Memory μ} {now : ℚ} (early : now < deadline) :
      Entered deadline (.cleaned clean) ⟨.loopTime, asked, now⟩ (.granted clean)

theorem timed_early {now : ℚ} {early : RequestPhase} (h : (timed deadline now early).InChain) :
    now < deadline ∧ timed deadline now early = early := by
  rw [timed] at h ⊢
  split at h
  · cases h
  · rename_i hearly
    exact ⟨lt_of_not_ge hearly, if_neg hearly⟩

theorem Stepped.entered (h : Stepped deadline next phase event) (hnext : next.InChain) :
    Entered deadline phase event next := by
  cases h with
  | primary led | fallback led =>
      subst led
      exact absurd hnext (not_inChain_judged not_false)
  | selected led | cleared led =>
      subst led
      obtain ⟨hearly, hcleared⟩ := timed_early hnext
      rw [hcleared]
      exact .cleared hearly
  | @dispatched _ _ _ reply led =>
      subst led
      cases reply with
      | ok text => exact .responded
      | error interruption => exact absurd hnext not_inChain_dispatched_error
  | @processed _ _ reply led =>
      subst led
      cases reply with
      | ok clean => exact .cleaned
      | error error => cases hnext
  | cleaned led =>
      subst led
      obtain ⟨hearly, hgranted⟩ := timed_early hnext
      rw [hgranted]
      exact .granted hearly
  | interrupted led =>
      subst led
      cases hnext

/-- A closed phase is not left, and nothing but the clock is asked in it. -/
theorem Stepped.closed (h : Stepped deadline next phase event) (hphase : ¬ phase.Open) :
    next = phase ∧ event.reading?.isSome := by
  cases h with
  | interrupted led => exact ⟨led.symm, rfl⟩
  | _ => exact absurd trivial hphase

theorem steps_closed {last : RequestPhase} {trace : List (EngineEvent μ)}
    (h : Steps (Enabled (step deadline)) phase trace last) (hphase : ¬ phase.Open) :
    last = phase ∧ ∀ event ∈ trace, event.reading?.isSome := by
  induction h with
  | nil => exact ⟨rfl, List.forall_mem_nil _⟩
  | cons head _ ih =>
      obtain ⟨rfl, hread⟩ := (step_cases head).closed hphase
      obtain ⟨hlast, hrest⟩ := ih hphase
      exact ⟨hlast, List.forall_mem_cons.mpr ⟨hread, hrest⟩⟩

/-- A reading at or after the deadline closes the request. -/
theorem Stepped.overdue {asked : Memory μ} {now : ℚ}
    (h : Stepped deadline next phase ⟨.loopTime, asked, now⟩) (hlate : deadline ≤ now) :
    next = .overdue ∨ ∃ byDeadline, next = .interrupted byDeadline := by
  cases h with
  | selected led | cleared led | cleaned led =>
      subst led
      exact .inl (if_pos hlate)
  | interrupted led => exact .inr ⟨_, led.symm⟩

/-- A cancelled question closes the request. -/
theorem Stepped.interruption {byDeadline : Bool} (h : Stepped deadline next phase event)
    (hevent : event.interruption? = some byDeadline) : next = .interrupted byDeadline := by
  cases h with
  | @primary _ _ _ reply led | @fallback _ _ _ reply led =>
      subst led
      rcases reply with (_ | _) | _
      · cases hevent
        rfl
      · cases hevent
      · cases hevent
  | @dispatched _ _ _ reply led =>
      subst led
      rcases reply with (_ | _) | _
      · cases hevent
        rfl
      · cases hevent
      · cases hevent
  | selected led | cleared led | cleaned led | processed led | interrupted led => cases hevent

end RequestPhase

/-- How a call keeps its deadline: each dispatch comes right after a reading of the clock before
the deadline. After a reading that is not, and after a question that was cancelled, only the clock
is asked, and the call fails; it fails by the deadline unless somebody else has cancelled it, or
its diagnostics cannot be built, since the provider it has selected is not registered any more. An
answer comes from the last three questions: the provider responds, the gateway passes its text on,
and the clock shows that there is time left. -/
structure KeepsDeadline (deadline : ℚ) (trace : List (EngineEvent μ)) (m' : Memory μ)
    (out : Except Raised RoutingResponse) : Prop where
  dispatched : ∀ before event after, trace = before ++ event :: after → event.dispatched?.isSome →
    ∃ earlier asked, ∃ now : ℚ, before = earlier ++ [⟨.loopTime, asked, now⟩] ∧ now < deadline
  overdue : ∀ before asked after, ∀ now : ℚ, trace = before ++ ⟨.loopTime, asked, now⟩ :: after →
    deadline ≤ now → (∀ event ∈ after, event.reading?.isSome) ∧
      (Diagnosed m' .deadlineExceeded overdueFailure out ∨ out = .error (.cancelled false))
  interrupted : ∀ before event after byDeadline, trace = before ++ event :: after →
    event.interruption? = some byDeadline → (∀ event ∈ after, event.reading?.isSome) ∧
      if byDeadline then Diagnosed m' .deadlineExceeded overdueFailure out
      else out = .error (.cancelled false)
  answered : ∀ response, out = .ok response → response.action = .answer →
    ∃ earlier providerId request text dispatched processed asked, ∃ now : ℚ, trace = earlier ++
      [⟨.dispatch providerId request, dispatched, .ok text⟩,
        ⟨.process text, processed, .ok response.response⟩, ⟨.loopTime, asked, now⟩] ∧
      now < deadline

namespace RequestPhase

variable {deadline : ℚ} {phase first last : RequestPhase} {trace before : List (EngineEvent μ)}
  {m' : Memory μ} {out : Except Raised RoutingResponse}

/-- A candidate is dispatched right after a reading. -/
theorem cleared_of_steps (h : Steps (Enabled (step deadline)) first before .cleared)
    (hfirst : ¬ first.InChain) :
    ∃ earlier asked, ∃ now : ℚ, before = earlier ++ [⟨.loopTime, asked, now⟩] ∧ now < deadline := by
  rcases h.eq_nil_or_concat with ⟨-, rfl⟩ | ⟨earlier, event, middle, rfl, -, hstep⟩
  · exact absurd trivial hfirst
  · cases (step_cases hstep).entered trivial with
    | cleared hearly => exact ⟨earlier, _, _, rfl, hearly⟩

theorem responded_of_steps {text : String}
    (h : Steps (Enabled (step deadline)) first before (.responded text))
    (hfirst : ¬ first.InChain) :
    ∃ earlier providerId request asked,
      before = earlier ++ [⟨.dispatch providerId request, asked, .ok text⟩] := by
  rcases h.eq_nil_or_concat with ⟨-, rfl⟩ | ⟨earlier, event, middle, rfl, -, hstep⟩
  · exact absurd trivial hfirst
  · cases (step_cases hstep).entered trivial with
    | responded => exact ⟨earlier, _, _, _, rfl⟩

theorem cleaned_of_steps {clean : String}
    (h : Steps (Enabled (step deadline)) first before (.cleaned clean))
    (hfirst : ¬ first.InChain) :
    ∃ earlier providerId request text dispatched processed, before = earlier ++
      [⟨.dispatch providerId request, dispatched, .ok text⟩,
        ⟨.process text, processed, .ok clean⟩] := by
  rcases h.eq_nil_or_concat with ⟨-, rfl⟩ | ⟨before, event, middle, rfl, hbefore, hstep⟩
  · exact absurd trivial hfirst
  · cases (step_cases hstep).entered trivial with
    | @cleaned text _ processed =>
        obtain ⟨earlier, providerId, request, asked, rfl⟩ := responded_of_steps hbefore hfirst
        refine ⟨earlier, providerId, request, text, asked, processed, ?_⟩
        rw [List.append_assoc]
        rfl

/-- An answer is granted by the last three questions. -/
theorem granted_of_steps {clean : String}
    (h : Steps (Enabled (step deadline)) first trace (.granted clean)) (hfirst : ¬ first.InChain) :
    ∃ earlier providerId request text dispatched processed asked, ∃ now : ℚ, trace = earlier ++
      [⟨.dispatch providerId request, dispatched, .ok text⟩,
        ⟨.process text, processed, .ok clean⟩, ⟨.loopTime, asked, now⟩] ∧ now < deadline := by
  rcases h.eq_nil_or_concat with ⟨-, rfl⟩ | ⟨before, event, middle, rfl, hbefore, hstep⟩
  · exact absurd trivial hfirst
  · cases (step_cases hstep).entered trivial with
    | @granted _ asked now hearly =>
        obtain ⟨earlier, providerId, request, text, dispatched, processed, rfl⟩ :=
          cleaned_of_steps hbefore hfirst
        refine ⟨earlier, providerId, request, text, dispatched, processed, asked, now, ?_, hearly⟩
        rw [List.append_assoc]
        rfl

/-- A call that answers has been granted its answer. -/
theorem granted_of_ends {response : RoutingResponse} (h : last.Ends m' (.ok response))
    (haction : response.action = .answer) : last = .granted response.response := by
  have hraised : ¬ Diagnosed m' .deadlineExceeded overdueFailure
      (.ok response : Except Raised RoutingResponse) := by
    intro hdiagnosed
    obtain ⟨raised, hraised⟩ := hdiagnosed.raises
    cases hraised
  cases last with
  | granted clean =>
      obtain ⟨-, rfl⟩ := h response rfl
      rfl
  | overdue => exact absurd h hraised
  | interrupted byDeadline =>
      cases byDeadline with
      | true => exact absurd h hraised
      | false => cases h
  | routing rounds =>
      have hstop := h response rfl
      rw [Returns, haction] at hstop
      cases hstop
  | settled =>
      have hsettled := h response rfl
      rw [Returns, haction] at hsettled
      rcases hsettled with hsettled | hsettled <;> cases hsettled
  | primaryFailed rounds | selected | cleared | responded text | cleaned clean =>
      exact (h response rfl).elim

/-- The protocol keeps the deadline. -/
theorem keepsDeadline (hsteps : Steps (Enabled (step deadline)) first trace last)
    (hfirst : ¬ first.InChain) (hends : last.Ends m' out) :
    KeepsDeadline deadline trace m' out where
  dispatched := by
    rintro before event after rfl hevent
    obtain ⟨middle, next, hbefore, hstep, -⟩ := hsteps.split
    cases step_cases hstep with
    | dispatched led => exact cleared_of_steps hbefore hfirst
    | primary led | fallback led | selected led | cleared led | processed led | cleaned led
    | interrupted led => cases hevent
  overdue := by
    rintro before asked after now rfl hlate
    obtain ⟨middle, next, -, hstep, hafter⟩ := hsteps.split
    have hclosed := (step_cases hstep).overdue hlate
    obtain ⟨rfl, hread⟩ := steps_closed hafter (by rcases hclosed with rfl | ⟨_, rfl⟩ <;> exact id)
    refine ⟨hread, ?_⟩
    rcases hclosed with rfl | ⟨byDeadline, rfl⟩
    · exact .inl hends
    · cases byDeadline with
      | true => exact .inl hends
      | false => exact .inr hends
  interrupted := by
    rintro before event after byDeadline rfl hevent
    obtain ⟨middle, next, -, hstep, hafter⟩ := hsteps.split
    obtain rfl := (step_cases hstep).interruption hevent
    obtain ⟨rfl, hread⟩ := steps_closed hafter id
    refine ⟨hread, ?_⟩
    cases byDeadline with
    | true => exact hends
    | false => exact hends
  answered := by
    rintro response rfl haction
    obtain rfl := granted_of_ends hends haction
    exact granted_of_steps hsteps hfirst

end RequestPhase

/-- Whatever the routers, the providers, the gateway, the clock and the other tasks do: a call
keeps the deadline it has set with its first reading of the clock. -/
theorem handle_keeps_deadline [Metric μ] {rely : Memory μ → Memory μ → Prop}
    (hrely : LeavesOwn rely) {engine : RoutingEngine} {call : HandleCall} {m m' : Memory μ}
    {trace : List (EngineEvent μ)} {out : Except Raised RoutingResponse}
    (hrun : Coro.Run rely (Routine.handle engine call) m trace m' out) :
    ∃ (start : ℚ) (rest : List (EngineEvent μ)), trace = ⟨.loopTime, m, start⟩ :: rest ∧
      KeepsDeadline (start + engine.overallRequestTimeout) rest m' out := by
  obtain ⟨start, rest, rfl, last, hsteps, hends⟩ :=
    Coro.wp_sound (c := .relying rely) (Routine.handle_follows hrely) hrun
  exact ⟨start, rest, rfl, RequestPhase.keepsDeadline hsteps id hends⟩

/-- The first of two providers is unavailable, and there is no time left for the second. -/
def tardyCall : HandleCall := { request := { conversationId := "c", message := "hello" } }

def tardyMemory : Memory ℤ :=
  deployment [generalProvider "first" 1 .google, generalProvider "second" 2 .nvidia] none

/-- The clock shows twenty seconds more with every question. -/
def tardyReplies : Coro.Oracle engineInterface
  | index, .loopTime => (20 * index : ℚ)
  | index, query => scripted (fun _ => .ok (.decision generalDecision))
      (fun _ => .error (.raised { kind := .providerUnavailable })) index query

def tardy : List (EngineEvent ℤ) × Memory ℤ × Except Raised RoutingResponse :=
  (Routine.handle { maxAttempts := 5 } tardyCall).eval tardyReplies tardyMemory 0

theorem handle_keeps_deadline_tardy :
    dispatched tardy.1 = ["first"] ∧ ∃ rest, KeepsDeadline 60 rest tardy.2.1 tardy.2.2 := by
  have hdispatched : dispatched tardy.1 = ["first"] := by decide +kernel
  have hrun : Coro.Run Eq (Routine.handle { maxAttempts := 5 } tardyCall) tardyMemory tardy.1
      tardy.2.1 tardy.2.2 :=
    Coro.run_eval (fun _ => rfl) tardyReplies _ tardyMemory 0
  obtain ⟨start, rest, htrace, hkeeps⟩ := handle_keeps_deadline (fun m m' h => by rw [h]) hrun
  have hstart : (tardy.1.head?.bind EngineEvent.reading?) = some 0 := by decide +kernel
  rw [htrace] at hstart
  obtain rfl : start = 0 := Option.some.inj hstart
  refine ⟨hdispatched, rest, ?_⟩
  simpa using hkeeps

end LLMRouting
