/-
# What a router or a dispatch posts

Every run of `decide` and of `dispatch` posts to one backend only: a router at most twice,
the second time only after a successful reply that is no decision, a dispatch at most once.
What the engine is told afterwards is a function of the replies.
-/

import LLMRouting.Interaction.RelyGuarantee
import LLMRouting.Upstream.Programs

namespace LLMRouting

open LLMRouting.Interaction

variable {μ α : Type}

abbrev SystemEvent (μ : Type) : Type := Event systemInterface (Memory μ)

/-- A request that was posted to a backend, and what came of it. -/
structure Posting where
  caller : UpstreamCaller
  backend : Backend
  reply : Except TransportFailure HttpResponse

/-- The backend refused the request's credentials. -/
def Posting.refused (posting : Posting) : Bool :=
  match posting.reply with
  | .ok response => isAuthStatus response.status
  | .error _ => false

/-- A client that was closed while an exception was pending or none was. -/
structure Closing where
  backend : Backend
  pending : Option UpstreamError
  reply : Except TransportFailure Unit

/-- A client was closed because its backend had refused, and closing it failed, so that the
refusal is forgotten. -/
def Closing.losesRefusal (closing : Closing) : Bool :=
  match closing.pending, closing.reply with
  | some (.http (.status code _)), .error _ => isAuthStatus code
  | _, _ => false

namespace SystemEvent

def posting? : SystemEvent μ → Option Posting
  | ⟨.post caller backend, _, reply⟩ => some ⟨caller, backend, reply⟩
  | _ => none

def closing? : SystemEvent μ → Option Closing
  | ⟨.closeClient _ backend pending, _, reply⟩ => some ⟨backend, pending, reply⟩
  | _ => none

end SystemEvent

/-- The requests a trace posts, in order. -/
def postings (trace : List (SystemEvent μ)) : List Posting :=
  trace.filterMap SystemEvent.posting?

def closings (trace : List (SystemEvent μ)) : List Closing :=
  trace.filterMap SystemEvent.closing?

@[simp]
theorem postings_append {first second : List (SystemEvent μ)} :
    postings (first ++ second) = postings first ++ postings second :=
  List.filterMap_append

@[simp]
theorem closings_append {first second : List (SystemEvent μ)} :
    closings (first ++ second) = closings first ++ closings second :=
  List.filterMap_append

/-- A change of the memory that an exchange can bear while it is suspended, and that its own
use of the circuits is an instance of. -/
structure Bearable (rely : Memory μ → Memory μ → Prop) : Prop where
  refl : ∀ m, rely m m
  trans : ∀ {first second third}, rely first second → rely second third → rely first third
  circuits : ∀ (m : Memory μ) circuits,
    rely m { m with shared := { m.shared with circuits := circuits } }

/-- The memory changes in a bearable way while the requests `posted` are posted and the
clients `closed` are closed. -/
structure Exchanged (rely : Memory μ → Memory μ → Prop) (m : Memory μ)
    (trace : List (SystemEvent μ)) (m' : Memory μ) (posted : List Posting)
    (closed : List Closing) : Prop where
  rely : rely m m'
  postings_eq : postings trace = posted
  closings_eq : closings trace = closed

section Exchanged

variable {rely : Memory μ → Memory μ → Prop} {m middle m' : Memory μ}
  {first second : List (SystemEvent μ)} {posted posted' : List Posting}
  {closed closed' : List Closing}

theorem Exchanged.nil (hrely : Bearable rely) (m : Memory μ) : Exchanged rely m [] m [] [] :=
  ⟨hrely.refl m, rfl, rfl⟩

theorem Exchanged.append (hrely : Bearable rely) (h : Exchanged rely m first middle posted closed)
    (h' : Exchanged rely middle second m' posted' closed') :
    Exchanged rely m (first ++ second) m' (posted ++ posted') (closed ++ closed') where
  rely := hrely.trans h.rely h'.rely
  postings_eq := by rw [postings_append, h.postings_eq, h'.postings_eq]
  closings_eq := by rw [closings_append, h.closings_eq, h'.closings_eq]

/-- The task ends here. -/
theorem Exchanged.stop (h : Exchanged rely m first m' posted closed) :
    Exchanged rely m (first ++ []) m' posted closed := by
  rwa [List.append_nil]

/-- Nothing more is posted or closed. -/
theorem Exchanged.silent (hrely : Bearable rely) (h : Exchanged rely m first middle posted closed)
    (h' : Exchanged rely middle second m' [] []) :
    Exchanged rely m (first ++ second) m' posted closed := by
  have happend := h.append hrely h'
  rwa [List.append_nil, List.append_nil] at happend

end Exchanged

theorem checked_ne_defect {reply : Except TransportFailure HttpResponse} (defect : ReplyDefect) :
    checked reply ≠ .error (.defect defect) := by
  intro h
  cases reply with
  | error failure => cases failure <;> cases h
  | ok response =>
      simp only [checked, HttpResponse.raiseForStatus] at h
      split_ifs at h
      cases h

/-- A refused request ends its exchange with the status it was refused with. -/
theorem checked_of_refused {posting : Posting} (h : posting.refused = true) :
    ∃ code text, checked posting.reply = .error (.http (.status code text)) ∧
      isAuthStatus code = true := by
  rcases posting with ⟨caller, backend, failure | response⟩
  · cases h
  · refine ⟨response.status, response.text, ?_, h⟩
    have hstatus : response.status = 401 ∨ response.status = 403 := of_decide_eq_true h
    show response.raiseForStatus = _
    rw [HttpResponse.raiseForStatus, if_neg]
    omega

namespace Exchange

variable {rely : Memory μ → Memory μ → Prop} (hrely : Bearable rely) {m : Memory μ}

include hrely

theorem setCircuit_silent {backend : Backend} {update : BackendCircuit → BackendCircuit} :
    (setCircuit backend update).wp (Contract.relying rely) (fun trace m' out =>
      Exchanged rely m trace m' [] [] ∧ m'.shared.registry = m.shared.registry ∧ out = .ok ()) m :=
  ⟨trivial, ⟨hrely.circuits m _, rfl, rfl⟩, rfl, rfl⟩

theorem monotonic_silent :
    monotonic.wp (Contract.relying rely)
      (fun trace m' out => Exchanged rely m trace m' [] [] ∧ m' = m ∧ ∃ now, out = .ok now) m := by
  rw [monotonic]
  rw [Coro.wp_ask]
  refine ⟨fun _ => trivial, ?_⟩
  intro now m' hm'
  obtain rfl : m' = m := by simpa [Coro.Resumes] using hm'
  exact ⟨⟨hrely.refl m', rfl, rfl⟩, rfl, now, rfl⟩

theorem allowRequest_silent {backend : Backend} :
    (allowRequest backend).wp (Contract.relying rely) (fun trace m' out =>
      Exchanged rely m trace m' [] [] ∧ m'.shared.registry = m.shared.registry ∧
        ∀ error, out = .error error → error = .ofException { kind := .other }) m := by
  rw [allowRequest]
  rw [Coro.wp_bind]
  apply Coro.wp_mono (monotonic_silent hrely)
  rintro trace _ _ ⟨hclock, rfl, now, rfl⟩
  simp only [Coro.wp_bind, Coro.wp_get]
  split
  · refine ⟨hclock.stop, rfl, ?_⟩
    rintro error ⟨⟩
    rfl
  · simp only [Coro.wp_bind]
    apply Coro.wp_mono (setCircuit_silent hrely)
    rintro rest m' _ ⟨hrest, hregistry, rfl⟩
    refine ⟨hclock.silent hrely (hrest.stop), hregistry, ?_⟩
    rintro error ⟨⟩

theorem recordFailure_silent {backend : Backend} {backendTransient : Bool} :
    (recordFailure backend backendTransient).wp (Contract.relying rely)
      (fun trace m' out => Exchanged rely m trace m' [] [] ∧ out = .ok ()) m := by
  rw [recordFailure]
  rw [Coro.wp_bind]
  apply Coro.wp_mono (monotonic_silent hrely)
  rintro trace _ _ ⟨hclock, rfl, now, rfl⟩
  apply Coro.wp_mono (setCircuit_silent hrely)
  rintro rest m' _ ⟨hrest, -, rfl⟩
  exact ⟨hclock.silent hrely hrest, rfl⟩

omit hrely in
/-- A post suspends once, and its outcome is the checked reply. -/
theorem post_posts {caller : UpstreamCaller} {backend : Backend} :
    (post caller backend).wp (Contract.relying rely) (fun trace m' out => ∃ reply,
      Exchanged rely m trace m' [⟨caller, backend, reply⟩] [] ∧ out = checked reply) m := by
  rw [post]
  rw [Coro.wp_bind, Coro.wp_ask]
  refine ⟨fun _ => trivial, ?_⟩
  intro reply m' hm'
  apply Coro.wp_settle.mpr
  exact ⟨reply, ⟨by simpa [Coro.Resumes, Contract.relying] using hm', rfl, rfl⟩, rfl⟩

end Exchange

namespace StructuredHTTPRouter

open Exchange

variable (router : StructuredHTTPRouter)

/-- What a reply to a router comes to before errors are translated. -/
def received (reply : Except TransportFailure HttpResponse) : Except UpstreamError RouterDecision :=
  (checked reply).bind router.reader.parse

theorem received_of_ok {reply : Except TransportFailure HttpResponse} {response : HttpResponse}
    (h : checked reply = .ok response) :
    router.received reply = router.reader.parse response := by
  rw [received, h]
  rfl

theorem received_of_error {reply : Except TransportFailure HttpResponse} {error : UpstreamError}
    (h : checked reply = .error error) : router.received reply = .error error := by
  rw [received, h]
  rfl

/-- The error `_decide_with_repair` raises for one that its exchanges end with. -/
def wrapped : UpstreamError → UpstreamError
  | .http error => .ofException (router.unavailable (.http error))
  | .defect defect => .ofException (unusable defect)
  | .raised interruption => .raised interruption

/-- The error `decide` raises for one that passes its handlers. -/
def escalated (error : UpstreamError) : UpstreamError :=
  if error.isTimeoutError then .ofException (router.unavailable error) else error

/-- The error `decide` raises for one that its exchanges end with. -/
def reported (error : UpstreamError) : UpstreamError := router.escalated (router.wrapped error)

/-- A request to a tier, posted with the reply it got. -/
def posting (tier : RouterTier) (request : RouterRequest) (repair : Bool)
    (reply : Except TransportFailure HttpResponse) : Posting :=
  ⟨.router tier request repair, router.backend, reply⟩

/-- What a tier that was let through posts, and the outcome, given how it reports an error:
the repair follows only on a successful reply that is no decision. -/
inductive Decided (report : UpstreamError → UpstreamError) (tier : RouterTier)
    (request : RouterRequest) : List Posting → Except UpstreamError RouterDecision → Prop
  | first {reply : Except TransportFailure HttpResponse}
      {result : Except UpstreamError RouterDecision} (received : router.received reply = result)
      (usable : ∀ defect, result ≠ .error (.defect defect)) :
      Decided report tier request [router.posting tier request false reply] (result.mapError report)
  | repaired {first second : Except TransportFailure HttpResponse} {defect : ReplyDefect}
      (unusable : router.received first = .error (.defect defect)) :
      Decided report tier request
        [router.posting tier request false first, router.posting tier request true second]
        ((router.received second).mapError report)

/-- Errors that are translated once more are reported as the translations of both say. -/
theorem Decided.mapError {report : UpstreamError → UpstreamError} {tier : RouterTier}
    {request : RouterRequest} {posted : List Posting} {out : Except UpstreamError RouterDecision}
    (h : router.Decided report tier request posted out)
    (translate : UpstreamError → UpstreamError) :
    router.Decided (fun error => translate (report error)) tier request posted
      (out.mapError translate) := by
  have hcomp : ∀ result : Except UpstreamError RouterDecision,
      (result.mapError report).mapError translate =
        result.mapError fun error => translate (report error) := by
    intro result
    cases result <;> rfl
  cases h with
  | first received usable =>
      rw [hcomp]
      exact .first received usable
  | repaired unusable =>
      rw [hcomp]
      exact .repaired unusable

variable {rely : Memory μ → Memory μ → Prop} (hrely : Bearable rely) {m : Memory μ}
  {tier : RouterTier} {request : RouterRequest}

section Programs

include hrely

theorem raiseUnavailable_silent {error : UpstreamError} :
    (router.raiseUnavailable (α := α) error).wp (Contract.relying rely) (fun trace m' out =>
      Exchanged rely m trace m' [] [] ∧
        out = .error (.ofException (router.unavailable error))) m := by
  rw [raiseUnavailable]
  rw [Coro.wp_bind]
  apply Coro.wp_mono (recordFailure_silent hrely)
  rintro trace m' _ ⟨hsilent, rfl⟩
  exact ⟨hsilent.stop, rfl⟩

/-- One exchange posts once, and its outcome is the checked reply with the client's errors
wrapped. -/
theorem exchange_posts {caller : UpstreamCaller} :
    (router.exchange caller).wp (Contract.relying rely) (fun trace m' out => ∃ reply,
      Exchanged rely m trace m' [⟨caller, router.backend, reply⟩] [] ∧
        out = (checked reply).mapError router.wrapped) m := by
  rw [exchange]
  rw [Coro.wp_rescue]
  apply Coro.wp_mono post_posts
  rintro trace m' _ ⟨reply, hposted, rfl⟩
  cases hchecked : checked reply with
  | ok response => exact ⟨reply, hposted, by rw [hchecked]; rfl⟩
  | error error =>
      cases error with
      | defect defect => exact absurd hchecked (checked_ne_defect defect)
      | raised interruption => exact ⟨reply, hposted.stop, by rw [hchecked]; rfl⟩
      | http error =>
          apply Coro.wp_mono (router.raiseUnavailable_silent hrely)
          rintro rest m₂ _ ⟨hrest, rfl⟩
          exact ⟨reply, hposted.silent hrely hrest, by rw [hchecked]; rfl⟩

theorem repair_posts :
    (router.repair tier request).wp (Contract.relying rely) (fun trace m' out => ∃ reply,
      Exchanged rely m trace m' [router.posting tier request true reply] [] ∧
        out = (router.received reply).mapError router.wrapped) m := by
  rw [repair]
  rw [Coro.wp_bind]
  apply Coro.wp_mono (router.exchange_posts hrely)
  rintro trace m₁ _ ⟨reply, hposted, rfl⟩
  cases hchecked : checked reply with
  | error error =>
      exact ⟨reply, hposted, by rw [router.received_of_error hchecked]; rfl⟩
  | ok response =>
      simp only [Except.mapError]
      cases hparse : router.reader.parse response with
      | ok decision =>
          refine ⟨reply, hposted.stop, ?_⟩
          rw [router.received_of_ok hchecked, hparse]
      | error error =>
          have hreceived := router.received_of_ok hchecked
          rw [hparse] at hreceived
          rcases ReplyReader.isReading_of_parse hparse with ⟨defect, rfl⟩ | rfl
          · simp only [Coro.wp_bind]
            apply Coro.wp_mono (recordFailure_silent hrely)
            rintro rest m₂ _ ⟨hrest, rfl⟩
            refine ⟨reply, hposted.silent hrely (hrest.stop), ?_⟩
            rw [hreceived]
            rfl
          · refine ⟨reply, hposted.stop, ?_⟩
            rw [hreceived]
            rfl

theorem decideWithRepair_decided :
    (router.decideWithRepair tier request).wp (Contract.relying rely) (fun trace m' out =>
      ∃ posted, Exchanged rely m trace m' posted [] ∧
        router.Decided router.wrapped tier request posted out) m := by
  rw [decideWithRepair]
  rw [Coro.wp_bind]
  apply Coro.wp_mono (router.exchange_posts hrely)
  rintro trace m₁ _ ⟨reply, hposted, rfl⟩
  cases hchecked : checked reply with
  | error error =>
      refine ⟨_, hposted, .first (router.received_of_error hchecked) ?_⟩
      rintro defect ⟨⟩
      exact checked_ne_defect defect hchecked
  | ok response =>
      have hreceived := router.received_of_ok hchecked
      simp only [Except.mapError]
      cases hparse : router.reader.parse response with
      | ok decision =>
          rw [hparse] at hreceived
          refine ⟨_, hposted.stop, .first hreceived ?_⟩
          rintro defect ⟨⟩
      | error error =>
          rw [hparse] at hreceived
          rcases ReplyReader.isReading_of_parse hparse with ⟨defect, rfl⟩ | rfl
          · apply Coro.wp_mono (router.repair_posts hrely)
            rintro rest m₂ _ ⟨second, hsecond, rfl⟩
            exact ⟨_, hposted.append hrely hsecond, .repaired hreceived⟩
          · refine ⟨_, hposted.stop, .first hreceived ?_⟩
            rintro defect ⟨⟩

/-- What `decide` posts and raises: nothing, or what a tier that was let through does. -/
theorem decide_posts :
    (router.decide tier request).wp (Contract.relying rely) (fun trace m' out =>
      (Exchanged rely m trace m' [] [] ∧
          ∃ error : PyException, out = .error (.ofException error) ∧ error.blocksBackend = false) ∨
        ∃ posted, Exchanged rely m trace m' posted [] ∧
          router.Decided router.reported tier request posted out) m := by
  rw [decide]
  rw [Coro.wp_bind]
  apply Coro.wp_mono (allowRequest_silent hrely)
  rintro trace m₁ out ⟨hallowed, -, hassert⟩
  rcases out with error | admitted
  · exact Or.inl ⟨hallowed, _, congrArg _ (hassert error rfl), rfl⟩
  · cases admitted with
    | false => exact Or.inl ⟨hallowed.stop, _, rfl, rfl⟩
    | true =>
        simp only [if_true, Coro.wp_bind, Coro.wp_rescue]
        apply Coro.wp_mono (router.decideWithRepair_decided hrely)
        rintro rest m₂ result ⟨posted, hposted, hdecided⟩
        have hreported := hdecided.mapError router router.escalated
        cases result with
        | ok decision =>
            apply Coro.wp_mono (setCircuit_silent hrely)
            rintro last m₃ _ ⟨hlast, -, rfl⟩
            exact Or.inr ⟨posted,
              hallowed.append hrely (hposted.silent hrely hlast.stop), hreported⟩
        | error error =>
            by_cases htimeout : error.isTimeoutError = true
            · have hescalated : router.escalated error = .ofException (router.unavailable error) :=
                if_pos htimeout
              simp only [htimeout, if_true]
              apply Coro.wp_mono (router.raiseUnavailable_silent hrely)
              rintro last m₃ _ ⟨hlast, rfl⟩
              rw [← hescalated]
              exact Or.inr ⟨posted,
                hallowed.append hrely (hposted.silent hrely hlast), hreported⟩
            · have hescalated : router.escalated error = error := if_neg htimeout
              simp only [htimeout, Bool.false_eq_true, if_false, Coro.wp_bind]
              apply Coro.wp_mono (setCircuit_silent hrely)
              rintro last m₃ _ ⟨hlast, -, rfl⟩
              rw [Except.mapError, hescalated] at hreported
              exact Or.inr ⟨posted,
                hallowed.append hrely (hposted.silent hrely hlast.stop), hreported⟩

end Programs

section Refusals

variable {report : UpstreamError → UpstreamError} {posted : List Posting}
  {out : Except UpstreamError RouterDecision} {posting : Posting}

theorem Decided.caller (h : router.Decided report tier request posted out)
    (hposting : posting ∈ posted) :
    posting.caller.tier? = some tier ∧ posting.backend = router.backend := by
  cases h with
  | first =>
      rw [List.mem_singleton.mp hposting]
      exact ⟨rfl, rfl⟩
  | repaired =>
      rcases List.mem_pair.mp hposting with rfl | rfl
      · exact ⟨rfl, rfl⟩
      · exact ⟨rfl, rfl⟩

/-- A decision is what one of the replies comes to. -/
theorem Decided.answered {decision : RouterDecision}
    (h : router.Decided report tier request posted out) (hout : out = .ok decision) :
    ∃ posting ∈ posted, (∃ repair, posting.caller = .router tier request repair) ∧
      router.received posting.reply = .ok decision := by
  have hreceived : ∀ {result : Except UpstreamError RouterDecision},
      result.mapError report = .ok decision → result = .ok decision := by
    intro result h
    cases result with
    | error error => cases h
    | ok value => exact h
  cases h with
  | first received usable =>
      exact ⟨_, List.mem_singleton_self _, ⟨false, rfl⟩, received.trans (hreceived hout)⟩
  | repaired unusable =>
      exact ⟨_, List.mem_cons_of_mem _ (List.mem_singleton_self _), ⟨true, rfl⟩,
        hreceived hout⟩

/-- Nothing is posted after a refusal. -/
theorem Decided.refused_last (h : router.Decided report tier request posted out) :
    posted.Pairwise fun earlier _ => earlier.refused = false := by
  cases h with
  | first => exact List.pairwise_singleton _ _
  | @repaired first second defect unusable =>
      rw [List.pairwise_pair]
      by_contra hrefused
      obtain ⟨code, text, hchecked, -⟩ := checked_of_refused (Bool.not_eq_false _ ▸ hrefused)
      cases unusable.symm.trans (router.received_of_error hchecked)

/-- After a refusal the engine is told to stay away from the backend. -/
theorem Decided.blocks (h : router.Decided router.reported tier request posted out)
    (hposting : posting ∈ posted) (hrefused : posting.refused = true) :
    ∃ error : PyException, out = .error (.ofException error) ∧
      Routine.refusedBackend error = [router.backend] := by
  obtain ⟨code, text, hchecked, hcode⟩ := checked_of_refused hrefused
  have hout : ∀ {reply : Except TransportFailure HttpResponse},
      checked reply = .error (.http (.status code text)) →
        (router.received reply).mapError router.reported =
          .error (.ofException (router.unavailable (.http (.status code text)))) := by
    intro reply hreply
    rw [router.received_of_error hreply]
    rfl
  have hblocked : Routine.refusedBackend (router.unavailable (.http (.status code text))) =
      [router.backend] := by
    have hblocks : (router.unavailable (.http (.status code text))).blocksBackend = true := hcode
    rw [Routine.refusedBackend, if_pos hblocks]
    rfl
  cases h with
  | first received usable =>
      rw [List.mem_singleton.mp hposting] at hchecked
      rw [← received]
      exact ⟨_, hout hchecked, hblocked⟩
  | repaired unusable =>
      rcases List.mem_pair.mp hposting with rfl | rfl
      · cases unusable.symm.trans (router.received_of_error hchecked)
      · exact ⟨_, hout hchecked, hblocked⟩

end Refusals

end StructuredHTTPRouter

namespace ProviderDispatcher

open Exchange

/-- What a reply to an adapter comes to before errors are translated. -/
def received (reply : Except TransportFailure HttpResponse) : Except UpstreamError String :=
  (checked reply).bind HttpResponse.content

/-- What the body of `generate` posts and comes to: one request, unless there is no key to
send along. -/
inductive Completed (config : ProviderConfig μ) (request : ProviderRequest) :
    List Posting → Except UpstreamError String → Prop
  | keyless (unkeyed : config.apiKey = none) :
      Completed config request [] (.error (.ofException { kind := .other }))
  | posted (keyed : config.apiKey ≠ none) (reply : Except TransportFailure HttpResponse) :
      Completed config request [⟨.provider config.id request, config.backend, reply⟩]
        (received reply)

/-- What a dispatch does: raise without asking anybody, or post at most once to the backend of
its provider, close the client, and report what either of the two came to. -/
inductive Dispatched (registry : Registry μ) (providerId : String) (request : ProviderRequest) :
    List Posting → List Closing → Except UpstreamError String → Prop
  | unasked {error : PyException} (unblocking : error.blocksBackend = false) :
      Dispatched registry providerId request [] [] (.error (.ofException error))
  | asked {config : ProviderConfig μ} {posted : List Posting}
      {outcome : Except UpstreamError String}
      (registered : registry.getProvider? providerId = some config)
      (completed : Completed config request posted outcome)
      (closing : Except TransportFailure Unit) :
      Dispatched registry providerId request posted
        [⟨config.backend, pending outcome, closing⟩]
        (((closed outcome closing).mapError generated).mapError executed)

variable {rely : Memory μ → Memory μ → Prop} (hrely : Bearable rely) {m : Memory μ}
  {request : ProviderRequest}

section Programs

include hrely

theorem complete_posts {config : ProviderConfig μ} :
    (complete config request).wp (Contract.relying rely) (fun trace m' out => ∃ posted,
      Exchanged rely m trace m' posted [] ∧ Completed config request posted out) m := by
  rw [complete]
  split
  · exact ⟨[], .nil hrely m, .keyless ‹_›⟩
  · rename_i key hkey
    have hkeyed : config.apiKey ≠ none := by
      rw [hkey]
      exact Option.some_ne_none key
    rw [Coro.wp_bind]
    apply Coro.wp_mono post_posts
    rintro trace m' _ ⟨reply, hposted, rfl⟩
    cases hchecked : checked reply with
    | error error =>
        have hreceived : received reply = .error error := by rw [received, hchecked]; rfl
        exact ⟨_, hposted, hreceived ▸ .posted hkeyed reply⟩
    | ok response =>
        have hreceived : received reply = response.content := by rw [received, hchecked]; rfl
        apply Coro.wp_settle.mpr
        exact ⟨_, hposted.stop, hreceived ▸ .posted hkeyed reply⟩

/-- The client is closed once, whatever the exchange came to. -/
theorem generate_posts {config : ProviderConfig μ} :
    (generate config request).wp (Contract.relying rely) (fun trace m' out =>
      ∃ posted outcome closing, Completed config request posted outcome ∧
        Exchanged rely m trace m' posted [⟨config.backend, pending outcome, closing⟩] ∧
          out = (closed outcome closing).mapError generated) m := by
  rw [generate, withClient]
  rw [Coro.wp_translate, Coro.wp_bind, Coro.wp_attempt]
  apply Coro.wp_mono (complete_posts hrely)
  rintro trace m₁ outcome ⟨posted, hposted, hcompleted⟩
  simp only
  rw [Coro.wp_bind, Coro.wp_ask]
  refine ⟨fun _ => trivial, ?_⟩
  intro closing m₂ hm₂
  have hclosed : Exchanged rely m₁
      [⟨.closeClient config.id config.backend (pending outcome), m₁, closing⟩] m₂ []
      [⟨config.backend, pending outcome, closing⟩] :=
    ⟨by simpa [Coro.Resumes, Contract.relying] using hm₂, rfl, rfl⟩
  have hexchanged := hposted.append hrely hclosed.stop
  rw [List.append_nil posted] at hexchanged
  apply Coro.wp_settle.mpr
  exact ⟨posted, outcome, closing, hcompleted, hexchanged, rfl⟩

theorem execute_posts {providerId : String} :
    (execute providerId request).wp (Contract.relying rely) (fun trace m' out => ∃ posted closed,
      Exchanged rely m trace m' posted closed ∧
        Dispatched m.shared.registry providerId request posted closed out) m := by
  rw [execute, resolve]
  simp only [Coro.wp_translate, Coro.wp_bind, Coro.wp_get]
  split
  · exact ⟨[], [], .nil hrely m, .unasked rfl⟩
  · rename_i config hconfig
    by_cases henabled : config.enabled = true
    · simp only [henabled, if_true]
      apply Coro.wp_pure.mpr
      apply Coro.wp_mono (generate_posts hrely)
      rintro trace m' _ ⟨posted, outcome, closing, hcompleted, hexchanged, rfl⟩
      exact ⟨posted, _, hexchanged, .asked hconfig hcompleted closing⟩
    · simp only [henabled, Bool.false_eq_true, if_false]
      exact ⟨[], [], .nil hrely m, .unasked rfl⟩

theorem reportFailure_silent {backend : Backend} {error : UpstreamError} :
    (reportFailure (α := α) backend error).wp (Contract.relying rely) (fun trace m' out =>
      Exchanged rely m trace m' [] [] ∧ out = .error error) m := by
  rw [reportFailure]
  split
  · rw [Coro.wp_bind]
    apply Coro.wp_mono (recordFailure_silent hrely)
    rintro trace m' _ ⟨hsilent, rfl⟩
    exact ⟨hsilent.stop, rfl⟩
  · rw [releaseProbe, Coro.wp_bind]
    apply Coro.wp_mono (setCircuit_silent hrely)
    rintro trace m' _ ⟨hsilent, -, rfl⟩
    exact ⟨hsilent.stop, rfl⟩

/-- The circuit is consulted before the provider is looked up once more, and told afterwards;
neither posts anything. -/
theorem dispatch_posts {providerId : String} :
    (dispatch providerId request).wp (Contract.relying rely) (fun trace m' out => ∃ posted closed,
      Exchanged rely m trace m' posted closed ∧
        Dispatched m.shared.registry providerId request posted closed out) m := by
  rw [dispatch]
  simp only [Coro.wp_bind, Coro.wp_get]
  split
  · exact ⟨[], [], .nil hrely m, .unasked rfl⟩
  · rw [Coro.wp_bind]
    apply Coro.wp_mono (allowRequest_silent hrely)
    rintro trace m₁ out ⟨hallowed, hregistry, hassert⟩
    rcases out with error | admitted
    · rw [hassert error rfl]
      exact ⟨[], [], hallowed, .unasked rfl⟩
    · cases admitted with
      | false => exact ⟨[], [], hallowed.stop, .unasked rfl⟩
      | true =>
          simp only [if_true, Coro.wp_bind, Coro.wp_rescue]
          apply Coro.wp_mono (execute_posts hrely)
          rintro rest m₂ result ⟨posted, closed, hexchanged, hdispatched⟩
          rw [hregistry] at hdispatched
          cases result with
          | ok text =>
              apply Coro.wp_mono (setCircuit_silent hrely)
              rintro last m₃ _ ⟨hlast, -, rfl⟩
              exact ⟨posted, closed,
                hallowed.append hrely (hexchanged.silent hrely hlast.stop), hdispatched⟩
          | error error =>
              apply Coro.wp_mono (reportFailure_silent hrely)
              rintro last m₃ _ ⟨hlast, rfl⟩
              exact ⟨posted, closed,
                hallowed.append hrely (hexchanged.silent hrely hlast), hdispatched⟩

end Programs

section Refusals

variable {registry : Registry μ} {providerId : String} {posted : List Posting}
  {closed : List Closing} {out : Except UpstreamError String} {posting : Posting}

theorem Completed.caller {config : ProviderConfig μ} {outcome : Except UpstreamError String}
    (h : Completed config request posted outcome) (hposting : posting ∈ posted) :
    posting.caller.tier? = none ∧ posting.backend = config.backend := by
  cases h with
  | keyless => cases hposting
  | posted =>
      rw [List.mem_singleton.mp hposting]
      exact ⟨rfl, rfl⟩

theorem Dispatched.caller (h : Dispatched registry providerId request posted closed out)
    (hposting : posting ∈ posted) :
    posting.caller.tier? = none ∧ ∃ config,
      registry.getProvider? providerId = some config ∧ posting.backend = config.backend := by
  cases h with
  | unasked => cases hposting
  | asked registered completed =>
      obtain ⟨hcaller, hbackend⟩ := completed.caller hposting
      exact ⟨hcaller, _, registered, hbackend⟩

/-- Nothing is posted after a refusal, as nothing is posted twice. -/
theorem Dispatched.refused_last (h : Dispatched registry providerId request posted closed out) :
    posted.Pairwise fun earlier _ => earlier.refused = false := by
  cases h with
  | unasked => exact .nil
  | asked registered completed =>
      cases completed with
      | keyless => exact .nil
      | posted => exact List.pairwise_singleton _ _

/-- After a refusal the engine is told so, unless closing the client has failed. -/
theorem Dispatched.blocks (h : Dispatched registry providerId request posted closed out)
    (hclosed : ∀ closing ∈ closed, closing.losesRefusal = false)
    (hposting : posting ∈ posted) (hrefused : posting.refused = true) :
    ∃ error : PyException, out = .error (.ofException error) ∧ error.blocksBackend = true := by
  obtain ⟨code, text, hchecked, hcode⟩ := checked_of_refused hrefused
  cases h with
  | unasked => cases hposting
  | asked registered completed closing =>
      cases completed with
      | keyless => cases hposting
      | posted keyed reply =>
          rw [List.mem_singleton.mp hposting] at hchecked
          have hreceived : received reply = .error (.http (.status code text)) := by
            rw [received, show checked reply = _ from hchecked]
            rfl
          have hkept := hclosed _ List.mem_cons_self
          rw [hreceived] at hkept ⊢
          cases closing with
          | error failure =>
              have hlost : isAuthStatus code = false := hkept
              rw [hcode] at hlost
              cases hlost
          | ok _ => exact ⟨providerUnavailable (.http (.status code text)), rfl, hcode⟩

end Refusals

end ProviderDispatcher

end LLMRouting
