/-
# Proof rules for the engine's code

A request does three kinds of things besides asking: it keeps notes in its own capture, it
writes its conversation's record back, and it raises. A discipline says, for one kind of
surroundings, what a request can count on between these steps; each part of the engine then
has one rule, whatever the discipline.
-/

import LLMRouting.Interaction.RelyGuarantee
import LLMRouting.Routing.Trace
import LLMRouting.State.Turn

namespace LLMRouting

open LLMRouting.Interaction

variable {μ α β : Type}

/-- Two memories that differ in a request's notes and in the audit log only. -/
structure Quiet (m m' : Memory μ) : Prop where
  registry : m'.shared.registry = m.shared.registry
  conversations : m'.shared.conversations = m.shared.conversations
  policies : m'.shared.policies = m.shared.policies
  governance : m'.shared.governance = m.shared.governance
  state : m'.own.state = m.own.state
  tenant : m'.own.tenant = m.own.tenant

theorem Quiet.refl (m : Memory μ) : Quiet m m := ⟨rfl, rfl, rfl, rfl, rfl, rfl⟩

theorem Quiet.symm {m m' : Memory μ} (h : Quiet m m') : Quiet m' m :=
  ⟨h.registry.symm, h.conversations.symm, h.policies.symm, h.governance.symm, h.state.symm,
    h.tenant.symm⟩

theorem Quiet.trans {first second third : Memory μ} (h : Quiet first second)
    (h' : Quiet second third) : Quiet first third where
  registry := h'.registry.trans h.registry
  conversations := h'.conversations.trans h.conversations
  policies := h'.policies.trans h.policies
  governance := h'.governance.trans h.governance
  state := h'.state.trans h.state
  tenant := h'.tenant.trans h.tenant

/-- A note that leaves the conversation's record and the tenant alone. -/
def Unobserved (update : Capture μ → Capture μ) : Prop :=
  ∀ capture, (update capture).state = capture.state ∧ (update capture).tenant = capture.tenant

theorem quiet_note {update : Capture μ → Capture μ} (h : Unobserved update) (m : Memory μ) :
    Quiet m { m with own := update m.own } :=
  ⟨rfl, rfl, rfl, rfl, (h m.own).1, (h m.own).2⟩

/-- What a request can count on under a contract. `held state` says that it works on the
record `state` and has not changed it since it last wrote it back, `loaded state` that it
may have changed it since it was read, and `lost` what is known after a record could not be
written back. -/
structure Discipline (c : Contract (Memory μ)) (tenantId : String) where
  held : ConversationState → Memory μ → Prop
  loaded : ConversationState → Memory μ → Prop
  lost : Memory μ → Prop
  loaded_of_held : ∀ {state m}, held state m → loaded state m
  state_eq : ∀ {state m}, held state m → m.own.state = some state
  pause : ∀ {state m}, held state m → c.pause m
  rely : ∀ {state m m'}, held state m → c.rely m m' → held state m'
  quiet : ∀ {state m m'}, held state m → Quiet m m' → c.guar m m' ∧ held state m'
  store : ∀ {state state' m}, loaded state m → state.Extends state' →
    (Routine.storeState state' tenantId).wp c (fun trace m' out =>
      trace = [] ∧ m'.shared.registry = m.shared.registry ∧
        m'.own.selectedProvider = m.own.selectedProvider ∧
        match out with
        | .ok _ => held state' m'
        | .error _ => lost m') m

namespace Discipline

open Routine

variable {c : Contract (Memory μ)} {tenantId : String} (d : Discipline c tenantId)
  {state : ConversationState} {m : Memory μ}
  {post : List (EngineEvent μ) → Memory μ → Except Raised β → Prop}

/-- A quiet write, and then the rest. -/
theorem modify_bind {update : Memory μ → Memory μ} {next : Unit → Routine μ β}
    (hm : d.held state m) (hquiet : Quiet m (update m))
    (h : d.held state (update m) → (next ()).wp c post (update m)) :
    (Coro.modify update >>= next).wp c post m := by
  obtain ⟨hguar, hheld⟩ := d.quiet hm hquiet
  rw [Coro.wp_bind]
  exact ⟨hguar, h hheld⟩

/-- A note, and then the rest, which may depend on what was noted. -/
theorem note_bind_own {update : Capture μ → Capture μ} {next : Unit → Routine μ β}
    (hm : d.held state m) (hupdate : Unobserved update)
    (h : ∀ m', m'.own = update m.own → Quiet m m' → d.held state m' → (next ()).wp c post m') :
    (note update >>= next).wp c post m :=
  d.modify_bind hm (quiet_note hupdate m) fun hheld => h _ rfl (quiet_note hupdate m) hheld

/-- A note, and then the rest. -/
theorem note_bind {update : Capture μ → Capture μ} {next : Unit → Routine μ β}
    (hm : d.held state m) (hupdate : Unobserved update)
    (h : ∀ m', Quiet m m' → d.held state m' → (next ()).wp c post m') :
    (note update >>= next).wp c post m :=
  d.note_bind_own hm hupdate fun m' _ => h m'

/-- Reading the memory, and then the rest. -/
theorem memory_bind {next : Memory μ → Routine μ β} (h : (next m).wp c post m) :
    (memory >>= next).wp c post m := by
  rw [Coro.wp_bind]
  exact h

/-- A look at the retry guard, and then the rest. -/
theorem guardFired_bind {next : Bool → Routine μ β}
    (h : (next (retryGuardFired m.shared.registry state)).wp c post m) :
    (guardFired state >>= next).wp c post m := by
  rw [guardFired]
  rw [bind_assoc]
  refine memory_bind ?_
  rwa [pure_bind]

/-- A look at the loop clock, and then the rest. -/
theorem deadlinePassed_bind {next : Bool → Routine μ β}
    (h : ∀ now : ℚ, (next (decide (m.own.deadline ≤ now))).wp c
      (fun rest => post (⟨.loopTime, m, now⟩ :: rest)) m) :
    (deadlinePassed >>= next).wp c post m := by
  rw [Coro.wp_bind]
  refine ⟨fun hsuspends => absurd hsuspends (by simp), fun now m' hm' => ?_⟩
  obtain rfl : m' = m := by simpa [Coro.Resumes] using hm'
  exact h now

/-- A question to a router, and then the rest. -/
theorem askRouter_bind {tier : RouterTier} {request : RouterRequest}
    {next : Except Interruption RawDecision → Routine μ β} (hm : d.held state m)
    (h : ∀ reply m', d.held state m' → (next reply).wp c
      (fun rest => post (⟨.decide tier request, m, reply⟩ :: rest)) m') :
    (askRouter tier request >>= next).wp c post m := by
  rw [Coro.wp_bind]
  refine ⟨fun _ => d.pause hm, fun reply m' hm' => h reply m' (d.rely hm ?_)⟩
  simpa [Coro.Resumes] using hm'

/-- A question to a provider, and then the rest. -/
theorem askProvider_bind {providerId : String} {request : ProviderRequest}
    {next : Except Interruption String → Routine μ β} (hm : d.held state m)
    (h : ∀ reply m', d.held state m' → (next reply).wp c
      (fun rest => post (⟨.dispatch providerId request, m, reply⟩ :: rest)) m') :
    (askProvider providerId request >>= next).wp c post m := by
  rw [Coro.wp_bind]
  refine ⟨fun _ => d.pause hm, fun reply m' hm' => h reply m' (d.rely hm ?_)⟩
  simpa [Coro.Resumes] using hm'

/-- A question to the gateway, and then the rest. -/
theorem askGateway_bind {response : String} {next : Except PyException String → Routine μ β}
    (h : ∀ reply, (next reply).wp c (fun rest => post (⟨.process response, m, reply⟩ :: rest)) m) :
    (askGateway response >>= next).wp c post m := by
  rw [Coro.wp_bind]
  refine ⟨fun hsuspends => absurd hsuspends (by simp), fun reply m' hm' => ?_⟩
  obtain rfl : m' = m := by simpa [Coro.Resumes] using hm'
  exact h reply

/-- Raising one of the engine's errors. -/
theorem fail {kind : RoutingErrorKind} {failure : TerminalFailure}
    {post : List (EngineEvent μ) → Memory μ → Except Raised α → Prop}
    (h : ∀ raised, post [] m (.error raised)) : (Routine.fail kind failure).wp c post m := by
  rw [Routine.fail]
  refine memory_bind ?_
  cases buildDiagnostics m.shared.registry m.own failure with
  | none => exact h _
  | some diagnostics => exact h _

/-- Writing a record back, and then the rest. -/
theorem storeState_bind {state' : ConversationState} {next : Unit → Routine μ β}
    (hm : d.loaded state m) (hextends : state.Extends state')
    (hlost : ∀ m' raised, d.lost m' → post [] m' (.error raised))
    (h : ∀ m', m'.shared.registry = m.shared.registry →
      m'.own.selectedProvider = m.own.selectedProvider → d.held state' m' →
        (next ()).wp c post m') :
    (storeState state' tenantId >>= next).wp c post m := by
  rw [Coro.wp_bind]
  refine Coro.wp_mono (d.store hm hextends) ?_
  rintro trace m' out ⟨rfl, hregistry, hselected, hout⟩
  cases out with
  | ok _ => exact h m' hregistry hselected hout
  | error raised => exact hlost m' raised hout

end Discipline

end LLMRouting
