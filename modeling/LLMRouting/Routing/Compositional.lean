/-
# What holds of every step of a tenant's call

A property of routines may hold of the elementary steps of a call whatever records are passed
along, so that it is a matter of the tenant alone. If sequencing keeps it, it holds of every call
of the tenant.
-/

import LLMRouting.Routing.Tracking

namespace LLMRouting

open LLMRouting.Interaction

variable {μ : Type}

/-- Two memories that agree on all a call of one tenant looks at. -/
structure Aligned (tenantId : String) (m m' : Memory μ) : Prop where
  own : m'.own = m.own
  registry : m'.shared.registry = m.shared.registry
  policies : m'.shared.policies = m.shared.policies
  governance : m'.shared.governance = m.shared.governance
  load : ∀ conversationId, m'.shared.conversations.load conversationId tenantId =
    m.shared.conversations.load conversationId tenantId

/-- A property of the routines of one tenant that is a matter of their steps. -/
structure Compositional (tenantId : String) (T : (α : Type) → Routine μ α → Prop) : Prop where
  pure : ∀ {α : Type} (value : α), T α (pure value)
  raise : ∀ {α : Type} (raised : Raised), T α (Coro.raise raised)
  bind : ∀ {α β : Type} {routine : Routine μ α} {next : α → Routine μ β},
    T α routine → (∀ value, T β (next value)) → T β (routine >>= next)
  attempt : ∀ {α : Type} {routine : Routine μ α}, T α routine →
    T (Except Raised α) routine.attempt
  ask : ∀ query : EngineQuery, T _ (Coro.ask (I := engineInterface) query)
  note : ∀ update, T Unit (Routine.note update)
  look : ∀ {α : Type} {next : Memory μ → Routine μ α}, (∀ m, T α (next m)) →
    (∀ m m', Aligned tenantId m m' → next m' = next m) → T α (Routine.memory >>= next)
  audit : ∀ reference, T Unit (Coro.modify fun m =>
    { m with shared := { m.shared with audit := m.shared.audit.append reference } })
  create : ∀ (engine : RoutingEngine) (call : HandleCall), call.tenantId = tenantId →
    T ConversationState (Routine.loadOrCreate engine call)
  writeBack : ∀ state, T Unit (Routine.writeBack state tenantId)

namespace Compositional

variable {call : HandleCall} {T : (α : Type) → Routine μ α → Prop}
  (w : Compositional call.tenantId T)

include w

/-- Such a property does not depend on whose records are passed along. -/
theorem tracking : Tracking call (fun _ => True) fun α _ routine => T α routine where
  changed _ _ := trivial
  loaded _ := trivial
  pure _ := w.pure _
  raise := w.raise
  bind h hnext := w.bind h fun value => hnext value fun _ _ => trivial
  attempt h := w.attempt h
  ask := w.ask
  note := w.note
  look hnext hsame := w.look hnext fun m m' h =>
    hsame m m' ⟨h.own, h.registry, h.policies, h.governance, h.load _⟩
  audit := w.audit
  create engine := w.create engine call rfl
  writeBack state _ := w.writeBack state

/-- A property of the steps is a property of the call. -/
theorem handle [Metric μ] {engine : RoutingEngine} :
    T RoutingResponse (Routine.handle engine call) :=
  w.tracking.handle

end Compositional

end LLMRouting
