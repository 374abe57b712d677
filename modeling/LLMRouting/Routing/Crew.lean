/-
# Everything that shares one engine

The calls of both interfaces run on one engine and one world, and the control plane is
written to in between. A call is told apart from the others by its request id.
-/

import LLMRouting.ControlPlane.Tenants
import LLMRouting.Interaction.Interleaving
import LLMRouting.Routing.Engine

namespace LLMRouting

open LLMRouting.Interaction

variable {μ : Type}

/-- All calls of one engine. Each starts with a capture that knows of nothing. -/
def engineCrew (μ : Type) [Metric μ] (engine : RoutingEngine) :
    Crew engineInterface (World μ) (Capture μ) Raised RoutingResponse HandleCall where
  program call := Routine.handle engine call
  initial _ := { requestId := "" }

abbrev EngineSeat (μ : Type) : Type :=
  Seat engineInterface (World μ) (Capture μ) Raised RoutingResponse HandleCall

abbrev EnginePool (μ : Type) : Type :=
  Pool engineInterface (World μ) (Capture μ) Raised RoutingResponse HandleCall

abbrev EngineMove (μ : Type) : Type := Move engineInterface (World μ) HandleCall

/-- The question a call awaits the answer to. -/
def awaited? (seat : EngineSeat μ) : Option EngineQuery :=
  match seat.standing with
  | .parked query _ => some query
  | .ended _ => none

/-- An operation of the control plane, in the world the engine works in. -/
def World.perform [Metric μ] (operation : ControlOperation μ) (world : World μ) : World μ :=
  let plane := (ControlPlane.perform world.registry
    ⟨world.policies, world.governance, world.audit⟩ operation).2
  { world with policies := plane.policies, governance := plane.governance, audit := plane.audit }

end LLMRouting
