import Countersign.Flow.Run
import Countersign.Node.Config

/-!
# Nodes

A node offers operations on envelopes by their names.  It starts with the default flows, and a later
operation replaces the one of the same name.
-/

namespace Countersign

structure Engine where
  fleetId : String
  selection : Selection
  deriving DecidableEq, Repr

namespace Engine

def ofConfig (config : Config) : Result Engine := do
  return ⟨← config.fleetId, config.selection⟩

def compileFor (engine : Engine) (flow : Flow) (fleetId : String) : Result CompiledFlow :=
  flow.compile fleetId engine.selection

def compile (engine : Engine) (flow : Flow) : Result CompiledFlow :=
  engine.compileFor flow engine.fleetId

end Engine

/-- Operations on envelopes, compiled flows among them. -/
class Api (α : Type) where
  ofFlow : CompiledFlow → α
  run : α → Surroundings → Envelope → Result Outcome

@[default_instance]
instance : Api CompiledFlow := ⟨id, CompiledFlow.run⟩

instance : Api (Surroundings → Envelope → Result Outcome) := ⟨CompiledFlow.run, id⟩

structure Node (α : Type := CompiledFlow) where
  engine : Engine
  apis : Table α
  plugins : Table Unit
  /-- The default flows by the names that the flows have themselves. -/
  defaultFlows : Table CompiledFlow

namespace Node

variable {α : Type}

def registerApi (n : Node α) (name : String) (api : α) : Node α :=
  if name.isEmpty then n else { n with apis := n.apis.insert name api }

def apiNames (n : Node α) : List String := n.apis.keys

def registerPlugin (n : Node α) (name : String) : Node α :=
  { n with plugins := n.plugins.insert name () }

def pluginNames (n : Node α) : List String := n.plugins.keys

variable [Api α]

def addDefault (n : Node α) (entry : String × Flow) : Result (Node α) := do
  let compiled ← n.engine.compile entry.2
  return { n.registerApi entry.1 (Api.ofFlow compiled) with
    defaultFlows := n.defaultFlows.insert compiled.flow.name compiled }

def new (engine : Engine) : Result (Node α) :=
  Flow.defaults.foldlM addDefault ⟨engine, ∅, ∅, ∅⟩

def call (n : Node α) (name : String) (around : Surroundings) (e : Envelope) : Result Outcome :=
  match n.apis.get? name with
  | some api => Api.run api around e
  | none => .error (.unknownApi name)

end Node

end Countersign
