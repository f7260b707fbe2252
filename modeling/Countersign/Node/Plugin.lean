import Countersign.Node.Basic
import Countersign.Text.Literal

/-!
# Plugins

A plugin adds operations to a node during bring-up.  It is made by a factory, which is found by name
in a registry.
-/

namespace Countersign

/-- Whether the node that a plugin refers to is still there. -/
inductive Host where
  | alive
  | gone
  deriving DecidableEq, Repr

structure PluginBuilder where
  name : Option String
  engine : Option Engine
  host : Option Host

structure PluginBase where
  name : String
  engine : Engine
  host : Host

def PluginBuilder.build (b : PluginBuilder) : Result PluginBase := do
  let some name := b.name
    | throw (.construction .noName)
  if name.isEmpty then
    throw (.construction .emptyName)
  let some engine := b.engine
    | throw (.construction (.noImplementation name))
  let some host := b.host
    | throw (.construction (.noWrapper name))
  return ⟨name, engine, host⟩

def PluginBase.describe (base : PluginBase) : String :=
  "PluginBase \x7b name: " ++ Text.showText base.name ++ ", wrapper_alive: " ++
    (if base.host = .alive then "true" else "false") ++ " \x7d"

variable {α : Type}

def PluginBase.hostApis (base : PluginBase) (n : Node α) : Result (List String) :=
  match base.host with
  | .alive => .ok n.apiNames
  | .gone => .error (.pluginInit base.name)

def PluginBase.registerFlow [Api α] (base : PluginBase) (api : String) (flow : Flow) (n : Node α) :
    Result (Node α) := do
  let compiled ← base.engine.compile flow
  match base.host with
  | .alive => return n.registerApi api (Api.ofFlow compiled)
  | .gone => throw (.pluginInit base.name)

structure Plugin (α : Type := CompiledFlow) where
  name : String
  /-- How long the start takes in milliseconds, if it ever ends. -/
  delay : Option Nat
  init : Node α → Result (Node α × Bool)

abbrev Factory (α : Type := CompiledFlow) := PluginBuilder → Result (Plugin α)

abbrev Registry (α : Type := CompiledFlow) := Table (Factory α)

namespace Plugin

def toDevice : Flow := ⟨"FleetToDeviceFlow", [.sign "fleet-sign" .fleetSigning]⟩

def fromDevice : Flow := { Flow.verifying with name := "FleetFromDeviceFlow" }

def fleet [Api α] (builder : PluginBuilder) : Result (Plugin α) := do
  let base ← builder.build
  return {
    name := base.name
    delay := some 0
    init := fun n => do
      let n ← base.registerFlow "fleetToDevice" toDevice n
      let n ← base.registerFlow "fleetFromDevice" fromDevice n
      return (n, true) }

end Plugin

def Registry.defaults [Api α] : Registry α := Table.ofList [("fleet", Plugin.fleet)]

end Countersign
