import Countersign.Node.Plugin

/-!
# Bring-up of a node

The keys are loaded, all plugins are constructed, and only then are they started, in the order of
the configuration.  The first error ends the bring-up, and so does running out of time: waiting
until exactly the limit is in time.
-/

namespace Countersign

variable {α : Type}

def Keystore.ofConfig (config : Config) : Keystore :=
  .new config.keystoreName config.selection config.selfKid

def Plugin.start (plugin : Plugin α) (limit elapsed : Nat) (n : Node α) :
    Result (Nat × Node α) :=
  match plugin.delay with
  | none => .error (.timeout limit)
  | some delay =>
      if limit < elapsed + delay then .error (.timeout limit)
      else do
        let (n, ready) ← plugin.init (n.registerPlugin plugin.name)
        if ready then return (elapsed + delay, n) else throw (.pluginInit plugin.name)

namespace Node

def construct (registry : Registry α) (engine : Engine) (name : String) : Result (Plugin α) :=
  match registry.get? name with
  | some factory => factory ⟨some name, some engine, some .alive⟩
  | none => .error (.construction (.noFactory name))

/-- How far plugins were started: those whose start was begun, in order, and the outcome. -/
structure Attempt (α : Type) where
  begun : List (Plugin α)
  result : Result (Node α)

def startAll (limit : Nat) : (elapsed : Nat) → List (Plugin α) → Node α → Attempt α
  | _, [], n => ⟨[], .ok n⟩
  | elapsed, plugin :: rest, n =>
      match plugin.start limit elapsed n with
      | .error e => ⟨[plugin], .error e⟩
      | .ok (elapsed, n) =>
          let others := startAll limit elapsed rest n
          { others with begun := plugin :: others.begun }

variable [Api α]

def prepare (config : Config) (registry : Registry α) : Result (Node α × List (Plugin α)) := do
  let names ← config.plugins
  let engine ← Engine.ofConfig config
  let node ← Node.new engine
  let plugins ← names.mapM (construct registry engine)
  return (node, plugins)

def attempt (config : Config) (registry : Registry α) : Attempt α :=
  match prepare config registry with
  | .error e => ⟨[], .error e⟩
  | .ok (node, plugins) => startAll config.initTimeout 0 plugins node

/-- The stores and the keystore are changed by the loading of the keys, whatever comes after. -/
def bringUp (config : Config) (registry : Registry α) (keystore : Keystore) (stores : Stores) :
    Stores × Keystore × Result (Node α) :=
  match config.check Config.requiredKeys with
  | .error e => (stores, keystore, .error e)
  | .ok () =>
      match keystore.load stores with
      | (stores, .error e) => (stores, keystore, .error e)
      | (stores, .ok keystore) => (stores, keystore, (attempt config registry).result)

end Node

end Countersign
