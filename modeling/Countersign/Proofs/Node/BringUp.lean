import Countersign.Node.BringUp
import Countersign.Proofs.Node.Apis

/-!
# The order of a bring-up

All plugins are constructed before the first one is started, and they are started in the order in
which they are listed.  Whatever fails first ends the bring-up.  If nothing does, the node offers
the default flows and what the plugins registered, where later registrations replace earlier ones.
-/

namespace Countersign

variable {α : Type}

/-! ## Plugins that register operations -/

def Node.Grows (n m : Node α) : Prop := ∃ added, m = n.registerAll added

theorem Node.Grows.trans {n m k : Node α} (first : n.Grows m) (later : m.Grows k) : n.Grows k := by
  obtain ⟨added, rfl⟩ := first
  obtain ⟨more, rfl⟩ := later
  exact ⟨added ++ more, (n.registerAll_append added more).symm⟩

theorem Node.registerApi_grows (n : Node α) (name : String) (api : α) :
    n.Grows (n.registerApi name api) :=
  ⟨[(name, api)], rfl⟩

theorem PluginBase.registerFlow_grows [Api α] {base : PluginBase} {api : String} {flow : Flow}
    {n m : Node α} (registered : base.registerFlow api flow n = .ok m) : n.Grows m := by
  obtain ⟨c, -, registered⟩ := bind_eq_ok.1 registered
  cases host : base.host with
  | alive =>
      rw [host] at registered
      cases registered
      exact n.registerApi_grows api (Api.ofFlow c)
  | gone =>
      rw [host] at registered
      cases registered

/-- All that the start of the plugin does to a node is to register operations. -/
def Plugin.Registers (p : Plugin α) : Prop :=
  ∀ n m ready, p.init n = .ok (m, ready) → n.Grows m

theorem Plugin.fleet_registers [Api α] {builder : PluginBuilder} {p : Plugin α}
    (built : Plugin.fleet builder = .ok p) : p.Registers := by
  obtain ⟨base, -, rest⟩ := bind_eq_ok.1 built
  cases rest
  intro n m ready started
  obtain ⟨first, toDevice, started⟩ := bind_eq_ok.1 started
  obtain ⟨second, fromDevice, started⟩ := bind_eq_ok.1 started
  cases started
  exact (base.registerFlow_grows toDevice).trans (base.registerFlow_grows fromDevice)

/-! ## Construction -/

namespace Registry

variable {registry : Registry α} {engine : Engine} {name : String}

def Builds (registry : Registry α) (engine : Engine) (name : String) (p : Plugin α) : Prop :=
  ∃ factory, registry.get? name = some factory ∧
    factory ⟨some name, some engine, some .alive⟩ = .ok p

inductive Refuses (registry : Registry α) (engine : Engine) (name : String) : Error → Prop where
  | unknown : registry.get? name = none →
      registry.Refuses engine name (.construction (.noFactory name))
  | failed {factory : Factory α} {error : Error} : registry.get? name = some factory →
      factory ⟨some name, some engine, some .alive⟩ = .error error →
        registry.Refuses engine name error

end Registry

namespace Node

variable {registry : Registry α} {engine : Engine}

theorem construct_eq_ok {name : String} {p : Plugin α} :
    construct registry engine name = .ok p ↔ registry.Builds engine name p := by
  unfold construct Registry.Builds
  cases registry.get? name <;> simp

theorem construct_eq_error {name : String} {error : Error} :
    construct registry engine name = .error error ↔ registry.Refuses engine name error := by
  unfold construct
  constructor
  · intro failed
    split at failed
    · rename_i factory found
      exact .failed found failed
    · rename_i missing
      cases failed
      exact .unknown missing
  · rintro (missing | ⟨found, failed⟩)
    · simp [missing]
    · simpa [found] using failed

end Node

/-! ## Starts -/

inductive Plugin.Stops (p : Plugin α) (n : Node α) : Error → Prop where
  | refused {m : Node α} : p.init (n.registerPlugin p.name) = .ok (m, false) →
      p.Stops n (.pluginInit p.name)
  | failed {error : Error} : p.init (n.registerPlugin p.name) = .error error → p.Stops n error

/-- Starting the plugins on the first node, one after another, makes all of them ready, registers
these operations in this order, and comes to the second node. -/
inductive Node.Starts : Node α → List (Plugin α) → List (String × α) → Node α → Prop where
  | nil {n : Node α} : Starts n [] [] n
  | cons {n m last : Node α} {p : Plugin α} {rest : List (Plugin α)}
      {own added : List (String × α)} :
      p.init (n.registerPlugin p.name) = .ok (m, true) →
      m = (n.registerPlugin p.name).registerAll own → Starts m rest added last →
        Starts n (p :: rest) (own ++ added) last

/-- None of the plugins runs out of time, if the first one is started after so many milliseconds. -/
inductive InTime (limit : Nat) : (elapsed : Nat) → List (Plugin α) → Prop where
  | nil {elapsed : Nat} : InTime limit elapsed []
  | cons {elapsed delay : Nat} {p : Plugin α} {rest : List (Plugin α)} : p.delay = some delay →
      elapsed + delay ≤ limit → InTime limit (elapsed + delay) rest →
        InTime limit elapsed (p :: rest)

namespace Node

variable {n m : Node α} {p : Plugin α} {plugins before rest : List (Plugin α)}
  {added : List (String × α)} {limit elapsed delay : Nat} {error : Error}

theorem startAll_ready (delayed : p.delay = some delay) (fits : elapsed + delay ≤ limit)
    (ready : p.init (n.registerPlugin p.name) = .ok (m, true)) (rest : List (Plugin α)) :
    startAll limit elapsed (p :: rest) n =
      ⟨p :: (startAll limit (elapsed + delay) rest m).begun,
        (startAll limit (elapsed + delay) rest m).result⟩ := by
  have started : p.start limit elapsed n = .ok (elapsed + delay, m) := by
    simp only [Plugin.start, delayed, if_neg (Nat.not_lt.2 fits), ready, ok_bind, if_true,
      pure_eq_ok]
  rw [startAll, started]

theorem startAll_stops (delayed : p.delay = some delay) (fits : elapsed + delay ≤ limit)
    (stops : p.Stops n error) (rest : List (Plugin α)) :
    startAll limit elapsed (p :: rest) n = ⟨[p], .error error⟩ := by
  have failed : p.start limit elapsed n = .error error := by
    rcases stops with refused | failed
    · simp only [Plugin.start, delayed, if_neg (Nat.not_lt.2 fits), refused, ok_bind,
        Bool.false_eq_true, if_false, throw_eq_error]
    · simp only [Plugin.start, delayed, if_neg (Nat.not_lt.2 fits), failed, error_bind]
  rw [startAll, failed]

theorem startAll_begun (limit elapsed : Nat) (p : Plugin α) (rest : List (Plugin α)) (n : Node α) :
    ∃ others, (startAll limit elapsed (p :: rest) n).begun = p :: others := by
  rw [startAll]
  split
  · exact ⟨[], rfl⟩
  · exact ⟨_, rfl⟩

theorem startAll_delay
    (inTime : InTime limit elapsed (startAll limit elapsed (p :: rest) n).begun) :
    ∃ delay, p.delay = some delay ∧ elapsed + delay ≤ limit := by
  obtain ⟨others, begun⟩ := startAll_begun limit elapsed p rest n
  rw [begun] at inTime
  cases inTime with
  | cons delayed fits _ => exact ⟨_, delayed, fits⟩

-- The plugins that become ready use up time, so the others are started at a later moment.
theorem startAll_of_starts (starts : Starts n before added m)
    (inTime : InTime limit elapsed (startAll limit elapsed (before ++ rest) n).begun) :
    ∃ later, InTime limit later (startAll limit later rest m).begun ∧
      startAll limit elapsed (before ++ rest) n =
        ⟨before ++ (startAll limit later rest m).begun, (startAll limit later rest m).result⟩ := by
  induction starts generalizing elapsed with
  | nil => exact ⟨elapsed, inTime, rfl⟩
  | @cons n m last p others own added ready _ _ ih =>
      obtain ⟨delay, delayed, fits⟩ := startAll_delay inTime
      have first := startAll_ready delayed fits ready (others ++ rest)
      rw [List.cons_append, first] at inTime
      cases inTime with
      | cons same _ inTime =>
          cases delayed.symm.trans same
          obtain ⟨later, inTime, eq⟩ := ih inTime
          refine ⟨later, inTime, ?_⟩
          rw [List.cons_append, first, eq]
          rfl

theorem starts_or_stops (registers : ∀ p ∈ plugins, p.Registers) (n : Node α) :
    (∃ added m, Starts n plugins added m) ∨
      ∃ before p after added m error, plugins = before ++ p :: after ∧
        Starts n before added m ∧ p.Stops m error := by
  induction plugins generalizing n with
  | nil => exact .inl ⟨[], n, .nil⟩
  | cons p plugins ih =>
      obtain ⟨first, others⟩ := List.forall_mem_cons.1 registers
      cases init : p.init (n.registerPlugin p.name) with
      | error error => exact .inr ⟨[], p, plugins, [], n, error, rfl, .nil, .failed init⟩
      | ok done =>
          obtain ⟨m, ready⟩ := done
          cases ready with
          | false => exact .inr ⟨[], p, plugins, [], n, _, rfl, .nil, .refused init⟩
          | true =>
              -- What it registered is on the node that the others are started on.
              obtain ⟨own, grown⟩ := first _ _ _ init
              rcases ih others m with ⟨added, last, starts⟩ |
                ⟨before, q, after, added, last, error, split, starts, stops⟩
              · exact .inl ⟨own ++ added, last, .cons init grown starts⟩
              · exact .inr ⟨p :: before, q, after, own ++ added, last, error, by rw [split]; rfl,
                  .cons init grown starts, stops⟩

/-! ## What a node offers once its plugins are started -/

theorem Starts.offers (starts : Starts n plugins added m) {registered : List (String × α)}
    (offers : n.Offers registered) : m.Offers (registered ++ added) := by
  induction starts generalizing registered with
  | nil => rwa [List.append_nil]
  | @cons n m last p rest own added _ grown _ ih =>
      rw [← List.append_assoc]
      refine ih ?_
      rw [grown]
      exact Offers.registerAll (n := n.registerPlugin p.name) offers own

theorem Starts.mem_pluginNames (starts : Starts n plugins added m) {name : String} :
    name ∈ m.pluginNames ↔ name ∈ n.pluginNames ∨ ∃ p ∈ plugins, p.name = name := by
  induction starts with
  | nil => simp
  | @cons n m last p rest own added _ grown _ ih =>
      have registered : name ∈ m.pluginNames ↔ name ∈ n.pluginNames ∨ p.name = name := by
        unfold pluginNames
        rw [grown, registerAll_plugins, registerPlugin, Table.mem_keys, Table.mem_keys]
        simp only [Table.get?_insert]
        by_cases same : name = p.name <;> simp [same, eq_comm]
      simp [ih, registered, or_assoc]

/-- The node serves these registrations, and plugins of these names are there. -/
structure Serves [Api α] (m : Node α) (registered : List (String × α)) (plugins : List (Plugin α)) :
    Prop where
  last : ∀ name api, m.apis.get? name = some api ↔ name ≠ "" ∧
    ∃ before after, registered = before ++ (name, api) :: after ∧
      ∀ entry ∈ after, entry.1 ≠ name
  ascending : m.apiNames.Pairwise (· < ·)
  names : ∀ name, name ∈ m.apiNames ↔ name ≠ "" ∧ ∃ api, (name, api) ∈ registered
  calls : ∀ name api, m.apis.get? name = some api → ∀ around e,
    m.call name around e = Api.run api around e
  unknown : ∀ name, name ∉ m.apiNames → ∀ around e,
    m.call name around e = .error (.unknownApi name)
  plugged : ∀ name, name ∈ m.pluginNames ↔ ∃ p ∈ plugins, p.name = name

theorem Starts.serves [Api α] (starts : Starts n plugins added m) {registered : List (String × α)}
    (offers : n.Offers registered) (unplugged : n.plugins = ∅) :
    m.Serves (registered ++ added) plugins where
  last _ _ := (starts.offers offers).get?_eq_some
  ascending := m.apiNames_ascending
  names _ := (starts.offers offers).mem_apiNames
  calls _ _ found := call_eq found
  unknown _ absent := call_unknown absent
  plugged name := by
    have none : name ∉ n.pluginNames := by
      rw [pluginNames, unplugged]
      exact List.not_mem_nil
    rw [starts.mem_pluginNames, or_iff_right none]

/-! ## The course of a bring-up -/

/-- How a bring-up goes with these plugins listed: one cannot be built, and none is started; all are
built, and those up to the first one that stops are started; or all are built and become ready. -/
inductive Course (registry : Registry α) (engine : Engine) (base : Node α) (names : List String) :
    Attempt α → Prop where
  | unbuilt {before after : List String} {name : String} {error : Error} :
      names = before ++ name :: after →
      (∀ earlier ∈ before, ∃ p, registry.Builds engine earlier p) →
      registry.Refuses engine name error → Course registry engine base names ⟨[], .error error⟩
  | stopped {before after : List (Plugin α)} {p : Plugin α} {m : Node α}
      {added : List (String × α)} {error : Error} :
      List.Forall₂ (registry.Builds engine) names (before ++ p :: after) →
      Starts base before added m → p.Stops m error →
        Course registry engine base names ⟨before ++ [p], .error error⟩
  | ready {plugins : List (Plugin α)} {m : Node α} {added : List (String × α)} :
      List.Forall₂ (registry.Builds engine) names plugins → Starts base plugins added m →
        Course registry engine base names ⟨plugins, .ok m⟩

variable {registry : Registry α} {engine : Engine} {base : Node α} {names : List String}

theorem Course.ready_of_ok {a : Attempt α} (course : Course registry engine base names a)
    (succeeded : a.result = .ok m) : ∃ plugins added,
      List.Forall₂ (registry.Builds engine) names plugins ∧ Starts base plugins added m := by
  cases course with
  | unbuilt => cases succeeded
  | stopped => cases succeeded
  | ready built starts =>
      cases succeeded
      exact ⟨_, _, built, starts⟩

theorem course_exists (registers : ∀ name p, registry.Builds engine name p → p.Registers)
    (base : Node α) (names : List String) : ∃ a, Course registry engine base names a := by
  cases constructed : names.mapM (construct registry engine) with
  | error error =>
      obtain ⟨before, name, after, split, earlier, failed⟩ := mapM_eq_error.1 constructed
      exact ⟨_, .unbuilt split
        (fun other member => (earlier other member).imp fun _ => construct_eq_ok.1)
        (construct_eq_error.1 failed)⟩
  | ok plugins =>
      have built : List.Forall₂ (registry.Builds engine) names plugins :=
        (mapM_eq_ok.1 constructed).imp fun _ _ => construct_eq_ok.1
      have both : List.Forall₂ (fun p name => p.Registers ∧ registry.Builds engine name p)
          plugins names :=
        (built.imp fun name p builds => ⟨registers name p builds, builds⟩).flip
      have registering : ∀ p ∈ plugins, p.Registers := ((List.forall₂_and_left _ _).1 both).1
      rcases starts_or_stops registering base with ⟨added, m, starts⟩ |
        ⟨before, p, after, added, m, error, split, starts, stops⟩
      · exact ⟨_, .ready built starts⟩
      · exact ⟨_, .stopped (split ▸ built) starts stops⟩

variable [Api α] {config : Config}

theorem prepare_eq (listed : config.plugins = .ok names)
    (compiling : Engine.ofConfig config = .ok engine) (made : Node.new engine = .ok base) :
    prepare config registry = (base, ·) <$> names.mapM (construct registry engine) := by
  simp only [prepare, listed, compiling, made, ok_bind, pure_eq_ok]
  cases names.mapM (construct registry engine) <;> rfl

theorem attempt_eq_startAll (listed : config.plugins = .ok names)
    (compiling : Engine.ofConfig config = .ok engine) (made : Node.new engine = .ok base)
    (built : List.Forall₂ (registry.Builds engine) names plugins) :
    attempt config registry = startAll config.initTimeout 0 plugins base := by
  have constructed : names.mapM (construct registry engine) = .ok plugins :=
    mapM_eq_ok.2 (built.imp fun _ _ => construct_eq_ok.2)
  rw [attempt, prepare_eq listed compiling made, constructed]
  rfl

theorem attempt_eq_of_course (listed : config.plugins = .ok names)
    (compiling : Engine.ofConfig config = .ok engine) (made : Node.new engine = .ok base)
    (inTime : InTime config.initTimeout 0 (attempt config registry).begun) {a : Attempt α}
    (course : Course registry engine base names a) : attempt config registry = a := by
  cases course with
  | unbuilt split earlier refuses =>
      have failed : names.mapM (construct registry engine) = .error _ :=
        mapM_eq_error.2 ⟨_, _, _, split,
          fun name member => (earlier name member).imp fun _ => construct_eq_ok.2,
          construct_eq_error.2 refuses⟩
      rw [attempt, prepare_eq listed compiling made, failed]
      rfl
  | stopped built starts stops =>
      have eq := attempt_eq_startAll listed compiling made built
      rw [eq] at inTime
      obtain ⟨later, inTime, split⟩ := startAll_of_starts starts inTime
      obtain ⟨delay, delayed, fits⟩ := startAll_delay inTime
      rw [eq, split, startAll_stops delayed fits stops]
  | @ready plugins m added built starts =>
      have eq := attempt_eq_startAll listed compiling made built
      rw [← List.append_nil plugins] at eq
      rw [eq] at inTime
      obtain ⟨later, -, split⟩ := startAll_of_starts starts inTime
      rw [eq, split]
      simp only [startAll, List.append_nil]

theorem bringUp_eq {fleetId : String} {keystore loaded : Keystore} {stores saved : Stores}
    (fleet : config.text? "fleetId" = some fleetId)
    (loads : keystore.load stores = (saved, .ok loaded)) :
    bringUp config registry keystore stores =
      (saved, loaded, (attempt config registry).result) := by
  have contained : config.values.contains "fleetId" = true := by
    obtain ⟨value, found, -⟩ := Option.bind_eq_some_iff.1 fleet
    rw [Table.contains, found]
    rfl
  have checked : config.check Config.requiredKeys = .ok () := by
    simp [Config.check, Config.requiredKeys, contained]
  rw [bringUp, checked, loads]

/-- With a fleet, a well-formed list of plugins and keys that can be loaded, and if no plugin runs
out of time, a bring-up takes its course in the order of the list and in no other way.  It comes to
a node exactly if all plugins are built and become ready.  Under each name that is not empty the
node offers the last registration, of the default flows and then of the plugins in their order. -/
theorem bringUp_inOrder {fleetId : String} {keystore loaded : Keystore} {stores saved : Stores}
    (fleet : config.text? "fleetId" = some fleetId) (listed : config.plugins = .ok names)
    (loads : keystore.load stores = (saved, .ok loaded))
    (registers : ∀ name p, registry.Builds ⟨fleetId, config.selection⟩ name p → p.Registers)
    (inTime : InTime config.initTimeout 0 (attempt config registry).begun) :
    ∃ (base : Node α) (defaults : List (String × α)),
      Node.new ⟨fleetId, config.selection⟩ = .ok base ∧
      Engine.Defaults ⟨fleetId, config.selection⟩ defaults ∧
      bringUp config registry keystore stores =
        (saved, loaded, (attempt config registry).result) ∧
      (∀ a, Course registry ⟨fleetId, config.selection⟩ base names a ↔
        a = attempt config registry) ∧
      (∀ m, (attempt config registry).result = .ok m ↔ ∃ plugins added,
        List.Forall₂ (registry.Builds ⟨fleetId, config.selection⟩) names plugins ∧
          Starts base plugins added m) ∧
      ∀ plugins added m, Starts base plugins added m → m.Serves (defaults ++ added) plugins := by
  have compiling : Engine.ofConfig config = .ok ⟨fleetId, config.selection⟩ := by
    simp only [Engine.ofConfig, Config.fleetId, fleet, ok_bind, pure_eq_ok]
  obtain ⟨base, defaults, made, compiled, offers, unplugged⟩ :=
    new_succeeds (α := α) ⟨fleetId, config.selection⟩
  -- Every course is what happens, and there is one: so it is the only one.
  have exactly : ∀ a, Course registry ⟨fleetId, config.selection⟩ base names a ↔
      a = attempt config registry := by
    intro a
    constructor
    · intro course
      exact (attempt_eq_of_course listed compiling made inTime course).symm
    · rintro rfl
      obtain ⟨a, course⟩ := course_exists registers base names
      rwa [attempt_eq_of_course listed compiling made inTime course]
  refine ⟨base, defaults, made, compiled, bringUp_eq fleet loads, exactly, fun m => ?_,
    fun _ _ _ starts => starts.serves offers unplugged⟩
  constructor
  · exact ((exactly _).2 rfl).ready_of_ok
  · rintro ⟨plugins, added, built, starts⟩
    rw [← (exactly _).1 (.ready built starts)]

/-- Builds a plugin of another name, which puts cosigning in the place of signing. -/
def replacing : Factory := fun builder => do
  let base ← builder.build
  return {
    name := "Replacing"
    delay := some 1
    init := fun n => do
      let n ← base.registerFlow "sign" .cosigning n
      return (n, true) }

def replacingConfig : Config :=
  ⟨Table.ofList [("fleetId", .string "fleet"),
    ("plugins", .array [.string "replacing", .string "fleet"])]⟩

def replacingRegistry : Registry := Registry.defaults.insert "replacing" replacing

theorem bringUp_replacing_inOrder :
    ∃ (m : Node) (defaults added : List (String × CompiledFlow)) (plugins : List Plugin),
      (bringUp replacingConfig replacingRegistry (.ofConfig replacingConfig) ∅).2.2 = .ok m ∧
      m.apiNames = ["cosign", "fleetFromDevice", "fleetToDevice", "fromFleet", "sign", "verify"] ∧
      Engine.Defaults ⟨"fleet", .mostRecent⟩ defaults ∧ m.Serves (defaults ++ added) plugins := by
  have loads : (Keystore.ofConfig replacingConfig).load ∅ =
      (Table.ofList [("keystore", Table.ofList [("keys", .array [])])],
        .ok (.ofConfig replacingConfig)) := rfl
  have registers : ∀ name p, replacingRegistry.Builds ⟨"fleet", .mostRecent⟩ name p →
      p.Registers := by
    rintro name p ⟨factory, found, built⟩
    rw [replacingRegistry, Table.get?_insert] at found
    split at found
    · cases found
      obtain ⟨base, -, built⟩ := bind_eq_ok.1 built
      cases built
      intro n m ready started
      obtain ⟨m, registered, started⟩ := bind_eq_ok.1 started
      cases started
      exact base.registerFlow_grows registered
    · have only : name = "fleet" ∧ factory = Plugin.fleet := by
        change (Table.empty.insert "fleet" Plugin.fleet).get? name = some factory at found
        rw [Table.get?_insert] at found
        split at found
        · rename_i same
          exact ⟨same, (Option.some.inj found).symm⟩
        · cases found
      exact Plugin.fleet_registers (only.2 ▸ built)
  have inTime : InTime replacingConfig.initTimeout 0
      (attempt replacingConfig replacingRegistry).begun :=
    .cons rfl (by decide) (.cons rfl (by decide) .nil)
  have fleet : replacingConfig.text? "fleetId" = some "fleet" := rfl
  have listed : replacingConfig.plugins = .ok ["replacing", "fleet"] := rfl
  obtain ⟨base, defaults, -, compiled, brought, -, ready, serves⟩ :=
    bringUp_inOrder fleet listed loads registers inTime
  obtain ⟨m, succeeded, offered⟩ : ∃ m,
      (attempt replacingConfig replacingRegistry).result = .ok m ∧ m.apiNames =
        ["cosign", "fleetFromDevice", "fleetToDevice", "fromFleet", "sign", "verify"] :=
    ⟨_, rfl, rfl⟩
  obtain ⟨plugins, added, -, starts⟩ := (ready m).1 succeeded
  refine ⟨m, defaults, added, plugins, ?_, offered, compiled, serves plugins added m starts⟩
  rw [brought]
  exact succeeded

end Node

end Countersign
