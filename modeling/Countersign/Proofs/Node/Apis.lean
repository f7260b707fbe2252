import Countersign.Node.Plugin
import Countersign.Proofs.Flow.Compile
import Countersign.Proofs.Table

/-!
# What a node offers

The operations of a node come from its registrations, in their order: the default flows are the
first of them.  Under every name but the empty one the last registration counts.
-/

namespace Countersign

variable {α : Type}

namespace Node

def registerAll (n : Node α) (added : List (String × α)) : Node α :=
  added.foldl (fun n (name, api) => n.registerApi name api) n

theorem registerAll_append (n : Node α) (first later : List (String × α)) :
    n.registerAll (first ++ later) = (n.registerAll first).registerAll later :=
  List.foldl_append

@[simp] theorem registerApi_plugins (n : Node α) (name : String) (api : α) :
    (n.registerApi name api).plugins = n.plugins := by
  unfold registerApi
  split <;> rfl

@[simp] theorem registerAll_plugins (n : Node α) (added : List (String × α)) :
    (n.registerAll added).plugins = n.plugins := by
  induction added generalizing n with
  | nil => rfl
  | cons entry added ih => exact (ih _).trans (registerApi_plugins n entry.1 entry.2)

@[simp] theorem registerApi_engine (n : Node α) (name : String) (api : α) :
    (n.registerApi name api).engine = n.engine := by
  unfold registerApi
  split <;> rfl

/-! ## The last registration of a name -/

/-- The operations of the node are these registrations, of which the last under a name counts. -/
def Offers (n : Node α) (registered : List (String × α)) : Prop :=
  ∀ name, n.apis.get? name = if name = "" then none else registered.reverse.lookup name

variable {n : Node α} {registered : List (String × α)}

theorem Offers.registerApi (offers : n.Offers registered) (name : String) (api : α) :
    (n.registerApi name api).Offers (registered ++ [(name, api)]) := by
  intro other
  rw [List.reverse_concat', Table.lookup_cons_eq]
  unfold Node.registerApi
  split
  · rename_i empty
    have nameless : name = "" := by simpa using empty
    rw [offers other, nameless]
    by_cases same : other = "" <;> simp only [same, if_true, if_false]
  · rename_i filled
    have named : name ≠ "" := by simpa using filled
    rw [Table.get?_insert, offers other]
    by_cases same : other = name <;> simp [same, named]

theorem Offers.registerAll (offers : n.Offers registered) (added : List (String × α)) :
    (n.registerAll added).Offers (registered ++ added) := by
  induction added generalizing n registered with
  | nil => rwa [List.append_nil]
  | cons entry added ih =>
      rw [List.append_cons]
      exact ih (offers.registerApi entry.1 entry.2)

theorem Offers.get?_eq_some (offers : n.Offers registered) {name : String} {api : α} :
    n.apis.get? name = some api ↔
      name ≠ "" ∧ ∃ before after, registered = before ++ (name, api) :: after ∧
        ∀ entry ∈ after, entry.1 ≠ name := by
  rw [offers name]
  split
  · rename_i nameless
    simp [nameless]
  rename_i named
  rw [List.lookup_eq_some_iff]
  simp only [ne_eq, named, not_false_eq_true, true_and]
  constructor
  · rintro ⟨after, before, split, others⟩
    refine ⟨before.reverse, after.reverse, ?_, fun entry member => ?_⟩
    · rw [← List.reverse_reverse registered, split]
      simp
    · have apart : name ≠ entry.1 := by simpa using others entry (by simpa using member)
      exact apart.symm
  · rintro ⟨before, after, rfl, others⟩
    refine ⟨after.reverse, before.reverse, by simp, fun entry member => ?_⟩
    have apart : entry.1 ≠ name := others entry (by simpa using member)
    simpa using apart.symm

theorem Offers.mem_apiNames (offers : n.Offers registered) {name : String} :
    name ∈ n.apiNames ↔ name ≠ "" ∧ ∃ api, (name, api) ∈ registered := by
  change name ∈ n.apis.keys ↔ _
  rw [Table.mem_keys, offers name]
  split
  · rename_i nameless
    simp [nameless]
  rename_i named
  rw [← Option.isSome_iff_exists, List.lookup_isSome_iff]
  simp [named]

theorem apiNames_ascending (n : Node α) : n.apiNames.Pairwise (· < ·) :=
  n.apis.keys_ascending

/-! ## Calls -/

theorem call_eq [Api α] {name : String} {api : α} (found : n.apis.get? name = some api)
    (around : Surroundings) (e : Envelope) : n.call name around e = Api.run api around e := by
  rw [call, found]

theorem call_unknown [Api α] {name : String} (absent : name ∉ n.apiNames) (around : Surroundings)
    (e : Envelope) : n.call name around e = .error (.unknownApi name) := by
  have missing : n.apis.get? name = none := by
    rw [Option.eq_none_iff_forall_ne_some]
    intro api found
    exact absent (Table.mem_keys.2 ⟨api, found⟩)
  rw [call, missing]

end Node

/-! ## The default flows -/

def Engine.Compiles [Api α] (engine : Engine) (entry : String × Flow) (api : String × α) : Prop :=
  ∃ c, engine.compile entry.2 = .ok c ∧ api = (entry.1, Api.ofFlow c)

/-- The registrations that every node starts with. -/
def Engine.Defaults [Api α] (engine : Engine) (defaults : List (String × α)) : Prop :=
  List.Forall₂ engine.Compiles Flow.defaults defaults

namespace Node

variable [Api α] {n : Node α} {registered : List (String × α)}

theorem addDefault_eq {entry : String × Flow} {c : CompiledFlow}
    (compiled : n.engine.compile entry.2 = .ok c) :
    addDefault n entry = .ok { n.registerApi entry.1 (Api.ofFlow c) with
      defaultFlows := n.defaultFlows.insert c.flow.name c } := by
  rw [addDefault, compiled]
  rfl

theorem addDefaults {entries : List (String × Flow)}
    (sound : ∀ entry ∈ entries, entry.2.defect? = none) (offers : n.Offers registered) :
    ∃ (m : Node α) (added : List (String × α)), entries.foldlM addDefault n = .ok m ∧
      List.Forall₂ n.engine.Compiles entries added ∧ m.Offers (registered ++ added) ∧
      m.plugins = n.plugins := by
  induction entries generalizing n registered with
  | nil => exact ⟨n, [], rfl, .nil, by rwa [List.append_nil], rfl⟩
  | cons entry entries ih =>
      obtain ⟨c, compiled⟩ : ∃ c, n.engine.compile entry.2 = .ok c :=
        ⟨_, Flow.compile_eq_ok (sound entry List.mem_cons_self) _ _⟩
      let api : α := Api.ofFlow c
      let next : Node α := { n.registerApi entry.1 api with
        defaultFlows := n.defaultFlows.insert c.flow.name c }
      have first : next.Offers (registered ++ [(entry.1, api)]) := offers.registerApi entry.1 api
      have sameEngine : next.engine = n.engine := registerApi_engine n entry.1 api
      have samePlugins : next.plugins = n.plugins := registerApi_plugins n entry.1 api
      obtain ⟨m, added, rest, compiles, offers, plugins⟩ :=
        ih (fun entry member => sound entry (List.mem_cons_of_mem _ member)) first
      rw [sameEngine] at compiles
      refine ⟨m, (entry.1, api) :: added, ?_, .cons ⟨c, compiled, rfl⟩ compiles, ?_,
        plugins.trans samePlugins⟩
      · rw [List.foldlM_cons, addDefault_eq compiled]
        exact rest
      · rwa [List.append_cons]

theorem new_succeeds (engine : Engine) :
    ∃ (base : Node α) (defaults : List (String × α)), Node.new engine = .ok base ∧
      engine.Defaults defaults ∧ base.Offers defaults ∧ base.plugins = ∅ := by
  have sound : ∀ entry ∈ Flow.defaults, entry.2.defect? = none := by decide
  have nothing : (⟨engine, ∅, ∅, ∅⟩ : Node α).Offers [] := by
    intro name
    split <;> rfl
  exact addDefaults sound nothing

end Node

end Countersign
