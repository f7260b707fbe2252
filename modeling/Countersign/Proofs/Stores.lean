import Countersign.Proofs.Results
import Countersign.Proofs.Table
import Countersign.Stores.Command

/-!
# What stores hold

An entry that was written is there, and stays as it is until a command writes it or deletes its
store; so does the lack of an entry.  Creating a store anew does not touch it.
-/

namespace Countersign

namespace Stores

/-- The command neither writes this entry nor deletes its store. -/
def Command.Spares (name key : String) : Command → Prop
  | .delete store => store ≠ name
  | .set store written _ | .dropKey store written => ¬ (store = name ∧ written = key)
  | .create _ _ | .get _ _ | .keys _ => True

variable {s s' : Stores} {name key : String} {v : Json} {found : Option Json}

theorem get_eq_ok : s.get name key = .ok found ↔
    ∃ entries, s.get? name = some entries ∧ entries.get? key = found := by
  rw [get, store]
  cases s.get? name with
  | none => simp
  | some entries => simp

theorem get_set (h : s.set name key v = .ok s') : s'.get name key = .ok (some v) := by
  obtain ⟨entries, -, h⟩ := bind_eq_ok.1 h
  cases h
  exact get_eq_ok.2 ⟨_, Table.get?_insert_self s name _, Table.get?_insert_self entries key v⟩

theorem get_insert {entries : Table Json} (held : s.get name key = .ok found) {other : String}
    (same : other = name → entries.get? key = found) :
    Stores.get (Table.insert s other entries) name key = .ok found := by
  obtain ⟨old, there, entry⟩ := get_eq_ok.1 held
  rw [get_eq_ok, Table.get?_insert]
  by_cases here : name = other
  · exact ⟨entries, if_pos here, same here.symm⟩
  · exact ⟨old, (if_neg here).trans there, entry⟩

/-! ## What a command does -/

def Command.store : Command → String
  | .create store _ | .delete store | .get store _ | .set store _ _ | .keys store
  | .dropKey store _ => store

inductive Effect (s : Stores) : Command → Stores → Prop where
  | nothing (c : Command) : Effect s c s
  | created {name : String} {init : Json} (entries : Table Json) (absent : s.get? name = none) :
      Effect s (.create name init) (Table.insert s name entries)
  | deleted (name : String) : Effect s (.delete name) (Table.erase s name)
  | written {name : String} (key : String) (value : Json) {entries : Table Json}
      (present : s.get? name = some entries) :
      Effect s (.set name key value) (Table.insert s name (entries.insert key value))
  | dropped {name : String} (key : String) {entries : Table Json}
      (present : s.get? name = some entries) :
      Effect s (.dropKey name key) (Table.insert s name (entries.erase key))

theorem perform_effect (s : Stores) (c : Command) : Effect s c (s.perform c).1 := by
  cases c with
  | get store key => exact .nothing _
  | keys store => exact .nothing _
  | delete store => exact .deleted store
  | create store init =>
      rw [perform, create]
      cases initial store init with
      | error e => exact .nothing _
      | ok entries =>
          cases taken : Table.contains s store with
          | true => simpa [taken, keepOnError] using Effect.nothing _
          | false =>
              have absent : s.get? store = none := by simpa [Table.contains] using taken
              simpa [taken, keepOnError] using Effect.created entries absent
  | set store key value =>
      rw [perform, set, Stores.store]
      cases present : s.get? store with
      | none => exact .nothing _
      | some entries => exact .written key value present
  | dropKey store key =>
      rw [perform, dropKey, Stores.store]
      cases present : s.get? store with
      | none => exact .nothing _
      | some entries => exact .dropped key present

theorem Effect.elsewhere {c : Command} (effect : Effect s c s') (other : name ≠ c.store) :
    s'.get? name = s.get? name := by
  cases effect with
  | nothing => rfl
  | created entries absent => exact Table.get?_insert_of_ne s other entries
  | deleted => exact Table.get?_erase_of_ne s other
  | written key value present => exact Table.get?_insert_of_ne s other _
  | dropped key present => exact Table.get?_insert_of_ne s other _

/-- A store that is not there comes to be by its creation alone. -/
theorem Effect.absent {c : Command} (effect : Effect s c s') (absent : s.get? name = none)
    (uncreated : ∀ init, c ≠ .create name init) : s'.get? name = none := by
  by_cases here : name = c.store
  · cases effect with
    | nothing => exact absent
    | created => exact absurd (congrArg (Command.create · _) here.symm) (uncreated _)
    | deleted =>
        rw [here]
        exact Table.get?_erase_self s _
    | written key value present =>
        rw [here] at absent
        cases absent.symm.trans present
    | dropped key present =>
        rw [here] at absent
        cases absent.symm.trans present
  · exact (effect.elsewhere here).trans absent

theorem Effect.held {c : Command} (effect : Effect s c s') (held : s.get name key = .ok found)
    (spares : c.Spares name key) : s'.get name key = .ok found := by
  obtain ⟨entries, there, entry⟩ := get_eq_ok.1 held
  cases effect with
  | nothing => exact held
  | created new absent =>
      refine get_insert held ?_
      rintro rfl
      cases there.symm.trans absent
  | deleted deleted =>
      have other : name ≠ deleted := fun same => spares same.symm
      exact get_eq_ok.2 ⟨entries, (Table.get?_erase_of_ne s other).trans there, entry⟩
  | written written value present =>
      refine get_insert held ?_
      rintro rfl
      cases there.symm.trans present
      have other : key ≠ written := fun same => spares ⟨rfl, same.symm⟩
      rw [Table.get?_insert_of_ne _ other, entry]
  | dropped written present =>
      refine get_insert held ?_
      rintro rfl
      cases there.symm.trans present
      have other : key ≠ written := fun same => spares ⟨rfl, same.symm⟩
      rw [Table.get?_erase_of_ne _ other, entry]

theorem perform_held (held : s.get name key = .ok found) {c : Command}
    (spares : c.Spares name key) : (s.perform c).1.get name key = .ok found :=
  (s.perform_effect c).held held spares

end Stores

end Countersign
