import Countersign.Proofs.Key.Record
import Countersign.Proofs.Site
import Countersign.Proofs.Stores

/-!
# Saved keys are loaded again

What a keystore saved stays in its store, whatever else happens at the site, until somebody writes
that entry or deletes the store.  Whoever loads from the store before that gets the very keys.
-/

namespace Countersign

namespace Keystore

variable {s : Keystore} {stores stores' : Stores}

def savedValue (keys : List Key) : Json := .array (keys.map Key.storedJson)

def storesCommand? (s : Keystore) : Command → Option Stores.Command
  | .load => some (.create s.store (.object [(keysEntry, .array [])]))
  | .save => some (.set s.store keysEntry (savedValue s.keys))
  | _ => none

theorem perform_stores (s : Keystore) (suite : Crypto.Suite) (stores : Stores) (c : Command) :
    (s.perform suite stores c).2.1 =
      match s.storesCommand? c with
      | some asked => (stores.perform asked).1
      | none => stores := by
  cases c with
  | load =>
      simp only [perform, storesCommand?, load, Stores.perform]
      cases stores.create s.store (.object [(keysEntry, .array [])]) with
      | error e => rfl
      | ok created =>
          obtain ⟨stores, new⟩ := created
          dsimp only
          cases readSaved s.store stores <;> rfl
  | save =>
      simp only [perform, storesCommand?, save, savedValue, Stores.perform]
      cases stores.set s.store keysEntry (.array (s.keys.map Key.storedJson)) <;> rfl
  | generate seed flags kid fleetId => rfl
  | adopt key flags fleetId => rfl
  | provision text => rfl
  | setFlag kid flag on => rfl
  | forget kid => rfl

theorem save_get (saved : s.save stores = .ok stores') :
    stores'.get s.store keysEntry = .ok (some (savedValue s.keys)) :=
  Stores.get_set saved

theorem readSaved_held {keys : List Key} {name : String}
    (held : stores.get name keysEntry = .ok (some (savedValue keys))) :
    readSaved name stores = .ok keys := by
  simp [readSaved, held, savedValue, Key.listOfJson_stored]

theorem create_held {name : String} {v : Json} (held : stores.get name keysEntry = .ok (some v)) :
    stores.create name (.object [(keysEntry, .array [])]) = .ok (stores, false) := by
  obtain ⟨entries, there, -⟩ := Stores.get_eq_ok.1 held
  simp [Stores.create, Stores.initial, Table.contains, there]

theorem load_held {keys : List Key}
    (held : stores.get s.store keysEntry = .ok (some (savedValue keys))) :
    s.load stores = (stores, .ok { s with keys := keys }) := by
  simp [load, create_held held, readSaved_held held]

end Keystore

namespace Site

/-- The event neither writes the keys that are saved in this store nor deletes the store: no other
keystore that is bound to it saves. -/
def SparesSaved (name : String) (site : Site) : Event → Prop
  | .stores c => c.Spares name Keystore.keysEntry
  | .keystore which .save => (site.keystores which).store ≠ name
  | .keystore _ _ => True

variable {suite : Crypto.Suite} {site : Site} {name : String} {v : Json}

theorem perform_saved (site : Site) (event : Event)
    (held : site.stores.get name Keystore.keysEntry = .ok (some v))
    (spares : SparesSaved name site event) :
    (site.perform suite event).stores.get name Keystore.keysEntry = .ok (some v) := by
  cases event with
  | stores c => exact Stores.perform_held held spares
  | keystore which c =>
      change Stores.get ((site.keystores which).perform suite site.stores c).2.1 _ _ = _
      rw [Keystore.perform_stores]
      cases c with
      | load => exact Stores.perform_held held trivial
      | save => exact Stores.perform_held held fun same => spares same.1
      | generate seed flags kid fleetId => exact held
      | adopt key flags fleetId => exact held
      | provision text => exact held
      | setFlag kid flag on => exact held
      | forget kid => exact held

theorem perform_keystore_store (site : Site) (event : Event) (which : Nat) :
    ((site.perform suite event).keystores which).store = (site.keystores which).store := by
  rw [perform_keystore]

/-- Keys that were saved are loaded again, all of them, in order and in every part, however much
happened since, by the same keystore or any other that is bound to the store. -/
theorem saved_loads {which : Nat} {saved : Stores}
    (saves : (site.keystores which).save site.stores = .ok saved) {later : List Event}
    (spares : Throughout suite (SparesSaved (site.keystores which).store)
      (site.perform suite (.keystore which .save)) later) :
    let s := site.keystores which
    let after := (site.perform suite (.keystore which .save)).performAll suite later
    (after.keystores which).store = s.store ∧
      ∀ t : Keystore, t.store = s.store →
        t.perform suite after.stores .load =
          ({ t with keys := s.keys }, after.stores, .ok (.count s.keys.length)) := by
  intro s after
  have start : (site.perform suite (.keystore which .save)).stores = saved := by
    simp [perform, Keystore.perform, saves]
  have held : after.stores.get s.store Keystore.keysEntry =
      .ok (some (Keystore.savedValue s.keys)) := by
    refine spares.kept (fun site => site.stores.get s.store Keystore.keysEntry = _) perform_saved ?_
    rw [start]
    exact Keystore.save_get saves
  have bound : (after.keystores which).store = s.store :=
    spares.kept (fun site => (site.keystores which).store = s.store)
      (fun site event bound _ => (perform_keystore_store site event which).trans bound)
      (perform_keystore_store site _ which)
  refine ⟨bound, fun t same => ?_⟩
  simp [Keystore.perform, Keystore.load_held (same ▸ held)]

/-- Two keystores that share the store `main`, and one with a store of its own.  What the first one
holds is odd: no bytes at all, empty material, flags that mean nothing. -/
def sharedStore : Site where
  stores := ((∅ : Table (Table Json)).insert "main" ∅).insert "side" ∅
  keystores
    | 0 =>
        ⟨"main", .mostRecent, none,
          [⟨"", "é", [], none, ⟨0xFFFFFFFF⟩⟩, ⟨"k", "", [0], some [], ⟨0⟩⟩]⟩
    | 1 => ⟨"side", .firstFound, some "k", []⟩
    | _ => ⟨"main", .firstFound, none, []⟩

theorem sharedStore_saved_loads :
    let later : List Event :=
      [.keystore 0 (.forget "k"), .keystore 1 .save, .keystore 2 .load,
        .stores (.create "main" .null), .stores (.set "main" "note" .null),
        .stores (.set "none" "keys" .null), .stores (.dropKey "side" "keys"),
        .stores (.delete "side"), .keystore 2 (.setFlag "" .invalid false)]
    let after := (sharedStore.perform .curve25519 (.keystore 0 .save)).performAll .curve25519 later
    let s := ((after.keystores 0).perform .curve25519 after.stores .load).1
    s.keys = (sharedStore.keystores 0).keys := by
  intro later after s
  have saves : (sharedStore.keystores 0).save sharedStore.stores =
      .ok (sharedStore.perform .curve25519 (.keystore 0 .save)).stores := rfl
  have spares : Throughout .curve25519 (SparesSaved (sharedStore.keystores 0).store)
      (sharedStore.perform .curve25519 (.keystore 0 .save)) later := by
    simp [later, Throughout, SparesSaved, Stores.Command.Spares, sharedStore, perform_keystore_store,
      Keystore.keysEntry]
  obtain ⟨bound, loads⟩ := saved_loads saves spares
  exact congrArg (fun performed => performed.1.keys) (loads _ bound)

end Site

end Countersign
