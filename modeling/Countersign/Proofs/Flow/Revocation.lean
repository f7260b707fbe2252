import Countersign.Proofs.Flow.Uses
import Countersign.Proofs.Key.Flags
import Countersign.Proofs.Keystore.Persistence

/-!
# Revoked keys are out of use

A key is revoked by its id, and only the first record of that id is marked.  That is enough where no
two records share an id, which every command to a keystore sees to, save that loading takes a list
as it was saved.  Where it is enough, no step uses the key any more until it is stored anew, made
valid or loaded.
-/

namespace Countersign

namespace Keystore

variable {s : Keystore} {keys : List Key} {kid : String}

def Revoked (kid : String) (keys : List Key) : Prop := ∀ k ∈ keys, k.kid = kid → k.isInvalid = true

/-- The change neither stores a key of this id, nor makes it valid again, nor loads the keys. -/
def Change.Spares (kid : String) : Change → Prop
  | .keep | .drop _ => True
  | .store k => k.kid ≠ kid
  | .mark marked flag on => ¬ (marked = kid ∧ flag.contains .invalid = true ∧ on = false)
  | .replace _ => False

theorem Revoked.mark (distinct : DistinctKids keys) (kid : String) :
    Revoked kid ((Change.mark kid .invalid true).apply keys) := by
  intro l member named
  rw [Change.apply, changeFirst_eq_map distinct] at member
  obtain ⟨k, -, rfl⟩ := List.mem_map.1 member
  by_cases same : k.kid = kid
  · rw [if_pos same, Key.isInvalid_setFlag]
    rfl
  · rw [if_neg same] at named
    exact absurd named same

theorem Revoked.apply (revoked : Revoked kid keys) {change : Change} (spares : change.Spares kid) :
    Revoked kid (change.apply keys) := by
  refine Change.apply_every (P := fun k => k.isInvalid = true) ?_ revoked
  cases change with
  | keep => trivial
  | store k => exact fun named => absurd named spares
  | mark marked flag on =>
      rintro rfl k - invalid
      exact Key.hasFlag_setFlag_of_spared KeyFlags.single_invalid invalid fun restores =>
        spares ⟨rfl, restores⟩
  | drop dropped => trivial
  | replace loaded => exact absurd spares id

/-- No look-up by role gives a key of this id, a look-up by id gives an invalid one if any, no step
uses such a key, and no layer that names it is found good. -/
structure OutOfUse (kid : String) (s : Keystore) : Prop where
  selected : ∀ role fleetId selection signing k,
    selectKey s.keys role fleetId selection signing = .ok k → k.kid ≠ kid
  byRole : ∀ role fleetId k, s.keyByRole role fleetId = .ok k → k.kid ≠ kid
  known : ∀ k, s.key? kid = some k → k.isInvalid = true
  used : ∀ (c : CompiledFlow) around e step k, around.keystore = s → c.Uses around e step k →
    k.kid ≠ kid
  unverified : ∀ (c : CompiledFlow) around e step index layer header, around.keystore = s →
    e.layers[index]? = some layer → layer.header = .ok header → header.kid = some kid →
      c.verify around step index e ≠ .ok true

theorem Revoked.outOfUse (revoked : Revoked kid s.keys) : OutOfUse kid s := by
  have other {k : Key} (held : k ∈ s.keys) (valid : k.isInvalid = false) : k.kid ≠ kid := by
    intro named
    cases valid.symm.trans (revoked k held named)
  have selected : ∀ role fleetId selection signing k,
      selectKey s.keys role fleetId selection signing = .ok k → k.kid ≠ kid := by
    intro role fleetId selection signing k chosen
    exact other (selectKey_eq_ok chosen).1 (selectKey_valid chosen)
  refine ⟨selected, fun role fleetId k chosen => selected role fleetId s.selection true k chosen,
    fun k found => ?_, ?_, ?_⟩
  · exact revoked k (mem_of_key? found) (kid_of_key? found)
  · rintro c around e step k rfl uses
    exact other uses.held uses.valid
  · rintro c around e step index layer header rfl there readable names good
    obtain ⟨v⟩ := CompiledFlow.verify_eq_true.1 good
    cases there.symm.trans v.there
    cases readable.symm.trans v.readable
    cases names.symm.trans v.namesKey
    exact other (mem_of_key? v.known) v.valid (kid_of_key? v.known)

end Keystore

namespace Site

open Keystore (DistinctKids Revoked OutOfUse)

variable {suite : Crypto.Suite} {site : Site} {which : Nat}

def LoadsDistinct (suite : Crypto.Suite) (which : Nat) (site : Site) (event : Event) : Prop :=
  ∀ loaded, site.change suite which event = .replace loaded → DistinctKids loaded

def SparesRevoked (suite : Crypto.Suite) (which : Nat) (kid : String) (site : Site)
    (event : Event) : Prop :=
  (site.change suite which event).Spares kid

theorem perform_distinct (site : Site) (event : Event)
    (distinct : DistinctKids (site.keystores which).keys)
    (loads : LoadsDistinct suite which site event) :
    DistinctKids ((site.perform suite event).keystores which).keys := by
  rw [perform_keystore]
  exact distinct.apply loads

theorem perform_revoked {kid : String} (site : Site) (event : Event)
    (revoked : Revoked kid (site.keystores which).keys)
    (spares : SparesRevoked suite which kid site event) :
    Revoked kid ((site.perform suite event).keystores which).keys := by
  rw [perform_keystore]
  exact revoked.apply spares

/-- However a keystore came to its keys, as long as it loaded no two of one id, a key that is
revoked is out of use for as long as nothing brings it back. -/
theorem revoked_outOfUse (fresh : (site.keystores which).keys = []) {before : List Event}
    (loads : Throughout suite (LoadsDistinct suite which) site before) (kid : String)
    {later : List Event}
    (spares : Throughout suite (SparesRevoked suite which kid)
      ((site.performAll suite before).perform suite (.keystore which (.setFlag kid .invalid true)))
      later) :
    OutOfUse kid
      ((((site.performAll suite before).perform suite
        (.keystore which (.setFlag kid .invalid true))).performAll suite later).keystores which) := by
  have start : DistinctKids (site.keystores which).keys := by
    rw [fresh]
    exact List.nodup_nil
  have distinct : DistinctKids ((site.performAll suite before).keystores which).keys :=
    loads.kept (fun site => DistinctKids (site.keystores which).keys) perform_distinct start
  have revoked : Revoked kid (((site.performAll suite before).perform suite
      (.keystore which (.setFlag kid .invalid true))).keystores which).keys := by
    rw [perform_keystore, change, if_pos rfl]
    exact Revoked.mark distinct kid
  have still := spares.kept (fun site => Revoked kid (site.keystores which).keys)
    perform_revoked revoked
  exact still.outOfUse

def holding (keys : List Key) : Site where
  stores := (∅ : Table (Table Json)).insert "keys"
    ((∅ : Table Json).insert Keystore.keysEntry (Keystore.savedValue keys))
  keystores _ := .new "keys" .mostRecent none

theorem holding_change_load (keys : List Key) (suite : Crypto.Suite) :
    (holding keys).change suite 0 (.keystore 0 .load) = .replace keys := by
  have held : (holding keys).stores.get "keys" Keystore.keysEntry =
      .ok (some (Keystore.savedValue keys)) := rfl
  have loads : ((holding keys).keystores 0).load (holding keys).stores =
      ((holding keys).stores, .ok { (holding keys).keystores 0 with keys := keys }) :=
    Keystore.load_held held
  simp [change, Keystore.change, loads]

def signerNamed (kid : String) : Key := ⟨kid, "fleet", [], none, .canSign⟩

/-- One of two signers is revoked, and much else happens. -/
theorem oneOfTwo_outOfUse :
    let site := holding [signerNamed "old", signerNamed "older"]
    let before : List Event :=
      [.keystore 0 .load, .keystore 0 (.adopt (signerNamed "new") .canSign "fleet")]
    let later : List Event :=
      [.keystore 0 (.setFlag "old" .canSign false), .keystore 0 (.setFlag "new" .invalid true),
        .keystore 0 (.setFlag "old" .canSign true), .stores (.delete "keys"), .keystore 0 .save,
        .keystore 1 .load, .keystore 0 (.forget "older"), .keystore 0 (.setFlag "new" .invalid false)]
    OutOfUse "old" ((((site.performAll .curve25519 before).perform .curve25519
      (.keystore 0 (.setFlag "old" .invalid true))).performAll .curve25519 later).keystores 0) := by
  intro site before later
  have loads : Throughout .curve25519 (LoadsDistinct .curve25519 0) site before := by
    refine ⟨fun loaded replaces => ?_, fun loaded replaces => ?_, trivial⟩
    · cases (holding_change_load _ _).symm.trans replaces
      decide
    · cases replaces
  have spares : Throughout .curve25519 (SparesRevoked .curve25519 0 "old")
      ((site.performAll .curve25519 before).perform .curve25519
        (.keystore 0 (.setFlag "old" .invalid true))) later := by
    have apart : KeyFlags.canSign.contains .invalid = false := by decide
    simp [later, Throughout, SparesRevoked, change, Keystore.change, Keystore.Change.Spares, apart]
  exact revoked_outOfUse rfl loads "old" spares

/-- Where two records of one id were loaded, the second one serves on when the key is revoked. -/
theorem twins_outlive_revocation :
    let loaded := (holding [signerNamed "twin", signerNamed "twin"]).perform .curve25519
      (.keystore 0 .load)
    ∃ revoked k, (loaded.keystores 0).setFlag "twin" .invalid true = .ok (revoked, k) ∧
      revoked.keyByRole .unassigned "fleet" = .ok (signerNamed "twin") := by
  intro loaded
  have keys : loaded.keystores 0 =
      { Keystore.new "keys" .mostRecent none with
        keys := [signerNamed "twin", signerNamed "twin"] } := by
    rw [perform_keystore, holding_change_load]
    rfl
  rw [keys]
  exact ⟨_, _, rfl, rfl⟩

end Site

end Countersign
