import Countersign.Proofs.Keystore.Changes
import Countersign.Proofs.Keystore.Selection

/-!
# Keys of several fleets in one keystore

A look-up by role keeps to the records of one fleet, but storing tells records apart by their ids
alone.  A key that is stored under one fleet therefore leaves the records of every other fleet as
they are, with one exception: the record of its own id goes, whatever fleet it was of.
-/

namespace Countersign

/-! ## Looking up among fewer keys -/

section Selection

variable {keys : List Key} {role : Role} {fleetId : String} {selection : Selection} {signing : Bool}

theorem selectKey_filter {k : Key} (h : selectKey keys role fleetId selection signing = .ok k)
    {p : Key → Bool} (kept : p k = true) :
    selectKey (keys.filter p) role fleetId selection signing = .ok k := by
  rw [selectKey_eq_ok_iff] at h ⊢
  rw [Selection.order_filter, List.find?_filter]
  obtain ⟨fits, before, after, split, missed⟩ := List.find?_eq_some_iff_append.1 h
  refine List.find?_eq_some_iff_append.2 ⟨by simp [kept, fits], before, after, split, ?_⟩
  intro l early
  have miss := missed l early
  rw [Bool.not_eq_true'] at miss ⊢
  simp [miss]

end Selection

namespace Keystore

variable {s t : Keystore} {suite : Crypto.Suite} {fleetId other : String} {c : Command} {k : Key}

def ofFleet (fleetId : String) (keys : List Key) : List Key := keys.filter (·.fleetId == fleetId)

theorem selectKey_of_ofFleet (same : ofFleet fleetId s.keys = ofFleet fleetId t.keys) (role : Role)
    (selection : Selection) (signing : Bool) :
    selectKey s.keys role fleetId selection signing =
      selectKey t.keys role fleetId selection signing := by
  rw [ofFleet, ofFleet] at same
  rw [← selectKey_ownFleet, same, selectKey_ownFleet]

/-! ## Storing under another fleet -/

/-- The command stores this key under this fleet: a key that is generated here, one that is handed
over, or one that is read from a text. -/
inductive StoresUnder (s : Keystore) (suite : Crypto.Suite) (fleetId : String) :
    Command → Key → Prop where
  | generate (seed : Block 32) (flags : KeyFlags) (kid : String) :
      StoresUnder s suite fleetId (.generate seed flags kid fleetId)
        (generated suite seed flags kid fleetId)
  | adopt (key : Key) (flags : KeyFlags) :
      StoresUnder s suite fleetId (.adopt key flags fleetId)
        { key with flags := flags.orOrigin .external, fleetId := fleetId }
  | provision {text : String} {t : Keystore} {k : Key} :
      s.provision text = .ok (t, k) → k.fleetId = fleetId →
        StoresUnder s suite fleetId (.provision text) k

theorem StoresUnder.fleet (stored : StoresUnder s suite other c k) : k.fleetId = other := by
  cases stored with
  | generate seed flags kid => rfl
  | adopt key flags => rfl
  | provision _ under => exact under

theorem StoresUnder.perform (stored : StoresUnder s suite other c k) (stores : Stores) :
    s.perform suite stores c = (s.put k, stores, .ok (.key k)) := by
  cases stored with
  | generate seed flags kid => rfl
  | adopt key flags => rfl
  | provision provisions _ =>
      have put := provision_eq_ok provisions
      simp [Keystore.perform, provisions, put, keepOnError]

theorem ofFleet_put (s : Keystore) (elsewhere : k.fleetId ≠ fleetId) :
    ofFleet fleetId (s.put k).keys =
      (ofFleet fleetId s.keys).filter fun old => !(old.kid == k.kid) := by
  have unseen : (k.fleetId == fleetId) = false := by simpa using elsewhere
  have new : ofFleet fleetId [k] = [] := by simp [ofFleet, unseen]
  calc ofFleet fleetId (s.put k).keys
      = ofFleet fleetId (s.keys.filter fun old => !(old.kid == k.kid)) ++ ofFleet fleetId [k] :=
        List.filter_append _ _
    _ = ofFleet fleetId (s.keys.filter fun old => !(old.kid == k.kid)) := by
        rw [new, List.append_nil]
    _ = (ofFleet fleetId s.keys).filter fun old => !(old.kid == k.kid) := by
        simp only [ofFleet, List.filter_filter, Bool.and_comm]

/-- A key that is stored under one fleet takes from another fleet the record of its own id and
nothing else.  Where the other fleet has no such record, its records and all look-ups among them are
as before; where it has one, a look-up still gives what it gave unless that was this record. -/
theorem stored_underOther (apart : other ≠ fleetId) (stored : StoresUnder s suite other c k)
    (stores : Stores) :
    let after := (s.perform suite stores c).1
    (s.perform suite stores c).2 = (stores, .ok (.key k)) ∧
      ofFleet fleetId after.keys =
        (ofFleet fleetId s.keys).filter (fun old => !(old.kid == k.kid)) ∧
      (ofFleet fleetId after.keys = ofFleet fleetId s.keys ↔
        ∀ old ∈ ofFleet fleetId s.keys, old.kid ≠ k.kid) ∧
      ((∀ old ∈ ofFleet fleetId s.keys, old.kid ≠ k.kid) → ∀ role selection signing,
        selectKey after.keys role fleetId selection signing =
          selectKey s.keys role fleetId selection signing) ∧
      ∀ role selection signing chosen,
        selectKey s.keys role fleetId selection signing = .ok chosen → chosen.kid ≠ k.kid →
          selectKey after.keys role fleetId selection signing = .ok chosen := by
  have elsewhere : k.fleetId ≠ fleetId := stored.fleet ▸ apart
  simp only [stored.perform stores]
  have others := ofFleet_put s elsewhere
  have spared : ofFleet fleetId (s.put k).keys = ofFleet fleetId s.keys ↔
      ∀ old ∈ ofFleet fleetId s.keys, old.kid ≠ k.kid := by
    rw [others, List.filter_eq_self]
    simp
  refine ⟨trivial, others, spared, fun unused role selection signing =>
    selectKey_of_ofFleet (spared.2 unused) role selection signing,
    fun role selection signing chosen chose differs => ?_⟩
  have amongOwn : selectKey (ofFleet fleetId s.keys) role fleetId selection signing = .ok chosen :=
    selectKey_ownFleet.trans chose
  have still := selectKey_filter (p := fun old => !(old.kid == k.kid)) amongOwn
    (by simpa using differs)
  rw [← others] at still
  exact selectKey_ownFleet.symm.trans still

/-! ## Two fleets that name their keys alike -/

def signerOf (fleetId kid : String) : Key := ⟨kid, fleetId, [], none, .canSign⟩

def twoFleets : Keystore :=
  { Keystore.new "keys" .mostRecent none with
    keys := [signerOf "a" "device", signerOf "b" "device-b", signerOf "a" "sensor"] }

theorem twoFleets_underOther :
    let after := (twoFleets.perform .curve25519 ∅
      (.generate (Block.takePad 32 [7]) .canSign "sensor" "b")).1
    ofFleet "a" after.keys = [signerOf "a" "device"] ∧
      selectKey after.keys .unassigned "a" .firstFound true = .ok (signerOf "a" "device") := by
  have apart : "b" ≠ "a" := by decide
  have stored : StoresUnder twoFleets .curve25519 "b"
      (.generate (Block.takePad 32 [7]) .canSign "sensor" "b")
      (generated .curve25519 (Block.takePad 32 [7]) .canSign "sensor" "b") :=
    .generate (Block.takePad 32 [7]) .canSign "sensor"
  obtain ⟨-, others, -, -, same⟩ := stored_underOther apart stored ∅
  refine ⟨others, same .unassigned .firstFound true (signerOf "a" "device") rfl ?_⟩
  change "device" ≠ "sensor"
  decide

/-- One fleet generates a key, then another fleet generates one of the same id, and the first fleet
has no key any more. -/
theorem reused_id_evicts :
    let empty := Keystore.new "keys" .mostRecent none
    let first := (empty.perform .curve25519 ∅
      (.generate (Block.takePad 32 [7]) .canSign "gateway" "a")).1
    let second := (first.perform .curve25519 ∅
      (.generate (Block.takePad 32 [9]) .canSign "gateway" "b")).1
    (∃ k, ofFleet "a" first.keys = [k] ∧ first.keyByRole .unassigned "a" = .ok k) ∧
      ofFleet "a" second.keys = [] ∧
      second.keyByRole .unassigned "a" = .error (.keyNotFound (.role .unassigned "a")) :=
  ⟨⟨generated .curve25519 (Block.takePad 32 [7]) .canSign "gateway" "a", rfl, rfl⟩, rfl, rfl⟩

end Keystore

end Countersign
