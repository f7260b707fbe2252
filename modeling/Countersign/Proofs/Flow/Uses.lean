import Countersign.Proofs.Flow.Effect
import Countersign.Proofs.Keystore.Changes
import Countersign.Proofs.Keystore.Selection

/-!
# The key that a step uses

A step that goes through does so with one key: it signs, seals or opens with it, or finds a layer
good by it.  That key is held, valid and of the flow's fleet, and the step would have come to the
same over a keystore that holds no other.
-/

namespace Countersign

def Surroundings.over (around : Surroundings) (s : Keystore) : Surroundings :=
  { around with keystore := s }

@[simp] theorem Surroundings.over_later (around : Surroundings) (s : Keystore) (steps : Nat) :
    (around.over s).later steps = (around.later steps).over s := rfl

def Keystore.only (s : Keystore) (k : Key) : Keystore := { s with keys := [k] }

variable {keys : List Key} {role : Role} {fleetId : String} {selection : Selection} {signing : Bool}
  {k : Key}

theorem selectKey_alone (h : selectKey keys role fleetId selection signing = .ok k) :
    selectKey [k] role fleetId selection signing = .ok k := by
  obtain ⟨-, fits, usable⟩ := selectKey_eq_ok h
  rw [selectKey_eq_ok_iff]
  cases selection <;> simp [Selection.order, fits, usable]

namespace CompiledFlow

variable {c : CompiledFlow} {around : Surroundings} {e e' : Envelope} {step : Step}

/-- The step signs, seals or opens with this key, or its check passes by it. -/
def Uses (c : CompiledFlow) (around : Surroundings) (e : Envelope) (step : Step) (k : Key) : Prop :=
  match step.operation with
  | .sign | .decrypt => around.keystore.keyByRole step.role c.fleetId = .ok k
  | .encrypt => selectKey around.keystore.keys step.role c.fleetId c.selection false = .ok k
  | .verify =>
      ∃ index, step.slot = .layer index ∧ ∃ v : c.Evidence around step index e, v.key = k

def Evidence.over {index : Nat} (v : c.Evidence around step index e) {s : Keystore}
    (known : s.key? v.kid = some v.key) : c.Evidence (around.over s) step index e :=
  { v with known := known }

theorem runStep_verify_passed (verifies : step.operation = .verify) :
    c.runStep around step e = .ok (e', true) ↔
      e' = e ∧ ∃ index, step.slot = .layer index ∧ Nonempty (c.Evidence around step index e) := by
  simp only [runStep, verifies]
  cases slot : step.slot with
  | append => simp
  | layer index =>
      simp only [Slot.layer.injEq, exists_eq_left', ← verify_eq_true]
      cases c.verify around step index e with
      | error error => simp
      | ok passed => simp [eq_comm]

theorem uses_of_passed (passed : c.runStep around step e = .ok (e', true)) :
    ∃ k, c.Uses around e step k := by
  cases runStep_effect passed with
  | checked operation slot checks =>
      obtain ⟨v⟩ := verify_eq_true.1 checks
      exact ⟨v.key, by simpa only [Uses, operation] using ⟨_, slot, v, rfl⟩⟩
  | @signed signer _ operation chosen =>
      exact ⟨signer, by simpa only [Uses, operation] using chosen⟩
  | @hidden k _ _ operation _ chosen =>
      exact ⟨k, by simpa only [Uses, operation] using chosen⟩
  | @opened k _ _ operation chosen =>
      exact ⟨k, by simpa only [Uses, operation] using chosen⟩

namespace Uses

theorem chosen_or_checked (uses : c.Uses around e step k) :
    (∃ selection signing,
      selectKey around.keystore.keys step.role c.fleetId selection signing = .ok k) ∨
    ∃ index, ∃ v : c.Evidence around step index e, v.key = k := by
  unfold Uses at uses
  split at uses
  · exact .inl ⟨_, _, uses⟩
  · exact .inl ⟨_, _, uses⟩
  · exact .inl ⟨_, _, uses⟩
  · obtain ⟨index, -, checked⟩ := uses
    exact .inr ⟨index, checked⟩

theorem held (uses : c.Uses around e step k) : k ∈ around.keystore.keys := by
  rcases uses.chosen_or_checked with ⟨selection, signing, chosen⟩ | ⟨index, v, rfl⟩
  · exact (selectKey_eq_ok chosen).1
  · exact Keystore.mem_of_key? v.known

theorem fleet (uses : c.Uses around e step k) : k.fleetId = c.fleetId := by
  rcases uses.chosen_or_checked with ⟨selection, signing, chosen⟩ | ⟨index, v, rfl⟩
  · exact selectKey_fleet chosen
  · exact v.keyFleet

theorem valid (uses : c.Uses around e step k) : k.isInvalid = false := by
  rcases uses.chosen_or_checked with ⟨selection, signing, chosen⟩ | ⟨index, v, rfl⟩
  · exact selectKey_valid chosen
  · exact v.valid

theorem alone (uses : c.Uses around e step k) :
    c.runStep (around.over (around.keystore.only k)) step e = c.runStep around step e := by
  cases operation : step.operation with
  | sign =>
      simp only [Uses, operation] at uses
      have chosen : (around.keystore.only k).keyByRole step.role c.fleetId = .ok k :=
        selectKey_alone uses
      simp only [runStep, operation, sign, Surroundings.over, uses, chosen]
  | encrypt =>
      simp only [Uses, operation] at uses
      have chosen := selectKey_alone uses
      simp only [runStep, operation, encrypt, Surroundings.over, Keystore.only, uses, chosen]
  | decrypt =>
      simp only [Uses, operation] at uses
      have chosen : (around.keystore.only k).keyByRole step.role c.fleetId = .ok k :=
        selectKey_alone uses
      simp only [runStep, operation, decrypt, Surroundings.over, uses, chosen]
  | verify =>
      simp only [Uses, operation] at uses
      obtain ⟨index, slot, v, rfl⟩ := uses
      have known : (around.keystore.only v.key).key? v.kid = some v.key := by
        simp [Keystore.key?, Keystore.only, Keystore.kid_of_key? v.known]
      rw [(runStep_verify_passed operation).2 ⟨rfl, index, slot, ⟨v⟩⟩]
      exact (runStep_verify_passed operation).2 ⟨rfl, index, slot, ⟨v.over known⟩⟩

end Uses

end CompiledFlow

end Countersign
