import Countersign.Flow.Run
import Countersign.Proofs.Envelope.SigningInput
import Countersign.Proofs.Flow.Compile

/-!
# What a check looks at

A check passes exactly when everything that it looks at is as it should be, which `Evidence`
gathers.
-/

namespace Countersign.CompiledFlow

variable {c : CompiledFlow} {around : Surroundings} {e : Envelope} {step : Step}

/-- What shows that the layer at `index` was signed for the step's role, by a key that is known here
and good. -/
structure Evidence (c : CompiledFlow) (around : Surroundings) (step : Step) (index : Nat)
    (e : Envelope) where
  layer : Layer
  there : e.layers[index]? = some layer
  header : Header
  readable : layer.header = .ok header
  roleNumber : Int64
  declaresRole : header.roleNumber = some roleNumber
  roleDeclared : Role.byNumber roleNumber.toInt = step.role
  kid : String
  namesKey : header.kid = some kid
  declaresFleet : header.fleetId = some c.fleetId
  key : Key
  known : around.keystore.key? kid = some key
  valid : key.isInvalid = false
  keyRole : key.role = step.role
  keyFleet : key.fleetId = c.fleetId
  payload : String
  held : e.payload = some payload
  input : Bytes
  covered : e.signingInputAt index step.coverage = .ok input
  signature : Bytes
  decodes : layer.signatureBytes = .ok signature
  matched : key.verify around.suite input signature = .ok true

theorem liftCrypto_eq_ok {α : Type} {r : Except CryptoError α} {a : α} :
    liftCrypto r = .ok a ↔ r = .ok a := mapError_eq_ok

theorem role?_eq_some {header : Header} {role : Role} :
    header.role? = some role ↔
      ∃ n, header.roleNumber = some n ∧ Role.byNumber n.toInt = role := by
  simp [Header.role?]

theorem verify_eq_true {index : Nat} :
    c.verify around step index e = .ok true ↔ Nonempty (c.Evidence around step index e) := by
  constructor
  · intro h
    obtain ⟨layer, there, h⟩ := bind_eq_ok.1 h
    obtain ⟨header, readable, h⟩ := bind_eq_ok.1 h
    split at h
    · cases h
    rename_i roleFits
    split at h
    · rename_i kid namesKey
      split at h
      · rename_i key known
        have valid : key.isInvalid = false := by
          cases invalid : key.isInvalid with
          | false => rfl
          | true => simp [invalid] at h
        simp only [valid, Bool.false_eq_true, if_false] at h
        split at h
        · cases h
        rename_i keyFits
        split at h
        · cases h
        rename_i keyFleet
        obtain ⟨input, covered, h⟩ := bind_eq_ok.1 h
        obtain ⟨signature, decodes, h⟩ := bind_eq_ok.1 h
        have matched := liftCrypto_eq_ok.1 h
        obtain ⟨roleNumber, declaresRole, roleDeclared⟩ :=
          role?_eq_some.1 (not_not.1 roleFits)
        obtain ⟨keyRole, declaresFleet⟩ := not_or.1 keyFits
        obtain ⟨-, payload, -, -, held, -⟩ := Envelope.covers_of_signingInputAt covered
        exact ⟨{
          layer := layer
          there := Envelope.layerAt_eq_ok.1 there
          header := header
          readable := readable
          roleNumber := roleNumber
          declaresRole := declaresRole
          roleDeclared := roleDeclared
          kid := kid
          namesKey := namesKey
          declaresFleet := (not_not.1 declaresFleet).trans (congrArg some (not_not.1 keyFleet))
          key := key
          known := known
          valid := valid
          keyRole := not_not.1 keyRole
          keyFleet := not_not.1 keyFleet
          payload := payload
          held := held
          input := input
          covered := covered
          signature := signature
          decodes := decodes
          matched := matched }⟩
      · cases h
    · cases h
  · rintro ⟨v⟩
    have there := Envelope.layerAt_eq_ok.2 v.there
    have role := role?_eq_some.2 ⟨v.roleNumber, v.declaresRole, v.roleDeclared⟩
    have matched := liftCrypto_eq_ok.2 v.matched
    simp [verify, there, v.readable, role, v.namesKey, v.known, v.valid, v.keyRole,
      v.declaresFleet, v.keyFleet, v.covered, v.decodes, matched]

theorem verify_outside {index : Nat} (outside : e.layers.length ≤ index) (step : Step) :
    c.verify around step index e = .error (.layerIndex index e.layers.length) := by
  have missing : e.layers[index]? = none := List.getElem?_eq_none outside
  simp [verify, Envelope.layerAt, missing]

end Countersign.CompiledFlow
