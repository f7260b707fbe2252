import Countersign.Proofs.Envelope.Growth
import Countersign.Proofs.Flow.Evidence
import Countersign.Proofs.Key.Use

/-!
# Signing steps

A signing step puts one layer on the envelope, signed over what the step asks for by the key that
was chosen for its role.  A verifier with a record of that key finds the layer good, also when there
are more layers on top of it.
-/

namespace Countersign

/-! ## Signed layers -/

/-- The layer at `index` is one that this key put there with a step, at some time. -/
structure SignedAt (suite : Crypto.Suite) (signer : Key) (step : Step) (index : Nat)
    (e : Envelope) : Prop where
  role : signer.role = step.role
  signed : ∃ layer seed now input,
    e.layers[index]? = some layer ∧ signer.seed = .ok seed ∧
      layer.headerText =
        (Header.signed signer.kid signer.fleetId suite.algorithm signer.role now).encode ∧
      e.signingInputAt index step.coverage = .ok input ∧
      layer.signature = Base64Url.encode (suite.sign seed input).val

theorem SignedAt.mono {suite : Crypto.Suite} {signer : Key} {step : Step} {index : Nat}
    {e e' : Envelope} (h : SignedAt suite signer step index e) (grown : e.Extends e') :
    SignedAt suite signer step index e' := by
  obtain ⟨layer, seed, now, input, there, seedOf, headerText, covered, signature⟩ := h.signed
  exact ⟨h.role, layer, seed, now, input, grown.getElem? there, seedOf, headerText,
    Envelope.signingInputAt_mono grown covered, signature⟩

/-- Nothing can have been signed over the layer beneath the first one. -/
theorem SignedAt.defect? {suite : Crypto.Suite} {signer : Key} {made : Step} {index : Nat}
    {e : Envelope} (signed : SignedAt suite signer made index e) (name : String) :
    Step.defect? ⟨name, made.role, .verify, .layer index, made.coverage⟩ = none := by
  obtain ⟨-, -, -, input, -, -, -, covered, -⟩ := signed.signed
  obtain ⟨_, _, _, -, -, covers, -⟩ := Envelope.covers_of_signingInputAt covered
  change (if index = 0 ∧ made.coverage = .priorLayer then _ else none) = none
  apply if_neg
  rintro ⟨rfl, bound⟩
  rw [bound] at covers
  cases covers with
  | priorLayer positive => exact absurd positive (Nat.lt_irrefl 0)

/-! ## Signing -/

theorem CompiledFlow.sign_adds {c : CompiledFlow} {around : Surroundings} {step : Step}
    {e e' : Envelope} (h : c.sign around step e = .ok e') :
    ∃ signer layer, around.keystore.keyByRole step.role c.fleetId = .ok signer ∧
      e' = ⟨e.payload, e.layers ++ [layer]⟩ ∧ layer.WellFormed ∧
      layer.header = .ok (Header.signed signer.kid c.fleetId around.suite.algorithm step.role
        (around.moment 0).now) ∧
      SignedAt around.suite signer step e.layers.length e' := by
  obtain ⟨signer, chosen, h⟩ := bind_eq_ok.1 h
  obtain ⟨pending, prepared, h⟩ := bind_eq_ok.1 h
  obtain ⟨signature, made, h⟩ := bind_eq_ok.1 h
  obtain ⟨⟨after, index⟩, pushed, h⟩ := bind_eq_ok.1 h
  cases h
  obtain ⟨seed, seedOf, rfl⟩ := Key.sign_eq_ok (liftCrypto_eq_ok.1 made)
  obtain ⟨rfl, covered⟩ := Envelope.signingInputAt_pushed prepared pushed
  obtain ⟨rfl, -⟩ := Envelope.push_prepared prepared pushed
  obtain ⟨role, fleet⟩ := keyByRole_eq_ok chosen
  refine ⟨signer, _, chosen, rfl, Envelope.layer_wellFormed _ _, ?_, role, _, seed,
    (around.moment 0).now, pending.signingInput, List.getElem?_concat_length, seedOf, rfl, covered,
    rfl⟩
  rw [Layer.header, Header.decode_encode, role, fleet]

theorem CompiledFlow.sign_eq_ok {c : CompiledFlow} {around : Surroundings} {step : Step}
    {e e' : Envelope} (wellFormed : e.WellFormed) (h : c.sign around step e = .ok e') :
    e'.WellFormed ∧ e.Extends e' ∧ e'.layers.length = e.layers.length + 1 ∧
      ∃ signer, around.keystore.keyByRole step.role c.fleetId = .ok signer ∧
        SignedAt around.suite signer step e.layers.length e' := by
  obtain ⟨signer, layer, chosen, rfl, good, -, signed⟩ := sign_adds h
  exact ⟨wellFormed.withLayer good, e.extends_layer layer, by simp, signer, chosen, signed⟩

theorem CompiledFlow.sign_succeeds {c : CompiledFlow} {around : Surroundings} {step : Step}
    {e : Envelope} {signer : Key} {seed : Block 32}
    (chosen : around.keystore.keyByRole step.role c.fleetId = .ok signer)
    (able : signer.canSign = true) (seedOf : signer.seed = .ok seed) (held : e.payload ≠ none)
    (bound : step.coverage = .priorLayer → e.layers ≠ []) :
    ∃ e', c.sign around step e = .ok e' := by
  have room : step.coverage = .priorLayer →
      0 < e.layers.length ∧ e.layers.length ≤ e.layers.length := by
    intro prior
    exact ⟨List.length_pos_of_ne_nil (bound prior), Nat.le_refl _⟩
  obtain ⟨input, covered⟩ := Envelope.signingInput_succeeds held
    (Header.signed signer.kid signer.fleetId around.suite.algorithm signer.role
      (around.moment 0).now).encode room
  simp [sign, chosen, Envelope.prepare, covered, Key.sign, able, seedOf, liftCrypto,
    Envelope.push, Envelope.addLayer_some held]

/-! ## Checking a signed layer -/

theorem Role.byNumber_toInt (r : Role) :
    Role.byNumber (Int64.ofNat r.number).toInt = r := by
  cases r <;> rfl

theorem SignedAt.evidence {suite : Crypto.Suite} (honest : suite.Honest) {signer known : Key}
    {made : Step} {index : Nat} {e : Envelope} (signed : SignedAt suite signer made index e)
    {around : Surroundings} (sameSuite : around.suite = suite)
    (found : around.keystore.key? signer.kid = some known) (checks : known.ChecksFor suite signer)
    {c : CompiledFlow} (fleet : signer.fleetId = c.fleetId) {step : Step}
    (role : step.role = made.role) (coverage : step.coverage = made.coverage) :
    Nonempty (c.Evidence around step index e) := by
  obtain ⟨layer, seed, now, input, there, seedOf, headerText, covered, signature⟩ := signed.signed
  obtain ⟨-, payload, -, -, held, -⟩ := Envelope.covers_of_signingInputAt covered
  have roles : signer.role = step.role := signed.role.trans role.symm
  exact ⟨{
    layer := layer
    there := there
    header := Header.signed signer.kid signer.fleetId suite.algorithm signer.role now
    readable := by rw [Layer.header, headerText, Header.decode_encode]
    roleNumber := Int64.ofNat signer.role.number
    declaresRole := rfl
    roleDeclared := (Role.byNumber_toInt signer.role).trans roles
    kid := signer.kid
    namesKey := rfl
    declaresFleet := congrArg some fleet
    key := known
    known := found
    valid := checks.valid
    keyRole := checks.role.trans roles
    keyFleet := checks.fleet.trans fleet
    payload := payload
    held := held
    input := input
    covered := coverage ▸ covered
    signature := (suite.sign seed input).val
    decodes := by rw [Layer.signatureBytes, signature, decodeText_encode]
    matched := sameSuite ▸ checks.verify_eq_true honest seedOf input }⟩

/-- A layer that was signed for one role is refused for every other one. -/
theorem SignedAt.verify_otherRole {suite : Crypto.Suite} {signer : Key} {made : Step} {index : Nat}
    {e : Envelope} (signed : SignedAt suite signer made index e) (c : CompiledFlow)
    (around : Surroundings) {step : Step} (other : step.role ≠ made.role) :
    c.verify around step index e = .ok false := by
  obtain ⟨layer, seed, now, input, there, -, headerText, -, -⟩ := signed.signed
  have found := Envelope.layerAt_eq_ok.2 there
  have readable : layer.header =
      .ok (Header.signed signer.kid signer.fleetId suite.algorithm signer.role now) := by
    rw [Layer.header, headerText, Header.decode_encode]
  have role :
      (Header.signed signer.kid signer.fleetId suite.algorithm signer.role now).role? =
        some made.role :=
    CompiledFlow.role?_eq_some.2 ⟨_, rfl, (Role.byNumber_toInt signer.role).trans signed.role⟩
  simp [CompiledFlow.verify, found, readable, role, other.symm]

/-! ## A device and its gateway -/

def deviceKey : Key := ⟨"device", "fleet", List.replicate 32 7, none, .canSign⟩

def gatewayKey : Key :=
  ⟨"gateway", "fleet", List.replicate 32 9, none, .canSign ||| Role.fleetSigning.flags⟩

noncomputable def deviceAndGateway : Surroundings where
  suite := Crypto.Suite.curve25519.idealized
  keystore := { Keystore.new "keys" .mostRecent none with keys := [deviceKey, gatewayKey] }
  moment := fun step => ⟨Int64.ofNat step, Block.takePad 32 [], Block.takePad 12 []⟩

theorem deviceChosen :
    deviceAndGateway.keystore.keyByRole .unassigned "fleet" = .ok deviceKey := rfl

theorem gatewayChosen :
    deviceAndGateway.keystore.keyByRole .fleetSigning "fleet" = .ok gatewayKey := rfl

theorem deviceSeed : deviceKey.seed = .ok ⟨List.replicate 32 7, rfl⟩ := rfl

theorem gatewaySeed : gatewayKey.seed = .ok ⟨List.replicate 32 9, rfl⟩ := rfl

theorem deviceChecks : deviceKey.ChecksFor Crypto.Suite.curve25519.idealized deviceKey :=
  ⟨by decide, rfl, rfl, ⟨List.replicate 32 7, rfl⟩, rfl, .inr ⟨rfl, rfl⟩⟩

theorem gatewayChecks : gatewayKey.ChecksFor Crypto.Suite.curve25519.idealized gatewayKey :=
  ⟨by decide, rfl, rfl, ⟨List.replicate 32 9, rfl⟩, rfl, .inr ⟨rfl, rfl⟩⟩

def deviceSigns : CompiledFlow := ⟨.signing, "fleet", .mostRecent, by decide⟩

def gatewayVouches : CompiledFlow := ⟨.cosigning, "fleet", .mostRecent, by decide⟩

/-- The device signs a payload, and the gateway vouches for the layer that this puts on it. -/
structure DeviceThenGateway (e e' : Envelope) : Prop where
  device : deviceSigns.sign deviceAndGateway (.sign "device-sign" .unassigned)
    (Envelope.new [104, 105]) = .ok e
  gateway : gatewayVouches.sign deviceAndGateway (.cosign "gateway-cosign" .fleetSigning) e = .ok e'

namespace DeviceThenGateway

variable {e e' : Envelope}

theorem wellFormed (signed : DeviceThenGateway e e') : e.WellFormed :=
  (CompiledFlow.sign_eq_ok (Envelope.wellFormed_new _) signed.device).1

theorem layers (signed : DeviceThenGateway e e') :
    e'.layers.length = 2 ∧
      SignedAt deviceAndGateway.suite deviceKey (.sign "device-sign" .unassigned) 0 e' ∧
      SignedAt deviceAndGateway.suite gatewayKey (.cosign "gateway-cosign" .fleetSigning) 1 e' := by
  obtain ⟨good, -, single, device, chosen, lower⟩ :=
    CompiledFlow.sign_eq_ok (Envelope.wellFormed_new _) signed.device
  obtain ⟨-, grown, length, gateway, chosenNext, upper⟩ :=
    CompiledFlow.sign_eq_ok good signed.gateway
  cases deviceChosen.symm.trans chosen
  cases gatewayChosen.symm.trans chosenNext
  rw [single] at length upper
  exact ⟨length, lower.mono grown, upper⟩

end DeviceThenGateway

theorem deviceThenGateway_signs : ∃ e e', DeviceThenGateway e e' := by
  obtain ⟨e, device⟩ : ∃ e, deviceSigns.sign deviceAndGateway (.sign "device-sign" .unassigned)
      (Envelope.new [104, 105]) = .ok e :=
    CompiledFlow.sign_succeeds deviceChosen (by decide) deviceSeed (by decide) (by decide)
  obtain ⟨-, grown, length, -⟩ := CompiledFlow.sign_eq_ok (Envelope.wellFormed_new _) device
  have held : e.payload ≠ none := by simp [grown.payload, Envelope.new]
  have layered : e.layers ≠ [] := by
    rw [← List.length_pos_iff, length]
    exact Nat.succ_pos _
  obtain ⟨e', gateway⟩ : ∃ e', gatewayVouches.sign deviceAndGateway
      (.cosign "gateway-cosign" .fleetSigning) e = .ok e' :=
    CompiledFlow.sign_succeeds gatewayChosen (by decide) gatewaySeed held fun _ => layered
  exact ⟨e, e', device, gateway⟩

end Countersign
