import Countersign.Proofs.Crypto.Sealed
import Countersign.Proofs.Flow.Uses

/-!
# Sealed envelopes open again

A payload is sealed to a key that need not sign, and opened by one that does.  Where the key that a
sealing step chose signs, the opening step of the same role chooses it as well and gives back the
envelope as it was, text and all; where it does not sign, the opening step never comes upon it.
-/

namespace Countersign

/-- A record with its seed opens what was sealed to it, if its public half is its own. -/
theorem Key.openSealed_sealTo {suite : Crypto.Suite} (commutes : suite.Commutes) {k : Key}
    {seed : Block 32} (secret : k.secret = seed.val)
    (own : k.material = none ∨ k.material = some (suite.material seed)) {throwaway : Block 32}
    {nonce : Block 12} {plain hidden : Bytes}
    (seals : k.sealTo suite throwaway nonce plain = .ok hidden) :
    k.openSealed suite hidden = .ok plain := by
  simp only [sealTo, Key.publicKeys_of_seed secret own, ok_bind] at seals
  simp only [openSealed, Key.seed_eq_ok.2 secret, ok_bind]
  exact Crypto.Suite.openWith_sealTo commutes seals

theorem Envelope.eq_new {e : Envelope} (unsigned : e.layers = []) {plain : Bytes}
    (held : e.payloadBytes = .ok plain) : e = Envelope.new plain := by
  obtain ⟨payload, layers⟩ := e
  obtain ⟨text, present, decodes⟩ := bind_eq_ok.1 held
  obtain rfl : layers = [] := unsigned
  obtain rfl : payload = some text := requirePayload_eq_ok.1 present
  rw [eq_encode_of_decodeText decodes, Envelope.new]

theorem Envelope.payloadBytes_new (b : Bytes) : (Envelope.new b).payloadBytes = .ok b :=
  decodeText_encode b

namespace CompiledFlow

variable {c : CompiledFlow} {around : Surroundings} {step : Step} {e : Envelope} {k : Key}

theorem encrypt_succeeds {plain : Bytes} {publicKeys : Block 32 × Block 32}
    (chosen : selectKey around.keystore.keys step.role c.fleetId c.selection false = .ok k)
    (halves : k.publicKeys around.suite = .ok publicKeys)
    (fits : Crypto.Aead.tooLong plain = false) :
    ∃ hidden, c.encrypt around step (Envelope.new plain) = .ok (Envelope.new hidden) ∧
      k.sealTo around.suite (around.moment 0).throwaway (around.moment 0).nonce plain =
        .ok hidden := by
  obtain ⟨hidden, seals⟩ := around.suite.sealTo_succeeds (around.moment 0).throwaway
    (around.moment 0).nonce publicKeys.2 fits
  have sealsTo : k.sealTo around.suite (around.moment 0).throwaway (around.moment 0).nonce plain =
      .ok hidden := by
    simp only [Key.sealTo, halves, ok_bind, seals]
  exact ⟨hidden, encrypt_eq_ok.2
    ⟨rfl, k, plain, hidden, chosen, Envelope.payloadBytes_new plain, sealsTo, rfl⟩, sealsTo⟩

theorem decrypt_sealed (commutes : around.suite.Commutes) {seed : Block 32}
    (secret : k.secret = seed.val)
    (own : k.material = none ∨ k.material = some (around.suite.material seed))
    {throwaway : Block 32} {nonce : Block 12} {plain hidden : Bytes}
    (seals : k.sealTo around.suite throwaway nonce plain = .ok hidden)
    (chosen : around.keystore.keyByRole step.role c.fleetId = .ok k)
    (held : e.payloadBytes = .ok hidden) : c.decrypt around step e = .ok (Envelope.new plain) :=
  decrypt_eq_ok.2 ⟨k, hidden, plain, chosen, held, Key.openSealed_sealTo commutes secret own seals,
    rfl⟩

theorem decrypt_eq_error {error : Error}
    (unchosen : around.keystore.keyByRole step.role c.fleetId = .error error) :
    c.decrypt around step e = .error error := by
  simp only [decrypt, unchosen, error_bind]

theorem run_opening (single : c.flow.steps = [step]) (opens : step.operation = .decrypt) :
    c.run around e = (⟨·, none⟩) <$> c.decrypt around step e := by
  have verdict : c.flow.verifies = false := by simp [Flow.verifies, single, opens]
  rw [run_single single, runStep_decrypt opens, verdict]
  cases c.decrypt around step e <;> rfl

theorem run_sealing (single : c.flow.steps = [step]) (seals : step.operation = .encrypt) :
    c.run around e = (⟨·, none⟩) <$> c.encrypt around step e := by
  have verdict : c.flow.verifies = false := by simp [Flow.verifies, single, seals]
  rw [run_single single, runStep_encrypt seals, verdict]
  cases c.encrypt around step e <;> rfl

theorem sealing_chose (single : c.flow.steps = [step]) (seals : step.operation = .encrypt)
    {out : Outcome} (ran : c.run around e = .ok out) :
    ∃ k plain hidden,
      selectKey around.keystore.keys step.role c.fleetId c.selection false = .ok k ∧
      e = Envelope.new plain ∧ out.envelope = Envelope.new hidden ∧
      k.sealTo around.suite (around.moment 0).throwaway (around.moment 0).nonce plain =
        .ok hidden := by
  rw [run_sealing single seals] at ran
  obtain ⟨_, encrypts, rfl⟩ := map_eq_ok.1 ran
  obtain ⟨unsigned, k, plain, hidden, chosen, held, sealed, rfl⟩ := encrypt_eq_ok.1 encrypts
  exact ⟨k, plain, hidden, chosen, Envelope.eq_new unsigned held, rfl, sealed⟩

/-- What a flow has sealed for a role, a flow that opens for the same role and fleet gives back on
the same node, whatever was drawn for the sealing: both choose the same key if that key signs.  A
key that does not sign is never used to open. -/
theorem sealed_reopens (commutes : around.suite.Commutes) {sealing opening : CompiledFlow}
    {sealStep openStep : Step} (oneSeal : sealing.flow.steps = [sealStep])
    (seals : sealStep.operation = .encrypt) (oneOpen : opening.flow.steps = [openStep])
    (opens : openStep.operation = .decrypt) (role : openStep.role = sealStep.role)
    (fleet : opening.fleetId = sealing.fleetId)
    (policy : sealing.selection = around.keystore.selection) {out : Outcome}
    (ran : sealing.run around e = .ok out) :
    ∃ k, selectKey around.keystore.keys sealStep.role sealing.fleetId sealing.selection false =
        .ok k ∧
      (k.hasFlag .canSign = true →
        (∃ seed : Block 32, k.secret = seed.val ∧
          (k.material = none ∨ k.material = some (around.suite.material seed))) →
        around.keystore.keyByRole openStep.role opening.fleetId = .ok k ∧
          ∀ moment : Nat → Moment,
            opening.run { around with moment := moment } out.envelope = .ok ⟨e, none⟩) ∧
      (k.hasFlag .canSign = false →
        (∀ (moment : Nat → Moment) (f : Envelope) (used : Key),
          opening.Uses { around with moment := moment } f openStep used → used ≠ k) ∧
        ((∃ other, other ≠ k ∧
            around.keystore.keyByRole openStep.role opening.fleetId = .ok other) ∨
          ∃ error, around.keystore.keyByRole openStep.role opening.fleetId = .error error ∧
            ∀ (moment : Nat → Moment) (f : Envelope),
              opening.run { around with moment := moment } f = .error error)) := by
  obtain ⟨k, plain, hidden, chosen, rfl, sealed, sealsTo⟩ := sealing_chose oneSeal seals ran
  refine ⟨k, chosen, fun able => ?_, fun unable => ?_⟩
  · rintro ⟨seed, secret, own⟩
    have byRole : around.keystore.keyByRole openStep.role opening.fleetId = .ok k := by
      rw [role, fleet, Keystore.keyByRole, ← policy]
      exact selectKey_signing chosen able
    refine ⟨byRole, fun moment => ?_⟩
    have reopens : opening.decrypt { around with moment := moment } openStep (Envelope.new hidden) =
        .ok (Envelope.new plain) :=
      decrypt_sealed commutes secret own sealsTo byRole (Envelope.payloadBytes_new hidden)
    rw [run_opening oneOpen opens, sealed, reopens, map_ok]
  · have differs {other : Key}
        (byRole : around.keystore.keyByRole openStep.role opening.fleetId = .ok other) :
        other ≠ k := by
      rintro rfl
      exact Bool.false_ne_true (unable.symm.trans (selectKey_able byRole))
    refine ⟨fun moment f used uses => ?_, ?_⟩
    · simp only [Uses, opens] at uses
      exact differs uses
    · cases byRole : around.keystore.keyByRole openStep.role opening.fleetId with
      | ok other => exact .inl ⟨other, differs byRole, rfl⟩
      | error error =>
          refine .inr ⟨error, rfl, fun moment f => ?_⟩
          have fails : opening.decrypt { around with moment := moment } openStep f = .error error :=
            decrypt_eq_error byRole
          rw [run_opening oneOpen opens, fails, map_error]

/-! ## A node that seals and opens -/

def holder : Key :=
  ⟨"holder", "fleet", List.replicate 32 7, none, .canSign ||| Role.fleetEncryption.flags⟩

/-- The first key of the role is revoked, and the last one only ever has messages sealed to it. -/
noncomputable def holderNode : Surroundings where
  suite := Crypto.Suite.curve25519.commuting
  keystore := { Keystore.new "keys" .firstFound none with
    keys := [{ holder with kid := "revoked" }.setFlag .invalid true, holder,
      { holder with kid := "mailbox" }.exported] }
  moment := fun step => ⟨Int64.ofNat step, Block.takePad 32 [], Block.takePad 12 []⟩

def sealFlow : CompiledFlow :=
  ⟨⟨"Seal", [.encrypt "seal" .fleetEncryption]⟩, "fleet", .firstFound, by decide⟩

def openFlow : CompiledFlow :=
  ⟨⟨"Open", [.decrypt "open" .fleetEncryption]⟩, "fleet", .firstFound, by decide⟩

theorem holderChosen :
    selectKey holderNode.keystore.keys .fleetEncryption "fleet" .firstFound false = .ok holder :=
  rfl

theorem holderSeed :
    holder.secret = (⟨List.replicate 32 7, rfl⟩ : Block 32).val := rfl

theorem holderNode_reopens :
    ∃ out, sealFlow.run holderNode (Envelope.new [104, 105]) = .ok out ∧
      ∀ moment : Nat → Moment,
        openFlow.run { holderNode with moment := moment } out.envelope =
          .ok ⟨Envelope.new [104, 105], none⟩ := by
  have fits : Crypto.Aead.tooLong [104, 105] = false := by decide
  obtain ⟨hidden, encrypts, -⟩ :=
    @encrypt_succeeds sealFlow holderNode (.encrypt "seal" .fleetEncryption) holder _ _ holderChosen
      (Key.publicKeys_of_seed holderSeed (.inl rfl)) fits
  have ran : sealFlow.run holderNode (Envelope.new [104, 105]) =
      .ok ⟨Envelope.new hidden, none⟩ := by
    rw [run_sealing rfl rfl, encrypts, map_ok]
  have commutes : holderNode.suite.Commutes :=
    Crypto.Suite.commutes_commuting Crypto.Suite.curve25519
  obtain ⟨k, chosen, opened, -⟩ :=
    @sealed_reopens holderNode _ commutes sealFlow openFlow _ _ rfl rfl rfl rfl rfl rfl rfl _ ran
  cases holderChosen.symm.trans chosen
  exact ⟨_, ran, (opened (by decide) ⟨⟨List.replicate 32 7, rfl⟩, rfl, .inl rfl⟩).2⟩

end CompiledFlow

end Countersign
