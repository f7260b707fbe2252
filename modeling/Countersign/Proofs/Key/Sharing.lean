import Countersign.Key.Command
import Countersign.Proofs.Key.Flags
import Countersign.Proofs.Key.Record
import Countersign.Proofs.Key.Use

/-!
# What an exported record gives away

Exporting a record clears its signing flag and nothing else, so the text that is shared holds the
private half.  Whoever reads it opens what was sealed to the key, and signs as the key does after
setting the flag again.  A record whose private half was taken out first gives nothing of the kind
away, whatever is done to its flags.
-/

namespace Countersign.Key

variable {k l : Key} {suite : Crypto.Suite}

/-! ## Texts -/

theorem text_injective : Function.Injective text := by
  intro k l same
  have read := k.parse_text
  rw [same, parse_text] at read
  exact (Except.ok.inj read).symm

structure SamePublic (k l : Key) : Prop where
  kid : k.kid = l.kid
  fleetId : k.fleetId = l.fleetId
  material : k.material = l.material
  flags : k.flags = l.flags

theorem SamePublic.eq_iff (same : k.SamePublic l) : k = l ↔ k.secret = l.secret := by
  obtain ⟨kid, fleetId, secret, material, flags⟩ := k
  obtain ⟨kid', fleetId', secret', material', flags'⟩ := l
  obtain ⟨rfl, rfl, rfl, rfl⟩ := same
  simp

theorem SamePublic.exported (same : k.SamePublic l) : k.exported.SamePublic l.exported where
  kid := same.kid
  fleetId := same.fleetId
  material := same.material
  flags := congrArg (fun flags : KeyFlags => flags.set .canSign false) same.flags

theorem SamePublic.withoutSecret_eq (same : k.SamePublic l) : k.withoutSecret = l.withoutSecret := by
  have stripped : k.withoutSecret.SamePublic l.withoutSecret :=
    ⟨same.kid, same.fleetId, same.material, same.flags⟩
  exact stripped.eq_iff.2 rfl

theorem SamePublic.text_exported (same : k.SamePublic l) :
    k.exported.text = l.exported.text ↔ k.secret = l.secret := by
  rw [text_injective.eq_iff, same.exported.eq_iff]
  rfl

/-! ## Commands -/

theorem performAll_eq (k : Key) (commands : List Command) :
    ∃ flags, k.performAll commands = { k with flags := flags } := by
  induction commands generalizing k with
  | nil => exact ⟨k.flags, rfl⟩
  | cons c commands ih =>
      obtain ⟨changed, first⟩ : ∃ flags, k.perform c = { k with flags := flags } := by
        cases c with
        | setFlag flag on => exact ⟨_, rfl⟩
        | setRole role => exact ⟨_, rfl⟩
        | setRoleNumber n => exact ⟨_, rfl⟩
        | setOrigin origin => exact ⟨_, rfl⟩
      obtain ⟨flags, others⟩ := ih (k.perform c)
      refine ⟨flags, ?_⟩
      rw [first] at others
      change (k.perform c).performAll commands = _
      rw [first]
      exact others

theorem seed_performAll (k : Key) (commands : List Command) :
    (k.performAll commands).seed = k.seed := by
  obtain ⟨flags, all⟩ := k.performAll_eq commands
  rw [all]
  rfl

theorem openSealed_performAll (k : Key) (commands : List Command) (suite : Crypto.Suite)
    (hidden : Bytes) :
    (k.performAll commands).openSealed suite hidden = k.openSealed suite hidden := by
  rw [openSealed, seed_performAll, openSealed]

/-- The signing flag can be set again, and the mark of an invalid key taken off. -/
theorem canSign_performAll (k : Key) :
    (k.performAll [.setFlag .invalid false, .setFlag .canSign true]).canSign = true := by
  have able : (k.performAll [.setFlag .invalid false, .setFlag .canSign true]).hasFlag .canSign =
      true :=
    KeyFlags.single_canSign.contains_set .canSign
  have valid : (k.performAll [.setFlag .invalid false, .setFlag .canSign true]).isInvalid =
      false := by
    change (((k.setFlag .invalid false).setFlag .canSign true).isInvalid) = false
    rw [isInvalid_setFlag, isInvalid_setFlag]
    rfl
  rw [canSign, able, valid]
  rfl

/-! ## Sharing -/

/-- The shared texts of two records that differ in their private halves alone are the same only if
these are the same as well.  Whoever reads such a text holds the private half: whatever commands
follow, the record opens what the original opens, and where they let it sign, as some do, it signs
with the original's seed.  Without the private halves the texts are the same, and no commands make
the record sign or open anything. -/
theorem exported_text_discloses {k₁ k₂ : Key} (same : k₁.SamePublic k₂) (suite : Crypto.Suite) :
    (k₁.exported.text = k₂.exported.text ↔ k₁.secret = k₂.secret) ∧
    (∃ received, parse k₁.exported.text = .ok received ∧ received.secret = k₁.secret ∧
      (∀ commands hidden,
        (received.performAll commands).openSealed suite hidden = k₁.openSealed suite hidden) ∧
      (∀ commands, (received.performAll commands).canSign = true → ∀ message,
        (received.performAll commands).sign suite message =
          (fun seed => (suite.sign seed message).val) <$> k₁.seed) ∧
      ∃ commands, (received.performAll commands).canSign = true) ∧
    k₁.withoutSecret.exported.text = k₂.withoutSecret.exported.text ∧
    ∀ commands message hidden,
      (∃ error, (k₁.withoutSecret.exported.performAll commands).sign suite message =
        .error error) ∧
      (k₁.withoutSecret.exported.performAll commands).openSealed suite hidden =
        .error (.noSecret k₁.kid) := by
  have seedless : k₁.withoutSecret.exported.seed = .error (.noSecret k₁.kid) := rfl
  refine ⟨same.text_exported, ⟨k₁.exported, k₁.exported.parse_text, rfl, ?_, ?_, ?_⟩,
    congrArg (fun k => k.exported.text) same.withoutSecret_eq, ?_⟩
  · exact fun commands hidden => k₁.exported.openSealed_performAll commands suite hidden
  · intro commands able message
    rw [sign_of_canSign able, seed_performAll]
    rfl
  · exact ⟨_, k₁.exported.canSign_performAll⟩
  · intro commands message hidden
    constructor
    · cases able : (k₁.withoutSecret.exported.performAll commands).canSign with
      | true => exact ⟨_, by rw [sign_of_canSign able, seed_performAll, seedless, map_error]⟩
      | false => exact ⟨_, sign_of_not_canSign able suite message⟩
    · rw [openSealed_performAll, openSealed, seedless]
      rfl

/-- A signer with a public half that says nothing of its seed. -/
def signerWith (seed : UInt8) : Key :=
  ⟨"peer", "fleet", List.replicate 32 seed, some (List.replicate 64 1), .canSign⟩

theorem signerWith_discloses :
    ∃ received, parse (signerWith 7).exported.text = .ok received ∧
      ∃ commands, ∀ message, (received.performAll commands).sign .curve25519 message =
        (signerWith 7).sign .curve25519 message := by
  have same : (signerWith 7).SamePublic (signerWith 9) := ⟨rfl, rfl, rfl, rfl⟩
  obtain ⟨-, ⟨received, read, -, -, signs, commands, able⟩, -⟩ :=
    exported_text_discloses same .curve25519
  have signer : (signerWith 7).canSign = true := by decide
  refine ⟨received, read, commands, fun message => ?_⟩
  rw [signs commands able message, sign_of_canSign signer]

theorem signerWith_texts_differ :
    (signerWith 7).SamePublic (signerWith 9) ∧ (signerWith 7).material.isSome = true ∧
      (signerWith 7).exported.text ≠ (signerWith 9).exported.text := by
  refine ⟨⟨rfl, rfl, rfl, rfl⟩, rfl, fun texts => ?_⟩
  have secrets := congrArg Key.secret (text_injective texts)
  exact absurd secrets (by decide)

end Countersign.Key
