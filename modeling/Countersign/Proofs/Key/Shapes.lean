import Countersign.Proofs.Key.Use

/-!
# The shapes of a key record

A key can be on record with both of its halves, with its seed alone, or with its public half alone.
For those who check its signatures and seal to it the three are one key, and for its owner the two
that hold the seed are.
-/

namespace Countersign

open Crypto (Suite)

inductive Shape where
  | whole
  | seedOnly
  | publicOnly
  deriving DecidableEq, Repr

def Shape.holdsSeed : Shape → Bool
  | .whole | .seedOnly => true
  | .publicOnly => false

namespace Key

def shaped (suite : Suite) (seed : Block 32) (kid fleetId : String) (flags : KeyFlags) :
    Shape → Key
  | .whole => ⟨kid, fleetId, seed.val, some (suite.material seed), flags⟩
  | .seedOnly => ⟨kid, fleetId, seed.val, none, flags⟩
  | .publicOnly => ⟨kid, fleetId, [], some (suite.material seed), flags⟩

/-- Two records are one key to those who check its signatures and seal to it. -/
structure PublicAlike (suite : Suite) (k l : Key) : Prop where
  verify : ∀ message signature, k.verify suite message signature = l.verify suite message signature
  sealTo : ∀ throwaway nonce text,
    k.sealTo suite throwaway nonce text = l.sealTo suite throwaway nonce text

structure PrivateAlike (suite : Suite) (k l : Key) : Prop where
  sign : ∀ message, k.sign suite message = l.sign suite message
  openSealed : ∀ sealed, k.openSealed suite sealed = l.openSealed suite sealed

variable {suite : Suite} {seed : Block 32} {kid fleetId : String} {flags : KeyFlags} {k l : Key}

/-! ## What the uses of a record depend on -/

/-- Checking and sealing look at the public keys alone. -/
theorem publicAlike_of_publicKeys (same : k.publicKeys suite = l.publicKeys suite) :
    PublicAlike suite k l where
  verify message signature := by rw [verify, verify, same]
  sealTo throwaway nonce text := by rw [sealTo, sealTo, same]

/-- Signing and opening look at the seed, and signing at the flags as well. -/
theorem privateAlike_of_seed (kid : k.kid = l.kid) (seed : k.seed = l.seed)
    (canSign : k.canSign = l.canSign) : PrivateAlike suite k l where
  sign message := by rw [sign, sign, kid, seed, canSign]
  openSealed sealed := by rw [openSealed, openSealed, seed]

/-! ## What the shapes have in common -/

theorem publicKeys_shaped (shape : Shape) :
    (shaped suite seed kid fleetId flags shape).publicKeys suite =
      .ok (suite.verifyingKey seed, suite.exchangeKey seed) := by
  have whole : (shaped suite seed kid fleetId flags .whole).publicKeys suite =
      .ok (suite.verifyingKey seed, suite.exchangeKey seed) :=
    publicKeys_of_seed rfl (.inr rfl)
  cases shape with
  | whole => exact whole
  | seedOnly => exact publicKeys_of_seed rfl (.inl rfl)
  | publicOnly => exact whole

theorem seed_shaped {shape : Shape} (holds : shape.holdsSeed = true) :
    (shaped suite seed kid fleetId flags shape).seed = .ok seed := by
  rw [seed_eq_ok]
  cases shape with
  | whole => rfl
  | seedOnly => rfl
  | publicOnly => cases holds

theorem canSign_shaped (s t : Shape) :
    (shaped suite seed kid fleetId flags s).canSign =
      (shaped suite seed kid fleetId flags t).canSign := by
  cases s <;> cases t <;> rfl

theorem publicAlike_shaped (s t : Shape) :
    PublicAlike suite (shaped suite seed kid fleetId flags s)
      (shaped suite seed kid fleetId flags t) :=
  publicAlike_of_publicKeys (by rw [publicKeys_shaped, publicKeys_shaped])

/-- All shapes of a record act as the same key.  They check and seal alike, on good and bad
signatures; those that hold the seed sign and open alike, and without it nothing is opened or
signed.  What a shape that may sign and holds the seed signs is good under every shape, and no
record whatever signs that lacks the flag or is invalid. -/
theorem shapes_alike (suite : Suite) (seed : Block 32) (kid fleetId : String) (flags : KeyFlags) :
    let record := shaped suite seed kid fleetId flags
    (∀ s t, PublicAlike suite (record s) (record t)) ∧
    PrivateAlike suite (record .whole) (record .seedOnly) ∧
    (∀ sealed, (record .publicOnly).openSealed suite sealed = .error (.noSecret kid)) ∧
    (∀ message, (record .publicOnly).sign suite message =
      .error (if (record .publicOnly).canSign then .noSecret kid
        else .signingNotPermitted kid)) ∧
    (suite.Honest → ∀ signer, signer.holdsSeed = true → (record signer).canSign = true →
      ∀ message, ∃ signature, (record signer).sign suite message = .ok signature ∧
        ∀ (checker : Shape) (kid' fleetId' : String) (flags' : KeyFlags),
          (shaped suite seed kid' fleetId' flags' checker).verify suite message signature =
            .ok true) ∧
    ∀ k : Key, k.hasFlag .canSign = false ∨ k.isInvalid = true → ∀ message,
      k.sign suite message = .error (.signingNotPermitted k.kid) := by
  intro record
  have seedless : (record .publicOnly).seed = .error (.noSecret kid) := rfl
  refine ⟨publicAlike_shaped, ?_, ?_, ?_, ?_, ?_⟩
  · exact privateAlike_of_seed rfl ((seed_shaped rfl).trans (seed_shaped rfl).symm)
      (canSign_shaped _ _)
  · intro sealed
    rw [openSealed, seedless, error_bind]
  · intro message
    cases able : (record .publicOnly).canSign with
    | true => rw [sign_of_canSign able, seedless, map_error, if_pos rfl]
    | false =>
        rw [sign_of_not_canSign able, if_neg Bool.false_ne_true]
        rfl
  · intro honest signer holds able message
    refine ⟨(suite.sign seed message).val, ?_, fun checker kid' fleetId' flags' => ?_⟩
    · rw [sign_of_canSign able, seed_shaped holds, map_ok]
    · exact verify_of_honest honest (publicKeys_shaped checker) message
  · intro k barred message
    refine sign_of_not_canSign ?_ suite message
    rcases barred with unable | invalid
    · rw [canSign, unable, Bool.false_and]
    · rw [canSign, invalid, Bool.not_true, Bool.and_false]

theorem peer_shapes_alike :
    ∃ signature,
      (shaped Suite.curve25519.idealized (Block.takePad 32 [7]) "peer" "fleet" .canSign
        .seedOnly).sign Suite.curve25519.idealized [104, 105] = .ok signature ∧
      (shaped Suite.curve25519.idealized (Block.takePad 32 [7]) "copy" "fleet" .none
        .publicOnly).verify Suite.curve25519.idealized [104, 105] signature = .ok true := by
  obtain ⟨-, -, -, -, signs, -⟩ :=
    shapes_alike Suite.curve25519.idealized (Block.takePad 32 [7]) "peer" "fleet" .canSign
  obtain ⟨signature, signed, checks⟩ :=
    signs (Crypto.Suite.honest_idealized .curve25519) .seedOnly rfl rfl [104, 105]
  exact ⟨signature, signed, checks .publicOnly "copy" "fleet" .none⟩

end Key

end Countersign
