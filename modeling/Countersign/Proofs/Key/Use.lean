import Countersign.Keystore.Basic
import Countersign.Proofs.Results

/-!
# Keys that sign and keys that check

A signing key is chosen by role and fleet.  A record that holds its public half, or its seed, checks
the signatures that it makes, provided that the suite accepts its own.
-/

namespace Countersign

/-! ## Choosing -/

theorem selectKey_eq_ok {keys : List Key} {role : Role} {fleetId : String} {selection : Selection}
    {signing : Bool} {k : Key} (h : selectKey keys role fleetId selection signing = .ok k) :
    k ∈ keys ∧ k.matchesRole role fleetId = true ∧ k.usable signing = true := by
  unfold selectKey at h
  simp only at h
  split at h
  · rename_i found
    cases h
    have usable := List.find?_some found
    have member := List.mem_of_find?_eq_some found
    have matching : k ∈ keys.filter (·.matchesRole role fleetId) := by
      cases selection with
      | mostRecent => exact List.mem_reverse.1 member
      | firstFound => exact member
    obtain ⟨listed, fits⟩ := List.mem_filter.1 matching
    exact ⟨listed, fits, usable⟩
  · split at h <;> cases h

theorem keyByRole_eq_ok {s : Keystore} {role : Role} {fleetId : String} {k : Key}
    (h : s.keyByRole role fleetId = .ok k) : k.role = role ∧ k.fleetId = fleetId := by
  obtain ⟨-, fits, -⟩ := selectKey_eq_ok h
  simp only [Key.matchesRole, Bool.and_eq_true, beq_iff_eq] at fits
  exact ⟨fits.2, fits.1⟩

/-! ## Signing -/

theorem Key.sign_eq_ok {k : Key} {suite : Crypto.Suite} {message signature : Bytes}
    (h : k.sign suite message = .ok signature) :
    ∃ seed, k.seed = .ok seed ∧ signature = (suite.sign seed message).val := by
  unfold Key.sign at h
  split at h
  · cases h
  · obtain ⟨seed, held, h⟩ := bind_eq_ok.1 h
    cases h
    exact ⟨seed, held, rfl⟩

theorem Key.sign_of_canSign {k : Key} (able : k.canSign = true) (suite : Crypto.Suite)
    (message : Bytes) :
    k.sign suite message = (fun seed => (suite.sign seed message).val) <$> k.seed := by
  rw [Key.sign, able]
  cases k.seed <;> rfl

theorem Key.sign_of_not_canSign {k : Key} (unable : k.canSign = false) (suite : Crypto.Suite)
    (message : Bytes) : k.sign suite message = .error (.signingNotPermitted k.kid) := by
  rw [Key.sign, unable]
  rfl

theorem Key.seed_eq_ok {k : Key} {seed : Block 32} : k.seed = .ok seed ↔ k.secret = seed.val := by
  unfold Key.seed seedOf
  split
  · rename_i empty
    constructor
    · intro h
      cases h
    · intro h
      have length := seed.property
      rw [← h, List.isEmpty_iff.1 empty] at length
      cases length
  · rw [← Block.ofBytes?_eq_some]
    split <;> simp_all

theorem Key.publicKeys_of_seed {k : Key} {suite : Crypto.Suite} {seed : Block 32}
    (secret : k.secret = seed.val)
    (own : k.material = none ∨ k.material = some (suite.material seed)) :
    k.publicKeys suite = .ok (suite.verifyingKey seed, suite.exchangeKey seed) := by
  rcases own with none | held
  · simp [publicKeys, none, Key.seed_eq_ok.2 secret]
  · have length := (suite.verifyingKey seed).property
    have first : Block.ofBytes? 32 ((suite.material seed).take 32) =
        some (suite.verifyingKey seed) :=
      Block.ofBytes?_eq_some.2 (List.take_left' length)
    have second : Block.ofBytes? 32 ((suite.material seed).drop 32) =
        some (suite.exchangeKey seed) :=
      Block.ofBytes?_eq_some.2 (List.drop_left' length)
    simp [publicKeys, held, splitMaterial, first, second]

/-! ## Checking -/

/-- The signatures of a suite are accepted under the verifying key of the seed that made them. -/
def Crypto.Suite.Honest (suite : Crypto.Suite) : Prop :=
  ∀ seed message, suite.verify (suite.verifyingKey seed) message (suite.sign seed message) = .matched

theorem Key.verify_of_honest {suite : Crypto.Suite} (honest : suite.Honest) {k : Key}
    {seed exchange : Block 32}
    (halves : k.publicKeys suite = .ok (suite.verifyingKey seed, exchange)) (message : Bytes) :
    k.verify suite message (suite.sign seed message).val = .ok true := by
  have block : signatureOf (suite.sign seed message).val = .ok (suite.sign seed message) := by
    simp [signatureOf]
  simp [Key.verify, halves, block, honest seed message]

/-- A record by which the signatures of `signer` can be checked. -/
structure Key.ChecksFor (known : Key) (suite : Crypto.Suite) (signer : Key) : Prop where
  valid : known.isInvalid = false
  role : known.role = signer.role
  fleet : known.fleetId = signer.fleetId
  publicHalf : ∃ seed : Block 32, signer.secret = seed.val ∧
    ((∃ material, known.material = some material ∧ material.length = 64 ∧
        material.take 32 = (suite.verifyingKey seed).val) ∨
      (known.material = none ∧ known.secret = seed.val))

theorem Key.ChecksFor.publicKeys {known signer : Key} {suite : Crypto.Suite}
    (h : known.ChecksFor suite signer) {seed : Block 32} (seedOf : signer.seed = .ok seed) :
    ∃ exchange, known.publicKeys suite = .ok (suite.verifyingKey seed, exchange) := by
  obtain ⟨seed', secret, publicHalf⟩ := h.publicHalf
  have same : seed' = seed := Subtype.ext (secret.symm.trans (Key.seed_eq_ok.1 seedOf))
  subst same
  rcases publicHalf with ⟨material, held, length, starts⟩ | ⟨none, knownSecret⟩
  · have rest : (material.drop 32).length = 32 := by simp [length]
    have first := Block.ofBytes?_eq_some.2 starts
    have second : Block.ofBytes? 32 (material.drop 32) = some ⟨material.drop 32, rest⟩ :=
      Block.ofBytes?_eq_some.2 rfl
    exact ⟨⟨material.drop 32, rest⟩, by simp [Key.publicKeys, held, splitMaterial, first, second]⟩
  · have knownSeed := Key.seed_eq_ok.2 knownSecret
    exact ⟨suite.exchangeKey seed', by simp [Key.publicKeys, none, knownSeed]⟩

theorem Key.ChecksFor.verify_eq_true {known signer : Key} {suite : Crypto.Suite}
    (honest : suite.Honest) (h : known.ChecksFor suite signer) {seed : Block 32}
    (seedOf : signer.seed = .ok seed) (message : Bytes) :
    known.verify suite message (suite.sign seed message).val = .ok true := by
  obtain ⟨exchange, publicKeys⟩ := h.publicKeys seedOf
  exact Key.verify_of_honest honest publicKeys message

open Classical in
/-- A suite whose own signatures are accepted beyond doubt. -/
noncomputable def Crypto.Suite.idealized (suite : Crypto.Suite) : Crypto.Suite :=
  { suite with
    verify := fun key message signature =>
      if ∃ seed, suite.verifyingKey seed = key ∧ suite.sign seed message = signature then .matched
      else suite.verify key message signature }

theorem Crypto.Suite.honest_idealized (suite : Crypto.Suite) : suite.idealized.Honest := by
  intro seed message
  exact if_pos ⟨seed, rfl, rfl⟩

end Countersign
