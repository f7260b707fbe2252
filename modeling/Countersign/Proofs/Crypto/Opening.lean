import Countersign.Key.Use
import Countersign.Proofs.Crypto.Sealed

/-!
# What opens is what was sealed

A text that opens consists of a throw-away key, a nonce and what the cipher makes of the payload
under the key that both sides derive, and of nothing else: sealing and opening are inverse to each
other.  A text too short for its parts is refused before any part of it is cut out of range.
-/

namespace Countersign.Crypto

/-! ## The cipher -/

theorem unlock_eq_ok {key : Aead.Key} {locked aad text : Bytes} :
    unlock key locked aad = .ok text ↔ ∃ nonce, lock key nonce text aad = .ok locked := by
  constructor
  · intro h
    unfold unlock at h
    split at h
    · cases h
    split at h
    · cases h
    rename_i nonce front
    split at h
    · rename_i decrypts
      cases h
      refine ⟨nonce, lock_eq_ok.2 ⟨locked.drop 12, Aead.decrypt_eq_some.1 decrypts, ?_⟩⟩
      rw [← Block.ofBytes?_eq_some.1 front, List.take_append_drop]
    · cases h
  · rintro ⟨nonce, locks⟩
    exact unlock_lock locks

theorem unlock_short {key : Aead.Key} {locked aad : Bytes} (short : locked.length < 28) :
    unlock key locked aad = .error .opening := by
  rw [unlock, if_pos (by omega)]

theorem length_lock {key : Aead.Key} {nonce : Aead.Nonce} {text aad locked : Bytes}
    (locks : lock key nonce text aad = .ok locked) : locked.length = text.length + 28 := by
  obtain ⟨hidden, encrypts, rfl⟩ := lock_eq_ok.1 locks
  rw [List.length_append, nonce.property, Aead.length_encrypt encrypts]
  omega

/-! ## Opening with every cut checked -/

/-- The bytes from `start` up to `stop`, if all of them lie within `b`. -/
def slice? (b : Bytes) (start stop : Nat) : Option Bytes :=
  if start ≤ stop ∧ stop ≤ b.length then some ((b.drop start).take (stop - start)) else none

theorem slice?_front {b : Bytes} {n : Nat} (fits : n ≤ b.length) :
    slice? b 0 n = some (b.take n) := by
  simp [slice?, fits]

theorem slice?_rest {b : Bytes} {n : Nat} (fits : n ≤ b.length) :
    slice? b n b.length = some (b.drop n) := by
  rw [slice?, if_pos ⟨fits, Nat.le_refl _⟩, List.take_of_length_le (by simp)]

/-- Unlocking with nothing taken for granted: there is no result where a cut is out of range or a
nonce has the wrong length. -/
def unlockChecked (key : Aead.Key) (locked aad : Bytes) : Option (Except CryptoError Bytes) :=
  if locked.length < 12 + 16 then some (.error .opening)
  else do
    let nonce ← Block.ofBytes? 12 (← slice? locked 0 12)
    let hidden ← slice? locked 12 locked.length
    match Aead.decrypt key nonce hidden aad with
    | some text => some (.ok text)
    | none => some (.error .opening)

theorem unlockChecked_eq (key : Aead.Key) (locked aad : Bytes) :
    unlockChecked key locked aad = some (unlock key locked aad) := by
  by_cases short : locked.length < 12 + 16
  · rw [unlockChecked, unlock, if_pos short, if_pos short]
  · have fits : 12 ≤ locked.length := by omega
    obtain ⟨nonce, front⟩ : ∃ nonce, Block.ofBytes? 12 (locked.take 12) = some nonce :=
      ⟨⟨_, List.length_take_of_le fits⟩, Block.ofBytes?_eq_some.2 rfl⟩
    rw [unlockChecked, unlock, if_neg short, if_neg short, slice?_front fits, slice?_rest fits]
    simp only [Option.bind_eq_bind, Option.bind_some, front]
    cases Aead.decrypt key nonce (locked.drop 12) aad <;> rfl

namespace Suite

def openChecked (suite : Suite) (seed : Block 32) (sealed : Bytes) :
    Option (Except CryptoError Bytes) :=
  if sealed.length < 32 then some (.error .opening)
  else do
    match publicKeyOf (← slice? sealed 0 32) with
    | .error e => some (.error e)
    | .ok front =>
        let key := sealKey (suite.agree seed front) front (suite.exchangeKey seed)
        unlockChecked key (← slice? sealed 32 sealed.length) front.val

variable {suite : Suite} {seed : Block 32} {sealed text : Bytes}

theorem openChecked_eq (suite : Suite) (seed : Block 32) (sealed : Bytes) :
    suite.openChecked seed sealed = some (suite.openWith seed sealed) := by
  by_cases short : sealed.length < 32
  · have none : Block.ofBytes? 32 (sealed.take 32) = none :=
      Block.ofBytes?_eq_none.2 (by simp; omega)
    rw [openChecked, if_pos short, openWith, none]
  · have fits : 32 ≤ sealed.length := by omega
    obtain ⟨front, starts⟩ : ∃ front, Block.ofBytes? 32 (sealed.take 32) = some front :=
      ⟨⟨_, List.length_take_of_le fits⟩, Block.ofBytes?_eq_some.2 rfl⟩
    rw [openChecked, if_neg short, openWith, slice?_front fits, slice?_rest fits]
    simp only [Option.bind_eq_bind, Option.bind_some, publicKeyOf, starts]
    exact unlockChecked_eq _ _ _

/-! ## Sealed texts -/

theorem openWith_eq_ok :
    suite.openWith seed sealed = .ok text ↔ ∃ front nonce locked,
      sealed = front.val ++ locked ∧
      lock (sealKey (suite.agree seed front) front (suite.exchangeKey seed)) nonce text front.val =
        .ok locked := by
  constructor
  · intro h
    unfold openWith at h
    split at h
    · cases h
    · rename_i front starts
      obtain ⟨nonce, locks⟩ := unlock_eq_ok.1 h
      refine ⟨front, nonce, sealed.drop 32, ?_, locks⟩
      rw [← Block.ofBytes?_eq_some.1 starts, List.take_append_drop]
  · rintro ⟨front, nonce, locked, rfl, locks⟩
    have starts : Block.ofBytes? 32 ((front.val ++ locked).take 32) = some front :=
      Block.ofBytes?_eq_some.2 (List.take_left' front.property)
    have rest : (front.val ++ locked).drop 32 = locked := List.drop_left' front.property
    simp only [openWith, starts, rest]
    exact unlock_eq_ok.2 ⟨nonce, locks⟩

theorem openWith_short (short : sealed.length < 60) :
    suite.openWith seed sealed = .error .opening := by
  unfold openWith
  split
  · rfl
  · exact unlock_short (by simp; omega)

theorem length_sealTo {throwaway recipient : Block 32} {nonce : Aead.Nonce}
    (seals : suite.sealTo throwaway nonce recipient text = .ok sealed) :
    sealed.length = text.length + 60 := by
  obtain ⟨locked, locks, h⟩ := bind_eq_ok.1 seals
  cases h
  rw [List.length_append, (suite.exchangeKey throwaway).property, length_lock locks]
  omega

theorem openWith_eq_ok_iff_parts :
    suite.openWith seed sealed = .ok text ↔ ∃ front nonce hidden,
      front.val = sealed.take 32 ∧ nonce.val = (sealed.drop 32).take 12 ∧
      Aead.encrypt (sealKey (suite.agree seed front) front (suite.exchangeKey seed)) nonce text
        front.val = some hidden ∧
      sealed = front.val ++ nonce.val ++ hidden := by
  simp only [openWith_eq_ok, lock_eq_ok]
  constructor
  · rintro ⟨front, nonce, _, rfl, hidden, encrypts, rfl⟩
    refine ⟨front, nonce, hidden, ?_, ?_, encrypts, (List.append_assoc _ _ _).symm⟩
    · rw [List.take_left' front.property]
    · rw [List.drop_left' front.property, List.take_left' nonce.property]
  · rintro ⟨front, nonce, hidden, -, -, encrypts, parts⟩
    exact ⟨front, nonce, nonce.val ++ hidden, by rw [parts, List.append_assoc], hidden, encrypts,
      rfl⟩

/-- The key and the nonce settle what a payload is sealed to. -/
theorem eq_of_openWith {other : Bytes} (front : sealed.take 44 = other.take 44)
    (opens : suite.openWith seed sealed = .ok text)
    (otherOpens : suite.openWith seed other = .ok text) : sealed = other := by
  obtain ⟨key, nonce, hidden, keyIs, nonceIs, encrypts, parts⟩ := openWith_eq_ok_iff_parts.1 opens
  obtain ⟨key', nonce', hidden', keyIs', nonceIs', encrypts', parts'⟩ :=
    openWith_eq_ok_iff_parts.1 otherOpens
  have sameKey : key = key' := by
    apply Subtype.ext
    have cut := congrArg (List.take 32) front
    simpa only [List.take_take, Nat.min_eq_left (by decide : 32 ≤ 44), ← keyIs, ← keyIs'] using cut
  have sameNonce : nonce = nonce' := by
    apply Subtype.ext
    have cut := congrArg (List.drop 32) front
    simpa only [List.drop_take, ← nonceIs, ← nonceIs'] using cut
  subst sameKey sameNonce
  cases encrypts.symm.trans encrypts'
  rw [parts, parts']

/-- Sealing and opening are exact inverses.  Whatever fits the cipher is sealed at the cost of 60
bytes and opens again, if the suite's agreements come to the same on both sides.  Opening never cuts
a text out of range, refuses what is shorter than 60 bytes, and gives a payload exactly where the
text is a throw-away key, a nonce and the payload's encryption under them; so two texts that open to
the same payload differ in one of the two. -/
theorem sealing_inverse (suite : Suite) (seed : Block 32) :
    (suite.Commutes → ∀ (throwaway : Block 32) (nonce : Aead.Nonce) (text : Bytes),
      Aead.tooLong text = false →
      ∃ sealed, suite.sealTo throwaway nonce (suite.exchangeKey seed) text = .ok sealed ∧
        sealed.length = text.length + 60 ∧ suite.openWith seed sealed = .ok text) ∧
    ∀ sealed : Bytes,
      suite.openChecked seed sealed = some (suite.openWith seed sealed) ∧
      (sealed.length < 60 → suite.openWith seed sealed = .error .opening) ∧
      (∀ text, suite.openWith seed sealed = .ok text ↔ ∃ front nonce hidden,
        front.val = sealed.take 32 ∧ nonce.val = (sealed.drop 32).take 12 ∧
        Aead.encrypt (sealKey (suite.agree seed front) front (suite.exchangeKey seed)) nonce text
          front.val = some hidden ∧
        sealed = front.val ++ nonce.val ++ hidden) ∧
      ∀ other text, sealed ≠ other → sealed.take 44 = other.take 44 →
        suite.openWith seed sealed = .ok text → suite.openWith seed other ≠ .ok text := by
  constructor
  · intro commutes throwaway nonce text fits
    obtain ⟨sealed, seals⟩ := suite.sealTo_succeeds throwaway nonce (suite.exchangeKey seed) fits
    exact ⟨sealed, seals, length_sealTo seals, openWith_sealTo commutes seals⟩
  · intro sealed
    refine ⟨suite.openChecked_eq seed sealed, openWith_short, fun text => openWith_eq_ok_iff_parts,
      ?_⟩
    intro other text differ front opens otherOpens
    exact differ (eq_of_openWith front opens otherOpens)

theorem commuting_sealing_inverse :
    ∃ sealed, curve25519.commuting.sealTo (Block.takePad 32 [1]) (Block.takePad 12 [])
        (curve25519.commuting.exchangeKey (Block.takePad 32 [7])) [104, 105] = .ok sealed ∧
      sealed.length = 62 ∧
      curve25519.commuting.openWith (Block.takePad 32 [7]) sealed = .ok [104, 105] ∧
      ∀ other, sealed ≠ other → sealed.take 44 = other.take 44 →
        curve25519.commuting.openWith (Block.takePad 32 [7]) other ≠ .ok [104, 105] := by
  obtain ⟨sealsAndOpens, exact⟩ := sealing_inverse curve25519.commuting (Block.takePad 32 [7])
  obtain ⟨sealed, seals, length, opens⟩ :=
    sealsAndOpens (commutes_commuting curve25519) (Block.takePad 32 [1]) (Block.takePad 12 [])
      [104, 105] (by decide)
  exact ⟨sealed, seals, length, opens, fun other differ front =>
    (exact sealed).2.2.2 other _ differ front opens⟩

end Suite

end Countersign.Crypto
