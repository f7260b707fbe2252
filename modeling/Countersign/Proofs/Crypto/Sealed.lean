import Countersign.Crypto.Sealed
import Countersign.Proofs.Results

/-!
# Sealed payloads open again

The cipher opens whatever it locked.  The two sides of a sealing agree on its key if the agreement
of the suite comes to the same on both sides, which is all that is asked of the suite.
-/

namespace Countersign.Crypto

/-! ## The cipher -/

theorem Aead.length_encrypt {key : Key} {nonce : Nonce} {text aad hidden : Bytes}
    (h : encrypt key nonce text aad = some hidden) : hidden.length = text.length + 16 := by
  unfold encrypt at h
  split at h
  · cases h
  · cases h
    rw [List.length_append, length_cipher, (tag _ _ _ _).property]

theorem lock_eq_ok {key : Aead.Key} {nonce : Aead.Nonce} {text aad locked : Bytes} :
    lock key nonce text aad = .ok locked ↔
      ∃ hidden, Aead.encrypt key nonce text aad = some hidden ∧ locked = nonce.val ++ hidden := by
  unfold lock
  cases Aead.encrypt key nonce text aad with
  | none => simp
  | some hidden => simp [eq_comm]

theorem unlock_lock {key : Aead.Key} {nonce : Aead.Nonce} {text aad locked : Bytes}
    (h : lock key nonce text aad = .ok locked) : unlock key locked aad = .ok text := by
  obtain ⟨hidden, encrypted, rfl⟩ := lock_eq_ok.1 h
  have long : ¬ (nonce.val ++ hidden).length < 12 + 16 := by
    rw [List.length_append, nonce.property, Aead.length_encrypt encrypted]
    omega
  have front : Block.ofBytes? 12 ((nonce.val ++ hidden).take 12) = some nonce :=
    Block.ofBytes?_eq_some.2 (List.take_left' nonce.property)
  have rest : (nonce.val ++ hidden).drop 12 = hidden := List.drop_left' nonce.property
  rw [unlock, if_neg long]
  simp only [front, rest, Aead.decrypt_eq_some.2 encrypted]

/-! ## Agreement -/

namespace Suite

/-- Two parties agree on the same secret, each from its own seed and the other's exchange key. -/
def Commutes (suite : Suite) : Prop :=
  ∀ mine yours, suite.agree mine (suite.exchangeKey yours) =
    suite.agree yours (suite.exchangeKey mine)

variable {suite : Suite} {throwaway seed : Block 32} {nonce : Aead.Nonce} {text : Bytes}

theorem openWith_sealTo (commutes : suite.Commutes) {hidden : Bytes}
    (h : suite.sealTo throwaway nonce (suite.exchangeKey seed) text = .ok hidden) :
    suite.openWith seed hidden = .ok text := by
  obtain ⟨locked, locks, h⟩ := bind_eq_ok.1 h
  cases h
  have length := (suite.exchangeKey throwaway).property
  have front : Block.ofBytes? 32 (((suite.exchangeKey throwaway).val ++ locked).take 32) =
      some (suite.exchangeKey throwaway) :=
    Block.ofBytes?_eq_some.2 (List.take_left' length)
  have rest : ((suite.exchangeKey throwaway).val ++ locked).drop 32 = locked :=
    List.drop_left' length
  rw [commutes throwaway seed] at locks
  simp only [openWith, front, rest]
  exact unlock_lock locks

theorem sealTo_succeeds (suite : Suite) (throwaway : Block 32) (nonce : Aead.Nonce)
    (recipient : Block 32) (fits : Aead.tooLong text = false) :
    ∃ hidden, suite.sealTo throwaway nonce recipient text = .ok hidden := by
  simp [sealTo, lock, Aead.encrypt, fits]

def Concur (suite : Suite) (mine yours : Block 32) : Prop :=
  ∀ seed other, suite.exchangeKey seed = mine → suite.exchangeKey other = yours →
    suite.agree seed yours = suite.agree other mine

theorem Concur.symm {mine yours : Block 32} (h : suite.Concur mine yours) :
    suite.Concur yours mine :=
  fun seed other isYours isMine => (h other seed isMine isYours).symm

open Classical in
/-- A suite whose agreements come to the same on both sides beyond doubt. -/
noncomputable def commuting (suite : Suite) : Suite :=
  { suite with
    agree := fun seed theirs =>
      if suite.Concur (suite.exchangeKey seed) theirs then suite.agree seed theirs
      else Block.takePad 32 [] }

theorem commutes_commuting (suite : Suite) : suite.commuting.Commutes := by
  intro mine yours
  simp only [commuting]
  by_cases concur : suite.Concur (suite.exchangeKey mine) (suite.exchangeKey yours)
  · rw [if_pos concur, if_pos concur.symm]
    exact concur mine yours rfl rfl
  · rw [if_neg concur, if_neg fun back => concur back.symm]

end Suite

end Countersign.Crypto
