import Countersign.Crypto.Ed25519
import Countersign.Crypto.X25519

/-!
# Suites

The public-key operations.  The seed of a key serves both for signing and for agreeing on a secret.
-/

namespace Countersign.Crypto

structure Suite where
  algorithm : String
  verifyingKey : (seed : Block 32) → Block 32
  sign : (seed : Block 32) → (message : Bytes) → Block 64
  verify : (key : Block 32) → (message : Bytes) → (signature : Block 64) → Verification
  exchangeKey : (seed : Block 32) → Block 32
  agree : (seed theirs : Block 32) → Block 32

def Suite.curve25519 : Suite where
  algorithm := "EdDSA"
  verifyingKey := Ed25519.publicKey
  sign := Ed25519.sign
  verify := Ed25519.verify
  exchangeKey := X25519.publicKey
  agree := X25519.agree

/-- The public half of a key: its verifying key, then its exchange key. -/
def Suite.material (suite : Suite) (seed : Block 32) : Bytes :=
  (suite.verifyingKey seed).val ++ (suite.exchangeKey seed).val

end Countersign.Crypto
