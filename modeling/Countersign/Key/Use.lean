import Countersign.Crypto.Sealed
import Countersign.Key.Record

/-!
# What a key record can do

Signing and opening need the seed.  Checking and sealing take the public half where the record holds
one, and derive it from the seed otherwise.
-/

namespace Countersign

open Crypto (Suite)

def seedOf (secret : Bytes) : Except CryptoError (Block 32) :=
  match Block.ofBytes? 32 secret with
  | some seed => .ok seed
  | none => .error .secretKey

def publicKeyOf (b : Bytes) : Except CryptoError (Block 32) :=
  match Block.ofBytes? 32 b with
  | some key => .ok key
  | none => .error (.keyLength 32 b.length)

def signatureOf (b : Bytes) : Except CryptoError (Block 64) :=
  match Block.ofBytes? 64 b with
  | some signature => .ok signature
  | none => .error (.signatureLength 64 b.length)

def splitMaterial (material : Bytes) : Except CryptoError (Block 32 × Block 32) :=
  match Block.ofBytes? 32 (material.take 32), Block.ofBytes? 32 (material.drop 32) with
  | some verifying, some exchange => .ok (verifying, exchange)
  | _, _ => .error (.keyLength 64 material.length)

namespace Key

def seed (k : Key) : Except CryptoError (Block 32) :=
  if k.secret.isEmpty then .error (.noSecret k.kid) else seedOf k.secret

def publicKeys (k : Key) (suite : Suite) : Except CryptoError (Block 32 × Block 32) :=
  match k.material with
  | some material => splitMaterial material
  | none => do
      let seed ← k.seed
      return (suite.verifyingKey seed, suite.exchangeKey seed)

def sign (k : Key) (suite : Suite) (message : Bytes) : Except CryptoError Bytes := do
  if !k.canSign then
    throw (.signingNotPermitted k.kid)
  return (suite.sign (← k.seed) message).val

def verify (k : Key) (suite : Suite) (message signature : Bytes) : Except CryptoError Bool := do
  let (verifying, _) ← k.publicKeys suite
  match suite.verify verifying message (← signatureOf signature) with
  | .matched => return true
  | .mismatched => return false
  | .noKey => throw .publicKey

def sealTo (k : Key) (suite : Suite) (throwaway : Block 32) (nonce : Block 12) (text : Bytes) :
    Except CryptoError Bytes := do
  let (_, exchange) ← k.publicKeys suite
  suite.sealTo throwaway nonce exchange text

def openSealed (k : Key) (suite : Suite) (sealed : Bytes) : Except CryptoError Bytes := do
  suite.openWith (← k.seed) sealed

end Key

end Countersign
