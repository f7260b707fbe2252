import Countersign.Crypto.Aead
import Countersign.Crypto.Blake3
import Countersign.Crypto.Suite
import Countersign.Error

/-!
# Sealed payloads

The sealed bytes are a throw-away public key (32 bytes), a nonce (12), the hidden payload and its
tag (16).  The cipher's key is derived from the agreed secret and both public keys, and the
throw-away key is authenticated along with the payload.
-/

namespace Countersign.Crypto

def lock (key : Aead.Key) (nonce : Aead.Nonce) (text aad : Bytes) : Except CryptoError Bytes :=
  match Aead.encrypt key nonce text aad with
  | some hidden => .ok (nonce.val ++ hidden)
  | none => .error (.sealing "aead::Error")

def unlock (key : Aead.Key) (locked aad : Bytes) : Except CryptoError Bytes :=
  if locked.length < 12 + 16 then .error .opening
  else
    match Block.ofBytes? 12 (locked.take 12) with
    | none => .error .opening
    | some nonce =>
        match Aead.decrypt key nonce (locked.drop 12) aad with
        | some text => .ok text
        | none => .error .opening

def sealContext : String := "trustflow-seal-v1"

def deriveFrom (context : String) (input : Bytes) : Block 32 :=
  Blake3.deriveKey context (Blake3.hash input).val

def sealKey (shared throwaway recipient : Block 32) : Aead.Key :=
  deriveFrom sealContext (shared.val ++ throwaway.val ++ recipient.val)

namespace Suite

def sealTo (suite : Suite) (throwaway : Block 32) (nonce : Aead.Nonce) (recipient : Block 32)
    (text : Bytes) : Except CryptoError Bytes := do
  let front := suite.exchangeKey throwaway
  let key := sealKey (suite.agree throwaway recipient) front recipient
  let locked ← lock key nonce text front.val
  return front.val ++ locked

def openWith (suite : Suite) (seed : Block 32) (sealed : Bytes) : Except CryptoError Bytes :=
  match Block.ofBytes? 32 (sealed.take 32) with
  | none => .error .opening
  | some front =>
      let key := sealKey (suite.agree seed front) front (suite.exchangeKey seed)
      unlock key (sealed.drop 32) front.val

end Suite

end Countersign.Crypto
