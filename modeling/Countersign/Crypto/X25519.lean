import Countersign.Crypto.PrimeField

/-!
# X25519

The Montgomery ladder of RFC 7748.  The top bit of a public key is ignored, and an agreement on zero
is not refused.
-/

namespace Countersign.Crypto.X25519

open PrimeField

structure Ladder where
  x2 : Nat
  z2 : Nat
  x3 : Nat
  z3 : Nat

def Ladder.step (x1 : Nat) (l : Ladder) (bit : Bool) : Ladder :=
  let (x2, z2, x3, z3) :=
    if bit then (l.x3, l.z3, l.x2, l.z2) else (l.x2, l.z2, l.x3, l.z3)
  let a := add x2 z2
  let b := sub x2 z2
  let aa := mul a a
  let bb := mul b b
  let e := sub aa bb
  let da := mul (sub x3 z3) a
  let cb := mul (add x3 z3) b
  let sum := add da cb
  let diff := sub da cb
  let x3 := mul sum sum
  let z3 := mul x1 (mul diff diff)
  let x2 := mul aa bb
  let z2 := mul e (aa + 121665 * e)
  if bit then ⟨x3, z3, x2, z2⟩ else ⟨x2, z2, x3, z3⟩

def agree (secret theirs : Block 32) : Block 32 :=
  let u := littleEndian theirs.val % Nat.pow 2 255 % prime
  let l := (bitsDown 255 (clamp (littleEndian secret.val))).foldl (Ladder.step u) ⟨1, 0, u, 1⟩
  Block.ofNat 32 (mul l.x2 (inv l.z2))

def basePoint : Block 32 := Block.ofNat 32 9

def publicKey (secret : Block 32) : Block 32 := agree secret basePoint

end Countersign.Crypto.X25519
