import Countersign.Crypto.PrimeField
import Countersign.Crypto.Sha512

/-!
# Ed25519

A public key may be of small order and need not be encoded canonically; a signature's scalar must be
below the group order, and its point is compared as bytes.
-/

namespace Countersign.Crypto

/-- The outcome of checking a signature; `noKey` says that the public key is no point. -/
inductive Verification where
  | matched
  | mismatched
  | noKey
  deriving DecidableEq, Repr

namespace Ed25519

open PrimeField

/-- A point in extended coordinates: `X / Z`, `Y / Z`, and `T = X · Y / Z`. -/
structure Point where
  x : Nat
  y : Nat
  z : Nat
  t : Nat
  deriving DecidableEq, Repr

def groupOrder : Nat := Nat.pow 2 252 + 27742317777372353535851937790883648493

def curveD : Nat :=
  37095705934669439343138083508754565189542113879843219016388785533085940283555

def base : Point :=
  let x := 15112221349535400772501151409588531511454012693041857206046113283949847762202
  let y := 46316835694926478169428394003475163141307993866256225615783033603165251855960
  ⟨x, y, 1, mul x y⟩

def Point.zero : Point := ⟨0, 1, 1, 0⟩

def Point.add (p q : Point) : Point :=
  let a := mul (sub p.y p.x) (sub q.y q.x)
  let b := mul (p.y + p.x) (q.y + q.x)
  let c := mul (mul p.t (2 * curveD)) q.t
  let d := mul (2 * p.z) q.z
  let e := sub b a
  let f := sub d c
  let g := PrimeField.add d c
  let h := PrimeField.add b a
  ⟨mul e f, mul g h, mul f g, mul e h⟩

def Point.neg (p : Point) : Point := ⟨sub 0 p.x, p.y, p.z, sub 0 p.t⟩

def Point.scale (n : Nat) (p : Point) : Point :=
  (bitsDown 256 n).foldl (fun acc bit => if bit then (acc.add acc).add p else acc.add acc) .zero

def Point.compress (p : Point) : Block 32 :=
  let zInv := inv p.z
  let x := mul p.x zInv
  Block.ofNat 32 (mul p.y zInv + x % 2 * Nat.pow 2 255)

def Point.decompress? (b : Block 32) : Option Point :=
  let n := littleEndian b.val
  let y := n % Nat.pow 2 255 % prime
  let y2 := mul y y
  (sqrtRatio? (sub y2 1) (PrimeField.add (mul curveD y2) 1)).map fun root =>
    let x := if n / Nat.pow 2 255 % 2 = 1 then sub 0 root else root
    ⟨x, y, 1, mul x y⟩

def hashScalar (b : Bytes) : Nat := littleEndian (Sha512.hash b).val % groupOrder

/-- The secret scalar of a seed, and the half of its hash that hides the nonces. -/
def expand (seed : Block 32) : Nat × Bytes :=
  let h := (Sha512.hash seed.val).val
  (clamp (littleEndian (h.take 32)), h.drop 32)

def publicKey (seed : Block 32) : Block 32 := (base.scale (expand seed).1).compress

def sign (seed : Block 32) (message : Bytes) : Block 64 :=
  let (secret, salt) := expand seed
  let nonce := hashScalar (salt ++ message)
  let r := (base.scale nonce).compress
  let k := hashScalar (r.val ++ (publicKey seed).val ++ message)
  let s : Block 32 := Block.ofNat 32 ((nonce + k * secret) % groupOrder)
  ⟨r.val ++ s.val, by simp [r.property, s.property]⟩

def verify (key : Block 32) (message : Bytes) (signature : Block 64) : Verification :=
  match Point.decompress? key with
  | none => .noKey
  | some a =>
      let r := signature.val.take 32
      let s := littleEndian (signature.val.drop 32)
      if groupOrder ≤ s then .mismatched
      else
        let k := hashScalar (r ++ key.val ++ message)
        let expected := (base.scale s).add (a.neg.scale k)
        if expected.compress.val = r then .matched else .mismatched

end Ed25519

end Countersign.Crypto
