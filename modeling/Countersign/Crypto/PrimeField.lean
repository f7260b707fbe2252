import Countersign.Bytes

/-!
# The field of 2^255 - 19

Elements are natural numbers below the prime.
-/

namespace Countersign.Crypto.PrimeField

def prime : Nat := Nat.pow 2 255 - 19

def add (x y : Nat) : Nat := (x + y) % prime

def sub (x y : Nat) : Nat := (x + (prime - y % prime)) % prime

def mul (x y : Nat) : Nat := x * y % prime

def bitsDown : (len n : Nat) → List Bool
  | 0, _ => []
  | len + 1, n => n.testBit len :: bitsDown len n

def pow (x e : Nat) : Nat :=
  (bitsDown 255 e).foldl (fun acc bit => if bit then mul (mul acc acc) x else mul acc acc) 1

def inv (x : Nat) : Nat := pow x (prime - 2)

def sqrtMinusOne : Nat := pow 2 ((prime - 1) / 4)

/-- The even square root of `u / v`, if there is one. -/
def sqrtRatio? (u v : Nat) : Option Nat :=
  let v3 := mul (mul v v) v
  let r := mul (mul u v3) (pow (mul u (mul (mul v3 v3) v)) ((prime - 5) / 8))
  let check := mul v (mul r r)
  let even (x : Nat) := if x % 2 = 0 then x else prime - x
  if check = u % prime then some (even r)
  else if check = sub 0 u then some (even (mul r sqrtMinusOne))
  else none

/-- A multiple of eight from `2 ^ 254` up to `2 ^ 255`, as secret scalars are. -/
def clamp (n : Nat) : Nat := n % Nat.pow 2 254 / 8 * 8 + Nat.pow 2 254

end Countersign.Crypto.PrimeField
