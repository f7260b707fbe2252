import Countersign.Decimal

/-!
# Finite doubles and their shortest decimal form

A finite double stands for `± significand · 2 ^ exponent`.  Its shortest decimal has the fewest
digits of those in the interval of reals that round to it, and is the nearest if there are two.
-/

namespace Countersign.Decimal

def fractions : Nat := 0x10000000000000

structure Double where
  bits : UInt64
  finite : bits.toNat / fractions % 2048 < 2047
  deriving DecidableEq, Repr

namespace Double

def ofBits? (bits : UInt64) : Option Double :=
  if h : bits.toNat / fractions % 2048 < 2047 then some ⟨bits, h⟩ else none

def ofFloat? (x : Float) : Option Double := ofBits? x.toBits

def negative (x : Double) : Bool := 0x8000000000000000 ≤ x.bits.toNat

def fields (x : Double) : Nat × Nat := (x.bits.toNat % fractions, x.bits.toNat / fractions % 2048)

def significand (x : Double) : Nat :=
  let (fraction, biased) := x.fields
  if biased = 0 then fraction else fractions + fraction

def exponent (x : Double) : Int :=
  let (_, biased) := x.fields
  if biased = 0 then -1074 else (biased : Int) - 1075

end Double

structure Scientific where
  mantissa : Nat
  exponent : Int
  deriving DecidableEq, Repr

def Scientific.trim (s : Scientific) : Scientific :=
  if s.mantissa ≠ 0 ∧ s.mantissa % 10 = 0 then trim ⟨s.mantissa / 10, s.exponent + 1⟩ else s
termination_by s.mantissa
decreasing_by omega

/-- The least `j` up to `limit` for which `num · 10 ^ j` reaches `den`. -/
def leadingPlaces (num den : Nat) : (limit : Nat) → Nat
  | 0 => 0
  | limit + 1 => if den ≤ num then 0 else leadingPlaces (num * 10) den limit + 1

/-- The exponent `e` with `10 ^ (e - 1) ≤ num / den < 10 ^ e`. -/
def magnitude (num den : Nat) : Int :=
  if den ≤ num then (digits (num / den)).length else 1 - (leadingPlaces num den 400 : Int)

/-- The interval of reals around `num / den` that round to it, over the same denominator. -/
structure Rounding where
  low : Nat
  num : Nat
  high : Nat
  den : Nat
  closed : Bool

def Double.rounding (x : Double) : Rounding :=
  let m := x.significand
  let q := x.exponent - 2
  let scale := Nat.pow 2 q.toNat
  let below := if x.fields.1 = 0 ∧ 1 < x.fields.2 then 1 else 2
  { low := (4 * m - below) * scale
    num := 4 * m * scale
    high := (4 * m + 2) * scale
    den := Nat.pow 2 (-q).toNat
    closed := m % 2 = 0 }

def Rounding.contains (r : Rounding) (d : Nat) (k : Int) : Bool :=
  let up := Nat.pow 10 k.toNat
  let down := Nat.pow 10 (-k).toNat
  let point := d * up * r.den
  if r.closed then r.low * down ≤ point ∧ point ≤ r.high * down
  else r.low * down < point ∧ point < r.high * down

/-- The best decimal with its last digit at `10 ^ k`, if one lies in the interval. -/
def Rounding.onGrid? (r : Rounding) (k : Int) : Option Scientific :=
  let num := r.num * Nat.pow 10 (-k).toNat
  let den := r.den * Nat.pow 10 k.toNat
  let floor := num / den
  let nearer :=
    if 2 * (num % den) < den then floor
    else if den < 2 * (num % den) then floor + 1
    else if floor % 2 = 0 then floor else floor + 1
  let farther := if nearer = floor then floor + 1 else floor
  if r.contains nearer k then some ⟨nearer, k⟩
  else if r.contains farther k then some ⟨farther, k⟩
  else none

def Rounding.firstGrid (r : Rounding) (top : Int) : (places more : Nat) → Scientific
  | places, 0 =>
      ⟨r.num * Nat.pow 10 (places - top).toNat / (r.den * Nat.pow 10 (top - places).toNat),
        top - places⟩
  | places, more + 1 =>
      match r.onGrid? (top - places) with
      | some s => s
      | none => firstGrid r top (places + 1) more

def Double.shortest (x : Double) : Scientific :=
  if x.significand = 0 then ⟨0, 0⟩
  else
    let r := x.rounding
    (r.firstGrid (magnitude r.num r.den) 1 17).trim

end Countersign.Decimal
