import Countersign.Decimal.Double

/-!
# Numbers in JSON

A numeral without point and exponent that fits into 64 bits is an integer, and any other a finite
double, which is not the nearest one but the first 64 bits' worth of digits scaled by a power of
ten.
-/

namespace Countersign.Json

open Decimal

/-- A number as written: sign, digits before the point, digits after it, and the exponent with its
sign.  `fraction` is empty where there is no point. -/
structure Numeral where
  negative : Bool
  whole : List Nat
  fraction : List Nat
  exponent : Option (Bool × List Nat)
  deriving DecidableEq, Repr

inductive Number where
  | int (value : Int)
  | real (value : Double)
  deriving DecidableEq, Repr

/-! ## From numerals to numbers -/

/-- Adds digits to `n` while the result stays below `bound`, and gives back those left over. -/
def gather (bound : Nat) : Nat → List Nat → Nat × List Nat
  | n, [] => (n, [])
  | n, d :: ds => if n * 10 + d < bound then gather bound (n * 10 + d) ds else (n, d :: ds)

def powerOfTen (e : Nat) : Float := Float.ofScientific 1 false e

def divideByPower (f : Float) (e : Nat) : Float :=
  if e ≤ 308 then f / powerOfTen e
  else if f == 0 then f
  else divideByPower (f / powerOfTen 308) (e - 308)
termination_by e

def scale? (significand : Nat) (exponent : Int) : Option Float :=
  let f := Float.ofNat significand
  match exponent with
  | .negSucc e => some (divideByPower f (e + 1))
  | .ofNat e =>
      if e ≤ 308 then
        let scaled := f * powerOfTen e
        if scaled.isInf then none else some scaled
      else if f == 0 then some f
      else none

namespace Numeral

def isInteger (n : Numeral) : Bool := n.fraction.isEmpty && n.exponent.isNone

def significandBound : Nat := 0x10000000000000000

/-- The exponents that a numeral may write, in absolute value. -/
def exponentBound : Nat := 0x80000000

def real? (n : Numeral) : Option Double := do
  let (s, wholeLeft) := gather significandBound 0 n.whole
  let (s, fractionLeft) := gather significandBound s n.fraction
  let start : Int := wholeLeft.length - (n.fraction.length - fractionLeft.length : Nat)
  let magnitude ← match n.exponent with
    | none => scale? s start
    | some (down, ds) =>
        match gather exponentBound 0 ds with
        | (e, []) => scale? s (if down then start - e else start + e)
        | (_, _ :: _) => if s ≠ 0 ∧ !down then none else some 0
  Double.ofFloat? (if n.negative then -magnitude else magnitude)

def value? (n : Numeral) : Option Number :=
  if n.isInteger then
    match gather significandBound 0 n.whole with
    | (m, []) =>
        if !n.negative then some (.int m)
        else if 0 < m ∧ m ≤ 0x8000000000000000 then some (.int (-m))
        else n.real?.map .real
    | (_, _ :: _) => n.real?.map .real
  else n.real?.map .real

end Numeral

/-! ## From numbers to numerals -/

/-- Doubles are written positionally where their decimal exponent is from -5 to 15. -/
def ofDouble (x : Double) : Numeral :=
  let s := x.shortest
  let ds := digits s.mantissa
  let point := ds.length + s.exponent
  if s.mantissa = 0 then ⟨x.negative, [0], [0], none⟩
  else if 0 ≤ s.exponent ∧ point ≤ 16 then
    ⟨x.negative, ds ++ List.replicate s.exponent.toNat 0, [0], none⟩
  else if 0 < point ∧ point ≤ 16 then
    ⟨x.negative, ds.take point.toNat, ds.drop point.toNat, none⟩
  else if -5 < point ∧ point ≤ 0 then
    ⟨x.negative, [0], List.replicate (-point).toNat 0 ++ ds, none⟩
  else
    ⟨x.negative, ds.take 1, ds.drop 1, some (point - 1 < 0, digits (point - 1).natAbs)⟩

def Number.numeral : Number → Numeral
  | .int i => ⟨i < 0, digits i.natAbs, [], none⟩
  | .real x => ofDouble x

def Numeral.text (n : Numeral) : String :=
  let digitText (ds : List Nat) := String.ofList (ds.map digitChar)
  (if n.negative then "-" else "") ++ digitText n.whole ++
    (if n.fraction.isEmpty then "" else "." ++ digitText n.fraction) ++
    (match n.exponent with
      | none => ""
      | some (down, ds) => (if down then "e-" else "e+") ++ digitText ds)

end Countersign.Json
