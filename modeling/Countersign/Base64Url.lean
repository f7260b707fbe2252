import Countersign.Bytes

/-!
# Unpadded base64url

Padding is never written and never accepted, and the unused low bits of a last symbol are zero, so
every byte string has exactly one text.  A refused text is reported by its first fault: a stray
symbol at its end, then symbols group by group, then the shape of the last group.
-/

namespace Countersign.Base64Url

inductive DecodeError where
  | symbol (byte : UInt8) (offset : Nat)
  | length (count : Nat)
  | padding
  | lastSymbol (byte : UInt8) (offset : Nat)
  deriving DecidableEq, Repr

def DecodeError.message : DecodeError → String
  | .symbol byte offset => s!"Invalid symbol {byte.toNat}, offset {offset}."
  | .length count => s!"Invalid input length: {count}"
  | .padding => "Invalid padding"
  | .lastSymbol byte offset => s!"Invalid last symbol {byte.toNat}, offset {offset}."

/-! ## The alphabet -/

def symbol (n : Nat) : UInt8 :=
  if n < 26 then UInt8.ofNat (65 + n)
  else if n < 52 then UInt8.ofNat (71 + n)
  else if n < 62 then UInt8.ofNat (n - 4)
  else if n = 62 then 45
  else 95

def value? (c : UInt8) : Option Nat :=
  if 65 ≤ c ∧ c ≤ 90 then some (c.toNat - 65)
  else if 97 ≤ c ∧ c ≤ 122 then some (c.toNat - 71)
  else if 48 ≤ c ∧ c ≤ 57 then some (c.toNat + 4)
  else if c = 45 then some 62
  else if c = 95 then some 63
  else none

def pad : UInt8 := 61

theorem value?_symbol {n : Nat} (h : n < 64) : value? (symbol n) = some n := by
  have all : ∀ m : Fin 64, value? (symbol m) = some m.val := by decide
  exact all ⟨n, h⟩

theorem value?_lt {c : UInt8} {n : Nat} (h : value? c = some n) : n < 64 := by
  unfold value? at h
  simp only [UInt8.le_iff_toNat_le, UInt8.reduceToNat] at h
  split at h
  · cases h; omega
  split at h
  · cases h; omega
  split at h
  · cases h; omega
  split at h
  · cases h; omega
  split at h
  · cases h; omega
  · cases h

theorem symbol_of_value? {c : UInt8} {n : Nat} (h : value? c = some n) : symbol n = c := by
  have all : ∀ d : Fin 256, (value? (UInt8.ofNat d)).all (fun m => symbol m == UInt8.ofNat d) := by
    decide +kernel
  have hd := all ⟨c.toNat, c.toNat_lt⟩
  simp only [UInt8.ofNat_toNat, h, Option.all_some, beq_iff_eq] at hd
  exact hd

/-! ## Writing -/

def encodeBytes : Bytes → Bytes
  | [] => []
  | [x] => [symbol (x.toNat / 4), symbol (x.toNat % 4 * 16)]
  | [x, y] =>
      [symbol (x.toNat / 4), symbol (x.toNat % 4 * 16 + y.toNat / 16), symbol (y.toNat % 16 * 4)]
  | x :: y :: z :: rest =>
      symbol (x.toNat / 4) :: symbol (x.toNat % 4 * 16 + y.toNat / 16) ::
        symbol (y.toNat % 16 * 4 + z.toNat / 64) :: symbol (z.toNat % 64) :: encodeBytes rest

def encode (b : Bytes) : String := ofAscii (encodeBytes b)

/-! ## Reading -/

def readSymbol (offset : Nat) (c : UInt8) : Except DecodeError Nat :=
  match value? c with
  | some n => .ok n
  | none => .error (.symbol c offset)

/--
The symbols of the last group, from its position `i` on, and the offset of the first `=` among
them.  The group starts at `offset`; an `=` is only looked over from its third place on, and no
symbol may follow it.
-/
def scanLast (offset : Nat) : (i : Nat) → (firstPad : Option Nat) → Bytes →
    Except DecodeError (List Nat × Option Nat)
  | _, firstPad, [] => .ok ([], firstPad)
  | i, firstPad, c :: rest =>
      if c = pad then
        if i < 2 then .error (.symbol pad (offset + i))
        else scanLast offset (i + 1) (firstPad.or (some (offset + i))) rest
      else
        match firstPad with
        | some p => .error (.symbol pad p)
        | none => do
            let n ← readSymbol (offset + i) c
            let (ns, p) ← scanLast offset (i + 1) none rest
            return (n :: ns, p)

def joinLast (offset : Nat) (last : UInt8) : List Nat → Except DecodeError Bytes
  | [a, b] =>
      if b % 16 = 0 then .ok [UInt8.ofNat (a * 4 + b / 16)]
      else .error (.lastSymbol last (offset + 1))
  | [a, b, c] =>
      if c % 4 = 0 then
        .ok [UInt8.ofNat (a * 4 + b / 16), UInt8.ofNat (b % 16 * 16 + c / 4)]
      else .error (.lastSymbol last (offset + 2))
  | [a, b, c, d] =>
      .ok [UInt8.ofNat (a * 4 + b / 16), UInt8.ofNat (b % 16 * 16 + c / 4),
        UInt8.ofNat (c % 4 * 64 + d)]
  | ns => .error (.length (offset + ns.length))

def decodeLast (offset : Nat) (group : Bytes) : Except DecodeError Bytes := do
  let (ns, firstPad) ← scanLast offset 0 none group
  if ns.length < 2 then
    throw (.length (offset + ns.length))
  if firstPad.isSome then
    throw .padding
  joinLast offset (group.getLastD 0) ns

def decodeGroups (offset : Nat) : Bytes → Except DecodeError Bytes
  | p :: q :: r :: s :: t :: rest => do
      let a ← readSymbol offset p
      let b ← readSymbol (offset + 1) q
      let c ← readSymbol (offset + 2) r
      let d ← readSymbol (offset + 3) s
      let tail ← decodeGroups (offset + 4) (t :: rest)
      return UInt8.ofNat (a * 4 + b / 16) :: UInt8.ofNat (b % 16 * 16 + c / 4) ::
        UInt8.ofNat (c % 4 * 64 + d) :: tail
  | group => decodeLast offset group

/-- A text of length 1 modulo 4 that ends in a byte no symbol has is refused for that byte. -/
def strayEnd? (t : Bytes) : Option UInt8 :=
  match t.getLast? with
  | some c => if t.length % 4 = 1 ∧ c ≠ pad ∧ value? c = none then some c else none
  | none => none

def decodeBytes (t : Bytes) : Except DecodeError Bytes :=
  match strayEnd? t with
  | some c => .error (.symbol c (t.length - 1))
  | none => if t.isEmpty then .ok [] else decodeGroups 0 t

def decode (text : String) : Except DecodeError Bytes := decodeBytes (utf8 text)

end Countersign.Base64Url
