/-!
# Byte strings

Values whose length is fixed by an algorithm are `Block`s, so that the length is settled where the
value is made and never asked for again.
-/

namespace Countersign

abbrev Bytes := List UInt8

abbrev Block (n : Nat) := { b : Bytes // b.length = n }

namespace Block

def ofBytes? (n : Nat) (b : Bytes) : Option (Block n) :=
  if h : b.length = n then some ⟨b, h⟩ else none

/-- The first `n` bytes, filled up with zeros where there are fewer. -/
def takePad (n : Nat) (b : Bytes) : Block n :=
  ⟨b.take n ++ List.replicate (n - b.length) 0, by simp; omega⟩

theorem ofBytes?_eq_some {n : Nat} {b : Bytes} {k : Block n} :
    ofBytes? n b = some k ↔ b = k.val := by
  unfold ofBytes?
  split
  · rename_i h
    constructor
    · intro e; cases e; rfl
    · intro e; cases k; subst e; rfl
  · rename_i h
    simp only [reduceCtorEq, false_iff]
    intro e
    exact h (e ▸ k.property)

@[simp] theorem ofBytes?_val {n : Nat} (k : Block n) : ofBytes? n k.val = some k :=
  ofBytes?_eq_some.2 rfl

theorem ofBytes?_eq_none {n : Nat} {b : Bytes} : ofBytes? n b = none ↔ b.length ≠ n := by
  unfold ofBytes?; split <;> simp_all

end Block

def utf8 (s : String) : Bytes := s.toByteArray.data.toList

def ofUtf8? (b : Bytes) : Option String := String.fromUTF8? ⟨b.toArray⟩

theorem ofUtf8?_eq_some {b : Bytes} {s : String} : ofUtf8? b = some s ↔ b = utf8 s := by
  unfold ofUtf8? String.fromUTF8? utf8
  split
  · rw [Option.some.injEq, ← String.toByteArray_inj]
    constructor
    · intro h
      rw [← h]
      rfl
    · intro h
      subst h
      exact ByteArray.ext rfl
  · rename_i h
    simp only [reduceCtorEq, false_iff]
    intro e
    subst e
    exact h s.isValidUTF8

@[simp] theorem ofUtf8?_utf8 (s : String) : ofUtf8? (utf8 s) = some s :=
  ofUtf8?_eq_some.2 rfl

theorem utf8_injective {s t : String} (h : utf8 s = utf8 t) : s = t := by
  have e := ofUtf8?_utf8 s
  rw [h, ofUtf8?_utf8] at e
  exact (Option.some.inj e).symm

@[simp] theorem utf8_append (s t : String) : utf8 (s ++ t) = utf8 s ++ utf8 t := by
  simp [utf8, String.toByteArray_append]

@[simp] theorem utf8_empty : utf8 "" = [] := rfl

theorem utf8_ofList (cs : List Char) :
    utf8 (String.ofList cs) = cs.flatMap String.utf8EncodeChar := by
  simp [utf8, String.toByteArray_ofList, List.utf8Encode]

theorem utf8_eq_flatMap (s : String) : utf8 s = s.toList.flatMap String.utf8EncodeChar := by
  rw [← utf8_ofList, String.ofList_toList]

def ofAscii (b : Bytes) : String := String.ofList (b.map fun c => Char.ofNat c.toNat)

def littleEndian : Bytes → Nat
  | [] => 0
  | b :: rest => b.toNat + 256 * littleEndian rest

def toLittleEndian : (len : Nat) → Nat → Bytes
  | 0, _ => []
  | len + 1, n => UInt8.ofNat (n % 256) :: toLittleEndian len (n / 256)

@[simp] theorem length_toLittleEndian (len n : Nat) : (toLittleEndian len n).length = len := by
  induction len generalizing n with
  | zero => rfl
  | succ len ih => simp [toLittleEndian, ih]

def Block.ofNat (len n : Nat) : Block len := ⟨toLittleEndian len n, length_toLittleEndian len n⟩

/-- Cuts a byte string into pieces of `n` bytes, the last one perhaps shorter. -/
def pieces (n : Nat) (b : Bytes) : List Bytes :=
  if n = 0 ∨ b.isEmpty then [] else b.take n :: pieces n (b.drop n)
termination_by b.length
decreasing_by
  rename_i h
  cases b with
  | nil => simp at h
  | cons => simp at h ⊢; omega

def hexDigit (n : Nat) : Char :=
  if n < 10 then Char.ofNat (48 + n) else Char.ofNat (87 + n)

def hex (b : Bytes) : String :=
  String.ofList (b.flatMap fun c => [hexDigit (c.toNat / 16), hexDigit (c.toNat % 16)])

def hexValue? (c : UInt8) : Option Nat :=
  if 48 ≤ c ∧ c ≤ 57 then some (c.toNat - 48)
  else if 97 ≤ c ∧ c ≤ 102 then some (c.toNat - 87)
  else if 65 ≤ c ∧ c ≤ 70 then some (c.toNat - 55)
  else none

end Countersign
