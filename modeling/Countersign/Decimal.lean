import Countersign.Bytes

/-!
# Decimal numbers

Digits are numbers below ten, first digit first.
-/

namespace Countersign.Decimal

def digits (n : Nat) : List Nat :=
  if n < 10 then [n] else digits (n / 10) ++ [n % 10]

def value (ds : List Nat) : Nat := ds.foldl (fun n d => n * 10 + d) 0

theorem value_append (xs : List Nat) (d : Nat) : value (xs ++ [d]) = value xs * 10 + d := by
  simp [value]

@[simp] theorem value_digits (n : Nat) : value (digits n) = n := by
  fun_induction digits n with
  | case1 n h => simp [value]
  | case2 n h ih => rw [value_append, ih]; omega

theorem lt_ten_of_mem_digits {n d : Nat} (h : d ∈ digits n) : d < 10 := by
  fun_induction digits n with
  | case1 n hn => simp at h; omega
  | case2 n hn ih =>
    rcases List.mem_append.1 h with h | h
    · exact ih h
    · simp at h; omega

def digitChar (d : Nat) : Char := Char.ofNat (48 + d)

def text (n : Nat) : String := String.ofList ((digits n).map digitChar)

/-- The text of `n` with zeros in front up to `width` digits. -/
def padded (width n : Nat) : String :=
  String.ofList
    ((List.replicate (width - (digits n).length) 0 ++ digits n).map digitChar)

def ofByte? (c : UInt8) : Option Nat :=
  if 48 ≤ c ∧ c ≤ 57 then some (c.toNat - 48) else none

end Countersign.Decimal
