import Countersign.Bytes
import Mathlib.Order.Defs.Unbundled

/-!
# Texts in byte order

Texts are compared by the code points of their characters.  Their UTF-8 bytes compare the same way:
of two characters the greater one has the greater byte at the first place where their bytes differ.
-/

namespace Countersign

theorem cons_ofNat_lt {m n : Nat} (fits : m < 256) (fits' : n < 256) {b b' : Bytes} :
    UInt8.ofNat m :: b < UInt8.ofNat n :: b' ↔ m < n ∨ m = n ∧ b < b' := by
  rw [List.cons_lt_cons_iff, UInt8.lt_iff_toNat_lt, ← UInt8.toNat_inj,
    UInt8.toNat_ofNat_of_lt' fits, UInt8.toNat_ofNat_of_lt' fits']

theorem utf8EncodeChar_append_lt {c d : Char} (less : c < d) (b b' : Bytes) :
    String.utf8EncodeChar c ++ b < String.utf8EncodeChar d ++ b' := by
  have values : c.val.toNat < d.val.toNat := less
  have bound : d.val.toNat < 1114112 := by
    rcases d.valid with low | high
    · omega
    · exact high.2
  have third (n : Nat) : n / 4096 = n / 64 / 64 := by omega
  have fourth (n : Nat) : n / 262144 = n / 64 / 64 / 64 := by omega
  -- A longer form starts with a greater byte, and in two forms of the same length the bytes are
  -- digits to the base 64, the highest first.
  fun_cases String.utf8EncodeChar c <;> fun_cases String.utf8EncodeChar d <;>
    simp (disch := omega) only [List.cons_append, List.nil_append, cons_ofNat_lt, third, fourth] <;>
    omega

theorem flatMap_utf8EncodeChar_lt {cs ds : List Char} (less : cs < ds) :
    cs.flatMap String.utf8EncodeChar < ds.flatMap String.utf8EncodeChar := by
  induction less with
  | nil =>
      rename_i d ds
      obtain ⟨b, rest, first⟩ := List.exists_cons_of_ne_nil (String.utf8EncodeChar_ne_nil (c := d))
      rw [List.flatMap_cons, first]
      exact List.nil_lt_cons _ _
  | rel less =>
      rw [List.flatMap_cons, List.flatMap_cons]
      exact utf8EncodeChar_append_lt less _ _
  | cons _ ih =>
      rw [List.flatMap_cons, List.flatMap_cons]
      exact List.append_left_lt ih

theorem utf8_lt_utf8 {s t : String} (less : s < t) : utf8 s < utf8 t := by
  rw [utf8_eq_flatMap, utf8_eq_flatMap]
  exact flatMap_utf8EncodeChar_lt less

/-! ## The order of texts by their bytes -/

def ByteLe (s t : String) : Prop := utf8 s ≤ utf8 t

instance : DecidableRel ByteLe := fun s t => inferInstanceAs (Decidable (utf8 s ≤ utf8 t))

instance : IsTrans String ByteLe := ⟨fun _ _ _ => List.le_trans⟩

instance : Std.Antisymm ByteLe :=
  ⟨fun _ _ below above => utf8_injective (List.le_antisymm below above)⟩

instance : Std.Total ByteLe := ⟨fun s t => List.le_total (utf8 s) (utf8 t)⟩

theorem byteLe_of_lt {s t : String} (less : s < t) : ByteLe s t :=
  List.le_of_lt (utf8_lt_utf8 less)

end Countersign
