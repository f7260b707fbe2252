import Countersign.Json.Token

/-!
# Quoted texts are read back

Whatever characters a text holds, the machine gives it back from its quoted form.  The proof follows
the text character by character: what is written for a character stands for the character's UTF-8
bytes, and standing for bytes is closed under putting texts together.
-/

namespace Countersign.Json

open Token

/-- Between quotes, reading `written` adds the bytes `meant`. -/
def StandsFor (written meant : Bytes) : Prop :=
  ∃ ps : List Piece,
    (∀ before rest, scanFrom (.text before) (written ++ rest) =
      scanFrom (.text (ps.reverse ++ before)) rest) ∧
    ∀ rest, Quoted.join? (ps ++ rest) = (Quoted.join? rest).map (meant ++ ·)

namespace StandsFor

theorem nil : StandsFor [] [] :=
  ⟨[], fun _ _ => rfl, fun rest => by simp⟩

theorem append {written meant written' meant' : Bytes} (h : StandsFor written meant)
    (h' : StandsFor written' meant') : StandsFor (written ++ written') (meant ++ meant') := by
  obtain ⟨ps, scanned, joined⟩ := h
  obtain ⟨ps', scanned', joined'⟩ := h'
  refine ⟨ps ++ ps', ?_, ?_⟩
  · intro before rest
    rw [List.append_assoc, scanned, scanned', List.reverse_append, List.append_assoc]
  · intro rest
    rw [List.append_assoc, joined, joined', Option.map_map]
    simp [Function.comp_def]

/-! ## Single elements -/

theorem byte {c : UInt8} (low : 32 ≤ c) (quote : c ≠ 34) (backslash : c ≠ 92) :
    StandsFor [c] [c] := by
  have printable : ¬ c < 32 := UInt8.not_lt.2 low
  refine ⟨[.byte c], ?_, ?_⟩
  · intro before rest
    simp [scanFrom, Mode.step, stepText, quote, backslash, printable]
  · intro rest
    simp [Quoted.join?]

theorem bytes {cs : Bytes} (h : ∀ c ∈ cs, 32 ≤ c ∧ c ≠ 34 ∧ c ≠ 92) : StandsFor cs cs := by
  induction cs with
  | nil => exact nil
  | cons c cs ih =>
      obtain ⟨low, quote, backslash⟩ := h c List.mem_cons_self
      exact (byte low quote backslash).append (ih fun d hd => h d (List.mem_cons_of_mem _ hd))

theorem shortEscape {c b : UInt8} (h : Quoted.shortEscape? c = some b) (notUnit : c ≠ 117) :
    StandsFor [92, c] [b] := by
  refine ⟨[.byte b], ?_, ?_⟩
  · intro before rest
    simp [scanFrom, Mode.step, stepText, stepEscape, h, notUnit]
  · intro rest
    simp [Quoted.join?]

private theorem join?_unit {u : Nat} (h : u < 0xD800) (rest : List Piece) :
    Quoted.join? (.unit u :: rest) =
      (Quoted.join? rest).map (String.utf8EncodeChar (Char.ofNat u) ++ ·) := by
  have high : Quoted.isHighSurrogate u = false := by
    simp [Quoted.isHighSurrogate]
    omega
  have low : Quoted.isLowSurrogate u = false := by
    simp [Quoted.isLowSurrogate]
    omega
  rcases rest with _ | ⟨first, rest⟩
  · simp [Quoted.join?, high, low]
  · cases first with
    | byte b => simp [Quoted.join?, high, low]
    | unit v => simp [Quoted.join?, high, low]

theorem hexValue?_hexDigit {n : Nat} (h : n < 16) :
    ∃ c, String.utf8EncodeChar (hexDigit n) = [c] ∧ hexValue? c = some n := by
  have all : ∀ m : Fin 16,
      (String.utf8EncodeChar (hexDigit m.val)).map hexValue? = [some m.val] := by
    decide +kernel
  exact List.map_eq_singleton_iff.1 (all ⟨n, h⟩)

theorem longEscape {n : Nat} (h : n < 256) :
    StandsFor ([92, 117, 48, 48] ++ String.utf8EncodeChar (hexDigit (n / 16)) ++
      String.utf8EncodeChar (hexDigit (n % 16))) (String.utf8EncodeChar (Char.ofNat n)) := by
  obtain ⟨a, ea, va⟩ := hexValue?_hexDigit (n := n / 16) (by omega)
  obtain ⟨b, eb, vb⟩ := hexValue?_hexDigit (n := n % 16) (by omega)
  have zero : hexValue? 48 = some 0 := by decide
  have value : n / 16 * 16 + n % 16 = n := by omega
  refine ⟨[.unit n], ?_, fun rest => join?_unit (by omega) rest⟩
  intro before rest
  simp [ea, eb, scanFrom, Mode.step, stepText, stepEscape, stepHex, zero, va, vb, value]

/-! ## Characters and texts -/

private theorem utf8EncodeChar_printable {c : Char} (low : 32 ≤ c.toNat) (quote : c ≠ '"')
    (backslash : c ≠ '\\') :
    ∀ b ∈ String.utf8EncodeChar c, 32 ≤ b ∧ b ≠ 34 ∧ b ≠ 92 := by
  have notQuote : c.toNat ≠ 34 := fun h => quote (by rw [← Char.ofNat_toNat c, h])
  have notBackslash : c.toNat ≠ 92 := fun h => backslash (by rw [← Char.ofNat_toNat c, h])
  have high {n : Nat} (h : 128 ≤ n) (h' : n < 256) :
      32 ≤ UInt8.ofNat n ∧ UInt8.ofNat n ≠ 34 ∧ UInt8.ofNat n ≠ 92 := by
    have value : (UInt8.ofNat n).toNat = n := UInt8.toNat_ofNat_of_lt h'
    simp only [UInt8.le_iff_toNat_le, ne_eq, ← UInt8.toNat_inj, value, UInt8.reduceToNat]
    omega
  fun_cases String.utf8EncodeChar c
  · rename_i v ascii
    intro b hb
    rw [List.mem_singleton.1 hb]
    have value : (UInt8.ofNat v).toNat = v := UInt8.toNat_ofNat_of_lt (by simp [UInt8.size]; omega)
    simp only [UInt8.le_iff_toNat_le, ne_eq, ← UInt8.toNat_inj, value, UInt8.reduceToNat]
    exact ⟨low, notQuote, notBackslash⟩
  · intro b hb
    simp only [List.mem_cons, List.not_mem_nil, or_false] at hb
    rcases hb with rfl | rfl <;> exact high (by omega) (by omega)
  · intro b hb
    simp only [List.mem_cons, List.not_mem_nil, or_false] at hb
    rcases hb with rfl | rfl | rfl <;> exact high (by omega) (by omega)
  · intro b hb
    simp only [List.mem_cons, List.not_mem_nil, or_false] at hb
    rcases hb with rfl | rfl | rfl | rfl <;> exact high (by omega) (by omega)

theorem escape (c : Char) : StandsFor (utf8 (Quoted.escape c)) (String.utf8EncodeChar c) := by
  unfold Quoted.escape
  split
  · rename_i h
    subst h
    exact shortEscape (c := 34) (by decide) (by decide)
  split
  · rename_i h
    subst h
    exact shortEscape (c := 92) (by decide) (by decide)
  split
  · rename_i h
    subst h
    exact shortEscape (c := 110) (by decide) (by decide)
  split
  · rename_i h
    subst h
    exact shortEscape (c := 114) (by decide) (by decide)
  split
  · rename_i h
    subst h
    exact shortEscape (c := 116) (by decide) (by decide)
  split
  · rename_i h
    rw [← Char.ofNat_toNat c, h]
    exact shortEscape (c := 98) (by decide) (by decide)
  split
  · rename_i h
    rw [← Char.ofNat_toNat c, h]
    exact shortEscape (c := 102) (by decide) (by decide)
  split
  · rename_i low
    have written := longEscape (n := c.toNat) (by omega)
    rw [Char.ofNat_toNat] at written
    have start : utf8 "\\u00" = [92, 117, 48, 48] := by decide
    rw [utf8_append, start, utf8_ofList]
    simpa using written
  · rename_i quote backslash _ _ _ _ _ low
    have printable := utf8EncodeChar_printable (Nat.le_of_not_lt low) quote backslash
    rw [utf8_eq_flatMap, String.toList_singleton, List.flatMap_singleton]
    exact bytes printable

theorem escapeAll (cs : List Char) :
    StandsFor (utf8 (Quoted.escapeAll cs)) (cs.flatMap String.utf8EncodeChar) := by
  induction cs with
  | nil => exact nil
  | cons c cs ih =>
      have written : utf8 (Quoted.escapeAll (c :: cs)) =
          utf8 (Quoted.escape c) ++ utf8 (Quoted.escapeAll cs) := by
        simp [Quoted.escapeAll]
      rw [written, List.flatMap_cons]
      exact (escape c).append ih

end StandsFor

theorem scan_quote (s : String) (rest : Bytes) :
    scanFrom .gap (utf8 (quote s) ++ rest) = .string (some s) :: scanFrom .gap rest := by
  obtain ⟨ps, scanned, joined⟩ := StandsFor.escapeAll s.toList
  have written : utf8 (quote s) = 34 :: (utf8 (Quoted.escapeAll s.toList) ++ [34]) := by
    have mark : utf8 "\"" = [34] := by decide
    rw [quote, utf8_append, utf8_append, mark]
    rfl
  have meant : Quoted.text? ps = some s := by
    have all := joined []
    rw [List.append_nil, ← utf8_eq_flatMap] at all
    simp [Quoted.text?, all, Quoted.join?]
  rw [written]
  simp [scanFrom, Mode.step, stepGap, isBlank, scanned, stepText, meant]

end Countersign.Json
