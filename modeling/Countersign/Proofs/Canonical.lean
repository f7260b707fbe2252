import Countersign.Proofs.Results

/-!
# Base64url texts are canonical

Every byte string has exactly one base64url text.  Writing and reading are inverse to each other, so
a text that was accepted is the text that would be written again, and it holds nothing but symbols
of the alphabet.
-/

namespace Countersign

/-! ## ASCII texts -/

theorem utf8EncodeChar_of_lt {c : UInt8} (h : c < 128) :
    String.utf8EncodeChar (Char.ofNat c.toNat) = [c] := by
  have all : ∀ n : Fin 128,
      String.utf8EncodeChar (Char.ofNat n.val) = [UInt8.ofNat n.val] := by
    decide +kernel
  have hn : c.toNat < 128 := UInt8.lt_iff_toNat_lt.1 h
  simpa using all ⟨c.toNat, hn⟩

theorem utf8_ofAscii {b : Bytes} (h : ∀ c ∈ b, c < 128) : utf8 (ofAscii b) = b := by
  rw [ofAscii, utf8_ofList]
  induction b with
  | nil => rfl
  | cons c rest ih =>
      have first := utf8EncodeChar_of_lt (h c List.mem_cons_self)
      have others := ih fun d hd => h d (List.mem_cons_of_mem _ hd)
      rw [List.map_cons, List.flatMap_cons, first, others]
      rfl

namespace Base64Url

/-! ## Symbols -/

theorem symbol_lt {n : Nat} (h : n < 64) : symbol n < 128 := by
  have all : ∀ m : Fin 64, symbol m < 128 := by decide
  exact all ⟨n, h⟩

theorem value?_eq_some {c : UInt8} {n : Nat} : value? c = some n ↔ n < 64 ∧ c = symbol n := by
  constructor
  · intro h
    exact ⟨value?_lt h, (symbol_of_value? h).symm⟩
  · rintro ⟨h, rfl⟩
    exact value?_symbol h

theorem symbol_ne_pad {n : Nat} (h : n < 64) : symbol n ≠ pad := by
  have all : ∀ m : Fin 64, symbol m ≠ pad := by decide
  exact all ⟨n, h⟩

theorem mem_encodeBytes {b : Bytes} {c : UInt8} (h : c ∈ encodeBytes b) :
    ∃ n < 64, c = symbol n := by
  have small (x : UInt8) : x.toNat < 256 := x.toNat_lt
  fun_induction encodeBytes b with
  | case1 => simp at h
  | case2 x =>
      have := small x
      simp only [List.mem_cons, List.not_mem_nil, or_false] at h
      rcases h with rfl | rfl <;> exact ⟨_, by omega, rfl⟩
  | case3 x y =>
      have := small x
      have := small y
      simp only [List.mem_cons, List.not_mem_nil, or_false] at h
      rcases h with rfl | rfl | rfl <;> exact ⟨_, by omega, rfl⟩
  | case4 x y z rest ih =>
      have := small x
      have := small y
      have := small z
      simp only [List.mem_cons] at h
      rcases h with rfl | rfl | rfl | rfl | h
      · exact ⟨_, by omega, rfl⟩
      · exact ⟨_, by omega, rfl⟩
      · exact ⟨_, by omega, rfl⟩
      · exact ⟨_, by omega, rfl⟩
      · exact ih h

@[simp] theorem utf8_encode (b : Bytes) : utf8 (encode b) = encodeBytes b := by
  apply utf8_ofAscii
  intro c hc
  obtain ⟨n, hn, rfl⟩ := mem_encodeBytes hc
  exact symbol_lt hn

/-- No text holds a dot, so dots tell texts apart. -/
theorem dot_notMem_encodeBytes (b : Bytes) : 46 ∉ encodeBytes b := by
  have all : ∀ m : Fin 64, (46 : UInt8) ≠ symbol m := by decide
  intro dot
  obtain ⟨n, hn, same⟩ := mem_encodeBytes dot
  exact all ⟨n, hn⟩ same

/-! ## Groups -/

private theorem toNat_first {a b : Nat} (ha : a < 64) (hb : b < 64) :
    (UInt8.ofNat (a * 4 + b / 16)).toNat = a * 4 + b / 16 :=
  UInt8.toNat_ofNat_of_lt (by simp [UInt8.size]; omega)

private theorem toNat_second {b c : Nat} (hc : c < 64) :
    (UInt8.ofNat (b % 16 * 16 + c / 4)).toNat = b % 16 * 16 + c / 4 :=
  UInt8.toNat_ofNat_of_lt (by simp [UInt8.size]; omega)

private theorem toNat_third {c d : Nat} (hd : d < 64) :
    (UInt8.ofNat (c % 4 * 64 + d)).toNat = c % 4 * 64 + d :=
  UInt8.toNat_ofNat_of_lt (by simp [UInt8.size]; omega)

theorem encodeBytes_two {a b : Nat} (ha : a < 64) (hb : b < 64) (low : b % 16 = 0) :
    encodeBytes [UInt8.ofNat (a * 4 + b / 16)] = [symbol a, symbol b] := by
  have ea : (a * 4 + b / 16) / 4 = a := by omega
  have eb : (a * 4 + b / 16) % 4 * 16 = b := by omega
  rw [encodeBytes, toNat_first ha hb, ea, eb]

theorem encodeBytes_three {a b c : Nat} (ha : a < 64) (hb : b < 64) (hc : c < 64)
    (low : c % 4 = 0) :
    encodeBytes [UInt8.ofNat (a * 4 + b / 16), UInt8.ofNat (b % 16 * 16 + c / 4)] =
      [symbol a, symbol b, symbol c] := by
  have ea : (a * 4 + b / 16) / 4 = a := by omega
  have eb : (a * 4 + b / 16) % 4 * 16 + (b % 16 * 16 + c / 4) / 16 = b := by omega
  have ec : (b % 16 * 16 + c / 4) % 16 * 4 = c := by omega
  rw [encodeBytes, toNat_first ha hb, toNat_second hc, ea, eb, ec]

theorem encodeBytes_four {a b c d : Nat} (ha : a < 64) (hb : b < 64) (hc : c < 64) (hd : d < 64)
    (rest : Bytes) :
    encodeBytes (UInt8.ofNat (a * 4 + b / 16) :: UInt8.ofNat (b % 16 * 16 + c / 4) ::
        UInt8.ofNat (c % 4 * 64 + d) :: rest) =
      symbol a :: symbol b :: symbol c :: symbol d :: encodeBytes rest := by
  have ea : (a * 4 + b / 16) / 4 = a := by omega
  have eb : (a * 4 + b / 16) % 4 * 16 + (b % 16 * 16 + c / 4) / 16 = b := by omega
  have ec : (b % 16 * 16 + c / 4) % 16 * 4 + (c % 4 * 64 + d) / 64 = c := by omega
  have ed : (c % 4 * 64 + d) % 64 = d := by omega
  rw [encodeBytes, toNat_first ha hb, toNat_second hc, toNat_third hd, ea, eb, ec, ed]

/-! ## Reading what was written -/

@[simp] theorem readSymbol_symbol (offset : Nat) {n : Nat} (h : n < 64) :
    readSymbol offset (symbol n) = .ok n := by
  simp [readSymbol, value?_symbol h]

theorem scanLast_symbols (offset i : Nat) {ns : List Nat} (h : ∀ n ∈ ns, n < 64) :
    scanLast offset i none (ns.map symbol) = .ok (ns, none) := by
  induction ns generalizing i with
  | nil => rfl
  | cons n ns ih =>
      have hn : n < 64 := h n List.mem_cons_self
      have others := ih (i + 1) fun m hm => h m (List.mem_cons_of_mem _ hm)
      rw [List.map_cons, scanLast, if_neg (symbol_ne_pad hn)]
      simp [hn, others]

theorem decodeLast_symbols (offset : Nat) {ns : List Nat} (h : ∀ n ∈ ns, n < 64)
    (two : 2 ≤ ns.length) :
    decodeLast offset (ns.map symbol) = joinLast offset ((ns.map symbol).getLastD 0) ns := by
  have enough : ¬ ns.length < 2 := by omega
  rw [decodeLast, scanLast_symbols offset 0 h, ok_bind]
  simp only [if_neg enough, Option.isSome_none, Bool.false_eq_true, if_false]

private theorem decodeLast_one (offset : Nat) (x : UInt8) :
    decodeLast offset (encodeBytes [x]) = .ok [x] := by
  have hx : x.toNat < 256 := x.toNat_lt
  have ns : ∀ n ∈ [x.toNat / 4, x.toNat % 4 * 16], n < 64 := by
    simp
    omega
  have low : x.toNat % 4 * 16 % 16 = 0 := by omega
  have ex : x.toNat / 4 * 4 + x.toNat % 4 * 16 / 16 = x.toNat := by omega
  have joined := decodeLast_symbols offset ns (by simp)
  rw [joinLast, if_pos low, ex, UInt8.ofNat_toNat] at joined
  exact joined

private theorem decodeLast_two (offset : Nat) (x y : UInt8) :
    decodeLast offset (encodeBytes [x, y]) = .ok [x, y] := by
  have hx : x.toNat < 256 := x.toNat_lt
  have hy : y.toNat < 256 := y.toNat_lt
  have ns : ∀ n ∈ [x.toNat / 4, x.toNat % 4 * 16 + y.toNat / 16, y.toNat % 16 * 4], n < 64 := by
    simp
    omega
  have low : y.toNat % 16 * 4 % 4 = 0 := by omega
  have ex : x.toNat / 4 * 4 + (x.toNat % 4 * 16 + y.toNat / 16) / 16 = x.toNat := by omega
  have ey : (x.toNat % 4 * 16 + y.toNat / 16) % 16 * 16 + y.toNat % 16 * 4 / 4 = y.toNat := by
    omega
  have joined := decodeLast_symbols offset ns (by simp)
  rw [joinLast, if_pos low, ex, ey, UInt8.ofNat_toNat, UInt8.ofNat_toNat] at joined
  exact joined

private theorem four_numbers (x y z : UInt8) :
    ∃ a b c d, a < 64 ∧ b < 64 ∧ c < 64 ∧ d < 64 ∧
      UInt8.ofNat (a * 4 + b / 16) = x ∧ UInt8.ofNat (b % 16 * 16 + c / 4) = y ∧
      UInt8.ofNat (c % 4 * 64 + d) = z := by
  have hx : x.toNat < 256 := x.toNat_lt
  have hy : y.toNat < 256 := y.toNat_lt
  have hz : z.toNat < 256 := z.toNat_lt
  have ex : x.toNat / 4 * 4 + (x.toNat % 4 * 16 + y.toNat / 16) / 16 = x.toNat := by omega
  have ey : (x.toNat % 4 * 16 + y.toNat / 16) % 16 * 16 + (y.toNat % 16 * 4 + z.toNat / 64) / 4 =
      y.toNat := by omega
  have ez : (y.toNat % 16 * 4 + z.toNat / 64) % 4 * 64 + z.toNat % 64 = z.toNat := by omega
  refine ⟨x.toNat / 4, x.toNat % 4 * 16 + y.toNat / 16, y.toNat % 16 * 4 + z.toNat / 64,
    z.toNat % 64, by omega, by omega, by omega, by omega, ?_, ?_, ?_⟩
  · rw [ex, UInt8.ofNat_toNat]
  · rw [ey, UInt8.ofNat_toNat]
  · rw [ez, UInt8.ofNat_toNat]

theorem encodeBytes_ne_nil {b : Bytes} (h : b ≠ []) : encodeBytes b ≠ [] := by
  fun_cases encodeBytes b <;> simp_all

theorem decodeGroups_encodeBytes (offset : Nat) {b : Bytes} (some : b ≠ []) :
    decodeGroups offset (encodeBytes b) = .ok b := by
  induction b using encodeBytes.induct generalizing offset with
  | case1 => exact absurd rfl some
  | case2 x => exact decodeLast_one offset x
  | case3 x y => exact decodeLast_two offset x y
  | case4 x y z rest ih =>
      obtain ⟨a, b, c, d, ha, hb, hc, hd, rfl, rfl, rfl⟩ := four_numbers x y z
      rw [encodeBytes_four ha hb hc hd]
      cases rest with
      | nil =>
          have ns : ∀ n ∈ [a, b, c, d], n < 64 := by
            simp
            omega
          exact decodeLast_symbols offset ns (by simp)
      | cons w rest =>
          have tail := ih (offset + 4) (List.cons_ne_nil w rest)
          obtain ⟨s, more, split⟩ := List.exists_cons_of_ne_nil
            (encodeBytes_ne_nil (List.cons_ne_nil w rest))
          rw [split] at tail ⊢
          simp [decodeGroups, ha, hb, hc, hd, tail]

theorem strayEnd?_encodeBytes (b : Bytes) : strayEnd? (encodeBytes b) = none := by
  unfold strayEnd?
  split
  · rename_i c last
    obtain ⟨n, hn, rfl⟩ := mem_encodeBytes (List.mem_of_getLast? last)
    simp [value?_symbol hn]
  · rfl

@[simp] theorem decode_encode (b : Bytes) : decode (encode b) = .ok b := by
  rw [decode, utf8_encode, decodeBytes, strayEnd?_encodeBytes]
  cases b with
  | nil => rfl
  | cons x rest =>
      have filled : encodeBytes (x :: rest) ≠ [] := encodeBytes_ne_nil (List.cons_ne_nil x rest)
      simp [filled, decodeGroups_encodeBytes]

/-! ## Writing what was read -/

theorem readSymbol_eq_ok {offset : Nat} {c : UInt8} {n : Nat} :
    readSymbol offset c = .ok n ↔ n < 64 ∧ c = symbol n := by
  rw [← value?_eq_some, readSymbol]
  cases value? c <;> simp

/-- An `=` that was passed over stays on record. -/
private theorem scanLast_pad {offset i p : Nat} {group : Bytes} {ns : List Nat} {q : Option Nat}
    (h : scanLast offset i (some p) group = .ok (ns, q)) : q.isSome := by
  induction group generalizing i with
  | nil =>
      simp only [scanLast, Except.ok.injEq, Prod.mk.injEq] at h
      simp [← h.2]
  | cons c rest ih =>
      rw [scanLast] at h
      split at h
      · split at h
        · cases h
        · exact ih h
      · cases h

theorem eq_symbols_of_scanLast {offset i : Nat} {group : Bytes} {ns : List Nat}
    (h : scanLast offset i none group = .ok (ns, none)) :
    group = ns.map symbol ∧ ∀ n ∈ ns, n < 64 := by
  induction group generalizing i ns with
  | nil =>
      simp only [scanLast, Except.ok.injEq, Prod.mk.injEq] at h
      simp [← h.1]
  | cons c rest ih =>
      rw [scanLast] at h
      split at h
      · split at h
        · cases h
        · exact absurd (scanLast_pad h) (by simp)
      · obtain ⟨n, read, h⟩ := bind_eq_ok.1 h
        obtain ⟨⟨others, q⟩, scanned, h⟩ := bind_eq_ok.1 h
        cases h
        obtain ⟨hn, rfl⟩ := readSymbol_eq_ok.1 read
        obtain ⟨rfl, small⟩ := ih scanned
        exact ⟨rfl, by simpa using ⟨hn, small⟩⟩

theorem eq_encodeBytes_of_joinLast {offset : Nat} {last : UInt8} {ns : List Nat} {b : Bytes}
    (small : ∀ n ∈ ns, n < 64) (h : joinLast offset last ns = .ok b) :
    ns.map symbol = encodeBytes b := by
  simp only [joinLast] at h
  split at h
  · rename_i m n
    split at h
    · cases h
      rename_i low
      exact (encodeBytes_two (small m (by simp)) (small n (by simp)) low).symm
    · cases h
  · rename_i m n o
    split at h
    · cases h
      rename_i low
      exact (encodeBytes_three (small m (by simp)) (small n (by simp)) (small o (by simp))
        low).symm
    · cases h
  · rename_i m n o p
    cases h
    exact (encodeBytes_four (small m (by simp)) (small n (by simp)) (small o (by simp))
      (small p (by simp)) []).symm
  · cases h

theorem eq_encodeBytes_of_decodeLast {offset : Nat} {group b : Bytes}
    (h : decodeLast offset group = .ok b) : group = encodeBytes b := by
  obtain ⟨⟨ns, firstPad⟩, scanned, h⟩ := bind_eq_ok.1 h
  by_cases two : ns.length < 2
  · simp [two] at h
  · cases firstPad with
    | some p => simp [two] at h
    | none =>
        obtain ⟨rfl, small⟩ := eq_symbols_of_scanLast scanned
        simp only [if_neg two, Option.isSome_none, Bool.false_eq_true, if_false] at h
        exact eq_encodeBytes_of_joinLast small h

theorem eq_encodeBytes_of_decodeGroups {offset : Nat} {text b : Bytes}
    (h : decodeGroups offset text = .ok b) : text = encodeBytes b := by
  fun_induction decodeGroups offset text generalizing b with
  | case1 offset p q r s t rest ih =>
      obtain ⟨a, hp, h⟩ := bind_eq_ok.1 h
      obtain ⟨b, hq, h⟩ := bind_eq_ok.1 h
      obtain ⟨c, hr, h⟩ := bind_eq_ok.1 h
      obtain ⟨d, hs, h⟩ := bind_eq_ok.1 h
      obtain ⟨tail, ht, h⟩ := bind_eq_ok.1 h
      cases h
      obtain ⟨ha, rfl⟩ := readSymbol_eq_ok.1 hp
      obtain ⟨hb, rfl⟩ := readSymbol_eq_ok.1 hq
      obtain ⟨hc, rfl⟩ := readSymbol_eq_ok.1 hr
      obtain ⟨hd, rfl⟩ := readSymbol_eq_ok.1 hs
      rw [encodeBytes_four ha hb hc hd, ← ih ht]
  | case2 offset group => exact eq_encodeBytes_of_decodeLast h

/-- Reading accepts exactly what writing produces. -/
theorem decode_eq_ok_iff {text : String} {b : Bytes} : decode text = .ok b ↔ text = encode b := by
  constructor
  · intro h
    apply utf8_injective
    rw [utf8_encode]
    rw [decode, decodeBytes] at h
    split at h
    · cases h
    · split at h
      · rename_i empty
        cases h
        exact List.isEmpty_iff.1 empty
      · exact eq_encodeBytes_of_decodeGroups h
  · rintro rfl
    exact decode_encode b

end Base64Url

@[simp] theorem decodeText_encode (b : Bytes) : decodeText (Base64Url.encode b) = .ok b :=
  decodeText_eq_ok.2 (Base64Url.decode_encode b)

theorem eq_encode_of_decodeText {text : String} {b : Bytes} (h : decodeText text = .ok b) :
    text = Base64Url.encode b :=
  Base64Url.decode_eq_ok_iff.1 (decodeText_eq_ok.1 h)

end Countersign
