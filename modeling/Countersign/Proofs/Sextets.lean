import Countersign.Crypto.PrimeField
import Countersign.Proofs.Canonical
import Mathlib.Algebra.Group.Nat.Defs

/-!
# Which texts are base64url

A text spells a byte string where its letters, six bits each, make up the bits of the bytes with
fewer than six zeros behind them.  Reading accepts exactly these texts.  What it refuses has one of
three faults: a character that is no letter, a length that no byte string has, or a last letter with
bits beyond the last byte.
-/

namespace Countersign.Base64Url

open Crypto.PrimeField (bitsDown)

/-! ## Bits of numbers -/

@[simp] theorem length_bitsDown (len n : Nat) : (bitsDown len n).length = len := by
  induction len with
  | zero => rfl
  | succ len ih => rw [bitsDown, List.length_cons, ih]

theorem bitsDown_zero (len : Nat) : bitsDown len 0 = List.replicate len false := by
  induction len with
  | zero => rfl
  | succ len ih => rw [bitsDown, ih, Nat.zero_testBit, List.replicate_succ]

theorem bitsDown_mod {len width : Nat} (fits : len ≤ width) (n : Nat) :
    bitsDown len (n % 2 ^ width) = bitsDown len n := by
  induction len with
  | zero => rfl
  | succ len ih =>
      have inside : len < width := fits
      rw [bitsDown, bitsDown, ih (by omega), Nat.testBit_mod_two_pow, decide_eq_true inside,
        Bool.true_and]

theorem bitsDown_add (upper lower n : Nat) :
    bitsDown (upper + lower) n = bitsDown upper (n / 2 ^ lower) ++ bitsDown lower n := by
  induction upper with
  | zero => rw [Nat.zero_add, bitsDown, List.nil_append]
  | succ upper ih =>
      rw [Nat.succ_add, bitsDown, bitsDown, ih, Nat.testBit_div_two_pow, List.cons_append]

theorem bitsDown_join {upper lower high low n : Nat} (small : low < 2 ^ lower)
    (split : n = high * 2 ^ lower + low) :
    bitsDown (upper + lower) n = bitsDown upper high ++ bitsDown lower low := by
  subst split
  rw [bitsDown_add, ← bitsDown_mod (Nat.le_refl lower) (high * 2 ^ lower + low)]
  congr 2
  · rw [Nat.mul_comm, Nat.mul_add_div (Nat.two_pow_pos lower), Nat.div_eq_of_lt small,
      Nat.add_zero]
  · rw [Nat.mul_comm, Nat.mul_add_mod, Nat.mod_eq_of_lt small]

theorem bitsDown_shift (upper lower high : Nat) :
    bitsDown (upper + lower) (high * 2 ^ lower) =
      bitsDown upper high ++ List.replicate lower false := by
  rw [bitsDown_join (Nat.two_pow_pos lower) (Nat.add_zero _).symm, bitsDown_zero]

theorem bitsDown_injective {len m n : Nat} (hm : m < 2 ^ len) (hn : n < 2 ^ len)
    (same : bitsDown len m = bitsDown len n) : m = n := by
  have within (k : Nat) (hk : k < len) : m.testBit k = n.testBit k := by
    clear hm hn
    induction len with
    | zero => omega
    | succ len ih =>
        obtain ⟨first, others⟩ := List.cons.inj same
        by_cases last : k = len
        · rw [last, first]
        · exact ih others (by omega)
  refine Nat.eq_of_testBit_eq fun k => ?_
  by_cases hk : k < len
  · exact within k hk
  · have beyond : 2 ^ len ≤ 2 ^ k := Nat.pow_le_pow_right (by decide) (by omega)
    rw [Nat.testBit_lt_two_pow (by omega), Nat.testBit_lt_two_pow (by omega)]

/-! ## Letters -/

def letters : List Char := "ABCDEFGHIJKLMNOPQRSTUVWXYZabcdefghijklmnopqrstuvwxyz0123456789-_".toList

def Letter (c : Char) (n : Nat) : Prop := letters[n]? = some c

theorem letter_iff {c : Char} {n : Nat} :
    Letter c n ↔ n < 64 ∧ c = Char.ofNat (symbol n).toNat := by
  have all : ∀ m : Fin 64, letters[m.val]? = some (Char.ofNat (symbol m).toNat) := by
    decide +kernel
  have count : letters.length = 64 := by decide +kernel
  unfold Letter
  constructor
  · intro h
    have small : n < 64 := by
      rw [← count]
      exact (List.getElem?_eq_some_iff.1 h).1
    exact ⟨small, Option.some.inj (h.symm.trans (all ⟨n, small⟩))⟩
  · rintro ⟨small, rfl⟩
    exact all ⟨n, small⟩

def spell (ns : List Nat) : String := ofAscii (ns.map symbol)

theorem toList_spell (ns : List Nat) :
    (spell ns).toList = ns.map fun n => Char.ofNat (symbol n).toNat := by
  rw [spell, ofAscii, String.toList_ofList, List.map_map]
  rfl

theorem forall₂_letter_iff {cs : List Char} {ns : List Nat} :
    List.Forall₂ Letter cs ns ↔
      (∀ n ∈ ns, n < 64) ∧ cs = ns.map fun n => Char.ofNat (symbol n).toNat := by
  induction ns generalizing cs with
  | nil => simp
  | cons n ns ih =>
      rw [List.forall₂_cons_right_iff]
      simp only [letter_iff, ih, List.forall_mem_cons, List.map_cons]
      constructor
      · rintro ⟨c, cs, ⟨small, rfl⟩, ⟨others, rfl⟩, rfl⟩
        exact ⟨⟨small, others⟩, rfl⟩
      · rintro ⟨⟨small, others⟩, rfl⟩
        exact ⟨_, _, ⟨small, rfl⟩, ⟨others, rfl⟩, rfl⟩

theorem spelled_iff {text : String} {ns : List Nat} :
    List.Forall₂ Letter text.toList ns ↔ (∀ n ∈ ns, n < 64) ∧ text = spell ns := by
  rw [forall₂_letter_iff, ← toList_spell, String.toList_inj]

/-! ## The letters of a byte string -/

def bits (b : Bytes) : List Bool := b.flatMap fun x => bitsDown 8 x.toNat

/-- The text spells the bytes: its letters hold the bits of the bytes, and behind them only as many
zeros as the last letter needs to be full. -/
def Spells (text : String) (b : Bytes) : Prop :=
  ∃ ns zeros, List.Forall₂ Letter text.toList ns ∧ zeros < 6 ∧
    ns.flatMap (bitsDown 6) = bits b ++ List.replicate zeros false

/-- Numbers that the letters of some byte string stand for: groups of four, and a last group of two
or three whose last number has zeros where no byte reaches. -/
def Whole : List Nat → Prop
  | [] => True
  | [_] => False
  | [_, b] => b % 16 = 0
  | [_, _, c] => c % 4 = 0
  | _ :: _ :: _ :: _ :: rest => Whole rest

private theorem byte_first (x : Nat) :
    bitsDown (6 + 2) x = bitsDown 6 (x / 4) ++ bitsDown 2 (x % 4) :=
  bitsDown_join (by omega) (by omega)

private theorem byte_second (y : Nat) :
    bitsDown (4 + 4) y = bitsDown 4 (y / 16) ++ bitsDown 4 (y % 16) :=
  bitsDown_join (by omega) (by omega)

private theorem byte_third (z : Nat) :
    bitsDown (2 + 6) z = bitsDown 2 (z / 64) ++ bitsDown 6 (z % 64) :=
  bitsDown_join (by omega) (by omega)

private theorem sextet_second {a b : Nat} (h : b < 16) :
    bitsDown (2 + 4) (a * 16 + b) = bitsDown 2 a ++ bitsDown 4 b :=
  bitsDown_join h rfl

private theorem sextet_third {a b : Nat} (h : b < 4) :
    bitsDown (4 + 2) (a * 4 + b) = bitsDown 4 a ++ bitsDown 2 b :=
  bitsDown_join h rfl

theorem encodeBytes_eq_map (b : Bytes) : ∃ ns zeros, encodeBytes b = ns.map symbol ∧
    (∀ n ∈ ns, n < 64) ∧ Whole ns ∧ zeros < 6 ∧
    ns.flatMap (bitsDown 6) = bits b ++ List.replicate zeros false := by
  have small (x : UInt8) : x.toNat < 256 := x.toNat_lt
  induction b using encodeBytes.induct with
  | case1 => exact ⟨[], 0, rfl, by simp, trivial, by omega, rfl⟩
  | case2 x =>
      have := small x
      have last : bitsDown 6 (x.toNat % 4 * 16) = _ := bitsDown_shift 2 4 (x.toNat % 4)
      have whole : Whole [x.toNat / 4, x.toNat % 4 * 16] := by
        rw [Whole]
        omega
      refine ⟨[x.toNat / 4, x.toNat % 4 * 16], 4, rfl, by simp; omega, whole, by omega, ?_⟩
      simp [bits, byte_first, last]
  | case3 x y =>
      have := small x
      have := small y
      have middle := sextet_second (a := x.toNat % 4) (b := y.toNat / 16) (by omega)
      have last : bitsDown 6 (y.toNat % 16 * 4) = _ := bitsDown_shift 4 2 (y.toNat % 16)
      have whole : Whole [x.toNat / 4, x.toNat % 4 * 16 + y.toNat / 16, y.toNat % 16 * 4] := by
        rw [Whole]
        omega
      refine ⟨[x.toNat / 4, x.toNat % 4 * 16 + y.toNat / 16, y.toNat % 16 * 4], 2, rfl,
        by simp; omega, whole, by omega, ?_⟩
      simp [bits, byte_first x.toNat, byte_second y.toNat, middle, last]
  | case4 x y z rest ih =>
      have := small x
      have := small y
      have := small z
      obtain ⟨ns, zeros, written, below, whole, fewer, same⟩ := ih
      have second := sextet_second (a := x.toNat % 4) (b := y.toNat / 16) (by omega)
      have third := sextet_third (a := y.toNat % 16) (b := z.toNat / 64) (by omega)
      refine ⟨x.toNat / 4 :: (x.toNat % 4 * 16 + y.toNat / 16) ::
        (y.toNat % 16 * 4 + z.toNat / 64) :: z.toNat % 64 :: ns, zeros, ?_, ?_, whole, fewer, ?_⟩
      · simp [encodeBytes, written]
      · simp only [List.forall_mem_cons]
        exact ⟨by omega, by omega, by omega, by omega, below⟩
      · rw [bits] at same
        simp [bits, byte_first x.toNat, byte_second y.toNat, byte_third z.toNat, second, third,
          same]

theorem encode_eq_spell (b : Bytes) : ∃ ns zeros, encode b = spell ns ∧ (∀ n ∈ ns, n < 64) ∧
    Whole ns ∧ zeros < 6 ∧ ns.flatMap (bitsDown 6) = bits b ++ List.replicate zeros false := by
  obtain ⟨ns, zeros, written, rest⟩ := encodeBytes_eq_map b
  exact ⟨ns, zeros, by rw [encode, spell, written], rest⟩

theorem encode_of_whole {ns : List Nat} (small : ∀ n ∈ ns, n < 64) (whole : Whole ns) :
    ∃ b, encode b = spell ns := by
  have bytes : ∃ b, encodeBytes b = ns.map symbol := by
    fun_induction Whole ns with
    | case1 => exact ⟨[], rfl⟩
    | case2 => exact whole.elim
    | case3 a b =>
        exact ⟨_, encodeBytes_two (small a (by simp)) (small b (by simp)) whole⟩
    | case4 a b c =>
        exact ⟨_, encodeBytes_three (small a (by simp)) (small b (by simp)) (small c (by simp))
          whole⟩
    | case5 a b c d rest ih =>
        obtain ⟨tail, written⟩ := ih (fun n hn => small n (by simp [hn])) whole
        refine ⟨_, (encodeBytes_four (small a (by simp)) (small b (by simp)) (small c (by simp))
          (small d (by simp)) tail).trans ?_⟩
        simp [written]
  obtain ⟨b, written⟩ := bytes
  exact ⟨b, by rw [encode, spell, written]⟩

/-! ## One text for each byte string -/

theorem length_flatMap_bitsDown (len : Nat) (ns : List Nat) :
    (ns.flatMap (bitsDown len)).length = len * ns.length := by
  induction ns with
  | nil => rfl
  | cons n ns ih =>
      rw [List.flatMap_cons, List.length_append, length_bitsDown, ih, List.length_cons,
        Nat.mul_succ, Nat.add_comm]

@[simp] theorem length_bits (b : Bytes) : (bits b).length = 8 * b.length := by
  have bytes : bits b = (b.map UInt8.toNat).flatMap (bitsDown 8) := by
    rw [bits, List.flatMap_map]
  rw [bytes, length_flatMap_bitsDown, List.length_map]

theorem eq_of_flatMap_bitsDown {len : Nat} {ms ns : List Nat} (hm : ∀ m ∈ ms, m < 2 ^ len)
    (hn : ∀ n ∈ ns, n < 2 ^ len) (lengths : ms.length = ns.length)
    (same : ms.flatMap (bitsDown len) = ns.flatMap (bitsDown len)) : ms = ns := by
  induction ms generalizing ns with
  | nil => exact (List.length_eq_zero_iff.1 lengths.symm).symm
  | cons m ms ih =>
      cases ns with
      | nil => cases lengths
      | cons n ns =>
          obtain ⟨hm, hms⟩ := List.forall_mem_cons.1 hm
          obtain ⟨hn, hns⟩ := List.forall_mem_cons.1 hn
          rw [List.flatMap_cons, List.flatMap_cons] at same
          obtain ⟨first, others⟩ := List.append_inj same (by simp)
          rw [bitsDown_injective hm hn first, ih hms hns (Nat.succ.inj lengths) others]

theorem spells_iff {text : String} {b : Bytes} : Spells text b ↔ text = encode b := by
  obtain ⟨ns, zeros, written, small, -, fewer, same⟩ := encode_eq_spell b
  constructor
  · rintro ⟨ns', zeros', spelled, fewer', same'⟩
    obtain ⟨small', rfl⟩ := spelled_iff.1 spelled
    have size := congrArg List.length same
    have size' := congrArg List.length same'
    simp only [length_flatMap_bitsDown, List.length_append, length_bits,
      List.length_replicate] at size size'
    obtain rfl : zeros' = zeros := by omega
    rw [written, eq_of_flatMap_bitsDown small' small (by omega) (same'.trans same.symm)]
  · rintro rfl
    exact ⟨ns, zeros, spelled_iff.2 ⟨small, written⟩, fewer, same⟩

/-! ## Faults -/

/-- What keeps a text from being read: a character that is no letter, a length no byte string has,
or a last letter with bits set where no byte reaches. -/
inductive Fault (text : String) : Prop where
  | character (c : Char) (member : c ∈ text.toList) (foreign : c ∉ letters)
  | length (lone : text.length % 4 = 1)
  | unusedBits (c : Char) (n : Nat) (last : text.toList.getLast? = some c) (letter : Letter c n)
      (unused : text.length % 4 = 2 ∧ n % 16 ≠ 0 ∨ text.length % 4 = 3 ∧ n % 4 ≠ 0)

theorem whole_iff {ns : List Nat} : Whole ns ↔ ns.length % 4 ≠ 1 ∧ ∀ n, ns.getLast? = some n →
    (ns.length % 4 = 2 → n % 16 = 0) ∧ (ns.length % 4 = 3 → n % 4 = 0) := by
  fun_induction Whole ns with
  | case1 => simp
  | case2 => simp
  | case3 => simp
  | case4 => simp
  | case5 a b c d rest ih =>
      cases rest with
      | nil => simp [Whole]
      | cons e rest =>
          have size : (a :: b :: c :: d :: e :: rest).length % 4 = (e :: rest).length % 4 := by
            simp only [List.length_cons]
            omega
          rw [ih, size]
          simp only [List.getLast?_cons_cons]

theorem Letter.unique {c : Char} {m n : Nat} (hm : Letter c m) (hn : Letter c n) : m = n := by
  have index : ∀ k : Fin 64, letters.idxOf (Char.ofNat (symbol k).toNat) = k.val := by
    decide +kernel
  obtain ⟨small, rfl⟩ := letter_iff.1 hm
  obtain ⟨small', same⟩ := letter_iff.1 hn
  exact (index ⟨m, small⟩).symm.trans ((congrArg letters.idxOf same).trans (index ⟨n, small'⟩))

theorem exists_numbers {cs : List Char} (letters : ∀ c ∈ cs, c ∈ letters) :
    ∃ ns, List.Forall₂ Letter cs ns := by
  induction cs with
  | nil => exact ⟨[], .nil⟩
  | cons c cs ih =>
      obtain ⟨first, others⟩ := List.forall_mem_cons.1 letters
      obtain ⟨n, letter⟩ := List.mem_iff_getElem?.1 first
      obtain ⟨ns, spelled⟩ := ih others
      exact ⟨n :: ns, .cons letter spelled⟩

theorem length_spell (ns : List Nat) : (spell ns).length = ns.length := by
  rw [← String.length_toList, toList_spell, List.length_map]

theorem fault_iff {text : String} : Fault text ↔ ∀ b, text ≠ encode b := by
  constructor
  · rintro fault b rfl
    obtain ⟨ns, -, written, small, whole, -⟩ := encode_eq_spell b
    obtain ⟨length, ending⟩ := whole_iff.1 whole
    rw [written] at fault
    cases fault with
    | character c member foreign =>
        rw [toList_spell] at member
        obtain ⟨n, held, rfl⟩ := List.mem_map.1 member
        have letter : Letter _ n := letter_iff.2 ⟨small n held, rfl⟩
        exact foreign (List.mem_of_getElem? letter)
    | length lone =>
        rw [length_spell] at lone
        exact length lone
    | unusedBits c n last letter unused =>
        rw [length_spell] at unused
        rw [toList_spell, List.getLast?_map, Option.map_eq_some_iff] at last
        obtain ⟨m, last, rfl⟩ := last
        have held : Letter _ m := letter_iff.2 ⟨small m (List.mem_of_getLast? last), rfl⟩
        obtain rfl := held.unique letter
        obtain ⟨two, three⟩ := ending m last
        rcases unused with ⟨size, set⟩ | ⟨size, set⟩
        · exact set (two size)
        · exact set (three size)
  · intro unwritten
    by_contra sound
    have lettered : ∀ c ∈ text.toList, c ∈ letters := by
      intro c member
      by_contra foreign
      exact sound (.character c member foreign)
    obtain ⟨ns, spelled⟩ := exists_numbers lettered
    obtain ⟨small, rfl⟩ := spelled_iff.1 spelled
    have whole : Whole ns := by
      refine whole_iff.2 ⟨fun lone => sound (.length (by rw [length_spell, lone])), ?_⟩
      intro n last
      have lastLetter : (spell ns).toList.getLast? = some (Char.ofNat (symbol n).toNat) := by
        rw [toList_spell, List.getLast?_map, last, Option.map_some]
      have letter : Letter _ n := letter_iff.2 ⟨small n (List.mem_of_getLast? last), rfl⟩
      have clean (unused : ns.length % 4 = 2 ∧ n % 16 ≠ 0 ∨ ns.length % 4 = 3 ∧ n % 4 ≠ 0) :
          False :=
        sound (.unusedBits _ n lastLetter letter (by rwa [length_spell]))
      constructor
      · intro size
        by_contra set
        exact clean (.inl ⟨size, set⟩)
      · intro size
        by_contra set
        exact clean (.inr ⟨size, set⟩)
    obtain ⟨b, written⟩ := encode_of_whole small whole
    exact unwritten b written.symm

/-- The second letter stands for 17, and no byte reaches the lowest of its bits. -/
example : Fault "QR" :=
  .unusedBits 'R' 17 (by decide) rfl (.inl ⟨by decide, by decide⟩)

end Countersign.Base64Url

namespace Countersign

theorem decodeText_cases (text : String) :
    (∃ b, decodeText text = .ok b) ∨
      ∃ cause, decodeText text = .error (.format (.base64 cause)) := by
  rw [decodeText]
  cases Base64Url.decode text with
  | ok b => exact .inl ⟨b, rfl⟩
  | error cause => exact .inr ⟨cause, rfl⟩

/-- Base64url texts are canonical.  A text is read as the bytes it is written for, which are those
it spells, and no two texts are read as the same bytes.  Every text is read, or refused as malformed
for one of three faults: a character that is no letter, be it padding, of another alphabet or beyond
ASCII, a length of one modulo four, or unused bits that are set in the last letter. -/
theorem decodeText_canonical :
    (∀ text b, decodeText text = .ok b ↔ text = Base64Url.encode b) ∧
    (∀ text b, decodeText text = .ok b ↔ Base64Url.Spells text b) ∧
    (∀ text text' b, decodeText text = .ok b → decodeText text' = .ok b → text = text') ∧
    ∀ text, (Base64Url.Fault text ∧ ∃ cause, decodeText text = .error (.format (.base64 cause))) ∨
      (¬ Base64Url.Fault text ∧ ∃ b, decodeText text = .ok b) := by
  have canonical (text : String) (b : Bytes) :
      decodeText text = .ok b ↔ text = Base64Url.encode b := by
    rw [decodeText_eq_ok, Base64Url.decode_eq_ok_iff]
  refine ⟨canonical, fun text b => ?_, fun text text' b reads reads' => ?_, fun text => ?_⟩
  · rw [canonical, Base64Url.spells_iff]
  · rw [(canonical text b).1 reads, (canonical text' b).1 reads']
  · rcases decodeText_cases text with ⟨b, reads⟩ | ⟨cause, refused⟩
    · refine .inr ⟨fun fault => ?_, b, reads⟩
      exact Base64Url.fault_iff.1 fault b ((canonical text b).1 reads)
    · refine .inl ⟨Base64Url.fault_iff.2 fun b written => ?_, cause, refused⟩
      cases refused.symm.trans ((canonical text b).2 written)

end Countersign
