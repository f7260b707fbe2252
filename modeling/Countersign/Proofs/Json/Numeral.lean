import Countersign.Json.Token

/-!
# Numerals are read back

A numeral as numbers write it has digits in every part that is there and no leading zero.  The
machine reads such a numeral to its end, which only the byte behind it shows, and gives it back
unchanged.
-/

namespace Countersign.Json

open Decimal Token

/-! ## Digits -/

def digitByte (d : Nat) : UInt8 := UInt8.ofNat (48 + d)

theorem ofByte?_digitByte {d : Nat} (h : d < 10) : ofByte? (digitByte d) = some d := by
  have all : ∀ n : Fin 10, ofByte? (digitByte n.val) = some n.val := by decide
  exact all ⟨d, h⟩

theorem utf8_digits {ds : List Nat} (h : ∀ d ∈ ds, d < 10) :
    utf8 (String.ofList (ds.map digitChar)) = ds.map digitByte := by
  have all : ∀ n : Fin 10, String.utf8EncodeChar (digitChar n.val) = [digitByte n.val] := by
    decide +kernel
  rw [utf8_ofList]
  induction ds with
  | nil => rfl
  | cons d ds ih =>
      have others := ih fun e he => h e (List.mem_cons_of_mem _ he)
      rw [List.map_cons, List.flatMap_cons, all ⟨d, h d List.mem_cons_self⟩, others]
      rfl

theorem digits_ne_nil (n : Nat) : digits n ≠ [] := by
  fun_cases digits n <;> simp

theorem head?_digits {n : Nat} (h : n ≠ 0) : (digits n).head? ≠ some 0 := by
  fun_induction digits n with
  | case1 n _ => simpa using h
  | case2 n large ih =>
      have front := ih (by omega)
      obtain ⟨d, ds, split⟩ := List.exists_cons_of_ne_nil (digits_ne_nil (n / 10))
      rw [split] at front ⊢
      exact front

/-! ## Numerals that numbers write -/

structure Numeral.Lawful (n : Numeral) : Prop where
  whole_ne : n.whole ≠ []
  whole_lt : ∀ d ∈ n.whole, d < 10
  front : n.whole.head? = some 0 → n.whole = [0]
  fraction_lt : ∀ d ∈ n.fraction, d < 10
  exponent_ne : ∀ down ds, n.exponent = some (down, ds) → ds ≠ []
  exponent_lt : ∀ down ds, n.exponent = some (down, ds) → ∀ d ∈ ds, d < 10

def Numeral.tailBytes (n : Numeral) : Bytes :=
  (if n.fraction.isEmpty then [] else 46 :: n.fraction.map digitByte) ++
    match n.exponent with
    | none => []
    | some (down, ds) => [101, if down then 45 else 43] ++ ds.map digitByte

theorem Numeral.utf8_text {n : Numeral} (h : n.Lawful) :
    utf8 n.text = (if n.negative then [45] else []) ++ n.whole.map digitByte ++ n.tailBytes := by
  have minus : utf8 "-" = [45] := by decide
  have point : utf8 "." = [46] := by decide
  have down : utf8 "e-" = [101, 45] := by decide
  have up : utf8 "e+" = [101, 43] := by decide
  have fraction := utf8_digits h.fraction_lt
  simp only [text, tailBytes, utf8_append, utf8_digits h.whole_lt, List.append_assoc]
  congr 1
  · cases n.negative <;> simp [minus]
  congr 2
  · split
    · rfl
    · rw [utf8_append, point, fraction]
      rfl
  · cases written : n.exponent with
    | none => rfl
    | some part =>
        obtain ⟨sign, ds⟩ := part
        have digits := utf8_digits (h.exponent_lt sign ds written)
        cases sign <;> simp [up, down, digits]

/-! ## Reading digits -/

/-- Bytes that end a numeral: none at all, or one that no numeral goes on with. -/
def Ends (rest : Bytes) : Prop :=
  ∀ c ∈ rest.head?, ofByte? c = none ∧ isPoint c = false ∧ isExponentMark c = false

theorem scan_end {place : Place} (whole : place.complete = true) (n : Numeral) {rest : Bytes}
    (h : Ends rest) :
    scanFrom (.number place n) rest = .number n :: scanFrom .gap rest := by
  cases rest with
  | nil => simp [scanFrom, Mode.finish, whole]
  | cons c rest =>
      obtain ⟨noDigit, noPoint, noMark⟩ := h c rfl
      cases place <;>
        simp [scanFrom, Mode.step, stepNumeral, noDigit, noPoint, noMark, Place.complete] at whole ⊢

theorem scan_more {place place' : Place} {n n' : Numeral} {c : UInt8}
    (step : stepNumeral place n c = .more place' n') (rest : Bytes) :
    scanFrom (.number place n) (c :: rest) = scanFrom (.number place' n') rest := by
  simp [scanFrom, Mode.step, step]

theorem scan_digits {place : Place} {add : Numeral → Nat → Numeral}
    (step : ∀ n d, d < 10 → stepNumeral place n (digitByte d) = .more place (add n d))
    {ds : List Nat} (h : ∀ d ∈ ds, d < 10) (n : Numeral) (rest : Bytes) :
    scanFrom (.number place n) (ds.map digitByte ++ rest) =
      scanFrom (.number place (ds.foldl add n)) rest := by
  induction ds generalizing n with
  | nil => rfl
  | cons d ds ih =>
      rw [List.map_cons, List.cons_append, scan_more (step n d (h d List.mem_cons_self))]
      exact ih (fun e he => h e (List.mem_cons_of_mem _ he)) (add n d)

theorem foldl_addWhole (n : Numeral) (ds : List Nat) :
    ds.foldl addWhole n = { n with whole := n.whole ++ ds } := by
  induction ds generalizing n with
  | nil => simp
  | cons d ds ih => simp [ih, addWhole]

theorem foldl_addFraction (n : Numeral) (ds : List Nat) :
    ds.foldl addFraction n = { n with fraction := n.fraction ++ ds } := by
  induction ds generalizing n with
  | nil => simp
  | cons d ds ih => simp [ih, addFraction]

theorem foldl_addExponent (n : Numeral) (ds : List Nat) :
    ds.foldl addExponent n =
      { n with exponent := n.exponent.map fun (down, es) => (down, es ++ ds) } := by
  induction ds generalizing n with
  | nil => simp
  | cons d ds ih =>
      simp [ih, addExponent, Function.comp_def]

/-! ## Reading the parts of a numeral -/

theorem scan_whole {ds : List Nat} (h : ∀ d ∈ ds, d < 10) (n : Numeral) (rest : Bytes) :
    scanFrom (.number .whole n) (ds.map digitByte ++ rest) =
      scanFrom (.number .whole { n with whole := n.whole ++ ds }) rest := by
  rw [← foldl_addWhole]
  refine scan_digits ?_ h n rest
  intro n d hd
  simp [stepNumeral, ofByte?_digitByte hd]

theorem scan_exponent {place : Place} (before : place = .zero ∨ place = .whole ∨ place = .fraction)
    (n : Numeral) (down : Bool) {ds : List Nat} (some : ds ≠ []) (h : ∀ d ∈ ds, d < 10)
    {rest : Bytes} (ends : Ends rest) :
    scanFrom (.number place n) (101 :: (if down then 45 else 43) :: (ds.map digitByte ++ rest)) =
      .number { n with exponent := .some (down, ds) } :: scanFrom .gap rest := by
  obtain ⟨d, ds, rfl⟩ := List.exists_cons_of_ne_nil some
  have noDigit : ofByte? 101 = none := by decide
  have noDigit' : ofByte? 43 = none := by decide
  have noDigit'' : ofByte? 45 = none := by decide
  have mark : stepNumeral place n 101 = .more .mark { n with exponent := .some (false, []) } := by
    rcases before with rfl | rfl | rfl <;>
      simp [stepNumeral, noDigit, isPoint, isExponentMark]
  have sign : stepNumeral .mark { n with exponent := .some (false, []) } (if down then 45 else 43) =
      .more .markSign { n with exponent := .some (down, []) } := by
    cases down <;> simp [stepNumeral, noDigit', noDigit'']
  have first : stepNumeral .markSign { n with exponent := .some (down, []) } (digitByte d) =
      .more .exponent { n with exponent := .some (down, [d]) } := by
    simp [stepNumeral, ofByte?_digitByte (h d List.mem_cons_self), addExponent]
  have others (m : Numeral) (e : Nat) (he : e < 10) :
      stepNumeral .exponent m (digitByte e) = .more .exponent (addExponent m e) := by
    simp [stepNumeral, ofByte?_digitByte he]
  rw [scan_more mark, scan_more sign, List.map_cons, List.cons_append, scan_more first,
    scan_digits others fun e he => h e (List.mem_cons_of_mem _ he), foldl_addExponent,
    scan_end rfl _ ends]
  rfl

theorem scan_fraction {place : Place} (before : place = .zero ∨ place = .whole) (n : Numeral)
    {ds : List Nat} (some : ds ≠ []) (h : ∀ d ∈ ds, d < 10) (bare : n.fraction = [])
    (rest : Bytes) :
    scanFrom (.number place n) (46 :: (ds.map digitByte ++ rest)) =
      scanFrom (.number .fraction { n with fraction := ds }) rest := by
  obtain ⟨d, ds, rfl⟩ := List.exists_cons_of_ne_nil some
  have noDigit : ofByte? 46 = none := by decide
  have point : stepNumeral place n 46 = .more .point n := by
    rcases before with rfl | rfl <;> simp [stepNumeral, noDigit, isPoint]
  have first : stepNumeral .point n (digitByte d) = .more .fraction (addFraction n d) := by
    simp [stepNumeral, ofByte?_digitByte (h d List.mem_cons_self)]
  have others (m : Numeral) (e : Nat) (he : e < 10) :
      stepNumeral .fraction m (digitByte e) = .more .fraction (addFraction m e) := by
    simp [stepNumeral, ofByte?_digitByte he]
  rw [scan_more point, List.map_cons, List.cons_append, scan_more first,
    scan_digits others fun e he => h e (List.mem_cons_of_mem _ he), foldl_addFraction]
  simp [addFraction, bare]

theorem scan_optionalExponent {place : Place}
    (before : place = .zero ∨ place = .whole ∨ place = .fraction) (m : Numeral)
    (bare : m.exponent = none) {n : Numeral} (h : n.Lawful) {rest : Bytes} (ends : Ends rest) :
    scanFrom (.number place m)
        ((match n.exponent with
          | none => []
          | some (down, ds) => [101, if down then 45 else 43] ++ ds.map digitByte) ++ rest) =
      .number { m with exponent := n.exponent } :: scanFrom .gap rest := by
  cases written : n.exponent with
  | none =>
      have complete : place.complete = true := by
        rcases before with rfl | rfl | rfl <;> rfl
      rw [List.nil_append, scan_end complete m ends, ← bare]
  | some part =>
      obtain ⟨down, ds⟩ := part
      exact scan_exponent before m down (h.exponent_ne down ds written)
        (h.exponent_lt down ds written) ends

theorem scan_tail {place : Place} (before : place = .zero ∨ place = .whole) {n : Numeral}
    (h : n.Lawful) {rest : Bytes} (ends : Ends rest) :
    scanFrom (.number place ⟨n.negative, n.whole, [], none⟩) (n.tailBytes ++ rest) =
      .number n :: scanFrom .gap rest := by
  rw [Numeral.tailBytes, List.append_assoc]
  by_cases bare : n.fraction = []
  · have atEnd : place = .zero ∨ place = .whole ∨ place = .fraction := before.imp_right .inl
    have empty : n.fraction.isEmpty = true := List.isEmpty_iff.2 bare
    rw [if_pos empty, List.nil_append, scan_optionalExponent atEnd _ rfl h ends, ← bare]
  · have filled : ¬ n.fraction.isEmpty = true := fun e => bare (List.isEmpty_iff.1 e)
    rw [if_neg filled, List.cons_append, scan_fraction before _ bare h.fraction_lt rfl,
      scan_optionalExponent (.inr (.inr rfl)) _ rfl h ends]

theorem stepGap_digit {d : Nat} (h : d < 10) :
    stepGap (digitByte d) =
      ([], .number (if d = 0 then .zero else .whole) ⟨false, [d], [], none⟩) := by
  match d with
  | 0 | 1 | 2 | 3 | 4 | 5 | 6 | 7 | 8 | 9 => rfl

theorem scan_numeral {n : Numeral} (h : n.Lawful) {rest : Bytes} (ends : Ends rest) :
    scanFrom .gap (utf8 n.text ++ rest) = .number n :: scanFrom .gap rest := by
  rw [Numeral.utf8_text h]
  obtain ⟨d, ds, split⟩ := List.exists_cons_of_ne_nil h.whole_ne
  have small := h.whole_lt
  have front := h.front
  rw [split] at small front
  have hd : d < 10 := small d List.mem_cons_self
  have hds : ∀ e ∈ ds, e < 10 := fun e he => small e (List.mem_cons_of_mem _ he)
  -- where the first digit leaves the machine, whatever the sign
  have start : scanFrom .gap ((if n.negative then [45] else []) ++ n.whole.map digitByte ++
      n.tailBytes ++ rest) =
      scanFrom (.number (if d = 0 then .zero else .whole) ⟨n.negative, [d], [], none⟩)
        (ds.map digitByte ++ (n.tailBytes ++ rest)) := by
    rw [split]
    cases n.negative with
    | false => simp [scanFrom, Mode.step, stepGap_digit hd]
    | true =>
        have sign : stepGap 45 = ([], .number .sign ⟨true, [], [], none⟩) := rfl
        simp [scanFrom, Mode.step, sign, stepNumeral, ofByte?_digitByte hd, addWhole]
  rw [start]
  by_cases zero : d = 0
  · subst zero
    have alone : ds = [] := by simpa using front rfl
    subst alone
    rw [if_pos rfl, List.map_nil, List.nil_append, ← split]
    exact scan_tail (.inl rfl) h ends
  · rw [if_neg zero, scan_whole hds, List.singleton_append, ← split]
    exact scan_tail (.inr rfl) h ends

/-! ## Numbers write such numerals -/

private theorem eq_zero_of_front {n : Nat} (h : (digits n).head? = some 0) : digits n = [0] := by
  by_cases zero : n = 0
  · rw [zero, digits, if_pos (by decide)]
  · exact absurd h (head?_digits zero)

private theorem mem_digits_zeros {n k d : Nat} (h : d ∈ digits n ++ List.replicate k 0) :
    d < 10 := by
  rcases List.mem_append.1 h with h | h
  · exact lt_ten_of_mem_digits h
  · rw [(List.mem_replicate.1 h).2]
    decide

private theorem mem_zeros_digits {n k d : Nat} (h : d ∈ List.replicate k 0 ++ digits n) :
    d < 10 := by
  rcases List.mem_append.1 h with h | h
  · rw [(List.mem_replicate.1 h).2]
    decide
  · exact lt_ten_of_mem_digits h

/-- Some of the first digits of a positive number, with some of the others as its fraction. -/
private theorem lawful_split {n count : Nat} (h : n ≠ 0) (one : 0 < count) (negative : Bool)
    {exponent : Option (Bool × List Nat)}
    (exponent_ne : ∀ down ds, exponent = some (down, ds) → ds ≠ [])
    (exponent_lt : ∀ down ds, exponent = some (down, ds) → ∀ d ∈ ds, d < 10) :
    (⟨negative, (digits n).take count, (digits n).drop count, exponent⟩ : Numeral).Lawful := by
  obtain ⟨count, rfl⟩ := Nat.exists_eq_add_one_of_ne_zero (Nat.ne_of_gt one)
  obtain ⟨d, ds, split⟩ := List.exists_cons_of_ne_nil (digits_ne_nil n)
  have front := head?_digits h
  rw [split] at front
  refine ⟨by simp [split], ?_, ?_, ?_, exponent_ne, exponent_lt⟩
  · exact fun d hd => lt_ten_of_mem_digits (List.mem_of_mem_take hd)
  · intro zero
    rw [split] at zero
    exact absurd zero front
  · exact fun d hd => lt_ten_of_mem_digits (List.mem_of_mem_drop hd)

theorem lawful_ofDouble (x : Double) : (ofDouble x).Lawful := by
  have noExponent_ne (down : Bool) (ds : List Nat)
      (h : (none : Option (Bool × List Nat)) = some (down, ds)) : ds ≠ [] := by cases h
  have noExponent_lt (down : Bool) (ds : List Nat)
      (h : (none : Option (Bool × List Nat)) = some (down, ds)) : ∀ d ∈ ds, d < 10 := by cases h
  unfold ofDouble
  dsimp only
  split
  · exact ⟨by simp, by simp, fun _ => rfl, by simp, noExponent_ne, noExponent_lt⟩
  rename_i positive
  split
  · obtain ⟨d, ds, split⟩ := List.exists_cons_of_ne_nil (digits_ne_nil x.shortest.mantissa)
    have front := head?_digits positive
    refine ⟨by simp [split], fun d hd => mem_digits_zeros hd, ?_, by simp, noExponent_ne,
      noExponent_lt⟩
    intro zero
    rw [split] at zero front
    exact absurd zero front
  split
  · exact lawful_split positive (by omega) _ noExponent_ne noExponent_lt
  split
  · exact ⟨by simp, by simp, fun _ => rfl, fun d hd => mem_zeros_digits hd, noExponent_ne,
      noExponent_lt⟩
  · refine lawful_split positive Nat.one_pos _ ?_ ?_
    · rintro down ds ⟨⟩
      exact digits_ne_nil _
    · rintro down ds ⟨⟩
      exact fun d hd => lt_ten_of_mem_digits hd

theorem Number.lawful_numeral (n : Number) : n.numeral.Lawful := by
  cases n with
  | int i =>
      refine ⟨digits_ne_nil _, fun d hd => lt_ten_of_mem_digits hd, eq_zero_of_front, ?_, ?_, ?_⟩
      · simp [numeral]
      · simp [numeral]
      · simp [numeral]
  | real x => exact lawful_ofDouble x

/-! ## Integers are read back -/

private theorem le_foldl_digits (n : Nat) (ds : List Nat) :
    n ≤ ds.foldl (fun n d => n * 10 + d) n := by
  induction ds generalizing n with
  | nil => exact Nat.le_refl n
  | cons d ds ih =>
      have := ih (n * 10 + d)
      rw [List.foldl_cons]
      omega

private theorem gather_eq {bound : Nat} {n : Nat} {ds : List Nat}
    (h : ds.foldl (fun n d => n * 10 + d) n < bound) :
    gather bound n ds = (ds.foldl (fun n d => n * 10 + d) n, []) := by
  induction ds generalizing n with
  | nil => rfl
  | cons d ds ih =>
      rw [List.foldl_cons] at h ⊢
      have below : n * 10 + d < bound := Nat.lt_of_le_of_lt (le_foldl_digits _ ds) h
      rw [gather, if_pos below, ih h]

theorem gather_digits {bound n : Nat} (h : n < bound) : gather bound 0 (digits n) = (n, []) := by
  have whole : (digits n).foldl (fun n d => n * 10 + d) 0 = n := value_digits n
  rw [gather_eq (by rw [whole]; exact h), whole]

/-- Integers of 64 bits, with or without a sign, have numerals that stand for them. -/
theorem value?_int {i : Int} (low : -0x8000000000000000 ≤ i) (high : i < 0x10000000000000000) :
    (Number.int i).numeral.value? = some (.int i) := by
  have small : i.natAbs < Numeral.significandBound := by
    simp only [Numeral.significandBound]
    omega
  by_cases negative : i < 0
  · have bounds : 0 < i.natAbs ∧ i.natAbs ≤ 0x8000000000000000 := by omega
    have back : -(i.natAbs : Int) = i := by omega
    have read : (Number.int i).numeral.value? = some (.int (-(i.natAbs : Int))) := by
      simp [Numeral.value?, Numeral.isInteger, Number.numeral, gather_digits small, negative, bounds]
    rw [read, back]
  · have back : (i.natAbs : Int) = i := by omega
    have read : (Number.int i).numeral.value? = some (.int (i.natAbs : Int)) := by
      simp [Numeral.value?, Numeral.isInteger, Number.numeral, gather_digits small, negative]
    rw [read, back]

private theorem eq_of_gather {bound n m : Nat} {ds : List Nat} (h : gather bound n ds = (m, [])) :
    m = ds.foldl (fun n d => n * 10 + d) n := by
  induction ds generalizing n with
  | nil =>
      cases h
      rfl
  | cons d ds ih =>
      rw [gather] at h
      split at h
      · exact ih h
      · cases h

theorem not_isInteger_ofDouble (x : Double) : (ofDouble x).isInteger = false := by
  have filled (down : Bool) (whole : List Nat) {fraction : List Nat} (some : fraction ≠ []) :
      (⟨down, whole, fraction, none⟩ : Numeral).isInteger = false := by
    simp [Numeral.isInteger, some]
  unfold ofDouble
  dsimp only
  split
  · exact filled _ _ (List.cons_ne_nil 0 [])
  split
  · exact filled _ _ (List.cons_ne_nil 0 [])
  split
  · refine filled _ _ fun none => ?_
    have := List.drop_eq_nil_iff.1 none
    omega
  split
  · exact filled _ _ (List.append_ne_nil_of_right_ne_nil _ (digits_ne_nil _))
  · simp [Numeral.isInteger]

theorem eq_int_of_value? {n : Number} {i : Int} (h : n.numeral.value? = some (.int i)) :
    n = .int i := by
  cases n with
  | real x =>
      rw [Number.numeral, Numeral.value?, not_isInteger_ofDouble, if_neg Bool.false_ne_true] at h
      cases read : (ofDouble x).real? <;> simp [read] at h
  | int j =>
      have integer : (Number.int j).numeral.isInteger = true := rfl
      rw [Numeral.value?, if_pos integer] at h
      split at h
      · rename_i m gathered
        obtain rfl : m = j.natAbs := (eq_of_gather gathered).trans (value_digits j.natAbs)
        by_cases negative : j < 0
        · have sign : (Number.int j).numeral.negative = true := decide_eq_true negative
          rw [sign, Bool.not_true, if_neg Bool.false_ne_true] at h
          split at h
          · cases h
            congr 1
            omega
          · cases read : (Number.int j).numeral.real? <;> simp [read] at h
        · have sign : (Number.int j).numeral.negative = false := decide_eq_false negative
          rw [sign, Bool.not_false, if_pos rfl] at h
          cases h
          congr 1
          omega
      · cases read : (Number.int j).numeral.real? <;> simp [read] at h

end Countersign.Json
