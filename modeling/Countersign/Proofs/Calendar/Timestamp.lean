import Countersign.Calendar.Timestamp
import Countersign.Proofs.Calendar.Date
import Mathlib.Algebra.Group.Nat.Defs

/-!
# Points in time are read back

The text of a point in time gives it back where its year has four digits; a year with a sign is not
read.
-/

namespace Countersign

/-! ## Fields of digits -/

namespace Decimal

theorem length_digits_le {n width : Nat} (fits : n < 10 ^ width) (wide : 0 < width) :
    (digits n).length ≤ width := by
  fun_induction digits n generalizing width with
  | case1 n small => exact wide
  | case2 n large ih =>
      obtain ⟨width, rfl⟩ := Nat.exists_eq_add_one.2 wide
      have wider : 0 < width := by
        cases width with
        | zero => omega
        | succ width => exact Nat.succ_pos width
      have shorter : n / 10 < 10 ^ width := by
        rw [Nat.pow_succ] at fits
        exact Nat.div_lt_of_lt_mul (by omega)
      have rest := ih shorter wider
      rw [List.length_append, List.length_singleton]
      omega

def paddedDigits (width n : Nat) : List Nat :=
  List.replicate (width - (digits n).length) 0 ++ digits n

theorem toList_padded (width n : Nat) :
    (padded width n).toList = (paddedDigits width n).map digitChar :=
  String.toList_ofList

theorem value_paddedDigits (width n : Nat) : value (paddedDigits width n) = n := by
  have zeros (k : Nat) : value (List.replicate k 0) = 0 := by
    induction k with
    | zero => rfl
    | succ k ih => rw [List.replicate_succ', value_append, ih]
  rw [value, paddedDigits, List.foldl_append]
  change (digits n).foldl _ (value _) = n
  rw [zeros]
  exact value_digits n

theorem lt_ten_of_mem_paddedDigits {width n d : Nat} (listed : d ∈ paddedDigits width n) :
    d < 10 := by
  rcases List.mem_append.1 listed with zero | digit
  · rw [List.eq_of_mem_replicate zero]
    decide
  · exact lt_ten_of_mem_digits digit

theorem length_paddedDigits {n width : Nat} (fits : n < 10 ^ width) (wide : 0 < width) :
    (paddedDigits width n).length = width := by
  have short := length_digits_le fits wide
  rw [paddedDigits, List.length_append, List.length_replicate]
  omega

end Decimal

namespace Timestamp

open Decimal

variable {cs : List Char}

theorem digit?_digitChar {d : Nat} (small : d < 10) : digit? (digitChar d) = some d := by
  revert d
  decide

theorem number?_digits (ds : List Nat) (small : ∀ d ∈ ds, d < 10) (n : Nat) (cs : List Char) :
    number? ds.length n (ds.map digitChar ++ cs) =
      some (ds.foldl (fun n d => n * 10 + d) n, cs) := by
  induction ds generalizing n with
  | nil => rfl
  | cons d ds ih =>
      obtain ⟨first, rest⟩ := List.forall_mem_cons.1 small
      rw [List.length_cons, List.map_cons, List.cons_append, number?]
      simp only [digit?_digitChar first, ih rest, List.foldl_cons]

theorem number?_padded {n width : Nat} (fits : n < 10 ^ width) (wide : 0 < width) (cs : List Char) :
    number? width 0 ((padded width n).toList ++ cs) = some (n, cs) := by
  have small : ∀ d ∈ paddedDigits width n, d < 10 := fun _ => lt_ten_of_mem_paddedDigits
  have read := number?_digits _ small 0 cs
  rw [length_paddedDigits fits wide] at read
  rw [toList_padded, read]
  exact congrArg (fun n => some (n, cs)) (value_paddedDigits width n)

theorem leadingDigits_digits (ds : List Nat) (small : ∀ d ∈ ds, d < 10) {c : Char}
    (ends : digit? c = none) (cs : List Char) :
    leadingDigits (ds.map digitChar ++ c :: cs) = (ds, c :: cs) := by
  induction ds with
  | nil => simp only [List.map_nil, List.nil_append, leadingDigits, ends]
  | cons d ds ih =>
      obtain ⟨first, rest⟩ := List.forall_mem_cons.1 small
      simp only [List.map_cons, List.cons_append, leadingDigits, digit?_digitChar first, ih rest]

theorem decimals?_padded {n : Nat} (fits : n < 10 ^ 3) {c : Char} (ends : digit? c = none)
    (cs : List Char) :
    decimals? ('.' :: ((padded 3 n).toList ++ c :: cs)) = some (n, c :: cs) := by
  have length := length_paddedDigits fits (by decide)
  have small : ∀ d ∈ paddedDigits 3 n, d < 10 := fun _ => lt_ten_of_mem_paddedDigits
  have read := leadingDigits_digits _ small ends cs
  have value := value_paddedDigits 3 n
  rw [toList_padded, decimals?]
  simp only [read]
  cases three : paddedDigits 3 n with
  | nil =>
      rw [three] at length
      cases length
  | cons d ds =>
      rw [three] at length value
      simp only [List.take_left' length, value]

theorem sign?_cons {accepted : List Char} {c : Char} (taken : accepted.contains c = true)
    (cs : List Char) : sign? accepted (c :: cs) = some cs :=
  if_pos taken

/-! ## Reading what was written -/

theorem read?_fields {year month day hour minute second millis : Nat} (fourDigits : year < 10 ^ 4)
    (valid : (Date.mk year month day).valid = true) (inDay : hour < 24) (inHour : minute < 60)
    (inMinute : second < 60) (inSecond : millis < 10 ^ 3) :
    parse? (padded 4 year ++ "-" ++ padded 2 month ++ "-" ++ padded 2 day ++ "T" ++ padded 2 hour ++
        ":" ++ padded 2 minute ++ ":" ++ padded 2 second ++ "." ++ padded 3 millis ++ "Z") =
      some ((Date.mk year month day).toDays * millisPerDay + hour * 3600000 + minute * 60000 +
        second * 1000 + millis) := by
  obtain ⟨monthFits, dayFits⟩ : month < 10 ^ 2 ∧ day < 10 ^ 2 := by
    have longest := Date.daysInMonth_le year month
    simp only [Date.valid, decide_eq_true_eq] at valid
    omega
  have hourFits : hour < 10 ^ 2 := by omega
  have minuteFits : minute < 10 ^ 2 := by omega
  have secondFits : second < 10 ^ 2 := by omega
  have dash : "-".toList = ['-'] := rfl
  have t : "T".toList = ['T'] := rfl
  have colon : ":".toList = [':'] := rfl
  have dot : ".".toList = ['.'] := rfl
  have z : "Z".toList = ['Z'] := rfl
  have inDate : ['-'].contains '-' = true := rfl
  have beforeTime : ['T', 't', ' '].contains 'T' = true := rfl
  have inTime : [':'].contains ':' = true := rfl
  have utc : offset? ['Z'] = some 0 := rfl
  rw [parse?]
  simp only [String.toList_append, dash, t, colon, dot, z, List.append_assoc, List.cons_append,
    List.nil_append]
  rw [read?]
  refine Option.bind_eq_some_iff.2 ⟨_, number?_padded fourDigits (by decide) _, ?_⟩
  refine Option.bind_eq_some_iff.2 ⟨_, sign?_cons inDate _, ?_⟩
  refine Option.bind_eq_some_iff.2 ⟨_, number?_padded monthFits (by decide) _, ?_⟩
  refine Option.bind_eq_some_iff.2 ⟨_, sign?_cons inDate _, ?_⟩
  refine Option.bind_eq_some_iff.2 ⟨_, number?_padded dayFits (by decide) _, ?_⟩
  refine Option.bind_eq_some_iff.2 ⟨_, sign?_cons beforeTime _, ?_⟩
  refine Option.bind_eq_some_iff.2 ⟨_, number?_padded hourFits (by decide) _, ?_⟩
  refine Option.bind_eq_some_iff.2 ⟨_, sign?_cons inTime _, ?_⟩
  refine Option.bind_eq_some_iff.2 ⟨_, number?_padded minuteFits (by decide) _, ?_⟩
  refine Option.bind_eq_some_iff.2 ⟨_, sign?_cons inTime _, ?_⟩
  refine Option.bind_eq_some_iff.2 ⟨_, number?_padded secondFits (by decide) _, ?_⟩
  refine Option.bind_eq_some_iff.2 ⟨_, decimals?_padded inSecond (by decide) _, ?_⟩
  refine Option.bind_eq_some_iff.2 ⟨_, utc, ?_⟩
  rw [if_pos ⟨valid, inDay, inHour, by omega⟩, Int.sub_zero]

def yearOf (ms : Int) : Int := (Date.ofDays (ms / millisPerDay)).year

def FourDigits (ms : Int) : Prop := 0 ≤ yearOf ms ∧ yearOf ms ≤ 9999

instance (ms : Int) : Decidable (FourDigits ms) := inferInstanceAs (Decidable (_ ∧ _))

variable {ms : Int}

theorem fourDigits_iff : FourDigits ms ↔ -62167219200000 ≤ ms ∧ ms ≤ 253402300799999 := by
  have first := Date.year_ofDays_lt_iff (ms / millisPerDay) 0
  have last := Date.year_ofDays_lt_iff (ms / millisPerDay) 10000
  have start : Date.toDays ⟨0, 1, 1⟩ = -719528 := rfl
  have finish : Date.toDays ⟨10000, 1, 1⟩ = 2932897 := rfl
  rw [FourDigits, yearOf]
  rw [start] at first
  rw [finish] at last
  unfold millisPerDay at *
  omega

theorem parse?_text_of_fourDigits (readable : FourDigits ms) : parse? (text ms) = some ms := by
  have valid := Date.valid_ofDays (ms / millisPerDay)
  have counts := Date.toDays_ofDays (ms / millisPerDay)
  rw [FourDigits, yearOf] at readable
  unfold text
  generalize Date.ofDays (ms / millisPerDay) = date at *
  obtain ⟨year, month, day⟩ := date
  obtain ⟨year, rfl⟩ := Int.eq_ofNat_of_zero_le readable.1
  have inRange : (0 : Int) ≤ year ∧ (year : Int) ≤ 9999 := readable
  have written : writable year = true := by
    simp only [writable, decide_eq_true_eq]
    omega
  have plain : yearText year = padded 4 year := if_pos inRange
  generalize rest : (ms % millisPerDay).toNat = n
  have ofDay : n < 86400000 := by
    unfold millisPerDay at rest
    omega
  simp only [written, plain, if_true]
  rw [read?_fields (by omega) valid (by omega) (by omega) (by omega) (by omega), counts]
  congr 1
  unfold millisPerDay at *
  omega

/-- A year that has not four digits is written with a sign, if it is written at all. -/
theorem text_of_not_fourDigits (unreadable : ¬ FourDigits ms) :
    text ms = "" ∨ ∃ sign rest, (sign = '-' ∨ sign = '+') ∧ (text ms).toList = sign :: rest := by
  rw [FourDigits, yearOf] at unreadable
  unfold text
  generalize Date.ofDays (ms / millisPerDay) = date at *
  cases written : writable date.year with
  | false =>
      left
      simp only [written, Bool.false_eq_true, if_false]
  | true =>
      have signed : yearText date.year =
          (if date.year < 0 then "-" else "+") ++ padded 4 date.year.natAbs := if_neg unreadable
      right
      simp only [written, signed, if_true, String.toList_append, List.append_assoc]
      split
      · exact ⟨'-', _, .inl rfl, rfl⟩
      · exact ⟨'+', _, .inr rfl, rfl⟩

theorem parse?_text_of_not_fourDigits (unreadable : ¬ FourDigits ms) : parse? (text ms) = none := by
  rw [parse?]
  rcases text_of_not_fourDigits unreadable with empty | ⟨sign, rest, rfl | rfl, signed⟩
  · rw [empty]
    rfl
  · rw [signed]
    rfl
  · rw [signed]
    rfl

/-- Dates follow each other as in the calendar, and the years 0 to 9999 are the points in time
between these two.  The text of each of them gives it back, so no two of them have the same text.
All others have a text that is empty or begins with a sign, and it is not read. -/
theorem text_readBack :
    Date.ofDays 0 = ⟨1970, 1, 1⟩ ∧
    (∀ days, Date.ofDays (days + 1) = (Date.ofDays days).next ∧
      (Date.ofDays days).valid = true) ∧
    (∀ ms, FourDigits ms ↔ -62167219200000 ≤ ms ∧ ms ≤ 253402300799999) ∧
    (∀ ms, parse? (text ms) = if FourDigits ms then some ms else none) ∧
    (∀ ms, ¬ FourDigits ms → text ms = "" ∨
      ∃ sign rest, (sign = '-' ∨ sign = '+') ∧ (text ms).toList = sign :: rest) ∧
    (∀ ms ms', FourDigits ms → FourDigits ms' → text ms = text ms' → ms = ms') := by
  refine ⟨rfl, fun days => ⟨Date.ofDays_succ days, Date.valid_ofDays days⟩,
    fun ms => fourDigits_iff, ?_, fun ms => text_of_not_fourDigits, ?_⟩
  · intro ms
    split
    · rename_i readable
      exact parse?_text_of_fourDigits readable
    · rename_i unreadable
      exact parse?_text_of_not_fourDigits unreadable
  · intro ms ms' readable readable' same
    have first := parse?_text_of_fourDigits readable
    rw [same, parse?_text_of_fourDigits readable'] at first
    exact (Option.some.inj first).symm

/-- The last millisecond that is read back, and the first one after it that is not. -/
theorem lastOfFourDigits_readBack :
    FourDigits 253402300799999 ∧ ¬ FourDigits 253402300800000 ∧
      parse? (text 253402300799999) = some 253402300799999 ∧
      parse? (text 253402300800000) = none ∧
      (text 253402300800000 = "" ∨ ∃ sign rest, (sign = '-' ∨ sign = '+') ∧
        (text 253402300800000).toList = sign :: rest) := by
  obtain ⟨-, -, bounds, back, unread, -⟩ := text_readBack
  have last : FourDigits 253402300799999 := (bounds _).2 (by decide)
  have next : ¬ FourDigits 253402300800000 := mt (bounds _).1 (by decide)
  exact ⟨last, next, (back _).trans (if_pos last), (back _).trans (if_neg next), unread _ next⟩

example : text 1709251199999 = "2024-02-29T23:59:59.999Z" := by cbv

end Timestamp

end Countersign
