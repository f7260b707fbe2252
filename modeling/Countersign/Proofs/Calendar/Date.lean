import Countersign.Calendar.Date
import Mathlib.Data.Int.Init

/-!
# Days and their dates

The day numbered zero is 1 January 1970, and the next day has the next date of the calendar: so the
dates of all days are right, and each is a date that exists.  Counting back from a date gives the
day again.

All of this is seen through years that begin in March.  A day is a place in such a year, and both
directions of counting go through that place.
-/

namespace Countersign.Date

/-- The date after this one in the calendar. -/
def next (d : Date) : Date :=
  if d.day < daysInMonth d.year d.month then { d with day := d.day + 1 }
  else if d.month < 12 then ⟨d.year, d.month + 1, 1⟩
  else ⟨d.year + 1, 1, 1⟩

/-! ## Months that are counted from March -/

variable {month day : Nat} {year : Int}

theorem daysInMonth_le (year : Int) (month : Nat) : daysInMonth year month ≤ 31 := by
  unfold daysInMonth
  split
  · split <;> decide
  · split <;> decide

theorem marchMonth_eq_iff :
    (5 * day + 2) / 153 = month ↔
      daysBeforeMonth month ≤ day ∧ day < daysBeforeMonth (month + 1) := by
  unfold daysBeforeMonth
  omega

def fromMarch (month : Nat) : Nat := if month < 10 then month + 3 else month - 9

def yearFromMarch (year : Int) (month : Nat) : Int := if month < 10 then year else year + 1

/-! ## Years that begin in March -/

/-- A leap day is the last day of its year, and lies in the next year of the calendar. -/
def marchYearLength (year : Int) : Nat := if isLeap (year + 1) then 366 else 365

def marchStart (year : Int) : Int :=
  year / 400 * daysPerPeriod + daysBeforeYear (year % 400).toNat - epochOffset

theorem marchYearLength_cases (year : Int) :
    marchYearLength year = 365 ∨
      marchYearLength year = 366 ∧ year % 4 = 3 ∧ (year % 100 ≠ 99 ∨ year % 400 = 399) := by
  unfold marchYearLength isLeap
  simp only [decide_eq_true_eq]
  split <;> omega

theorem marchStart_succ (year : Int) :
    marchStart (year + 1) = marchStart year + marchYearLength year := by
  unfold marchStart marchYearLength isLeap daysBeforeYear daysPerPeriod
  simp only [decide_eq_true_eq]
  split <;> omega

/-- After the last day of a month comes the next month, or the end of the year. -/
theorem daysBeforeMonth_add (inYear : month < 12) (year : Int) :
    daysBeforeMonth month + daysInMonth (yearFromMarch year month) (fromMarch month) =
      if month < 11 then daysBeforeMonth (month + 1) else marchYearLength year := by
  have lengths : ∀ m < 11, fromMarch m ≠ 2 ∧
      daysBeforeMonth m +
          (if fromMarch m = 4 ∨ fromMarch m = 6 ∨ fromMarch m = 9 ∨ fromMarch m = 11 then 30
            else 31) =
        daysBeforeMonth (m + 1) := by
    decide
  by_cases early : month < 11
  · obtain ⟨notFebruary, sum⟩ := lengths month early
    rw [daysInMonth, if_neg notFebruary, sum, if_pos early]
  · obtain rfl : month = 11 := by omega
    change 337 + (if isLeap (year + 1) then 29 else 28) = marchYearLength year
    unfold marchYearLength
    split <;> rfl

/-! ## Days as places in a year -/

def ofMarch (year : Int) (day : Nat) : Date :=
  let month := (5 * day + 2) / 153
  ⟨yearFromMarch year month, fromMarch month, day - daysBeforeMonth month + 1⟩

theorem exists_march (days : Int) :
    ∃ year day, day < marchYearLength year ∧ days = marchStart year + day := by
  induction days with
  | zero => exact ⟨1969, 306, by decide, by decide⟩
  | succ n ih =>
      obtain ⟨year, day, inYear, place⟩ := ih
      have step := marchStart_succ year
      have next := marchYearLength_cases (year + 1)
      by_cases more : day + 1 < marchYearLength year
      · exact ⟨year, day + 1, more, by omega⟩
      · exact ⟨year + 1, 0, by omega, by omega⟩
  | pred n ih =>
      obtain ⟨year, day, inYear, place⟩ := ih
      have step := marchStart_succ (year - 1)
      have last := marchYearLength_cases (year - 1)
      rw [Int.sub_add_cancel] at step
      cases day with
      | zero => exact ⟨year - 1, marchYearLength (year - 1) - 1, by omega, by omega⟩
      | succ day => exact ⟨year, day, by omega, by omega⟩

/-- The number of the year in its period, from that of the day. -/
theorem yearOfPeriod_eq (y day : Nat) (inPeriod : y < 400)
    (inYear : day < 365 ∨ day = 365 ∧ y % 4 = 3 ∧ (y % 100 ≠ 99 ∨ y = 399)) :
    let d := daysBeforeYear y + day
    (d - d / 1460 + d / 36524 - d / 146096) / 365 = y := by
  -- Centuries, periods of four years, and years.
  obtain ⟨c, q, r, hc, hq, hr, rfl⟩ :
      ∃ c q r, c < 4 ∧ q < 25 ∧ r < 4 ∧ y = 100 * c + 4 * q + r :=
    ⟨y / 100, y % 100 / 4, y % 4, by omega, by omega, by omega, by omega⟩
  have before : daysBeforeYear (100 * c + 4 * q + r) = 36524 * c + 1461 * q + 365 * r := by
    unfold daysBeforeYear
    omega
  replace inYear : day < 365 ∨ day = 365 ∧ r = 3 ∧ (q < 24 ∨ c = 3) := by omega
  rw [before]
  generalize sum : 36524 * c + 1461 * q + 365 * r + day = d
  have quads : d / 1460 = 25 * c + q + (24 * c + q + 365 * r + day) / 1460 := by omega
  -- The last day of a period is alone in a fifth century.
  have inCentury : d < 36524 * (c + 1) ∨ d = 146096 ∧ c = 3 := by omega
  have centuries : d / 36524 = c + d / 146096 := by omega
  simp only [centuries, quads]
  generalize d / 146096 = s
  omega

theorem ofDays_march (inYear : day < marchYearLength year) :
    ofDays (marchStart year + day) = ofMarch year day := by
  have leap := marchYearLength_cases year
  generalize inside : (year % 400).toNat = y
  have yearNumber := yearOfPeriod_eq y day (by omega) (by omega)
  have whole : daysBeforeYear y + day < daysPerPeriod := by
    unfold daysBeforeYear daysPerPeriod
    omega
  have shifted : marchStart year + day + epochOffset =
      year / 400 * daysPerPeriod + (daysBeforeYear y + day : Nat) := by
    unfold marchStart
    rw [inside]
    omega
  have period : (marchStart year + day + epochOffset) / daysPerPeriod = year / 400 := by
    unfold daysPerPeriod at *
    omega
  have dayNumber : ((marchStart year + day + epochOffset) % daysPerPeriod).toNat =
      daysBeforeYear y + day := by
    unfold daysPerPeriod at *
    omega
  unfold ofDays ofMarch yearFromMarch fromMarch
  simp only [period, dayNumber, yearNumber, Nat.add_sub_cancel_left]
  congr 1
  split <;> split <;> omega

theorem toDays_ofMarch (inYear : day < marchYearLength year) :
    (ofMarch year day).toDays = marchStart year + day := by
  have leap := marchYearLength_cases year
  generalize placed : (5 * day + 2) / 153 = month
  have bounds := marchMonth_eq_iff.1 placed
  have inMonths : month < 12 := by omega
  have sameMonth : (fromMarch month + 9) % 12 = month := by
    unfold fromMarch
    split <;> omega
  have sameYear :
      (if fromMarch month ≤ 2 then yearFromMarch year month - 1 else yearFromMarch year month) =
        year := by
    unfold fromMarch yearFromMarch
    split <;> split <;> omega
  unfold ofMarch toDays marchStart
  simp only [placed, sameMonth, sameYear]
  omega

theorem day_in_month (inYear : day < marchYearLength year) (placed : (5 * day + 2) / 153 = month) :
    month < 12 ∧ daysBeforeMonth month ≤ day ∧
      day < daysBeforeMonth month + daysInMonth (yearFromMarch year month) (fromMarch month) := by
  have leap := marchYearLength_cases year
  have bounds := marchMonth_eq_iff.1 placed
  have inMonths : month < 12 := by omega
  rw [daysBeforeMonth_add inMonths]
  refine ⟨inMonths, bounds.1, ?_⟩
  split <;> omega

theorem valid_ofMarch (inYear : day < marchYearLength year) : (ofMarch year day).valid = true := by
  generalize placed : (5 * day + 2) / 153 = month
  obtain ⟨inMonths, front, back⟩ := day_in_month inYear placed
  have named : 1 ≤ fromMarch month ∧ fromMarch month ≤ 12 := by
    unfold fromMarch
    split <;> omega
  unfold ofMarch valid
  simp only [placed, decide_eq_true_eq]
  omega

theorem ofMarch_eq (placed : (5 * day + 2) / 153 = month) (year : Int) :
    ofMarch year day =
      ⟨yearFromMarch year month, fromMarch month, day - daysBeforeMonth month + 1⟩ := by
  simp only [ofMarch, placed]

/-- The last day of a month is followed by the first day of the next one, of whatever year. -/
theorem next_lastOfMonth (early : month < 11)
    (last : ¬ day < daysInMonth (yearFromMarch year month) (fromMarch month)) :
    next ⟨yearFromMarch year month, fromMarch month, day⟩ =
      ⟨yearFromMarch year (month + 1), fromMarch (month + 1), 1⟩ := by
  rw [next, if_neg last]
  -- The year of the calendar ends with the month numbered 9.
  rcases (by omega : month < 9 ∨ month = 9 ∨ month = 10) with before | rfl | rfl
  · have here : fromMarch month = month + 3 := if_pos (by omega)
    have there : fromMarch (month + 1) = month + 1 + 3 := if_pos (by omega)
    have sameYear : yearFromMarch year (month + 1) = yearFromMarch year month := by
      rw [yearFromMarch, yearFromMarch, if_pos (by omega), if_pos (by omega)]
    rw [here, there, sameYear]
    exact if_pos (by simp only; omega)
  · rfl
  · rfl

theorem next_ofMarch (inYear : day < marchYearLength year) :
    (ofMarch year day).next =
      if day + 1 < marchYearLength year then ofMarch year (day + 1) else ofMarch (year + 1) 0 := by
  have leap := marchYearLength_cases year
  generalize placed : (5 * day + 2) / 153 = month
  obtain ⟨inMonths, front, back⟩ := day_in_month inYear placed
  have after := daysBeforeMonth_add inMonths year
  rw [ofMarch_eq placed]
  by_cases inMonth :
      day + 1 < daysBeforeMonth month + daysInMonth (yearFromMarch year month) (fromMarch month)
  · have more : day + 1 < marchYearLength year := by
      unfold daysBeforeMonth at *
      split at after <;> omega
    have stays : (5 * (day + 1) + 2) / 153 = month := by
      rw [marchMonth_eq_iff]
      unfold daysBeforeMonth at *
      split at after <;> omega
    rw [next, if_pos (by simp only; omega), if_pos more, ofMarch_eq stays, Nat.sub_add_comm front]
  · have last : ¬ day - daysBeforeMonth month + 1 <
        daysInMonth (yearFromMarch year month) (fromMarch month) := by
      omega
    by_cases early : month < 11
    · rw [if_pos early] at after
      have more : day + 1 < marchYearLength year := by
        unfold daysBeforeMonth at *
        omega
      have moves : (5 * (day + 1) + 2) / 153 = month + 1 := by
        rw [marchMonth_eq_iff]
        unfold daysBeforeMonth at *
        omega
      have first : day + 1 - daysBeforeMonth (month + 1) = 0 := by omega
      rw [next_lastOfMonth early last, if_pos more, ofMarch_eq moves, first]
    · obtain rfl : month = 11 := by omega
      rw [if_neg (Nat.lt_irrefl 11)] at after
      have ended : ¬ day + 1 < marchYearLength year := by omega
      rw [next, if_neg last, if_neg ended]
      rfl

/-! ## All days -/

theorem toDays_ofDays (days : Int) : (ofDays days).toDays = days := by
  obtain ⟨year, day, inYear, rfl⟩ := exists_march days
  rw [ofDays_march inYear, toDays_ofMarch inYear]

theorem valid_ofDays (days : Int) : (ofDays days).valid = true := by
  obtain ⟨year, day, inYear, rfl⟩ := exists_march days
  rw [ofDays_march inYear, valid_ofMarch inYear]

theorem ofDays_succ (days : Int) : ofDays (days + 1) = (ofDays days).next := by
  obtain ⟨year, day, inYear, rfl⟩ := exists_march days
  rw [ofDays_march inYear, next_ofMarch inYear]
  by_cases more : day + 1 < marchYearLength year
  · rw [if_pos more, ← ofDays_march more, Int.natCast_succ, Int.add_assoc]
  · have first : 0 < marchYearLength (year + 1) := by
      unfold marchYearLength
      split <;> decide
    have ended : marchYearLength year = day + 1 := by omega
    rw [if_neg more, ← ofDays_march first, marchStart_succ, ended]
    congr 1
    omega

/-! ## Years of the calendar -/

theorem marchStart_mono {later : Int} (le : year ≤ later) :
    marchStart year ≤ marchStart later := by
  obtain ⟨n, rfl⟩ := Int.le.dest le
  clear le
  induction n with
  | zero => simp
  | succ n ih =>
      have step := marchStart_succ (year + n)
      rw [Int.natCast_succ, ← Int.add_assoc]
      omega

theorem toDays_newYear (year : Int) : toDays ⟨year, 1, 1⟩ = marchStart (year - 1) + 306 := by
  have leap := marchYearLength_cases (year - 1)
  have january : ofMarch (year - 1) 306 = ⟨year - 1 + 1, 1, 1⟩ := rfl
  rw [Int.sub_add_cancel] at january
  rw [← january]
  exact toDays_ofMarch (by omega)

theorem year_ofDays_lt_iff (days year : Int) :
    (ofDays days).year < year ↔ days < toDays ⟨year, 1, 1⟩ := by
  obtain ⟨own, day, inYear, rfl⟩ := exists_march days
  have leap := marchYearLength_cases own
  generalize placed : (5 * day + 2) / 153 = month
  have january : month < 10 ↔ day < 306 := by omega
  rw [ofDays_march inYear, ofMarch_eq placed, toDays_newYear, yearFromMarch]
  simp only [january]
  rcases Int.lt_trichotomy own (year - 1) with earlier | rfl | later
  · have ended := marchStart_succ own
    have mono := marchStart_mono (by omega : own + 1 ≤ year - 1)
    split <;> omega
  · split <;> omega
  · have length := marchYearLength_cases (year - 1)
    have started := marchStart_succ (year - 1)
    have mono := marchStart_mono (by omega : year - 1 + 1 ≤ own)
    split <;> omega

end Countersign.Date
