/-!
# Dates

Days are counted from 1 January 1970 in the proleptic Gregorian calendar, through years that begin
in March, so that the leap day comes last, and periods of 400 years, which are all equally long.
-/

namespace Countersign

structure Date where
  year : Int
  month : Nat
  day : Nat
  deriving DecidableEq, Repr

namespace Date

def daysPerPeriod : Nat := 146097

/-- The day count of 1 March of the year 0, negated. -/
def epochOffset : Int := 719468

def isLeap (year : Int) : Bool := year % 4 = 0 ∧ (year % 100 ≠ 0 ∨ year % 400 = 0)

def daysInMonth (year : Int) (month : Nat) : Nat :=
  if month = 2 then (if isLeap year then 29 else 28)
  else if month = 4 ∨ month = 6 ∨ month = 9 ∨ month = 11 then 30
  else 31

def valid (d : Date) : Bool :=
  1 ≤ d.month ∧ d.month ≤ 12 ∧ 1 ≤ d.day ∧ d.day ≤ daysInMonth d.year d.month

def daysBeforeYear (year : Nat) : Nat := 365 * year + year / 4 - year / 100

/-- The days of a year that begins in March before its month with this number, from zero on. -/
def daysBeforeMonth (month : Nat) : Nat := (153 * month + 2) / 5

def toDays (d : Date) : Int :=
  let marchMonth := (d.month + 9) % 12
  let marchYear := if d.month ≤ 2 then d.year - 1 else d.year
  let dayOfPeriod :=
    daysBeforeYear (marchYear % 400).toNat + daysBeforeMonth marchMonth + (d.day - 1)
  marchYear / 400 * daysPerPeriod + dayOfPeriod - epochOffset

def ofDays (days : Int) : Date :=
  let shifted := days + epochOffset
  let dayOfPeriod := (shifted % daysPerPeriod).toNat
  let year := (dayOfPeriod - dayOfPeriod / 1460 + dayOfPeriod / 36524 - dayOfPeriod / 146096) / 365
  let dayOfYear := dayOfPeriod - daysBeforeYear year
  let marchMonth := (5 * dayOfYear + 2) / 153
  let month := if marchMonth < 10 then marchMonth + 3 else marchMonth - 9
  let marchYear := shifted / daysPerPeriod * 400 + year
  { year := if month ≤ 2 then marchYear + 1 else marchYear
    month := month
    day := dayOfYear - daysBeforeMonth marchMonth + 1 }

end Date

end Countersign
