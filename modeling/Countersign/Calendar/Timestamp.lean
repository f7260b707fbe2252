import Countersign.Calendar.Date
import Countersign.Decimal

/-!
# Points in time as text

Milliseconds since the start of 1970 are written as a date and a time of day in UTC with three
decimals.  Reading takes any offset, drops further decimals, and carries a second numbered 60.
-/

namespace Countersign.Timestamp

def millisPerDay : Nat := 86400000

/-- Years from 0 to 9999 have four digits, all others a sign and at least four. -/
def yearText (year : Int) : String :=
  if 0 ≤ year ∧ year ≤ 9999 then Decimal.padded 4 year.toNat
  else (if year < 0 then "-" else "+") ++ Decimal.padded 4 year.natAbs

def writable (year : Int) : Bool := -262143 ≤ year ∧ year ≤ 262142

def text (ms : Int) : String :=
  let date := Date.ofDays (ms / millisPerDay)
  let rest := (ms % millisPerDay).toNat
  if writable date.year then
    yearText date.year ++ "-" ++ Decimal.padded 2 date.month ++ "-" ++ Decimal.padded 2 date.day ++
      "T" ++ Decimal.padded 2 (rest / 3600000) ++ ":" ++
      Decimal.padded 2 (rest / 60000 % 60) ++ ":" ++ Decimal.padded 2 (rest / 1000 % 60) ++ "." ++
      Decimal.padded 3 (rest % 1000) ++ "Z"
  else ""

def digit? (c : Char) : Option Nat :=
  if '0' ≤ c ∧ c ≤ '9' then some (c.toNat - 48) else none

def number? : (count : Nat) → (value : Nat) → List Char → Option (Nat × List Char)
  | 0, value, cs => some (value, cs)
  | _ + 1, _, [] => none
  | count + 1, value, c :: cs =>
      match digit? c with
      | some d => number? count (value * 10 + d) cs
      | none => none

def sign? (accepted : List Char) : List Char → Option (List Char)
  | [] => none
  | c :: cs => if accepted.contains c then some cs else none

def leadingDigits : List Char → List Nat × List Char
  | [] => ([], [])
  | c :: cs =>
      match digit? c with
      | some d => let (ds, rest) := leadingDigits cs; (d :: ds, rest)
      | none => ([], c :: cs)

def decimals? : List Char → Option (Nat × List Char)
  | '.' :: cs =>
      match leadingDigits cs with
      | ([], _) => none
      | (ds, rest) => some (Decimal.value ((ds ++ [0, 0]).take 3), rest)
  | cs => some (0, cs)

def offset? : List Char → Option Int
  | [c] => if c = 'Z' ∨ c = 'z' then some 0 else none
  | c :: cs => do
      let ahead ← if c = '+' then some true
        else if c = '-' ∨ c = '\u2212' then some false else none
      let (hours, cs) ← number? 2 0 cs
      let cs ← sign? [':'] cs
      let (minutes, cs) ← number? 2 0 cs
      if hours < 24 ∧ minutes < 60 ∧ cs = [] then
        let total : Int := hours * 60 + minutes
        some (if ahead then total else -total)
      else none
  | [] => none

def read? (cs : List Char) : Option Int := do
  let (year, cs) ← number? 4 0 cs
  let cs ← sign? ['-'] cs
  let (month, cs) ← number? 2 0 cs
  let cs ← sign? ['-'] cs
  let (day, cs) ← number? 2 0 cs
  let cs ← sign? ['T', 't', ' '] cs
  let (hour, cs) ← number? 2 0 cs
  let cs ← sign? [':'] cs
  let (minute, cs) ← number? 2 0 cs
  let cs ← sign? [':'] cs
  let (second, cs) ← number? 2 0 cs
  let (millis, cs) ← decimals? cs
  let offset ← offset? cs
  let date : Date := ⟨year, month, day⟩
  if date.valid ∧ hour < 24 ∧ minute < 60 ∧ second ≤ 60 then
    some (date.toDays * millisPerDay + hour * 3600000 + (minute - offset) * 60000 +
      second * 1000 + millis)
  else none

def parse? (text : String) : Option Int := read? text.toList

end Countersign.Timestamp
