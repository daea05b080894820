/-!
# Calendar dates

Dates of the proleptic Gregorian calendar, and their numbering by days.  Day 0 is 1 January 1970;
the numbering is computed in years that begin in March, so that a leap day is the last day of its
year and the lengths of the months follow one formula.
-/

namespace AgentLaunch.Time

structure Date where
  year : Int
  month : Nat
  day : Nat
  deriving DecidableEq, Repr

namespace Date

def isLeap (year : Int) : Bool :=
  year % 4 == 0 && (year % 100 != 0 || year % 400 == 0)

def monthLength (year : Int) (month : Nat) : Nat :=
  if month = 2 then (if isLeap year then 29 else 28)
  else if month = 4 ∨ month = 6 ∨ month = 9 ∨ month = 11 then 30
  else 31

/-- The years that a date may lie in. -/
def yearInRange (year : Int) : Bool :=
  -262143 ≤ year && year ≤ 262142

def isValid (d : Date) : Bool :=
  yearInRange d.year && 1 ≤ d.month && d.month ≤ 12 && 1 ≤ d.day
    && d.day ≤ monthLength d.year d.month

/-- The number of a date, counted from 1 January 1970. -/
def toDays (d : Date) : Int :=
  let year := if d.month ≤ 2 then d.year - 1 else d.year
  let month := if d.month ≤ 2 then d.month + 9 else d.month - 3
  let era := Int.fdiv year 400
  let yearOfEra := year - era * 400
  let dayOfYear : Int := (153 * month + 2) / 5 + d.day - 1
  let dayOfEra := yearOfEra * 365 + yearOfEra / 4 - yearOfEra / 100 + dayOfYear
  era * 146097 + dayOfEra - 719468

def ofDays (n : Int) : Date :=
  let shifted := n + 719468
  let era := Int.fdiv shifted 146097
  let dayOfEra := (shifted - era * 146097).toNat
  let yearOfEra := (dayOfEra - dayOfEra / 1460 + dayOfEra / 36524 - dayOfEra / 146096) / 365
  let dayOfYear := dayOfEra - (365 * yearOfEra + yearOfEra / 4 - yearOfEra / 100)
  let shiftedMonth := (5 * dayOfYear + 2) / 153
  let month := if shiftedMonth < 10 then shiftedMonth + 3 else shiftedMonth - 9
  let year := era * 400 + yearOfEra
  { year := if month ≤ 2 then year + 1 else year
    month
    day := dayOfYear - (153 * shiftedMonth + 2) / 5 + 1 }

example : toDays ⟨1970, 1, 1⟩ = 0 ∧ toDays ⟨2000, 2, 29⟩ = 11016
    ∧ toDays ⟨-1, 12, 31⟩ = -719529 := by
  decide

example : ofDays 0 = ⟨1970, 1, 1⟩ ∧ ofDays 11016 = ⟨2000, 2, 29⟩
    ∧ ofDays (-719529) = ⟨-1, 12, 31⟩ := by
  decide

end Date

end AgentLaunch.Time
