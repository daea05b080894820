import AgentLaunch.Time.Date

/-!
# Points in time

A point in time is a UTC day, a second of it and the nanoseconds after that second.  A leap second
is written as second 60; it is kept as nanoseconds from 10^9 on that follow second 59, so that it
survives being shifted by an offset and is displayed as it was given.
-/

namespace AgentLaunch

/-- A point in time, in UTC. -/
structure Timestamp where
  /-- Days since 1 January 1970. -/
  day : Int
  /-- Seconds since midnight. -/
  second : Nat
  /-- Nanoseconds since the second; from 10^9 on, they lie in the leap second after it. -/
  nano : Nat
  deriving DecidableEq, Repr, Inhabited

namespace Timestamp

/-- The point in time of a local date and time of day at an offset from UTC, unless its date lies
outside the calendar. -/
def ofLocal? (date : Time.Date) (second nano : Nat) (offset : Int) : Option Timestamp :=
  let shifted : Int := second - offset
  let day := date.toDays + Int.fdiv shifted 86400
  if Time.Date.yearInRange (Time.Date.ofDays day).year then
    some ⟨day, (shifted - Int.fdiv shifted 86400 * 86400).toNat, nano⟩
  else none

/-- The nanoseconds from one point in time to another.  A leap second counts for those that look
back at it from a later second of its day. -/
def since (later earlier : Timestamp) : Int :=
  let leap : Int :=
    if earlier.second < later.second then (if 1000000000 ≤ earlier.nano then 1 else 0)
    else if later.second < earlier.second then (if 1000000000 ≤ later.nano then -1 else 0)
    else 0
  let days := later.day - earlier.day
  let seconds : Int := later.second - earlier.second
  (days * 86400 + seconds + leap) * 1000000000 + ((later.nano : Int) - earlier.nano)

/-! ## Display -/

/-- A natural number with at least `width` digits. -/
def padded (width n : Nat) : String :=
  let digits := Nat.toDigits 10 n
  String.ofList (List.replicate (width - digits.length) '0' ++ digits)

/-- A year: four digits, or a sign and at least four digits outside 0 to 9999. -/
def yearText (year : Int) : String :=
  if 0 ≤ year ∧ year ≤ 9999 then padded 4 year.toNat
  else (if year < 0 then "-" else "+") ++ padded 4 year.natAbs

/-- The fraction of a second with 3, 6 or 9 digits, whichever is exact first; nothing if it is
zero. -/
def fractionText (nano : Nat) : String :=
  if nano = 0 then ""
  else if nano % 1000000 = 0 then "." ++ padded 3 (nano / 1000000)
  else if nano % 1000 = 0 then "." ++ padded 6 (nano / 1000)
  else "." ++ padded 9 nano

def dateText (t : Timestamp) : String :=
  let d := Time.Date.ofDays t.day
  yearText d.year ++ "-" ++ padded 2 d.month ++ "-" ++ padded 2 d.day

def timeText (t : Timestamp) : String :=
  let leap := 1000000000 ≤ t.nano
  let second := t.second % 60 + (if leap then 1 else 0)
  let nano := if leap then t.nano - 1000000000 else t.nano
  padded 2 (t.second / 3600) ++ ":" ++ padded 2 (t.second / 60 % 60) ++ ":" ++ padded 2 second
    ++ fractionText nano

def display (t : Timestamp) : String :=
  t.dateText ++ " " ++ t.timeText ++ " UTC"

def rfc3339 (t : Timestamp) : String :=
  t.dateText ++ "T" ++ t.timeText ++ "+00:00"

end Timestamp

end AgentLaunch
