/-!
# Civil dates

Dates of the proleptic Gregorian calendar from 1 January of the year 1 on. A date has a day number,
counted from zero at that day, and `Date.ofDayNumber` goes back by the cycles of 400, 100, 4 and
single years.
-/

namespace BrokerClient.Calendar

/-- A date; `Date.isValid` says which fields name a day. -/
structure Date where
  year : Nat
  month : Nat
  day : Nat
  deriving DecidableEq, Repr, Inhabited

/-- Every fourth year is a leap year, but of the centuries only every fourth. -/
def isLeap (year : Nat) : Bool :=
  year % 4 == 0 && (year % 100 != 0 || year % 400 == 0)

/-- The lengths of the months of a year. -/
def monthLengths (year : Nat) : List Nat :=
  [31, if isLeap year then 29 else 28, 31, 30, 31, 30, 31, 31, 30, 31, 30, 31]

/-- The length of a month; zero when there is no such month. -/
def daysInMonth (year month : Nat) : Nat :=
  if month == 0 then 0 else (monthLengths year)[month - 1]?.getD 0

/-- The days of all years before a given one. -/
def daysBeforeYear (year : Nat) : Nat :=
  let p := year - 1
  365 * p + p / 4 - p / 100 + p / 400

/-- The days of a year before a given month. -/
def daysBeforeMonth (year month : Nat) : Nat :=
  ((monthLengths year).take (month - 1)).foldr (· + ·) 0

namespace Date

/-- Whether the fields name a day. The year 0 passes: it can be written, but it is no year of
the calendar. -/
def isValid (d : Date) : Bool :=
  1 ≤ d.month && d.month ≤ 12 && 1 ≤ d.day && d.day ≤ daysInMonth d.year d.month

/-- The number of a day, counted from zero at 1 January of the year 1. -/
def dayNumber (d : Date) : Nat :=
  daysBeforeYear d.year + daysBeforeMonth d.year d.month + (d.day - 1)

/-- The month and the day that a day of the year falls on; days count from zero. -/
def ofYearDay (year : Nat) : Nat → List Nat → Nat → Date
  | month, [], n => ⟨year, month, n + 1⟩
  | month, length :: rest, n =>
    if n < length then ⟨year, month, n + 1⟩ else ofYearDay year (month + 1) rest (n - length)

/-- The date with a given day number. -/
def ofDayNumber (n : Nat) : Date :=
  let cycles := n / 146097
  let inCycle := n % 146097
  -- the last day of a cycle would count as the first of a fifth century
  let centuries := min 3 (inCycle / 36524)
  let inCentury := inCycle - centuries * 36524
  let fours := inCentury / 1461
  let inFour := inCentury % 1461
  let years := min 3 (inFour / 365)
  let year := 400 * cycles + 100 * centuries + 4 * fours + years + 1
  ofYearDay year 1 (monthLengths year) (inFour - years * 365)

end Date

end BrokerClient.Calendar
