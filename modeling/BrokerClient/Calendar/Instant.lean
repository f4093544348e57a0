import BrokerClient.Calendar.Date
import BrokerClient.Number.Decimal

/-!
# Instants

An instant is a point of time in UTC, to the microsecond, within the years 1 to 9999. It is counted
in microseconds from 1 January 1970. `Instant.text` writes it as a date and a time of day.
-/

namespace BrokerClient.Calendar

/-- The microseconds of a day. -/
def microsPerDay : Int := 86400000000

/-- The first microsecond of the year 1, counted from 1970. -/
def firstMicro : Int := -62135596800000000

/-- The last microsecond of the year 9999, counted from 1970. -/
def lastMicro : Int := 253402300799999999

/-- A point of time within the calendar, in microseconds from 1970. -/
structure Instant where
  micros : Int
  first_le : firstMicro ≤ micros
  le_last : micros ≤ lastMicro
  deriving DecidableEq, Repr

namespace Instant

instance : Inhabited Instant := ⟨⟨0, by decide, by decide⟩⟩

/-- The instant at a count of microseconds, if the calendar has it. -/
def ofMicros? (n : Int) : Option Instant :=
  if h : firstMicro ≤ n ∧ n ≤ lastMicro then some ⟨n, h.1, h.2⟩ else none

/-- The count of microseconds of a civil date and a time of the day in microseconds. -/
def civilMicros (d : Date) (timeOfDay : Int) : Int :=
  firstMicro + Int.ofNat d.dayNumber * microsPerDay + timeOfDay

/-- The microseconds since the first of the year 1. -/
def sinceFirst (t : Instant) : Nat :=
  (t.micros - firstMicro).toNat

/-- The date of an instant. -/
def date (t : Instant) : Date :=
  Date.ofDayNumber (t.sinceFirst / 86400000000)

/-- The time of the day of an instant, in microseconds. -/
def timeOfDay (t : Instant) : Nat :=
  t.sinceFirst % 86400000000

/-- The text of an instant: the date, `T`, the time to the second, six digits of a fraction
unless it is zero, and the name of the zone. -/
def text (t : Instant) (zone : String) : String :=
  let d := t.date
  let seconds := t.timeOfDay / 1000000
  let fraction := t.timeOfDay % 1000000
  let pad := Number.padded
  pad 4 d.year ++ "-" ++ pad 2 d.month ++ "-" ++ pad 2 d.day ++ "T" ++
    pad 2 (seconds / 3600) ++ ":" ++ pad 2 (seconds / 60 % 60) ++ ":" ++ pad 2 (seconds % 60) ++
    (if fraction == 0 then "" else "." ++ pad 6 fraction) ++ zone

/-- An instant that is made from a count has that count. -/
theorem micros_of_ofMicros? {n : Int} {t : Instant} (h : ofMicros? n = some t) : t.micros = n := by
  unfold ofMicros? at h
  split at h
  · simp only [Option.some.injEq] at h
    rw [← h]
  · simp at h

/-- The count of an instant gives the instant back. -/
@[simp]
theorem ofMicros?_micros (t : Instant) : ofMicros? t.micros = some t := by
  simp [ofMicros?, t.first_le, t.le_last]

end Instant

end BrokerClient.Calendar
