import BrokerClient.Calendar.Timestamp
import Mathlib.Tactic.IntervalCases

/-!
# Which timestamps leave the calendar

A civil date and time with an offset may lie outside the years 1 to 9999 in UTC, by at most a day.
No other text fails in this way: dates alone stay inside, and numbers outside the calendar are
refused as such.

## Main definitions

* `Timestamp.Civil.leavesCalendar` — whether a civil date and time leaves the calendar.

## Main results

* `Date.dayNumber_le` — the day numbers of four-digit years.
* `Timestamp.ofText_eq_beyondCalendar_iff` — the texts that leave the calendar.
-/

namespace BrokerClient.Calendar

theorem daysBeforeYear_succ {year : Nat} (h : 1 ≤ year) :
    daysBeforeYear (year + 1) = daysBeforeYear year + (if isLeap year then 366 else 365) := by
  obtain ⟨p, rfl⟩ := Nat.exists_eq_add_of_le' h
  have fourth : (p + 1) / 4 = p / 4 + if (p + 1) % 4 = 0 then 1 else 0 := by split <;> omega
  have century : (p + 1) / 100 = p / 100 + if (p + 1) % 100 = 0 then 1 else 0 := by
    split <;> omega
  have cycle : (p + 1) / 400 = p / 400 + if (p + 1) % 400 = 0 then 1 else 0 := by
    split <;> omega
  have fewer : p / 100 ≤ p / 4 := Nat.div_le_div_left (by omega) (by omega)
  simp only [daysBeforeYear, Nat.add_sub_cancel, fourth, century, cycle]
  by_cases h4 : (p + 1) % 4 = 0
  · by_cases h100 : (p + 1) % 100 = 0
    · by_cases h400 : (p + 1) % 400 = 0
      · simp [isLeap, h4, h100, h400]
        omega
      · simp [isLeap, h4, h100, h400]
        omega
    · have h400 : (p + 1) % 400 ≠ 0 := by omega
      simp [isLeap, h4, h100, h400]
      omega
  · have h100 : (p + 1) % 100 ≠ 0 := by omega
    have h400 : (p + 1) % 400 ≠ 0 := by omega
    simp [isLeap, h4, h100, h400]
    omega

/-- A date falls within the days of its year. -/
theorem Date.dayOfYear_lt {d : Date} (h : d.isValid) :
    daysBeforeMonth d.year d.month + (d.day - 1) < if isLeap d.year then 366 else 365 := by
  obtain ⟨year, month, day⟩ := d
  simp only [isValid, Bool.and_eq_true, decide_eq_true_eq] at h
  obtain ⟨⟨⟨one, twelve⟩, first⟩, last⟩ := h
  simp only
  cases leap : isLeap year <;> interval_cases month <;>
    simp [daysInMonth, monthLengths, daysBeforeMonth, leap] at last ⊢ <;> omega

theorem Date.dayNumber_le {d : Date} (h : d.isValid) (le : d.year ≤ 9999) :
    d.dayNumber ≤ 3652058 := by
  have := dayOfYear_lt h
  unfold dayNumber
  rcases Nat.eq_zero_or_pos d.year with zero | pos
  · have none : daysBeforeYear 0 = 0 := rfl
    have leap : isLeap 0 := rfl
    rw [zero, if_pos leap] at this
    rw [zero, none]
    omega
  · have grown := daysBeforeYear_succ pos
    have bound : daysBeforeYear (d.year + 1) ≤ 3652059 := by
      simp only [daysBeforeYear, Nat.add_sub_cancel]
      omega
    omega

namespace Timestamp

theorem digit?_lt {c : Char} {n : Nat} (h : digit? c = some n) : n < 10 := by
  unfold digit? at h
  split at h
  · rename_i digit
    simp only [Json.isDigit, Bool.and_eq_true, decide_eq_true_eq] at digit
    have le : c.toNat ≤ 57 := digit.2
    cases h
    omega
  · cases h

theorem twoDigits_lt {cs : List Char} {n : Nat} {rest : List Char}
    (h : twoDigits cs = some (n, rest)) : n < 100 := by
  unfold twoDigits at h
  split at h
  · simp only [Option.bind_eq_bind, Option.bind_eq_some_iff] at h
    obtain ⟨x, hx, y, hy, h⟩ := h
    have := digit?_lt hx
    have := digit?_lt hy
    cases h
    omega
  · cases h

theorem datePart_bounds {cs rest : List Char} {d : Date} (h : datePart cs = some (d, rest)) :
    d.isValid ∧ d.year ≤ 9999 := by
  simp only [datePart, Option.bind_eq_bind, Option.bind_eq_some_iff] at h
  obtain ⟨⟨century, cs⟩, hc, ⟨year, cs⟩, hy, h⟩ := h
  simp only at h
  split at h
  · simp only [Option.bind_eq_some_iff] at h
    obtain ⟨⟨month, cs⟩, hm, h⟩ := h
    simp only at h
    split at h
    · simp only [Option.bind_eq_some_iff] at h
      obtain ⟨⟨day, cs⟩, hd, h⟩ := h
      simp only at h
      split at h
      · rename_i valid
        have := twoDigits_lt hc
        have := twoDigits_lt hy
        cases h
        refine ⟨valid, ?_⟩
        simp only
        omega
      · cases h
    · cases h
  · cases h

/-- The microseconds of a civil date and time in UTC. -/
def Civil.micros (c : Civil) : Int :=
  Instant.civilMicros c.date c.timeOfDay - c.offset.getD 0 * 60000000

/-- Whether a civil date and time leaves the calendar on the way to UTC. -/
def Civil.leavesCalendar (c : Civil) : Bool :=
  c.date.year ≠ 0 ∧ (c.micros < firstMicro ∨ lastMicro < c.micros)

theorem Civil.leavesCalendar_iff {c : Civil} :
    c.leavesCalendar ↔ c.date.year ≠ 0 ∧ (c.micros < firstMicro ∨ lastMicro < c.micros) :=
  decide_eq_true_iff

theorem Civil.instant_eq_beyondCalendar_iff {c : Civil} :
    c.instant = .error .beyondCalendar ↔ c.leavesCalendar := by
  have inside : Instant.ofMicros? c.micros = none ↔
      c.micros < firstMicro ∨ lastMicro < c.micros := by
    unfold Instant.ofMicros?
    split
    · simp only [reduceCtorEq, false_iff]
      omega
    · simp only [true_iff]
      omega
  rw [leavesCalendar_iff, ← inside]
  unfold Civil.instant Civil.micros
  simp only
  generalize Instant.ofMicros? _ = t
  by_cases zero : c.date.year = 0
  · simp [zero]
  · cases t <;> simp [zero]

/-- The midnight of a date stays in the calendar. -/
theorem instant_midnight_ne {cs : List Char} {d : Date} (h : dateOnly? cs = some d) :
    Civil.instant ⟨d, 0, none⟩ ≠ .error .beyondCalendar := by
  rw [Ne, Civil.instant_eq_beyondCalendar_iff]
  simp only [dateOnly?, Option.bind_eq_bind, Option.bind_eq_some_iff] at h
  obtain ⟨⟨d', rest⟩, hd, h⟩ := h
  obtain ⟨valid, le⟩ := datePart_bounds hd
  have same : d' = d := by
    split at h <;> simp_all
  subst same
  have := Date.dayNumber_le valid le
  simp only [Civil.leavesCalendar_iff, Civil.micros, Instant.civilMicros, firstMicro, lastMicro,
    microsPerDay, Option.getD_none, Int.ofNat_eq_natCast]
  omega

theorem ofWrittenMicros_ne (n : Option Int) : ofWrittenMicros n ≠ .error .beyondCalendar := by
  unfold ofWrittenMicros
  split
  · split
    · simp
    · split <;> simp
  · simp

theorem ofMicros_ne (n : Option Int) : ofMicros n ≠ .error .beyondCalendar := by
  unfold ofMicros
  split <;> simp

/-- Of all texts only civil dates and times leave the calendar. -/
theorem ofText_eq_beyondCalendar_iff {s : String} :
    ofText s = .error .beyondCalendar ↔ (civil? s.toList).any Civil.leavesCalendar := by
  unfold ofText
  simp only
  cases hc : civil? s.toList with
  | some c => simp [Civil.instant_eq_beyondCalendar_iff]
  | none =>
    simp only [Option.any_none, Bool.false_eq_true, iff_false]
    split
    · exact ofWrittenMicros_ne _
    · exact ofWrittenMicros_ne _
    · split
      · exact instant_midnight_ne ‹_›
      · simp

end Timestamp

end BrokerClient.Calendar
