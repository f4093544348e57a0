import BrokerClient.Proofs.Calendar.Written

/-!
# One day after the other

The day after a date is the next day of the month, the first of the next month or the first of the
next year. Its number is the next one, so the numbers of days count the calendar day by day, through
months, leap days and years, and no two dates have the same number.

An offset from UTC is shorter than a day. A local date and time is therefore in UTC a time on the
same date, on the day before or on the day after (`Timestamp.Civil.InUtc`).

## Main definitions

* `Date.next` — the day after a date.
* `Timestamp.Civil.InUtc` — a local date and time in UTC.

## Main results

* `Date.dayNumber_next` — the days are numbered one after the other.
* `Date.eq_of_dayNumber_eq` — a date is known by its number.
* `Timestamp.Civil.inUtc_of_micros` — the date and the time of the day that an instant has in UTC.
-/

namespace BrokerClient.Calendar

/-! ### Months and years -/

theorem daysBeforeMonth_succ (year : ℕ) {month : ℕ} (pos : 1 ≤ month) :
    daysBeforeMonth year (month + 1) = daysBeforeMonth year month + daysInMonth year month := by
  obtain ⟨k, rfl⟩ := Nat.exists_eq_add_of_le' pos
  have named : (k + 1 == 0) = false := rfl
  simp only [daysBeforeMonth, daysInMonth, Nat.add_sub_cancel, List.take_add_one, named]
  change List.sum _ = List.sum _ + _
  rw [List.sum_append]
  cases (monthLengths year)[k]? <;> simp

theorem daysBeforeMonth_mono (year : ℕ) : Monotone (daysBeforeMonth year) := by
  refine monotone_nat_of_le_succ fun month => ?_
  obtain rfl | pos := Nat.eq_zero_or_pos month
  · exact Nat.zero_le _
  · rw [daysBeforeMonth_succ year pos]
    exact Nat.le_add_right _ _

theorem daysBeforeYear_mono : Monotone daysBeforeYear := by
  refine monotone_nat_of_le_succ fun year => ?_
  obtain rfl | pos := Nat.eq_zero_or_pos year
  · exact Nat.zero_le _
  · rw [daysBeforeYear_succ pos]
    exact Nat.le_add_right _ _

theorem daysInMonth_pos {year month : ℕ} (first : 1 ≤ month) (last : month ≤ 12) :
    1 ≤ daysInMonth year month := by
  cases leap : isLeap year <;> interval_cases month <;> simp [daysInMonth, monthLengths, leap]

/-- The days of a year are those before December and those of December. -/
theorem daysBeforeMonth_december (year : ℕ) :
    daysBeforeMonth year 12 + daysInMonth year 12 = if isLeap year then 366 else 365 := by
  rw [← daysBeforeMonth_succ year (by decide), ← sum_monthLengths]
  rfl

namespace Date

variable {d d' : Date}

theorem isValid_iff : d.isValid ↔
    1 ≤ d.month ∧ d.month ≤ 12 ∧ 1 ≤ d.day ∧ d.day ≤ daysInMonth d.year d.month := by
  simp only [isValid, Bool.and_eq_true, decide_eq_true_eq, and_assoc]

/-! ### The day after -/

/-- The day after a date. -/
def next (d : Date) : Date :=
  if d.day < daysInMonth d.year d.month then ⟨d.year, d.month, d.day + 1⟩
  else if d.month < 12 then ⟨d.year, d.month + 1, 1⟩
  else ⟨d.year + 1, 1, 1⟩

theorem isValid_next (h : d.isValid) : d.next.isValid := by
  obtain ⟨first, last, pos, le⟩ := isValid_iff.mp h
  rw [isValid_iff, next]
  split
  · exact ⟨first, last, Nat.le_add_left 1 _, Nat.succ_le_of_lt ‹_›⟩
  · split
    · have later : d.month + 1 ≤ 12 := Nat.succ_le_of_lt ‹_›
      exact ⟨Nat.le_add_left 1 _, later, le_rfl, daysInMonth_pos (Nat.le_add_left 1 _) later⟩
    · have january : 1 ≤ 12 := by decide
      exact ⟨le_rfl, january, le_rfl, daysInMonth_pos le_rfl january⟩

theorem one_le_year_next (pos : 1 ≤ d.year) : 1 ≤ d.next.year := by
  unfold next
  split
  · exact pos
  · split
    · exact pos
    · exact Nat.le_add_left 1 _

/-- The days are numbered one after the other. -/
theorem dayNumber_next (h : d.isValid) (pos : 1 ≤ d.year) :
    d.next.dayNumber = d.dayNumber + 1 := by
  obtain ⟨first, last, day_pos, le⟩ := isValid_iff.mp h
  unfold next
  split
  · simp only [dayNumber]
    omega
  · split
    · simp only [dayNumber, daysBeforeMonth_succ d.year first]
      omega
    · have december : d.month = 12 := by omega
      have year := daysBeforeMonth_december d.year
      have start : daysBeforeMonth (d.year + 1) 1 = 0 := rfl
      simp only [dayNumber, daysBeforeYear_succ pos, start, december] at *
      omega

/-! ### Dates by their numbers -/

/-- The number of a day lies between the first day of its year and that of the next one. -/
theorem dayNumber_bounds (h : d.isValid) (pos : 1 ≤ d.year) :
    daysBeforeYear d.year ≤ d.dayNumber ∧ d.dayNumber < daysBeforeYear (d.year + 1) := by
  have within := dayOfYear_lt h
  rw [daysBeforeYear_succ pos]
  unfold dayNumber
  omega

/-- A date is known by its number. -/
theorem eq_of_dayNumber_eq (h : d.isValid) (h' : d'.isValid) (pos : 1 ≤ d.year)
    (pos' : 1 ≤ d'.year) (same : d.dayNumber = d'.dayNumber) : d = d' := by
  have year_le {d d' : Date} (h : d.isValid) (h' : d'.isValid) (pos : 1 ≤ d.year)
      (pos' : 1 ≤ d'.year) (same : d.dayNumber = d'.dayNumber) : d.year ≤ d'.year := by
    by_contra! lt
    have later : daysBeforeYear (d'.year + 1) ≤ daysBeforeYear d.year := daysBeforeYear_mono lt
    have := (dayNumber_bounds h pos).1
    have := (dayNumber_bounds h' pos').2
    omega
  have month_le {d d' : Date} (h' : d'.isValid) (year : d.year = d'.year)
      (same : d.dayNumber = d'.dayNumber) : d.month ≤ d'.month := by
    by_contra! lt
    obtain ⟨first, -, pos, le⟩ := isValid_iff.mp h'
    have later : daysBeforeMonth d.year (d'.month + 1) ≤ daysBeforeMonth d.year d.month :=
      daysBeforeMonth_mono d.year lt
    rw [daysBeforeMonth_succ d.year first, year] at later
    simp only [dayNumber, year] at same
    omega
  have year := Nat.le_antisymm (year_le h h' pos pos' same) (year_le h' h pos' pos same.symm)
  have month := Nat.le_antisymm (month_le h' year same) (month_le h year.symm same.symm)
  have day : d.day = d'.day := by
    have := (isValid_iff.mp h).2.2.1
    have := (isValid_iff.mp h').2.2.1
    simp only [dayNumber, year, month] at same
    omega
  cases d
  cases d'
  simp_all

end Date

/-! ### From local time to UTC -/

namespace Timestamp.Civil

/-- A local date and time, an offset in minutes ahead of UTC, and its date and time of the day in
UTC, in microseconds. -/
inductive InUtc (c : Civil) : Date → ℕ → Prop
  | sameDay {time : ℕ}
    (moved : (time : ℤ) = c.timeOfDay - c.offset.getD 0 * 60000000) : InUtc c c.date time
  | dayBefore {d : Date} {time : ℕ} (next : d.next = c.date)
    (moved : (time : ℤ) = c.timeOfDay - c.offset.getD 0 * 60000000 + microsPerDay) :
    InUtc c d time
  | dayAfter {time : ℕ}
    (moved : (time : ℤ) = c.timeOfDay - c.offset.getD 0 * 60000000 - microsPerDay) :
    InUtc c c.date.next time

/-- The date and the time of the day in UTC of an instant that is given by a local date and time. -/
theorem inUtc_of_micros {c : Civil} {t : Instant} (valid : c.date.isValid) (pos : 1 ≤ c.date.year)
    (time : c.timeOfDay < 86400000000) (offset : (c.offset.getD 0).natAbs < 1440)
    (h : t.micros = c.micros) : c.InUtc t.date t.timeOfDay := by
  obtain ⟨valid', pos', -, stands⟩ := t.date_spec
  have time' : t.timeOfDay < 86400000000 := Nat.mod_lt _ (by decide)
  have next := Date.dayNumber_next valid pos
  have next' := Date.dayNumber_next valid' pos'
  have year := Date.one_le_year_next pos
  have year' := Date.one_le_year_next pos'
  rw [h, micros, Instant.civilMicros, Instant.civilMicros] at stands
  simp only [microsPerDay, Int.ofNat_eq_natCast] at stands
  obtain before | same | after := lt_trichotomy t.date.dayNumber c.date.dayNumber
  · have next : t.date.next = c.date :=
      Date.eq_of_dayNumber_eq (Date.isValid_next valid') valid year' pos (by omega)
    exact .dayBefore next (by simp only [microsPerDay]; omega)
  · have date : t.date = c.date := Date.eq_of_dayNumber_eq valid' valid pos' pos same
    rw [date]
    exact .sameDay (by omega)
  · have date : t.date = c.date.next :=
      Date.eq_of_dayNumber_eq valid' (Date.isValid_next valid) pos' year (by omega)
    rw [date]
    exact .dayAfter (by simp only [microsPerDay]; omega)

end Timestamp.Civil

end BrokerClient.Calendar
