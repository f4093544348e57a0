import BrokerClient.Calendar.Date
import Mathlib.Tactic.Common

/-!
# Dates by their day numbers

`Date.ofDayNumber` divides by the lengths of the cycles of 400, 100, 4 and single years. The last
century of a cycle and the last year of four are one day longer than the others, so these two
divisions stop at three; the day that is left over falls in a leap year.

## Main results

* `daysBeforeYear_cycles` — the days in front of a year, by the cycles that have passed.
* `Date.ofDayNumber_spec` — every day number has a date, and it is the day number of this date.
-/

namespace BrokerClient.Calendar

theorem sum_monthLengths (year : Nat) :
    (monthLengths year).foldr (· + ·) 0 = if isLeap year then 366 else 365 := by
  cases leap : isLeap year <;> simp [monthLengths, leap]

/-- Days in front of a year, by the cycles that have passed. -/
theorem daysBeforeYear_cycles (cycles : Nat) {centuries fours years : Nat} (hc : centuries ≤ 3)
    (hf : fours ≤ 24) (hy : years ≤ 3) :
    daysBeforeYear (400 * cycles + 100 * centuries + 4 * fours + years + 1) =
      146097 * cycles + 36524 * centuries + 1461 * fours + 365 * years := by
  have fourth : (400 * cycles + 100 * centuries + 4 * fours + years) / 4 =
      100 * cycles + 25 * centuries + fours := by omega
  have hundredth : (400 * cycles + 100 * centuries + 4 * fours + years) / 100 =
      4 * cycles + centuries := by omega
  have whole : (400 * cycles + 100 * centuries + 4 * fours + years) / 400 = cycles := by omega
  simp only [daysBeforeYear, Nat.add_sub_cancel, fourth, hundredth, whole]
  omega

/-- The last year of four is a leap year, unless it is the last of a century that is not itself
the last of a cycle. -/
theorem isLeap_cycles {cycles centuries fours : Nat} (hf : fours ≤ 24)
    (h : fours < 24 ∨ centuries = 3) :
    isLeap (400 * cycles + 100 * centuries + 4 * fours + 3 + 1) := by
  have fourth : (400 * cycles + 100 * centuries + 4 * fours + 3 + 1) % 4 = 0 := by omega
  simp only [isLeap, fourth, beq_self_eq_true, Bool.true_and, Bool.or_eq_true, bne_iff_ne,
    beq_iff_eq]
  omega

/-- A day of the year lies in one of its months. -/
theorem Date.ofYearDay_spec (year month : Nat) {lengths : List Nat} {n : Nat}
    (h : n < lengths.foldr (· + ·) 0) :
    ∃ k length day, lengths[k]? = some length ∧ day < length ∧
      (lengths.take k).foldr (· + ·) 0 + day = n ∧
      ofYearDay year month lengths n = ⟨year, month + k, day + 1⟩ := by
  induction lengths generalizing month n with
  | nil => cases h
  | cons length lengths ih =>
    rw [List.foldr_cons] at h
    by_cases first : n < length
    · exact ⟨0, length, n, rfl, first, by simp, by simp [ofYearDay, first]⟩
    · obtain ⟨k, l, day, month_eq, day_lt, sum, date⟩ := ih (month + 1) (n := n - length) (by omega)
      refine ⟨k + 1, l, day, month_eq, day_lt, ?_, ?_⟩
      · rw [List.take_succ_cons, List.foldr_cons]
        omega
      · rw [ofYearDay, if_neg first, date, Nat.add_assoc, Nat.add_comm 1 k]

/-- A day of the year has a date in this year. -/
theorem Date.ofYearDay_monthLengths {year n : Nat} (h : n < if isLeap year then 366 else 365) :
    let d := ofYearDay year 1 (monthLengths year) n
    d.isValid ∧ d.year = year ∧ daysBeforeMonth d.year d.month + (d.day - 1) = n := by
  rw [← sum_monthLengths] at h
  obtain ⟨k, length, day, month_eq, day_lt, sum, date⟩ := ofYearDay_spec year 1 h
  have few : k < 12 := (List.getElem?_eq_some_iff.mp month_eq).1
  have sum' : daysBeforeMonth year (1 + k) + day = n := by
    rw [daysBeforeMonth, Nat.add_sub_cancel_left]
    exact sum
  have month_length : daysInMonth year (1 + k) = length := by
    have ne : (1 + k == 0) = false := by simp
    rw [daysInMonth, ne, Nat.add_sub_cancel_left, month_eq]
    rfl
  simp only [date, Date.isValid, month_length, Nat.add_sub_cancel, sum', Bool.and_eq_true,
    decide_eq_true_eq, and_true]
  omega

/-- A division that stops at three leaves at most one whole length, and this only at three. -/
theorem min_three_div {n k : Nat} (pos : 0 < k) (h : n ≤ 4 * k) :
    min 3 (n / k) * k ≤ n ∧ n - min 3 (n / k) * k ≤ k ∧
      (n - min 3 (n / k) * k = k → min 3 (n / k) = 3) := by
  have split := Nat.div_add_mod' n k
  have small := Nat.mod_lt n pos
  rcases Nat.le_total (n / k) 3 with le | ge
  · rw [Nat.min_eq_right le]
    omega
  · have := Nat.mul_le_mul_right k ge
    rw [Nat.min_eq_left ge]
    omega

namespace Date

/-- Every day number has a date, and it is the day number of this date. -/
theorem ofDayNumber_spec (n : Nat) :
    (ofDayNumber n).isValid ∧ 1 ≤ (ofDayNumber n).year ∧ (ofDayNumber n).dayNumber = n := by
  have cycle := Nat.div_add_mod n 146097
  have inCycle_lt : n % 146097 < 146097 := Nat.mod_lt _ (by decide)
  unfold ofDayNumber
  simp only
  generalize n / 146097 = cycles at *
  generalize n % 146097 = inCycle at *
  obtain ⟨centuries_le, inCentury_le, lastCentury⟩ :=
    min_three_div (n := inCycle) (k := 36524) (by omega) (by omega)
  have few : min 3 (inCycle / 36524) ≤ 3 := Nat.min_le_left _ _
  generalize min 3 (inCycle / 36524) = centuries at *
  have century := Nat.add_sub_of_le centuries_le
  generalize inCycle - centuries * 36524 = inCentury at *
  have four := Nat.div_add_mod inCentury 1461
  have inFour_lt : inCentury % 1461 < 1461 := Nat.mod_lt _ (by decide)
  generalize inCentury / 1461 = fours at *
  generalize inCentury % 1461 = inFour at *
  obtain ⟨years_le, day_le, lastYear⟩ :=
    min_three_div (n := inFour) (k := 365) (by omega) (by omega)
  have single : min 3 (inFour / 365) ≤ 3 := Nat.min_le_left _ _
  generalize min 3 (inFour / 365) = years at *
  have year := Nat.add_sub_of_le years_le
  generalize inFour - years * 365 = day at *
  have fours_le : fours ≤ 24 := by omega
  have before := daysBeforeYear_cycles cycles few fours_le single
  have day_lt : day < if isLeap (400 * cycles + 100 * centuries + 4 * fours + years + 1) then 366
      else 365 := by
    by_cases last : day = 365
    · have three := lastYear last
      subst three
      rw [if_pos (isLeap_cycles fours_le (by omega))]
      omega
    · split <;> omega
  obtain ⟨valid, same, days⟩ := ofYearDay_monthLengths day_lt
  refine ⟨valid, by omega, ?_⟩
  rw [dayNumber, Nat.add_assoc, days, same, before]
  omega

end Date

end BrokerClient.Calendar
