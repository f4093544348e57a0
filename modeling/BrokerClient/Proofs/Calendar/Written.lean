import BrokerClient.Proofs.Calendar.Days
import BrokerClient.Proofs.Json.Numbers
import BrokerClient.Proofs.Timestamps

/-!
# Instants as they are written

An instant is written as its date and its time of the day in UTC, and the text is read as the same
instant: the fields are padded to the widths that the reader expects, and a fraction that is left
out is zero.

## Main definitions

* `Timestamp.dateChars`, `Timestamp.timeChars` — the texts of a date and of a time of the day.

## Main results

* `Instant.date_spec` — the date and the time of the day of an instant stand for it.
* `Instant.ofText_text` — an instant is read as it is written.
-/

namespace BrokerClient

open Number

namespace Calendar

theorem daysInMonth_le (year month : ℕ) : daysInMonth year month ≤ 31 := by
  have all : ∀ l ∈ monthLengths year, l ≤ 31 := by
    cases leap : isLeap year <;> simp [monthLengths, leap]
  unfold daysInMonth
  split
  · exact Nat.zero_le _
  · cases length : (monthLengths year)[month - 1]? with
    | none => exact Nat.zero_le _
    | some l => exact all l (List.mem_of_getElem? length)

/-- The month and the day of a date have two digits. -/
theorem Date.lt_of_isValid {d : Date} (h : d.isValid) : d.month < 100 ∧ d.day < 100 := by
  have le := daysInMonth_le d.year d.month
  simp only [isValid, Bool.and_eq_true, decide_eq_true_eq] at h
  omega

namespace Timestamp

variable {cs rest : List Char}

/-- Two digits are read as their value. -/
theorem twoDigits_append (digits : Json.Digits cs) (two : cs.length = 2) (rest : List Char) :
    twoDigits (cs ++ rest) = some (Json.digitsValue cs, rest) := by
  obtain ⟨a, b, rfl⟩ := List.length_eq_two.mp two
  have first : Json.isDigit a := digits a (by simp)
  have second : Json.isDigit b := digits b (by simp)
  simp [twoDigits, digit?, first, second, Json.digitsValue]

theorem twoDigits_padded {n : ℕ} (h : n < 100) (rest : List Char) :
    twoDigits ((padded 2 n).toList ++ rest) = some (n, rest) := by
  rw [twoDigits_append (Json.digits_padded 2 n) (Json.length_padded (by decide) h),
    Json.digitsValue_padded]

/-- The text of a date. -/
def dateChars (d : Date) : List Char :=
  (padded 4 d.year).toList ++ '-' :: ((padded 2 d.month).toList ++ '-' :: (padded 2 d.day).toList)

/-- A date is read as it is written. -/
theorem datePart_dateChars {d : Date} (valid : d.isValid) (le : d.year ≤ 9999)
    (rest : List Char) : datePart (dateChars d ++ rest) = some (d, rest) := by
  obtain ⟨month, day⟩ := Date.lt_of_isValid valid
  unfold dateChars
  have four := Json.length_padded (w := 4) (n := d.year) (by decide) (by omega)
  have digits := Json.digits_padded 4 d.year
  have value := Json.digitsValue_padded 4 d.year
  generalize (padded 4 d.year).toList = ys at *
  have front : Json.Digits (ys.take 2) := fun c hc => digits c (List.mem_of_mem_take hc)
  have back : Json.Digits (ys.drop 2) := fun c hc => digits c (List.mem_of_mem_drop hc)
  have century := twoDigits_append front (by simp [four])
  have year := twoDigits_append back (by simp [four])
  have sum : 100 * Json.digitsValue (ys.take 2) + Json.digitsValue (ys.drop 2) = d.year := by
    rw [← value, ← List.take_append_drop 2 ys, Json.digitsValue_append]
    simp [four, mul_comm]
  rw [← List.take_append_drop 2 ys]
  simp only [datePart, List.append_assoc, List.cons_append, century, year, twoDigits_padded month,
    twoDigits_padded day, Option.bind_eq_bind, Option.bind_some, sum]
  exact if_pos valid

/-- The text of seconds and a fraction in microseconds, which is left out if it is zero. -/
def secondChars (seconds fraction : ℕ) : List Char :=
  ':' :: ((padded 2 seconds).toList ++
    if fraction = 0 then [] else '.' :: (padded 6 fraction).toList)

/-- Six digits of a fraction are its microseconds. -/
theorem fractionMicros_padded {n : ℕ} (h : n < 1000000) :
    fractionMicros (padded 6 n).toList = n := by
  have six := Json.length_padded (w := 6) (by decide) h
  rw [fractionMicros, List.take_of_length_le six.le, Json.digitsValue_padded, six]
  exact Nat.mul_one n

/-- Seconds are read as they are written, with or without a fraction. -/
theorem secondsPart_secondChars (seconds fraction : ℕ) (hs : seconds < 60)
    (hf : fraction < 1000000) :
    secondsPart (secondChars seconds fraction ++ ['Z']) =
      some (seconds * 1000000 + fraction, ['Z']) := by
  have read := twoDigits_padded (n := seconds) (by omega)
  have bound : ¬ 59 < seconds := by omega
  unfold secondChars
  split
  · rename_i zero
    simp [secondsPart, read, bound, zero]
  · have digits := Json.digits_padded 6 fraction
    have after : Json.Undigit ['Z'] := by simp [Json.Undigit, Json.isDigit]
    have given : (padded 6 fraction).toList.isEmpty = false := by
      rw [Json.toList_padded]
      simp
    simp only [secondsPart, List.cons_append, List.append_assoc, read, bound,
      digits.takeWhile_append, digits.dropWhile_append, after.takeWhile, after.dropWhile,
      List.append_nil, given, fractionMicros_padded hf, Option.bind_eq_bind, Option.bind_some]
    rfl

/-- The text of a time of the day in microseconds. -/
def timeChars (time : ℕ) : List Char :=
  (padded 2 (time / 1000000 / 3600)).toList ++ ':' ::
    ((padded 2 (time / 1000000 / 60 % 60)).toList ++
      secondChars (time / 1000000 % 60) (time % 1000000))

/-- A time of the day is read as it is written. -/
theorem timePart_timeChars {time : ℕ} (lt : time < 86400000000) :
    timePart (timeChars time ++ ['Z']) = some (time, ['Z']) := by
  have hours := twoDigits_padded (n := time / 1000000 / 3600) (by omega)
  have minutes := twoDigits_padded (n := time / 1000000 / 60 % 60) (by omega)
  have bound : ¬ (23 < time / 1000000 / 3600 ∨ 59 < time / 1000000 / 60 % 60) := by omega
  have seconds := secondsPart_secondChars (time / 1000000 % 60) (time % 1000000) (by omega)
    (by omega)
  have sum : (time / 1000000 / 3600 * 3600 + time / 1000000 / 60 % 60 * 60) * 1000000 +
      (time / 1000000 % 60 * 1000000 + time % 1000000) = time := by omega
  simp [timePart, timeChars, hours, minutes, bound, seconds, sum]

/-- The text of an instant, by its parts. -/
theorem toList_text (t : Instant) :
    (t.text "Z").toList = dateChars t.date ++ 'T' :: (timeChars t.timeOfDay ++ ['Z']) := by
  have fraction : (if t.timeOfDay % 1000000 == 0 then "" else
      "." ++ padded 6 (t.timeOfDay % 1000000)).toList = if t.timeOfDay % 1000000 = 0 then [] else
        '.' :: (padded 6 (t.timeOfDay % 1000000)).toList := by
    by_cases zero : t.timeOfDay % 1000000 = 0 <;> simp [zero]
  simp only [Instant.text, String.toList_append, fraction]
  simp [dateChars, timeChars, secondChars]

end Timestamp

namespace Instant

theorem sinceFirst_le (t : Instant) : t.sinceFirst ≤ 315537897599999999 := by
  have := t.first_le
  have := t.le_last
  unfold sinceFirst
  simp only [firstMicro, lastMicro] at *
  omega

/-- An instant has a date in the calendar, and its date and time of the day stand for it. -/
theorem date_spec (t : Instant) :
    t.date.isValid ∧ 1 ≤ t.date.year ∧ t.date.year ≤ 9999 ∧
      civilMicros t.date t.timeOfDay = t.micros := by
  obtain ⟨valid, first, number⟩ := Date.ofDayNumber_spec (t.sinceFirst / 86400000000)
  have le := t.sinceFirst_le
  refine ⟨valid, first, ?_, ?_⟩
  · have before : daysBeforeYear t.date.year ≤ t.sinceFirst / 86400000000 := by
      rw [← number, Date.dayNumber, Nat.add_assoc]
      exact Nat.le_add_right _ _
    simp only [daysBeforeYear] at before
    omega
  · have since : (t.sinceFirst : ℤ) = t.micros - firstMicro :=
      Int.toNat_of_nonneg (Int.sub_nonneg_of_le t.first_le)
    have split := Nat.div_add_mod t.sinceFirst 86400000000
    simp only [civilMicros, date, number, timeOfDay, microsPerDay, Int.ofNat_eq_natCast]
    omega

/-- An instant is read as it is written in UTC. -/
theorem ofText_text (t : Instant) : Timestamp.ofText (t.text "Z") = .ok t := by
  obtain ⟨valid, first, last, micros⟩ := t.date_spec
  have time : t.timeOfDay < 86400000000 := Nat.mod_lt _ (by decide)
  have civil : Timestamp.civil? (t.text "Z").toList = some ⟨t.date, t.timeOfDay, some 0⟩ := by
    rw [Timestamp.toList_text, Timestamp.civil?, Timestamp.datePart_dateChars valid last]
    simp [Timestamp.isSeparator, Timestamp.timePart_timeChars time, Timestamp.offsetPart]
  have year : (t.date.year == 0) = false := by
    simp only [beq_eq_false_iff_ne]
    omega
  simp [Timestamp.ofText, civil, Timestamp.Civil.instant, year, micros]

end Instant

end Calendar

end BrokerClient
