import BrokerClient.Proofs.Calendar.Succession
import BrokerClient.Proofs.Json.Fitting
import Mathlib.Algebra.Order.Floor.Semifield
import Mathlib.Data.Rat.Floor

/-!
# The civil dates and times that a text can spell

A text spells a civil date and time by ten characters of a date, a separator, hours and minutes,
perhaps seconds with or without a fraction, and perhaps an offset from UTC. `Writing` has these
parts, each within its bounds, so a writing is a text (`Writing.chars`) and a moment
(`Writing.moment`), which is exact: a fraction may have any number of digits. The reader accepts
the texts of writings and no others, and of the local time of the day it keeps the whole
microseconds.

## Main definitions

* `Timestamp.Writing` — a civil date and time as it may be written.
* `Timestamp.Writing.moment` — the exact moment that is written, in microseconds.
* `Timestamp.Writing.civil` — what is read, to the microsecond.

## Main results

* `Timestamp.civil?_eq_some_iff` — the texts that are read as civil dates and times.
* `Timestamp.Writing.floor_moment` — a moment is cut to the microsecond.
-/

namespace BrokerClient

open Number

namespace Json

theorem isDigit_iff {c : Char} : isDigit c ↔ 48 ≤ c.toNat ∧ c.toNat ≤ 57 := by
  simp only [isDigit, Bool.and_eq_true, decide_eq_true_eq]
  rfl

theorem digitsValue_singleton (c : Char) : digitsValue [c] = c.toNat - 48 := by
  simp [digitsValue]

/-- Digits are known by their number and their value. -/
theorem Digits.eq_of_digitsValue_eq {cs ds : List Char} (hc : Digits cs) (hd : Digits ds)
    (length : cs.length = ds.length) (value : digitsValue cs = digitsValue ds) : cs = ds := by
  induction cs using List.reverseRecOn generalizing ds with
  | nil => exact (List.length_eq_zero_iff.mp length.symm).symm
  | append_singleton cs c ih =>
    obtain rfl | ⟨ds, d, rfl⟩ := ds.eq_nil_or_concat'
    · simp at length
    · have shorter : cs.length = ds.length := by simpa using length
      have first := isDigit_iff.mp (hc c (by simp))
      have second := isDigit_iff.mp (hd d (by simp))
      simp only [digitsValue_append, digitsValue_singleton, List.length_singleton, pow_one] at value
      have last : c.toNat = d.toNat := by omega
      rw [ih (fun a ha => hc a (by simp [ha])) (fun a ha => hd a (by simp [ha])) shorter (by omega),
        Char.toNat_inj.mp last]

/-- A number with twice as many digits as its halves. -/
theorem toList_padded_four {high low : ℕ} (hh : high < 100) (hl : low < 100) :
    (padded 4 (100 * high + low)).toList = (padded 2 high).toList ++ (padded 2 low).toList := by
  have front := length_padded (w := 2) two_pos hh
  have back := length_padded (w := 2) two_pos hl
  have all := length_padded (w := 4) (n := 100 * high + low) four_pos (by omega)
  refine (digits_padded _ _).eq_of_digitsValue_eq
    ((digits_padded _ _).append (digits_padded _ _)) ?_ ?_
  · rw [List.length_append, front, back, all]
  · rw [digitsValue_append, back]
    simp only [digitsValue_padded]
    omega

end Json

namespace Calendar.Timestamp

variable {cs rest : List Char}

/-! ### Numbers of two digits -/

theorem digit?_eq_some_iff {c : Char} {n : ℕ} :
    digit? c = some n ↔ Json.isDigit c ∧ c.toNat - 48 = n := by
  unfold digit?
  split <;> simp_all

/-- What is read as two digits is their text. -/
theorem eq_of_twoDigits {n : ℕ} (h : twoDigits cs = some (n, rest)) :
    cs = (padded 2 n).toList ++ rest := by
  have lt := twoDigits_lt h
  unfold twoDigits at h
  split at h
  · rename_i a b rest'
    simp only [Option.bind_eq_bind, Option.bind_eq_some_iff, digit?_eq_some_iff] at h
    obtain ⟨x, ⟨ha, rfl⟩, y, ⟨hb, rfl⟩, h⟩ := h
    cases h
    have digits : Json.Digits [a, b] := by simp [Json.Digits, ha, hb]
    have length := Json.length_padded (w := 2) two_pos lt
    have same : [a, b] = (padded 2 (10 * (a.toNat - 48) + (b.toNat - 48))).toList := by
      refine digits.eq_of_digitsValue_eq (Json.digits_padded _ _) length.symm ?_
      rw [Json.digitsValue_padded]
      simp [Json.digitsValue]
    rw [← same]
    rfl
  · cases h

/-- What is read as a date is its text. -/
theorem datePart_eq_some_iff {d : Date} : datePart cs = some (d, rest) ↔
    d.isValid ∧ d.year ≤ 9999 ∧ cs = dateChars d ++ rest := by
  constructor
  · intro h
    obtain ⟨valid, le⟩ := datePart_bounds h
    refine ⟨valid, le, ?_⟩
    simp only [datePart, Option.bind_eq_bind, Option.bind_eq_some_iff] at h
    obtain ⟨⟨century, afterCentury⟩, hc, ⟨year, afterYear⟩, hy, h⟩ := h
    simp only at h
    split at h
    · obtain ⟨⟨month, afterMonth⟩, hm, h⟩ := Option.bind_eq_some_iff.mp h
      simp only at h
      split at h
      · obtain ⟨⟨day, afterDay⟩, hd, h⟩ := Option.bind_eq_some_iff.mp h
        simp only at hy hm h
        split at h
        · cases h
          rw [eq_of_twoDigits hc, eq_of_twoDigits hy, eq_of_twoDigits hm, eq_of_twoDigits hd]
          simp [dateChars, Json.toList_padded_four (twoDigits_lt hc) (twoDigits_lt hy)]
        · cases h
      · cases h
    · cases h
  · rintro ⟨valid, le, rfl⟩
    exact datePart_dateChars valid le rest

/-! ### The parts of a writing -/

/-- A fraction of a second: a mark and at least one digit. -/
structure Fraction where
  mark : Char
  digits : List Char
  isMark : mark = '.' ∨ mark = ','
  areDigits : Json.Digits digits
  nonempty : digits ≠ []

/-- The text of a fraction. -/
def Fraction.chars (f : Fraction) : List Char := f.mark :: f.digits

/-- The microseconds of a fraction, which need not be whole. -/
def Fraction.micros (f : Fraction) : ℚ :=
  (Json.digitsValue f.digits * 10 ^ 6 : ℕ) / (10 ^ f.digits.length : ℕ)

/-- Seconds, with or without a fraction. -/
structure Seconds where
  whole : ℕ
  fraction : Option Fraction
  lt : whole < 60

/-- The text of seconds behind hours and minutes. -/
def Seconds.chars (s : Seconds) : List Char :=
  ':' :: ((padded 2 s.whole).toList ++ s.fraction.elim [] Fraction.chars)

/-- The microseconds of seconds. -/
def Seconds.micros (s : Seconds) : ℚ :=
  (s.whole * 1000000 : ℕ) + s.fraction.elim 0 Fraction.micros

/-- The direction of an offset; there are two ways to write one that is behind UTC. -/
inductive Sign
  | plus
  | hyphen
  | minus

/-- The character of a sign. -/
def Sign.char : Sign → Char
  | .plus => '+'
  | .hyphen => '-'
  | .minus => '\u2212'

/-- A number with a sign. -/
def Sign.apply (n : ℤ) : Sign → ℤ
  | .plus => n
  | .hyphen => -n
  | .minus => -n

/-- An offset from UTC in hours and minutes, with or without a colon between them. -/
structure Offset where
  sign : Sign
  hours : ℕ
  colon : Bool
  minutes : ℕ
  hours_lt : hours < 24
  minutes_lt : minutes < 60

/-- The text of an offset without its sign. -/
def Offset.digits (o : Offset) : List Char :=
  (padded 2 o.hours).toList ++ (if o.colon then [':'] else []) ++ (padded 2 o.minutes).toList

/-- The minutes of an offset. -/
def Offset.total (o : Offset) : ℤ :=
  o.sign.apply (60 * o.hours + o.minutes : ℕ)

/-- The end of a writing: nothing, the letter of UTC or an offset. -/
inductive Zone
  | unwritten
  | utc (letter : Char) (isLetter : letter = 'Z' ∨ letter = 'z')
  | shifted (offset : Offset)

/-- The text of the end of a writing. -/
def Zone.chars : Zone → List Char
  | .unwritten => []
  | .utc letter _ => [letter]
  | .shifted o => o.sign.char :: o.digits

/-- The offset that is written, in minutes ahead of UTC. -/
def Zone.offset : Zone → Option ℤ
  | .unwritten => none
  | .utc _ _ => some 0
  | .shifted o => some o.total

/-- A civil date and time as it may be written. -/
structure Writing where
  date : Date
  separator : Char
  hours : ℕ
  minutes : ℕ
  seconds : Option Seconds
  zone : Zone
  valid : date.isValid
  year_le : date.year ≤ 9999
  separates : isSeparator separator
  hours_lt : hours < 24
  minutes_lt : minutes < 60

namespace Writing

/-- The text of hours and minutes, and of seconds if they are written. -/
def timeChars (w : Writing) : List Char :=
  (padded 2 w.hours).toList ++ ':' :: ((padded 2 w.minutes).toList ++
    w.seconds.elim [] Seconds.chars)

/-- The text of a writing. -/
def chars (w : Writing) : List Char :=
  dateChars w.date ++ w.separator :: (w.timeChars ++ w.zone.chars)

/-- The local time of the day, in microseconds. -/
def localTime (w : Writing) : ℚ :=
  ((w.hours * 3600 + w.minutes * 60) * 1000000 : ℕ) + w.seconds.elim 0 Seconds.micros

/-- The moment that is written, in microseconds from 1970: the local date and time minus the
offset, which is zero if none is written. -/
def moment (w : Writing) : ℚ :=
  (Instant.civilMicros w.date 0 - w.zone.offset.getD 0 * 60000000 : ℤ) + w.localTime

/-- What is read: the local date, the whole microseconds of the local time and the offset. -/
def civil (w : Writing) : Civil :=
  ⟨w.date, ⌊w.localTime⌋₊, w.zone.offset⟩

end Writing

/-! ### Fractions are cut -/

/-- The six digits that are kept of a fraction are its whole microseconds. -/
theorem Fraction.floor_micros (f : Fraction) : ⌊f.micros⌋₊ = fractionMicros f.digits := by
  rw [micros, Nat.floor_div_eq_div, fractionMicros]
  obtain short | long := Nat.le_total f.digits.length 6
  · have six : 10 ^ 6 = 10 ^ (6 - f.digits.length) * 10 ^ f.digits.length := by
      rw [← pow_add, Nat.sub_add_cancel short]
    rw [List.take_of_length_le short, six, ← mul_assoc, Nat.mul_div_cancel _ (by positivity)]
    rfl
  · have front : (f.digits.take 6).length = 6 := by simpa using long
    have back : Json.digitsValue (f.digits.drop 6) < 10 ^ (f.digits.drop 6).length :=
      Json.digitsValue_lt fun c hc => f.areDigits c (List.mem_of_mem_drop hc)
    have length : f.digits.length = (f.digits.drop 6).length + 6 := by simp; omega
    have value := Json.digitsValue_append (f.digits.take 6) (f.digits.drop 6)
    rw [List.take_append_drop] at value
    rw [value, length, pow_add, Nat.mul_div_mul_right _ _ (by positivity), front, mul_comm,
      Nat.mul_add_div (by positivity), Nat.div_eq_of_lt back]
    exact (Nat.mul_one _).symm

theorem Fraction.micros_nonneg (f : Fraction) : 0 ≤ f.micros := by
  unfold micros
  positivity

theorem floor_natCast_add (n : ℕ) {x : ℚ} (h : 0 ≤ x) : ⌊n + x⌋₊ = n + ⌊x⌋₊ := by
  rw [add_comm, Nat.floor_add_natCast h, add_comm]

theorem Seconds.fraction_nonneg (s : Seconds) : 0 ≤ s.fraction.elim 0 Fraction.micros := by
  cases s.fraction with
  | none => exact le_rfl
  | some f => exact f.micros_nonneg

theorem Seconds.micros_nonneg (s : Seconds) : 0 ≤ s.micros :=
  add_nonneg (Nat.cast_nonneg _) s.fraction_nonneg

/-- The whole microseconds of seconds. -/
theorem Seconds.floor_micros (s : Seconds) : ⌊s.micros⌋₊ =
    s.whole * 1000000 + s.fraction.elim 0 fun f => fractionMicros f.digits := by
  rw [micros, floor_natCast_add _ s.fraction_nonneg]
  cases s.fraction with
  | none => simp
  | some f => rw [Option.elim_some, Option.elim_some, f.floor_micros]

theorem fractionMicros_lt {ds : List Char} (h : Json.Digits ds) : fractionMicros ds < 1000000 := by
  have value : Json.digitsValue (ds.take 6) < 10 ^ (ds.take 6).length :=
    Json.digitsValue_lt fun c hc => h c (List.mem_of_mem_take hc)
  have short : (ds.take 6).length ≤ 6 := by simp
  have six : 10 ^ (ds.take 6).length * 10 ^ (6 - (ds.take 6).length) = 1000000 := by
    rw [← pow_add, Nat.add_sub_cancel' short]
    rfl
  rw [fractionMicros, ← six]
  exact Nat.mul_lt_mul_of_pos_right value (Nat.pow_pos (by decide))

namespace Writing

variable (w : Writing)

theorem seconds_nonneg : 0 ≤ w.seconds.elim 0 Seconds.micros := by
  cases w.seconds with
  | none => exact le_rfl
  | some s => exact s.micros_nonneg

theorem localTime_nonneg : 0 ≤ w.localTime :=
  add_nonneg (Nat.cast_nonneg _) w.seconds_nonneg

/-- The whole microseconds of a time of the day. -/
theorem floor_localTime : ⌊w.localTime⌋₊ = (w.hours * 3600 + w.minutes * 60) * 1000000 +
    w.seconds.elim 0 fun s => ⌊s.micros⌋₊ := by
  rw [localTime, floor_natCast_add _ w.seconds_nonneg]
  cases w.seconds <;> simp

/-- A moment is cut to the microsecond. -/
theorem floor_moment : ⌊w.moment⌋ = w.civil.micros := by
  rw [moment, Int.floor_intCast_add, ← Int.natCast_floor_eq_floor w.localTime_nonneg]
  simp only [Civil.micros, civil, Instant.civilMicros]
  ring

/-- The local time lies within a day. -/
theorem timeOfDay_civil_lt : w.civil.timeOfDay < 86400000000 := by
  have hours := w.hours_lt
  have minutes := w.minutes_lt
  have seconds : (w.seconds.elim 0 fun s => ⌊s.micros⌋₊) < 60000000 := by
    cases w.seconds with
    | none => decide
    | some s =>
      have whole := s.lt
      have fraction : (s.fraction.elim 0 fun f => fractionMicros f.digits) < 1000000 := by
        cases s.fraction with
        | none => decide
        | some f => exact fractionMicros_lt f.areDigits
      rw [Option.elim_some, s.floor_micros]
      omega
  have time : w.civil.timeOfDay = _ := w.floor_localTime
  omega

/-- An offset is shorter than a day. -/
theorem natAbs_offset_lt : (w.civil.offset.getD 0).natAbs < 1440 := by
  change (w.zone.offset.getD 0).natAbs < 1440
  cases w.zone with
  | unwritten => decide
  | utc letter _ => simp [Zone.offset]
  | shifted o =>
    have := o.hours_lt
    have := o.minutes_lt
    simp only [Zone.offset, Offset.total, Option.getD_some]
    cases o.sign <;> simp only [Sign.apply] <;> omega

end Writing

/-! ### Writings are read -/

/-- What a zone begins with belongs to no number. -/
theorem Zone.head_chars (z : Zone) :
    ∀ c ∈ z.chars.head?, Json.isDigit c = false ∧ c ≠ ':' ∧ c ≠ '.' ∧ c ≠ ',' := by
  cases z with
  | unwritten => simp [chars]
  | utc letter isLetter => rcases isLetter with rfl | rfl <;> simp [chars, Json.isDigit]
  | shifted o => cases h : o.sign <;> simp [chars, Sign.char, Json.isDigit, h]

theorem Zone.undigit_chars (z : Zone) : Json.Undigit z.chars :=
  fun c hc => (z.head_chars c hc).1

/-- Seconds are read as they are written, if a zone comes after them. -/
theorem Seconds.secondsPart_append (s : Seconds) (z : Zone) :
    secondsPart (s.chars ++ z.chars) = some (⌊s.micros⌋₊, z.chars) := by
  have lt := s.lt
  have bound : ¬ 59 < s.whole := by omega
  have read := twoDigits_padded (n := s.whole) (by omega)
  rw [floor_micros, chars]
  cases s.fraction with
  | none =>
    have head := z.head_chars
    simp only [Option.elim_none, List.append_nil, List.cons_append, secondsPart, read, bound,
      Option.bind_eq_bind, Option.bind_some, if_false, Nat.add_zero]
    cases rest : z.chars with
    | nil => rfl
    | cons c r =>
      obtain ⟨-, -, point, comma⟩ := head c (by simp [rest])
      simp [point, comma]
  | some f =>
    have after := z.undigit_chars
    have mark : (f.mark == '.' || f.mark == ',') = true := by simpa using f.isMark
    have given : f.digits.isEmpty = false := by simpa using f.nonempty
    simp only [Option.elim_some, Fraction.chars, List.cons_append, List.append_assoc, secondsPart,
      read, bound, Option.bind_eq_bind, Option.bind_some, mark, f.areDigits.takeWhile_append,
      f.areDigits.dropWhile_append, after.takeWhile, after.dropWhile, List.append_nil, given]
    rfl

/-- Without seconds nothing is read in front of a zone. -/
theorem Zone.secondsPart_chars (z : Zone) : secondsPart z.chars = some (0, z.chars) := by
  have head := z.head_chars
  cases rest : z.chars with
  | nil => rfl
  | cons c r =>
    have colon : c ≠ ':' := (head c (by simp [rest])).2.1
    simp [secondsPart, colon]

theorem Offset.offsetMinutes_digits (o : Offset) :
    offsetMinutes o.digits = some (60 * o.hours + o.minutes) := by
  have hours := o.hours_lt
  have minutes := o.minutes_lt
  have first := twoDigits_padded (n := o.hours) (by omega)
  have second := twoDigits_padded (n := o.minutes) (by omega) []
  have within : o.minutes < 60 ∧ o.hours < 24 := ⟨minutes, hours⟩
  rw [List.append_nil] at second
  rw [digits, offsetMinutes, List.append_assoc, first]
  cases o.colon with
  | true => simp [second, within]
  | false =>
    -- the minutes begin with a digit, which is no colon
    obtain ⟨a, b, two⟩ := List.length_eq_two.mp
      (Json.length_padded (w := 2) (n := o.minutes) two_pos (by omega))
    have digit : Json.isDigit a := Json.digits_padded 2 o.minutes a (by simp [two])
    have colon : a ≠ ':' := by
      rintro rfl
      cases digit
    rw [two] at second ⊢
    simp [second, within, colon]

/-- A zone is read as it is written. -/
theorem Zone.offsetPart_chars (z : Zone) : offsetPart z.chars = some z.offset := by
  cases z with
  | unwritten => rfl
  | utc letter isLetter => rcases isLetter with rfl | rfl <;> rfl
  | shifted o =>
    have minutes := o.offsetMinutes_digits
    simp only [chars, offset, Offset.total]
    cases o.sign <;> simp only [Sign.char, Sign.apply, offsetPart, minutes] <;> rfl

namespace Writing

variable (w : Writing)

theorem timePart_append :
    timePart (w.timeChars ++ w.zone.chars) = some (⌊w.localTime⌋₊, w.zone.chars) := by
  have hours_lt := w.hours_lt
  have minutes_lt := w.minutes_lt
  have hours := twoDigits_padded (n := w.hours) (by omega)
  have minutes := twoDigits_padded (n := w.minutes) (by omega)
  have bound : ¬ (23 < w.hours ∨ 59 < w.minutes) := by omega
  have seconds : secondsPart (w.seconds.elim [] Seconds.chars ++ w.zone.chars) =
      some (w.seconds.elim 0 fun s => ⌊s.micros⌋₊, w.zone.chars) := by
    cases w.seconds with
    | none => exact w.zone.secondsPart_chars
    | some s => exact s.secondsPart_append w.zone
  simp [timePart, timeChars, hours, minutes, bound, seconds, floor_localTime]

/-- A writing is read as its local date and time. -/
theorem civil?_chars : civil? w.chars = some w.civil := by
  rw [chars, civil?, datePart_dateChars w.valid w.year_le]
  simp [w.separates, w.timePart_append, w.zone.offsetPart_chars, civil]

end Writing

/-! ### What is read is a writing -/

/-- What is read as seconds is their text. -/
theorem eq_of_secondsPart {n : ℕ} (h : secondsPart cs = some (n, rest)) :
    ∃ s : Option Seconds, cs = s.elim [] Seconds.chars ++ rest ∧
      n = s.elim 0 fun s => ⌊s.micros⌋₊ := by
  unfold secondsPart at h
  split at h
  · rename_i afterColon
    obtain ⟨⟨whole, after⟩, read, h⟩ := Option.bind_eq_some_iff.mp h
    have text := eq_of_twoDigits read
    simp only at h
    split at h
    · cases h
    · rename_i bound
      have lt : whole < 60 := by omega
      -- without a fraction the seconds end here
      have unbroken (h : some (whole * 1000000, after) = some (n, rest)) :
          ∃ s : Option Seconds, ':' :: afterColon = s.elim [] Seconds.chars ++ rest ∧
            n = s.elim 0 fun s => ⌊s.micros⌋₊ := by
        cases h
        refine ⟨some ⟨whole, none, lt⟩, ?_, ?_⟩
        · simp [Seconds.chars, text]
        · simp [Seconds.floor_micros]
      split at h
      · rename_i c r
        split at h
        · rename_i mark
          split at h
          · cases h
          · rename_i given
            let f : Fraction := ⟨c, r.takeWhile Json.isDigit, by simpa using mark,
              Json.digits_takeWhile r, by simpa using given⟩
            cases h
            refine ⟨some ⟨whole, some f, lt⟩, ?_, ?_⟩
            · simp [Seconds.chars, Fraction.chars, f, text, List.takeWhile_append_dropWhile]
            · simp [Seconds.floor_micros, f]
        · exact unbroken h
      · exact unbroken h
  · cases h
    exact ⟨none, rfl, rfl⟩

/-- What is read as a time of the day is the text of hours and minutes, perhaps with seconds. -/
theorem eq_of_timePart {n : ℕ} (h : timePart cs = some (n, rest)) :
    ∃ (hours minutes : ℕ) (s : Option Seconds), hours < 24 ∧ minutes < 60 ∧
      cs = (padded 2 hours).toList ++ ':' :: ((padded 2 minutes).toList ++
        s.elim [] Seconds.chars) ++ rest ∧
      n = (hours * 3600 + minutes * 60) * 1000000 + s.elim 0 fun s => ⌊s.micros⌋₊ := by
  simp only [timePart, Option.bind_eq_bind, Option.bind_eq_some_iff] at h
  obtain ⟨⟨hours, afterHours⟩, hh, h⟩ := h
  simp only at h
  split at h
  · obtain ⟨⟨minutes, afterMinutes⟩, hm, h⟩ := Option.bind_eq_some_iff.mp h
    simp only at h
    split at h
    · cases h
    · rename_i bound
      simp only [Bool.or_eq_true, decide_eq_true_eq] at bound
      obtain ⟨⟨micros, afterSeconds⟩, hs, h⟩ := Option.bind_eq_some_iff.mp h
      obtain ⟨s, text, value⟩ := eq_of_secondsPart hs
      cases h
      refine ⟨hours, minutes, s, by omega, by omega, ?_, by rw [value]⟩
      rw [eq_of_twoDigits hh, eq_of_twoDigits hm, text]
      simp
  · cases h

/-- What is read as the minutes of an offset is its text. -/
theorem eq_of_offsetMinutes {n : ℕ} (h : offsetMinutes cs = some n) (sign : Sign) :
    ∃ o : Offset, o.sign = sign ∧ cs = o.digits ∧ n = 60 * o.hours + o.minutes := by
  simp only [offsetMinutes, Option.bind_eq_bind, Option.bind_eq_some_iff] at h
  obtain ⟨⟨hours, afterHours⟩, hh, ⟨minutes, after⟩, hm, h⟩ := h
  split at h
  · rename_i within
    simp only [Bool.and_eq_true, List.isEmpty_iff, decide_eq_true_eq] at within
    obtain ⟨⟨rfl, minutes_lt⟩, hours_lt⟩ := within
    cases h
    have text := eq_of_twoDigits hh
    simp only at hm
    split at hm
    · exact ⟨⟨sign, hours, true, minutes, hours_lt, minutes_lt⟩, rfl,
        by simp [Offset.digits, text, eq_of_twoDigits hm], rfl⟩
    · exact ⟨⟨sign, hours, false, minutes, hours_lt, minutes_lt⟩, rfl,
        by simp [Offset.digits, text, eq_of_twoDigits hm], rfl⟩
  · cases h

/-- What is read as the end of a writing is the text of a zone. -/
theorem eq_of_offsetPart {o : Option ℤ} (h : offsetPart cs = some o) :
    ∃ z : Zone, cs = z.chars ∧ o = z.offset := by
  have shifted (sign : Sign) {rest : List Char}
      (h : (offsetMinutes rest).map (fun m => some (sign.apply (m : ℕ))) = some o) :
      ∃ z : Zone, sign.char :: rest = z.chars ∧ o = z.offset := by
    obtain ⟨n, read, rfl⟩ := Option.map_eq_some_iff.mp h
    obtain ⟨offset, rfl, rfl, rfl⟩ := eq_of_offsetMinutes read sign
    exact ⟨.shifted offset, rfl, rfl⟩
  unfold offsetPart at h
  split at h
  · cases h
    exact ⟨.unwritten, rfl, rfl⟩
  · cases h
    exact ⟨.utc 'Z' (.inl rfl), rfl, rfl⟩
  · cases h
    exact ⟨.utc 'z' (.inr rfl), rfl, rfl⟩
  · exact shifted .plus h
  · exact shifted .hyphen h
  · exact shifted .minus h
  · cases h

/-- The texts that are read as civil dates and times are those of writings. -/
theorem civil?_eq_some_iff {c : Civil} :
    civil? cs = some c ↔ ∃ w : Writing, w.chars = cs ∧ w.civil = c := by
  constructor
  · intro h
    simp only [civil?, Option.bind_eq_bind, Option.bind_eq_some_iff] at h
    obtain ⟨⟨d, afterDate⟩, hd, h⟩ := h
    obtain ⟨valid, year_le, date⟩ := datePart_eq_some_iff.mp hd
    simp only at h
    split at h
    · rename_i separator afterSeparator
      split at h
      · obtain ⟨⟨time, afterTime⟩, ht, h⟩ := Option.bind_eq_some_iff.mp h
        obtain ⟨offset, hz, h⟩ := Option.bind_eq_some_iff.mp h
        obtain ⟨hours, minutes, seconds, hours_lt, minutes_lt, text, value⟩ := eq_of_timePart ht
        obtain ⟨zone, rfl, rfl⟩ := eq_of_offsetPart hz
        cases h
        let w : Writing := ⟨d, separator, hours, minutes, seconds, zone, valid, year_le, ‹_›,
          hours_lt, minutes_lt⟩
        have time : ⌊w.localTime⌋₊ = _ := w.floor_localTime
        refine ⟨w, ?_, ?_⟩
        · simp [date, text, w, Writing.chars, Writing.timeChars]
        · simp [value, time, w, Writing.civil]
      · cases h
    · cases h
  · rintro ⟨w, rfl, rfl⟩
    exact w.civil?_chars

end Calendar.Timestamp

end BrokerClient
