import BrokerClient.Json.Reader
import BrokerClient.Json.Printer
import BrokerClient.Proofs.Number.Shortest

/-!
# Numbers in JSON text

The text of an integer or of a finite double is read as the same number, also when more text comes
after it. The digits of a double need not be read one by one: whichever layout they are written in,
the reader finds a decimal of the same value, and a decimal that rounds to a double is read as this
double.

## Main definitions

* `Json.Whole` — digits that may stand in front of a point.
* `Json.Breaks` — texts that do not go on with a number.

## Main results

* `Json.decimalValue_eq_assemble` — a decimal that rounds to a double is read as this double.
* `Json.number_int`, `Json.number_float` — a number is read as it is written.
-/

namespace BrokerClient

open Number

namespace Json

/-! ### Digits -/

theorem isDigit_eq (c : Char) : isDigit c = c.isDigit := by
  simp [isDigit, Char.isDigit, Char.le_def]

theorem digitsValue_eq (cs : List Char) : digitsValue cs = Nat.ofDigitChars 10 cs 0 :=
  rfl

theorem digitsValue_append (cs ds : List Char) :
    digitsValue (cs ++ ds) = digitsValue cs * 10 ^ ds.length + digitsValue ds := by
  rw [digitsValue_eq, Nat.ofDigitChars_append, Nat.ofDigitChars_eq_ofDigitChars_zero, mul_comm]
  rfl

@[simp]
theorem digitsValue_toDigits (n : ℕ) : digitsValue (Nat.toDigits 10 n) = n :=
  Nat.ofDigitChars_ten_toDigits

@[simp]
theorem digitsValue_replicate_zero (n : ℕ) : digitsValue (List.replicate n '0') = 0 := by
  rw [digitsValue_eq, Nat.ofDigitChars_replicate_zero, Nat.mul_zero]

/-- Characters that are all digits. -/
def Digits (cs : List Char) : Prop :=
  ∀ c ∈ cs, isDigit c

theorem Digits.append {cs ds : List Char} (h : Digits cs) (h' : Digits ds) : Digits (cs ++ ds) :=
  fun c hc => (List.mem_append.mp hc).elim (h c) (h' c)

theorem digits_toDigits (n : ℕ) : Digits (Nat.toDigits 10 n) := fun c hc => by
  rw [isDigit_eq]
  exact Nat.isDigit_of_mem_toDigits (by decide) (by decide) hc

theorem digits_replicate_zero (n : ℕ) : Digits (List.replicate n '0') := fun c hc => by
  rw [List.eq_of_mem_replicate hc]
  rfl

theorem Digits.takeWhile_append {ds rest : List Char} (h : Digits ds) :
    (ds ++ rest).takeWhile isDigit = ds ++ rest.takeWhile isDigit :=
  List.takeWhile_append_of_pos h

theorem Digits.dropWhile_append {ds rest : List Char} (h : Digits ds) :
    (ds ++ rest).dropWhile isDigit = rest.dropWhile isDigit :=
  List.dropWhile_append_of_pos h

/-- The digits of a positive number do not begin with a zero. -/
theorem head?_toDigits_ne {n : ℕ} (h : 0 < n) : (Nat.toDigits 10 n).head? ≠ some '0' := by
  induction n using Nat.strongRecOn with
  | ind n ih =>
    rw [Nat.toDigits_eq_if (by decide)]
    split
    · simp [h.ne']
    · rw [List.head?_append_of_ne_nil _ Nat.toDigits_ne_nil]
      exact ih _ (by omega) (by omega)

theorem digitsValue_lt {cs : List Char} (h : Digits cs) : digitsValue cs < 10 ^ cs.length := by
  induction cs using List.reverseRecOn with
  | nil => decide
  | append_singleton cs c ih =>
    have digit : isDigit c := h c (by simp)
    have value : digitsValue [c] < 10 := by
      simp only [isDigit, Bool.and_eq_true, decide_eq_true_eq] at digit
      have le : c.toNat ≤ 57 := digit.2
      change 10 * 0 + (c.toNat - 48) < 10
      omega
    have := ih fun d hd => h d (by simp [hd])
    rw [digitsValue_append, List.length_append, List.length_singleton, pow_one, pow_succ]
    omega

/-- A number has no more digits than any digits that spell it. -/
theorem digitCount_digitsValue_le {cs : List Char} (h : Digits cs) (nonempty : cs ≠ []) :
    digitCount (digitsValue cs) ≤ cs.length :=
  (Nat.length_toDigits_le_iff (by decide) (List.length_pos_of_ne_nil nonempty)).mpr
    (digitsValue_lt h)

theorem toList_padded (width n : ℕ) : (padded width n).toList =
    List.replicate (width - (Nat.toDigits 10 n).length) '0' ++ Nat.toDigits 10 n :=
  String.toList_ofList

theorem toList_padded_one (n : ℕ) : (padded 1 n).toList = Nat.toDigits 10 n := by
  rw [toList_padded, Nat.sub_eq_zero_of_le Nat.length_toDigits_pos, List.replicate_zero,
    List.nil_append]

theorem digits_padded (width n : ℕ) : Digits (padded width n).toList := by
  rw [toList_padded]
  exact (digits_replicate_zero _).append (digits_toDigits n)

@[simp]
theorem digitsValue_padded (width n : ℕ) : digitsValue (padded width n).toList = n := by
  rw [toList_padded, digitsValue_append, digitsValue_replicate_zero, digitsValue_toDigits,
    Nat.zero_mul, Nat.zero_add]

/-- A number that is short enough is padded to the width. -/
theorem length_padded {w n : ℕ} (pos : 0 < w) (h : n < 10 ^ w) :
    (padded w n).toList.length = w := by
  have short := (Nat.length_toDigits_le_iff (by decide) pos).mpr h
  rw [toList_padded, List.length_append, List.length_replicate]
  omega

/-! ### Decimals -/

theorem two_zpow_le_ten_zpow {n k : ℕ} (h : n ≤ 3 * k) : (2 : ℚ) ^ (n : ℤ) ≤ 10 ^ (k : ℤ) := by
  rw [zpow_natCast, zpow_natCast]
  exact_mod_cast two_pow_le_ten_pow h

/-- The powers of ten around a decimal, by its number of digits. -/
theorem pow_size_bounds {digits : ℕ} (pos : 0 < digits) (exponent : ℤ) :
    (10 : ℚ) ^ (Int.ofNat (digitCount digits) + exponent - 1) ≤ digits * 10 ^ exponent ∧
      (digits * 10 ^ exponent : ℚ) < 10 ^ (Int.ofNat (digitCount digits) + exponent) := by
  have ten : (10 : ℚ) ≠ 0 := by norm_num
  have count : 1 ≤ digitCount digits := Nat.length_toDigits_pos
  have first : Int.ofNat (digitCount digits) + exponent - 1 =
      ((digitCount digits - 1 : ℕ) : ℤ) + exponent := by
    rw [Int.ofNat_eq_natCast]
    omega
  rw [first, Int.ofNat_eq_natCast, zpow_add₀ ten, zpow_add₀ ten, zpow_natCast, zpow_natCast]
  constructor
  · gcongr
    exact_mod_cast pow_digitCount_le pos
  · gcongr
    exact_mod_cast lt_pow_digitCount digits

section

variable {m : ℕ} {e size : ℤ} {v : ℚ}

/-- A value that rounds to a positive double is at least half its last place. -/
theorem half_le_of_roundsTo (pos : 0 < m) (r : RoundsTo m e v) : (1 / 2 : ℚ) * 2 ^ e ≤ v := by
  have unit : (1 : ℚ) ≤ m := by exact_mod_cast pos
  have half := marginBelow_le m e
  exact le_trans (by gcongr; linarith) r.low

/-- A value that rounds to a positive double is not too small for one. -/
theorem le_size_of_roundsTo (c : Canonical m e) (pos : 0 < m) (r : RoundsTo m e v)
    (next : v < 10 ^ size) : -400 ≤ size := by
  by_contra less
  have : (2 : ℚ) ^ (e - 1) < 2 ^ (e - 1) := by
    calc (2 : ℚ) ^ (e - 1) = 1 / 2 * 2 ^ e := by
          rw [zpow_sub₀ two_ne_zero, zpow_one]
          ring
      _ < 10 ^ size := (half_le_of_roundsTo pos r).trans_lt next
      _ ≤ 10 ^ (-((400 : ℕ) : ℤ)) := zpow_le_zpow_right₀ (by norm_num) (by omega)
      _ ≤ 2 ^ (-((1200 : ℕ) : ℤ)) := by
        rw [zpow_neg, zpow_neg]
        exact inv_anti₀ (by positivity) (two_zpow_le_ten_zpow (by decide))
      _ ≤ 2 ^ (e - 1) := by
        refine zpow_le_zpow_right₀ one_le_two ?_
        have := c.lowest
        omega
  exact lt_irrefl _ this

/-- A value that rounds to a double is not too large for one. -/
theorem size_le_of_roundsTo (c : Canonical m e) (r : RoundsTo m e v)
    (first : 10 ^ (size - 1) ≤ v) : size ≤ 400 := by
  by_contra more
  have mlt : (m : ℚ) + 1 ≤ 2 ^ 53 := by exact_mod_cast c.lt
  have : (10 : ℚ) ^ ((400 : ℕ) : ℤ) < 10 ^ ((400 : ℕ) : ℤ) := by
    calc (10 : ℚ) ^ ((400 : ℕ) : ℤ) ≤ 10 ^ (size - 1) :=
          zpow_le_zpow_right₀ (by norm_num) (by omega)
      _ ≤ (m + 1 / 2) * 2 ^ e := first.trans r.high
      _ < 2 ^ (53 : ℤ) * 2 ^ e := by
        gcongr
        rw [zpow_ofNat]
        linarith
      _ = 2 ^ (53 + e) := by rw [zpow_add₀ two_ne_zero]
      _ ≤ 2 ^ ((1200 : ℕ) : ℤ) := by
        refine zpow_le_zpow_right₀ one_le_two ?_
        have := c.highest
        omega
      _ ≤ 10 ^ ((400 : ℕ) : ℤ) := two_zpow_le_ten_zpow (by decide)
  exact lt_irrefl _ this

/-- The digits of a decimal that rounds to a positive double are not zero. -/
theorem pos_of_roundsTo (pos : 0 < m) {digits : ℕ} {exponent : ℤ}
    (r : RoundsTo m e (digits * 10 ^ exponent)) : 0 < digits := by
  have scale : (0 : ℚ) < 2 ^ e := by positivity
  have low := half_le_of_roundsTo pos r
  refine Nat.pos_of_ne_zero fun zero => ?_
  rw [zero, Nat.cast_zero, zero_mul] at low
  linarith

/-- A decimal that rounds to a double is read as this double. -/
theorem decimalValue_eq_assemble (negative : Bool) {digits : ℕ} {exponent : ℤ}
    (c : Canonical m e) (pos : 0 < m) (r : RoundsTo m e (digits * 10 ^ exponent)) :
    decimalValue negative digits exponent = assemble negative m e := by
  have dpos := pos_of_roundsTo pos r
  obtain ⟨first, next⟩ := pow_size_bounds dpos exponent
  have small := (le_size_of_roundsTo c pos r next).not_gt
  have large := (size_le_of_roundsTo c r first).not_gt
  have ratio := pow_toNat_div_pow_toNat 10 exponent
  simp only [decimalValue, Nat.pow_eq]
  rw [if_neg (by simpa [dpos.ne'] using small), if_neg large]
  refine ofRatio_eq_assemble negative c (by positivity) (by positivity) ?_
  push_cast
  rwa [mul_div_assoc, ratio]

end

/-! ### Reading the parts of a number -/

/-- No digit comes first. -/
def Undigit (rest : List Char) : Prop :=
  ∀ c ∈ rest.head?, isDigit c = false

theorem Undigit.takeWhile {rest : List Char} (h : Undigit rest) : rest.takeWhile isDigit = [] := by
  cases rest with
  | nil => rfl
  | cons c rest => simp [h c rfl]

theorem Undigit.dropWhile {rest : List Char} (h : Undigit rest) :
    rest.dropWhile isDigit = rest := by
  cases rest with
  | nil => rfl
  | cons c rest => simp [h c rfl]

/-- Nothing that belongs to a number comes first. -/
def Breaks (rest : List Char) : Prop :=
  ∀ c ∈ rest.head?, isDigit c = false ∧ c ≠ '.' ∧ c ≠ 'e' ∧ c ≠ 'E'

theorem Breaks.undigit {rest : List Char} (h : Breaks rest) : Undigit rest :=
  fun c hc => (h c hc).1

theorem fractionPart_of_breaks {rest : List Char} (h : Breaks rest) :
    fractionPart rest = some (false, [], rest) := by
  cases rest with
  | nil => rfl
  | cons c rest =>
    have point : c ≠ '.' := (h c rfl).2.1
    simp [fractionPart, point]

theorem exponentPart_of_breaks {rest : List Char} (h : Breaks rest) :
    exponentPart rest = some (false, 0, rest) := by
  cases rest with
  | nil => rfl
  | cons c rest =>
    obtain ⟨-, -, lower, upper⟩ := h c rfl
    simp [exponentPart, lower, upper]

theorem fractionPart_point {ds rest : List Char} (digits : Digits ds) (nonempty : ds ≠ [])
    (h : Undigit rest) : fractionPart ('.' :: (ds ++ rest)) = some (true, ds, rest) := by
  simp only [fractionPart, digits.takeWhile_append, digits.dropWhile_append, h.takeWhile,
    h.dropWhile, List.append_nil]
  rw [if_neg (by simpa using nonempty)]

theorem exponentPart_sign {negative : Bool} {ds rest : List Char} (digits : Digits ds)
    (nonempty : ds ≠ []) (h : Undigit rest) :
    exponentPart ('e' :: (if negative then '-' else '+') :: (ds ++ rest)) =
      some (true, if negative then -Int.ofNat (digitsValue ds) else Int.ofNat (digitsValue ds),
        rest) := by
  have none : ds.isEmpty = false := by simpa using nonempty
  cases negative <;>
    simp [exponentPart, digits.takeWhile_append, digits.dropWhile_append, h.takeWhile,
      h.dropWhile, none]

/-- The digits in front of a point or an exponent. -/
structure Whole (ds : List Char) : Prop where
  digits : Digits ds
  nonempty : ds ≠ []
  leading : ds.head? = some '0' → ds.length = 1

section Unsigned

variable (limits : Limits) (negative : Bool) {whole rest : List Char}

/-- After its digits a number goes on with a fraction or an exponent, or it is an integer. -/
theorem unsigned_eq (w : Whole whole) (h : Undigit rest) :
    unsigned limits negative (whole ++ rest) = (do
      let (hasFraction, fraction, afterFraction) ← fractionPart rest
      let (hasExponent, exponent, rest) ← exponentPart afterFraction
      if hasFraction || hasExponent then
        return (.float (decimalValue negative (digitsValue (whole ++ fraction))
          (exponent - Int.ofNat fraction.length)), rest)
      else if limits.digits < whole.length then none
      else
        let n := Int.ofNat (digitsValue whole)
        return (.int (if negative then -n else n), rest)) := by
  obtain ⟨digits, nonempty, leading⟩ := w
  have leads : (whole.isEmpty || (whole.head? == some '0' && whole.length != 1)) = false := by
    simp only [Bool.or_eq_false_iff, Bool.and_eq_false_iff, beq_eq_false_iff_ne,
      bne_eq_false_iff_eq]
    refine ⟨by simpa using nonempty, ?_⟩
    by_cases zero : whole.head? = some '0'
    · exact .inr (leading zero)
    · exact .inl zero
  unfold unsigned
  simp only [digits.takeWhile_append, digits.dropWhile_append, h.takeWhile, h.dropWhile,
    List.append_nil, leads, Bool.false_eq_true, if_false]

theorem unsigned_int (w : Whole whole) (h : Breaks rest) (short : whole.length ≤ limits.digits) :
    unsigned limits negative (whole ++ rest) = some (.int (if negative then
      -Int.ofNat (digitsValue whole) else Int.ofNat (digitsValue whole)), rest) := by
  rw [unsigned_eq limits negative w h.undigit, fractionPart_of_breaks h]
  simp [exponentPart_of_breaks h, short.not_gt]

theorem unsigned_point {fraction : List Char} (w : Whole whole) (digits : Digits fraction)
    (nonempty : fraction ≠ []) (h : Breaks rest) :
    unsigned limits negative (whole ++ '.' :: (fraction ++ rest)) =
      some (.float (decimalValue negative (digitsValue (whole ++ fraction))
        (-Int.ofNat fraction.length)), rest) := by
  have point : Undigit ('.' :: (fraction ++ rest)) := fun c hc => by
    cases hc
    rfl
  rw [unsigned_eq limits negative w point, fractionPart_point digits nonempty h.undigit]
  simp [exponentPart_of_breaks h]

theorem unsigned_exponent (below : Bool) {ds : List Char} (w : Whole whole) (digits : Digits ds)
    (nonempty : ds ≠ []) (h : Breaks rest) :
    unsigned limits negative (whole ++ 'e' :: (if below then '-' else '+') :: (ds ++ rest)) =
      some (.float (decimalValue negative (digitsValue whole)
        (if below then -Int.ofNat (digitsValue ds) else Int.ofNat (digitsValue ds))), rest) := by
  have letter : Undigit ('e' :: (if below then '-' else '+') :: (ds ++ rest)) := fun c hc => by
    cases hc
    rfl
  have plain : fractionPart ('e' :: (if below then '-' else '+') :: (ds ++ rest)) =
      some (false, [], 'e' :: (if below then '-' else '+') :: (ds ++ rest)) := rfl
  rw [unsigned_eq limits negative w letter, plain]
  simp [exponentPart_sign digits nonempty h.undigit]

theorem unsigned_point_exponent (below : Bool) {fraction ds : List Char} (w : Whole whole)
    (digits' : Digits fraction) (nonempty' : fraction ≠ []) (digits : Digits ds)
    (nonempty : ds ≠ []) (h : Breaks rest) :
    unsigned limits negative
        (whole ++ '.' :: (fraction ++ 'e' :: (if below then '-' else '+') :: (ds ++ rest))) =
      some (.float (decimalValue negative (digitsValue (whole ++ fraction))
        ((if below then -Int.ofNat (digitsValue ds) else Int.ofNat (digitsValue ds)) -
          Int.ofNat fraction.length)), rest) := by
  have point : Undigit ('.' :: (fraction ++ 'e' :: (if below then '-' else '+') :: (ds ++ rest))) :=
    fun c hc => by
      cases hc
      rfl
  have letter : Undigit ('e' :: (if below then '-' else '+') :: (ds ++ rest)) := fun c hc => by
    cases hc
    rfl
  rw [unsigned_eq limits negative w point, fractionPart_point digits' nonempty' letter]
  simp [exponentPart_sign digits nonempty h.undigit]

end Unsigned

/-! ### Doubles as they are written -/

section Write

variable {limits : Limits} {negative : Bool} {rest : List Char}

theorem whole_toDigits_append {n : ℕ} (pos : 0 < n) {ds : List Char} (digits : Digits ds) :
    Whole (Nat.toDigits 10 n ++ ds) where
  digits := (digits_toDigits n).append digits
  nonempty := by simp
  leading h := by
    rw [List.head?_append_of_ne_nil _ Nat.toDigits_ne_nil] at h
    exact absurd h (head?_toDigits_ne pos)

theorem whole_digit {c : Char} (h : isDigit c) : Whole [c] :=
  ⟨by simpa [Digits] using h, by simp, fun _ => rfl⟩

section Spelled

variable (limits negative) {ds : List Char}

/-- Digits behind a point and zeros. -/
theorem unsigned_small (digits : Digits ds) (nonempty : ds ≠ []) (zeros : ℕ) (h : Breaks rest) :
    unsigned limits negative (['0', '.'] ++ (List.replicate zeros '0' ++ ds) ++ rest) =
      some (.float (decimalValue negative (digitsValue ds) (-Int.ofNat (zeros + ds.length))),
        rest) := by
  have zero : Whole ['0'] := whole_digit rfl
  have read := unsigned_point limits negative zero ((digits_replicate_zero zeros).append digits)
    (by simp [nonempty]) h
  have value : digitsValue (['0'] ++ (List.replicate zeros '0' ++ ds)) = digitsValue ds := by
    rw [digitsValue_append, digitsValue_append, digitsValue_replicate_zero]
    simp [digitsValue]
  rw [value, List.length_append, List.length_replicate] at read
  exact read

/-- Digits and zeros in front of a point. -/
theorem unsigned_large (zeros : ℕ) (w : Whole (ds ++ List.replicate zeros '0')) (h : Breaks rest) :
    unsigned limits negative (ds ++ List.replicate zeros '0' ++ ['.', '0'] ++ rest) =
      some (.float (decimalValue negative (digitsValue ds * 10 ^ zeros * 10) (-1)), rest) := by
  have read := unsigned_point limits negative w (digits_replicate_zero 1) (by simp) h
  have value : digitsValue (ds ++ List.replicate zeros '0' ++ List.replicate 1 '0') =
      digitsValue ds * 10 ^ zeros * 10 := by
    rw [digitsValue_append, digitsValue_append, digitsValue_replicate_zero, List.length_replicate]
    simp [digitsValue]
  rw [value] at read
  rw [List.append_assoc]
  exact read

/-- Digits around a point. -/
theorem unsigned_middle (w : Whole ds) {k : ℕ} (pos : 0 < k) (short : k < ds.length)
    (h : Breaks rest) :
    unsigned limits negative (ds.take k ++ ['.'] ++ ds.drop k ++ rest) =
      some (.float (decimalValue negative (digitsValue ds) (-Int.ofNat (ds.length - k))),
        rest) := by
  have front : Whole (ds.take k) := by
    refine ⟨fun c hc => w.digits c (List.mem_of_mem_take hc), ?_, fun zero => ?_⟩
    · simp [w.nonempty, pos.ne']
    · rw [List.head?_take, if_neg pos.ne'] at zero
      have := w.leading zero
      omega
  have read := unsigned_point limits negative front
    (fun c hc => w.digits c (List.mem_of_mem_drop hc)) (by simpa using short) h
  rw [List.take_append_drop, List.length_drop] at read
  rw [List.append_assoc, List.append_assoc]
  exact read

/-- Digits with an exponent, the first one in front of the point. -/
theorem unsigned_scientific (w : Whole ds) (e : ℤ) (h : Breaks rest) :
    unsigned limits negative (ds.take 1 ++ (if ds.length ≤ 1 then [] else '.' :: ds.drop 1) ++
        'e' :: (if e < 0 then '-' else '+') :: (Nat.toDigits 10 e.natAbs ++ rest)) =
      some (.float (decimalValue negative (digitsValue ds) (e - Int.ofNat (ds.length - 1))),
        rest) := by
  have sign : (if decide (e < 0) then '-' else '+') = if e < 0 then '-' else '+' := by
    by_cases below : e < 0 <;> simp [below]
  have power : (if decide (e < 0) then -Int.ofNat (digitsValue (Nat.toDigits 10 e.natAbs))
      else Int.ofNat (digitsValue (Nat.toDigits 10 e.natAbs))) = e := by
    rw [digitsValue_toDigits, Int.ofNat_eq_natCast]
    by_cases below : e < 0
    · rw [if_pos (by simpa using below)]
      omega
    · rw [if_neg (by simpa using below)]
      omega
  have digits := digits_toDigits e.natAbs
  by_cases single : ds.length ≤ 1
  · rw [if_pos single, List.append_nil, List.take_of_length_le single]
    have read := unsigned_exponent limits negative (decide (e < 0)) w digits
      Nat.toDigits_ne_nil h
    have none : ds.length - 1 = 0 := by omega
    rw [sign, power] at read
    rw [read, none]
    simp
  · rw [if_neg single]
    have front : Whole (ds.take 1) := by
      refine ⟨fun c hc => w.digits c (List.mem_of_mem_take hc), ?_, fun _ => ?_⟩
      · simp [w.nonempty]
      · rw [List.length_take]
        omega
    have read := unsigned_point_exponent limits negative (decide (e < 0)) front
      (fun c hc => w.digits c (List.mem_of_mem_drop hc))
      (by simpa using single) digits Nat.toDigits_ne_nil h
    rw [sign, power, List.take_append_drop, List.length_drop] at read
    rw [List.append_assoc, List.cons_append]
    exact read

/-- A decimal in the text of a double is read as a decimal of the same value. -/
theorem unsigned_write {d : Decimal} (pos : 0 < d.digits) (h : Breaks rest) :
    ∃ (digits : ℕ) (exponent : ℤ), (digits * 10 ^ exponent : ℚ) = d.value ∧
      unsigned limits negative ((Layout.json.write d).toList ++ rest) =
        some (.float (decimalValue negative digits exponent), rest) := by
  have ten : (10 : ℚ) ≠ 0 := by norm_num
  have all := digits_toDigits d.digits
  have spelled := digitsValue_toDigits d.digits
  have count : 0 < (Nat.toDigits 10 d.digits).length := Nat.length_toDigits_pos
  have wholly := fun (ds : List Char) (h : Digits ds) => whole_toDigits_append pos h
  generalize hds : Nat.toDigits 10 d.digits = ds at *
  have w : Whole ds := by simpa using wholly [] (by simp [Digits])
  unfold Layout.write
  simp only [hds]
  generalize hp : Int.ofNat ds.length + d.exponent = point
  rw [Int.ofNat_eq_natCast] at hp
  split
  · split
    · refine ⟨d.digits, d.exponent, rfl, ?_⟩
      have exponent : -Int.ofNat ((-point).toNat + ds.length) = d.exponent := by
        rw [Int.ofNat_eq_natCast]
        omega
      simp only [String.toList_append, String.toList_ofList]
      rw [String.toList_ofList, unsigned_small _ _ all w.nonempty _ h, spelled, exponent]
    · split
      · refine ⟨d.digits * 10 ^ (point.toNat - ds.length) * 10, -1, ?_, ?_⟩
        · have shift : (d.exponent : ℤ) = ((point.toNat - ds.length : ℕ) : ℤ) := by omega
          rw [Decimal.value, shift, zpow_natCast, zpow_neg_one]
          push_cast
          rw [mul_assoc _ (10 : ℚ), mul_inv_cancel₀ ten, mul_one]
        · simp only [String.toList_append, String.toList_ofList]
          have zeros := wholly _ (digits_replicate_zero (point.toNat - ds.length))
          rw [String.toList_ofList, unsigned_large _ _ _ zeros h, spelled]
      · refine ⟨d.digits, d.exponent, rfl, ?_⟩
        have exponent : -Int.ofNat (ds.length - point.toNat) = d.exponent := by
          rw [Int.ofNat_eq_natCast]
          omega
        simp only [String.toList_append, String.toList_ofList]
        have middle := unsigned_middle limits negative w (k := point.toNat) (by omega)
          (by omega) h
        rw [spelled, exponent] at middle
        rw [String.toList_ofList]
        exact middle
  · refine ⟨d.digits, d.exponent, rfl, ?_⟩
    have exponent : point - 1 - Int.ofNat (ds.length - 1) = d.exponent := by
      rw [Int.ofNat_eq_natCast]
      omega
    have read := unsigned_scientific limits negative w (point - 1) h
    rw [spelled, exponent] at read
    have tail : (if ds.length ≤ 1 then "" else "." ++ String.ofList (ds.drop 1)).toList =
        if ds.length ≤ 1 then [] else '.' :: ds.drop 1 := by
      split <;> simp
    have sign : (if point - 1 < 0 then "-" else "+" : String).toList =
        [if point - 1 < 0 then '-' else '+'] := by
      split <;> rfl
    have width : Layout.json.exponentWidth = 1 := rfl
    rw [← read]
    simp only [String.toList_append, tail, sign, width, toList_padded_one]
    simp

end Spelled

theorem ne_of_isDigit {c d : Char} (h : isDigit c) (hd : isDigit d = false) : c ≠ d := by
  rintro rfl
  rw [h] at hd
  cases hd

theorem number_of_digit {c : Char} {cs : List Char} (h : isDigit c) :
    number limits (c :: cs) = unsigned limits false (c :: cs) := by
  have minus : c ≠ '-' := ne_of_isDigit h rfl
  have infinity : c ≠ 'I' := ne_of_isDigit h rfl
  have nan : c ≠ 'N' := ne_of_isDigit h rfl
  unfold number
  split <;> simp_all

theorem number_minus {c : Char} {cs : List Char} (h : isDigit c) :
    number limits ('-' :: c :: cs) = unsigned limits true (c :: cs) := by
  have infinity : c ≠ 'I' := ne_of_isDigit h rfl
  unfold number
  split <;> simp_all

/-- What is read as a number begins with a digit. -/
theorem exists_digit_of_unsigned {cs : List Char} {r : Json × List Char}
    (h : unsigned limits negative cs = some r) : ∃ c ds, cs = c :: ds ∧ isDigit c := by
  cases cs with
  | nil => cases h
  | cons c ds =>
    refine ⟨c, ds, rfl, ?_⟩
    by_contra digit
    simp [unsigned, digit] at h

/-- A number with its sign is read as the sign says. -/
theorem number_signed {cs : List Char} {r : Json × List Char}
    (h : unsigned limits negative cs = some r) :
    number limits ((if negative then ['-'] else []) ++ cs) = some r := by
  obtain ⟨c, ds, rfl, digit⟩ := exists_digit_of_unsigned h
  rw [← h]
  cases negative with
  | true => exact number_minus digit
  | false => exact number_of_digit digit

/-- An integer is read as it is written. -/
theorem number_int {n : ℤ} (short : digitCount n.natAbs ≤ limits.digits) (h : Breaks rest) :
    number limits ((toString n).toList ++ rest) = some (.int n, rest) := by
  have w : Whole (Nat.toDigits 10 n.natAbs) := by
    refine ⟨digits_toDigits _, Nat.toDigits_ne_nil, fun zero => ?_⟩
    rcases Nat.eq_zero_or_pos n.natAbs with none | pos
    · rw [none]
      rfl
    · exact absurd zero (head?_toDigits_ne pos)
  have text : (toString n).toList = (if decide (n < 0) then ['-'] else []) ++
      Nat.toDigits 10 n.natAbs := by
    cases n with
    | ofNat k => exact Nat.toList_repr
    | negSucc k =>
      change ("-" ++ (k + 1).repr).toList = _
      rw [String.toList_append, Nat.toList_repr, decide_eq_true (Int.negSucc_lt_zero k),
        if_pos rfl]
      exact congrArg (· ++ _) String.toList_ofList
  have value : (if decide (n < 0) then -Int.ofNat n.natAbs else Int.ofNat n.natAbs) = n := by
    rw [Int.ofNat_eq_natCast]
    by_cases below : n < 0
    · rw [if_pos (by simpa using below)]
      omega
    · rw [if_neg (by simpa using below)]
      omega
  have read := unsigned_int limits (decide (n < 0)) w h short
  rw [digitsValue_toDigits, value] at read
  rw [text, List.append_assoc]
  exact number_signed read

theorem decimalValue_zero (negative : Bool) (exponent : ℤ) :
    decimalValue negative 0 exponent = assemble negative 0 (-1074) :=
  rfl

/-- A finite double is read as it is written. -/
theorem number_float {x : Float} (finite : isFinite x) (h : Breaks rest) :
    number limits ((Layout.json.float x).toList ++ rest) = some (.float x, rest) := by
  unfold isFinite at finite
  unfold Layout.float
  cases parts : decode x with
  | nan | infinite => simp [parts] at finite
  | finite negative m e =>
    obtain ⟨c, whole⟩ := assemble_of_decode parts
    have sign (body : String) : (if negative then "-" ++ body else body).toList =
        (if negative then ['-'] else []) ++ body.toList := by
      cases negative <;> simp
    simp only [sign, List.append_assoc]
    refine number_signed ?_
    by_cases zero : m = 0
    · have lowest : e = -1074 := c.full.resolve_left (by omega)
      subst zero lowest
      have single : Whole ['0'] := whole_digit rfl
      have read := unsigned_point limits negative single single.digits single.nonempty h
      have none : digitsValue (['0'] ++ ['0']) = 0 := rfl
      rw [none, decimalValue_zero, whole] at read
      exact read
    · have pos : 0 < m := Nat.pos_of_ne_zero zero
      have rounds := roundsTo_shortest c pos
      obtain ⟨digits, exponent, value, read⟩ := unsigned_write limits negative
        (pos_of_roundsTo pos rounds) h
      rw [← value] at rounds
      rw [decimalValue_eq_assemble negative c pos rounds, whole] at read
      simpa [zero] using read

end Write

end Json

end BrokerClient
