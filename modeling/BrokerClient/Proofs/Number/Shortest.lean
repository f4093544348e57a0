import BrokerClient.Number.Decimal
import BrokerClient.Proofs.Number.Rounding
import Mathlib.Data.Nat.Cast.Field
import Mathlib.Data.Nat.Cast.Order.Field

/-!
# The shortest digits of a double

The search for the shortest digits tries finer and finer grids of decimals until a grid has a point
that rounds to the double. A grid whose step is at most `10 ^ (-16)` of the double has one: the
interval of numbers that round to the double is wider than the step, or, at a power of two, its
upper half is. So the search never runs out of digits, and what it finds rounds to the double.

## Main definitions

* `Decimal.value` — the number that a decimal stands for.

## Main results

* `contains_ofDouble_iff` — the interval of the search is that of rounding.
* `roundsTo_shortest` — the shortest digits round to the double.
-/

namespace BrokerClient.Number

/-- The number that a decimal stands for. -/
def Decimal.value (d : Decimal) : ℚ :=
  d.digits * 10 ^ d.exponent

/-- Zeros at the end of the digits make no difference to the number. -/
theorem Decimal.value_strip (fuel : ℕ) (d : Decimal) : (strip fuel d).value = d.value := by
  induction fuel generalizing d with
  | zero => rfl
  | succ fuel ih =>
    unfold strip
    split
    · rename_i h
      simp only [Bool.and_eq_true, bne_iff_ne, beq_iff_eq] at h
      rw [ih]
      have whole : ((d.digits / 10 : ℕ) : ℚ) = d.digits / 10 :=
        Nat.cast_div (Nat.dvd_of_mod_eq_zero h.2) (by norm_num)
      simp only [value, whole, zpow_add₀ (show (10 : ℚ) ≠ 0 by norm_num), zpow_one]
      ring
    · rfl

section Interval

variable {m : ℕ} {e : ℤ}

/-- Quarters of a unit in the last place as a ratio of naturals. -/
theorem quarters_eq (a : ℕ) (e : ℤ) :
    (a / 4 : ℚ) * 2 ^ e = a * 2 ^ (e - 2).toNat / 2 ^ (2 - e).toNat := by
  have unit := pow_toNat_div_pow_toNat 2 (e - 2)
  rw [neg_sub, zpow_sub₀ two_ne_zero] at unit
  rw [mul_div_assoc, unit]
  norm_num
  ring

theorem quarters_le_iff {a n d : ℕ} (hd : 0 < d) :
    a * 2 ^ (e - 2).toNat * d ≤ n * 2 ^ (2 - e).toNat ↔ (a / 4 : ℚ) * 2 ^ e ≤ n / d := by
  have dpos : (0 : ℚ) < d := by exact_mod_cast hd
  rw [quarters_eq, div_le_div_iff₀ (by positivity) dpos]
  exact_mod_cast Iff.rfl

theorem le_quarters_iff {a n d : ℕ} (hd : 0 < d) :
    n * 2 ^ (2 - e).toNat ≤ a * 2 ^ (e - 2).toNat * d ↔ (n / d : ℚ) ≤ a / 4 * 2 ^ e := by
  have dpos : (0 : ℚ) < d := by exact_mod_cast hd
  rw [quarters_eq, div_le_div_iff₀ dpos (by positivity)]
  exact_mod_cast Iff.rfl

/-- A ratio is in the interval of the search if it rounds to the double. -/
theorem contains_ofDouble_iff (pos : 0 < m) {n d : ℕ} (hd : 0 < d) :
    (Interval.ofDouble m e).contains n d ↔ RoundsTo m e (n / d) := by
  obtain ⟨a, low, below⟩ : ∃ a, (4 * m - (if m == Nat.pow 2 52 && e != -1074 then 1 else 2)) = a ∧
      (a / 4 : ℚ) = m - marginBelow m e := by
    refine ⟨_, rfl, ?_⟩
    by_cases narrow : m = 2 ^ 52 ∧ e ≠ -1074
    · have test : (m == Nat.pow 2 52 && e != -1074) = true := by
        simp [narrow.1, narrow.2]
      rw [test, if_pos rfl, marginBelow, if_pos narrow, Nat.cast_sub (by omega)]
      push_cast
      ring
    · have test : (m == Nat.pow 2 52 && e != -1074) = false := by
        simpa using narrow
      rw [test, marginBelow, if_neg narrow, if_neg Bool.false_ne_true, Nat.cast_sub (by omega)]
      push_cast
      ring
  have above : ((4 * m + 2 : ℕ) / 4 : ℚ) = m + 1 / 2 := by
    push_cast
    ring
  simp only [Interval.contains, Interval.ofDouble, low, Nat.pow_eq]
  by_cases even : m % 2 = 0
  · have : (m % 2 == 0) = true := by simp [even]
    simp only [this, if_true, Bool.and_eq_true, decide_eq_true_eq, quarters_le_iff hd,
      le_quarters_iff hd, below, above]
    exact ⟨fun h => ⟨h.1, h.2, fun odd => by omega⟩, fun h => ⟨h.low, h.high⟩⟩
  · have : (m % 2 == 0) = false := by simpa using even
    simp only [this, Bool.false_eq_true, if_false, Bool.and_eq_true, decide_eq_true_eq]
    rw [← not_le, ← not_le, quarters_le_iff hd, le_quarters_iff hd, below, above, not_le, not_le]
    exact ⟨fun h => ⟨h.1.le, h.2.le, fun _ => h⟩, fun h => h.inside (by omega)⟩

/-- A grid point of an interval lies in it. -/
theorem contains_of_gridPoint {i : Interval} {step : ℤ} {d : Decimal}
    (h : i.gridPoint step = some d) :
    i.contains (d.digits * 10 ^ d.exponent.toNat) (10 ^ (-d.exponent).toNat) := by
  simp only [Interval.gridPoint, Nat.pow_eq] at h
  split at h
  · rename_i both
    simp only [Bool.and_eq_true] at both
    cases h
    split
    · exact both.1
    · exact both.2
  · split at h
    · rename_i low
      cases h
      exact low
    · split at h
      · rename_i high
        cases h
        exact high
      · cases h

/-- The search ends with a grid point if there is one among the steps that it tries. -/
theorem gridPoint_search {i : Interval} {point : ℤ} (fuel n k : ℕ) (hk : k < fuel)
    (has : (i.gridPoint (point - Int.ofNat (n + k))).isSome) :
    ∃ step, i.gridPoint step = some (i.search point fuel n) := by
  induction fuel generalizing n k with
  | zero => omega
  | succ fuel ih =>
    unfold Interval.search
    cases found : i.gridPoint (point - Int.ofNat n) with
    | some d => exact ⟨_, found⟩
    | none =>
      cases k with
      | zero =>
        rw [Nat.add_zero, found] at has
        cases has
      | succ k => exact ih (n + 1) k (by omega) (by rwa [Nat.add_right_comm, Nat.add_assoc])

theorem leadingZeros_spec {den num : ℕ} (fuel : ℕ) (h : den ≤ num * 10 ^ (fuel + 1)) :
    den ≤ num * 10 ^ (leadingZeros den fuel num + 1) := by
  induction fuel generalizing num with
  | zero => exact h
  | succ fuel ih =>
    unfold leadingZeros
    split
    · rename_i le
      simpa using le
    · have shifted : den ≤ num * 10 * 10 ^ (fuel + 1) := by rwa [Nat.mul_assoc, ← Nat.pow_succ']
      have later := ih shifted
      rwa [Nat.mul_assoc, ← Nat.pow_succ'] at later

theorem pow_digitCount_le {n : ℕ} (h : 0 < n) : 10 ^ (digitCount n - 1) ≤ n := by
  unfold digitCount
  by_contra less
  have small : (Nat.toDigits 10 n).length - 1 ≠ 0 := fun zero => by
    rw [zero] at less
    omega
  have := (Nat.length_toDigits_le_iff (by decide) (Nat.pos_of_ne_zero small)).mpr (not_le.mp less)
  omega

theorem lt_pow_digitCount (n : ℕ) : n < 10 ^ digitCount n :=
  (Nat.length_toDigits_le_iff (by decide) Nat.length_toDigits_pos).mp le_rfl

/-- A ratio that is not too small is at least the power of ten in front of its first digit. -/
theorem pow_pointPosition_le {num den : ℕ} (hd : 0 < den)
    (h : den ≤ num * 10 ^ (400 + 1)) : (10 : ℚ) ^ (pointPosition num den - 1) ≤ num / den := by
  have dpos : (0 : ℚ) < den := by exact_mod_cast hd
  unfold pointPosition
  split
  · rename_i le
    have q : 0 < num / den := Nat.div_pos le hd
    have count : 1 ≤ digitCount (num / den) := Nat.length_toDigits_pos
    calc (10 : ℚ) ^ (Int.ofNat (digitCount (num / den)) - 1)
        = (10 ^ (digitCount (num / den) - 1) : ℕ) := by
          push_cast
          rw [← zpow_natCast]
          congr 1
          rw [Int.ofNat_eq_natCast]
          omega
      _ ≤ (num / den : ℕ) := by exact_mod_cast pow_digitCount_le q
      _ ≤ num / den := Nat.cast_div_le
  · have spec := leadingZeros_spec 400 h
    rw [le_div_iff₀ dpos, Int.ofNat_eq_natCast]
    generalize leadingZeros den 400 num = z at spec
    have : -(z : ℤ) - 1 = -((z + 1 : ℕ) : ℤ) := by push_cast; ring
    rw [this, zpow_neg, zpow_natCast, inv_mul_le_iff₀ (by positivity), mul_comm]
    exact_mod_cast spec

theorem RoundsTo.of_lt {v : ℚ} (low : (m - marginBelow m e) * 2 ^ e < v)
    (high : v < (m + 1 / 2) * 2 ^ e) : RoundsTo m e v :=
  ⟨low.le, high.le, fun _ => ⟨low, high⟩⟩

/-- On a grid that is fine enough, one of the two neighbours of a double rounds to it. -/
theorem roundsTo_neighbour (c : Canonical m e) {t : ℚ} (tpos : 0 < t)
    (fine : t * 10 ^ 16 ≤ m * 2 ^ e) {f : ℕ} (below : f * t ≤ m * 2 ^ e)
    (above : m * 2 ^ e < (f + 1) * t) :
    RoundsTo m e (f * t) ∨ RoundsTo m e ((f + 1) * t) := by
  have scale : (0 : ℚ) < 2 ^ e := by positivity
  have mlt : (m : ℚ) + 1 ≤ 2 ^ 53 := by exact_mod_cast c.lt
  have short : t < 2 ^ e := by
    have : t * 10 ^ 16 < 10 ^ 16 * 2 ^ e := by
      calc t * 10 ^ 16 ≤ m * 2 ^ e := fine
        _ < 10 ^ 16 * 2 ^ e := by
          gcongr
          linarith
    linarith
  have margin : 0 < marginBelow m e := by
    unfold marginBelow
    split <;> norm_num
  have upper (lt : (f + 1) * t < (m + 1 / 2) * 2 ^ e) : RoundsTo m e ((f + 1) * t) := by
    refine .of_lt ?_ lt
    calc (m - marginBelow m e) * 2 ^ e < m * 2 ^ e := by
          gcongr
          linarith
      _ < (f + 1) * t := above
  by_cases narrow : m = 2 ^ 52 ∧ e ≠ -1074
  · have least : (m : ℚ) = 2 ^ 52 := by exact_mod_cast narrow.1
    rw [least] at below fine
    refine .inr (upper ?_)
    rw [least]
    linarith
  · have half : marginBelow m e = 1 / 2 := if_neg narrow
    by_cases near : (m - 1 / 2) * 2 ^ e < f * t
    · refine .inl (.of_lt (by rwa [half]) ?_)
      linarith
    · refine .inr (upper ?_)
      linarith

theorem isSome_gridPoint_of_contains (i : Interval) {step : ℤ} {f : ℕ}
    (hf : i.value * 10 ^ (-step).toNat / (i.den * 10 ^ step.toNat) = f)
    (h : i.contains (f * 10 ^ step.toNat) (10 ^ (-step).toNat) ∨
      i.contains ((f + 1) * 10 ^ step.toNat) (10 ^ (-step).toNat)) :
    (i.gridPoint step).isSome := by
  unfold Interval.gridPoint
  simp only [Nat.pow_eq, hf]
  obtain h | h := h
  · simp only [h, Bool.true_and, if_true]
    split <;> rfl
  · simp only [h, Bool.and_true, if_true]
    split
    · rfl
    · rfl

theorem quarter_value (m : ℕ) (e : ℤ) :
    ((4 * m * 2 ^ (e - 2).toNat : ℕ) : ℚ) / (2 ^ (2 - e).toNat : ℕ) = m * 2 ^ e := by
  have value := quarters_eq (4 * m) e
  push_cast at value ⊢
  rw [← value]
  ring

/-- A grid that is fine enough has a point that rounds to a double. -/
theorem isSome_gridPoint (c : Canonical m e) (pos : 0 < m) {step : ℤ}
    (fine : (10 : ℚ) ^ step * 10 ^ 16 ≤ m * 2 ^ e) :
    ((Interval.ofDouble m e).gridPoint step).isSome := by
  have tpos : (0 : ℚ) < 10 ^ step := by positivity
  refine isSome_gridPoint_of_contains _ rfl ?_
  have ratio := pow_toNat_div_pow_toNat 10 step
  have upos : 0 < 10 ^ step.toNat := by positivity
  have dpos : 0 < 10 ^ (-step).toNat := by positivity
  rw [contains_ofDouble_iff pos dpos, contains_ofDouble_iff pos dpos]
  have ivalue : (Interval.ofDouble m e).value = 4 * m * 2 ^ (e - 2).toNat := rfl
  have iden : (Interval.ofDouble m e).den = 2 ^ (2 - e).toNat := rfl
  rw [ivalue, iden]
  generalize hf : 4 * m * 2 ^ (e - 2).toNat * 10 ^ (-step).toNat /
    (2 ^ (2 - e).toNat * 10 ^ step.toNat) = f
  have quotient : ((4 * m * 2 ^ (e - 2).toNat * 10 ^ (-step).toNat : ℕ) : ℚ) /
      (2 ^ (2 - e).toNat * 10 ^ step.toNat : ℕ) = m * 2 ^ e / 10 ^ step := by
    rw [← ratio]
    rw [← quarter_value m e]
    push_cast
    field_simp
  have below : f * (10 : ℚ) ^ step ≤ m * 2 ^ e := by
    rw [← le_div_iff₀ tpos, ← quotient, ← hf]
    exact Nat.cast_div_le
  have above : m * 2 ^ e < (f + 1) * (10 : ℚ) ^ step := by
    rw [← div_lt_iff₀ tpos, ← quotient, ← hf, div_lt_iff₀ (by positivity)]
    exact_mod_cast Nat.lt_mul_of_div_lt (Nat.lt_succ_self _) (by positivity)
  push_cast
  rw [mul_div_assoc, mul_div_assoc, ratio]
  exact roundsTo_neighbour c tpos fine below above

theorem Decimal.value_eq (d : Decimal) : d.value =
    (d.digits * 10 ^ d.exponent.toNat : ℕ) / (10 ^ (-d.exponent).toNat : ℕ) := by
  rw [value, ← pow_toNat_div_pow_toNat]
  push_cast
  rw [mul_div_assoc]

theorem two_pow_le_ten_pow {n k : ℕ} (h : n ≤ 3 * k) : 2 ^ n ≤ 10 ^ k :=
  calc 2 ^ n ≤ 2 ^ (3 * k) := Nat.pow_le_pow_right (by decide) h
    _ = 8 ^ k := pow_mul 2 3 k
    _ ≤ 10 ^ k := Nat.pow_le_pow_left (by decide) k

/-- The shortest decimal of a double rounds to it, as seventeen digits suffice. -/
theorem roundsTo_shortest (c : Canonical m e) (pos : 0 < m) :
    RoundsTo m e (shortest m e).value := by
  rw [shortest, Decimal.value_strip]
  have ivalue : (Interval.ofDouble m e).value = 4 * m * 2 ^ (e - 2).toNat := rfl
  have iden : (Interval.ofDouble m e).den = 2 ^ (2 - e).toNat := rfl
  have value : ((Interval.ofDouble m e).value : ℚ) / (Interval.ofDouble m e).den = m * 2 ^ e :=
    quarter_value m e
  have large : (Interval.ofDouble m e).den ≤ (Interval.ofDouble m e).value * 10 ^ (400 + 1) := by
    have short : (2 - e).toNat ≤ 3 * (400 + 1) := by
      have := c.lowest
      omega
    calc (Interval.ofDouble m e).den = 2 ^ (2 - e).toNat := iden
      _ ≤ 10 ^ (400 + 1) := two_pow_le_ten_pow short
      _ ≤ (Interval.ofDouble m e).value * 10 ^ (400 + 1) := by
        rw [ivalue]
        exact Nat.le_mul_of_pos_left _ (by positivity)
  have first := pow_pointPosition_le (by rw [iden]; positivity) large
  rw [value] at first
  generalize pointPosition (Interval.ofDouble m e).value (Interval.ofDouble m e).den = p at first ⊢
  have fine : (10 : ℚ) ^ (p - Int.ofNat (1 + 16)) * 10 ^ 16 ≤ m * 2 ^ e := by
    refine le_trans (le_of_eq ?_) first
    rw [← zpow_natCast, ← zpow_add₀ (by norm_num)]
    congr 1
    rw [Int.ofNat_eq_natCast]
    omega
  obtain ⟨step, found⟩ := gridPoint_search 17 1 16 (by decide) (isSome_gridPoint c pos fine)
  have inside := contains_of_gridPoint found
  rwa [contains_ofDouble_iff pos (by positivity), ← Decimal.value_eq] at inside

end Interval

end BrokerClient.Number
