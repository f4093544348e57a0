import BrokerClient.Proofs.Number.Bits
import Mathlib.Algebra.Order.Field.Power
import Mathlib.Data.Rat.Cast.Order
import Mathlib.Tactic.FieldSimp
import Mathlib.Tactic.GCongr
import Mathlib.Tactic.Linarith
import Mathlib.Tactic.Positivity
import Mathlib.Tactic.Ring

/-!
# Rounding ratios to doubles

`ofRatio` takes the grid of doubles around a ratio and rounds to the nearer neighbour. The ratios
that round to one double make up an interval around it, which reaches down only half as far where
the double is a power of two, as the doubles below lie twice as dense. The ends of the interval
belong to it if the mantissa is even.

## Main definitions

* `Below.Spec` — what the largest double below a ratio is.
* `RoundsTo` — the interval of numbers that round to a double.

## Main results

* `below_spec` — `below` finds the largest double below a ratio.
* `ofRatio_eq_assemble` — a ratio in the interval of a double is read as this double.
-/

namespace BrokerClient.Number

/-- A power as a ratio of natural powers. -/
theorem pow_toNat_div_pow_toNat (b : ℚ) (e : ℤ) :
    b ^ e.toNat / b ^ (-e).toNat = b ^ e := by
  obtain h | h := Int.le_total 0 e
  · have none : (-e).toNat = 0 := by omega
    rw [none, pow_zero, div_one, ← zpow_natCast, Int.toNat_of_nonneg h]
  · have none : e.toNat = 0 := by omega
    have back : ((-e).toNat : ℤ) = -e := by omega
    rw [none, pow_zero, ← zpow_natCast, back, zpow_neg, one_div, inv_inv]

/-- A double below a number, with the rest. -/
structure Below.Spec (b : Below) (v : ℚ) : Prop where
  value : v = (b.mantissa + b.rest / b.unit) * 2 ^ b.exponent
  rest_lt : b.rest < b.unit
  lt : b.mantissa < 2 ^ 53
  full : 2 ^ 52 ≤ b.mantissa ∨ b.exponent = -1074
  lowest : -1074 ≤ b.exponent

theorem log2_bounds {n : ℕ} (h : 0 < n) :
    (2 : ℚ) ^ (n.log2 : ℤ) ≤ n ∧ (n : ℚ) < 2 ^ ((n.log2 : ℤ) + 1) := by
  obtain ⟨low, high⟩ := (Nat.log2_eq_iff h.ne').mp rfl
  constructor
  · rw [zpow_natCast]
    exact_mod_cast low
  · have : (n : ℚ) < 2 ^ (n.log2 + 1) := by exact_mod_cast high
    exact_mod_cast this

theorem reaches_iff {num den : ℕ} (hd : 0 < den) (scale : ℤ) :
    (if 0 ≤ scale then den * Nat.pow 2 scale.toNat ≤ num
      else den ≤ num * Nat.pow 2 (-scale).toNat) ↔ (2 : ℚ) ^ scale ≤ num / den := by
  have dpos : (0 : ℚ) < den := by exact_mod_cast hd
  simp only [Nat.pow_eq]
  rw [le_div_iff₀ dpos, ← pow_toNat_div_pow_toNat, div_mul_eq_mul_div,
    div_le_iff₀ (by positivity)]
  split
  · have none : (-scale).toNat = 0 := by omega
    rw [none, pow_zero, mul_one, mul_comm]
    exact_mod_cast Iff.rfl
  · have none : scale.toNat = 0 := by omega
    rw [none, pow_zero, one_mul]
    exact_mod_cast Iff.rfl

/-- The exponent of the largest power of two that a ratio reaches. -/
def topExponent (num den : ℕ) : ℤ :=
  let scale := Int.ofNat num.log2 - Int.ofNat den.log2
  let reaches : Bool :=
    if 0 ≤ scale then den * Nat.pow 2 scale.toNat ≤ num else den ≤ num * Nat.pow 2 (-scale).toNat
  if reaches then scale else scale - 1

theorem below_eq (num den : ℕ) : below num den =
    let exponent := max (topExponent num den - 52) (-1074)
    let up := num * 2 ^ (-exponent).toNat
    let unit := den * 2 ^ exponent.toNat
    ⟨up / unit, exponent, up % unit, unit⟩ :=
  rfl

/-- A positive ratio lies between two powers of two next to each other. -/
theorem binade {num den : ℕ} (hn : 0 < num) (hd : 0 < den) :
    (2 : ℚ) ^ topExponent num den ≤ num / den ∧
      (num / den : ℚ) < 2 ^ (topExponent num den + 1) := by
  obtain ⟨nl, nh⟩ := log2_bounds hn
  obtain ⟨dl, dh⟩ := log2_bounds hd
  have two : (2 : ℚ) ≠ 0 := two_ne_zero
  have dpos : (0 : ℚ) < den := by exact_mod_cast hd
  unfold topExponent
  simp only
  generalize hs : Int.ofNat num.log2 - Int.ofNat den.log2 = scale
  rw [Int.ofNat_eq_natCast, Int.ofNat_eq_natCast] at hs
  have reached : (if 0 ≤ scale then decide (den * Nat.pow 2 scale.toNat ≤ num)
      else decide (den ≤ num * Nat.pow 2 (-scale).toNat)) ↔ (2 : ℚ) ^ scale ≤ num / den := by
    rw [← reaches_iff hd]
    split <;> simp
  by_cases r : (2 : ℚ) ^ scale ≤ num / den
  · have upper : (num / den : ℚ) < 2 ^ (scale + 1) := by
      rw [div_lt_iff₀ dpos]
      calc (num : ℚ) < 2 ^ ((num.log2 : ℤ) + 1) := nh
        _ = 2 ^ (scale + 1) * 2 ^ (den.log2 : ℤ) := by
          rw [← zpow_add₀ two]
          congr 1
          omega
        _ ≤ 2 ^ (scale + 1) * den := by gcongr
    rw [if_pos (reached.mpr r)]
    exact ⟨r, upper⟩
  · have lower : 2 ^ (scale - 1) ≤ (num / den : ℚ) := by
      rw [le_div_iff₀ dpos]
      calc (2 : ℚ) ^ (scale - 1) * den ≤ 2 ^ (scale - 1) * 2 ^ ((den.log2 : ℤ) + 1) := by gcongr
        _ = 2 ^ (num.log2 : ℤ) := by
          rw [← zpow_add₀ two]
          congr 1
          omega
        _ ≤ num := nl
    rw [if_neg fun h => r (reached.mp h), sub_add_cancel]
    exact ⟨lower, not_le.mp r⟩

/-- The double below a ratio is as large as fifty-three bits allow. -/
theorem below_spec {num den : ℕ} (hn : 0 < num) (hd : 0 < den) :
    (below num den).Spec (num / den) := by
  obtain ⟨lower, upper⟩ := binade hn hd
  rw [below_eq]
  generalize topExponent num den = top at lower upper ⊢
  have two : (2 : ℚ) ≠ 0 := two_ne_zero
  have dpos : (0 : ℚ) < den := by exact_mod_cast hd
  generalize he : max (top - 52) (-1074) = e
  simp only
  set up := num * 2 ^ (-e).toNat
  set unit := den * 2 ^ e.toNat
  have upos : 0 < unit := by positivity
  have scaled : (up / unit : ℚ) * 2 ^ e = num / den := by
    rw [← pow_toNat_div_pow_toNat]
    simp only [up, unit]
    push_cast
    field_simp
  have divides : (up : ℚ) / unit = ((up / unit : ℕ) : ℚ) + ((up % unit : ℕ) : ℚ) / unit := by
    have := Nat.div_add_mod up unit
    rw [div_eq_iff (by positivity), add_mul, div_mul_cancel₀ _ (by positivity)]
    exact_mod_cast (by linarith)
  have whole : (up / unit : ℚ) = num / den * 2 ^ (-e) := by
    rw [← scaled, mul_assoc, ← zpow_add₀ two, add_neg_cancel, zpow_zero, mul_one]
  refine ⟨?_, Nat.mod_lt _ upos, ?_, ?_, ?_⟩
  · rw [← divides, scaled]
  · rw [Nat.div_lt_iff_lt_mul upos]
    have : (up / unit : ℚ) < 2 ^ 53 := by
      calc (up / unit : ℚ) = num / den * 2 ^ (-e) := whole
        _ < 2 ^ (top + 1) * 2 ^ (-e) := by gcongr
        _ = 2 ^ (top + 1 - e) := by rw [← zpow_add₀ two, sub_eq_add_neg]
        _ ≤ 2 ^ (53 : ℤ) := zpow_le_zpow_right₀ one_le_two (by omega)
        _ = 2 ^ 53 := by norm_num
    rw [div_lt_iff₀ (by positivity)] at this
    exact_mod_cast this
  · by_cases low : e = -1074
    · exact .inr low
    · left
      rw [Nat.le_div_iff_mul_le upos]
      have : (2 : ℚ) ^ 52 ≤ up / unit := by
        calc (2 : ℚ) ^ 52 = 2 ^ (52 : ℤ) := by norm_num
          _ = 2 ^ (top - e) := by
            congr 1
            omega
          _ = 2 ^ top * 2 ^ (-e) := by rw [← zpow_add₀ two, sub_eq_add_neg]
          _ ≤ num / den * 2 ^ (-e) := by gcongr
          _ = up / unit := whole.symm
      rw [le_div_iff₀ (by positivity)] at this
      exact_mod_cast this
  · change -1074 ≤ e
    omega

/-- How far the numbers that round to a double reach down from it, in units of its last place.
Below a power of two the doubles lie twice as dense. -/
def marginBelow (m : ℕ) (e : ℤ) : ℚ :=
  if m = 2 ^ 52 ∧ e ≠ -1074 then 1 / 4 else 1 / 2

theorem marginBelow_le (m : ℕ) (e : ℤ) : marginBelow m e ≤ 1 / 2 := by
  unfold marginBelow
  split <;> norm_num

/-- The numbers that round to the double `m · 2 ^ e`. The ends belong to even mantissas. -/
structure RoundsTo (m : ℕ) (e : ℤ) (v : ℚ) : Prop where
  low : (m - marginBelow m e) * 2 ^ e ≤ v
  high : v ≤ (m + 1 / 2) * 2 ^ e
  inside : m % 2 = 1 → (m - marginBelow m e) * 2 ^ e < v ∧ v < (m + 1 / 2) * 2 ^ e

/-- The mantissa that is nearest to `mantissa + rest / unit`. -/
def Below.rounded (b : Below) : ℕ :=
  if b.unit < 2 * b.rest || (2 * b.rest == b.unit && b.mantissa % 2 == 1) then b.mantissa + 1
  else b.mantissa

/-- A number at most half a unit away from a mantissa is rounded to it; at just half a unit the
mantissa has to be even. -/
theorem Below.rounded_eq {b : Below} {m : ℕ} (spec : b.rest < b.unit)
    (low : (m - 1 / 2 : ℚ) ≤ b.mantissa + b.rest / b.unit)
    (high : (b.mantissa + b.rest / b.unit : ℚ) ≤ m + 1 / 2)
    (inside : m % 2 = 1 → (m - 1 / 2 : ℚ) < b.mantissa + b.rest / b.unit ∧
      (b.mantissa + b.rest / b.unit : ℚ) < m + 1 / 2) : b.rounded = m := by
  have upos : (0 : ℚ) < b.unit := by exact_mod_cast (Nat.zero_lt_of_lt spec)
  have part : (0 : ℚ) ≤ b.rest / b.unit := by positivity
  have lt : (b.rest / b.unit : ℚ) < 1 := by
    rw [div_lt_one upos]
    exact_mod_cast spec
  have above : b.unit < 2 * b.rest ↔ (1 / 2 : ℚ) < b.rest / b.unit := by
    rw [lt_div_iff₀ upos, ← Nat.cast_lt (α := ℚ)]
    push_cast
    constructor <;> intro h <;> linarith
  have tie : 2 * b.rest = b.unit ↔ (b.rest / b.unit : ℚ) = 1 / 2 := by
    rw [div_eq_iff upos.ne', ← Nat.cast_inj (R := ℚ)]
    push_cast
    constructor <;> intro h <;> linarith
  generalize (b.rest / b.unit : ℚ) = ρ at *
  have le : b.mantissa ≤ m := by
    have : (b.mantissa : ℚ) < m + 1 := by linarith
    exact Nat.lt_succ_iff.mp (by exact_mod_cast this)
  have ge : m ≤ b.mantissa + 1 := by
    have : (m : ℚ) < b.mantissa + 2 := by linarith
    exact Nat.lt_succ_iff.mp (by exact_mod_cast this)
  unfold rounded
  simp only [Bool.or_eq_true, Bool.and_eq_true, decide_eq_true_eq, beq_iff_eq, above, tie]
  obtain eq | eq : m = b.mantissa ∨ m = b.mantissa + 1 := by omega
  · subst eq
    rw [if_neg]
    rintro (h | ⟨h, odd⟩)
    · linarith
    · linarith [(inside odd).2]
  · rw [if_pos, eq]
    have reach : (1 / 2 : ℚ) ≤ ρ := by
      rw [eq] at low
      push_cast at low
      linarith
    obtain lt | eq' := reach.lt_or_eq
    · exact .inl lt
    · refine .inr ⟨eq'.symm, ?_⟩
      by_contra even
      have odd : m % 2 = 1 := by omega
      have := (inside odd).1
      rw [eq] at this
      push_cast at this
      linarith

theorem ofRatio_of_pos (negative : Bool) {num den : ℕ} (hn : 0 < num) :
    ofRatio negative num den =
      assemble negative (below num den).rounded (below num den).exponent := by
  have nonzero : (num == 0) = false := by simp [hn.ne']
  simp only [ofRatio, nonzero, Below.rounded]
  rfl

namespace Below.Spec

variable {b : Below} {m : ℕ} {e : ℤ} {v : ℚ}

theorem unit_pos (spec : b.Spec v) : (0 : ℚ) < b.unit := by
  exact_mod_cast Nat.zero_lt_of_lt spec.rest_lt

theorem part_nonneg (spec : b.Spec v) : (0 : ℚ) ≤ b.rest / b.unit :=
  div_nonneg (Nat.cast_nonneg _) spec.unit_pos.le

theorem part_lt_one (spec : b.Spec v) : (b.rest / b.unit : ℚ) < 1 := by
  rw [div_lt_one spec.unit_pos]
  exact_mod_cast spec.rest_lt

/-- The value stays below the next power of two. -/
theorem lt_pow (spec : b.Spec v) : v < 2 ^ 53 * 2 ^ b.exponent := by
  have part_lt := spec.part_lt_one
  have lt : (b.mantissa : ℚ) + 1 ≤ 2 ^ 53 := by exact_mod_cast spec.lt
  rw [spec.value]
  gcongr
  linarith

/-- The double below a value that rounds to a double lies in no higher binade. -/
theorem exponent_le (spec : b.Spec v) (c : Canonical m e) (r : RoundsTo m e v) :
    b.exponent ≤ e := by
  by_contra above
  rw [not_le] at above
  have part := spec.part_nonneg
  have scale : (0 : ℚ) < 2 ^ e := by positivity
  have mlt : (m : ℚ) + 1 ≤ 2 ^ 53 := by exact_mod_cast c.lt
  have lowest := c.lowest
  have big : (2 : ℚ) ^ 52 ≤ b.mantissa := by exact_mod_cast spec.full.resolve_right (by omega)
  have step : (2 : ℚ) ^ (e + 1) ≤ 2 ^ b.exponent := zpow_le_zpow_right₀ one_le_two above
  rw [zpow_add₀ two_ne_zero, zpow_one] at step
  have : (2 : ℚ) ^ 52 * (2 ^ e * 2) ≤ (m + 1 / 2) * 2 ^ e := by
    calc (2 : ℚ) ^ 52 * (2 ^ e * 2) ≤ (b.mantissa + b.rest / b.unit) * 2 ^ b.exponent := by
          gcongr
          linarith
      _ = v := spec.value.symm
      _ ≤ _ := r.high
  nlinarith

/-- In the binade of the double the mantissa is rounded to that of the double. -/
theorem rounded_eq (spec : b.Spec v) (same : b.exponent = e) (r : RoundsTo m e v) :
    b.rounded = m := by
  subst same
  obtain ⟨low, high, inside⟩ := r
  rw [spec.value] at low high inside
  have scale : (0 : ℚ) < 2 ^ b.exponent := by positivity
  have margin := marginBelow_le m b.exponent
  have low' := le_of_mul_le_mul_right low scale
  have high' := le_of_mul_le_mul_right high scale
  refine Below.rounded_eq spec.rest_lt (by linarith) high' fun odd => ?_
  obtain ⟨l, h⟩ := inside odd
  exact ⟨by linarith [lt_of_mul_lt_mul_right l scale.le], lt_of_mul_lt_mul_right h scale.le⟩

/-- Only the smallest mantissa is reached from the binade below. -/
theorem mantissa_eq (spec : b.Spec v) (lt : b.exponent < e) (c : Canonical m e)
    (r : RoundsTo m e v) : m = 2 ^ 52 := by
  have lowest := spec.lowest
  have full : 2 ^ 52 ≤ m := c.full.resolve_right (by omega)
  have scale : (0 : ℚ) < 2 ^ e := by positivity
  have margin := marginBelow_le m e
  have half : (2 : ℚ) ^ b.exponent ≤ 2 ^ (e - 1) := zpow_le_zpow_right₀ one_le_two (by omega)
  rw [zpow_sub₀ two_ne_zero, zpow_one] at half
  have : ((m : ℚ) - 1 / 2) * 2 ^ e < 2 ^ 52 * 2 ^ e := by
    calc ((m : ℚ) - 1 / 2) * 2 ^ e ≤ (m - marginBelow m e) * 2 ^ e := by gcongr
      _ ≤ v := r.low
      _ < 2 ^ 53 * 2 ^ b.exponent := spec.lt_pow
      _ ≤ 2 ^ 53 * (2 ^ e / 2) := by gcongr
      _ = 2 ^ 52 * 2 ^ e := by ring
  have : (m : ℚ) < 2 ^ 52 + 1 := by linarith [lt_of_mul_lt_mul_right this scale.le]
  have : m < 2 ^ 52 + 1 := by exact_mod_cast this
  omega

/-- The binade below is the next one. -/
theorem exponent_eq (spec : b.Spec v) (lt : b.exponent < e) (low : (2 ^ 52 - 1 / 4) * 2 ^ e ≤ v) :
    b.exponent = e - 1 := by
  by_contra ne
  have scale : (0 : ℚ) < 2 ^ e := by positivity
  have quarter : (2 : ℚ) ^ b.exponent ≤ 2 ^ (e - 2) := zpow_le_zpow_right₀ one_le_two (by omega)
  rw [zpow_sub₀ two_ne_zero] at quarter
  have : ((2 : ℚ) ^ 52 - 1 / 4) * 2 ^ e < 2 ^ 51 * 2 ^ e := by
    calc ((2 : ℚ) ^ 52 - 1 / 4) * 2 ^ e ≤ v := low
      _ < 2 ^ 53 * 2 ^ b.exponent := spec.lt_pow
      _ ≤ 2 ^ 53 * (2 ^ e / 2 ^ (2 : ℤ)) := by gcongr
      _ = 2 ^ 51 * 2 ^ e := by
        norm_num
        ring
  linarith [lt_of_mul_lt_mul_right this scale.le]

/-- From the binade below the mantissa is rounded up to the next power of two. -/
theorem rounded_eq_of_lt (spec : b.Spec v) (next : b.exponent = e - 1)
    (low : (2 ^ 52 - 1 / 4) * 2 ^ e ≤ v) : b.rounded = 2 ^ 53 := by
  have double : (2 : ℚ) ^ e = 2 * 2 ^ b.exponent := by
    rw [next, zpow_sub₀ two_ne_zero, zpow_one]
    ring
  have scale : (0 : ℚ) < 2 ^ b.exponent := by positivity
  have part_lt := spec.part_lt_one
  have lt : (b.mantissa : ℚ) + 1 ≤ 2 ^ 53 := by exact_mod_cast spec.lt
  rw [double, ← mul_assoc, spec.value] at low
  have low' := le_of_mul_le_mul_right low scale
  refine Below.rounded_eq spec.rest_lt ?_ ?_ fun odd => absurd odd (by decide)
  · push_cast
    linarith
  · push_cast
    linarith

end Below.Spec

/-- A mantissa that is one bit too long is the smallest one of the next binade. -/
theorem assemble_carry (negative : Bool) {e : ℤ} (lowest : -1074 < e) :
    assemble negative (2 ^ 53) (e - 1) = assemble negative (2 ^ 52) e := by
  have place : (e + 1074).toNat = (e - 1 + 1074).toNat + 1 := by omega
  have sum : (e - 1 + 1074).toNat * 2 ^ 52 + 2 ^ 53 =
      ((e - 1 + 1074).toNat + 1) * 2 ^ 52 + 2 ^ 52 := by ring
  simp only [assemble, Nat.pow_eq, place, sum]

/-- A ratio that rounds to a double reads as this double. -/
theorem ofRatio_eq_assemble (negative : Bool) {m num den : ℕ} {e : ℤ} (c : Canonical m e)
    (hn : 0 < num) (hd : 0 < den) (r : RoundsTo m e (num / den)) :
    ofRatio negative num den = assemble negative m e := by
  rw [ofRatio_of_pos negative hn]
  have spec := below_spec hn hd
  generalize below num den = b at spec ⊢
  obtain lt | same := (spec.exponent_le c r).lt_or_eq
  · have lowest : -1074 < e := spec.lowest.trans_lt lt
    have least := spec.mantissa_eq lt c r
    have margin : marginBelow m e = 1 / 4 := if_pos ⟨least, lowest.ne'⟩
    have low := r.low
    rw [margin, least] at low
    push_cast at low
    have next := spec.exponent_eq lt low
    rw [spec.rounded_eq_of_lt next low, next, least, assemble_carry negative lowest]
  · rw [spec.rounded_eq same r, same]

end BrokerClient.Number
