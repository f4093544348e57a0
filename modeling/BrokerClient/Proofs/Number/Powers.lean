import BrokerClient.Proofs.Number.Order
import BrokerClient.Proofs.Number.Rounding
import BrokerClient.Number.Power

/-!
# The size of powers

A power of a double that is at least one is above zero. It is a double as long as the exact power
is at most the largest one, and it overflows once the exact power reaches `2 ^ 1024`; in between,
the platform's power function decides. Exponents up to `2 ^ 17` are formed exactly; beyond them
only the powers of doubles from two on are known to overflow.

## Main results

* `zero_lt_power` — a power of a double that is at least one is above zero.
* `powerOverflows_of_le` — an exact power of `2 ^ 1024` or more overflows.
-/

namespace BrokerClient.Number

/-! ### Doubles put together from parts -/

/-- The bits of a double as a number, without the sign and before they are bounded. -/
def magnitude (m : ℕ) (e : ℤ) : ℕ :=
  (e + 1074).toNat * 2 ^ 52 + m

/-- Bits up to those of infinity make a double that has these bits. -/
theorem toNat_toBits_ofBits {n : ℕ} (h : n ≤ 2047 * 2 ^ 52) :
    (Float.ofBits n.toUInt64).toBits.toNat = n := by
  have size : n.toUInt64.toBitVec.toNat = n := Nat.mod_eq_of_lt (by omega)
  have valid : Float.Model.Format.binary64.Valid n.toUInt64.toBitVec := by
    refine ⟨fun top some => absurd ?_ some⟩
    rw [unpackExponent_eq_top_iff, size] at top
    rw [unpackMantissa_eq_zero_iff, size]
    omega
  have whole : (Float.ofBits n.toUInt64).toBits.toBitVec = n.toUInt64.toBitVec := pack_unpack valid
  rw [← UInt64.toNat_toBitVec, whole, size]

theorem toNat_toBits_assemble (m : ℕ) (e : ℤ) :
    (assemble false m e).toBits.toNat = min (magnitude m e) (2047 * 2 ^ 52) := by
  have made : assemble false m e =
      Float.ofBits (0 + min (magnitude m e) (2047 * 2 ^ 52)).toUInt64 := rfl
  rw [made, Nat.zero_add, toNat_toBits_ofBits (min_le_right _ _)]

theorem decode_assemble_of_le {m : ℕ} {e : ℤ} (h : 2047 * 2 ^ 52 ≤ magnitude m e) :
    decode (assemble false m e) = .infinite false := by
  simp only [decode, Nat.pow_eq, toNat_toBits_assemble, min_eq_right h]
  decide

theorem decode_assemble_of_lt {m : ℕ} {e : ℤ} (h : magnitude m e < 2047 * 2 ^ 52)
    (pos : 0 < magnitude m e) :
    ∃ n f, 0 < n ∧ decode (assemble false m e) = .finite false n f := by
  simp only [decode, Nat.pow_eq, toNat_toBits_assemble, min_eq_left h.le, beq_iff_eq]
  generalize magnitude m e = b at h pos
  have sign : (b / 2 ^ 63 == 1) = false := by
    rw [Nat.div_eq_of_lt (by omega)]
    rfl
  rw [sign, if_neg (by omega)]
  split
  · exact ⟨b % 2 ^ 52, _, by omega, rfl⟩
  · exact ⟨2 ^ 52 + b % 2 ^ 52, _, by omega, rfl⟩

theorem zero_lt_assemble {m : ℕ} {e : ℤ} (pos : 0 < magnitude m e) : 0 < assemble false m e := by
  obtain h | h := Nat.lt_or_ge (magnitude m e) (2047 * 2 ^ 52)
  · obtain ⟨n, f, pos, read⟩ := decode_assemble_of_lt h pos
    exact zero_lt_of_decode_finite read pos
  · exact zero_lt_of_decode_infinite (decode_assemble_of_le h)

theorem zero_lt_unit : (0 : Float) < 1 :=
  zero_lt_of_decode_finite (m := 2 ^ 52) (e := -52) rfl (by decide)

theorem isFinite_assemble_of_le {m : ℕ} {e : ℤ} (h : 2047 * 2 ^ 52 ≤ magnitude m e) :
    isFinite (assemble false m e) = false := by
  rw [isFinite, decode_assemble_of_le h]

/-! ### Powers above one -/

/-- Moving factors of two into the exponent keeps the value. -/
theorem oddPart_value (fuel m : ℕ) (e : ℤ) :
    ((oddPart fuel m e).1 : ℚ) * 2 ^ (oddPart fuel m e).2 = m * 2 ^ e := by
  induction fuel generalizing m e with
  | zero => rfl
  | succ fuel ih =>
    unfold oddPart
    split
    · rename_i even
      rw [Bool.and_eq_true, bne_iff_ne, beq_iff_eq] at even
      have half : (m : ℚ) = (m / 2 : ℕ) * 2 := by
        exact_mod_cast (Nat.div_mul_cancel (Nat.dvd_of_mod_eq_zero even.2)).symm
      rw [ih, half, zpow_add₀ two_ne_zero, zpow_one]
      ring
    · rfl

/-- A power as it is given to `faithful`. -/
theorem ratio_pow (m k : ℕ) (e : ℤ) :
    ((m ^ k * 2 ^ (e * k).toNat : ℕ) : ℚ) / ((2 ^ (-(e * k)).toNat : ℕ) : ℚ) =
      (m * 2 ^ e) ^ k := by
  push_cast
  rw [mul_div_assoc, pow_toNat_div_pow_toNat, mul_pow, zpow_mul, zpow_natCast]

variable {b : Below} {v : ℚ}

namespace Below.Spec

/-- The place of a power of two below a value. -/
theorem lt_of_zpow_le (spec : b.Spec v) {k : ℤ} (h : 2 ^ k ≤ v) : k < 53 + b.exponent := by
  have lt := h.trans_lt spec.lt_pow
  rw [← zpow_natCast, ← zpow_add₀ two_ne_zero] at lt
  exact (zpow_lt_zpow_iff_right₀ one_lt_two).mp lt

/-- What is at least one has a full mantissa below it. -/
theorem full_of_one_le (spec : b.Spec v) (large : 1 ≤ v) : 2 ^ 52 ≤ b.mantissa := by
  have := spec.lt_of_zpow_le (k := 0) (by rwa [zpow_zero])
  exact spec.full.resolve_right (by omega)

/-- What is at least `2 ^ 1024` lies above all doubles. -/
theorem magnitude_of_le (spec : b.Spec v) (large : 2 ^ 1024 ≤ v) :
    2047 * 2 ^ 52 ≤ magnitude b.mantissa b.exponent := by
  have place := spec.lt_of_zpow_le (k := 1024) (by exact_mod_cast large)
  have full := spec.full.resolve_right (by omega)
  simp only [magnitude]
  omega

end Below.Spec

theorem faithful_cases (hint : Float) (num den : ℕ) :
    faithful hint false num den =
        assemble false (below num den).mantissa (below num den).exponent ∨
      (below num den).rest ≠ 0 ∧ faithful hint false num den =
        assemble false ((below num den).mantissa + 1) (below num den).exponent := by
  unfold faithful
  generalize below num den = b
  dsimp only
  split_ifs with whole <;> simp_all

section Faithful

variable {num den : ℕ} (hint : Float)

theorem zero_lt_faithful (hn : 0 < num) (hd : 0 < den) (large : (1 : ℚ) ≤ num / den) :
    0 < faithful hint false num den := by
  have full := (below_spec hn hd).full_of_one_le large
  obtain eq | ⟨-, eq⟩ := faithful_cases hint num den
  · rw [eq]
    exact zero_lt_assemble (by simp only [magnitude]; omega)
  · rw [eq]
    exact zero_lt_assemble (by simp only [magnitude]; omega)

theorem isFinite_faithful_of_le (hn : 0 < num) (hd : 0 < den)
    (large : (2 : ℚ) ^ 1024 ≤ num / den) : isFinite (faithful hint false num den) = false := by
  have above := (below_spec hn hd).magnitude_of_le large
  obtain eq | ⟨-, eq⟩ := faithful_cases hint num den
  · rw [eq, isFinite_assemble_of_le above]
  · rw [eq, isFinite_assemble_of_le (above.trans (Nat.le_succ _))]

end Faithful

section OddPower

variable {m n : ℕ} {e : ℤ} (hint : Float)

/-- The binary logarithm of a double. -/
theorem top_bounds (pos : 0 < m) :
    (2 : ℚ) ^ ((m.log2 : ℤ) + e) ≤ m * 2 ^ e ∧ (m * 2 ^ e : ℚ) < 2 ^ ((m.log2 : ℤ) + e + 1) := by
  obtain ⟨low, high⟩ := log2_bounds pos
  have unit : (0 : ℚ) < 2 ^ e := zpow_pos two_pos _
  constructor
  · rw [zpow_add₀ two_ne_zero]
    exact mul_le_mul_of_nonneg_right low unit.le
  · rw [add_right_comm, zpow_add₀ two_ne_zero]
    exact mul_lt_mul_of_pos_right high unit

theorem top_of_zpow_le (pos : 0 < m) {k : ℤ} (h : (2 : ℚ) ^ k ≤ m * 2 ^ e) :
    k ≤ (m.log2 : ℤ) + e :=
  Int.lt_add_one_iff.mp ((zpow_lt_zpow_iff_right₀ one_lt_two).mp (h.trans_lt (top_bounds pos).2))

theorem oddPower_eq (n : ℕ) : oddPower hint false m e n =
    if 0 < (m.log2 : ℤ) + e ∧ 1024 ≤ n then assemble false 0 2000
    else if n ≤ exactPowerLimit then
      faithful hint false (m ^ n * 2 ^ (e * n).toNat) (2 ^ (-(e * n)).toNat)
    else if 0 ≤ (m.log2 : ℤ) + e ∧ ¬1 ≤ hint then 1
    else hint := by
  have early : ((0 < (m.log2 : ℤ) + e && 1024 ≤ (n : ℤ)) ||
      ((m.log2 : ℤ) + e + 1 < 0 && (n : ℤ) ≤ -1024)) = true ↔ 0 < (m.log2 : ℤ) + e ∧ 1024 ≤ n := by
    simp only [Bool.or_eq_true, Bool.and_eq_true, decide_eq_true_eq]
    omega
  have late : (0 ≤ (m.log2 : ℤ) + e && 0 ≤ (n : ℤ) && !decide (1 ≤ hint)) = true ↔
      0 ≤ (m.log2 : ℤ) + e ∧ ¬1 ≤ hint := by
    simp
  have forward : 0 ≤ (n : ℤ) := Int.natCast_nonneg n
  simp only [oddPower, Int.ofNat_eq_natCast, early, late, Int.natAbs_natCast, Nat.pow_eq,
    if_pos forward]

theorem zero_lt_oddPower (pos : 0 < m) (large : (1 : ℚ) ≤ m * 2 ^ e) (n : ℕ) :
    0 < oddPower hint false m e n := by
  have top : 0 ≤ (m.log2 : ℤ) + e := top_of_zpow_le pos (by rwa [zpow_zero])
  rw [oddPower_eq]
  split_ifs with early exact late
  · exact zero_lt_assemble (by decide)
  · refine zero_lt_faithful hint (by positivity) (by positivity) ?_
    rw [ratio_pow]
    exact one_le_pow₀ large
  · exact zero_lt_unit
  · exact zero_lt_of_lt_of_le zero_lt_unit (not_not.mp fun h => late ⟨top, h⟩)

theorem isFinite_oddPower_of_le (pos : 0 < m) (large : (2 : ℚ) ^ 1024 ≤ (m * 2 ^ e) ^ n)
    (sure : n ≤ exactPowerLimit ∨ (2 : ℚ) ≤ m * 2 ^ e) :
    isFinite (oddPower hint false m e n) = false := by
  rw [oddPower_eq]
  by_cases early : 0 < (m.log2 : ℤ) + e ∧ 1024 ≤ n
  · rw [if_pos early, isFinite_assemble_of_le (by decide)]
  · have limit : 1024 ≤ exactPowerLimit := by decide
    have exact : n ≤ exactPowerLimit := sure.elim id fun two => by
      have top : 1 ≤ (m.log2 : ℤ) + e := top_of_zpow_le pos (by rwa [zpow_one])
      omega
    rw [if_neg early, if_pos exact]
    refine isFinite_faithful_of_le hint (by positivity) (by positivity) ?_
    rwa [ratio_pow]

end OddPower

/-! ### Powers of two -/

theorem isFinite_powerOfTwo_of_le {k : ℤ} (h : 1024 ≤ k) :
    isFinite (powerOfTwo false k) = false := by
  rw [powerOfTwo, if_pos h, isFinite_assemble_of_le (by decide)]

theorem powerOfTwo_of_nonneg {k : ℤ} (nonneg : 0 ≤ k) (h : k < 1024) :
    powerOfTwo false k = assemble false (2 ^ 52) (k - 52) := by
  rw [powerOfTwo, if_neg (by omega), if_neg (by omega), if_neg (by omega)]
  rfl

theorem zero_lt_powerOfTwo {k : ℤ} (nonneg : 0 ≤ k) : 0 < powerOfTwo false k := by
  by_cases h : 1024 ≤ k
  · rw [powerOfTwo, if_pos h]
    exact zero_lt_assemble (by decide)
  · rw [powerOfTwo_of_nonneg nonneg (by omega)]
    exact zero_lt_assemble (by simp only [magnitude]; omega)

/-! ### Powers -/

section Power

variable {b : Float} {m n : ℕ} {e : ℤ}

/-- A full mantissa in front of a place makes a value of at least the power of two there. -/
theorem zpow_le_of_full {k : ℤ} (full : 2 ^ 52 ≤ m) (place : k ≤ e) :
    (2 : ℚ) ^ (52 + k) ≤ m * 2 ^ e := by
  calc (2 : ℚ) ^ (52 + k) = 2 ^ (52 : ℤ) * 2 ^ k := zpow_add₀ two_ne_zero _ _
    _ ≤ m * 2 ^ e := by
      gcongr
      · exact_mod_cast full
      · norm_num

theorem power_of_decode (read : decode b = .finite false m e) (pos : 0 < m) (hn : 0 < n) :
    power b n =
      if (oddPart 53 m e).1 = 1 then powerOfTwo false ((oddPart 53 m e).2 * n)
      else oddPower (Float.pow b (Float.ofInt n)) false (oddPart 53 m e).1 (oddPart 53 m e).2
        n := by
  have some : ((n : ℤ) == 0) = false := by simp [hn.ne']
  have nonzero : (m == 0) = false := by simp [pos.ne']
  simp only [power, some, read, nonzero, Bool.false_and, beq_iff_eq]
  rfl

theorem oddPart_pos (fuel : ℕ) (pos : 0 < m) : 0 < (oddPart fuel m e).1 := by
  by_contra none
  have zero : (oddPart fuel m e).1 = 0 := by omega
  have unit : (0 : ℚ) < 2 ^ e := zpow_pos two_pos _
  have positive : (0 : ℚ) < m * 2 ^ e := by positivity
  have value := oddPart_value fuel m e
  rw [zero, Nat.cast_zero, zero_mul] at value
  exact positive.ne value

theorem power_zero (b : Float) : power b 0 = 1 :=
  if_pos rfl

/-- A power of a NaN is this NaN. -/
theorem power_of_isNaN (h : b.isNaN) (hn : 0 < n) : power b n = b := by
  have some : ((n : ℤ) == 0) = false := by simp [hn.ne']
  simp only [power, some, decode_eq_nan_iff.mpr h]
  rfl

/-- A power of infinity is infinity. -/
theorem power_of_infinite (h : decode b = .infinite false) (hn : 0 < n) :
    power b n = assemble false 0 2000 := by
  have some : ((n : ℤ) == 0) = false := by simp [hn.ne']
  have positive : 0 < (n : ℤ) := by omega
  simp only [power, some, h, Bool.false_and, if_pos positive]
  rfl

/-- A power of a double that is at least one is above zero. -/
theorem zero_lt_power (h : 1 ≤ b) (n : ℕ) : 0 < power b n := by
  obtain rfl | hn := Nat.eq_zero_or_pos n
  · rw [Nat.cast_zero, power_zero]
    exact zero_lt_unit
  obtain read | ⟨m, e, read, full, place⟩ := decode_of_le (k := -52) rfl h
  · rw [power_of_infinite read hn]
    exact zero_lt_assemble (by decide)
  · have pos : 0 < m := by omega
    have large : (1 : ℚ) ≤ m * 2 ^ e := zpow_le_of_full full place
    rw [power_of_decode read pos hn]
    rw [← oddPart_value 53 m e] at large
    have odd := oddPart_pos (e := e) 53 pos
    generalize oddPart 53 m e = p at large odd ⊢
    split_ifs with two
    · rw [two, Nat.cast_one, one_mul, ← zpow_zero (2 : ℚ)] at large
      have nonneg := (zpow_le_zpow_iff_right₀ one_lt_two).mp large
      exact zero_lt_powerOfTwo (by positivity)
    · exact zero_lt_oddPower _ odd large n

/-- An exact power of `2 ^ 1024` or more overflows, in the range of exact powers and for any double
from two on. -/
theorem powerOverflows_of_le (read : decode b = .finite false m e)
    (large : (2 : ℚ) ^ 1024 ≤ (m * 2 ^ e) ^ n)
    (sure : n ≤ exactPowerLimit ∨ (2 : ℚ) ≤ m * 2 ^ e) : powerOverflows b n = true := by
  have hn : 0 < n := Nat.pos_of_ne_zero fun none => by
    rw [none, pow_zero] at large
    exact absurd large (one_lt_pow₀ one_lt_two (by decide)).not_ge
  have pos : 0 < m := Nat.pos_of_ne_zero fun none => by
    rw [none, Nat.cast_zero, zero_mul, zero_pow hn.ne'] at large
    exact absurd large (pow_pos two_pos _).not_ge
  have finite : isFinite b = true := by rw [isFinite, read]
  rw [powerOverflows, finite, power_of_decode read pos hn, Bool.true_and, Bool.not_eq_true']
  rw [← oddPart_value 53 m e] at large sure
  have odd := oddPart_pos (e := e) 53 pos
  generalize oddPart 53 m e = p at large sure odd ⊢
  split_ifs with two
  · rw [two, Nat.cast_one, one_mul, ← zpow_natCast, ← zpow_natCast, ← zpow_mul] at large
    exact isFinite_powerOfTwo_of_le ((zpow_le_zpow_iff_right₀ one_lt_two).mp large)
  · exact isFinite_oddPower_of_le _ odd large sure

/-- Powers of finite doubles from two on overflow from the exponent 1024 on. -/
theorem powerOverflows_of_two_le (h : 2 ≤ b) (finite : isFinite b) (many : 1024 ≤ n) :
    powerOverflows b n = true := by
  obtain read | ⟨m, e, read, full, place⟩ := decode_of_le (k := -51) rfl h
  · simp [isFinite, read] at finite
  · have two : (2 : ℚ) ≤ m * 2 ^ e := zpow_le_of_full full place
    refine powerOverflows_of_le read ?_ (.inr two)
    calc (2 : ℚ) ^ 1024 ≤ 2 ^ n := pow_le_pow_right₀ one_le_two many
      _ ≤ (m * 2 ^ e) ^ n := pow_le_pow_left₀ zero_le_two two n

/-- A power that does not overflow is finite if and only if the base is. -/
theorem isFinite_power_iff (h : 1 ≤ b) (fits : powerOverflows b n = false) (hn : 0 < n) :
    isFinite (power b n) ↔ isFinite b := by
  cases finite : isFinite b with
  | true =>
    rw [powerOverflows, finite, Bool.true_and, Bool.not_eq_false'] at fits
    simp [fits]
  | false =>
    obtain read | ⟨m, e, read, -, -⟩ := decode_of_le (k := -52) rfl h
    · rw [power_of_infinite read hn, isFinite_assemble_of_le (by decide)]
    · simp [isFinite, read] at finite

end Power

end BrokerClient.Number
