import BrokerClient.Proofs.Number.Order
import BrokerClient.Proofs.Number.Rounding
import Mathlib

/-!
# Products and quotients of doubles

A product or a quotient is cut off after some bits more than a mantissa has, with a mark of how much
is cut off. The mark is all that is needed to round to the nearest mantissa later on, so that the
result is the exact one rounded once. A mantissa that is one bit too long after that is the smallest
one of the next exponent.

## Main definitions

* `Nearest` — a natural number that is nearest to a number, the even one of two.
* `cutOff` — a ratio with the mark of what is cut off.
* `Stands` — parts with all fifty-three bits and the number that they stand for.

## Main results

* `cutOff_shiftRight` — to cut off further bits is to divide by a larger number.
* `stands_roundWithAccuracy` — a ratio is rounded to the nearest mantissa.
* `stands_mul`, `stands_div` — so are products and quotients.
* `stands_thousandths` — and the decimal fractions with three digits.
* `truncate?_of_stands` — what is left without the fraction.
-/

namespace BrokerClient.Number

open Float.Model Float.Model.UnpackedFloat

/-! ### Rounding to the nearest natural number -/

/-- A natural number that is nearest to a number, the even one of two. -/
structure Nearest (q : ℕ) (v : ℚ) : Prop where
  low : (q : ℚ) - 1 / 2 ≤ v
  high : v ≤ q + 1 / 2
  inside : q % 2 = 1 → (q : ℚ) - 1 / 2 < v ∧ v < q + 1 / 2

/-- Nearest to a ratio, in natural numbers. -/
theorem nearest_ratio_iff {q n d : ℕ} (hd : 0 < d) : Nearest q (n / d) ↔
    2 * (q * d) ≤ 2 * n + d ∧ 2 * n ≤ 2 * (q * d) + d ∧
      (q % 2 = 1 → 2 * (q * d) < 2 * n + d ∧ 2 * n < 2 * (q * d) + d) := by
  have pos : (0 : ℚ) < d := by exact_mod_cast hd
  have low : (q : ℚ) - 1 / 2 ≤ n / d ↔ 2 * (q * d) ≤ 2 * n + d := by
    rw [le_div_iff₀ pos, ← Nat.cast_le (α := ℚ)]
    push_cast
    constructor <;> intro h <;> linarith
  have high : (n / d : ℚ) ≤ q + 1 / 2 ↔ 2 * n ≤ 2 * (q * d) + d := by
    rw [div_le_iff₀ pos, ← Nat.cast_le (α := ℚ)]
    push_cast
    constructor <;> intro h <;> linarith
  have low' : (q : ℚ) - 1 / 2 < n / d ↔ 2 * (q * d) < 2 * n + d := by
    rw [lt_div_iff₀ pos, ← Nat.cast_lt (α := ℚ)]
    push_cast
    constructor <;> intro h <;> linarith
  have high' : (n / d : ℚ) < q + 1 / 2 ↔ 2 * n < 2 * (q * d) + d := by
    rw [div_lt_iff₀ pos, ← Nat.cast_lt (α := ℚ)]
    push_cast
    constructor <;> intro h <;> linarith
  rw [← low, ← high, ← low', ← high']
  exact ⟨fun h => ⟨h.low, h.high, h.inside⟩, fun ⟨l, h, i⟩ => ⟨l, h, i⟩⟩

/-- Only itself is nearest to a natural number. -/
theorem Nearest.eq {q n : ℕ} (h : Nearest q (n : ℚ)) : q = n := by
  have low : (q : ℚ) < n + 1 := by linarith [h.low]
  have high : (n : ℚ) < q + 1 := by linarith [h.high]
  have : q < n + 1 := by exact_mod_cast low
  have : n < q + 1 := by exact_mod_cast high
  omega

/-! ### Cutting off bits -/

/-- A ratio cut off at the point, with the first bit after it and whether there are others. -/
def cutOff (n d : ℕ) : ExtendedMantissa where
  mantissa := n / d
  roundBit := d ≤ 2 * (n % d)
  stickyBit := n % d ≠ 0 ∧ 2 * (n % d) ≠ d

section CutOff

variable {n d : ℕ}

theorem ofMantissaAndAccuracy_ratio (hd : 0 < d) :
    ExtendedMantissa.ofMantissaAndAccuracy (n / d) (accuracyOfFraction (n % d) d) = cutOff n d := by
  unfold accuracyOfFraction cutOff
  by_cases none : n % d = 0
  · simp [none, ExtendedMantissa.ofMantissaAndAccuracy, hd.ne']
  · rw [if_neg none]
    obtain lt | eq | gt := lt_trichotomy (2 * (n % d)) d
    · rw [compare_lt_iff_lt.mpr lt]
      simp [ExtendedMantissa.ofMantissaAndAccuracy, none, lt, lt.ne]
    · rw [compare_eq_iff_eq.mpr eq]
      simp [ExtendedMantissa.ofMantissaAndAccuracy, eq]
    · rw [compare_gt_iff_gt.mpr gt]
      simp [ExtendedMantissa.ofMantissaAndAccuracy, none, gt.le, gt.ne']

theorem cutOff_shiftRightOne (hd : 0 < d) :
    (cutOff n d).shiftRightOne = cutOff n (d * 2) := by
  have whole : n / d / 2 = n / (d * 2) := Nat.div_div_eq_div_mul n d 2
  have rest : n % (d * 2) = n % d + d * (n / d % 2) := Nat.mod_mul
  have lt : n % d < d := Nat.mod_lt n hd
  simp only [cutOff, ExtendedMantissa.shiftRightOne, whole, rest]
  obtain even | odd := Nat.mod_two_eq_zero_or_one (n / d)
  · simp only [even, Nat.mul_zero, Nat.add_zero, ExtendedMantissa.mk.injEq, true_and]
    constructor
    · simp
      omega
    · rw [Bool.eq_iff_iff]
      simp
      omega
  · simp only [odd, Nat.mul_one, ExtendedMantissa.mk.injEq, true_and]
    constructor
    · simp
      omega
    · rw [Bool.eq_iff_iff]
      simp
      omega

/-- To cut off further bits is to divide by a larger number. -/
theorem cutOff_shiftRight (hd : 0 < d) (k : ℕ) : cutOff n d >>> k = cutOff n (d * 2 ^ k) := by
  induction k with
  | zero =>
    rw [pow_zero, mul_one]
    rfl
  | succ k ih =>
    have step : cutOff n d >>> (k + 1) = (cutOff n d >>> k).shiftRightOne := rfl
    rw [step, ih, cutOff_shiftRightOne (by positivity), mul_assoc, ← pow_succ]

/-- What is kept of a ratio tells whether the rest is less than half a unit. -/
theorem roundedMantissa_cutOff (hd : 0 < d) : (cutOff n d).roundedMantissa =
    if 2 * (n % d) < d then n / d
    else if 2 * (n % d) = d then n / d + n / d % 2
    else n / d + 1 := by
  simp only [cutOff, ExtendedMantissa.roundedMantissa]
  obtain none | some := Nat.eq_zero_or_pos (n % d)
  · simp [none, hd, hd.not_ge, ExtendedMantissa.accuracy, Accuracy.roundToNearestEven]
  · obtain lt | eq | gt := lt_trichotomy (2 * (n % d)) d
    · simp [some.ne', lt, lt.not_ge, lt.ne, ExtendedMantissa.accuracy, Accuracy.roundToNearestEven]
    · simp [eq, ExtendedMantissa.accuracy, Accuracy.roundToNearestEven]
    · simp [some.ne', gt.le, gt.not_gt, gt.ne', ExtendedMantissa.accuracy,
        Accuracy.roundToNearestEven]

/-- What is kept of a ratio is enough to round it. -/
theorem nearest_roundedMantissa (hd : 0 < d) : Nearest (cutOff n d).roundedMantissa (n / d) := by
  rw [nearest_ratio_iff hd, roundedMantissa_cutOff hd]
  have split : d * (n / d) + n % d = n := Nat.div_add_mod n d
  have lt : n % d < d := Nat.mod_lt n hd
  generalize n / d = q at *
  generalize n % d = r at *
  rw [mul_comm] at split
  split_ifs with below tie
  · omega
  · obtain even | odd := Nat.mod_two_eq_zero_or_one q
    · rw [even, Nat.add_zero]
      omega
    · rw [odd, add_mul, one_mul]
      omega
  · rw [add_mul, one_mul]
    omega

end CutOff

/-! ### Rounding to a mantissa -/

/-- A number whose mantissa of fifty-three bits has its last place here. -/
structure LastPlace (v : ℚ) (e : ℤ) : Prop where
  low : 2 ^ 52 * 2 ^ e ≤ v
  high : v < 2 ^ 53 * 2 ^ e
  lowest : -1074 ≤ e
  highest : e ≤ 970

/-- Parts with all fifty-three bits, and the number that they stand for. -/
def Stands (u : UnpackedFloat) (v : ℚ) : Prop :=
  ∃ m e pos, u = .finite .positive m e pos ∧ Canonical m e ∧ 2 ^ 52 ≤ m ∧ v = m * 2 ^ e

/-- As many bits are cut off as a mantissa is too long. -/
theorem shiftToTargetExponent_eq {m k : ℕ} {e : ℤ} (a : Accuracy) (long : m.log2 = 52 + k)
    (lowest : -1074 ≤ e + k) : shiftToTargetExponent Format.binary64 m e a =
      (ExtendedMantissa.ofMantissaAndAccuracy m a >>> k, e + k) := by
  have target : Format.binary64.targetExponent (totalExponent m e) = e + k := by
    have bits : (Format.binary64.mantissaBits : ℤ) = 53 := rfl
    have least : Format.binary64.minExponent = -1074 := rfl
    rw [Format.targetExponent, totalExponent, bits, least, long]
    push_cast
    omega
  have amount : (e + k - e).toNat = k := by omega
  simp only [shiftToTargetExponent, shiftToExponent, target, amount]

/-- A mantissa that is one bit too long after rounding is the smallest one of the next exponent. -/
theorem shiftToTargetExponent_carry {q : ℕ} {e : ℤ} (full : 2 ^ 52 ≤ q) (le : q ≤ 2 ^ 53)
    (lowest : -1074 ≤ e) (highest : e ≤ 970) : ∃ m f,
      shiftToTargetExponent Format.binary64 q e .exact = (⟨m, false, false⟩, f) ∧
        Canonical m f ∧ 2 ^ 52 ≤ m ∧ (q * 2 ^ e : ℚ) = m * 2 ^ f := by
  obtain lt | rfl := le.lt_or_eq
  · have log : q.log2 = 52 + 0 := (Nat.log2_eq_iff (by omega)).mpr ⟨full, lt⟩
    refine ⟨q, e, ?_, ⟨lt, .inl full, lowest, by omega⟩, full, rfl⟩
    rw [shiftToTargetExponent_eq .exact log (by simpa using lowest), Nat.cast_zero, add_zero]
    rfl
  · have log : (2 ^ 53).log2 = 52 + 1 := rfl
    refine ⟨2 ^ 52, e + 1, ?_, ⟨by decide, .inl le_rfl, by omega, by omega⟩, le_rfl, ?_⟩
    · rw [shiftToTargetExponent_eq .exact log (by omega)]
      rfl
    · rw [zpow_add₀ two_ne_zero, zpow_one]
      push_cast
      ring

theorem stands_of_rounded {em : ExtendedMantissa} {m : ℕ} {e E : ℤ} {a : Accuracy}
    (first : shiftToTargetExponent Format.binary64 m e a = (em, E))
    (full : 2 ^ 52 ≤ em.roundedMantissa) (le : em.roundedMantissa ≤ 2 ^ 53)
    (lowest : -1074 ≤ E) (highest : E ≤ 970) :
    Stands (roundWithAccuracy Format.binary64 .positive m e a) (em.roundedMantissa * 2 ^ E) := by
  obtain ⟨m', f, second, canonical, full', value⟩ :=
    shiftToTargetExponent_carry full le lowest highest
  have some : m' ≠ 0 := by omega
  simp only [roundWithAccuracy, first, second, some, ↓reduceDIte]
  exact ⟨m', f, Nat.pos_of_ne_zero some, rfl, canonical, full', value⟩

/-- A ratio whose mantissa is not too short is rounded to the nearest mantissa. -/
theorem stands_roundWithAccuracy {n d : ℕ} {e E : ℤ} {v : ℚ} (hd : 0 < d)
    (value : v = n / d * 2 ^ e) (place : LastPlace v E) (le : e ≤ E) :
    ∃ q, Nearest q (v / 2 ^ E) ∧
      Stands (roundWithAccuracy Format.binary64 .positive (n / d) e
        (accuracyOfFraction (n % d) d)) (q * 2 ^ E) := by
  obtain ⟨k, rfl⟩ : ∃ k : ℕ, E = e + k := ⟨(E - e).toNat, by omega⟩
  have scale : (0 : ℚ) < 2 ^ (e + k : ℤ) := by positivity
  have pos : (0 : ℚ) < d := by exact_mod_cast hd
  have scaled : v / 2 ^ (e + k : ℤ) = (n / (d * 2 ^ k : ℕ) : ℚ) := by
    rw [value, zpow_add₀ two_ne_zero, zpow_natCast]
    push_cast
    field_simp
  have low : (2 : ℚ) ^ 52 ≤ v / 2 ^ (e + k : ℤ) := (le_div_iff₀ scale).mpr place.low
  have high : v / 2 ^ (e + k : ℤ) < 2 ^ 53 := (div_lt_iff₀ scale).mpr place.high
  have long : (n / d).log2 = 52 + k := by
    have dpos : (0 : ℚ) < (d * 2 ^ k : ℕ) := by positivity
    rw [scaled, le_div_iff₀ dpos] at low
    rw [scaled, div_lt_iff₀ dpos] at high
    have low : 2 ^ 52 * (d * 2 ^ k) ≤ n := by exact_mod_cast low
    have high : n < 2 ^ 53 * (d * 2 ^ k) := by exact_mod_cast high
    have lower : 2 ^ (52 + k) ≤ n / d := by
      rw [Nat.le_div_iff_mul_le hd, pow_add]
      linarith
    have upper : n / d < 2 ^ (53 + k) := by
      rw [Nat.div_lt_iff_lt_mul hd, pow_add]
      linarith
    rw [Nat.log2_eq_iff (lower.trans_lt' (by positivity)).ne', Nat.add_right_comm]
    exact ⟨lower, upper⟩
  have nearest : Nearest (cutOff n (d * 2 ^ k)).roundedMantissa (v / 2 ^ (e + k : ℤ)) := by
    rw [scaled]
    exact nearest_roundedMantissa (by positivity)
  have first := shiftToTargetExponent_eq (accuracyOfFraction (n % d) d) long place.lowest
  rw [ofMantissaAndAccuracy_ratio hd, cutOff_shiftRight hd] at first
  refine ⟨_, nearest, stands_of_rounded first ?_ ?_ place.lowest place.highest⟩
  · have : ((2 ^ 52 : ℕ) : ℚ) < (cutOff n (d * 2 ^ k)).roundedMantissa + 1 := by
      push_cast
      linarith [nearest.high]
    exact Nat.lt_succ_iff.mp (by exact_mod_cast this)
  · have : ((cutOff n (d * 2 ^ k)).roundedMantissa : ℚ) < (2 ^ 53 : ℕ) + 1 := by
      push_cast
      linarith [nearest.low]
    exact Nat.lt_succ_iff.mp (by exact_mod_cast this)

/-! ### Products and quotients -/

/-- Parts with all bits are packed as they are. -/
theorem Stands.unpack_pack {u : UnpackedFloat} {v : ℚ} (h : Stands u v) :
    UnpackedFloat.unpack Format.binary64 (UnpackedFloat.pack Format.binary64 u) = u := by
  obtain ⟨m, e, pos, rfl, canonical, full, -⟩ := h
  have lt := canonical.lt
  have lowest := canonical.lowest
  have highest := canonical.highest
  obtain ⟨k, place⟩ : ∃ k : ℕ, e = k - 1075 := ⟨(e + 1075).toNat, by omega⟩
  have exponent : (BitVec.ofNat 11 k).toNat = k := by
    rw [BitVec.toNat_ofNat]
    omega
  have fraction : (BitVec.ofNat 52 m).toNat = m - 2 ^ 52 := by
    rw [BitVec.toNat_ofNat]
    omega
  have mantissa : (1#1 ++ BitVec.ofNat 52 m).toNat = m := by
    rw [BitVec.toNat_append, ← Nat.shiftLeft_add_eq_or_of_lt (BitVec.isLt _), fraction]
    change 1 <<< 52 + (m - 2 ^ 52) = m
    omega
  have top : BitVec.ofNat 11 k ≠ -1#11 := fun eq => by
    have := congrArg BitVec.toNat eq
    rw [exponent] at this
    have : k = 2047 := this
    omega
  have bottom : BitVec.ofNat 11 k ≠ 0#11 := fun eq => by
    have := congrArg BitVec.toNat eq
    rw [exponent] at this
    have : k = 0 := this
    omega
  have bias : (Format.binary64.exponentBias : ℤ) = 1023 := rfl
  rw [pack_normal .positive full lt (by omega) pos place]
  unfold UnpackedFloat.unpack
  simp only [unpackExponent_packComponents, unpackMantissa_packComponents,
    unpackSign_packComponents, Sign.ofBitVec_toBitVec, if_neg top, if_neg bottom, mantissa,
    exponent, bias, UnpackedFloat.finite.injEq, true_and]
  omega

variable {x y : Float} {u v : ℚ} {E : ℤ}

/-- A product is the nearest double. -/
theorem stands_mul (hx : Stands (parts x) u) (hy : Stands (parts y) v)
    (place : LastPlace (u * v) E) :
    ∃ q, Nearest q (u * v / 2 ^ E) ∧ Stands (parts (x * y)) (q * 2 ^ E) := by
  obtain ⟨m, e, posm, eqx, -, fullm, rfl⟩ := hx
  obtain ⟨n, f, posn, eqy, -, fulln, rfl⟩ := hy
  have value : (m * 2 ^ e * (n * 2 ^ f) : ℚ) = (m * n : ℕ) / (1 : ℕ) * 2 ^ (e + f) := by
    rw [zpow_add₀ two_ne_zero]
    push_cast
    ring
  have le : e + f ≤ E := by
    have large : (2 : ℚ) ^ 104 * 2 ^ (e + f) < 2 ^ 53 * 2 ^ E := by
      refine lt_of_le_of_lt ?_ (value ▸ place.high)
      rw [Nat.cast_one, div_one]
      have : 2 ^ 104 ≤ m * n := by nlinarith
      gcongr
      exact_mod_cast this
    rw [← zpow_natCast, ← zpow_natCast, ← zpow_add₀ two_ne_zero, ← zpow_add₀ two_ne_zero,
      zpow_lt_zpow_iff_right₀ one_lt_two] at large
    push_cast at large
    omega
  obtain ⟨q, nearest, stands⟩ := stands_roundWithAccuracy one_pos value place le
  have exact : accuracyOfFraction (m * n % 1) 1 = .exact := by
    rw [Nat.mod_one]
    rfl
  rw [Nat.div_one, exact] at stands
  refine ⟨q, nearest, ?_⟩
  rw [parts_mul, eqx, eqy]
  rw [← stands.unpack_pack] at stands
  exact stands

/-- A quotient of finite parts is rounded once, however many bits they have. -/
theorem stands_divFinite {m n : ℕ} {e f : ℤ} (posm : 0 < m) (posn : 0 < n)
    (place : LastPlace (m * 2 ^ e / (n * 2 ^ f)) E) :
    ∃ q, Nearest q (m * 2 ^ e / (n * 2 ^ f) / 2 ^ E) ∧
      Stands (UnpackedFloat.div Format.binary64 (.finite .positive m e posm)
        (.finite .positive n f posn)) (q * 2 ^ E) := by
  have bits : (Format.binary64.mantissaBits : ℤ) = 53 := rfl
  have least : Format.binary64.minExponent = -1074 := rfl
  set t := min (e - f)
    (Format.binary64.targetExponent (totalExponent m e - totalExponent n f)) with ht
  obtain ⟨s, split⟩ : ∃ s : ℕ, e - f - t = s := ⟨(e - f - t).toNat, by omega⟩
  have value : (m * 2 ^ e / (n * 2 ^ f) : ℚ) = (m <<< s : ℕ) / (n : ℕ) * 2 ^ t := by
    have : e = f + (s + t) := by omega
    rw [this, zpow_add₀ two_ne_zero, zpow_add₀ two_ne_zero, zpow_natCast, Nat.shiftLeft_eq]
    push_cast
    field_simp
  have le : t ≤ E := by
    have lowm := (log2_bounds posm).1
    have highn := (log2_bounds posn).2
    have large : (2 : ℚ) ^ (m.log2 + e) < 2 ^ 53 * 2 ^ E * 2 ^ (n.log2 + 1 + f) := by
      have npos : (0 : ℚ) < n * 2 ^ f := by positivity
      calc (2 : ℚ) ^ (m.log2 + e) = 2 ^ (m.log2 : ℤ) * 2 ^ e := zpow_add₀ two_ne_zero _ _
        _ ≤ m * 2 ^ e := by gcongr
        _ < 2 ^ 53 * 2 ^ E * (n * 2 ^ f) := (div_lt_iff₀ npos).mp place.high
        _ ≤ 2 ^ 53 * 2 ^ E * (2 ^ (n.log2 + 1 : ℤ) * 2 ^ f) := by gcongr
        _ = 2 ^ 53 * 2 ^ E * 2 ^ (n.log2 + 1 + f) := by rw [← zpow_add₀ two_ne_zero]
    rw [← zpow_natCast, ← zpow_add₀ two_ne_zero, ← zpow_add₀ two_ne_zero,
      zpow_lt_zpow_iff_right₀ one_lt_two] at large
    have lowest := place.lowest
    rw [Format.targetExponent, totalExponent, totalExponent, bits, least] at ht
    push_cast at large
    omega
  obtain ⟨q, nearest, stands⟩ := stands_roundWithAccuracy posn value place le
  refine ⟨q, nearest, ?_⟩
  have amount : (e - f - t).toNat = s := by omega
  simp only [UnpackedFloat.div, divCore, ← ht, amount]
  exact stands

/-- A quotient is the nearest double. -/
theorem stands_div (hx : Stands (parts x) u) (hy : Stands (parts y) v)
    (place : LastPlace (u / v) E) :
    ∃ q, Nearest q (u / v / 2 ^ E) ∧ Stands (parts (x / y)) (q * 2 ^ E) := by
  obtain ⟨m, e, posm, eqx, -, -, rfl⟩ := hx
  obtain ⟨n, f, posn, eqy, -, -, rfl⟩ := hy
  obtain ⟨q, nearest, stands⟩ := stands_divFinite posm posn place
  have divided : parts (x / y) = UnpackedFloat.unpack Format.binary64 (UnpackedFloat.pack
    Format.binary64 (UnpackedFloat.div Format.binary64 (parts x) (parts y))) := rfl
  refine ⟨q, nearest, ?_⟩
  rw [divided, eqx, eqy, stands.unpack_pack]
  exact stands

/-! ### Natural numbers and their thousandths -/

theorem lastPlace_natCast {n : ℕ} (pos : 0 < n) (lt : n < 2 ^ 53) :
    LastPlace n (n.log2 - 52) := by
  have log : n.log2 < 53 := (Nat.log2_lt pos.ne').mpr lt
  obtain ⟨low, high⟩ := log2_bounds pos
  refine ⟨?_, ?_, by omega, by omega⟩
  · rwa [← zpow_natCast, ← zpow_add₀ two_ne_zero, Nat.cast_ofNat, add_sub_cancel]
  · rw [← zpow_natCast, ← zpow_add₀ two_ne_zero]
    convert high using 2
    push_cast
    ring

/-- A natural number of fifty-three bits is a double. -/
theorem stands_toFloat {n : ℕ} (pos : 0 < n) (lt : n < 2 ^ 53) :
    Stands (parts n.toUInt64.toFloat) n := by
  have log : n.log2 < 53 := (Nat.log2_lt pos.ne').mpr lt
  obtain ⟨k, split⟩ : ∃ k : ℕ, (n.log2 : ℤ) - 52 = -k := ⟨52 - n.log2, by omega⟩
  have scaled : (n / 2 ^ (-k : ℤ) : ℚ) = (n <<< k : ℕ) := by
    rw [zpow_neg, div_inv_eq_mul, zpow_natCast, Nat.shiftLeft_eq]
    push_cast
    rfl
  have place := lastPlace_natCast pos lt
  rw [split] at place
  have value : (n : ℚ) = (n <<< k : ℕ) / (1 : ℕ) * 2 ^ (-k : ℤ) := by
    rw [← scaled]
    field_simp
    simp
  obtain ⟨q, nearest, stands⟩ := stands_roundWithAccuracy one_pos value place le_rfl
  rw [scaled] at nearest
  rw [nearest.eq, ← scaled, div_mul_cancel₀ _ (by positivity)] at stands
  have read : UnpackedFloat.ofUInt64 Format.binary64 n.toUInt64 =
      roundWithAccuracy Format.binary64 .positive (n <<< k / 1) (-k)
        (accuracyOfFraction (n <<< k % 1) 1) := by
    have bits : (Format.binary64.mantissaBits : ℤ) = 53 := rfl
    have least : Format.binary64.minExponent = -1074 := rfl
    have small : n.toUInt64.toNat = n := UInt64.toNat_ofNat_of_lt' (lt.trans (by decide))
    have above : compare (n : ℤ) 0 = .gt := compare_gt_iff_gt.mpr (by exact_mod_cast pos)
    have target : Format.binary64.targetExponent (totalExponent n 0) = -k := by
      rw [Format.targetExponent, totalExponent, bits, least]
      omega
    have amount : ((0 : ℤ) - -k).toNat = k := by omega
    have rest : (0 : ℤ) - k = -k := by omega
    rw [Nat.mod_one, Nat.div_one]
    simp only [UnpackedFloat.ofUInt64, UnpackedFloat.ofNat, UnpackedFloat.ofInt,
      UnpackedFloat.normalize, UnpackedFloat.round, decreaseExponent, small, above,
      Int.toNat_natCast, target, amount, rest]
    rfl
  have packed : parts n.toUInt64.toFloat = UnpackedFloat.unpack Format.binary64
    (UnpackedFloat.pack Format.binary64 (UnpackedFloat.ofUInt64 Format.binary64 n.toUInt64)) := rfl
  rw [packed, read, stands.unpack_pack]
  exact stands

theorem stands_thousand : Stands (parts 1000) 1000 :=
  ⟨1000 * 2 ^ 43, -43, by decide, rfl, ⟨by decide, .inl (by decide), by decide, by decide⟩,
    by decide, by norm_num⟩

/-- A decimal fraction with three digits is the nearest double. -/
theorem stands_thousandths {n : ℕ} (pos : 0 < n) (place : LastPlace (n / 1000) E) :
    ∃ q, Nearest q (n / 1000 / 2 ^ E) ∧
      Stands (parts (Float.ofScientific n true 3)) (q * 2 ^ E) := by
  unfold Float.ofScientific
  split
  · rename_i small
    exact stands_div (stands_toFloat pos small.1) stands_thousand place
  · have value : ((n : ℚ) * 2 ^ (0 : ℤ) / ((1000 : ℕ) * 2 ^ (0 : ℤ))) = n / 1000 := by norm_num
    rw [← value] at place ⊢
    obtain ⟨q, nearest, stands⟩ := stands_divFinite pos (by decide) place
    refine ⟨q, nearest, ?_⟩
    have read : UnpackedFloat.ofScientific Format.binary64 n (Int.negOfNat 3) =
        UnpackedFloat.div Format.binary64 (.finite .positive n 0 pos)
          (.finite .positive 1000 0 (by decide)) := by
      have below : ¬(Int.negOfNat 3 > 2 ^ Format.binary64.exponentBits) := by decide
      have above : ¬(Int.negOfNat 3 < -((2 ^ Format.binary64.exponentBits : ℤ) + n.log2)) := by
        have : (2 ^ Format.binary64.exponentBits : ℤ) = 2048 := rfl
        have : Int.negOfNat 3 = -3 := rfl
        omega
      have negative : ¬(0 ≤ Int.negOfNat 3) := by decide
      simp only [UnpackedFloat.ofScientific, pos.ne', below, above, negative, ↓reduceDIte,
        ↓reduceIte]
      rfl
    rw [← read] at stands
    change Stands (UnpackedFloat.unpack Format.binary64 (UnpackedFloat.pack Format.binary64
      (UnpackedFloat.ofScientific Format.binary64 n (Int.negOfNat 3)))) _
    rw [stands.unpack_pack]
    exact stands

/-- What is left of a double without its fraction. -/
theorem truncate?_of_stands (h : Stands (parts x) v) : truncate? x = some ⌊v⌋ := by
  obtain ⟨m, e, pos, eq, -, -, rfl⟩ := h
  have value : (m * 2 ^ e : ℚ) = (m * 2 ^ e.toNat : ℕ) / (2 ^ (-e).toNat : ℕ) := by
    rw [← pow_toNat_div_pow_toNat]
    push_cast
    ring
  rw [value, Rat.floor_natCast_div_natCast, truncate?, decode_eq, eq]
  rfl

end BrokerClient.Number
