import BrokerClient.Proofs.Number.Bits
import Mathlib

/-!
# Comparing and multiplying doubles

A NaN compares with nothing. Any two other doubles compare one way or the other, so a comparison
that fails says something about them only where neither is a NaN. The product of a double that is
at least zero with one above zero is at least zero again, unless it is zero times infinity, which
is a NaN.

## Main definitions

* `parts` — what a double stands for, in the form that comparisons and products read.
* `AtLeastZero`, `AboveZero` — the signs of such parts.

## Main results

* `decode_eq` — `decode` reads the parts of a double.
* `le_of_not_lt_of_not_isNaN` — of two doubles that are no NaN one is at most the other.
* `zero_le_mul_iff` — when a product is at least zero.
-/

namespace BrokerClient.Number

open Float.Model Float.Model.UnpackedFloat

/-- What a double stands for. -/
def parts (x : Float) : UnpackedFloat :=
  x.toModel.unpack

variable {x y : Float}

/-! ### Comparisons -/

theorem lt_iff_compare : x < y ↔ (parts x).compare (parts y) = some .lt := by
  have unfolded : x < y ↔ (x.toModel.lt y.toModel) = true := by
    change Float.lt x y = true ↔ _
    unfold Float.lt
    exact decide_eq_true_iff
  rw [unfolded]
  exact beq_iff_eq

theorem le_iff_compare : x ≤ y ↔
    (parts x).compare (parts y) = some .lt ∨ (parts x).compare (parts y) = some .eq := by
  have unfolded : x ≤ y ↔ (x.toModel.le y.toModel) = true := by
    change Float.le x y = true ↔ _
    unfold Float.le
    exact decide_eq_true_iff
  rw [unfolded]
  change ((parts x).compare (parts y)).any (·.isLE) = true ↔ _
  cases (parts x).compare (parts y) with
  | none => simp
  | some o => cases o <;> simp

theorem isNaN_iff_parts : x.isNaN ↔ parts x = .notANumber :=
  UnpackedFloat.isNaN_iff

/-- Comparing the other way round. -/
theorem compare_swap (u v : UnpackedFloat) : v.compare u = (u.compare v).map Ordering.swap := by
  obtain s | _ | s | ⟨s, m, e, pos⟩ := u <;> obtain t | _ | t | ⟨t, n, f, pos'⟩ := v <;> try rfl
  all_goals cases s <;> cases t <;> try rfl
  all_goals
    simp only [UnpackedFloat.compare, Option.map_some, Ordering.swap_then, Ordering.swap_swap]
    rw [← Std.OrientedCmp.eq_swap, ← Std.OrientedCmp.eq_swap]

/-- Only a NaN compares with nothing. -/
theorem compare_eq_none_iff (u v : UnpackedFloat) :
    u.compare v = none ↔ u = .notANumber ∨ v = .notANumber := by
  obtain s | _ | s | ⟨s, m, e, pos⟩ := u <;> obtain t | _ | t | ⟨t, n, f, pos'⟩ := v
  all_goals try cases s
  all_goals try cases t
  all_goals simp [UnpackedFloat.compare]

theorem compare_self {u : UnpackedFloat} (h : u ≠ .notANumber) : u.compare u = some .eq := by
  obtain s | _ | s | ⟨s, m, e, pos⟩ := u
  all_goals try cases s
  all_goals first | rfl | simp_all [UnpackedFloat.compare]

/-- Of two doubles that are no NaN one is at most the other. -/
theorem le_of_not_lt_of_not_isNaN (h : ¬y < x) (hx : ¬x.isNaN) (hy : ¬y.isNaN) : x ≤ y := by
  rw [isNaN_iff_parts] at hx hy
  rw [lt_iff_compare, compare_swap (parts x)] at h
  have comparable := (compare_eq_none_iff (parts x) (parts y)).not.mpr (not_or.mpr ⟨hx, hy⟩)
  rw [le_iff_compare]
  cases order : (parts x).compare (parts y) with
  | none => exact absurd order comparable
  | some o => cases o <;> simp_all

theorem not_isNaN_of_le (h : x ≤ y) : ¬x.isNaN ∧ ¬y.isNaN := by
  rw [isNaN_iff_parts, isNaN_iff_parts, ← not_or, ← compare_eq_none_iff]
  obtain h | h := le_iff_compare.mp h <;> simp [h]

theorem le_self_of_not_isNaN (hx : ¬x.isNaN) : x ≤ x :=
  le_iff_compare.mpr (.inr (compare_self (isNaN_iff_parts.not.mp hx)))

/-! ### Signs -/

/-- At least zero. -/
def AtLeastZero : UnpackedFloat → Prop
  | .notANumber | .infinity .negative | .finite .negative .. => False
  | _ => True

/-- Above zero. -/
def AboveZero : UnpackedFloat → Prop
  | .infinity .positive | .finite .positive .. => True
  | _ => False

theorem zero_le_iff_parts : 0 ≤ x ↔ AtLeastZero (parts x) := by
  have zero : parts 0 = .zero .positive := rfl
  rw [le_iff_compare, zero]
  generalize parts x = u
  obtain (_ | _) | _ | _ | ⟨_ | _, m, e, pos⟩ := u <;> simp [AtLeastZero, UnpackedFloat.compare]

theorem zero_lt_iff_parts : 0 < x ↔ AboveZero (parts x) := by
  have zero : parts 0 = .zero .positive := rfl
  rw [lt_iff_compare, zero]
  generalize parts x = u
  obtain (_ | _) | _ | _ | ⟨_ | _, m, e, pos⟩ := u <;> simp [AboveZero, UnpackedFloat.compare]

theorem zero_le_of_le (hx : 0 ≤ x) (h : x ≤ y) : 0 ≤ y := by
  rw [zero_le_iff_parts] at *
  rw [le_iff_compare] at h
  generalize parts x = u at *
  generalize parts y = v at *
  obtain (_ | _) | _ | _ | ⟨_ | _, m, e, pos⟩ := u <;>
    obtain (_ | _) | _ | _ | ⟨_ | _, n, f, pos'⟩ := v
  all_goals simp_all [AtLeastZero, UnpackedFloat.compare]

theorem zero_le_of_lt (hx : 0 ≤ x) (h : x < y) : 0 ≤ y :=
  zero_le_of_le hx (le_iff_compare.mpr (.inl (lt_iff_compare.mp h)))

theorem zero_lt_of_lt_of_le (hx : 0 < x) (h : x ≤ y) : 0 < y := by
  rw [zero_lt_iff_parts] at *
  rw [le_iff_compare] at h
  generalize parts x = u at *
  generalize parts y = v at *
  obtain (_ | _) | _ | _ | ⟨_ | _, m, e, pos⟩ := u <;>
    obtain (_ | _) | _ | _ | ⟨_ | _, n, f, pos'⟩ := v
  all_goals simp_all [AboveZero, UnpackedFloat.compare]

/-! ### Products -/

/-- The sign of a double that is no NaN. -/
def sign? : UnpackedFloat → Option Sign
  | .notANumber => none
  | .infinity s | .zero s | .finite s .. => some s

theorem sign?_eq_none_iff {u : UnpackedFloat} : sign? u = none ↔ u = .notANumber := by
  cases u <;> simp [sign?]

theorem sign?_unpack (b : Bits) : sign? (UnpackedFloat.unpack Format.binary64 b) =
    if unpackExponent b = -1#_ ∧ unpackMantissa b ≠ 0#_ then none
    else some (Sign.ofBitVec (unpackSign b)) := by
  fun_cases UnpackedFloat.unpack Format.binary64 b with
  | case1 m e v s top zero => exact (if_neg fun nan => nan.2 zero).symm
  | case2 m e top some => exact (if_pos ⟨top, some⟩).symm
  | case3 m e v s ordinary => exact (if_neg fun nan => ordinary nan.1).symm
  | case4 m e f v s ordinary => exact (if_neg fun nan => ordinary nan.1).symm
  | case5 m e f v s ordinary => exact (if_neg fun nan => ordinary nan.1).symm

theorem sign?_packComponents (s : Sign) (e : BitVec 11) (m : BitVec 52) (h : e = -1#_ → m = 0#_) :
    sign? (UnpackedFloat.unpack Format.binary64 (packComponents Format.binary64 s e m)) =
      some s := by
  rw [sign?_unpack, unpackExponent_packComponents, unpackMantissa_packComponents,
    unpackSign_packComponents, Sign.ofBitVec_toBitVec, if_neg]
  exact fun nan => nan.2 (h nan.1)

/-- Rounding to the doubles keeps the sign, and makes no NaN. -/
theorem sign?_pack (u : UnpackedFloat) :
    sign? (UnpackedFloat.unpack Format.binary64 (UnpackedFloat.pack Format.binary64 u)) =
      sign? u := by
  fun_cases UnpackedFloat.pack Format.binary64 u with
  | case1 => rw [unpack_packedNaN]
  | case2 s => exact sign?_packComponents _ _ _ fun _ => rfl
  | case3 s => rw [unpack_packedZero]
  | case4 s m e pos biased large => exact sign?_packComponents _ _ _ fun _ => rfl
  | case5 s m e pos length biased small full =>
    refine sign?_packComponents _ _ _ fun top => ?_
    have biggest : biased % 2 ^ 11 = 2047 := by
      have := congrArg BitVec.toNat top
      rwa [BitVec.toNat_ofNat] at this
    have : ¬2048 ≤ biased + 1 := small
    omega
  | case6 => exact sign?_packComponents _ _ _ fun top => absurd top (by decide)

/-- A product is rounded to the doubles. -/
theorem parts_mul : parts (x * y) = UnpackedFloat.unpack Format.binary64
    (UnpackedFloat.pack Format.binary64 (UnpackedFloat.mul Format.binary64 (parts x) (parts y))) :=
  rfl

theorem isNaN_mul_iff :
    (x * y).isNaN ↔ UnpackedFloat.mul Format.binary64 (parts x) (parts y) = .notANumber := by
  rw [isNaN_iff_parts, parts_mul, ← sign?_eq_none_iff, sign?_pack, sign?_eq_none_iff]

theorem isNaN_mul_left (h : x.isNaN) : (x * y).isNaN := by
  rw [isNaN_mul_iff, isNaN_iff_parts.mp h]
  rfl

theorem isNaN_mul_right (h : y.isNaN) : (x * y).isNaN := by
  rw [isNaN_mul_iff, isNaN_iff_parts.mp h]
  cases parts x <;> rfl

/-- Rounding to the doubles keeps what is at least zero so. -/
theorem atLeastZero_pack {u : UnpackedFloat} (h : AtLeastZero u) :
    AtLeastZero (UnpackedFloat.unpack Format.binary64 (UnpackedFloat.pack Format.binary64 u)) := by
  obtain rfl | positive : u = .zero .negative ∨ sign? u = some .positive := by
    obtain (_ | _) | _ | (_ | _) | ⟨_ | _, m, e, pos⟩ := u <;> simp_all [AtLeastZero, sign?]
  · rw [UnpackedFloat.pack, unpack_packedZero]
    exact h
  · rw [← sign?_pack] at positive
    generalize UnpackedFloat.unpack Format.binary64 (UnpackedFloat.pack Format.binary64 u) = v at *
    obtain (_ | _) | _ | (_ | _) | ⟨_ | _, m, e, pos⟩ := v <;> simp_all [AtLeastZero, sign?]

theorem atLeastZero_roundWithAccuracy (m : ℕ) (e : ℤ) (a : Accuracy) :
    AtLeastZero (roundWithAccuracy Format.binary64 .positive m e a) := by
  unfold roundWithAccuracy
  dsimp only
  split <;> trivial

/-! ### What is read from the bits -/

/-- Whether a sign is negative. -/
def negative : Sign → Bool
  | .negative => true
  | .positive => false

theorem negative_ofBitVec (b : BitVec 1) : negative (Sign.ofBitVec b) = (b.toNat == 1) := by
  revert b; decide

theorem unpackExponent_eq_top_iff (b : Bits) :
    unpackExponent b = -1#_ ↔ b.toNat / 2 ^ 52 % 2048 = 2047 := by
  rw [← BitVec.toNat_inj, toNat_unpackExponent]
  rfl

theorem unpackExponent_eq_zero_iff (b : Bits) :
    unpackExponent b = 0#_ ↔ b.toNat / 2 ^ 52 % 2048 = 0 := by
  rw [← BitVec.toNat_inj, toNat_unpackExponent]
  rfl

theorem unpackMantissa_eq_zero_iff (b : Bits) :
    unpackMantissa b = 0#_ ↔ b.toNat % 2 ^ 52 = 0 := by
  rw [← BitVec.toNat_inj, toNat_unpackMantissa]
  rfl

/-- What is read from the bits of a double, taken as a number, are its parts. -/
theorem reading_eq (b : Bits) :
    (if b.toNat / 2 ^ 52 % 2048 = 2047 then
      if b.toNat % 2 ^ 52 = 0 then Binary64.infinite (b.toNat / 2 ^ 63 == 1) else .nan
    else if b.toNat / 2 ^ 52 % 2048 = 0 then
      .finite (b.toNat / 2 ^ 63 == 1) (b.toNat % 2 ^ 52) (-1074)
    else .finite (b.toNat / 2 ^ 63 == 1) (2 ^ 52 + b.toNat % 2 ^ 52)
      (Int.ofNat (b.toNat / 2 ^ 52 % 2048) - 1075)) =
    match UnpackedFloat.unpack Format.binary64 b with
    | .notANumber => .nan
    | .infinity s => .infinite (negative s)
    | .zero s => .finite (negative s) 0 (-1074)
    | .finite s m e _ => .finite (negative s) m e := by
  have size : b.toNat < 2 ^ 64 := b.isLt
  have sign : (b.toNat / 2 ^ 63 == 1) = negative (Sign.ofBitVec (unpackSign b)) := by
    rw [negative_ofBitVec, toNat_unpackSign, Nat.mod_eq_of_lt (by omega)]
  have exponent : ((unpackExponent b).toNat : ℤ) = Int.ofNat (b.toNat / 2 ^ 52 % 2048) :=
    congrArg Int.ofNat (toNat_unpackExponent b)
  have top_iff := unpackExponent_eq_top_iff b
  have zero_iff := unpackExponent_eq_zero_iff b
  have none_iff := unpackMantissa_eq_zero_iff b
  rw [sign]
  fun_cases UnpackedFloat.unpack Format.binary64 b with
  | case1 m e v s top zero => rw [if_pos (top_iff.mp top), if_pos (none_iff.mp zero)]
  | case2 m e top some => rw [if_pos (top_iff.mp top), if_neg (none_iff.not.mp some)]
  | case3 m e v s ordinary low zero =>
    rw [if_neg (top_iff.not.mp ordinary), if_pos (zero_iff.mp low), none_iff.mp zero]
  | case4 m e f v s ordinary low some =>
    have lowest : f + 1 = -1074 := by
      have value : f = e.toNat - (1023 + 52) := rfl
      have none : e.toNat = 0 := congrArg BitVec.toNat low
      rw [value, none]
      rfl
    rw [if_neg (top_iff.not.mp ordinary), if_pos (zero_iff.mp low), ← toNat_unpackMantissa]
    simp only [lowest]
    rfl
  | case5 m e f v s ordinary high =>
    have implicit : (1#1 ++ unpackMantissa b).toNat = 2 ^ 52 + b.toNat % 2 ^ 52 := by
      rw [← toNat_unpackMantissa, BitVec.toNat_append,
        ← Nat.shiftLeft_add_eq_or_of_lt (unpackMantissa b).isLt]
      rfl
    have scale : f = Int.ofNat (b.toNat / 2 ^ 52 % 2048) - 1075 := by
      rw [← exponent]
      rfl
    rw [if_neg (top_iff.not.mp ordinary), if_neg (zero_iff.not.mp high), ← implicit, ← scale]

/-- `decode` reads the parts of a double. -/
theorem decode_eq (x : Float) : decode x =
    match parts x with
    | .notANumber => .nan
    | .infinity s => .infinite (negative s)
    | .zero s => .finite (negative s) 0 (-1074)
    | .finite s m e _ => .finite (negative s) m e := by
  have unpacked : parts x = UnpackedFloat.unpack Format.binary64 x.toModel.toBits.toBitVec := rfl
  have bits : x.toBits.toNat = x.toModel.toBits.toBitVec.toNat := rfl
  rw [unpacked, ← reading_eq]
  simp only [decode, bits, Nat.pow_eq, beq_iff_eq]

theorem isFinite_iff_parts : isFinite x ↔ (parts x).isFinite := by
  rw [isFinite, decode_eq]
  cases parts x <;> simp [UnpackedFloat.isFinite]

/-- Zero times infinity is a NaN. Any other product of a double that is at least zero with one
above zero is at least zero. -/
theorem zero_le_mul_iff (hx : 0 ≤ x) (hy : 0 < y) : 0 ≤ x * y ↔ 0 < x ∨ isFinite y := by
  rw [zero_lt_iff_parts, isFinite_iff_parts]
  rw [zero_le_iff_parts] at hx
  rw [zero_lt_iff_parts] at hy
  constructor
  · intro h
    by_contra none
    apply (not_isNaN_of_le h).2
    rw [isNaN_mul_iff]
    generalize parts x = u at *
    generalize parts y = v at *
    obtain (_ | _) | _ | s | ⟨_ | _, m, e, pos⟩ := u <;>
      obtain (_ | _) | _ | t | ⟨_ | _, n, f, pos'⟩ := v
    all_goals simp_all [AtLeastZero, AboveZero, UnpackedFloat.isFinite, UnpackedFloat.mul]
  · intro h
    rw [zero_le_iff_parts, parts_mul]
    refine atLeastZero_pack ?_
    generalize parts x = u at *
    generalize parts y = v at *
    obtain (_ | _) | _ | s | ⟨_ | _, m, e, pos⟩ := u <;>
      obtain (_ | _) | _ | t | ⟨_ | _, n, f, pos'⟩ := v
    case finite.positive.finite.positive => exact atLeastZero_roundWithAccuracy _ _ _
    all_goals simp_all [AtLeastZero, AboveZero, UnpackedFloat.isFinite, UnpackedFloat.mul]

theorem decode_eq_nan_iff : decode x = .nan ↔ x.isNaN := by
  rw [decode_eq, isNaN_iff_parts]
  cases parts x <;> simp

theorem not_isFinite_of_isNaN (h : x.isNaN) : ¬isFinite x := by
  rw [isFinite_iff_parts, isNaN_iff_parts.mp h]
  exact Bool.false_ne_true

theorem zero_lt_of_decode_infinite (h : decode x = .infinite false) : 0 < x := by
  rw [zero_lt_iff_parts]
  rw [decode_eq] at h
  generalize parts x = u at *
  obtain (_ | _) | _ | _ | _ := u <;> simp_all [negative, AboveZero]

theorem zero_lt_of_decode_finite {m : ℕ} {e : ℤ} (h : decode x = .finite false m e) (pos : 0 < m) :
    0 < x := by
  rw [zero_lt_iff_parts]
  rw [decode_eq] at h
  generalize parts x = u at *
  obtain _ | _ | _ | ⟨_ | _, _, _, _⟩ := u <;> simp_all [negative, AboveZero]

/-- A double that is at least a power of two is infinite or has all its bits in front of the last
place of this power. -/
theorem decode_of_le {k : ℤ} (binade : parts x = .finite .positive (2 ^ 52) k (by decide))
    (h : x ≤ y) : decode y = .infinite false ∨
      ∃ m e, decode y = .finite false m e ∧ 2 ^ 52 ≤ m ∧ k ≤ e := by
  have made {m : ℕ} {e : ℤ} (h : decode y = .finite false m e) : Canonical m e :=
    (assemble_of_decode h).1
  have least : decode x = .finite false (2 ^ 52) k := by
    rw [decode_eq, binade]
    rfl
  have lowest := (assemble_of_decode least).1.lowest
  rw [le_iff_compare, binade] at h
  rw [decode_eq] at made ⊢
  generalize parts y = u at *
  obtain (_ | _) | _ | _ | ⟨_ | _, m, e, pos⟩ := u
  all_goals simp [UnpackedFloat.compare] at h
  case infinity.positive => exact .inl rfl
  case finite.positive =>
    have canonical := made rfl
    have above : k < e ∨ k = e ∧ 2 ^ 52 ≤ m := by
      obtain h | ⟨same, eq⟩ := h
      · obtain lt | ⟨same, lt⟩ := Ordering.then_eq_lt.mp h
        · exact .inl (compare_lt_iff_lt.mp lt)
        · exact .inr ⟨compare_eq_iff_eq.mp same, (compare_lt_iff_lt.mp lt).le⟩
      · exact .inr ⟨same, eq.le⟩
    refine .inr ⟨m, e, rfl, ?_⟩
    obtain above | ⟨rfl, full⟩ := above
    · exact ⟨canonical.full.resolve_right (by omega), above.le⟩
    · exact ⟨full, le_refl _⟩

end BrokerClient.Number
